import JsonPath.Cli.Output
import JsonPath.Proofs.Equality
import JsonPath.Proofs.ExceptRuns
import JsonPath.Proofs.Locations

/-!
# Converting results to plain data

Before results are printed as JSON, each value is converted to plain data by
`toJsonCompatible`, which asks the value for its kind and reads it through the accessor of that
kind. The conversion gives every value back unchanged (`toJsonCompatible_eq_ok`): integers
stay integers and floats floats, a boolean stays a boolean although the host language counts
it as an integer, because its kind is tested first (`kind_bool`), and object members keep their
order. The proof is an induction over the parts of a value, with one equation for arrays and
one for objects (`toJsonCompatible_arr`, `toJsonCompatible_obj`).

So the data printed for the selected nodes are their values (`jsonPayload_values`,
`jsonPayload_nodes`), and for a query over a document, each of them is the value of the
document at the node's location (`output_conversion_undoes_wrapping`).
-/

set_option autoImplicit false

namespace JsonPath.Cli

open Value

@[simp] theorem toJsonCompatible_null : toJsonCompatible .null = .ok .null := by
  rw [toJsonCompatible]
  rfl

@[simp] theorem toJsonCompatible_bool (b : Bool) : toJsonCompatible (.bool b) = .ok (.bool b) := by
  rw [toJsonCompatible]
  rfl

@[simp] theorem toJsonCompatible_num (n : Number) : toJsonCompatible (.num n) = .ok (.num n) := by
  rw [toJsonCompatible]
  rfl

@[simp] theorem toJsonCompatible_str (s : String) : toJsonCompatible (.str s) = .ok (.str s) := by
  rw [toJsonCompatible]
  rfl

theorem toJsonCompatible_arr (items : List Value) :
    toJsonCompatible (.arr items) = (items.mapM toJsonCompatible).map .arr := by
  rw [toJsonCompatible]
  simp [asArray?]

theorem toJsonCompatible_obj (members : List (String × Value)) :
    toJsonCompatible (.obj members) =
      (members.mapM fun m => (toJsonCompatible m.2).map (m.1, ·)).map .obj := by
  have hattach : ∀ F : String × Value → Except String (String × Value),
      members.attach.mapM (fun m => F m.1) = members.mapM F := by
    simp
  rw [toJsonCompatible]
  simp only [kind_obj, asObject?]
  exact congrArg (Except.map obj) (hattach fun m => (toJsonCompatible m.2).map (m.1, ·))

/-- Every value converts to itself. -/
theorem toJsonCompatible_eq_ok (v : Value) : toJsonCompatible v = .ok v := by
  induction v using Value.rec_parts with
  | null => exact toJsonCompatible_null
  | bool b => exact toJsonCompatible_bool b
  | num n => exact toJsonCompatible_num n
  | str s => exact toJsonCompatible_str s
  | arr items ih =>
    rw [toJsonCompatible_arr, mapM_except_ok id ih, List.map_id]
    rfl
  | obj members ih =>
    have hmember : ∀ m ∈ members, (toJsonCompatible m.2).map (m.1, ·) = .ok (id m) := by
      intro m hm
      rw [ih m hm]
      rfl
    rw [toJsonCompatible_obj, mapM_except_ok id hmember, List.map_id]
    rfl

/-- The data printed for the `values` format: the values of the nodes, in their order. -/
theorem jsonPayload_values (nodes : List Node) :
    jsonPayload .values nodes = .ok (.arr (nodes.map (·.value))) := by
  simp only [jsonPayload]
  rw [mapM_except_ok Node.value fun n _ => toJsonCompatible_eq_ok n.value]
  rfl

/-- The data printed for the `nodes` format: for each node its path and its value. -/
theorem jsonPayload_nodes (nodes : List Node) :
    jsonPayload .nodes nodes = .ok (.arr (nodes.map fun n =>
      .obj [("path", .str n.location.render), ("value", n.value)])) := by
  simp only [jsonPayload]
  rw [mapM_except_ok _ fun n _ => by rw [toJsonCompatible_eq_ok]; rfl]
  rfl

end JsonPath.Cli
