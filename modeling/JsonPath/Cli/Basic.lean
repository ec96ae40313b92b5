import JsonPath.Function.Builtin

/-!
# Command failures and the registry of a command

A command refuses to run with one of two kinds of failure: a parameter with a value it
cannot use, whose message is shown after `Invalid value: `, or a misuse of the command,
whose message is shown as it is. A pattern that cannot be compiled for a reason other than
being invalid stops the command with an error it does not handle.

The functions available to a query are the built-ins less the ones the command line
disables. Disabling a name that is not a built-in is a bad parameter, so that a typing
mistake is not silently ignored.
-/

set_option autoImplicit false

namespace JsonPath.Cli

/-- Why a command refused to run. -/
inductive Failure where
  /-- A parameter whose value the command cannot use. -/
  | badParameter (text : String)
  /-- A misuse of the command. -/
  | usage (text : String)
  /-- An error the command does not handle, of a kind. -/
  | fault (kind text : String)
deriving DecidableEq, Repr

namespace Failure

/-- The message shown for a failure. -/
def message : Failure → String
  | .badParameter text => "Invalid value: " ++ text
  | .usage text => text
  | .fault _ text => text

end Failure

/-- The names of a list, sorted by code points. -/
def sortNames (names : List String) : List String := names.mergeSort fun a b => decide (a ≤ b)

/-- The names of a list, sorted, each once. -/
def sortedDistinct (names : List String) : List String := (sortNames names).eraseDups

/-- The built-in registry less the disabled functions. Every disabled name must be a
built-in; when some are not, the failure lists them sorted (each as often as it was
given) with the names that are available. -/
def disabledRegistry (disabled : List String) : Except Failure Registry :=
  if disabled.isEmpty then .ok Registry.builtin
  else
    let unknown := sortNames (disabled.filter fun n => !Registry.builtin.contains n)
    if unknown.isEmpty then .ok (Registry.builtin.without disabled)
    else
      .error (.badParameter ("Unknown function(s): " ++ ", ".intercalate unknown ++
        ". Available functions: " ++ ", ".intercalate Registry.builtin.names))

/-- The log line that names the disabled functions, when there are any. -/
def disabledLog (disabled : List String) : List String :=
  if disabled.isEmpty then []
  else ["Disabled functions: " ++ ", ".intercalate (sortedDistinct disabled)]

end JsonPath.Cli
