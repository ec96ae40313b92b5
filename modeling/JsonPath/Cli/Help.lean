import JsonPath.Text.Wrap

/-!
# Help pages

A help page is laid out for a width of 78 columns. It starts with the usage line, then the
help text of the command indented by two spaces, then sections (`Arguments`, `Options`,
`Commands`) of two-column rows: a term, and its description wrapped in the second column.
The second column starts two spaces after the longest term (terms longer than 30 columns
do not widen it; such a term puts its description on the next line).

The same usage line heads the message of a command-line error, with a hint to ask for
help.
-/

set_option autoImplicit false

namespace JsonPath.Cli

/-- The width help pages are laid out for. -/
def helpWidth : Nat := 78

/-- A section of a help page: a title and rows of a term and its description. -/
structure HelpSection where
  title : String
  rows : List (String × String)

/-- A help page: the program and command path, the usage of its arguments, its help text
and its sections. -/
structure HelpPage where
  path : String
  usage : String
  text : String
  sections : List HelpSection

/-- A number of spaces. -/
def spaces (n : Nat) : String := String.ofList (List.replicate n ' ')

/-- The usage line: `Usage: ` and the command path, with the usage of its arguments wrapped
after it. -/
def usageLine (path usage : String) : String :=
  let prefixText := "Usage: " ++ path ++ " "
  "\n".intercalate (Text.wrapLines helpWidth prefixText (spaces prefixText.length)
    (Text.expandTabs usage))

/-- The rows of a section laid out in two columns, each line indented by two spaces. -/
def definitionList (rows : List (String × String)) : String :=
  let firstCol := min ((rows.map (·.1.length)).foldl max 0) 30 + 2
  let textWidth := max (helpWidth - firstCol - 2) 10
  String.join (rows.map fun (term, desc) =>
    let head := "  " ++ term
    if desc.isEmpty then head ++ "\n"
    else
      let lead := if term.length ≤ firstCol - 2 then head ++ spaces (firstCol - term.length)
        else head ++ "\n" ++ spaces (firstCol + 2)
      match Text.splitLines (Text.fillParagraphs textWidth "" "" desc) with
      | [] => lead ++ "\n"
      | first :: more =>
        lead ++ first ++ "\n" ++ String.join (more.map fun l => spaces (firstCol + 2) ++ l ++ "\n"))

/-- The text of a help page, without a final line feed. -/
def HelpPage.render (p : HelpPage) : String :=
  let body := usageLine p.path p.usage ++ "\n" ++
    (if p.text.isEmpty then "" else "\n" ++ Text.fillParagraphs helpWidth "  " "  " p.text ++ "\n") ++
    String.join (p.sections.filterMap fun s =>
      if s.rows.isEmpty then none
      else some ("\n" ++ s.title ++ ":\n" ++ definitionList s.rows))
  String.ofList ((body.toList.reverse.dropWhile (· = '\n')).reverse)

/-- The message of a command-line error: the usage line, a hint to ask for help, and the
error itself. -/
def usageError (path usage message : String) : String :=
  usageLine path usage ++ "\n" ++ "Try '" ++ path ++ " --help' for help.\n\n" ++
    "Error: " ++ message ++ "\n"

end JsonPath.Cli
