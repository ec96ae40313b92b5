import JsonPath.Text.Printable

/-!
# Quoted text

The quoted form of a text is how messages show a name, a token or a character: the text
between single quotes, or between double quotes when it holds a single quote and no double
quote. Inside, the delimiter and the backslash take a backslash, tab, newline and carriage
return are written `\t`, `\n`, `\r`, and every other character that is not printable is
written as a hexadecimal escape of two, four or eight digits (`\x7f`, `\u2028`,
`\U000e0001`). Printable characters stand as themselves.
-/

set_option autoImplicit false

namespace JsonPath.Text

/-- The lower-case hexadecimal digits of `n`, padded on the left with zeros to `width`. -/
def hexPadded (width n : Nat) : String :=
  let digits := Nat.toDigits 16 n
  String.ofList (List.replicate (width - digits.length) '0' ++ digits)

/-- The delimiter of the quoted form: a double quote exactly when the text holds a single
quote and no double quote. -/
def quoteDelimiter (s : String) : Char :=
  if s.contains '\'' && !s.contains '"' then '"' else '\''

/-- How one character is written inside a quoted form delimited by `delim`. -/
def quoteChar (delim c : Char) : String :=
  if c = delim ∨ c = '\\' then "\\" ++ c.toString
  else if c = '\t' then "\\t"
  else if c = '\n' then "\\n"
  else if c = '\r' then "\\r"
  else if c.toNat < 0x20 ∨ c.toNat = 0x7f then "\\x" ++ hexPadded 2 c.toNat
  else if c.toNat < 0x7f ∨ isPrintable c then c.toString
  else if c.toNat < 0x100 then "\\x" ++ hexPadded 2 c.toNat
  else if c.toNat < 0x10000 then "\\u" ++ hexPadded 4 c.toNat
  else "\\U" ++ hexPadded 8 c.toNat

/-- The quoted form of a text. -/
def quote (s : String) : String :=
  let delim := quoteDelimiter s
  delim.toString ++ String.join (s.toList.map (quoteChar delim)) ++ delim.toString

end JsonPath.Text
