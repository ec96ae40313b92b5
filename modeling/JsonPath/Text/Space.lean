import JsonPath.Text.RangeTable

/-!
# White space

A character is white space when it is a separator of Unicode category Zs, Zl or Zp, or
one of the controls tab, line feed, vertical tab, form feed, carriage return, the
information separators U+001C to U+001F and next line U+0085 (Unicode 14.0).
-/

set_option autoImplicit false

namespace JsonPath.Text

/-- The maximal ranges of white space code points. -/
def spaceRanges : Array (Nat × Nat) := #[
  (0x9, 0xD), (0x1C, 0x20), (0x85, 0x85), (0xA0, 0xA0), (0x1680, 0x1680), (0x2000, 0x200A),
  (0x2028, 0x2029), (0x202F, 0x202F), (0x205F, 0x205F), (0x3000, 0x3000)]

/-- Whether a character is white space. -/
def isSpace (c : Char) : Bool := inRanges spaceRanges c.toNat

end JsonPath.Text
