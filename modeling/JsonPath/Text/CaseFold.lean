/-!
# Case folding of single characters

`toLower` and `toUpper` map a character to one character of its lower- or upper-case form
(Unicode 14.0): the simple mapping, or the first character where the form is longer (`ß`
goes up to `S`). Both mappings are given as runs: code points from `first` to `last` in
strides of `stride` move by `shift`. A character is cased when either mapping moves it.

Two characters are equal up to case when their lower-case forms are equal, or when the
lower-case forms are one of the few pairs of different lower-case letters that share an
upper-case form (`i` and dotless `ı`, `s` and long `ſ`, Greek letters and their symbol
variants, ...), listed in `foldEquivalents`.
-/

set_option autoImplicit false

namespace JsonPath.Text

/-- A run of the lower-case mapping. -/
structure CaseRun where
  first : Nat
  last : Nat
  shift : Int
  stride : Nat

/-- The runs of code points whose lower-case form differs from them. -/
def lowerRuns : List CaseRun := [
  ⟨0x41, 0x5A, 32, 1⟩, ⟨0xC0, 0xD6, 32, 1⟩, ⟨0xD8, 0xDE, 32, 1⟩, ⟨0x100, 0x12E, 1, 2⟩,
  ⟨0x130, 0x130, (-199), 1⟩, ⟨0x132, 0x136, 1, 2⟩, ⟨0x139, 0x147, 1, 2⟩,
  ⟨0x14A, 0x176, 1, 2⟩, ⟨0x178, 0x178, (-121), 1⟩, ⟨0x179, 0x17D, 1, 2⟩,
  ⟨0x181, 0x181, 210, 1⟩, ⟨0x182, 0x184, 1, 2⟩, ⟨0x186, 0x186, 206, 1⟩,
  ⟨0x187, 0x187, 1, 1⟩, ⟨0x189, 0x18A, 205, 1⟩, ⟨0x18B, 0x18B, 1, 1⟩,
  ⟨0x18E, 0x18E, 79, 1⟩, ⟨0x18F, 0x18F, 202, 1⟩, ⟨0x190, 0x190, 203, 1⟩,
  ⟨0x191, 0x191, 1, 1⟩, ⟨0x193, 0x193, 205, 1⟩, ⟨0x194, 0x194, 207, 1⟩,
  ⟨0x196, 0x196, 211, 1⟩, ⟨0x197, 0x197, 209, 1⟩, ⟨0x198, 0x198, 1, 1⟩,
  ⟨0x19C, 0x19C, 211, 1⟩, ⟨0x19D, 0x19D, 213, 1⟩, ⟨0x19F, 0x19F, 214, 1⟩,
  ⟨0x1A0, 0x1A4, 1, 2⟩, ⟨0x1A6, 0x1A6, 218, 1⟩, ⟨0x1A7, 0x1A7, 1, 1⟩,
  ⟨0x1A9, 0x1A9, 218, 1⟩, ⟨0x1AC, 0x1AC, 1, 1⟩, ⟨0x1AE, 0x1AE, 218, 1⟩,
  ⟨0x1AF, 0x1AF, 1, 1⟩, ⟨0x1B1, 0x1B2, 217, 1⟩, ⟨0x1B3, 0x1B5, 1, 2⟩,
  ⟨0x1B7, 0x1B7, 219, 1⟩, ⟨0x1B8, 0x1B8, 1, 1⟩, ⟨0x1BC, 0x1BC, 1, 1⟩, ⟨0x1C4, 0x1C4, 2, 1⟩,
  ⟨0x1C5, 0x1C5, 1, 1⟩, ⟨0x1C7, 0x1C7, 2, 1⟩, ⟨0x1C8, 0x1C8, 1, 1⟩, ⟨0x1CA, 0x1CA, 2, 1⟩,
  ⟨0x1CB, 0x1DB, 1, 2⟩, ⟨0x1DE, 0x1EE, 1, 2⟩, ⟨0x1F1, 0x1F1, 2, 1⟩, ⟨0x1F2, 0x1F4, 1, 2⟩,
  ⟨0x1F6, 0x1F6, (-97), 1⟩, ⟨0x1F7, 0x1F7, (-56), 1⟩, ⟨0x1F8, 0x21E, 1, 2⟩,
  ⟨0x220, 0x220, (-130), 1⟩, ⟨0x222, 0x232, 1, 2⟩, ⟨0x23A, 0x23A, 10795, 1⟩,
  ⟨0x23B, 0x23B, 1, 1⟩, ⟨0x23D, 0x23D, (-163), 1⟩, ⟨0x23E, 0x23E, 10792, 1⟩,
  ⟨0x241, 0x241, 1, 1⟩, ⟨0x243, 0x243, (-195), 1⟩, ⟨0x244, 0x244, 69, 1⟩,
  ⟨0x245, 0x245, 71, 1⟩, ⟨0x246, 0x24E, 1, 2⟩, ⟨0x370, 0x372, 1, 2⟩, ⟨0x376, 0x376, 1, 1⟩,
  ⟨0x37F, 0x37F, 116, 1⟩, ⟨0x386, 0x386, 38, 1⟩, ⟨0x388, 0x38A, 37, 1⟩,
  ⟨0x38C, 0x38C, 64, 1⟩, ⟨0x38E, 0x38F, 63, 1⟩, ⟨0x391, 0x3A1, 32, 1⟩,
  ⟨0x3A3, 0x3AB, 32, 1⟩, ⟨0x3CF, 0x3CF, 8, 1⟩, ⟨0x3D8, 0x3EE, 1, 2⟩,
  ⟨0x3F4, 0x3F4, (-60), 1⟩, ⟨0x3F7, 0x3F7, 1, 1⟩, ⟨0x3F9, 0x3F9, (-7), 1⟩,
  ⟨0x3FA, 0x3FA, 1, 1⟩, ⟨0x3FD, 0x3FF, (-130), 1⟩, ⟨0x400, 0x40F, 80, 1⟩,
  ⟨0x410, 0x42F, 32, 1⟩, ⟨0x460, 0x480, 1, 2⟩, ⟨0x48A, 0x4BE, 1, 2⟩, ⟨0x4C0, 0x4C0, 15, 1⟩,
  ⟨0x4C1, 0x4CD, 1, 2⟩, ⟨0x4D0, 0x52E, 1, 2⟩, ⟨0x531, 0x556, 48, 1⟩,
  ⟨0x10A0, 0x10C5, 7264, 1⟩, ⟨0x10C7, 0x10C7, 7264, 1⟩, ⟨0x10CD, 0x10CD, 7264, 1⟩,
  ⟨0x13A0, 0x13EF, 38864, 1⟩, ⟨0x13F0, 0x13F5, 8, 1⟩, ⟨0x1C90, 0x1CBA, (-3008), 1⟩,
  ⟨0x1CBD, 0x1CBF, (-3008), 1⟩, ⟨0x1E00, 0x1E94, 1, 2⟩, ⟨0x1E9E, 0x1E9E, (-7615), 1⟩,
  ⟨0x1EA0, 0x1EFE, 1, 2⟩, ⟨0x1F08, 0x1F0F, (-8), 1⟩, ⟨0x1F18, 0x1F1D, (-8), 1⟩,
  ⟨0x1F28, 0x1F2F, (-8), 1⟩, ⟨0x1F38, 0x1F3F, (-8), 1⟩, ⟨0x1F48, 0x1F4D, (-8), 1⟩,
  ⟨0x1F59, 0x1F5F, (-8), 2⟩, ⟨0x1F68, 0x1F6F, (-8), 1⟩, ⟨0x1F88, 0x1F8F, (-8), 1⟩,
  ⟨0x1F98, 0x1F9F, (-8), 1⟩, ⟨0x1FA8, 0x1FAF, (-8), 1⟩, ⟨0x1FB8, 0x1FB9, (-8), 1⟩,
  ⟨0x1FBA, 0x1FBB, (-74), 1⟩, ⟨0x1FBC, 0x1FBC, (-9), 1⟩, ⟨0x1FC8, 0x1FCB, (-86), 1⟩,
  ⟨0x1FCC, 0x1FCC, (-9), 1⟩, ⟨0x1FD8, 0x1FD9, (-8), 1⟩, ⟨0x1FDA, 0x1FDB, (-100), 1⟩,
  ⟨0x1FE8, 0x1FE9, (-8), 1⟩, ⟨0x1FEA, 0x1FEB, (-112), 1⟩, ⟨0x1FEC, 0x1FEC, (-7), 1⟩,
  ⟨0x1FF8, 0x1FF9, (-128), 1⟩, ⟨0x1FFA, 0x1FFB, (-126), 1⟩, ⟨0x1FFC, 0x1FFC, (-9), 1⟩,
  ⟨0x2126, 0x2126, (-7517), 1⟩, ⟨0x212A, 0x212A, (-8383), 1⟩, ⟨0x212B, 0x212B, (-8262), 1⟩,
  ⟨0x2132, 0x2132, 28, 1⟩, ⟨0x2160, 0x216F, 16, 1⟩, ⟨0x2183, 0x2183, 1, 1⟩,
  ⟨0x24B6, 0x24CF, 26, 1⟩, ⟨0x2C00, 0x2C2F, 48, 1⟩, ⟨0x2C60, 0x2C60, 1, 1⟩,
  ⟨0x2C62, 0x2C62, (-10743), 1⟩, ⟨0x2C63, 0x2C63, (-3814), 1⟩,
  ⟨0x2C64, 0x2C64, (-10727), 1⟩, ⟨0x2C67, 0x2C6B, 1, 2⟩, ⟨0x2C6D, 0x2C6D, (-10780), 1⟩,
  ⟨0x2C6E, 0x2C6E, (-10749), 1⟩, ⟨0x2C6F, 0x2C6F, (-10783), 1⟩,
  ⟨0x2C70, 0x2C70, (-10782), 1⟩, ⟨0x2C72, 0x2C72, 1, 1⟩, ⟨0x2C75, 0x2C75, 1, 1⟩,
  ⟨0x2C7E, 0x2C7F, (-10815), 1⟩, ⟨0x2C80, 0x2CE2, 1, 2⟩, ⟨0x2CEB, 0x2CED, 1, 2⟩,
  ⟨0x2CF2, 0x2CF2, 1, 1⟩, ⟨0xA640, 0xA66C, 1, 2⟩, ⟨0xA680, 0xA69A, 1, 2⟩,
  ⟨0xA722, 0xA72E, 1, 2⟩, ⟨0xA732, 0xA76E, 1, 2⟩, ⟨0xA779, 0xA77B, 1, 2⟩,
  ⟨0xA77D, 0xA77D, (-35332), 1⟩, ⟨0xA77E, 0xA786, 1, 2⟩, ⟨0xA78B, 0xA78B, 1, 1⟩,
  ⟨0xA78D, 0xA78D, (-42280), 1⟩, ⟨0xA790, 0xA792, 1, 2⟩, ⟨0xA796, 0xA7A8, 1, 2⟩,
  ⟨0xA7AA, 0xA7AA, (-42308), 1⟩, ⟨0xA7AB, 0xA7AB, (-42319), 1⟩,
  ⟨0xA7AC, 0xA7AC, (-42315), 1⟩, ⟨0xA7AD, 0xA7AD, (-42305), 1⟩,
  ⟨0xA7AE, 0xA7AE, (-42308), 1⟩, ⟨0xA7B0, 0xA7B0, (-42258), 1⟩,
  ⟨0xA7B1, 0xA7B1, (-42282), 1⟩, ⟨0xA7B2, 0xA7B2, (-42261), 1⟩, ⟨0xA7B3, 0xA7B3, 928, 1⟩,
  ⟨0xA7B4, 0xA7C2, 1, 2⟩, ⟨0xA7C4, 0xA7C4, (-48), 1⟩, ⟨0xA7C5, 0xA7C5, (-42307), 1⟩,
  ⟨0xA7C6, 0xA7C6, (-35384), 1⟩, ⟨0xA7C7, 0xA7C9, 1, 2⟩, ⟨0xA7D0, 0xA7D0, 1, 1⟩,
  ⟨0xA7D6, 0xA7D8, 1, 2⟩, ⟨0xA7F5, 0xA7F5, 1, 1⟩, ⟨0xFF21, 0xFF3A, 32, 1⟩,
  ⟨0x10400, 0x10427, 40, 1⟩, ⟨0x104B0, 0x104D3, 40, 1⟩, ⟨0x10570, 0x1057A, 39, 1⟩,
  ⟨0x1057C, 0x1058A, 39, 1⟩, ⟨0x1058C, 0x10592, 39, 1⟩, ⟨0x10594, 0x10595, 39, 1⟩,
  ⟨0x10C80, 0x10CB2, 64, 1⟩, ⟨0x118A0, 0x118BF, 32, 1⟩, ⟨0x16E40, 0x16E5F, 32, 1⟩,
  ⟨0x1E900, 0x1E921, 34, 1⟩]

/-- Whether a run moves a code point. -/
def CaseRun.holds (r : CaseRun) (n : Nat) : Bool :=
  r.first ≤ n && n ≤ r.last && (n - r.first) % r.stride == 0

/-- Whether a run of a case mapping moves some code point between `lo` and `hi`. -/
def CaseRun.meets (r : CaseRun) (lo hi : Nat) : Bool :=
  let a := max lo r.first
  let b := min hi r.last
  let stride := max r.stride 1
  a ≤ b && r.first + (a - r.first + stride - 1) / stride * stride ≤ b

/-- The runs of code points whose upper-case form differs from them. -/
def upperRuns : List CaseRun := [
  ⟨0x61, 0x7A, (-32), 1⟩, ⟨0xB5, 0xB5, 743, 1⟩, ⟨0xDF, 0xDF, (-140), 1⟩,
  ⟨0xE0, 0xF6, (-32), 1⟩, ⟨0xF8, 0xFE, (-32), 1⟩, ⟨0xFF, 0xFF, 121, 1⟩,
  ⟨0x101, 0x12F, (-1), 2⟩, ⟨0x131, 0x131, (-232), 1⟩, ⟨0x133, 0x137, (-1), 2⟩,
  ⟨0x13A, 0x148, (-1), 2⟩, ⟨0x149, 0x149, 371, 1⟩, ⟨0x14B, 0x177, (-1), 2⟩,
  ⟨0x17A, 0x17E, (-1), 2⟩, ⟨0x17F, 0x17F, (-300), 1⟩, ⟨0x180, 0x180, 195, 1⟩,
  ⟨0x183, 0x185, (-1), 2⟩, ⟨0x188, 0x188, (-1), 1⟩, ⟨0x18C, 0x18C, (-1), 1⟩,
  ⟨0x192, 0x192, (-1), 1⟩, ⟨0x195, 0x195, 97, 1⟩, ⟨0x199, 0x199, (-1), 1⟩,
  ⟨0x19A, 0x19A, 163, 1⟩, ⟨0x19E, 0x19E, 130, 1⟩, ⟨0x1A1, 0x1A5, (-1), 2⟩,
  ⟨0x1A8, 0x1A8, (-1), 1⟩, ⟨0x1AD, 0x1AD, (-1), 1⟩, ⟨0x1B0, 0x1B0, (-1), 1⟩,
  ⟨0x1B4, 0x1B6, (-1), 2⟩, ⟨0x1B9, 0x1B9, (-1), 1⟩, ⟨0x1BD, 0x1BD, (-1), 1⟩,
  ⟨0x1BF, 0x1BF, 56, 1⟩, ⟨0x1C5, 0x1C5, (-1), 1⟩, ⟨0x1C6, 0x1C6, (-2), 1⟩,
  ⟨0x1C8, 0x1C8, (-1), 1⟩, ⟨0x1C9, 0x1C9, (-2), 1⟩, ⟨0x1CB, 0x1CB, (-1), 1⟩,
  ⟨0x1CC, 0x1CC, (-2), 1⟩, ⟨0x1CE, 0x1DC, (-1), 2⟩, ⟨0x1DD, 0x1DD, (-79), 1⟩,
  ⟨0x1DF, 0x1EF, (-1), 2⟩, ⟨0x1F0, 0x1F0, (-422), 1⟩, ⟨0x1F2, 0x1F2, (-1), 1⟩,
  ⟨0x1F3, 0x1F3, (-2), 1⟩, ⟨0x1F5, 0x1F5, (-1), 1⟩, ⟨0x1F9, 0x21F, (-1), 2⟩,
  ⟨0x223, 0x233, (-1), 2⟩, ⟨0x23C, 0x23C, (-1), 1⟩, ⟨0x23F, 0x240, 10815, 1⟩,
  ⟨0x242, 0x242, (-1), 1⟩, ⟨0x247, 0x24F, (-1), 2⟩, ⟨0x250, 0x250, 10783, 1⟩,
  ⟨0x251, 0x251, 10780, 1⟩, ⟨0x252, 0x252, 10782, 1⟩, ⟨0x253, 0x253, (-210), 1⟩,
  ⟨0x254, 0x254, (-206), 1⟩, ⟨0x256, 0x257, (-205), 1⟩, ⟨0x259, 0x259, (-202), 1⟩,
  ⟨0x25B, 0x25B, (-203), 1⟩, ⟨0x25C, 0x25C, 42319, 1⟩, ⟨0x260, 0x260, (-205), 1⟩,
  ⟨0x261, 0x261, 42315, 1⟩, ⟨0x263, 0x263, (-207), 1⟩, ⟨0x265, 0x265, 42280, 1⟩,
  ⟨0x266, 0x266, 42308, 1⟩, ⟨0x268, 0x268, (-209), 1⟩, ⟨0x269, 0x269, (-211), 1⟩,
  ⟨0x26A, 0x26A, 42308, 1⟩, ⟨0x26B, 0x26B, 10743, 1⟩, ⟨0x26C, 0x26C, 42305, 1⟩,
  ⟨0x26F, 0x26F, (-211), 1⟩, ⟨0x271, 0x271, 10749, 1⟩, ⟨0x272, 0x272, (-213), 1⟩,
  ⟨0x275, 0x275, (-214), 1⟩, ⟨0x27D, 0x27D, 10727, 1⟩, ⟨0x280, 0x280, (-218), 1⟩,
  ⟨0x282, 0x282, 42307, 1⟩, ⟨0x283, 0x283, (-218), 1⟩, ⟨0x287, 0x287, 42282, 1⟩,
  ⟨0x288, 0x288, (-218), 1⟩, ⟨0x289, 0x289, (-69), 1⟩, ⟨0x28A, 0x28B, (-217), 1⟩,
  ⟨0x28C, 0x28C, (-71), 1⟩, ⟨0x292, 0x292, (-219), 1⟩, ⟨0x29D, 0x29D, 42261, 1⟩,
  ⟨0x29E, 0x29E, 42258, 1⟩, ⟨0x345, 0x345, 84, 1⟩, ⟨0x371, 0x373, (-1), 2⟩,
  ⟨0x377, 0x377, (-1), 1⟩, ⟨0x37B, 0x37D, 130, 1⟩, ⟨0x390, 0x390, 9, 1⟩,
  ⟨0x3AC, 0x3AC, (-38), 1⟩, ⟨0x3AD, 0x3AF, (-37), 1⟩, ⟨0x3B0, 0x3B0, (-11), 1⟩,
  ⟨0x3B1, 0x3C1, (-32), 1⟩, ⟨0x3C2, 0x3C2, (-31), 1⟩, ⟨0x3C3, 0x3CB, (-32), 1⟩,
  ⟨0x3CC, 0x3CC, (-64), 1⟩, ⟨0x3CD, 0x3CE, (-63), 1⟩, ⟨0x3D0, 0x3D0, (-62), 1⟩,
  ⟨0x3D1, 0x3D1, (-57), 1⟩, ⟨0x3D5, 0x3D5, (-47), 1⟩, ⟨0x3D6, 0x3D6, (-54), 1⟩,
  ⟨0x3D7, 0x3D7, (-8), 1⟩, ⟨0x3D9, 0x3EF, (-1), 2⟩, ⟨0x3F0, 0x3F0, (-86), 1⟩,
  ⟨0x3F1, 0x3F1, (-80), 1⟩, ⟨0x3F2, 0x3F2, 7, 1⟩, ⟨0x3F3, 0x3F3, (-116), 1⟩,
  ⟨0x3F5, 0x3F5, (-96), 1⟩, ⟨0x3F8, 0x3F8, (-1), 1⟩, ⟨0x3FB, 0x3FB, (-1), 1⟩,
  ⟨0x430, 0x44F, (-32), 1⟩, ⟨0x450, 0x45F, (-80), 1⟩, ⟨0x461, 0x481, (-1), 2⟩,
  ⟨0x48B, 0x4BF, (-1), 2⟩, ⟨0x4C2, 0x4CE, (-1), 2⟩, ⟨0x4CF, 0x4CF, (-15), 1⟩,
  ⟨0x4D1, 0x52F, (-1), 2⟩, ⟨0x561, 0x586, (-48), 1⟩, ⟨0x587, 0x587, (-82), 1⟩,
  ⟨0x10D0, 0x10FA, 3008, 1⟩, ⟨0x10FD, 0x10FF, 3008, 1⟩, ⟨0x13F8, 0x13FD, (-8), 1⟩,
  ⟨0x1C80, 0x1C80, (-6254), 1⟩, ⟨0x1C81, 0x1C81, (-6253), 1⟩, ⟨0x1C82, 0x1C82, (-6244), 1⟩,
  ⟨0x1C83, 0x1C84, (-6242), 1⟩, ⟨0x1C85, 0x1C85, (-6243), 1⟩, ⟨0x1C86, 0x1C86, (-6236), 1⟩,
  ⟨0x1C87, 0x1C87, (-6181), 1⟩, ⟨0x1C88, 0x1C88, 35266, 1⟩, ⟨0x1D79, 0x1D79, 35332, 1⟩,
  ⟨0x1D7D, 0x1D7D, 3814, 1⟩, ⟨0x1D8E, 0x1D8E, 35384, 1⟩, ⟨0x1E01, 0x1E95, (-1), 2⟩,
  ⟨0x1E96, 0x1E96, (-7758), 1⟩, ⟨0x1E97, 0x1E97, (-7747), 1⟩, ⟨0x1E98, 0x1E98, (-7745), 1⟩,
  ⟨0x1E99, 0x1E99, (-7744), 1⟩, ⟨0x1E9A, 0x1E9A, (-7769), 1⟩, ⟨0x1E9B, 0x1E9B, (-59), 1⟩,
  ⟨0x1EA1, 0x1EFF, (-1), 2⟩, ⟨0x1F00, 0x1F07, 8, 1⟩, ⟨0x1F10, 0x1F15, 8, 1⟩,
  ⟨0x1F20, 0x1F27, 8, 1⟩, ⟨0x1F30, 0x1F37, 8, 1⟩, ⟨0x1F40, 0x1F45, 8, 1⟩,
  ⟨0x1F50, 0x1F50, (-7083), 1⟩, ⟨0x1F51, 0x1F51, 8, 1⟩, ⟨0x1F52, 0x1F52, (-7085), 1⟩,
  ⟨0x1F53, 0x1F53, 8, 1⟩, ⟨0x1F54, 0x1F54, (-7087), 1⟩, ⟨0x1F55, 0x1F55, 8, 1⟩,
  ⟨0x1F56, 0x1F56, (-7089), 1⟩, ⟨0x1F57, 0x1F57, 8, 1⟩, ⟨0x1F60, 0x1F67, 8, 1⟩,
  ⟨0x1F70, 0x1F71, 74, 1⟩, ⟨0x1F72, 0x1F75, 86, 1⟩, ⟨0x1F76, 0x1F77, 100, 1⟩,
  ⟨0x1F78, 0x1F79, 128, 1⟩, ⟨0x1F7A, 0x1F7B, 112, 1⟩, ⟨0x1F7C, 0x1F7D, 126, 1⟩,
  ⟨0x1F80, 0x1F87, (-120), 1⟩, ⟨0x1F88, 0x1F8F, (-128), 1⟩, ⟨0x1F90, 0x1F97, (-104), 1⟩,
  ⟨0x1F98, 0x1F9F, (-112), 1⟩, ⟨0x1FA0, 0x1FA7, (-56), 1⟩, ⟨0x1FA8, 0x1FAF, (-64), 1⟩,
  ⟨0x1FB0, 0x1FB2, 8, 1⟩, ⟨0x1FB3, 0x1FB3, (-7202), 1⟩, ⟨0x1FB4, 0x1FB4, (-7214), 1⟩,
  ⟨0x1FB6, 0x1FB6, (-7205), 1⟩, ⟨0x1FB7, 0x1FB7, (-7206), 1⟩, ⟨0x1FBC, 0x1FBC, (-7211), 1⟩,
  ⟨0x1FBE, 0x1FBE, (-7205), 1⟩, ⟨0x1FC2, 0x1FC2, 8, 1⟩, ⟨0x1FC3, 0x1FC3, (-7212), 1⟩,
  ⟨0x1FC4, 0x1FC4, (-7227), 1⟩, ⟨0x1FC6, 0x1FC6, (-7215), 1⟩, ⟨0x1FC7, 0x1FC7, (-7216), 1⟩,
  ⟨0x1FCC, 0x1FCC, (-7221), 1⟩, ⟨0x1FD0, 0x1FD1, 8, 1⟩, ⟨0x1FD2, 0x1FD2, (-7225), 1⟩,
  ⟨0x1FD3, 0x1FD3, (-7226), 1⟩, ⟨0x1FD6, 0x1FD6, (-7229), 1⟩, ⟨0x1FD7, 0x1FD7, (-7230), 1⟩,
  ⟨0x1FE0, 0x1FE1, 8, 1⟩, ⟨0x1FE2, 0x1FE2, (-7229), 1⟩, ⟨0x1FE3, 0x1FE3, (-7230), 1⟩,
  ⟨0x1FE4, 0x1FE4, (-7235), 1⟩, ⟨0x1FE5, 0x1FE5, 7, 1⟩, ⟨0x1FE6, 0x1FE6, (-7233), 1⟩,
  ⟨0x1FE7, 0x1FE7, (-7234), 1⟩, ⟨0x1FF2, 0x1FF2, 8, 1⟩, ⟨0x1FF3, 0x1FF3, (-7242), 1⟩,
  ⟨0x1FF4, 0x1FF4, (-7269), 1⟩, ⟨0x1FF6, 0x1FF6, (-7245), 1⟩, ⟨0x1FF7, 0x1FF7, (-7246), 1⟩,
  ⟨0x1FFC, 0x1FFC, (-7251), 1⟩, ⟨0x214E, 0x214E, (-28), 1⟩, ⟨0x2170, 0x217F, (-16), 1⟩,
  ⟨0x2184, 0x2184, (-1), 1⟩, ⟨0x24D0, 0x24E9, (-26), 1⟩, ⟨0x2C30, 0x2C5F, (-48), 1⟩,
  ⟨0x2C61, 0x2C61, (-1), 1⟩, ⟨0x2C65, 0x2C65, (-10795), 1⟩, ⟨0x2C66, 0x2C66, (-10792), 1⟩,
  ⟨0x2C68, 0x2C6C, (-1), 2⟩, ⟨0x2C73, 0x2C73, (-1), 1⟩, ⟨0x2C76, 0x2C76, (-1), 1⟩,
  ⟨0x2C81, 0x2CE3, (-1), 2⟩, ⟨0x2CEC, 0x2CEE, (-1), 2⟩, ⟨0x2CF3, 0x2CF3, (-1), 1⟩,
  ⟨0x2D00, 0x2D25, (-7264), 1⟩, ⟨0x2D27, 0x2D27, (-7264), 1⟩, ⟨0x2D2D, 0x2D2D, (-7264), 1⟩,
  ⟨0xA641, 0xA66D, (-1), 2⟩, ⟨0xA681, 0xA69B, (-1), 2⟩, ⟨0xA723, 0xA72F, (-1), 2⟩,
  ⟨0xA733, 0xA76F, (-1), 2⟩, ⟨0xA77A, 0xA77C, (-1), 2⟩, ⟨0xA77F, 0xA787, (-1), 2⟩,
  ⟨0xA78C, 0xA78C, (-1), 1⟩, ⟨0xA791, 0xA793, (-1), 2⟩, ⟨0xA794, 0xA794, 48, 1⟩,
  ⟨0xA797, 0xA7A9, (-1), 2⟩, ⟨0xA7B5, 0xA7C3, (-1), 2⟩, ⟨0xA7C8, 0xA7CA, (-1), 2⟩,
  ⟨0xA7D1, 0xA7D1, (-1), 1⟩, ⟨0xA7D7, 0xA7D9, (-1), 2⟩, ⟨0xA7F6, 0xA7F6, (-1), 1⟩,
  ⟨0xAB53, 0xAB53, (-928), 1⟩, ⟨0xAB70, 0xABBF, (-38864), 1⟩,
  ⟨0xFB00, 0xFB00, (-64186), 1⟩, ⟨0xFB01, 0xFB01, (-64187), 1⟩,
  ⟨0xFB02, 0xFB02, (-64188), 1⟩, ⟨0xFB03, 0xFB03, (-64189), 1⟩,
  ⟨0xFB04, 0xFB04, (-64190), 1⟩, ⟨0xFB05, 0xFB05, (-64178), 1⟩,
  ⟨0xFB06, 0xFB06, (-64179), 1⟩, ⟨0xFB13, 0xFB13, (-62927), 1⟩,
  ⟨0xFB14, 0xFB14, (-62928), 1⟩, ⟨0xFB15, 0xFB15, (-62929), 1⟩,
  ⟨0xFB16, 0xFB16, (-62920), 1⟩, ⟨0xFB17, 0xFB17, (-62931), 1⟩, ⟨0xFF41, 0xFF5A, (-32), 1⟩,
  ⟨0x10428, 0x1044F, (-40), 1⟩, ⟨0x104D8, 0x104FB, (-40), 1⟩, ⟨0x10597, 0x105A1, (-39), 1⟩,
  ⟨0x105A3, 0x105B1, (-39), 1⟩, ⟨0x105B3, 0x105B9, (-39), 1⟩, ⟨0x105BB, 0x105BC, (-39), 1⟩,
  ⟨0x10CC0, 0x10CF2, (-64), 1⟩, ⟨0x118C0, 0x118DF, (-32), 1⟩, ⟨0x16E60, 0x16E7F, (-32), 1⟩,
  ⟨0x1E922, 0x1E943, (-34), 1⟩]

/-- Where a list of runs sends a character. -/
def CaseRun.apply (runs : List CaseRun) (c : Char) : Char :=
  match runs.find? (·.holds c.toNat) with
  | some r => Char.ofNat ((c.toNat : Int) + r.shift).toNat
  | none => c

/-- The lower-case form of a character. -/
def toLower (c : Char) : Char := CaseRun.apply lowerRuns c

/-- The upper-case form of a character. -/
def toUpper (c : Char) : Char := CaseRun.apply upperRuns c

/-- Whether a character has a lower- or upper-case form other than itself. -/
def isCased (c : Char) : Bool := toLower c != c || toUpper c != c

/-- The characters whose lower-case form is `c`, other than `c` itself. -/
def lowerPreimages (c : Char) : List Char :=
  lowerRuns.filterMap fun r =>
    let n : Int := (c.toNat : Int) - r.shift
    if n ≥ 0 ∧ r.holds n.toNat then some (Char.ofNat n.toNat) else none

/-- Lower-case letters with other lower-case letters of the same upper-case form. -/
def foldEquivalents : List (Nat × List Nat) := [
  (0x69, [0x131]), (0x73, [0x17F]), (0xB5, [0x3BC]), (0x131, [0x69]), (0x17F, [0x73]),
  (0x345, [0x3B9, 0x1FBE]), (0x390, [0x1FD3]), (0x3B0, [0x1FE3]), (0x3B2, [0x3D0]),
  (0x3B5, [0x3F5]), (0x3B8, [0x3D1]), (0x3B9, [0x345, 0x1FBE]), (0x3BA, [0x3F0]),
  (0x3BC, [0xB5]), (0x3C0, [0x3D6]), (0x3C1, [0x3F1]), (0x3C2, [0x3C3]), (0x3C3, [0x3C2]),
  (0x3C6, [0x3D5]), (0x3D0, [0x3B2]), (0x3D1, [0x3B8]), (0x3D5, [0x3C6]), (0x3D6, [0x3C0]),
  (0x3F0, [0x3BA]), (0x3F1, [0x3C1]), (0x3F5, [0x3B5]), (0x432, [0x1C80]),
  (0x434, [0x1C81]), (0x43E, [0x1C82]), (0x441, [0x1C83]), (0x442, [0x1C84, 0x1C85]),
  (0x44A, [0x1C86]), (0x463, [0x1C87]), (0x1C80, [0x432]), (0x1C81, [0x434]),
  (0x1C82, [0x43E]), (0x1C83, [0x441]), (0x1C84, [0x442, 0x1C85]),
  (0x1C85, [0x442, 0x1C84]), (0x1C86, [0x44A]), (0x1C87, [0x463]), (0x1C88, [0xA64B]),
  (0x1E61, [0x1E9B]), (0x1E9B, [0x1E61]), (0x1FBE, [0x345, 0x3B9]), (0x1FD3, [0x390]),
  (0x1FE3, [0x3B0]), (0xA64B, [0x1C88]), (0xFB05, [0xFB06]), (0xFB06, [0xFB05])]

/-- The lower-case forms equal up to case to the lower-case form `c`, itself first. -/
def foldClass (c : Char) : List Char :=
  c :: ((foldEquivalents.find? (·.1 == c.toNat)).map (·.2.map Char.ofNat)).getD []

/-- Whether two characters are equal up to case. -/
def equalFolded (a b : Char) : Bool := (foldClass (toLower a)).contains (toLower b)

end JsonPath.Text
