import EmployeeGateway.Text.LowerTable

/-!
# Full uppercase mapping

`Text.upper` maps a string to uppercase the way Unicode 14.0 full case
mapping does without a language: a code point with a mapping to several code
points takes it (`ß` to `SS`, `ﬆ` to `ST`), any other its simple mapping.
Characters without a case, the private-use characters of `Unpaired` among
them, stay.

The table holds the uppercase mappings of Unicode 14.0 without a language.
Most code points map to one code point; those are given as runs: a run maps
each code point `c` with `first ≤ c ≤ last` and `(c - first) % step = 0` to
`c + delta`. `upperSpecial` lists the code points whose uppercase is more
than one code point, such as `ß` to `SS`. Code points in neither list map to
themselves.
-/

namespace EmployeeGateway.Text

/-! ## The table -/

/-- Rows 0 to 47 of the runs. -/
def upperRuns0 : List CaseRun := [
  ⟨0x0061, 0x007A, (-32), 1⟩,
  ⟨0x00B5, 0x00B5, 743, 1⟩,
  ⟨0x00E0, 0x00F6, (-32), 1⟩,
  ⟨0x00F8, 0x00FE, (-32), 1⟩,
  ⟨0x00FF, 0x00FF, 121, 1⟩,
  ⟨0x0101, 0x012F, (-1), 2⟩,
  ⟨0x0131, 0x0131, (-232), 1⟩,
  ⟨0x0133, 0x0137, (-1), 2⟩,
  ⟨0x013A, 0x0148, (-1), 2⟩,
  ⟨0x014B, 0x0177, (-1), 2⟩,
  ⟨0x017A, 0x017E, (-1), 2⟩,
  ⟨0x017F, 0x017F, (-300), 1⟩,
  ⟨0x0180, 0x0180, 195, 1⟩,
  ⟨0x0183, 0x0185, (-1), 2⟩,
  ⟨0x0188, 0x0188, (-1), 1⟩,
  ⟨0x018C, 0x018C, (-1), 1⟩,
  ⟨0x0192, 0x0192, (-1), 1⟩,
  ⟨0x0195, 0x0195, 97, 1⟩,
  ⟨0x0199, 0x0199, (-1), 1⟩,
  ⟨0x019A, 0x019A, 163, 1⟩,
  ⟨0x019E, 0x019E, 130, 1⟩,
  ⟨0x01A1, 0x01A5, (-1), 2⟩,
  ⟨0x01A8, 0x01A8, (-1), 1⟩,
  ⟨0x01AD, 0x01AD, (-1), 1⟩,
  ⟨0x01B0, 0x01B0, (-1), 1⟩,
  ⟨0x01B4, 0x01B6, (-1), 2⟩,
  ⟨0x01B9, 0x01B9, (-1), 1⟩,
  ⟨0x01BD, 0x01BD, (-1), 1⟩,
  ⟨0x01BF, 0x01BF, 56, 1⟩,
  ⟨0x01C5, 0x01C5, (-1), 1⟩,
  ⟨0x01C6, 0x01C6, (-2), 1⟩,
  ⟨0x01C8, 0x01C8, (-1), 1⟩,
  ⟨0x01C9, 0x01C9, (-2), 1⟩,
  ⟨0x01CB, 0x01CB, (-1), 1⟩,
  ⟨0x01CC, 0x01CC, (-2), 1⟩,
  ⟨0x01CE, 0x01DC, (-1), 2⟩,
  ⟨0x01DD, 0x01DD, (-79), 1⟩,
  ⟨0x01DF, 0x01EF, (-1), 2⟩,
  ⟨0x01F2, 0x01F2, (-1), 1⟩,
  ⟨0x01F3, 0x01F3, (-2), 1⟩,
  ⟨0x01F5, 0x01F5, (-1), 1⟩,
  ⟨0x01F9, 0x021F, (-1), 2⟩,
  ⟨0x0223, 0x0233, (-1), 2⟩,
  ⟨0x023C, 0x023C, (-1), 1⟩,
  ⟨0x023F, 0x0240, 10815, 1⟩,
  ⟨0x0242, 0x0242, (-1), 1⟩,
  ⟨0x0247, 0x024F, (-1), 2⟩,
  ⟨0x0250, 0x0250, 10783, 1⟩ ]

/-- Rows 48 to 95 of the runs. -/
def upperRuns1 : List CaseRun := [
  ⟨0x0251, 0x0251, 10780, 1⟩,
  ⟨0x0252, 0x0252, 10782, 1⟩,
  ⟨0x0253, 0x0253, (-210), 1⟩,
  ⟨0x0254, 0x0254, (-206), 1⟩,
  ⟨0x0256, 0x0257, (-205), 1⟩,
  ⟨0x0259, 0x0259, (-202), 1⟩,
  ⟨0x025B, 0x025B, (-203), 1⟩,
  ⟨0x025C, 0x025C, 42319, 1⟩,
  ⟨0x0260, 0x0260, (-205), 1⟩,
  ⟨0x0261, 0x0261, 42315, 1⟩,
  ⟨0x0263, 0x0263, (-207), 1⟩,
  ⟨0x0265, 0x0265, 42280, 1⟩,
  ⟨0x0266, 0x0266, 42308, 1⟩,
  ⟨0x0268, 0x0268, (-209), 1⟩,
  ⟨0x0269, 0x0269, (-211), 1⟩,
  ⟨0x026A, 0x026A, 42308, 1⟩,
  ⟨0x026B, 0x026B, 10743, 1⟩,
  ⟨0x026C, 0x026C, 42305, 1⟩,
  ⟨0x026F, 0x026F, (-211), 1⟩,
  ⟨0x0271, 0x0271, 10749, 1⟩,
  ⟨0x0272, 0x0272, (-213), 1⟩,
  ⟨0x0275, 0x0275, (-214), 1⟩,
  ⟨0x027D, 0x027D, 10727, 1⟩,
  ⟨0x0280, 0x0280, (-218), 1⟩,
  ⟨0x0282, 0x0282, 42307, 1⟩,
  ⟨0x0283, 0x0283, (-218), 1⟩,
  ⟨0x0287, 0x0287, 42282, 1⟩,
  ⟨0x0288, 0x0288, (-218), 1⟩,
  ⟨0x0289, 0x0289, (-69), 1⟩,
  ⟨0x028A, 0x028B, (-217), 1⟩,
  ⟨0x028C, 0x028C, (-71), 1⟩,
  ⟨0x0292, 0x0292, (-219), 1⟩,
  ⟨0x029D, 0x029D, 42261, 1⟩,
  ⟨0x029E, 0x029E, 42258, 1⟩,
  ⟨0x0345, 0x0345, 84, 1⟩,
  ⟨0x0371, 0x0373, (-1), 2⟩,
  ⟨0x0377, 0x0377, (-1), 1⟩,
  ⟨0x037B, 0x037D, 130, 1⟩,
  ⟨0x03AC, 0x03AC, (-38), 1⟩,
  ⟨0x03AD, 0x03AF, (-37), 1⟩,
  ⟨0x03B1, 0x03C1, (-32), 1⟩,
  ⟨0x03C2, 0x03C2, (-31), 1⟩,
  ⟨0x03C3, 0x03CB, (-32), 1⟩,
  ⟨0x03CC, 0x03CC, (-64), 1⟩,
  ⟨0x03CD, 0x03CE, (-63), 1⟩,
  ⟨0x03D0, 0x03D0, (-62), 1⟩,
  ⟨0x03D1, 0x03D1, (-57), 1⟩,
  ⟨0x03D5, 0x03D5, (-47), 1⟩ ]

/-- Rows 96 to 143 of the runs. -/
def upperRuns2 : List CaseRun := [
  ⟨0x03D6, 0x03D6, (-54), 1⟩,
  ⟨0x03D7, 0x03D7, (-8), 1⟩,
  ⟨0x03D9, 0x03EF, (-1), 2⟩,
  ⟨0x03F0, 0x03F0, (-86), 1⟩,
  ⟨0x03F1, 0x03F1, (-80), 1⟩,
  ⟨0x03F2, 0x03F2, 7, 1⟩,
  ⟨0x03F3, 0x03F3, (-116), 1⟩,
  ⟨0x03F5, 0x03F5, (-96), 1⟩,
  ⟨0x03F8, 0x03F8, (-1), 1⟩,
  ⟨0x03FB, 0x03FB, (-1), 1⟩,
  ⟨0x0430, 0x044F, (-32), 1⟩,
  ⟨0x0450, 0x045F, (-80), 1⟩,
  ⟨0x0461, 0x0481, (-1), 2⟩,
  ⟨0x048B, 0x04BF, (-1), 2⟩,
  ⟨0x04C2, 0x04CE, (-1), 2⟩,
  ⟨0x04CF, 0x04CF, (-15), 1⟩,
  ⟨0x04D1, 0x052F, (-1), 2⟩,
  ⟨0x0561, 0x0586, (-48), 1⟩,
  ⟨0x10D0, 0x10FA, 3008, 1⟩,
  ⟨0x10FD, 0x10FF, 3008, 1⟩,
  ⟨0x13F8, 0x13FD, (-8), 1⟩,
  ⟨0x1C80, 0x1C80, (-6254), 1⟩,
  ⟨0x1C81, 0x1C81, (-6253), 1⟩,
  ⟨0x1C82, 0x1C82, (-6244), 1⟩,
  ⟨0x1C83, 0x1C84, (-6242), 1⟩,
  ⟨0x1C85, 0x1C85, (-6243), 1⟩,
  ⟨0x1C86, 0x1C86, (-6236), 1⟩,
  ⟨0x1C87, 0x1C87, (-6181), 1⟩,
  ⟨0x1C88, 0x1C88, 35266, 1⟩,
  ⟨0x1D79, 0x1D79, 35332, 1⟩,
  ⟨0x1D7D, 0x1D7D, 3814, 1⟩,
  ⟨0x1D8E, 0x1D8E, 35384, 1⟩,
  ⟨0x1E01, 0x1E95, (-1), 2⟩,
  ⟨0x1E9B, 0x1E9B, (-59), 1⟩,
  ⟨0x1EA1, 0x1EFF, (-1), 2⟩,
  ⟨0x1F00, 0x1F07, 8, 1⟩,
  ⟨0x1F10, 0x1F15, 8, 1⟩,
  ⟨0x1F20, 0x1F27, 8, 1⟩,
  ⟨0x1F30, 0x1F37, 8, 1⟩,
  ⟨0x1F40, 0x1F45, 8, 1⟩,
  ⟨0x1F51, 0x1F57, 8, 2⟩,
  ⟨0x1F60, 0x1F67, 8, 1⟩,
  ⟨0x1F70, 0x1F71, 74, 1⟩,
  ⟨0x1F72, 0x1F75, 86, 1⟩,
  ⟨0x1F76, 0x1F77, 100, 1⟩,
  ⟨0x1F78, 0x1F79, 128, 1⟩,
  ⟨0x1F7A, 0x1F7B, 112, 1⟩,
  ⟨0x1F7C, 0x1F7D, 126, 1⟩ ]

/-- Rows 144 to 191 of the runs. -/
def upperRuns3 : List CaseRun := [
  ⟨0x1FB0, 0x1FB1, 8, 1⟩,
  ⟨0x1FBE, 0x1FBE, (-7205), 1⟩,
  ⟨0x1FD0, 0x1FD1, 8, 1⟩,
  ⟨0x1FE0, 0x1FE1, 8, 1⟩,
  ⟨0x1FE5, 0x1FE5, 7, 1⟩,
  ⟨0x214E, 0x214E, (-28), 1⟩,
  ⟨0x2170, 0x217F, (-16), 1⟩,
  ⟨0x2184, 0x2184, (-1), 1⟩,
  ⟨0x24D0, 0x24E9, (-26), 1⟩,
  ⟨0x2C30, 0x2C5F, (-48), 1⟩,
  ⟨0x2C61, 0x2C61, (-1), 1⟩,
  ⟨0x2C65, 0x2C65, (-10795), 1⟩,
  ⟨0x2C66, 0x2C66, (-10792), 1⟩,
  ⟨0x2C68, 0x2C6C, (-1), 2⟩,
  ⟨0x2C73, 0x2C73, (-1), 1⟩,
  ⟨0x2C76, 0x2C76, (-1), 1⟩,
  ⟨0x2C81, 0x2CE3, (-1), 2⟩,
  ⟨0x2CEC, 0x2CEE, (-1), 2⟩,
  ⟨0x2CF3, 0x2CF3, (-1), 1⟩,
  ⟨0x2D00, 0x2D25, (-7264), 1⟩,
  ⟨0x2D27, 0x2D27, (-7264), 1⟩,
  ⟨0x2D2D, 0x2D2D, (-7264), 1⟩,
  ⟨0xA641, 0xA66D, (-1), 2⟩,
  ⟨0xA681, 0xA69B, (-1), 2⟩,
  ⟨0xA723, 0xA72F, (-1), 2⟩,
  ⟨0xA733, 0xA76F, (-1), 2⟩,
  ⟨0xA77A, 0xA77C, (-1), 2⟩,
  ⟨0xA77F, 0xA787, (-1), 2⟩,
  ⟨0xA78C, 0xA78C, (-1), 1⟩,
  ⟨0xA791, 0xA793, (-1), 2⟩,
  ⟨0xA794, 0xA794, 48, 1⟩,
  ⟨0xA797, 0xA7A9, (-1), 2⟩,
  ⟨0xA7B5, 0xA7C3, (-1), 2⟩,
  ⟨0xA7C8, 0xA7CA, (-1), 2⟩,
  ⟨0xA7D1, 0xA7D1, (-1), 1⟩,
  ⟨0xA7D7, 0xA7D9, (-1), 2⟩,
  ⟨0xA7F6, 0xA7F6, (-1), 1⟩,
  ⟨0xAB53, 0xAB53, (-928), 1⟩,
  ⟨0xAB70, 0xABBF, (-38864), 1⟩,
  ⟨0xFF41, 0xFF5A, (-32), 1⟩,
  ⟨0x10428, 0x1044F, (-40), 1⟩,
  ⟨0x104D8, 0x104FB, (-40), 1⟩,
  ⟨0x10597, 0x105A1, (-39), 1⟩,
  ⟨0x105A3, 0x105B1, (-39), 1⟩,
  ⟨0x105B3, 0x105B9, (-39), 1⟩,
  ⟨0x105BB, 0x105BC, (-39), 1⟩,
  ⟨0x10CC0, 0x10CF2, (-64), 1⟩,
  ⟨0x118C0, 0x118DF, (-32), 1⟩ ]

/-- Rows 192 to 193 of the runs. -/
def upperRuns4 : List CaseRun := [
  ⟨0x16E60, 0x16E7F, (-32), 1⟩,
  ⟨0x1E922, 0x1E943, (-34), 1⟩ ]

/-- The runs of one-code-point uppercase mappings, in increasing order. -/
def upperRuns : List CaseRun := upperRuns0 ++ upperRuns1 ++ upperRuns2 ++ upperRuns3 ++ upperRuns4

/-- Code points whose uppercase is several code points, in increasing order. -/
def upperSpecial : List (Nat × List Nat) := [
  (0x00DF, [0x0053, 0x0053]),
  (0x0149, [0x02BC, 0x004E]),
  (0x01F0, [0x004A, 0x030C]),
  (0x0390, [0x0399, 0x0308, 0x0301]),
  (0x03B0, [0x03A5, 0x0308, 0x0301]),
  (0x0587, [0x0535, 0x0552]),
  (0x1E96, [0x0048, 0x0331]),
  (0x1E97, [0x0054, 0x0308]),
  (0x1E98, [0x0057, 0x030A]),
  (0x1E99, [0x0059, 0x030A]),
  (0x1E9A, [0x0041, 0x02BE]),
  (0x1F50, [0x03A5, 0x0313]),
  (0x1F52, [0x03A5, 0x0313, 0x0300]),
  (0x1F54, [0x03A5, 0x0313, 0x0301]),
  (0x1F56, [0x03A5, 0x0313, 0x0342]),
  (0x1F80, [0x1F08, 0x0399]),
  (0x1F81, [0x1F09, 0x0399]),
  (0x1F82, [0x1F0A, 0x0399]),
  (0x1F83, [0x1F0B, 0x0399]),
  (0x1F84, [0x1F0C, 0x0399]),
  (0x1F85, [0x1F0D, 0x0399]),
  (0x1F86, [0x1F0E, 0x0399]),
  (0x1F87, [0x1F0F, 0x0399]),
  (0x1F88, [0x1F08, 0x0399]),
  (0x1F89, [0x1F09, 0x0399]),
  (0x1F8A, [0x1F0A, 0x0399]),
  (0x1F8B, [0x1F0B, 0x0399]),
  (0x1F8C, [0x1F0C, 0x0399]),
  (0x1F8D, [0x1F0D, 0x0399]),
  (0x1F8E, [0x1F0E, 0x0399]),
  (0x1F8F, [0x1F0F, 0x0399]),
  (0x1F90, [0x1F28, 0x0399]),
  (0x1F91, [0x1F29, 0x0399]),
  (0x1F92, [0x1F2A, 0x0399]),
  (0x1F93, [0x1F2B, 0x0399]),
  (0x1F94, [0x1F2C, 0x0399]),
  (0x1F95, [0x1F2D, 0x0399]),
  (0x1F96, [0x1F2E, 0x0399]),
  (0x1F97, [0x1F2F, 0x0399]),
  (0x1F98, [0x1F28, 0x0399]),
  (0x1F99, [0x1F29, 0x0399]),
  (0x1F9A, [0x1F2A, 0x0399]),
  (0x1F9B, [0x1F2B, 0x0399]),
  (0x1F9C, [0x1F2C, 0x0399]),
  (0x1F9D, [0x1F2D, 0x0399]),
  (0x1F9E, [0x1F2E, 0x0399]),
  (0x1F9F, [0x1F2F, 0x0399]),
  (0x1FA0, [0x1F68, 0x0399]),
  (0x1FA1, [0x1F69, 0x0399]),
  (0x1FA2, [0x1F6A, 0x0399]),
  (0x1FA3, [0x1F6B, 0x0399]),
  (0x1FA4, [0x1F6C, 0x0399]),
  (0x1FA5, [0x1F6D, 0x0399]),
  (0x1FA6, [0x1F6E, 0x0399]),
  (0x1FA7, [0x1F6F, 0x0399]),
  (0x1FA8, [0x1F68, 0x0399]),
  (0x1FA9, [0x1F69, 0x0399]),
  (0x1FAA, [0x1F6A, 0x0399]),
  (0x1FAB, [0x1F6B, 0x0399]),
  (0x1FAC, [0x1F6C, 0x0399]),
  (0x1FAD, [0x1F6D, 0x0399]),
  (0x1FAE, [0x1F6E, 0x0399]),
  (0x1FAF, [0x1F6F, 0x0399]),
  (0x1FB2, [0x1FBA, 0x0399]),
  (0x1FB3, [0x0391, 0x0399]),
  (0x1FB4, [0x0386, 0x0399]),
  (0x1FB6, [0x0391, 0x0342]),
  (0x1FB7, [0x0391, 0x0342, 0x0399]),
  (0x1FBC, [0x0391, 0x0399]),
  (0x1FC2, [0x1FCA, 0x0399]),
  (0x1FC3, [0x0397, 0x0399]),
  (0x1FC4, [0x0389, 0x0399]),
  (0x1FC6, [0x0397, 0x0342]),
  (0x1FC7, [0x0397, 0x0342, 0x0399]),
  (0x1FCC, [0x0397, 0x0399]),
  (0x1FD2, [0x0399, 0x0308, 0x0300]),
  (0x1FD3, [0x0399, 0x0308, 0x0301]),
  (0x1FD6, [0x0399, 0x0342]),
  (0x1FD7, [0x0399, 0x0308, 0x0342]),
  (0x1FE2, [0x03A5, 0x0308, 0x0300]),
  (0x1FE3, [0x03A5, 0x0308, 0x0301]),
  (0x1FE4, [0x03A1, 0x0313]),
  (0x1FE6, [0x03A5, 0x0342]),
  (0x1FE7, [0x03A5, 0x0308, 0x0342]),
  (0x1FF2, [0x1FFA, 0x0399]),
  (0x1FF3, [0x03A9, 0x0399]),
  (0x1FF4, [0x038F, 0x0399]),
  (0x1FF6, [0x03A9, 0x0342]),
  (0x1FF7, [0x03A9, 0x0342, 0x0399]),
  (0x1FFC, [0x03A9, 0x0399]),
  (0xFB00, [0x0046, 0x0046]),
  (0xFB01, [0x0046, 0x0049]),
  (0xFB02, [0x0046, 0x004C]),
  (0xFB03, [0x0046, 0x0046, 0x0049]),
  (0xFB04, [0x0046, 0x0046, 0x004C]),
  (0xFB05, [0x0053, 0x0054]),
  (0xFB06, [0x0053, 0x0054]),
  (0xFB13, [0x0544, 0x0546]),
  (0xFB14, [0x0544, 0x0535]),
  (0xFB15, [0x0544, 0x053B]),
  (0xFB16, [0x054E, 0x0546]),
  (0xFB17, [0x0544, 0x053D]) ]

/-! ## The mapping -/

/-- The simple uppercase mapping of a code point. -/
def upperCode (c : Nat) : Nat :=
  if c < 128 then (if 97 ≤ c && c ≤ 122 then c - 32 else c)
  else
    match upperRuns.find? (fun r => r.first ≤ c && c ≤ r.last && (c - r.first) % r.step == 0) with
    | some r => (c + r.delta).toNat
    | none => c

/-- The uppercase of one character. -/
def upperChar (c : Char) : List Char :=
  match upperSpecial.lookup c.toNat with
  | some cs => cs.map Char.ofNat
  | none => [Char.ofNat (upperCode c.toNat)]

/-- The full uppercase of a string. -/
def upper (s : String) : String := String.ofList (s.toList.flatMap upperChar)

end EmployeeGateway.Text
