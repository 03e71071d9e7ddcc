/-!
# Case-ignorable and cased code points

Two Unicode 14.0 properties used by the final-sigma rule of lowercasing, as
inclusive code point ranges in increasing order. `caseIgnorableRanges` holds
the Case_Ignorable code points; `casedRanges` holds the Cased code points that
are not case-ignorable (a case-ignorable code point is skipped by the rule
whatever its casing, so only these are ever asked about).
-/

namespace EmployeeGateway.Text

/-- Rows 0 to 47 of the table. -/
def caseIgnorableRanges0 : List (Nat × Nat) := [
  (0x0027, 0x0027),
  (0x002E, 0x002E),
  (0x003A, 0x003A),
  (0x005E, 0x005E),
  (0x0060, 0x0060),
  (0x00A8, 0x00A8),
  (0x00AD, 0x00AD),
  (0x00AF, 0x00AF),
  (0x00B4, 0x00B4),
  (0x00B7, 0x00B8),
  (0x02B0, 0x036F),
  (0x0374, 0x0375),
  (0x037A, 0x037A),
  (0x0384, 0x0385),
  (0x0387, 0x0387),
  (0x0483, 0x0489),
  (0x0559, 0x0559),
  (0x055F, 0x055F),
  (0x0591, 0x05BD),
  (0x05BF, 0x05BF),
  (0x05C1, 0x05C2),
  (0x05C4, 0x05C5),
  (0x05C7, 0x05C7),
  (0x05F4, 0x05F4),
  (0x0600, 0x0605),
  (0x0610, 0x061A),
  (0x061C, 0x061C),
  (0x0640, 0x0640),
  (0x064B, 0x065F),
  (0x0670, 0x0670),
  (0x06D6, 0x06DD),
  (0x06DF, 0x06E8),
  (0x06EA, 0x06ED),
  (0x070F, 0x070F),
  (0x0711, 0x0711),
  (0x0730, 0x074A),
  (0x07A6, 0x07B0),
  (0x07EB, 0x07F5),
  (0x07FA, 0x07FA),
  (0x07FD, 0x07FD),
  (0x0816, 0x082D),
  (0x0859, 0x085B),
  (0x0888, 0x0888),
  (0x0890, 0x0891),
  (0x0898, 0x089F),
  (0x08C9, 0x0902),
  (0x093A, 0x093A),
  (0x093C, 0x093C)]

/-- Rows 48 to 95 of the table. -/
def caseIgnorableRanges1 : List (Nat × Nat) := [
  (0x0941, 0x0948),
  (0x094D, 0x094D),
  (0x0951, 0x0957),
  (0x0962, 0x0963),
  (0x0971, 0x0971),
  (0x0981, 0x0981),
  (0x09BC, 0x09BC),
  (0x09C1, 0x09C4),
  (0x09CD, 0x09CD),
  (0x09E2, 0x09E3),
  (0x09FE, 0x09FE),
  (0x0A01, 0x0A02),
  (0x0A3C, 0x0A3C),
  (0x0A41, 0x0A42),
  (0x0A47, 0x0A48),
  (0x0A4B, 0x0A4D),
  (0x0A51, 0x0A51),
  (0x0A70, 0x0A71),
  (0x0A75, 0x0A75),
  (0x0A81, 0x0A82),
  (0x0ABC, 0x0ABC),
  (0x0AC1, 0x0AC5),
  (0x0AC7, 0x0AC8),
  (0x0ACD, 0x0ACD),
  (0x0AE2, 0x0AE3),
  (0x0AFA, 0x0AFF),
  (0x0B01, 0x0B01),
  (0x0B3C, 0x0B3C),
  (0x0B3F, 0x0B3F),
  (0x0B41, 0x0B44),
  (0x0B4D, 0x0B4D),
  (0x0B55, 0x0B56),
  (0x0B62, 0x0B63),
  (0x0B82, 0x0B82),
  (0x0BC0, 0x0BC0),
  (0x0BCD, 0x0BCD),
  (0x0C00, 0x0C00),
  (0x0C04, 0x0C04),
  (0x0C3C, 0x0C3C),
  (0x0C3E, 0x0C40),
  (0x0C46, 0x0C48),
  (0x0C4A, 0x0C4D),
  (0x0C55, 0x0C56),
  (0x0C62, 0x0C63),
  (0x0C81, 0x0C81),
  (0x0CBC, 0x0CBC),
  (0x0CBF, 0x0CBF),
  (0x0CC6, 0x0CC6)]

/-- Rows 96 to 143 of the table. -/
def caseIgnorableRanges2 : List (Nat × Nat) := [
  (0x0CCC, 0x0CCD),
  (0x0CE2, 0x0CE3),
  (0x0D00, 0x0D01),
  (0x0D3B, 0x0D3C),
  (0x0D41, 0x0D44),
  (0x0D4D, 0x0D4D),
  (0x0D62, 0x0D63),
  (0x0D81, 0x0D81),
  (0x0DCA, 0x0DCA),
  (0x0DD2, 0x0DD4),
  (0x0DD6, 0x0DD6),
  (0x0E31, 0x0E31),
  (0x0E34, 0x0E3A),
  (0x0E46, 0x0E4E),
  (0x0EB1, 0x0EB1),
  (0x0EB4, 0x0EBC),
  (0x0EC6, 0x0EC6),
  (0x0EC8, 0x0ECD),
  (0x0F18, 0x0F19),
  (0x0F35, 0x0F35),
  (0x0F37, 0x0F37),
  (0x0F39, 0x0F39),
  (0x0F71, 0x0F7E),
  (0x0F80, 0x0F84),
  (0x0F86, 0x0F87),
  (0x0F8D, 0x0F97),
  (0x0F99, 0x0FBC),
  (0x0FC6, 0x0FC6),
  (0x102D, 0x1030),
  (0x1032, 0x1037),
  (0x1039, 0x103A),
  (0x103D, 0x103E),
  (0x1058, 0x1059),
  (0x105E, 0x1060),
  (0x1071, 0x1074),
  (0x1082, 0x1082),
  (0x1085, 0x1086),
  (0x108D, 0x108D),
  (0x109D, 0x109D),
  (0x10FC, 0x10FC),
  (0x135D, 0x135F),
  (0x1712, 0x1714),
  (0x1732, 0x1733),
  (0x1752, 0x1753),
  (0x1772, 0x1773),
  (0x17B4, 0x17B5),
  (0x17B7, 0x17BD),
  (0x17C6, 0x17C6)]

/-- Rows 144 to 191 of the table. -/
def caseIgnorableRanges3 : List (Nat × Nat) := [
  (0x17C9, 0x17D3),
  (0x17D7, 0x17D7),
  (0x17DD, 0x17DD),
  (0x180B, 0x180F),
  (0x1843, 0x1843),
  (0x1885, 0x1886),
  (0x18A9, 0x18A9),
  (0x1920, 0x1922),
  (0x1927, 0x1928),
  (0x1932, 0x1932),
  (0x1939, 0x193B),
  (0x1A17, 0x1A18),
  (0x1A1B, 0x1A1B),
  (0x1A56, 0x1A56),
  (0x1A58, 0x1A5E),
  (0x1A60, 0x1A60),
  (0x1A62, 0x1A62),
  (0x1A65, 0x1A6C),
  (0x1A73, 0x1A7C),
  (0x1A7F, 0x1A7F),
  (0x1AA7, 0x1AA7),
  (0x1AB0, 0x1ACE),
  (0x1B00, 0x1B03),
  (0x1B34, 0x1B34),
  (0x1B36, 0x1B3A),
  (0x1B3C, 0x1B3C),
  (0x1B42, 0x1B42),
  (0x1B6B, 0x1B73),
  (0x1B80, 0x1B81),
  (0x1BA2, 0x1BA5),
  (0x1BA8, 0x1BA9),
  (0x1BAB, 0x1BAD),
  (0x1BE6, 0x1BE6),
  (0x1BE8, 0x1BE9),
  (0x1BED, 0x1BED),
  (0x1BEF, 0x1BF1),
  (0x1C2C, 0x1C33),
  (0x1C36, 0x1C37),
  (0x1C78, 0x1C7D),
  (0x1CD0, 0x1CD2),
  (0x1CD4, 0x1CE0),
  (0x1CE2, 0x1CE8),
  (0x1CED, 0x1CED),
  (0x1CF4, 0x1CF4),
  (0x1CF8, 0x1CF9),
  (0x1D2C, 0x1D6A),
  (0x1D78, 0x1D78),
  (0x1D9B, 0x1DFF)]

/-- Rows 192 to 239 of the table. -/
def caseIgnorableRanges4 : List (Nat × Nat) := [
  (0x1FBD, 0x1FBD),
  (0x1FBF, 0x1FC1),
  (0x1FCD, 0x1FCF),
  (0x1FDD, 0x1FDF),
  (0x1FED, 0x1FEF),
  (0x1FFD, 0x1FFE),
  (0x200B, 0x200F),
  (0x2018, 0x2019),
  (0x2024, 0x2024),
  (0x2027, 0x2027),
  (0x202A, 0x202E),
  (0x2060, 0x2064),
  (0x2066, 0x206F),
  (0x2071, 0x2071),
  (0x207F, 0x207F),
  (0x2090, 0x209C),
  (0x20D0, 0x20F0),
  (0x2C7C, 0x2C7D),
  (0x2CEF, 0x2CF1),
  (0x2D6F, 0x2D6F),
  (0x2D7F, 0x2D7F),
  (0x2DE0, 0x2DFF),
  (0x2E2F, 0x2E2F),
  (0x3005, 0x3005),
  (0x302A, 0x302D),
  (0x3031, 0x3035),
  (0x303B, 0x303B),
  (0x3099, 0x309E),
  (0x30FC, 0x30FE),
  (0xA015, 0xA015),
  (0xA4F8, 0xA4FD),
  (0xA60C, 0xA60C),
  (0xA66F, 0xA672),
  (0xA674, 0xA67D),
  (0xA67F, 0xA67F),
  (0xA69C, 0xA69F),
  (0xA6F0, 0xA6F1),
  (0xA700, 0xA721),
  (0xA770, 0xA770),
  (0xA788, 0xA78A),
  (0xA7F2, 0xA7F4),
  (0xA7F8, 0xA7F9),
  (0xA802, 0xA802),
  (0xA806, 0xA806),
  (0xA80B, 0xA80B),
  (0xA825, 0xA826),
  (0xA82C, 0xA82C),
  (0xA8C4, 0xA8C5)]

/-- Rows 240 to 287 of the table. -/
def caseIgnorableRanges5 : List (Nat × Nat) := [
  (0xA8E0, 0xA8F1),
  (0xA8FF, 0xA8FF),
  (0xA926, 0xA92D),
  (0xA947, 0xA951),
  (0xA980, 0xA982),
  (0xA9B3, 0xA9B3),
  (0xA9B6, 0xA9B9),
  (0xA9BC, 0xA9BD),
  (0xA9CF, 0xA9CF),
  (0xA9E5, 0xA9E6),
  (0xAA29, 0xAA2E),
  (0xAA31, 0xAA32),
  (0xAA35, 0xAA36),
  (0xAA43, 0xAA43),
  (0xAA4C, 0xAA4C),
  (0xAA70, 0xAA70),
  (0xAA7C, 0xAA7C),
  (0xAAB0, 0xAAB0),
  (0xAAB2, 0xAAB4),
  (0xAAB7, 0xAAB8),
  (0xAABE, 0xAABF),
  (0xAAC1, 0xAAC1),
  (0xAADD, 0xAADD),
  (0xAAEC, 0xAAED),
  (0xAAF3, 0xAAF4),
  (0xAAF6, 0xAAF6),
  (0xAB5B, 0xAB5F),
  (0xAB69, 0xAB6B),
  (0xABE5, 0xABE5),
  (0xABE8, 0xABE8),
  (0xABED, 0xABED),
  (0xFB1E, 0xFB1E),
  (0xFBB2, 0xFBC2),
  (0xFE00, 0xFE0F),
  (0xFE13, 0xFE13),
  (0xFE20, 0xFE2F),
  (0xFE52, 0xFE52),
  (0xFE55, 0xFE55),
  (0xFEFF, 0xFEFF),
  (0xFF07, 0xFF07),
  (0xFF0E, 0xFF0E),
  (0xFF1A, 0xFF1A),
  (0xFF3E, 0xFF3E),
  (0xFF40, 0xFF40),
  (0xFF70, 0xFF70),
  (0xFF9E, 0xFF9F),
  (0xFFE3, 0xFFE3),
  (0xFFF9, 0xFFFB)]

/-- Rows 288 to 335 of the table. -/
def caseIgnorableRanges6 : List (Nat × Nat) := [
  (0x101FD, 0x101FD),
  (0x102E0, 0x102E0),
  (0x10376, 0x1037A),
  (0x10780, 0x10785),
  (0x10787, 0x107B0),
  (0x107B2, 0x107BA),
  (0x10A01, 0x10A03),
  (0x10A05, 0x10A06),
  (0x10A0C, 0x10A0F),
  (0x10A38, 0x10A3A),
  (0x10A3F, 0x10A3F),
  (0x10AE5, 0x10AE6),
  (0x10D24, 0x10D27),
  (0x10EAB, 0x10EAC),
  (0x10F46, 0x10F50),
  (0x10F82, 0x10F85),
  (0x11001, 0x11001),
  (0x11038, 0x11046),
  (0x11070, 0x11070),
  (0x11073, 0x11074),
  (0x1107F, 0x11081),
  (0x110B3, 0x110B6),
  (0x110B9, 0x110BA),
  (0x110BD, 0x110BD),
  (0x110C2, 0x110C2),
  (0x110CD, 0x110CD),
  (0x11100, 0x11102),
  (0x11127, 0x1112B),
  (0x1112D, 0x11134),
  (0x11173, 0x11173),
  (0x11180, 0x11181),
  (0x111B6, 0x111BE),
  (0x111C9, 0x111CC),
  (0x111CF, 0x111CF),
  (0x1122F, 0x11231),
  (0x11234, 0x11234),
  (0x11236, 0x11237),
  (0x1123E, 0x1123E),
  (0x112DF, 0x112DF),
  (0x112E3, 0x112EA),
  (0x11300, 0x11301),
  (0x1133B, 0x1133C),
  (0x11340, 0x11340),
  (0x11366, 0x1136C),
  (0x11370, 0x11374),
  (0x11438, 0x1143F),
  (0x11442, 0x11444),
  (0x11446, 0x11446)]

/-- Rows 336 to 383 of the table. -/
def caseIgnorableRanges7 : List (Nat × Nat) := [
  (0x1145E, 0x1145E),
  (0x114B3, 0x114B8),
  (0x114BA, 0x114BA),
  (0x114BF, 0x114C0),
  (0x114C2, 0x114C3),
  (0x115B2, 0x115B5),
  (0x115BC, 0x115BD),
  (0x115BF, 0x115C0),
  (0x115DC, 0x115DD),
  (0x11633, 0x1163A),
  (0x1163D, 0x1163D),
  (0x1163F, 0x11640),
  (0x116AB, 0x116AB),
  (0x116AD, 0x116AD),
  (0x116B0, 0x116B5),
  (0x116B7, 0x116B7),
  (0x1171D, 0x1171F),
  (0x11722, 0x11725),
  (0x11727, 0x1172B),
  (0x1182F, 0x11837),
  (0x11839, 0x1183A),
  (0x1193B, 0x1193C),
  (0x1193E, 0x1193E),
  (0x11943, 0x11943),
  (0x119D4, 0x119D7),
  (0x119DA, 0x119DB),
  (0x119E0, 0x119E0),
  (0x11A01, 0x11A0A),
  (0x11A33, 0x11A38),
  (0x11A3B, 0x11A3E),
  (0x11A47, 0x11A47),
  (0x11A51, 0x11A56),
  (0x11A59, 0x11A5B),
  (0x11A8A, 0x11A96),
  (0x11A98, 0x11A99),
  (0x11C30, 0x11C36),
  (0x11C38, 0x11C3D),
  (0x11C3F, 0x11C3F),
  (0x11C92, 0x11CA7),
  (0x11CAA, 0x11CB0),
  (0x11CB2, 0x11CB3),
  (0x11CB5, 0x11CB6),
  (0x11D31, 0x11D36),
  (0x11D3A, 0x11D3A),
  (0x11D3C, 0x11D3D),
  (0x11D3F, 0x11D45),
  (0x11D47, 0x11D47),
  (0x11D90, 0x11D91)]

/-- Rows 384 to 426 of the table. -/
def caseIgnorableRanges8 : List (Nat × Nat) := [
  (0x11D95, 0x11D95),
  (0x11D97, 0x11D97),
  (0x11EF3, 0x11EF4),
  (0x13430, 0x13438),
  (0x16AF0, 0x16AF4),
  (0x16B30, 0x16B36),
  (0x16B40, 0x16B43),
  (0x16F4F, 0x16F4F),
  (0x16F8F, 0x16F9F),
  (0x16FE0, 0x16FE1),
  (0x16FE3, 0x16FE4),
  (0x1AFF0, 0x1AFF3),
  (0x1AFF5, 0x1AFFB),
  (0x1AFFD, 0x1AFFE),
  (0x1BC9D, 0x1BC9E),
  (0x1BCA0, 0x1BCA3),
  (0x1CF00, 0x1CF2D),
  (0x1CF30, 0x1CF46),
  (0x1D167, 0x1D169),
  (0x1D173, 0x1D182),
  (0x1D185, 0x1D18B),
  (0x1D1AA, 0x1D1AD),
  (0x1D242, 0x1D244),
  (0x1DA00, 0x1DA36),
  (0x1DA3B, 0x1DA6C),
  (0x1DA75, 0x1DA75),
  (0x1DA84, 0x1DA84),
  (0x1DA9B, 0x1DA9F),
  (0x1DAA1, 0x1DAAF),
  (0x1E000, 0x1E006),
  (0x1E008, 0x1E018),
  (0x1E01B, 0x1E021),
  (0x1E023, 0x1E024),
  (0x1E026, 0x1E02A),
  (0x1E130, 0x1E13D),
  (0x1E2AE, 0x1E2AE),
  (0x1E2EC, 0x1E2EF),
  (0x1E8D0, 0x1E8D6),
  (0x1E944, 0x1E94B),
  (0x1F3FB, 0x1F3FF),
  (0xE0001, 0xE0001),
  (0xE0020, 0xE007F),
  (0xE0100, 0xE01EF)]

/-- Ranges of the case-ignorable code points. -/
def caseIgnorableRanges : List (Nat × Nat) :=
  caseIgnorableRanges0 ++
  caseIgnorableRanges1 ++
  caseIgnorableRanges2 ++
  caseIgnorableRanges3 ++
  caseIgnorableRanges4 ++
  caseIgnorableRanges5 ++
  caseIgnorableRanges6 ++
  caseIgnorableRanges7 ++
  caseIgnorableRanges8

/-- Rows 0 to 47 of the table. -/
def casedRanges0 : List (Nat × Nat) := [
  (0x0041, 0x005A),
  (0x0061, 0x007A),
  (0x00AA, 0x00AA),
  (0x00B5, 0x00B5),
  (0x00BA, 0x00BA),
  (0x00C0, 0x00D6),
  (0x00D8, 0x00F6),
  (0x00F8, 0x01BA),
  (0x01BC, 0x01BF),
  (0x01C4, 0x0293),
  (0x0295, 0x02AF),
  (0x0370, 0x0373),
  (0x0376, 0x0377),
  (0x037B, 0x037D),
  (0x037F, 0x037F),
  (0x0386, 0x0386),
  (0x0388, 0x038A),
  (0x038C, 0x038C),
  (0x038E, 0x03A1),
  (0x03A3, 0x03F5),
  (0x03F7, 0x0481),
  (0x048A, 0x052F),
  (0x0531, 0x0556),
  (0x0560, 0x0588),
  (0x10A0, 0x10C5),
  (0x10C7, 0x10C7),
  (0x10CD, 0x10CD),
  (0x10D0, 0x10FA),
  (0x10FD, 0x10FF),
  (0x13A0, 0x13F5),
  (0x13F8, 0x13FD),
  (0x1C80, 0x1C88),
  (0x1C90, 0x1CBA),
  (0x1CBD, 0x1CBF),
  (0x1D00, 0x1D2B),
  (0x1D6B, 0x1D77),
  (0x1D79, 0x1D9A),
  (0x1E00, 0x1F15),
  (0x1F18, 0x1F1D),
  (0x1F20, 0x1F45),
  (0x1F48, 0x1F4D),
  (0x1F50, 0x1F57),
  (0x1F59, 0x1F59),
  (0x1F5B, 0x1F5B),
  (0x1F5D, 0x1F5D),
  (0x1F5F, 0x1F7D),
  (0x1F80, 0x1FB4),
  (0x1FB6, 0x1FBC)]

/-- Rows 48 to 95 of the table. -/
def casedRanges1 : List (Nat × Nat) := [
  (0x1FBE, 0x1FBE),
  (0x1FC2, 0x1FC4),
  (0x1FC6, 0x1FCC),
  (0x1FD0, 0x1FD3),
  (0x1FD6, 0x1FDB),
  (0x1FE0, 0x1FEC),
  (0x1FF2, 0x1FF4),
  (0x1FF6, 0x1FFC),
  (0x2102, 0x2102),
  (0x2107, 0x2107),
  (0x210A, 0x2113),
  (0x2115, 0x2115),
  (0x2119, 0x211D),
  (0x2124, 0x2124),
  (0x2126, 0x2126),
  (0x2128, 0x2128),
  (0x212A, 0x212D),
  (0x212F, 0x2134),
  (0x2139, 0x2139),
  (0x213C, 0x213F),
  (0x2145, 0x2149),
  (0x214E, 0x214E),
  (0x2160, 0x217F),
  (0x2183, 0x2184),
  (0x24B6, 0x24E9),
  (0x2C00, 0x2C7B),
  (0x2C7E, 0x2CE4),
  (0x2CEB, 0x2CEE),
  (0x2CF2, 0x2CF3),
  (0x2D00, 0x2D25),
  (0x2D27, 0x2D27),
  (0x2D2D, 0x2D2D),
  (0xA640, 0xA66D),
  (0xA680, 0xA69B),
  (0xA722, 0xA76F),
  (0xA771, 0xA787),
  (0xA78B, 0xA78E),
  (0xA790, 0xA7CA),
  (0xA7D0, 0xA7D1),
  (0xA7D3, 0xA7D3),
  (0xA7D5, 0xA7D9),
  (0xA7F5, 0xA7F6),
  (0xA7FA, 0xA7FA),
  (0xAB30, 0xAB5A),
  (0xAB60, 0xAB68),
  (0xAB70, 0xABBF),
  (0xFB00, 0xFB06),
  (0xFB13, 0xFB17)]

/-- Rows 96 to 143 of the table. -/
def casedRanges2 : List (Nat × Nat) := [
  (0xFF21, 0xFF3A),
  (0xFF41, 0xFF5A),
  (0x10400, 0x1044F),
  (0x104B0, 0x104D3),
  (0x104D8, 0x104FB),
  (0x10570, 0x1057A),
  (0x1057C, 0x1058A),
  (0x1058C, 0x10592),
  (0x10594, 0x10595),
  (0x10597, 0x105A1),
  (0x105A3, 0x105B1),
  (0x105B3, 0x105B9),
  (0x105BB, 0x105BC),
  (0x10C80, 0x10CB2),
  (0x10CC0, 0x10CF2),
  (0x118A0, 0x118DF),
  (0x16E40, 0x16E7F),
  (0x1D400, 0x1D454),
  (0x1D456, 0x1D49C),
  (0x1D49E, 0x1D49F),
  (0x1D4A2, 0x1D4A2),
  (0x1D4A5, 0x1D4A6),
  (0x1D4A9, 0x1D4AC),
  (0x1D4AE, 0x1D4B9),
  (0x1D4BB, 0x1D4BB),
  (0x1D4BD, 0x1D4C3),
  (0x1D4C5, 0x1D505),
  (0x1D507, 0x1D50A),
  (0x1D50D, 0x1D514),
  (0x1D516, 0x1D51C),
  (0x1D51E, 0x1D539),
  (0x1D53B, 0x1D53E),
  (0x1D540, 0x1D544),
  (0x1D546, 0x1D546),
  (0x1D54A, 0x1D550),
  (0x1D552, 0x1D6A5),
  (0x1D6A8, 0x1D6C0),
  (0x1D6C2, 0x1D6DA),
  (0x1D6DC, 0x1D6FA),
  (0x1D6FC, 0x1D714),
  (0x1D716, 0x1D734),
  (0x1D736, 0x1D74E),
  (0x1D750, 0x1D76E),
  (0x1D770, 0x1D788),
  (0x1D78A, 0x1D7A8),
  (0x1D7AA, 0x1D7C2),
  (0x1D7C4, 0x1D7CB),
  (0x1DF00, 0x1DF09)]

/-- Rows 144 to 148 of the table. -/
def casedRanges3 : List (Nat × Nat) := [
  (0x1DF0B, 0x1DF1E),
  (0x1E900, 0x1E943),
  (0x1F130, 0x1F149),
  (0x1F150, 0x1F169),
  (0x1F170, 0x1F189)]

/-- Ranges of the cased code points that are not case-ignorable. -/
def casedRanges : List (Nat × Nat) :=
  casedRanges0 ++
  casedRanges1 ++
  casedRanges2 ++
  casedRanges3

end EmployeeGateway.Text
