/-!
# Host name data

The data the host name rules use. `validRanges` holds the code points that a
label may hold anywhere: those of the IDNA 2008 class PVALID that Unicode
14.0 assigns. The other tables describe only the code points a valid label
can hold, each as runs in increasing order: `markRanges` the marks (general
category M) of all Unicode 14.0, `directionRanges` the bidirectional classes
other than L, `joiningRanges` the joining types T, L, D and R, and
`scriptRanges` the scripts Greek, Hebrew, Han and kana (Hiragana and
Katakana together).
-/

namespace EmployeeGateway.HostName

/-- The bidirectional classes of the characters of valid labels. -/
inductive Direction where
  | left | right | arabic | arabicNumber | europeanNumber | europeanSeparator
  | otherNeutral | boundaryNeutral | nonspacingMark
  deriving Repr, DecidableEq, Inhabited

/-- The joining types that the joiner rule asks about. -/
inductive Joining where
  | transparent | leftJoining | dual | rightJoining
  deriving Repr, DecidableEq, Inhabited

/-- The scripts that the context rules ask about. -/
inductive Script where
  | greek | hebrew | han | kana
  deriving Repr, DecidableEq, Inhabited

/-- Rows 0 to 63 of the table. -/
def validRanges0 : List (Nat × Nat) := [
  (0x002D, 0x002D),
  (0x0030, 0x0039),
  (0x0061, 0x007A),
  (0x00DF, 0x00F6),
  (0x00F8, 0x00FF),
  (0x0101, 0x0101),
  (0x0103, 0x0103),
  (0x0105, 0x0105),
  (0x0107, 0x0107),
  (0x0109, 0x0109),
  (0x010B, 0x010B),
  (0x010D, 0x010D),
  (0x010F, 0x010F),
  (0x0111, 0x0111),
  (0x0113, 0x0113),
  (0x0115, 0x0115),
  (0x0117, 0x0117),
  (0x0119, 0x0119),
  (0x011B, 0x011B),
  (0x011D, 0x011D),
  (0x011F, 0x011F),
  (0x0121, 0x0121),
  (0x0123, 0x0123),
  (0x0125, 0x0125),
  (0x0127, 0x0127),
  (0x0129, 0x0129),
  (0x012B, 0x012B),
  (0x012D, 0x012D),
  (0x012F, 0x012F),
  (0x0131, 0x0131),
  (0x0135, 0x0135),
  (0x0137, 0x0138),
  (0x013A, 0x013A),
  (0x013C, 0x013C),
  (0x013E, 0x013E),
  (0x0142, 0x0142),
  (0x0144, 0x0144),
  (0x0146, 0x0146),
  (0x0148, 0x0148),
  (0x014B, 0x014B),
  (0x014D, 0x014D),
  (0x014F, 0x014F),
  (0x0151, 0x0151),
  (0x0153, 0x0153),
  (0x0155, 0x0155),
  (0x0157, 0x0157),
  (0x0159, 0x0159),
  (0x015B, 0x015B),
  (0x015D, 0x015D),
  (0x015F, 0x015F),
  (0x0161, 0x0161),
  (0x0163, 0x0163),
  (0x0165, 0x0165),
  (0x0167, 0x0167),
  (0x0169, 0x0169),
  (0x016B, 0x016B),
  (0x016D, 0x016D),
  (0x016F, 0x016F),
  (0x0171, 0x0171),
  (0x0173, 0x0173),
  (0x0175, 0x0175),
  (0x0177, 0x0177),
  (0x017A, 0x017A),
  (0x017C, 0x017C) ]

/-- Rows 64 to 127 of the table. -/
def validRanges1 : List (Nat × Nat) := [
  (0x017E, 0x017E),
  (0x0180, 0x0180),
  (0x0183, 0x0183),
  (0x0185, 0x0185),
  (0x0188, 0x0188),
  (0x018C, 0x018D),
  (0x0192, 0x0192),
  (0x0195, 0x0195),
  (0x0199, 0x019B),
  (0x019E, 0x019E),
  (0x01A1, 0x01A1),
  (0x01A3, 0x01A3),
  (0x01A5, 0x01A5),
  (0x01A8, 0x01A8),
  (0x01AA, 0x01AB),
  (0x01AD, 0x01AD),
  (0x01B0, 0x01B0),
  (0x01B4, 0x01B4),
  (0x01B6, 0x01B6),
  (0x01B9, 0x01BB),
  (0x01BD, 0x01C3),
  (0x01CE, 0x01CE),
  (0x01D0, 0x01D0),
  (0x01D2, 0x01D2),
  (0x01D4, 0x01D4),
  (0x01D6, 0x01D6),
  (0x01D8, 0x01D8),
  (0x01DA, 0x01DA),
  (0x01DC, 0x01DD),
  (0x01DF, 0x01DF),
  (0x01E1, 0x01E1),
  (0x01E3, 0x01E3),
  (0x01E5, 0x01E5),
  (0x01E7, 0x01E7),
  (0x01E9, 0x01E9),
  (0x01EB, 0x01EB),
  (0x01ED, 0x01ED),
  (0x01EF, 0x01F0),
  (0x01F5, 0x01F5),
  (0x01F9, 0x01F9),
  (0x01FB, 0x01FB),
  (0x01FD, 0x01FD),
  (0x01FF, 0x01FF),
  (0x0201, 0x0201),
  (0x0203, 0x0203),
  (0x0205, 0x0205),
  (0x0207, 0x0207),
  (0x0209, 0x0209),
  (0x020B, 0x020B),
  (0x020D, 0x020D),
  (0x020F, 0x020F),
  (0x0211, 0x0211),
  (0x0213, 0x0213),
  (0x0215, 0x0215),
  (0x0217, 0x0217),
  (0x0219, 0x0219),
  (0x021B, 0x021B),
  (0x021D, 0x021D),
  (0x021F, 0x021F),
  (0x0221, 0x0221),
  (0x0223, 0x0223),
  (0x0225, 0x0225),
  (0x0227, 0x0227),
  (0x0229, 0x0229) ]

/-- Rows 128 to 191 of the table. -/
def validRanges2 : List (Nat × Nat) := [
  (0x022B, 0x022B),
  (0x022D, 0x022D),
  (0x022F, 0x022F),
  (0x0231, 0x0231),
  (0x0233, 0x0239),
  (0x023C, 0x023C),
  (0x023F, 0x0240),
  (0x0242, 0x0242),
  (0x0247, 0x0247),
  (0x0249, 0x0249),
  (0x024B, 0x024B),
  (0x024D, 0x024D),
  (0x024F, 0x02AF),
  (0x02B9, 0x02C1),
  (0x02C6, 0x02D1),
  (0x02EC, 0x02EC),
  (0x02EE, 0x02EE),
  (0x0300, 0x033F),
  (0x0342, 0x0342),
  (0x0346, 0x034E),
  (0x0350, 0x036F),
  (0x0371, 0x0371),
  (0x0373, 0x0373),
  (0x0377, 0x0377),
  (0x037B, 0x037D),
  (0x0390, 0x0390),
  (0x03AC, 0x03CE),
  (0x03D7, 0x03D7),
  (0x03D9, 0x03D9),
  (0x03DB, 0x03DB),
  (0x03DD, 0x03DD),
  (0x03DF, 0x03DF),
  (0x03E1, 0x03E1),
  (0x03E3, 0x03E3),
  (0x03E5, 0x03E5),
  (0x03E7, 0x03E7),
  (0x03E9, 0x03E9),
  (0x03EB, 0x03EB),
  (0x03ED, 0x03ED),
  (0x03EF, 0x03EF),
  (0x03F3, 0x03F3),
  (0x03F8, 0x03F8),
  (0x03FB, 0x03FC),
  (0x0430, 0x045F),
  (0x0461, 0x0461),
  (0x0463, 0x0463),
  (0x0465, 0x0465),
  (0x0467, 0x0467),
  (0x0469, 0x0469),
  (0x046B, 0x046B),
  (0x046D, 0x046D),
  (0x046F, 0x046F),
  (0x0471, 0x0471),
  (0x0473, 0x0473),
  (0x0475, 0x0475),
  (0x0477, 0x0477),
  (0x0479, 0x0479),
  (0x047B, 0x047B),
  (0x047D, 0x047D),
  (0x047F, 0x047F),
  (0x0481, 0x0481),
  (0x0483, 0x0487),
  (0x048B, 0x048B),
  (0x048D, 0x048D) ]

/-- Rows 192 to 255 of the table. -/
def validRanges3 : List (Nat × Nat) := [
  (0x048F, 0x048F),
  (0x0491, 0x0491),
  (0x0493, 0x0493),
  (0x0495, 0x0495),
  (0x0497, 0x0497),
  (0x0499, 0x0499),
  (0x049B, 0x049B),
  (0x049D, 0x049D),
  (0x049F, 0x049F),
  (0x04A1, 0x04A1),
  (0x04A3, 0x04A3),
  (0x04A5, 0x04A5),
  (0x04A7, 0x04A7),
  (0x04A9, 0x04A9),
  (0x04AB, 0x04AB),
  (0x04AD, 0x04AD),
  (0x04AF, 0x04AF),
  (0x04B1, 0x04B1),
  (0x04B3, 0x04B3),
  (0x04B5, 0x04B5),
  (0x04B7, 0x04B7),
  (0x04B9, 0x04B9),
  (0x04BB, 0x04BB),
  (0x04BD, 0x04BD),
  (0x04BF, 0x04BF),
  (0x04C2, 0x04C2),
  (0x04C4, 0x04C4),
  (0x04C6, 0x04C6),
  (0x04C8, 0x04C8),
  (0x04CA, 0x04CA),
  (0x04CC, 0x04CC),
  (0x04CE, 0x04CF),
  (0x04D1, 0x04D1),
  (0x04D3, 0x04D3),
  (0x04D5, 0x04D5),
  (0x04D7, 0x04D7),
  (0x04D9, 0x04D9),
  (0x04DB, 0x04DB),
  (0x04DD, 0x04DD),
  (0x04DF, 0x04DF),
  (0x04E1, 0x04E1),
  (0x04E3, 0x04E3),
  (0x04E5, 0x04E5),
  (0x04E7, 0x04E7),
  (0x04E9, 0x04E9),
  (0x04EB, 0x04EB),
  (0x04ED, 0x04ED),
  (0x04EF, 0x04EF),
  (0x04F1, 0x04F1),
  (0x04F3, 0x04F3),
  (0x04F5, 0x04F5),
  (0x04F7, 0x04F7),
  (0x04F9, 0x04F9),
  (0x04FB, 0x04FB),
  (0x04FD, 0x04FD),
  (0x04FF, 0x04FF),
  (0x0501, 0x0501),
  (0x0503, 0x0503),
  (0x0505, 0x0505),
  (0x0507, 0x0507),
  (0x0509, 0x0509),
  (0x050B, 0x050B),
  (0x050D, 0x050D),
  (0x050F, 0x050F) ]

/-- Rows 256 to 319 of the table. -/
def validRanges4 : List (Nat × Nat) := [
  (0x0511, 0x0511),
  (0x0513, 0x0513),
  (0x0515, 0x0515),
  (0x0517, 0x0517),
  (0x0519, 0x0519),
  (0x051B, 0x051B),
  (0x051D, 0x051D),
  (0x051F, 0x051F),
  (0x0521, 0x0521),
  (0x0523, 0x0523),
  (0x0525, 0x0525),
  (0x0527, 0x0527),
  (0x0529, 0x0529),
  (0x052B, 0x052B),
  (0x052D, 0x052D),
  (0x052F, 0x052F),
  (0x0559, 0x0559),
  (0x0560, 0x0586),
  (0x0588, 0x0588),
  (0x0591, 0x05BD),
  (0x05BF, 0x05BF),
  (0x05C1, 0x05C2),
  (0x05C4, 0x05C5),
  (0x05C7, 0x05C7),
  (0x05D0, 0x05EA),
  (0x05EF, 0x05F2),
  (0x0610, 0x061A),
  (0x0620, 0x063F),
  (0x0641, 0x065F),
  (0x066E, 0x0674),
  (0x0679, 0x06D3),
  (0x06D5, 0x06DC),
  (0x06DF, 0x06E8),
  (0x06EA, 0x06EF),
  (0x06FA, 0x06FF),
  (0x0710, 0x074A),
  (0x074D, 0x07B1),
  (0x07C0, 0x07F5),
  (0x07FD, 0x07FD),
  (0x0800, 0x082D),
  (0x0840, 0x085B),
  (0x0860, 0x086A),
  (0x0870, 0x0887),
  (0x0889, 0x088E),
  (0x0898, 0x08E1),
  (0x08E3, 0x0957),
  (0x0960, 0x0963),
  (0x0966, 0x096F),
  (0x0971, 0x0983),
  (0x0985, 0x098C),
  (0x098F, 0x0990),
  (0x0993, 0x09A8),
  (0x09AA, 0x09B0),
  (0x09B2, 0x09B2),
  (0x09B6, 0x09B9),
  (0x09BC, 0x09C4),
  (0x09C7, 0x09C8),
  (0x09CB, 0x09CE),
  (0x09D7, 0x09D7),
  (0x09E0, 0x09E3),
  (0x09E6, 0x09F1),
  (0x09FC, 0x09FC),
  (0x09FE, 0x09FE),
  (0x0A01, 0x0A03) ]

/-- Rows 320 to 383 of the table. -/
def validRanges5 : List (Nat × Nat) := [
  (0x0A05, 0x0A0A),
  (0x0A0F, 0x0A10),
  (0x0A13, 0x0A28),
  (0x0A2A, 0x0A30),
  (0x0A32, 0x0A32),
  (0x0A35, 0x0A35),
  (0x0A38, 0x0A39),
  (0x0A3C, 0x0A3C),
  (0x0A3E, 0x0A42),
  (0x0A47, 0x0A48),
  (0x0A4B, 0x0A4D),
  (0x0A51, 0x0A51),
  (0x0A5C, 0x0A5C),
  (0x0A66, 0x0A75),
  (0x0A81, 0x0A83),
  (0x0A85, 0x0A8D),
  (0x0A8F, 0x0A91),
  (0x0A93, 0x0AA8),
  (0x0AAA, 0x0AB0),
  (0x0AB2, 0x0AB3),
  (0x0AB5, 0x0AB9),
  (0x0ABC, 0x0AC5),
  (0x0AC7, 0x0AC9),
  (0x0ACB, 0x0ACD),
  (0x0AD0, 0x0AD0),
  (0x0AE0, 0x0AE3),
  (0x0AE6, 0x0AEF),
  (0x0AF9, 0x0AFF),
  (0x0B01, 0x0B03),
  (0x0B05, 0x0B0C),
  (0x0B0F, 0x0B10),
  (0x0B13, 0x0B28),
  (0x0B2A, 0x0B30),
  (0x0B32, 0x0B33),
  (0x0B35, 0x0B39),
  (0x0B3C, 0x0B44),
  (0x0B47, 0x0B48),
  (0x0B4B, 0x0B4D),
  (0x0B55, 0x0B57),
  (0x0B5F, 0x0B63),
  (0x0B66, 0x0B6F),
  (0x0B71, 0x0B71),
  (0x0B82, 0x0B83),
  (0x0B85, 0x0B8A),
  (0x0B8E, 0x0B90),
  (0x0B92, 0x0B95),
  (0x0B99, 0x0B9A),
  (0x0B9C, 0x0B9C),
  (0x0B9E, 0x0B9F),
  (0x0BA3, 0x0BA4),
  (0x0BA8, 0x0BAA),
  (0x0BAE, 0x0BB9),
  (0x0BBE, 0x0BC2),
  (0x0BC6, 0x0BC8),
  (0x0BCA, 0x0BCD),
  (0x0BD0, 0x0BD0),
  (0x0BD7, 0x0BD7),
  (0x0BE6, 0x0BEF),
  (0x0C00, 0x0C0C),
  (0x0C0E, 0x0C10),
  (0x0C12, 0x0C28),
  (0x0C2A, 0x0C39),
  (0x0C3C, 0x0C44),
  (0x0C46, 0x0C48) ]

/-- Rows 384 to 447 of the table. -/
def validRanges6 : List (Nat × Nat) := [
  (0x0C4A, 0x0C4D),
  (0x0C55, 0x0C56),
  (0x0C58, 0x0C5A),
  (0x0C5D, 0x0C5D),
  (0x0C60, 0x0C63),
  (0x0C66, 0x0C6F),
  (0x0C80, 0x0C83),
  (0x0C85, 0x0C8C),
  (0x0C8E, 0x0C90),
  (0x0C92, 0x0CA8),
  (0x0CAA, 0x0CB3),
  (0x0CB5, 0x0CB9),
  (0x0CBC, 0x0CC4),
  (0x0CC6, 0x0CC8),
  (0x0CCA, 0x0CCD),
  (0x0CD5, 0x0CD6),
  (0x0CDD, 0x0CDE),
  (0x0CE0, 0x0CE3),
  (0x0CE6, 0x0CEF),
  (0x0CF1, 0x0CF2),
  (0x0D00, 0x0D0C),
  (0x0D0E, 0x0D10),
  (0x0D12, 0x0D44),
  (0x0D46, 0x0D48),
  (0x0D4A, 0x0D4E),
  (0x0D54, 0x0D57),
  (0x0D5F, 0x0D63),
  (0x0D66, 0x0D6F),
  (0x0D7A, 0x0D7F),
  (0x0D81, 0x0D83),
  (0x0D85, 0x0D96),
  (0x0D9A, 0x0DB1),
  (0x0DB3, 0x0DBB),
  (0x0DBD, 0x0DBD),
  (0x0DC0, 0x0DC6),
  (0x0DCA, 0x0DCA),
  (0x0DCF, 0x0DD4),
  (0x0DD6, 0x0DD6),
  (0x0DD8, 0x0DDF),
  (0x0DE6, 0x0DEF),
  (0x0DF2, 0x0DF3),
  (0x0E01, 0x0E32),
  (0x0E34, 0x0E3A),
  (0x0E40, 0x0E4E),
  (0x0E50, 0x0E59),
  (0x0E81, 0x0E82),
  (0x0E84, 0x0E84),
  (0x0E86, 0x0E8A),
  (0x0E8C, 0x0EA3),
  (0x0EA5, 0x0EA5),
  (0x0EA7, 0x0EB2),
  (0x0EB4, 0x0EBD),
  (0x0EC0, 0x0EC4),
  (0x0EC6, 0x0EC6),
  (0x0EC8, 0x0ECD),
  (0x0ED0, 0x0ED9),
  (0x0EDE, 0x0EDF),
  (0x0F00, 0x0F00),
  (0x0F0B, 0x0F0B),
  (0x0F18, 0x0F19),
  (0x0F20, 0x0F29),
  (0x0F35, 0x0F35),
  (0x0F37, 0x0F37),
  (0x0F39, 0x0F39) ]

/-- Rows 448 to 511 of the table. -/
def validRanges7 : List (Nat × Nat) := [
  (0x0F3E, 0x0F42),
  (0x0F44, 0x0F47),
  (0x0F49, 0x0F4C),
  (0x0F4E, 0x0F51),
  (0x0F53, 0x0F56),
  (0x0F58, 0x0F5B),
  (0x0F5D, 0x0F68),
  (0x0F6A, 0x0F6C),
  (0x0F71, 0x0F72),
  (0x0F74, 0x0F74),
  (0x0F7A, 0x0F80),
  (0x0F82, 0x0F84),
  (0x0F86, 0x0F92),
  (0x0F94, 0x0F97),
  (0x0F99, 0x0F9C),
  (0x0F9E, 0x0FA1),
  (0x0FA3, 0x0FA6),
  (0x0FA8, 0x0FAB),
  (0x0FAD, 0x0FB8),
  (0x0FBA, 0x0FBC),
  (0x0FC6, 0x0FC6),
  (0x1000, 0x1049),
  (0x1050, 0x109D),
  (0x10D0, 0x10FA),
  (0x10FD, 0x10FF),
  (0x1200, 0x1248),
  (0x124A, 0x124D),
  (0x1250, 0x1256),
  (0x1258, 0x1258),
  (0x125A, 0x125D),
  (0x1260, 0x1288),
  (0x128A, 0x128D),
  (0x1290, 0x12B0),
  (0x12B2, 0x12B5),
  (0x12B8, 0x12BE),
  (0x12C0, 0x12C0),
  (0x12C2, 0x12C5),
  (0x12C8, 0x12D6),
  (0x12D8, 0x1310),
  (0x1312, 0x1315),
  (0x1318, 0x135A),
  (0x135D, 0x135F),
  (0x1380, 0x138F),
  (0x13A0, 0x13F5),
  (0x1401, 0x166C),
  (0x166F, 0x167F),
  (0x1681, 0x169A),
  (0x16A0, 0x16EA),
  (0x16F1, 0x16F8),
  (0x1700, 0x1715),
  (0x171F, 0x1734),
  (0x1740, 0x1753),
  (0x1760, 0x176C),
  (0x176E, 0x1770),
  (0x1772, 0x1773),
  (0x1780, 0x17B3),
  (0x17B6, 0x17D3),
  (0x17D7, 0x17D7),
  (0x17DC, 0x17DD),
  (0x17E0, 0x17E9),
  (0x1810, 0x1819),
  (0x1820, 0x1878),
  (0x1880, 0x18AA),
  (0x18B0, 0x18F5) ]

/-- Rows 512 to 575 of the table. -/
def validRanges8 : List (Nat × Nat) := [
  (0x1900, 0x191E),
  (0x1920, 0x192B),
  (0x1930, 0x193B),
  (0x1946, 0x196D),
  (0x1970, 0x1974),
  (0x1980, 0x19AB),
  (0x19B0, 0x19C9),
  (0x19D0, 0x19D9),
  (0x1A00, 0x1A1B),
  (0x1A20, 0x1A5E),
  (0x1A60, 0x1A7C),
  (0x1A7F, 0x1A89),
  (0x1A90, 0x1A99),
  (0x1AA7, 0x1AA7),
  (0x1AB0, 0x1ABD),
  (0x1ABF, 0x1ACE),
  (0x1B00, 0x1B4C),
  (0x1B50, 0x1B59),
  (0x1B6B, 0x1B73),
  (0x1B80, 0x1BF3),
  (0x1C00, 0x1C37),
  (0x1C40, 0x1C49),
  (0x1C4D, 0x1C7D),
  (0x1CD0, 0x1CD2),
  (0x1CD4, 0x1CFA),
  (0x1D00, 0x1D2B),
  (0x1D2F, 0x1D2F),
  (0x1D3B, 0x1D3B),
  (0x1D4E, 0x1D4E),
  (0x1D6B, 0x1D77),
  (0x1D79, 0x1D9A),
  (0x1DC0, 0x1DFF),
  (0x1E01, 0x1E01),
  (0x1E03, 0x1E03),
  (0x1E05, 0x1E05),
  (0x1E07, 0x1E07),
  (0x1E09, 0x1E09),
  (0x1E0B, 0x1E0B),
  (0x1E0D, 0x1E0D),
  (0x1E0F, 0x1E0F),
  (0x1E11, 0x1E11),
  (0x1E13, 0x1E13),
  (0x1E15, 0x1E15),
  (0x1E17, 0x1E17),
  (0x1E19, 0x1E19),
  (0x1E1B, 0x1E1B),
  (0x1E1D, 0x1E1D),
  (0x1E1F, 0x1E1F),
  (0x1E21, 0x1E21),
  (0x1E23, 0x1E23),
  (0x1E25, 0x1E25),
  (0x1E27, 0x1E27),
  (0x1E29, 0x1E29),
  (0x1E2B, 0x1E2B),
  (0x1E2D, 0x1E2D),
  (0x1E2F, 0x1E2F),
  (0x1E31, 0x1E31),
  (0x1E33, 0x1E33),
  (0x1E35, 0x1E35),
  (0x1E37, 0x1E37),
  (0x1E39, 0x1E39),
  (0x1E3B, 0x1E3B),
  (0x1E3D, 0x1E3D),
  (0x1E3F, 0x1E3F) ]

/-- Rows 576 to 639 of the table. -/
def validRanges9 : List (Nat × Nat) := [
  (0x1E41, 0x1E41),
  (0x1E43, 0x1E43),
  (0x1E45, 0x1E45),
  (0x1E47, 0x1E47),
  (0x1E49, 0x1E49),
  (0x1E4B, 0x1E4B),
  (0x1E4D, 0x1E4D),
  (0x1E4F, 0x1E4F),
  (0x1E51, 0x1E51),
  (0x1E53, 0x1E53),
  (0x1E55, 0x1E55),
  (0x1E57, 0x1E57),
  (0x1E59, 0x1E59),
  (0x1E5B, 0x1E5B),
  (0x1E5D, 0x1E5D),
  (0x1E5F, 0x1E5F),
  (0x1E61, 0x1E61),
  (0x1E63, 0x1E63),
  (0x1E65, 0x1E65),
  (0x1E67, 0x1E67),
  (0x1E69, 0x1E69),
  (0x1E6B, 0x1E6B),
  (0x1E6D, 0x1E6D),
  (0x1E6F, 0x1E6F),
  (0x1E71, 0x1E71),
  (0x1E73, 0x1E73),
  (0x1E75, 0x1E75),
  (0x1E77, 0x1E77),
  (0x1E79, 0x1E79),
  (0x1E7B, 0x1E7B),
  (0x1E7D, 0x1E7D),
  (0x1E7F, 0x1E7F),
  (0x1E81, 0x1E81),
  (0x1E83, 0x1E83),
  (0x1E85, 0x1E85),
  (0x1E87, 0x1E87),
  (0x1E89, 0x1E89),
  (0x1E8B, 0x1E8B),
  (0x1E8D, 0x1E8D),
  (0x1E8F, 0x1E8F),
  (0x1E91, 0x1E91),
  (0x1E93, 0x1E93),
  (0x1E95, 0x1E99),
  (0x1E9C, 0x1E9D),
  (0x1E9F, 0x1E9F),
  (0x1EA1, 0x1EA1),
  (0x1EA3, 0x1EA3),
  (0x1EA5, 0x1EA5),
  (0x1EA7, 0x1EA7),
  (0x1EA9, 0x1EA9),
  (0x1EAB, 0x1EAB),
  (0x1EAD, 0x1EAD),
  (0x1EAF, 0x1EAF),
  (0x1EB1, 0x1EB1),
  (0x1EB3, 0x1EB3),
  (0x1EB5, 0x1EB5),
  (0x1EB7, 0x1EB7),
  (0x1EB9, 0x1EB9),
  (0x1EBB, 0x1EBB),
  (0x1EBD, 0x1EBD),
  (0x1EBF, 0x1EBF),
  (0x1EC1, 0x1EC1),
  (0x1EC3, 0x1EC3),
  (0x1EC5, 0x1EC5) ]

/-- Rows 640 to 703 of the table. -/
def validRanges10 : List (Nat × Nat) := [
  (0x1EC7, 0x1EC7),
  (0x1EC9, 0x1EC9),
  (0x1ECB, 0x1ECB),
  (0x1ECD, 0x1ECD),
  (0x1ECF, 0x1ECF),
  (0x1ED1, 0x1ED1),
  (0x1ED3, 0x1ED3),
  (0x1ED5, 0x1ED5),
  (0x1ED7, 0x1ED7),
  (0x1ED9, 0x1ED9),
  (0x1EDB, 0x1EDB),
  (0x1EDD, 0x1EDD),
  (0x1EDF, 0x1EDF),
  (0x1EE1, 0x1EE1),
  (0x1EE3, 0x1EE3),
  (0x1EE5, 0x1EE5),
  (0x1EE7, 0x1EE7),
  (0x1EE9, 0x1EE9),
  (0x1EEB, 0x1EEB),
  (0x1EED, 0x1EED),
  (0x1EEF, 0x1EEF),
  (0x1EF1, 0x1EF1),
  (0x1EF3, 0x1EF3),
  (0x1EF5, 0x1EF5),
  (0x1EF7, 0x1EF7),
  (0x1EF9, 0x1EF9),
  (0x1EFB, 0x1EFB),
  (0x1EFD, 0x1EFD),
  (0x1EFF, 0x1F07),
  (0x1F10, 0x1F15),
  (0x1F20, 0x1F27),
  (0x1F30, 0x1F37),
  (0x1F40, 0x1F45),
  (0x1F50, 0x1F57),
  (0x1F60, 0x1F67),
  (0x1F70, 0x1F70),
  (0x1F72, 0x1F72),
  (0x1F74, 0x1F74),
  (0x1F76, 0x1F76),
  (0x1F78, 0x1F78),
  (0x1F7A, 0x1F7A),
  (0x1F7C, 0x1F7C),
  (0x1FB0, 0x1FB1),
  (0x1FB6, 0x1FB6),
  (0x1FC6, 0x1FC6),
  (0x1FD0, 0x1FD2),
  (0x1FD6, 0x1FD7),
  (0x1FE0, 0x1FE2),
  (0x1FE4, 0x1FE7),
  (0x1FF6, 0x1FF6),
  (0x214E, 0x214E),
  (0x2184, 0x2184),
  (0x2C30, 0x2C5F),
  (0x2C61, 0x2C61),
  (0x2C65, 0x2C66),
  (0x2C68, 0x2C68),
  (0x2C6A, 0x2C6A),
  (0x2C6C, 0x2C6C),
  (0x2C71, 0x2C71),
  (0x2C73, 0x2C74),
  (0x2C76, 0x2C7B),
  (0x2C81, 0x2C81),
  (0x2C83, 0x2C83),
  (0x2C85, 0x2C85) ]

/-- Rows 704 to 767 of the table. -/
def validRanges11 : List (Nat × Nat) := [
  (0x2C87, 0x2C87),
  (0x2C89, 0x2C89),
  (0x2C8B, 0x2C8B),
  (0x2C8D, 0x2C8D),
  (0x2C8F, 0x2C8F),
  (0x2C91, 0x2C91),
  (0x2C93, 0x2C93),
  (0x2C95, 0x2C95),
  (0x2C97, 0x2C97),
  (0x2C99, 0x2C99),
  (0x2C9B, 0x2C9B),
  (0x2C9D, 0x2C9D),
  (0x2C9F, 0x2C9F),
  (0x2CA1, 0x2CA1),
  (0x2CA3, 0x2CA3),
  (0x2CA5, 0x2CA5),
  (0x2CA7, 0x2CA7),
  (0x2CA9, 0x2CA9),
  (0x2CAB, 0x2CAB),
  (0x2CAD, 0x2CAD),
  (0x2CAF, 0x2CAF),
  (0x2CB1, 0x2CB1),
  (0x2CB3, 0x2CB3),
  (0x2CB5, 0x2CB5),
  (0x2CB7, 0x2CB7),
  (0x2CB9, 0x2CB9),
  (0x2CBB, 0x2CBB),
  (0x2CBD, 0x2CBD),
  (0x2CBF, 0x2CBF),
  (0x2CC1, 0x2CC1),
  (0x2CC3, 0x2CC3),
  (0x2CC5, 0x2CC5),
  (0x2CC7, 0x2CC7),
  (0x2CC9, 0x2CC9),
  (0x2CCB, 0x2CCB),
  (0x2CCD, 0x2CCD),
  (0x2CCF, 0x2CCF),
  (0x2CD1, 0x2CD1),
  (0x2CD3, 0x2CD3),
  (0x2CD5, 0x2CD5),
  (0x2CD7, 0x2CD7),
  (0x2CD9, 0x2CD9),
  (0x2CDB, 0x2CDB),
  (0x2CDD, 0x2CDD),
  (0x2CDF, 0x2CDF),
  (0x2CE1, 0x2CE1),
  (0x2CE3, 0x2CE4),
  (0x2CEC, 0x2CEC),
  (0x2CEE, 0x2CF1),
  (0x2CF3, 0x2CF3),
  (0x2D00, 0x2D25),
  (0x2D27, 0x2D27),
  (0x2D2D, 0x2D2D),
  (0x2D30, 0x2D67),
  (0x2D7F, 0x2D96),
  (0x2DA0, 0x2DA6),
  (0x2DA8, 0x2DAE),
  (0x2DB0, 0x2DB6),
  (0x2DB8, 0x2DBE),
  (0x2DC0, 0x2DC6),
  (0x2DC8, 0x2DCE),
  (0x2DD0, 0x2DD6),
  (0x2DD8, 0x2DDE),
  (0x2DE0, 0x2DFF) ]

/-- Rows 768 to 831 of the table. -/
def validRanges12 : List (Nat × Nat) := [
  (0x2E2F, 0x2E2F),
  (0x3005, 0x3007),
  (0x302A, 0x302D),
  (0x303C, 0x303C),
  (0x3041, 0x3096),
  (0x3099, 0x309A),
  (0x309D, 0x309E),
  (0x30A1, 0x30FA),
  (0x30FC, 0x30FE),
  (0x3105, 0x312F),
  (0x31A0, 0x31BF),
  (0x31F0, 0x31FF),
  (0x3400, 0x4DBF),
  (0x4E00, 0xA48C),
  (0xA4D0, 0xA4FD),
  (0xA500, 0xA60C),
  (0xA610, 0xA62B),
  (0xA641, 0xA641),
  (0xA643, 0xA643),
  (0xA645, 0xA645),
  (0xA647, 0xA647),
  (0xA649, 0xA649),
  (0xA64B, 0xA64B),
  (0xA64D, 0xA64D),
  (0xA64F, 0xA64F),
  (0xA651, 0xA651),
  (0xA653, 0xA653),
  (0xA655, 0xA655),
  (0xA657, 0xA657),
  (0xA659, 0xA659),
  (0xA65B, 0xA65B),
  (0xA65D, 0xA65D),
  (0xA65F, 0xA65F),
  (0xA661, 0xA661),
  (0xA663, 0xA663),
  (0xA665, 0xA665),
  (0xA667, 0xA667),
  (0xA669, 0xA669),
  (0xA66B, 0xA66B),
  (0xA66D, 0xA66F),
  (0xA674, 0xA67D),
  (0xA67F, 0xA67F),
  (0xA681, 0xA681),
  (0xA683, 0xA683),
  (0xA685, 0xA685),
  (0xA687, 0xA687),
  (0xA689, 0xA689),
  (0xA68B, 0xA68B),
  (0xA68D, 0xA68D),
  (0xA68F, 0xA68F),
  (0xA691, 0xA691),
  (0xA693, 0xA693),
  (0xA695, 0xA695),
  (0xA697, 0xA697),
  (0xA699, 0xA699),
  (0xA69B, 0xA69B),
  (0xA69E, 0xA6E5),
  (0xA6F0, 0xA6F1),
  (0xA717, 0xA71F),
  (0xA723, 0xA723),
  (0xA725, 0xA725),
  (0xA727, 0xA727),
  (0xA729, 0xA729),
  (0xA72B, 0xA72B) ]

/-- Rows 832 to 895 of the table. -/
def validRanges13 : List (Nat × Nat) := [
  (0xA72D, 0xA72D),
  (0xA72F, 0xA731),
  (0xA733, 0xA733),
  (0xA735, 0xA735),
  (0xA737, 0xA737),
  (0xA739, 0xA739),
  (0xA73B, 0xA73B),
  (0xA73D, 0xA73D),
  (0xA73F, 0xA73F),
  (0xA741, 0xA741),
  (0xA743, 0xA743),
  (0xA745, 0xA745),
  (0xA747, 0xA747),
  (0xA749, 0xA749),
  (0xA74B, 0xA74B),
  (0xA74D, 0xA74D),
  (0xA74F, 0xA74F),
  (0xA751, 0xA751),
  (0xA753, 0xA753),
  (0xA755, 0xA755),
  (0xA757, 0xA757),
  (0xA759, 0xA759),
  (0xA75B, 0xA75B),
  (0xA75D, 0xA75D),
  (0xA75F, 0xA75F),
  (0xA761, 0xA761),
  (0xA763, 0xA763),
  (0xA765, 0xA765),
  (0xA767, 0xA767),
  (0xA769, 0xA769),
  (0xA76B, 0xA76B),
  (0xA76D, 0xA76D),
  (0xA76F, 0xA76F),
  (0xA771, 0xA778),
  (0xA77A, 0xA77A),
  (0xA77C, 0xA77C),
  (0xA77F, 0xA77F),
  (0xA781, 0xA781),
  (0xA783, 0xA783),
  (0xA785, 0xA785),
  (0xA787, 0xA788),
  (0xA78C, 0xA78C),
  (0xA78E, 0xA78F),
  (0xA791, 0xA791),
  (0xA793, 0xA795),
  (0xA797, 0xA797),
  (0xA799, 0xA799),
  (0xA79B, 0xA79B),
  (0xA79D, 0xA79D),
  (0xA79F, 0xA79F),
  (0xA7A1, 0xA7A1),
  (0xA7A3, 0xA7A3),
  (0xA7A5, 0xA7A5),
  (0xA7A7, 0xA7A7),
  (0xA7A9, 0xA7A9),
  (0xA7AF, 0xA7AF),
  (0xA7B5, 0xA7B5),
  (0xA7B7, 0xA7B7),
  (0xA7B9, 0xA7B9),
  (0xA7BB, 0xA7BB),
  (0xA7BD, 0xA7BD),
  (0xA7BF, 0xA7BF),
  (0xA7C1, 0xA7C1),
  (0xA7C3, 0xA7C3) ]

/-- Rows 896 to 959 of the table. -/
def validRanges14 : List (Nat × Nat) := [
  (0xA7C8, 0xA7C8),
  (0xA7CA, 0xA7CA),
  (0xA7D1, 0xA7D1),
  (0xA7D3, 0xA7D3),
  (0xA7D5, 0xA7D5),
  (0xA7D7, 0xA7D7),
  (0xA7D9, 0xA7D9),
  (0xA7F6, 0xA7F7),
  (0xA7FA, 0xA827),
  (0xA82C, 0xA82C),
  (0xA840, 0xA873),
  (0xA880, 0xA8C5),
  (0xA8D0, 0xA8D9),
  (0xA8E0, 0xA8F7),
  (0xA8FB, 0xA8FB),
  (0xA8FD, 0xA92D),
  (0xA930, 0xA953),
  (0xA980, 0xA9C0),
  (0xA9CF, 0xA9D9),
  (0xA9E0, 0xA9FE),
  (0xAA00, 0xAA36),
  (0xAA40, 0xAA4D),
  (0xAA50, 0xAA59),
  (0xAA60, 0xAA76),
  (0xAA7A, 0xAAC2),
  (0xAADB, 0xAADD),
  (0xAAE0, 0xAAEF),
  (0xAAF2, 0xAAF6),
  (0xAB01, 0xAB06),
  (0xAB09, 0xAB0E),
  (0xAB11, 0xAB16),
  (0xAB20, 0xAB26),
  (0xAB28, 0xAB2E),
  (0xAB30, 0xAB5A),
  (0xAB60, 0xAB68),
  (0xABC0, 0xABEA),
  (0xABEC, 0xABED),
  (0xABF0, 0xABF9),
  (0xAC00, 0xD7A3),
  (0xFA0E, 0xFA0F),
  (0xFA11, 0xFA11),
  (0xFA13, 0xFA14),
  (0xFA1F, 0xFA1F),
  (0xFA21, 0xFA21),
  (0xFA23, 0xFA24),
  (0xFA27, 0xFA29),
  (0xFB1E, 0xFB1E),
  (0xFE20, 0xFE2F),
  (0xFE73, 0xFE73),
  (0x10000, 0x1000B),
  (0x1000D, 0x10026),
  (0x10028, 0x1003A),
  (0x1003C, 0x1003D),
  (0x1003F, 0x1004D),
  (0x10050, 0x1005D),
  (0x10080, 0x100FA),
  (0x101FD, 0x101FD),
  (0x10280, 0x1029C),
  (0x102A0, 0x102D0),
  (0x102E0, 0x102E0),
  (0x10300, 0x1031F),
  (0x1032D, 0x10340),
  (0x10342, 0x10349),
  (0x10350, 0x1037A) ]

/-- Rows 960 to 1023 of the table. -/
def validRanges15 : List (Nat × Nat) := [
  (0x10380, 0x1039D),
  (0x103A0, 0x103C3),
  (0x103C8, 0x103CF),
  (0x10428, 0x1049D),
  (0x104A0, 0x104A9),
  (0x104D8, 0x104FB),
  (0x10500, 0x10527),
  (0x10530, 0x10563),
  (0x10597, 0x105A1),
  (0x105A3, 0x105B1),
  (0x105B3, 0x105B9),
  (0x105BB, 0x105BC),
  (0x10600, 0x10736),
  (0x10740, 0x10755),
  (0x10760, 0x10767),
  (0x10780, 0x10780),
  (0x10800, 0x10805),
  (0x10808, 0x10808),
  (0x1080A, 0x10835),
  (0x10837, 0x10838),
  (0x1083C, 0x1083C),
  (0x1083F, 0x10855),
  (0x10860, 0x10876),
  (0x10880, 0x1089E),
  (0x108E0, 0x108F2),
  (0x108F4, 0x108F5),
  (0x10900, 0x10915),
  (0x10920, 0x10939),
  (0x10980, 0x109B7),
  (0x109BE, 0x109BF),
  (0x10A00, 0x10A03),
  (0x10A05, 0x10A06),
  (0x10A0C, 0x10A13),
  (0x10A15, 0x10A17),
  (0x10A19, 0x10A35),
  (0x10A38, 0x10A3A),
  (0x10A3F, 0x10A3F),
  (0x10A60, 0x10A7C),
  (0x10A80, 0x10A9C),
  (0x10AC0, 0x10AC7),
  (0x10AC9, 0x10AE6),
  (0x10B00, 0x10B35),
  (0x10B40, 0x10B55),
  (0x10B60, 0x10B72),
  (0x10B80, 0x10B91),
  (0x10C00, 0x10C48),
  (0x10CC0, 0x10CF2),
  (0x10D00, 0x10D27),
  (0x10D30, 0x10D39),
  (0x10E80, 0x10EA9),
  (0x10EAB, 0x10EAC),
  (0x10EB0, 0x10EB1),
  (0x10F00, 0x10F1C),
  (0x10F27, 0x10F27),
  (0x10F30, 0x10F50),
  (0x10F70, 0x10F85),
  (0x10FB0, 0x10FC4),
  (0x10FE0, 0x10FF6),
  (0x11000, 0x11046),
  (0x11066, 0x11075),
  (0x1107F, 0x110BA),
  (0x110C2, 0x110C2),
  (0x110D0, 0x110E8),
  (0x110F0, 0x110F9) ]

/-- Rows 1024 to 1087 of the table. -/
def validRanges16 : List (Nat × Nat) := [
  (0x11100, 0x11134),
  (0x11136, 0x1113F),
  (0x11144, 0x11147),
  (0x11150, 0x11173),
  (0x11176, 0x11176),
  (0x11180, 0x111C4),
  (0x111C9, 0x111CC),
  (0x111CE, 0x111DA),
  (0x111DC, 0x111DC),
  (0x11200, 0x11211),
  (0x11213, 0x11237),
  (0x1123E, 0x1123E),
  (0x11280, 0x11286),
  (0x11288, 0x11288),
  (0x1128A, 0x1128D),
  (0x1128F, 0x1129D),
  (0x1129F, 0x112A8),
  (0x112B0, 0x112EA),
  (0x112F0, 0x112F9),
  (0x11300, 0x11303),
  (0x11305, 0x1130C),
  (0x1130F, 0x11310),
  (0x11313, 0x11328),
  (0x1132A, 0x11330),
  (0x11332, 0x11333),
  (0x11335, 0x11339),
  (0x1133B, 0x11344),
  (0x11347, 0x11348),
  (0x1134B, 0x1134D),
  (0x11350, 0x11350),
  (0x11357, 0x11357),
  (0x1135D, 0x11363),
  (0x11366, 0x1136C),
  (0x11370, 0x11374),
  (0x11400, 0x1144A),
  (0x11450, 0x11459),
  (0x1145E, 0x11461),
  (0x11480, 0x114C5),
  (0x114C7, 0x114C7),
  (0x114D0, 0x114D9),
  (0x11580, 0x115B5),
  (0x115B8, 0x115C0),
  (0x115D8, 0x115DD),
  (0x11600, 0x11640),
  (0x11644, 0x11644),
  (0x11650, 0x11659),
  (0x11680, 0x116B8),
  (0x116C0, 0x116C9),
  (0x11700, 0x1171A),
  (0x1171D, 0x1172B),
  (0x11730, 0x11739),
  (0x11740, 0x11746),
  (0x11800, 0x1183A),
  (0x118C0, 0x118E9),
  (0x118FF, 0x11906),
  (0x11909, 0x11909),
  (0x1190C, 0x11913),
  (0x11915, 0x11916),
  (0x11918, 0x11935),
  (0x11937, 0x11938),
  (0x1193B, 0x11943),
  (0x11950, 0x11959),
  (0x119A0, 0x119A7),
  (0x119AA, 0x119D7) ]

/-- Rows 1088 to 1151 of the table. -/
def validRanges17 : List (Nat × Nat) := [
  (0x119DA, 0x119E1),
  (0x119E3, 0x119E4),
  (0x11A00, 0x11A3E),
  (0x11A47, 0x11A47),
  (0x11A50, 0x11A99),
  (0x11A9D, 0x11A9D),
  (0x11AB0, 0x11AF8),
  (0x11C00, 0x11C08),
  (0x11C0A, 0x11C36),
  (0x11C38, 0x11C40),
  (0x11C50, 0x11C59),
  (0x11C72, 0x11C8F),
  (0x11C92, 0x11CA7),
  (0x11CA9, 0x11CB6),
  (0x11D00, 0x11D06),
  (0x11D08, 0x11D09),
  (0x11D0B, 0x11D36),
  (0x11D3A, 0x11D3A),
  (0x11D3C, 0x11D3D),
  (0x11D3F, 0x11D47),
  (0x11D50, 0x11D59),
  (0x11D60, 0x11D65),
  (0x11D67, 0x11D68),
  (0x11D6A, 0x11D8E),
  (0x11D90, 0x11D91),
  (0x11D93, 0x11D98),
  (0x11DA0, 0x11DA9),
  (0x11EE0, 0x11EF6),
  (0x11FB0, 0x11FB0),
  (0x12000, 0x12399),
  (0x12480, 0x12543),
  (0x12F90, 0x12FF0),
  (0x13000, 0x1342E),
  (0x14400, 0x14646),
  (0x16800, 0x16A38),
  (0x16A40, 0x16A5E),
  (0x16A60, 0x16A69),
  (0x16A70, 0x16ABE),
  (0x16AC0, 0x16AC9),
  (0x16AD0, 0x16AED),
  (0x16AF0, 0x16AF4),
  (0x16B00, 0x16B36),
  (0x16B40, 0x16B43),
  (0x16B50, 0x16B59),
  (0x16B63, 0x16B77),
  (0x16B7D, 0x16B8F),
  (0x16E60, 0x16E7F),
  (0x16F00, 0x16F4A),
  (0x16F4F, 0x16F87),
  (0x16F8F, 0x16F9F),
  (0x16FE0, 0x16FE1),
  (0x16FE3, 0x16FE4),
  (0x16FF0, 0x16FF1),
  (0x17000, 0x187F7),
  (0x18800, 0x18CD5),
  (0x18D00, 0x18D08),
  (0x1AFF0, 0x1AFF3),
  (0x1AFF5, 0x1AFFB),
  (0x1AFFD, 0x1AFFE),
  (0x1B000, 0x1B122),
  (0x1B150, 0x1B152),
  (0x1B164, 0x1B167),
  (0x1B170, 0x1B2FB),
  (0x1BC00, 0x1BC6A) ]

/-- Rows 1152 to 1189 of the table. -/
def validRanges18 : List (Nat × Nat) := [
  (0x1BC70, 0x1BC7C),
  (0x1BC80, 0x1BC88),
  (0x1BC90, 0x1BC99),
  (0x1BC9D, 0x1BC9E),
  (0x1CF00, 0x1CF2D),
  (0x1CF30, 0x1CF46),
  (0x1DA00, 0x1DA36),
  (0x1DA3B, 0x1DA6C),
  (0x1DA75, 0x1DA75),
  (0x1DA84, 0x1DA84),
  (0x1DA9B, 0x1DA9F),
  (0x1DAA1, 0x1DAAF),
  (0x1DF00, 0x1DF1E),
  (0x1E000, 0x1E006),
  (0x1E008, 0x1E018),
  (0x1E01B, 0x1E021),
  (0x1E023, 0x1E024),
  (0x1E026, 0x1E02A),
  (0x1E100, 0x1E12C),
  (0x1E130, 0x1E13D),
  (0x1E140, 0x1E149),
  (0x1E14E, 0x1E14E),
  (0x1E290, 0x1E2AE),
  (0x1E2C0, 0x1E2F9),
  (0x1E7E0, 0x1E7E6),
  (0x1E7E8, 0x1E7EB),
  (0x1E7ED, 0x1E7EE),
  (0x1E7F0, 0x1E7FE),
  (0x1E800, 0x1E8C4),
  (0x1E8D0, 0x1E8D6),
  (0x1E922, 0x1E94B),
  (0x1E950, 0x1E959),
  (0x20000, 0x2A6DF),
  (0x2A700, 0x2B738),
  (0x2B740, 0x2B81D),
  (0x2B820, 0x2CEA1),
  (0x2CEB0, 0x2EBE0),
  (0x30000, 0x3134A) ]

/-- Code points a label may hold anywhere. -/
def validRanges : List (Nat × Nat) :=
  validRanges0 ++
    validRanges1 ++
    validRanges2 ++
    validRanges3 ++
    validRanges4 ++
    validRanges5 ++
    validRanges6 ++
    validRanges7 ++
    validRanges8 ++
    validRanges9 ++
    validRanges10 ++
    validRanges11 ++
    validRanges12 ++
    validRanges13 ++
    validRanges14 ++
    validRanges15 ++
    validRanges16 ++
    validRanges17 ++
    validRanges18

/-- Rows 0 to 63 of the table. -/
def markRanges0 : List (Nat × Nat) := [
  (0x0300, 0x036F),
  (0x0483, 0x0489),
  (0x0591, 0x05BD),
  (0x05BF, 0x05BF),
  (0x05C1, 0x05C2),
  (0x05C4, 0x05C5),
  (0x05C7, 0x05C7),
  (0x0610, 0x061A),
  (0x064B, 0x065F),
  (0x0670, 0x0670),
  (0x06D6, 0x06DC),
  (0x06DF, 0x06E4),
  (0x06E7, 0x06E8),
  (0x06EA, 0x06ED),
  (0x0711, 0x0711),
  (0x0730, 0x074A),
  (0x07A6, 0x07B0),
  (0x07EB, 0x07F3),
  (0x07FD, 0x07FD),
  (0x0816, 0x0819),
  (0x081B, 0x0823),
  (0x0825, 0x0827),
  (0x0829, 0x082D),
  (0x0859, 0x085B),
  (0x0898, 0x089F),
  (0x08CA, 0x08E1),
  (0x08E3, 0x0903),
  (0x093A, 0x093C),
  (0x093E, 0x094F),
  (0x0951, 0x0957),
  (0x0962, 0x0963),
  (0x0981, 0x0983),
  (0x09BC, 0x09BC),
  (0x09BE, 0x09C4),
  (0x09C7, 0x09C8),
  (0x09CB, 0x09CD),
  (0x09D7, 0x09D7),
  (0x09E2, 0x09E3),
  (0x09FE, 0x09FE),
  (0x0A01, 0x0A03),
  (0x0A3C, 0x0A3C),
  (0x0A3E, 0x0A42),
  (0x0A47, 0x0A48),
  (0x0A4B, 0x0A4D),
  (0x0A51, 0x0A51),
  (0x0A70, 0x0A71),
  (0x0A75, 0x0A75),
  (0x0A81, 0x0A83),
  (0x0ABC, 0x0ABC),
  (0x0ABE, 0x0AC5),
  (0x0AC7, 0x0AC9),
  (0x0ACB, 0x0ACD),
  (0x0AE2, 0x0AE3),
  (0x0AFA, 0x0AFF),
  (0x0B01, 0x0B03),
  (0x0B3C, 0x0B3C),
  (0x0B3E, 0x0B44),
  (0x0B47, 0x0B48),
  (0x0B4B, 0x0B4D),
  (0x0B55, 0x0B57),
  (0x0B62, 0x0B63),
  (0x0B82, 0x0B82),
  (0x0BBE, 0x0BC2),
  (0x0BC6, 0x0BC8) ]

/-- Rows 64 to 127 of the table. -/
def markRanges1 : List (Nat × Nat) := [
  (0x0BCA, 0x0BCD),
  (0x0BD7, 0x0BD7),
  (0x0C00, 0x0C04),
  (0x0C3C, 0x0C3C),
  (0x0C3E, 0x0C44),
  (0x0C46, 0x0C48),
  (0x0C4A, 0x0C4D),
  (0x0C55, 0x0C56),
  (0x0C62, 0x0C63),
  (0x0C81, 0x0C83),
  (0x0CBC, 0x0CBC),
  (0x0CBE, 0x0CC4),
  (0x0CC6, 0x0CC8),
  (0x0CCA, 0x0CCD),
  (0x0CD5, 0x0CD6),
  (0x0CE2, 0x0CE3),
  (0x0D00, 0x0D03),
  (0x0D3B, 0x0D3C),
  (0x0D3E, 0x0D44),
  (0x0D46, 0x0D48),
  (0x0D4A, 0x0D4D),
  (0x0D57, 0x0D57),
  (0x0D62, 0x0D63),
  (0x0D81, 0x0D83),
  (0x0DCA, 0x0DCA),
  (0x0DCF, 0x0DD4),
  (0x0DD6, 0x0DD6),
  (0x0DD8, 0x0DDF),
  (0x0DF2, 0x0DF3),
  (0x0E31, 0x0E31),
  (0x0E34, 0x0E3A),
  (0x0E47, 0x0E4E),
  (0x0EB1, 0x0EB1),
  (0x0EB4, 0x0EBC),
  (0x0EC8, 0x0ECD),
  (0x0F18, 0x0F19),
  (0x0F35, 0x0F35),
  (0x0F37, 0x0F37),
  (0x0F39, 0x0F39),
  (0x0F3E, 0x0F3F),
  (0x0F71, 0x0F84),
  (0x0F86, 0x0F87),
  (0x0F8D, 0x0F97),
  (0x0F99, 0x0FBC),
  (0x0FC6, 0x0FC6),
  (0x102B, 0x103E),
  (0x1056, 0x1059),
  (0x105E, 0x1060),
  (0x1062, 0x1064),
  (0x1067, 0x106D),
  (0x1071, 0x1074),
  (0x1082, 0x108D),
  (0x108F, 0x108F),
  (0x109A, 0x109D),
  (0x135D, 0x135F),
  (0x1712, 0x1715),
  (0x1732, 0x1734),
  (0x1752, 0x1753),
  (0x1772, 0x1773),
  (0x17B4, 0x17D3),
  (0x17DD, 0x17DD),
  (0x180B, 0x180D),
  (0x180F, 0x180F),
  (0x1885, 0x1886) ]

/-- Rows 128 to 191 of the table. -/
def markRanges2 : List (Nat × Nat) := [
  (0x18A9, 0x18A9),
  (0x1920, 0x192B),
  (0x1930, 0x193B),
  (0x1A17, 0x1A1B),
  (0x1A55, 0x1A5E),
  (0x1A60, 0x1A7C),
  (0x1A7F, 0x1A7F),
  (0x1AB0, 0x1ACE),
  (0x1B00, 0x1B04),
  (0x1B34, 0x1B44),
  (0x1B6B, 0x1B73),
  (0x1B80, 0x1B82),
  (0x1BA1, 0x1BAD),
  (0x1BE6, 0x1BF3),
  (0x1C24, 0x1C37),
  (0x1CD0, 0x1CD2),
  (0x1CD4, 0x1CE8),
  (0x1CED, 0x1CED),
  (0x1CF4, 0x1CF4),
  (0x1CF7, 0x1CF9),
  (0x1DC0, 0x1DFF),
  (0x20D0, 0x20F0),
  (0x2CEF, 0x2CF1),
  (0x2D7F, 0x2D7F),
  (0x2DE0, 0x2DFF),
  (0x302A, 0x302F),
  (0x3099, 0x309A),
  (0xA66F, 0xA672),
  (0xA674, 0xA67D),
  (0xA69E, 0xA69F),
  (0xA6F0, 0xA6F1),
  (0xA802, 0xA802),
  (0xA806, 0xA806),
  (0xA80B, 0xA80B),
  (0xA823, 0xA827),
  (0xA82C, 0xA82C),
  (0xA880, 0xA881),
  (0xA8B4, 0xA8C5),
  (0xA8E0, 0xA8F1),
  (0xA8FF, 0xA8FF),
  (0xA926, 0xA92D),
  (0xA947, 0xA953),
  (0xA980, 0xA983),
  (0xA9B3, 0xA9C0),
  (0xA9E5, 0xA9E5),
  (0xAA29, 0xAA36),
  (0xAA43, 0xAA43),
  (0xAA4C, 0xAA4D),
  (0xAA7B, 0xAA7D),
  (0xAAB0, 0xAAB0),
  (0xAAB2, 0xAAB4),
  (0xAAB7, 0xAAB8),
  (0xAABE, 0xAABF),
  (0xAAC1, 0xAAC1),
  (0xAAEB, 0xAAEF),
  (0xAAF5, 0xAAF6),
  (0xABE3, 0xABEA),
  (0xABEC, 0xABED),
  (0xFB1E, 0xFB1E),
  (0xFE00, 0xFE0F),
  (0xFE20, 0xFE2F),
  (0x101FD, 0x101FD),
  (0x102E0, 0x102E0),
  (0x10376, 0x1037A) ]

/-- Rows 192 to 255 of the table. -/
def markRanges3 : List (Nat × Nat) := [
  (0x10A01, 0x10A03),
  (0x10A05, 0x10A06),
  (0x10A0C, 0x10A0F),
  (0x10A38, 0x10A3A),
  (0x10A3F, 0x10A3F),
  (0x10AE5, 0x10AE6),
  (0x10D24, 0x10D27),
  (0x10EAB, 0x10EAC),
  (0x10F46, 0x10F50),
  (0x10F82, 0x10F85),
  (0x11000, 0x11002),
  (0x11038, 0x11046),
  (0x11070, 0x11070),
  (0x11073, 0x11074),
  (0x1107F, 0x11082),
  (0x110B0, 0x110BA),
  (0x110C2, 0x110C2),
  (0x11100, 0x11102),
  (0x11127, 0x11134),
  (0x11145, 0x11146),
  (0x11173, 0x11173),
  (0x11180, 0x11182),
  (0x111B3, 0x111C0),
  (0x111C9, 0x111CC),
  (0x111CE, 0x111CF),
  (0x1122C, 0x11237),
  (0x1123E, 0x1123E),
  (0x112DF, 0x112EA),
  (0x11300, 0x11303),
  (0x1133B, 0x1133C),
  (0x1133E, 0x11344),
  (0x11347, 0x11348),
  (0x1134B, 0x1134D),
  (0x11357, 0x11357),
  (0x11362, 0x11363),
  (0x11366, 0x1136C),
  (0x11370, 0x11374),
  (0x11435, 0x11446),
  (0x1145E, 0x1145E),
  (0x114B0, 0x114C3),
  (0x115AF, 0x115B5),
  (0x115B8, 0x115C0),
  (0x115DC, 0x115DD),
  (0x11630, 0x11640),
  (0x116AB, 0x116B7),
  (0x1171D, 0x1172B),
  (0x1182C, 0x1183A),
  (0x11930, 0x11935),
  (0x11937, 0x11938),
  (0x1193B, 0x1193E),
  (0x11940, 0x11940),
  (0x11942, 0x11943),
  (0x119D1, 0x119D7),
  (0x119DA, 0x119E0),
  (0x119E4, 0x119E4),
  (0x11A01, 0x11A0A),
  (0x11A33, 0x11A39),
  (0x11A3B, 0x11A3E),
  (0x11A47, 0x11A47),
  (0x11A51, 0x11A5B),
  (0x11A8A, 0x11A99),
  (0x11C2F, 0x11C36),
  (0x11C38, 0x11C3F),
  (0x11C92, 0x11CA7) ]

/-- Rows 256 to 298 of the table. -/
def markRanges4 : List (Nat × Nat) := [
  (0x11CA9, 0x11CB6),
  (0x11D31, 0x11D36),
  (0x11D3A, 0x11D3A),
  (0x11D3C, 0x11D3D),
  (0x11D3F, 0x11D45),
  (0x11D47, 0x11D47),
  (0x11D8A, 0x11D8E),
  (0x11D90, 0x11D91),
  (0x11D93, 0x11D97),
  (0x11EF3, 0x11EF6),
  (0x16AF0, 0x16AF4),
  (0x16B30, 0x16B36),
  (0x16F4F, 0x16F4F),
  (0x16F51, 0x16F87),
  (0x16F8F, 0x16F92),
  (0x16FE4, 0x16FE4),
  (0x16FF0, 0x16FF1),
  (0x1BC9D, 0x1BC9E),
  (0x1CF00, 0x1CF2D),
  (0x1CF30, 0x1CF46),
  (0x1D165, 0x1D169),
  (0x1D16D, 0x1D172),
  (0x1D17B, 0x1D182),
  (0x1D185, 0x1D18B),
  (0x1D1AA, 0x1D1AD),
  (0x1D242, 0x1D244),
  (0x1DA00, 0x1DA36),
  (0x1DA3B, 0x1DA6C),
  (0x1DA75, 0x1DA75),
  (0x1DA84, 0x1DA84),
  (0x1DA9B, 0x1DA9F),
  (0x1DAA1, 0x1DAAF),
  (0x1E000, 0x1E006),
  (0x1E008, 0x1E018),
  (0x1E01B, 0x1E021),
  (0x1E023, 0x1E024),
  (0x1E026, 0x1E02A),
  (0x1E130, 0x1E136),
  (0x1E2AE, 0x1E2AE),
  (0x1E2EC, 0x1E2EF),
  (0x1E8D0, 0x1E8D6),
  (0x1E944, 0x1E94A),
  (0xE0100, 0xE01EF) ]

/-- Code points of general category M. -/
def markRanges : List (Nat × Nat) :=
  markRanges0 ++
    markRanges1 ++
    markRanges2 ++
    markRanges3 ++
    markRanges4

/-- Rows 0 to 63 of the table. -/
def directionRanges0 : List (Nat × Nat × Direction) := [
  (0x002D, 0x002D, .europeanSeparator),
  (0x0030, 0x0039, .europeanNumber),
  (0x00B7, 0x00B7, .otherNeutral),
  (0x02B9, 0x02BA, .otherNeutral),
  (0x02C6, 0x02CF, .otherNeutral),
  (0x02EC, 0x02EC, .otherNeutral),
  (0x0300, 0x033F, .nonspacingMark),
  (0x0342, 0x0342, .nonspacingMark),
  (0x0346, 0x034E, .nonspacingMark),
  (0x0350, 0x036F, .nonspacingMark),
  (0x0375, 0x0375, .otherNeutral),
  (0x0483, 0x0487, .nonspacingMark),
  (0x0591, 0x05BD, .nonspacingMark),
  (0x05BF, 0x05BF, .nonspacingMark),
  (0x05C1, 0x05C2, .nonspacingMark),
  (0x05C4, 0x05C5, .nonspacingMark),
  (0x05C7, 0x05C7, .nonspacingMark),
  (0x05D0, 0x05EA, .right),
  (0x05EF, 0x05F4, .right),
  (0x0610, 0x061A, .nonspacingMark),
  (0x0620, 0x063F, .arabic),
  (0x0641, 0x064A, .arabic),
  (0x064B, 0x065F, .nonspacingMark),
  (0x0660, 0x0669, .arabicNumber),
  (0x066E, 0x066F, .arabic),
  (0x0670, 0x0670, .nonspacingMark),
  (0x0671, 0x0674, .arabic),
  (0x0679, 0x06D3, .arabic),
  (0x06D5, 0x06D5, .arabic),
  (0x06D6, 0x06DC, .nonspacingMark),
  (0x06DF, 0x06E4, .nonspacingMark),
  (0x06E5, 0x06E6, .arabic),
  (0x06E7, 0x06E8, .nonspacingMark),
  (0x06EA, 0x06ED, .nonspacingMark),
  (0x06EE, 0x06EF, .arabic),
  (0x06F0, 0x06F9, .europeanNumber),
  (0x06FA, 0x06FF, .arabic),
  (0x0710, 0x0710, .arabic),
  (0x0711, 0x0711, .nonspacingMark),
  (0x0712, 0x072F, .arabic),
  (0x0730, 0x074A, .nonspacingMark),
  (0x074D, 0x07A5, .arabic),
  (0x07A6, 0x07B0, .nonspacingMark),
  (0x07B1, 0x07B1, .arabic),
  (0x07C0, 0x07EA, .right),
  (0x07EB, 0x07F3, .nonspacingMark),
  (0x07F4, 0x07F5, .right),
  (0x07FD, 0x07FD, .nonspacingMark),
  (0x0800, 0x0815, .right),
  (0x0816, 0x0819, .nonspacingMark),
  (0x081A, 0x081A, .right),
  (0x081B, 0x0823, .nonspacingMark),
  (0x0824, 0x0824, .right),
  (0x0825, 0x0827, .nonspacingMark),
  (0x0828, 0x0828, .right),
  (0x0829, 0x082D, .nonspacingMark),
  (0x0840, 0x0858, .right),
  (0x0859, 0x085B, .nonspacingMark),
  (0x0860, 0x086A, .arabic),
  (0x0870, 0x0887, .arabic),
  (0x0889, 0x088E, .arabic),
  (0x0898, 0x089F, .nonspacingMark),
  (0x08A0, 0x08C9, .arabic),
  (0x08CA, 0x08E1, .nonspacingMark) ]

/-- Rows 64 to 127 of the table. -/
def directionRanges1 : List (Nat × Nat × Direction) := [
  (0x08E3, 0x0902, .nonspacingMark),
  (0x093A, 0x093A, .nonspacingMark),
  (0x093C, 0x093C, .nonspacingMark),
  (0x0941, 0x0948, .nonspacingMark),
  (0x094D, 0x094D, .nonspacingMark),
  (0x0951, 0x0957, .nonspacingMark),
  (0x0962, 0x0963, .nonspacingMark),
  (0x0981, 0x0981, .nonspacingMark),
  (0x09BC, 0x09BC, .nonspacingMark),
  (0x09C1, 0x09C4, .nonspacingMark),
  (0x09CD, 0x09CD, .nonspacingMark),
  (0x09E2, 0x09E3, .nonspacingMark),
  (0x09FE, 0x09FE, .nonspacingMark),
  (0x0A01, 0x0A02, .nonspacingMark),
  (0x0A3C, 0x0A3C, .nonspacingMark),
  (0x0A41, 0x0A42, .nonspacingMark),
  (0x0A47, 0x0A48, .nonspacingMark),
  (0x0A4B, 0x0A4D, .nonspacingMark),
  (0x0A51, 0x0A51, .nonspacingMark),
  (0x0A70, 0x0A71, .nonspacingMark),
  (0x0A75, 0x0A75, .nonspacingMark),
  (0x0A81, 0x0A82, .nonspacingMark),
  (0x0ABC, 0x0ABC, .nonspacingMark),
  (0x0AC1, 0x0AC5, .nonspacingMark),
  (0x0AC7, 0x0AC8, .nonspacingMark),
  (0x0ACD, 0x0ACD, .nonspacingMark),
  (0x0AE2, 0x0AE3, .nonspacingMark),
  (0x0AFA, 0x0AFF, .nonspacingMark),
  (0x0B01, 0x0B01, .nonspacingMark),
  (0x0B3C, 0x0B3C, .nonspacingMark),
  (0x0B3F, 0x0B3F, .nonspacingMark),
  (0x0B41, 0x0B44, .nonspacingMark),
  (0x0B4D, 0x0B4D, .nonspacingMark),
  (0x0B55, 0x0B56, .nonspacingMark),
  (0x0B62, 0x0B63, .nonspacingMark),
  (0x0B82, 0x0B82, .nonspacingMark),
  (0x0BC0, 0x0BC0, .nonspacingMark),
  (0x0BCD, 0x0BCD, .nonspacingMark),
  (0x0C00, 0x0C00, .nonspacingMark),
  (0x0C04, 0x0C04, .nonspacingMark),
  (0x0C3C, 0x0C3C, .nonspacingMark),
  (0x0C3E, 0x0C40, .nonspacingMark),
  (0x0C46, 0x0C48, .nonspacingMark),
  (0x0C4A, 0x0C4D, .nonspacingMark),
  (0x0C55, 0x0C56, .nonspacingMark),
  (0x0C62, 0x0C63, .nonspacingMark),
  (0x0C81, 0x0C81, .nonspacingMark),
  (0x0CBC, 0x0CBC, .nonspacingMark),
  (0x0CCC, 0x0CCD, .nonspacingMark),
  (0x0CE2, 0x0CE3, .nonspacingMark),
  (0x0D00, 0x0D01, .nonspacingMark),
  (0x0D3B, 0x0D3C, .nonspacingMark),
  (0x0D41, 0x0D44, .nonspacingMark),
  (0x0D4D, 0x0D4D, .nonspacingMark),
  (0x0D62, 0x0D63, .nonspacingMark),
  (0x0D81, 0x0D81, .nonspacingMark),
  (0x0DCA, 0x0DCA, .nonspacingMark),
  (0x0DD2, 0x0DD4, .nonspacingMark),
  (0x0DD6, 0x0DD6, .nonspacingMark),
  (0x0E31, 0x0E31, .nonspacingMark),
  (0x0E34, 0x0E3A, .nonspacingMark),
  (0x0E47, 0x0E4E, .nonspacingMark),
  (0x0EB1, 0x0EB1, .nonspacingMark),
  (0x0EB4, 0x0EBC, .nonspacingMark) ]

/-- Rows 128 to 191 of the table. -/
def directionRanges2 : List (Nat × Nat × Direction) := [
  (0x0EC8, 0x0ECD, .nonspacingMark),
  (0x0F18, 0x0F19, .nonspacingMark),
  (0x0F35, 0x0F35, .nonspacingMark),
  (0x0F37, 0x0F37, .nonspacingMark),
  (0x0F39, 0x0F39, .nonspacingMark),
  (0x0F71, 0x0F72, .nonspacingMark),
  (0x0F74, 0x0F74, .nonspacingMark),
  (0x0F7A, 0x0F7E, .nonspacingMark),
  (0x0F80, 0x0F80, .nonspacingMark),
  (0x0F82, 0x0F84, .nonspacingMark),
  (0x0F86, 0x0F87, .nonspacingMark),
  (0x0F8D, 0x0F92, .nonspacingMark),
  (0x0F94, 0x0F97, .nonspacingMark),
  (0x0F99, 0x0F9C, .nonspacingMark),
  (0x0F9E, 0x0FA1, .nonspacingMark),
  (0x0FA3, 0x0FA6, .nonspacingMark),
  (0x0FA8, 0x0FAB, .nonspacingMark),
  (0x0FAD, 0x0FB8, .nonspacingMark),
  (0x0FBA, 0x0FBC, .nonspacingMark),
  (0x0FC6, 0x0FC6, .nonspacingMark),
  (0x102D, 0x1030, .nonspacingMark),
  (0x1032, 0x1037, .nonspacingMark),
  (0x1039, 0x103A, .nonspacingMark),
  (0x103D, 0x103E, .nonspacingMark),
  (0x1058, 0x1059, .nonspacingMark),
  (0x105E, 0x1060, .nonspacingMark),
  (0x1071, 0x1074, .nonspacingMark),
  (0x1082, 0x1082, .nonspacingMark),
  (0x1085, 0x1086, .nonspacingMark),
  (0x108D, 0x108D, .nonspacingMark),
  (0x109D, 0x109D, .nonspacingMark),
  (0x135D, 0x135F, .nonspacingMark),
  (0x1712, 0x1714, .nonspacingMark),
  (0x1732, 0x1733, .nonspacingMark),
  (0x1752, 0x1753, .nonspacingMark),
  (0x1772, 0x1773, .nonspacingMark),
  (0x17B7, 0x17BD, .nonspacingMark),
  (0x17C6, 0x17C6, .nonspacingMark),
  (0x17C9, 0x17D3, .nonspacingMark),
  (0x17DD, 0x17DD, .nonspacingMark),
  (0x1885, 0x1886, .nonspacingMark),
  (0x18A9, 0x18A9, .nonspacingMark),
  (0x1920, 0x1922, .nonspacingMark),
  (0x1927, 0x1928, .nonspacingMark),
  (0x1932, 0x1932, .nonspacingMark),
  (0x1939, 0x193B, .nonspacingMark),
  (0x1A17, 0x1A18, .nonspacingMark),
  (0x1A1B, 0x1A1B, .nonspacingMark),
  (0x1A56, 0x1A56, .nonspacingMark),
  (0x1A58, 0x1A5E, .nonspacingMark),
  (0x1A60, 0x1A60, .nonspacingMark),
  (0x1A62, 0x1A62, .nonspacingMark),
  (0x1A65, 0x1A6C, .nonspacingMark),
  (0x1A73, 0x1A7C, .nonspacingMark),
  (0x1A7F, 0x1A7F, .nonspacingMark),
  (0x1AB0, 0x1ABD, .nonspacingMark),
  (0x1ABF, 0x1ACE, .nonspacingMark),
  (0x1B00, 0x1B03, .nonspacingMark),
  (0x1B34, 0x1B34, .nonspacingMark),
  (0x1B36, 0x1B3A, .nonspacingMark),
  (0x1B3C, 0x1B3C, .nonspacingMark),
  (0x1B42, 0x1B42, .nonspacingMark),
  (0x1B6B, 0x1B73, .nonspacingMark),
  (0x1B80, 0x1B81, .nonspacingMark) ]

/-- Rows 192 to 255 of the table. -/
def directionRanges3 : List (Nat × Nat × Direction) := [
  (0x1BA2, 0x1BA5, .nonspacingMark),
  (0x1BA8, 0x1BA9, .nonspacingMark),
  (0x1BAB, 0x1BAD, .nonspacingMark),
  (0x1BE6, 0x1BE6, .nonspacingMark),
  (0x1BE8, 0x1BE9, .nonspacingMark),
  (0x1BED, 0x1BED, .nonspacingMark),
  (0x1BEF, 0x1BF1, .nonspacingMark),
  (0x1C2C, 0x1C33, .nonspacingMark),
  (0x1C36, 0x1C37, .nonspacingMark),
  (0x1CD0, 0x1CD2, .nonspacingMark),
  (0x1CD4, 0x1CE0, .nonspacingMark),
  (0x1CE2, 0x1CE8, .nonspacingMark),
  (0x1CED, 0x1CED, .nonspacingMark),
  (0x1CF4, 0x1CF4, .nonspacingMark),
  (0x1CF8, 0x1CF9, .nonspacingMark),
  (0x1DC0, 0x1DFF, .nonspacingMark),
  (0x200C, 0x200D, .boundaryNeutral),
  (0x2CEF, 0x2CF1, .nonspacingMark),
  (0x2D7F, 0x2D7F, .nonspacingMark),
  (0x2DE0, 0x2DFF, .nonspacingMark),
  (0x2E2F, 0x2E2F, .otherNeutral),
  (0x302A, 0x302D, .nonspacingMark),
  (0x3099, 0x309A, .nonspacingMark),
  (0x30FB, 0x30FB, .otherNeutral),
  (0xA66F, 0xA66F, .nonspacingMark),
  (0xA674, 0xA67D, .nonspacingMark),
  (0xA67F, 0xA67F, .otherNeutral),
  (0xA69E, 0xA69F, .nonspacingMark),
  (0xA6F0, 0xA6F1, .nonspacingMark),
  (0xA717, 0xA71F, .otherNeutral),
  (0xA788, 0xA788, .otherNeutral),
  (0xA802, 0xA802, .nonspacingMark),
  (0xA806, 0xA806, .nonspacingMark),
  (0xA80B, 0xA80B, .nonspacingMark),
  (0xA825, 0xA826, .nonspacingMark),
  (0xA82C, 0xA82C, .nonspacingMark),
  (0xA8C4, 0xA8C5, .nonspacingMark),
  (0xA8E0, 0xA8F1, .nonspacingMark),
  (0xA8FF, 0xA8FF, .nonspacingMark),
  (0xA926, 0xA92D, .nonspacingMark),
  (0xA947, 0xA951, .nonspacingMark),
  (0xA980, 0xA982, .nonspacingMark),
  (0xA9B3, 0xA9B3, .nonspacingMark),
  (0xA9B6, 0xA9B9, .nonspacingMark),
  (0xA9BC, 0xA9BD, .nonspacingMark),
  (0xA9E5, 0xA9E5, .nonspacingMark),
  (0xAA29, 0xAA2E, .nonspacingMark),
  (0xAA31, 0xAA32, .nonspacingMark),
  (0xAA35, 0xAA36, .nonspacingMark),
  (0xAA43, 0xAA43, .nonspacingMark),
  (0xAA4C, 0xAA4C, .nonspacingMark),
  (0xAA7C, 0xAA7C, .nonspacingMark),
  (0xAAB0, 0xAAB0, .nonspacingMark),
  (0xAAB2, 0xAAB4, .nonspacingMark),
  (0xAAB7, 0xAAB8, .nonspacingMark),
  (0xAABE, 0xAABF, .nonspacingMark),
  (0xAAC1, 0xAAC1, .nonspacingMark),
  (0xAAEC, 0xAAED, .nonspacingMark),
  (0xAAF6, 0xAAF6, .nonspacingMark),
  (0xABE5, 0xABE5, .nonspacingMark),
  (0xABE8, 0xABE8, .nonspacingMark),
  (0xABED, 0xABED, .nonspacingMark),
  (0xFB1E, 0xFB1E, .nonspacingMark),
  (0xFE20, 0xFE2F, .nonspacingMark) ]

/-- Rows 256 to 319 of the table. -/
def directionRanges4 : List (Nat × Nat × Direction) := [
  (0xFE73, 0xFE73, .arabic),
  (0x101FD, 0x101FD, .nonspacingMark),
  (0x102E0, 0x102E0, .nonspacingMark),
  (0x10376, 0x1037A, .nonspacingMark),
  (0x10800, 0x10805, .right),
  (0x10808, 0x10808, .right),
  (0x1080A, 0x10835, .right),
  (0x10837, 0x10838, .right),
  (0x1083C, 0x1083C, .right),
  (0x1083F, 0x10855, .right),
  (0x10860, 0x10876, .right),
  (0x10880, 0x1089E, .right),
  (0x108E0, 0x108F2, .right),
  (0x108F4, 0x108F5, .right),
  (0x10900, 0x10915, .right),
  (0x10920, 0x10939, .right),
  (0x10980, 0x109B7, .right),
  (0x109BE, 0x109BF, .right),
  (0x10A00, 0x10A00, .right),
  (0x10A01, 0x10A03, .nonspacingMark),
  (0x10A05, 0x10A06, .nonspacingMark),
  (0x10A0C, 0x10A0F, .nonspacingMark),
  (0x10A10, 0x10A13, .right),
  (0x10A15, 0x10A17, .right),
  (0x10A19, 0x10A35, .right),
  (0x10A38, 0x10A3A, .nonspacingMark),
  (0x10A3F, 0x10A3F, .nonspacingMark),
  (0x10A60, 0x10A7C, .right),
  (0x10A80, 0x10A9C, .right),
  (0x10AC0, 0x10AC7, .right),
  (0x10AC9, 0x10AE4, .right),
  (0x10AE5, 0x10AE6, .nonspacingMark),
  (0x10B00, 0x10B35, .right),
  (0x10B40, 0x10B55, .right),
  (0x10B60, 0x10B72, .right),
  (0x10B80, 0x10B91, .right),
  (0x10C00, 0x10C48, .right),
  (0x10CC0, 0x10CF2, .right),
  (0x10D00, 0x10D23, .arabic),
  (0x10D24, 0x10D27, .nonspacingMark),
  (0x10D30, 0x10D39, .arabicNumber),
  (0x10E80, 0x10EA9, .right),
  (0x10EAB, 0x10EAC, .nonspacingMark),
  (0x10EB0, 0x10EB1, .right),
  (0x10F00, 0x10F1C, .right),
  (0x10F27, 0x10F27, .right),
  (0x10F30, 0x10F45, .arabic),
  (0x10F46, 0x10F50, .nonspacingMark),
  (0x10F70, 0x10F81, .right),
  (0x10F82, 0x10F85, .nonspacingMark),
  (0x10FB0, 0x10FC4, .right),
  (0x10FE0, 0x10FF6, .right),
  (0x11001, 0x11001, .nonspacingMark),
  (0x11038, 0x11046, .nonspacingMark),
  (0x11070, 0x11070, .nonspacingMark),
  (0x11073, 0x11074, .nonspacingMark),
  (0x1107F, 0x11081, .nonspacingMark),
  (0x110B3, 0x110B6, .nonspacingMark),
  (0x110B9, 0x110BA, .nonspacingMark),
  (0x110C2, 0x110C2, .nonspacingMark),
  (0x11100, 0x11102, .nonspacingMark),
  (0x11127, 0x1112B, .nonspacingMark),
  (0x1112D, 0x11134, .nonspacingMark),
  (0x11173, 0x11173, .nonspacingMark) ]

/-- Rows 320 to 383 of the table. -/
def directionRanges5 : List (Nat × Nat × Direction) := [
  (0x11180, 0x11181, .nonspacingMark),
  (0x111B6, 0x111BE, .nonspacingMark),
  (0x111C9, 0x111CC, .nonspacingMark),
  (0x111CF, 0x111CF, .nonspacingMark),
  (0x1122F, 0x11231, .nonspacingMark),
  (0x11234, 0x11234, .nonspacingMark),
  (0x11236, 0x11237, .nonspacingMark),
  (0x1123E, 0x1123E, .nonspacingMark),
  (0x112DF, 0x112DF, .nonspacingMark),
  (0x112E3, 0x112EA, .nonspacingMark),
  (0x11300, 0x11301, .nonspacingMark),
  (0x1133B, 0x1133C, .nonspacingMark),
  (0x11340, 0x11340, .nonspacingMark),
  (0x11366, 0x1136C, .nonspacingMark),
  (0x11370, 0x11374, .nonspacingMark),
  (0x11438, 0x1143F, .nonspacingMark),
  (0x11442, 0x11444, .nonspacingMark),
  (0x11446, 0x11446, .nonspacingMark),
  (0x1145E, 0x1145E, .nonspacingMark),
  (0x114B3, 0x114B8, .nonspacingMark),
  (0x114BA, 0x114BA, .nonspacingMark),
  (0x114BF, 0x114C0, .nonspacingMark),
  (0x114C2, 0x114C3, .nonspacingMark),
  (0x115B2, 0x115B5, .nonspacingMark),
  (0x115BC, 0x115BD, .nonspacingMark),
  (0x115BF, 0x115C0, .nonspacingMark),
  (0x115DC, 0x115DD, .nonspacingMark),
  (0x11633, 0x1163A, .nonspacingMark),
  (0x1163D, 0x1163D, .nonspacingMark),
  (0x1163F, 0x11640, .nonspacingMark),
  (0x116AB, 0x116AB, .nonspacingMark),
  (0x116AD, 0x116AD, .nonspacingMark),
  (0x116B0, 0x116B5, .nonspacingMark),
  (0x116B7, 0x116B7, .nonspacingMark),
  (0x1171D, 0x1171F, .nonspacingMark),
  (0x11722, 0x11725, .nonspacingMark),
  (0x11727, 0x1172B, .nonspacingMark),
  (0x1182F, 0x11837, .nonspacingMark),
  (0x11839, 0x1183A, .nonspacingMark),
  (0x1193B, 0x1193C, .nonspacingMark),
  (0x1193E, 0x1193E, .nonspacingMark),
  (0x11943, 0x11943, .nonspacingMark),
  (0x119D4, 0x119D7, .nonspacingMark),
  (0x119DA, 0x119DB, .nonspacingMark),
  (0x119E0, 0x119E0, .nonspacingMark),
  (0x11A01, 0x11A06, .nonspacingMark),
  (0x11A09, 0x11A0A, .nonspacingMark),
  (0x11A33, 0x11A38, .nonspacingMark),
  (0x11A3B, 0x11A3E, .nonspacingMark),
  (0x11A47, 0x11A47, .nonspacingMark),
  (0x11A51, 0x11A56, .nonspacingMark),
  (0x11A59, 0x11A5B, .nonspacingMark),
  (0x11A8A, 0x11A96, .nonspacingMark),
  (0x11A98, 0x11A99, .nonspacingMark),
  (0x11C30, 0x11C36, .nonspacingMark),
  (0x11C38, 0x11C3D, .nonspacingMark),
  (0x11C92, 0x11CA7, .nonspacingMark),
  (0x11CAA, 0x11CB0, .nonspacingMark),
  (0x11CB2, 0x11CB3, .nonspacingMark),
  (0x11CB5, 0x11CB6, .nonspacingMark),
  (0x11D31, 0x11D36, .nonspacingMark),
  (0x11D3A, 0x11D3A, .nonspacingMark),
  (0x11D3C, 0x11D3D, .nonspacingMark),
  (0x11D3F, 0x11D45, .nonspacingMark) ]

/-- Rows 384 to 416 of the table. -/
def directionRanges6 : List (Nat × Nat × Direction) := [
  (0x11D47, 0x11D47, .nonspacingMark),
  (0x11D90, 0x11D91, .nonspacingMark),
  (0x11D95, 0x11D95, .nonspacingMark),
  (0x11D97, 0x11D97, .nonspacingMark),
  (0x11EF3, 0x11EF4, .nonspacingMark),
  (0x16AF0, 0x16AF4, .nonspacingMark),
  (0x16B30, 0x16B36, .nonspacingMark),
  (0x16F4F, 0x16F4F, .nonspacingMark),
  (0x16F8F, 0x16F92, .nonspacingMark),
  (0x16FE4, 0x16FE4, .nonspacingMark),
  (0x1BC9D, 0x1BC9E, .nonspacingMark),
  (0x1CF00, 0x1CF2D, .nonspacingMark),
  (0x1CF30, 0x1CF46, .nonspacingMark),
  (0x1DA00, 0x1DA36, .nonspacingMark),
  (0x1DA3B, 0x1DA6C, .nonspacingMark),
  (0x1DA75, 0x1DA75, .nonspacingMark),
  (0x1DA84, 0x1DA84, .nonspacingMark),
  (0x1DA9B, 0x1DA9F, .nonspacingMark),
  (0x1DAA1, 0x1DAAF, .nonspacingMark),
  (0x1E000, 0x1E006, .nonspacingMark),
  (0x1E008, 0x1E018, .nonspacingMark),
  (0x1E01B, 0x1E021, .nonspacingMark),
  (0x1E023, 0x1E024, .nonspacingMark),
  (0x1E026, 0x1E02A, .nonspacingMark),
  (0x1E130, 0x1E136, .nonspacingMark),
  (0x1E2AE, 0x1E2AE, .nonspacingMark),
  (0x1E2EC, 0x1E2EF, .nonspacingMark),
  (0x1E800, 0x1E8C4, .right),
  (0x1E8D0, 0x1E8D6, .nonspacingMark),
  (0x1E922, 0x1E943, .right),
  (0x1E944, 0x1E94A, .nonspacingMark),
  (0x1E94B, 0x1E94B, .right),
  (0x1E950, 0x1E959, .right) ]

/-- Bidirectional classes other than L. -/
def directionRanges : List (Nat × Nat × Direction) :=
  directionRanges0 ++
    directionRanges1 ++
    directionRanges2 ++
    directionRanges3 ++
    directionRanges4 ++
    directionRanges5 ++
    directionRanges6

/-- Rows 0 to 63 of the table. -/
def joiningRanges0 : List (Nat × Nat × Joining) := [
  (0x0300, 0x033F, .transparent),
  (0x0342, 0x0342, .transparent),
  (0x0346, 0x034E, .transparent),
  (0x0350, 0x036F, .transparent),
  (0x0483, 0x0487, .transparent),
  (0x0591, 0x05BD, .transparent),
  (0x05BF, 0x05BF, .transparent),
  (0x05C1, 0x05C2, .transparent),
  (0x05C4, 0x05C5, .transparent),
  (0x05C7, 0x05C7, .transparent),
  (0x0610, 0x061A, .transparent),
  (0x0620, 0x0620, .dual),
  (0x0622, 0x0625, .rightJoining),
  (0x0626, 0x0626, .dual),
  (0x0627, 0x0627, .rightJoining),
  (0x0628, 0x0628, .dual),
  (0x0629, 0x0629, .rightJoining),
  (0x062A, 0x062E, .dual),
  (0x062F, 0x0632, .rightJoining),
  (0x0633, 0x063F, .dual),
  (0x0641, 0x0647, .dual),
  (0x0648, 0x0648, .rightJoining),
  (0x0649, 0x064A, .dual),
  (0x064B, 0x065F, .transparent),
  (0x066E, 0x066F, .dual),
  (0x0670, 0x0670, .transparent),
  (0x0671, 0x0673, .rightJoining),
  (0x0679, 0x0687, .dual),
  (0x0688, 0x0699, .rightJoining),
  (0x069A, 0x06BF, .dual),
  (0x06C0, 0x06C0, .rightJoining),
  (0x06C1, 0x06C2, .dual),
  (0x06C3, 0x06CB, .rightJoining),
  (0x06CC, 0x06CC, .dual),
  (0x06CD, 0x06CD, .rightJoining),
  (0x06CE, 0x06CE, .dual),
  (0x06CF, 0x06CF, .rightJoining),
  (0x06D0, 0x06D1, .dual),
  (0x06D2, 0x06D3, .rightJoining),
  (0x06D5, 0x06D5, .rightJoining),
  (0x06D6, 0x06DC, .transparent),
  (0x06DF, 0x06E4, .transparent),
  (0x06E7, 0x06E8, .transparent),
  (0x06EA, 0x06ED, .transparent),
  (0x06EE, 0x06EF, .rightJoining),
  (0x06FA, 0x06FC, .dual),
  (0x06FF, 0x06FF, .dual),
  (0x0710, 0x0710, .rightJoining),
  (0x0711, 0x0711, .transparent),
  (0x0712, 0x0714, .dual),
  (0x0715, 0x0719, .rightJoining),
  (0x071A, 0x071D, .dual),
  (0x071E, 0x071E, .rightJoining),
  (0x071F, 0x0727, .dual),
  (0x0728, 0x0728, .rightJoining),
  (0x0729, 0x0729, .dual),
  (0x072A, 0x072A, .rightJoining),
  (0x072B, 0x072B, .dual),
  (0x072C, 0x072C, .rightJoining),
  (0x072D, 0x072E, .dual),
  (0x072F, 0x072F, .rightJoining),
  (0x0730, 0x074A, .transparent),
  (0x074D, 0x074D, .rightJoining),
  (0x074E, 0x0758, .dual) ]

/-- Rows 64 to 127 of the table. -/
def joiningRanges1 : List (Nat × Nat × Joining) := [
  (0x0759, 0x075B, .rightJoining),
  (0x075C, 0x076A, .dual),
  (0x076B, 0x076C, .rightJoining),
  (0x076D, 0x0770, .dual),
  (0x0771, 0x0771, .rightJoining),
  (0x0772, 0x0772, .dual),
  (0x0773, 0x0774, .rightJoining),
  (0x0775, 0x0777, .dual),
  (0x0778, 0x0779, .rightJoining),
  (0x077A, 0x077F, .dual),
  (0x07A6, 0x07B0, .transparent),
  (0x07CA, 0x07EA, .dual),
  (0x07EB, 0x07F3, .transparent),
  (0x07FD, 0x07FD, .transparent),
  (0x0816, 0x0819, .transparent),
  (0x081B, 0x0823, .transparent),
  (0x0825, 0x0827, .transparent),
  (0x0829, 0x082D, .transparent),
  (0x0840, 0x0840, .rightJoining),
  (0x0841, 0x0845, .dual),
  (0x0846, 0x0847, .rightJoining),
  (0x0848, 0x0848, .dual),
  (0x0849, 0x0849, .rightJoining),
  (0x084A, 0x0853, .dual),
  (0x0854, 0x0854, .rightJoining),
  (0x0855, 0x0855, .dual),
  (0x0856, 0x0858, .rightJoining),
  (0x0859, 0x085B, .transparent),
  (0x0860, 0x0860, .dual),
  (0x0862, 0x0865, .dual),
  (0x0867, 0x0867, .rightJoining),
  (0x0868, 0x0868, .dual),
  (0x0869, 0x086A, .rightJoining),
  (0x0870, 0x0882, .rightJoining),
  (0x0886, 0x0886, .dual),
  (0x0889, 0x088D, .dual),
  (0x088E, 0x088E, .rightJoining),
  (0x0898, 0x089F, .transparent),
  (0x08A0, 0x08A9, .dual),
  (0x08AA, 0x08AC, .rightJoining),
  (0x08AE, 0x08AE, .rightJoining),
  (0x08AF, 0x08B0, .dual),
  (0x08B1, 0x08B2, .rightJoining),
  (0x08B3, 0x08B8, .dual),
  (0x08B9, 0x08B9, .rightJoining),
  (0x08BA, 0x08C8, .dual),
  (0x08CA, 0x08E1, .transparent),
  (0x08E3, 0x0902, .transparent),
  (0x093A, 0x093A, .transparent),
  (0x093C, 0x093C, .transparent),
  (0x0941, 0x0948, .transparent),
  (0x094D, 0x094D, .transparent),
  (0x0951, 0x0957, .transparent),
  (0x0962, 0x0963, .transparent),
  (0x0981, 0x0981, .transparent),
  (0x09BC, 0x09BC, .transparent),
  (0x09C1, 0x09C4, .transparent),
  (0x09CD, 0x09CD, .transparent),
  (0x09E2, 0x09E3, .transparent),
  (0x09FE, 0x09FE, .transparent),
  (0x0A01, 0x0A02, .transparent),
  (0x0A3C, 0x0A3C, .transparent),
  (0x0A41, 0x0A42, .transparent),
  (0x0A47, 0x0A48, .transparent) ]

/-- Rows 128 to 191 of the table. -/
def joiningRanges2 : List (Nat × Nat × Joining) := [
  (0x0A4B, 0x0A4D, .transparent),
  (0x0A51, 0x0A51, .transparent),
  (0x0A70, 0x0A71, .transparent),
  (0x0A75, 0x0A75, .transparent),
  (0x0A81, 0x0A82, .transparent),
  (0x0ABC, 0x0ABC, .transparent),
  (0x0AC1, 0x0AC5, .transparent),
  (0x0AC7, 0x0AC8, .transparent),
  (0x0ACD, 0x0ACD, .transparent),
  (0x0AE2, 0x0AE3, .transparent),
  (0x0AFA, 0x0AFF, .transparent),
  (0x0B01, 0x0B01, .transparent),
  (0x0B3C, 0x0B3C, .transparent),
  (0x0B3F, 0x0B3F, .transparent),
  (0x0B41, 0x0B44, .transparent),
  (0x0B4D, 0x0B4D, .transparent),
  (0x0B55, 0x0B56, .transparent),
  (0x0B62, 0x0B63, .transparent),
  (0x0B82, 0x0B82, .transparent),
  (0x0BC0, 0x0BC0, .transparent),
  (0x0BCD, 0x0BCD, .transparent),
  (0x0C00, 0x0C00, .transparent),
  (0x0C04, 0x0C04, .transparent),
  (0x0C3C, 0x0C3C, .transparent),
  (0x0C3E, 0x0C40, .transparent),
  (0x0C46, 0x0C48, .transparent),
  (0x0C4A, 0x0C4D, .transparent),
  (0x0C55, 0x0C56, .transparent),
  (0x0C62, 0x0C63, .transparent),
  (0x0C81, 0x0C81, .transparent),
  (0x0CBC, 0x0CBC, .transparent),
  (0x0CBF, 0x0CBF, .transparent),
  (0x0CC6, 0x0CC6, .transparent),
  (0x0CCC, 0x0CCD, .transparent),
  (0x0CE2, 0x0CE3, .transparent),
  (0x0D00, 0x0D01, .transparent),
  (0x0D3B, 0x0D3C, .transparent),
  (0x0D41, 0x0D44, .transparent),
  (0x0D4D, 0x0D4D, .transparent),
  (0x0D62, 0x0D63, .transparent),
  (0x0D81, 0x0D81, .transparent),
  (0x0DCA, 0x0DCA, .transparent),
  (0x0DD2, 0x0DD4, .transparent),
  (0x0DD6, 0x0DD6, .transparent),
  (0x0E31, 0x0E31, .transparent),
  (0x0E34, 0x0E3A, .transparent),
  (0x0E47, 0x0E4E, .transparent),
  (0x0EB1, 0x0EB1, .transparent),
  (0x0EB4, 0x0EBC, .transparent),
  (0x0EC8, 0x0ECD, .transparent),
  (0x0F18, 0x0F19, .transparent),
  (0x0F35, 0x0F35, .transparent),
  (0x0F37, 0x0F37, .transparent),
  (0x0F39, 0x0F39, .transparent),
  (0x0F71, 0x0F72, .transparent),
  (0x0F74, 0x0F74, .transparent),
  (0x0F7A, 0x0F7E, .transparent),
  (0x0F80, 0x0F80, .transparent),
  (0x0F82, 0x0F84, .transparent),
  (0x0F86, 0x0F87, .transparent),
  (0x0F8D, 0x0F92, .transparent),
  (0x0F94, 0x0F97, .transparent),
  (0x0F99, 0x0F9C, .transparent),
  (0x0F9E, 0x0FA1, .transparent) ]

/-- Rows 192 to 255 of the table. -/
def joiningRanges3 : List (Nat × Nat × Joining) := [
  (0x0FA3, 0x0FA6, .transparent),
  (0x0FA8, 0x0FAB, .transparent),
  (0x0FAD, 0x0FB8, .transparent),
  (0x0FBA, 0x0FBC, .transparent),
  (0x0FC6, 0x0FC6, .transparent),
  (0x102D, 0x1030, .transparent),
  (0x1032, 0x1037, .transparent),
  (0x1039, 0x103A, .transparent),
  (0x103D, 0x103E, .transparent),
  (0x1058, 0x1059, .transparent),
  (0x105E, 0x1060, .transparent),
  (0x1071, 0x1074, .transparent),
  (0x1082, 0x1082, .transparent),
  (0x1085, 0x1086, .transparent),
  (0x108D, 0x108D, .transparent),
  (0x109D, 0x109D, .transparent),
  (0x135D, 0x135F, .transparent),
  (0x1712, 0x1714, .transparent),
  (0x1732, 0x1733, .transparent),
  (0x1752, 0x1753, .transparent),
  (0x1772, 0x1773, .transparent),
  (0x17B7, 0x17BD, .transparent),
  (0x17C6, 0x17C6, .transparent),
  (0x17C9, 0x17D3, .transparent),
  (0x17DD, 0x17DD, .transparent),
  (0x1820, 0x1878, .dual),
  (0x1885, 0x1886, .transparent),
  (0x1887, 0x18A8, .dual),
  (0x18A9, 0x18A9, .transparent),
  (0x18AA, 0x18AA, .dual),
  (0x1920, 0x1922, .transparent),
  (0x1927, 0x1928, .transparent),
  (0x1932, 0x1932, .transparent),
  (0x1939, 0x193B, .transparent),
  (0x1A17, 0x1A18, .transparent),
  (0x1A1B, 0x1A1B, .transparent),
  (0x1A56, 0x1A56, .transparent),
  (0x1A58, 0x1A5E, .transparent),
  (0x1A60, 0x1A60, .transparent),
  (0x1A62, 0x1A62, .transparent),
  (0x1A65, 0x1A6C, .transparent),
  (0x1A73, 0x1A7C, .transparent),
  (0x1A7F, 0x1A7F, .transparent),
  (0x1AB0, 0x1ABD, .transparent),
  (0x1ABF, 0x1ACE, .transparent),
  (0x1B00, 0x1B03, .transparent),
  (0x1B34, 0x1B34, .transparent),
  (0x1B36, 0x1B3A, .transparent),
  (0x1B3C, 0x1B3C, .transparent),
  (0x1B42, 0x1B42, .transparent),
  (0x1B6B, 0x1B73, .transparent),
  (0x1B80, 0x1B81, .transparent),
  (0x1BA2, 0x1BA5, .transparent),
  (0x1BA8, 0x1BA9, .transparent),
  (0x1BAB, 0x1BAD, .transparent),
  (0x1BE6, 0x1BE6, .transparent),
  (0x1BE8, 0x1BE9, .transparent),
  (0x1BED, 0x1BED, .transparent),
  (0x1BEF, 0x1BF1, .transparent),
  (0x1C2C, 0x1C33, .transparent),
  (0x1C36, 0x1C37, .transparent),
  (0x1CD0, 0x1CD2, .transparent),
  (0x1CD4, 0x1CE0, .transparent),
  (0x1CE2, 0x1CE8, .transparent) ]

/-- Rows 256 to 319 of the table. -/
def joiningRanges4 : List (Nat × Nat × Joining) := [
  (0x1CED, 0x1CED, .transparent),
  (0x1CF4, 0x1CF4, .transparent),
  (0x1CF8, 0x1CF9, .transparent),
  (0x1DC0, 0x1DFF, .transparent),
  (0x2CEF, 0x2CF1, .transparent),
  (0x2D7F, 0x2D7F, .transparent),
  (0x2DE0, 0x2DFF, .transparent),
  (0x302A, 0x302D, .transparent),
  (0x3099, 0x309A, .transparent),
  (0xA66F, 0xA66F, .transparent),
  (0xA674, 0xA67D, .transparent),
  (0xA69E, 0xA69F, .transparent),
  (0xA6F0, 0xA6F1, .transparent),
  (0xA802, 0xA802, .transparent),
  (0xA806, 0xA806, .transparent),
  (0xA80B, 0xA80B, .transparent),
  (0xA825, 0xA826, .transparent),
  (0xA82C, 0xA82C, .transparent),
  (0xA840, 0xA871, .dual),
  (0xA872, 0xA872, .leftJoining),
  (0xA8C4, 0xA8C5, .transparent),
  (0xA8E0, 0xA8F1, .transparent),
  (0xA8FF, 0xA8FF, .transparent),
  (0xA926, 0xA92D, .transparent),
  (0xA947, 0xA951, .transparent),
  (0xA980, 0xA982, .transparent),
  (0xA9B3, 0xA9B3, .transparent),
  (0xA9B6, 0xA9B9, .transparent),
  (0xA9BC, 0xA9BD, .transparent),
  (0xA9E5, 0xA9E5, .transparent),
  (0xAA29, 0xAA2E, .transparent),
  (0xAA31, 0xAA32, .transparent),
  (0xAA35, 0xAA36, .transparent),
  (0xAA43, 0xAA43, .transparent),
  (0xAA4C, 0xAA4C, .transparent),
  (0xAA7C, 0xAA7C, .transparent),
  (0xAAB0, 0xAAB0, .transparent),
  (0xAAB2, 0xAAB4, .transparent),
  (0xAAB7, 0xAAB8, .transparent),
  (0xAABE, 0xAABF, .transparent),
  (0xAAC1, 0xAAC1, .transparent),
  (0xAAEC, 0xAAED, .transparent),
  (0xAAF6, 0xAAF6, .transparent),
  (0xABE5, 0xABE5, .transparent),
  (0xABE8, 0xABE8, .transparent),
  (0xABED, 0xABED, .transparent),
  (0xFB1E, 0xFB1E, .transparent),
  (0xFE20, 0xFE2F, .transparent),
  (0x101FD, 0x101FD, .transparent),
  (0x102E0, 0x102E0, .transparent),
  (0x10376, 0x1037A, .transparent),
  (0x10A01, 0x10A03, .transparent),
  (0x10A05, 0x10A06, .transparent),
  (0x10A0C, 0x10A0F, .transparent),
  (0x10A38, 0x10A3A, .transparent),
  (0x10A3F, 0x10A3F, .transparent),
  (0x10AC0, 0x10AC4, .dual),
  (0x10AC5, 0x10AC5, .rightJoining),
  (0x10AC7, 0x10AC7, .rightJoining),
  (0x10AC9, 0x10ACA, .rightJoining),
  (0x10ACD, 0x10ACD, .leftJoining),
  (0x10ACE, 0x10AD2, .rightJoining),
  (0x10AD3, 0x10AD6, .dual),
  (0x10AD7, 0x10AD7, .leftJoining) ]

/-- Rows 320 to 383 of the table. -/
def joiningRanges5 : List (Nat × Nat × Joining) := [
  (0x10AD8, 0x10ADC, .dual),
  (0x10ADD, 0x10ADD, .rightJoining),
  (0x10ADE, 0x10AE0, .dual),
  (0x10AE1, 0x10AE1, .rightJoining),
  (0x10AE4, 0x10AE4, .rightJoining),
  (0x10AE5, 0x10AE6, .transparent),
  (0x10B80, 0x10B80, .dual),
  (0x10B81, 0x10B81, .rightJoining),
  (0x10B82, 0x10B82, .dual),
  (0x10B83, 0x10B85, .rightJoining),
  (0x10B86, 0x10B88, .dual),
  (0x10B89, 0x10B89, .rightJoining),
  (0x10B8A, 0x10B8B, .dual),
  (0x10B8C, 0x10B8C, .rightJoining),
  (0x10B8D, 0x10B8D, .dual),
  (0x10B8E, 0x10B8F, .rightJoining),
  (0x10B90, 0x10B90, .dual),
  (0x10B91, 0x10B91, .rightJoining),
  (0x10D00, 0x10D00, .leftJoining),
  (0x10D01, 0x10D21, .dual),
  (0x10D22, 0x10D22, .rightJoining),
  (0x10D23, 0x10D23, .dual),
  (0x10D24, 0x10D27, .transparent),
  (0x10EAB, 0x10EAC, .transparent),
  (0x10F30, 0x10F32, .dual),
  (0x10F33, 0x10F33, .rightJoining),
  (0x10F34, 0x10F44, .dual),
  (0x10F46, 0x10F50, .transparent),
  (0x10F70, 0x10F73, .dual),
  (0x10F74, 0x10F75, .rightJoining),
  (0x10F76, 0x10F81, .dual),
  (0x10F82, 0x10F85, .transparent),
  (0x10FB0, 0x10FB0, .dual),
  (0x10FB2, 0x10FB3, .dual),
  (0x10FB4, 0x10FB6, .rightJoining),
  (0x10FB8, 0x10FB8, .dual),
  (0x10FB9, 0x10FBA, .rightJoining),
  (0x10FBB, 0x10FBC, .dual),
  (0x10FBD, 0x10FBD, .rightJoining),
  (0x10FBE, 0x10FBF, .dual),
  (0x10FC1, 0x10FC1, .dual),
  (0x10FC2, 0x10FC3, .rightJoining),
  (0x10FC4, 0x10FC4, .dual),
  (0x11001, 0x11001, .transparent),
  (0x11038, 0x11046, .transparent),
  (0x11070, 0x11070, .transparent),
  (0x11073, 0x11074, .transparent),
  (0x1107F, 0x11081, .transparent),
  (0x110B3, 0x110B6, .transparent),
  (0x110B9, 0x110BA, .transparent),
  (0x110C2, 0x110C2, .transparent),
  (0x11100, 0x11102, .transparent),
  (0x11127, 0x1112B, .transparent),
  (0x1112D, 0x11134, .transparent),
  (0x11173, 0x11173, .transparent),
  (0x11180, 0x11181, .transparent),
  (0x111B6, 0x111BE, .transparent),
  (0x111C9, 0x111CC, .transparent),
  (0x111CF, 0x111CF, .transparent),
  (0x1122F, 0x11231, .transparent),
  (0x11234, 0x11234, .transparent),
  (0x11236, 0x11237, .transparent),
  (0x1123E, 0x1123E, .transparent),
  (0x112DF, 0x112DF, .transparent) ]

/-- Rows 384 to 447 of the table. -/
def joiningRanges6 : List (Nat × Nat × Joining) := [
  (0x112E3, 0x112EA, .transparent),
  (0x11300, 0x11301, .transparent),
  (0x1133B, 0x1133C, .transparent),
  (0x11340, 0x11340, .transparent),
  (0x11366, 0x1136C, .transparent),
  (0x11370, 0x11374, .transparent),
  (0x11438, 0x1143F, .transparent),
  (0x11442, 0x11444, .transparent),
  (0x11446, 0x11446, .transparent),
  (0x1145E, 0x1145E, .transparent),
  (0x114B3, 0x114B8, .transparent),
  (0x114BA, 0x114BA, .transparent),
  (0x114BF, 0x114C0, .transparent),
  (0x114C2, 0x114C3, .transparent),
  (0x115B2, 0x115B5, .transparent),
  (0x115BC, 0x115BD, .transparent),
  (0x115BF, 0x115C0, .transparent),
  (0x115DC, 0x115DD, .transparent),
  (0x11633, 0x1163A, .transparent),
  (0x1163D, 0x1163D, .transparent),
  (0x1163F, 0x11640, .transparent),
  (0x116AB, 0x116AB, .transparent),
  (0x116AD, 0x116AD, .transparent),
  (0x116B0, 0x116B5, .transparent),
  (0x116B7, 0x116B7, .transparent),
  (0x1171D, 0x1171D, .transparent),
  (0x1171F, 0x1171F, .transparent),
  (0x11722, 0x11725, .transparent),
  (0x11727, 0x1172B, .transparent),
  (0x1182F, 0x11837, .transparent),
  (0x11839, 0x1183A, .transparent),
  (0x1193B, 0x1193C, .transparent),
  (0x1193E, 0x1193E, .transparent),
  (0x11943, 0x11943, .transparent),
  (0x119D4, 0x119D7, .transparent),
  (0x119DA, 0x119DB, .transparent),
  (0x119E0, 0x119E0, .transparent),
  (0x11A01, 0x11A0A, .transparent),
  (0x11A33, 0x11A38, .transparent),
  (0x11A3B, 0x11A3E, .transparent),
  (0x11A47, 0x11A47, .transparent),
  (0x11A51, 0x11A56, .transparent),
  (0x11A59, 0x11A5B, .transparent),
  (0x11A8A, 0x11A96, .transparent),
  (0x11A98, 0x11A99, .transparent),
  (0x11C30, 0x11C36, .transparent),
  (0x11C38, 0x11C3D, .transparent),
  (0x11C3F, 0x11C3F, .transparent),
  (0x11C92, 0x11CA7, .transparent),
  (0x11CAA, 0x11CB0, .transparent),
  (0x11CB2, 0x11CB3, .transparent),
  (0x11CB5, 0x11CB6, .transparent),
  (0x11D31, 0x11D36, .transparent),
  (0x11D3A, 0x11D3A, .transparent),
  (0x11D3C, 0x11D3D, .transparent),
  (0x11D3F, 0x11D45, .transparent),
  (0x11D47, 0x11D47, .transparent),
  (0x11D90, 0x11D91, .transparent),
  (0x11D95, 0x11D95, .transparent),
  (0x11D97, 0x11D97, .transparent),
  (0x11EF3, 0x11EF4, .transparent),
  (0x16AF0, 0x16AF4, .transparent),
  (0x16B30, 0x16B36, .transparent),
  (0x16F4F, 0x16F4F, .transparent) ]

/-- Rows 448 to 469 of the table. -/
def joiningRanges7 : List (Nat × Nat × Joining) := [
  (0x16F8F, 0x16F92, .transparent),
  (0x16FE4, 0x16FE4, .transparent),
  (0x1BC9D, 0x1BC9E, .transparent),
  (0x1CF00, 0x1CF2D, .transparent),
  (0x1CF30, 0x1CF46, .transparent),
  (0x1DA00, 0x1DA36, .transparent),
  (0x1DA3B, 0x1DA6C, .transparent),
  (0x1DA75, 0x1DA75, .transparent),
  (0x1DA84, 0x1DA84, .transparent),
  (0x1DA9B, 0x1DA9F, .transparent),
  (0x1DAA1, 0x1DAAF, .transparent),
  (0x1E000, 0x1E006, .transparent),
  (0x1E008, 0x1E018, .transparent),
  (0x1E01B, 0x1E021, .transparent),
  (0x1E023, 0x1E024, .transparent),
  (0x1E026, 0x1E02A, .transparent),
  (0x1E130, 0x1E136, .transparent),
  (0x1E2AE, 0x1E2AE, .transparent),
  (0x1E2EC, 0x1E2EF, .transparent),
  (0x1E8D0, 0x1E8D6, .transparent),
  (0x1E922, 0x1E943, .dual),
  (0x1E944, 0x1E94B, .transparent) ]

/-- Joining types T, L, D and R. -/
def joiningRanges : List (Nat × Nat × Joining) :=
  joiningRanges0 ++
    joiningRanges1 ++
    joiningRanges2 ++
    joiningRanges3 ++
    joiningRanges4 ++
    joiningRanges5 ++
    joiningRanges6 ++
    joiningRanges7

/-- Rows 0 to 63 of the table. -/
def scriptRanges0 : List (Nat × Nat × Script) := [
  (0x0371, 0x0371, .greek),
  (0x0373, 0x0373, .greek),
  (0x0375, 0x0375, .greek),
  (0x0377, 0x0377, .greek),
  (0x037B, 0x037D, .greek),
  (0x0390, 0x0390, .greek),
  (0x03AC, 0x03CE, .greek),
  (0x03D7, 0x03D7, .greek),
  (0x03D9, 0x03D9, .greek),
  (0x03DB, 0x03DB, .greek),
  (0x03DD, 0x03DD, .greek),
  (0x03DF, 0x03DF, .greek),
  (0x03E1, 0x03E1, .greek),
  (0x03F3, 0x03F3, .greek),
  (0x03F8, 0x03F8, .greek),
  (0x03FB, 0x03FC, .greek),
  (0x0591, 0x05BD, .hebrew),
  (0x05BF, 0x05BF, .hebrew),
  (0x05C1, 0x05C2, .hebrew),
  (0x05C4, 0x05C5, .hebrew),
  (0x05C7, 0x05C7, .hebrew),
  (0x05D0, 0x05EA, .hebrew),
  (0x05EF, 0x05F4, .hebrew),
  (0x1D26, 0x1D2A, .greek),
  (0x1F00, 0x1F07, .greek),
  (0x1F10, 0x1F15, .greek),
  (0x1F20, 0x1F27, .greek),
  (0x1F30, 0x1F37, .greek),
  (0x1F40, 0x1F45, .greek),
  (0x1F50, 0x1F57, .greek),
  (0x1F60, 0x1F67, .greek),
  (0x1F70, 0x1F70, .greek),
  (0x1F72, 0x1F72, .greek),
  (0x1F74, 0x1F74, .greek),
  (0x1F76, 0x1F76, .greek),
  (0x1F78, 0x1F78, .greek),
  (0x1F7A, 0x1F7A, .greek),
  (0x1F7C, 0x1F7C, .greek),
  (0x1FB0, 0x1FB1, .greek),
  (0x1FB6, 0x1FB6, .greek),
  (0x1FC6, 0x1FC6, .greek),
  (0x1FD0, 0x1FD2, .greek),
  (0x1FD6, 0x1FD7, .greek),
  (0x1FE0, 0x1FE2, .greek),
  (0x1FE4, 0x1FE7, .greek),
  (0x1FF6, 0x1FF6, .greek),
  (0x3005, 0x3005, .han),
  (0x3007, 0x3007, .han),
  (0x3041, 0x3096, .kana),
  (0x309D, 0x309E, .kana),
  (0x30A1, 0x30FA, .kana),
  (0x30FD, 0x30FE, .kana),
  (0x31F0, 0x31FF, .kana),
  (0x3400, 0x4DBF, .han),
  (0x4E00, 0x9FFF, .han),
  (0xAB65, 0xAB65, .greek),
  (0xFA0E, 0xFA0F, .han),
  (0xFA11, 0xFA11, .han),
  (0xFA13, 0xFA14, .han),
  (0xFA1F, 0xFA1F, .han),
  (0xFA21, 0xFA21, .han),
  (0xFA23, 0xFA24, .han),
  (0xFA27, 0xFA29, .han),
  (0xFB1E, 0xFB1E, .hebrew) ]

/-- Rows 64 to 77 of the table. -/
def scriptRanges1 : List (Nat × Nat × Script) := [
  (0x16FE3, 0x16FE3, .han),
  (0x16FF0, 0x16FF1, .han),
  (0x1AFF0, 0x1AFF3, .kana),
  (0x1AFF5, 0x1AFFB, .kana),
  (0x1AFFD, 0x1AFFE, .kana),
  (0x1B000, 0x1B122, .kana),
  (0x1B150, 0x1B152, .kana),
  (0x1B164, 0x1B167, .kana),
  (0x20000, 0x2A6DF, .han),
  (0x2A700, 0x2B738, .han),
  (0x2B740, 0x2B81D, .han),
  (0x2B820, 0x2CEA1, .han),
  (0x2CEB0, 0x2EBE0, .han),
  (0x30000, 0x3134A, .han) ]

/-- Scripts Greek, Hebrew, Han and kana. -/
def scriptRanges : List (Nat × Nat × Script) :=
  scriptRanges0 ++
    scriptRanges1

end EmployeeGateway.HostName
