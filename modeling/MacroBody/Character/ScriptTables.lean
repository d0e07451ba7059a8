/-!
# Scripts

The code points of each script, as stretches `(lo, hi, step)` in increasing order, under the names of
the script. A script has a second table where it is extended: there it holds the code points that
are used with it, whatever their own script is.
-/

namespace MacroBody.Script

/-- The script Adlam. -/
def adlam : List (Nat × Nat × Nat) := [
  (0x1e900, 0x1e94b, 1), (0x1e950, 0x1e959, 1), (0x1e95e, 0x1e95f, 1)]

/-- The characters used with the script Adlam. -/
def adlamExtended : List (Nat × Nat × Nat) := [
  (0x61f, 0x61f, 1), (0x640, 0x640, 1), (0x204f, 0x204f, 1), (0x2e41, 0x2e41, 1),
  (0x1e900, 0x1e94b, 1), (0x1e950, 0x1e959, 1), (0x1e95e, 0x1e95f, 1)]

/-- The script Ahom. -/
def ahom : List (Nat × Nat × Nat) := [
  (0x11700, 0x1171a, 1), (0x1171d, 0x1172b, 1), (0x11730, 0x11746, 1)]

/-- The script Anatolian Hieroglyphs. -/
def anatolianHieroglyphs : List (Nat × Nat × Nat) := [
  (0x14400, 0x14646, 1)]

/-- The script Arabic. -/
def arabic : List (Nat × Nat × Nat) := [
  (0x600, 0x604, 1), (0x606, 0x60b, 1), (0x60d, 0x61a, 1), (0x61c, 0x61e, 1), (0x620, 0x63f, 1),
  (0x641, 0x64a, 1), (0x656, 0x66f, 1), (0x671, 0x6dc, 1), (0x6de, 0x6ff, 1), (0x750, 0x77f, 1),
  (0x870, 0x88e, 1), (0x890, 0x891, 1), (0x897, 0x8e1, 1), (0x8e3, 0x8ff, 1), (0xfb50, 0xfbc2, 1),
  (0xfbd3, 0xfd3d, 1), (0xfd40, 0xfd8f, 1), (0xfd92, 0xfdc7, 1), (0xfdcf, 0xfdcf, 1),
  (0xfdf0, 0xfdff, 1), (0xfe70, 0xfe74, 1), (0xfe76, 0xfefc, 1), (0x10e60, 0x10e7e, 1),
  (0x10ec2, 0x10ec4, 1), (0x10efc, 0x10eff, 1), (0x1ee00, 0x1ee03, 1), (0x1ee05, 0x1ee1f, 1),
  (0x1ee21, 0x1ee22, 1), (0x1ee24, 0x1ee24, 1), (0x1ee27, 0x1ee27, 1), (0x1ee29, 0x1ee32, 1),
  (0x1ee34, 0x1ee37, 1), (0x1ee39, 0x1ee39, 1), (0x1ee3b, 0x1ee3b, 1), (0x1ee42, 0x1ee42, 1),
  (0x1ee47, 0x1ee4b, 2), (0x1ee4d, 0x1ee4f, 1), (0x1ee51, 0x1ee52, 1), (0x1ee54, 0x1ee54, 1),
  (0x1ee57, 0x1ee5f, 2), (0x1ee61, 0x1ee62, 1), (0x1ee64, 0x1ee64, 1), (0x1ee67, 0x1ee6a, 1),
  (0x1ee6c, 0x1ee72, 1), (0x1ee74, 0x1ee77, 1), (0x1ee79, 0x1ee7c, 1), (0x1ee7e, 0x1ee7e, 1),
  (0x1ee80, 0x1ee89, 1), (0x1ee8b, 0x1ee9b, 1), (0x1eea1, 0x1eea3, 1), (0x1eea5, 0x1eea9, 1),
  (0x1eeab, 0x1eebb, 1), (0x1eef0, 0x1eef1, 1)]

/-- The characters used with the script Arabic. -/
def arabicExtended : List (Nat × Nat × Nat) := [
  (0x600, 0x604, 1), (0x606, 0x6dc, 1), (0x6de, 0x6ff, 1), (0x750, 0x77f, 1), (0x870, 0x88e, 1),
  (0x890, 0x891, 1), (0x897, 0x8e1, 1), (0x8e3, 0x8ff, 1), (0x204f, 0x204f, 1),
  (0x2e41, 0x2e41, 1), (0xfb50, 0xfbc2, 1), (0xfbd3, 0xfd8f, 1), (0xfd92, 0xfdc7, 1),
  (0xfdcf, 0xfdcf, 1), (0xfdf0, 0xfdff, 1), (0xfe70, 0xfe74, 1), (0xfe76, 0xfefc, 1),
  (0x102e0, 0x102fb, 1), (0x10e60, 0x10e7e, 1), (0x10ec2, 0x10ec4, 1), (0x10efc, 0x10eff, 1),
  (0x1ee00, 0x1ee03, 1), (0x1ee05, 0x1ee1f, 1), (0x1ee21, 0x1ee22, 1), (0x1ee24, 0x1ee24, 1),
  (0x1ee27, 0x1ee27, 1), (0x1ee29, 0x1ee32, 1), (0x1ee34, 0x1ee37, 1), (0x1ee39, 0x1ee39, 1),
  (0x1ee3b, 0x1ee3b, 1), (0x1ee42, 0x1ee42, 1), (0x1ee47, 0x1ee4b, 2), (0x1ee4d, 0x1ee4f, 1),
  (0x1ee51, 0x1ee52, 1), (0x1ee54, 0x1ee54, 1), (0x1ee57, 0x1ee5f, 2), (0x1ee61, 0x1ee62, 1),
  (0x1ee64, 0x1ee64, 1), (0x1ee67, 0x1ee6a, 1), (0x1ee6c, 0x1ee72, 1), (0x1ee74, 0x1ee77, 1),
  (0x1ee79, 0x1ee7c, 1), (0x1ee7e, 0x1ee7e, 1), (0x1ee80, 0x1ee89, 1), (0x1ee8b, 0x1ee9b, 1),
  (0x1eea1, 0x1eea3, 1), (0x1eea5, 0x1eea9, 1), (0x1eeab, 0x1eebb, 1), (0x1eef0, 0x1eef1, 1)]

/-- The script Armenian. -/
def armenian : List (Nat × Nat × Nat) := [
  (0x531, 0x556, 1), (0x559, 0x58a, 1), (0x58d, 0x58f, 1), (0xfb13, 0xfb17, 1)]

/-- The characters used with the script Armenian. -/
def armenianExtended : List (Nat × Nat × Nat) := [
  (0x308, 0x308, 1), (0x531, 0x556, 1), (0x559, 0x58a, 1), (0x58d, 0x58f, 1), (0xfb13, 0xfb17, 1)]

/-- The script Avestan. -/
def avestan : List (Nat × Nat × Nat) := [
  (0x10b00, 0x10b35, 1), (0x10b39, 0x10b3f, 1)]

/-- The characters used with the script Avestan. -/
def avestanExtended : List (Nat × Nat × Nat) := [
  (0xb7, 0xb7, 1), (0x2e30, 0x2e31, 1), (0x10b00, 0x10b35, 1), (0x10b39, 0x10b3f, 1)]

/-- The script Balinese. -/
def balinese : List (Nat × Nat × Nat) := [
  (0x1b00, 0x1b4c, 1), (0x1b4e, 0x1b7f, 1)]

/-- The script Bamum. -/
def bamum : List (Nat × Nat × Nat) := [
  (0xa6a0, 0xa6f7, 1), (0x16800, 0x16a38, 1)]

/-- The script Bassa Vah. -/
def bassaVah : List (Nat × Nat × Nat) := [
  (0x16ad0, 0x16aed, 1), (0x16af0, 0x16af5, 1)]

/-- The script Batak. -/
def batak : List (Nat × Nat × Nat) := [
  (0x1bc0, 0x1bf3, 1), (0x1bfc, 0x1bff, 1)]

/-- The script Bengali. -/
def bengali : List (Nat × Nat × Nat) := [
  (0x980, 0x983, 1), (0x985, 0x98c, 1), (0x98f, 0x990, 1), (0x993, 0x9a8, 1), (0x9aa, 0x9b0, 1),
  (0x9b2, 0x9b2, 1), (0x9b6, 0x9b9, 1), (0x9bc, 0x9c4, 1), (0x9c7, 0x9c8, 1), (0x9cb, 0x9ce, 1),
  (0x9d7, 0x9d7, 1), (0x9dc, 0x9dd, 1), (0x9df, 0x9e3, 1), (0x9e6, 0x9fe, 1)]

/-- The characters used with the script Bengali. -/
def bengaliExtended : List (Nat × Nat × Nat) := [
  (0x2bc, 0x2bc, 1), (0x951, 0x952, 1), (0x964, 0x965, 1), (0x980, 0x983, 1), (0x985, 0x98c, 1),
  (0x98f, 0x990, 1), (0x993, 0x9a8, 1), (0x9aa, 0x9b0, 1), (0x9b2, 0x9b2, 1), (0x9b6, 0x9b9, 1),
  (0x9bc, 0x9c4, 1), (0x9c7, 0x9c8, 1), (0x9cb, 0x9ce, 1), (0x9d7, 0x9d7, 1), (0x9dc, 0x9dd, 1),
  (0x9df, 0x9e3, 1), (0x9e6, 0x9fe, 1), (0x1cd0, 0x1cd0, 1), (0x1cd2, 0x1cd2, 1),
  (0x1cd5, 0x1cd6, 1), (0x1cd8, 0x1cea, 9), (0x1ced, 0x1ced, 1), (0x1cf2, 0x1cf2, 1),
  (0x1cf5, 0x1cf7, 1), (0xa8f1, 0xa8f1, 1)]

/-- The script Bhaiksuki. -/
def bhaiksuki : List (Nat × Nat × Nat) := [
  (0x11c00, 0x11c08, 1), (0x11c0a, 0x11c36, 1), (0x11c38, 0x11c45, 1), (0x11c50, 0x11c6c, 1)]

/-- The script Bopomofo. -/
def bopomofo : List (Nat × Nat × Nat) := [
  (0x2ea, 0x2eb, 1), (0x3105, 0x312f, 1), (0x31a0, 0x31bf, 1)]

/-- The characters used with the script Bopomofo. -/
def bopomofoExtended : List (Nat × Nat × Nat) := [
  (0x2c7, 0x2c7, 1), (0x2c9, 0x2cb, 1), (0x2d9, 0x2d9, 1), (0x2ea, 0x2eb, 1), (0x3001, 0x3003, 1),
  (0x3008, 0x3011, 1), (0x3013, 0x301f, 1), (0x302a, 0x302d, 1), (0x3030, 0x3030, 1),
  (0x3037, 0x3037, 1), (0x30fb, 0x30fb, 1), (0x3105, 0x312f, 1), (0x31a0, 0x31bf, 1),
  (0xfe45, 0xfe46, 1), (0xff61, 0xff65, 1)]

/-- The script Brahmi. -/
def brahmi : List (Nat × Nat × Nat) := [
  (0x11000, 0x1104d, 1), (0x11052, 0x11075, 1), (0x1107f, 0x1107f, 1)]

/-- The script Braille. -/
def braille : List (Nat × Nat × Nat) := [
  (0x2800, 0x28ff, 1)]

/-- The script Buginese. -/
def buginese : List (Nat × Nat × Nat) := [
  (0x1a00, 0x1a1b, 1), (0x1a1e, 0x1a1f, 1)]

/-- The characters used with the script Buginese. -/
def bugineseExtended : List (Nat × Nat × Nat) := [
  (0x1a00, 0x1a1b, 1), (0x1a1e, 0x1a1f, 1), (0xa9cf, 0xa9cf, 1)]

/-- The script Buhid. -/
def buhid : List (Nat × Nat × Nat) := [
  (0x1740, 0x1753, 1)]

/-- The characters used with the script Buhid. -/
def buhidExtended : List (Nat × Nat × Nat) := [
  (0x1735, 0x1736, 1), (0x1740, 0x1753, 1)]

/-- The script Canadian Aboriginal. -/
def canadianAboriginal : List (Nat × Nat × Nat) := [
  (0x1400, 0x167f, 1), (0x18b0, 0x18f5, 1), (0x11ab0, 0x11abf, 1)]

/-- The script Carian. -/
def carian : List (Nat × Nat × Nat) := [
  (0x102a0, 0x102d0, 1)]

/-- The characters used with the script Carian. -/
def carianExtended : List (Nat × Nat × Nat) := [
  (0xb7, 0xb7, 1), (0x205a, 0x205a, 1), (0x205d, 0x205d, 1), (0x2e31, 0x2e31, 1),
  (0x102a0, 0x102d0, 1)]

/-- The script Caucasian Albanian. -/
def caucasianAlbanian : List (Nat × Nat × Nat) := [
  (0x10530, 0x10563, 1), (0x1056f, 0x1056f, 1)]

/-- The characters used with the script Caucasian Albanian. -/
def caucasianAlbanianExtended : List (Nat × Nat × Nat) := [
  (0x304, 0x35e, 45), (0x10530, 0x10563, 1), (0x1056f, 0x1056f, 1)]

/-- The script Chakma. -/
def chakma : List (Nat × Nat × Nat) := [
  (0x11100, 0x11134, 1), (0x11136, 0x11147, 1)]

/-- The characters used with the script Chakma. -/
def chakmaExtended : List (Nat × Nat × Nat) := [
  (0x9e6, 0x9ef, 1), (0x1040, 0x1049, 1), (0x11100, 0x11134, 1), (0x11136, 0x11147, 1)]

/-- The script Cham. -/
def cham : List (Nat × Nat × Nat) := [
  (0xaa00, 0xaa36, 1), (0xaa40, 0xaa4d, 1), (0xaa50, 0xaa59, 1), (0xaa5c, 0xaa5f, 1)]

/-- The script Cherokee. -/
def cherokee : List (Nat × Nat × Nat) := [
  (0x13a0, 0x13f5, 1), (0x13f8, 0x13fd, 1), (0xab70, 0xabbf, 1)]

/-- The characters used with the script Cherokee. -/
def cherokeeExtended : List (Nat × Nat × Nat) := [
  (0x300, 0x302, 1), (0x304, 0x304, 1), (0x30b, 0x30c, 1), (0x323, 0x324, 1), (0x330, 0x331, 1),
  (0x13a0, 0x13f5, 1), (0x13f8, 0x13fd, 1), (0xab70, 0xabbf, 1)]

/-- The script Chorasmian. -/
def chorasmian : List (Nat × Nat × Nat) := [
  (0x10fb0, 0x10fcb, 1)]

/-- The script Common. -/
def common : List (Nat × Nat × Nat) := [
  (0x0, 0x40, 1), (0x5b, 0x60, 1), (0x7b, 0xa9, 1), (0xab, 0xb9, 1), (0xbb, 0xbf, 1),
  (0xd7, 0xd7, 1), (0xf7, 0xf7, 1), (0x2b9, 0x2df, 1), (0x2e5, 0x2e9, 1), (0x2ec, 0x2ff, 1),
  (0x374, 0x374, 1), (0x37e, 0x37e, 1), (0x385, 0x385, 1), (0x387, 0x387, 1), (0x605, 0x605, 1),
  (0x60c, 0x60c, 1), (0x61b, 0x61b, 1), (0x61f, 0x61f, 1), (0x640, 0x640, 1), (0x6dd, 0x6dd, 1),
  (0x8e2, 0x8e2, 1), (0x964, 0x965, 1), (0xe3f, 0xe3f, 1), (0xfd5, 0xfd8, 1), (0x10fb, 0x10fb, 1),
  (0x16eb, 0x16ed, 1), (0x1735, 0x1736, 1), (0x1802, 0x1803, 1), (0x1805, 0x1805, 1),
  (0x1cd3, 0x1cd3, 1), (0x1ce1, 0x1ce1, 1), (0x1ce9, 0x1cec, 1), (0x1cee, 0x1cf3, 1),
  (0x1cf5, 0x1cf7, 1), (0x1cfa, 0x1cfa, 1), (0x2000, 0x200b, 1), (0x200e, 0x2064, 1),
  (0x2066, 0x2070, 1), (0x2074, 0x207e, 1), (0x2080, 0x208e, 1), (0x20a0, 0x20c0, 1),
  (0x2100, 0x2125, 1), (0x2127, 0x2129, 1), (0x212c, 0x2131, 1), (0x2133, 0x214d, 1),
  (0x214f, 0x215f, 1), (0x2189, 0x218b, 1), (0x2190, 0x2429, 1), (0x2440, 0x244a, 1),
  (0x2460, 0x27ff, 1), (0x2900, 0x2b73, 1), (0x2b76, 0x2b95, 1), (0x2b97, 0x2bff, 1),
  (0x2e00, 0x2e5d, 1), (0x2ff0, 0x3004, 1), (0x3006, 0x3006, 1), (0x3008, 0x3020, 1),
  (0x3030, 0x3037, 1), (0x303c, 0x303f, 1), (0x309b, 0x309c, 1), (0x30a0, 0x30a0, 1),
  (0x30fb, 0x30fc, 1), (0x3190, 0x319f, 1), (0x31c0, 0x31e5, 1), (0x31ef, 0x31ef, 1),
  (0x3220, 0x325f, 1), (0x327f, 0x32cf, 1), (0x32ff, 0x32ff, 1), (0x3358, 0x33ff, 1),
  (0x4dc0, 0x4dff, 1), (0xa700, 0xa721, 1), (0xa788, 0xa78a, 1), (0xa830, 0xa839, 1),
  (0xa92e, 0xa92e, 1), (0xa9cf, 0xa9cf, 1), (0xab5b, 0xab5b, 1), (0xab6a, 0xab6b, 1),
  (0xfd3e, 0xfd3f, 1), (0xfe10, 0xfe19, 1), (0xfe30, 0xfe52, 1), (0xfe54, 0xfe66, 1),
  (0xfe68, 0xfe6b, 1), (0xfeff, 0xfeff, 1), (0xff01, 0xff20, 1), (0xff3b, 0xff40, 1),
  (0xff5b, 0xff65, 1), (0xff70, 0xff70, 1), (0xff9e, 0xff9f, 1), (0xffe0, 0xffe6, 1),
  (0xffe8, 0xffee, 1), (0xfff9, 0xfffd, 1), (0x10100, 0x10102, 1), (0x10107, 0x10133, 1),
  (0x10137, 0x1013f, 1), (0x10190, 0x1019c, 1), (0x101d0, 0x101fc, 1), (0x102e1, 0x102fb, 1),
  (0x1bca0, 0x1bca3, 1), (0x1cc00, 0x1ccf9, 1), (0x1cd00, 0x1ceb3, 1), (0x1cf50, 0x1cfc3, 1),
  (0x1d000, 0x1d0f5, 1), (0x1d100, 0x1d126, 1), (0x1d129, 0x1d166, 1), (0x1d16a, 0x1d17a, 1),
  (0x1d183, 0x1d184, 1), (0x1d18c, 0x1d1a9, 1), (0x1d1ae, 0x1d1ea, 1), (0x1d2c0, 0x1d2d3, 1),
  (0x1d2e0, 0x1d2f3, 1), (0x1d300, 0x1d356, 1), (0x1d360, 0x1d378, 1), (0x1d400, 0x1d454, 1),
  (0x1d456, 0x1d49c, 1), (0x1d49e, 0x1d49f, 1), (0x1d4a2, 0x1d4a2, 1), (0x1d4a5, 0x1d4a6, 1),
  (0x1d4a9, 0x1d4ac, 1), (0x1d4ae, 0x1d4b9, 1), (0x1d4bb, 0x1d4bb, 1), (0x1d4bd, 0x1d4c3, 1),
  (0x1d4c5, 0x1d505, 1), (0x1d507, 0x1d50a, 1), (0x1d50d, 0x1d514, 1), (0x1d516, 0x1d51c, 1),
  (0x1d51e, 0x1d539, 1), (0x1d53b, 0x1d53e, 1), (0x1d540, 0x1d544, 1), (0x1d546, 0x1d546, 1),
  (0x1d54a, 0x1d550, 1), (0x1d552, 0x1d6a5, 1), (0x1d6a8, 0x1d7cb, 1), (0x1d7ce, 0x1d7ff, 1),
  (0x1ec71, 0x1ecb4, 1), (0x1ed01, 0x1ed3d, 1), (0x1f000, 0x1f02b, 1), (0x1f030, 0x1f093, 1),
  (0x1f0a0, 0x1f0ae, 1), (0x1f0b1, 0x1f0bf, 1), (0x1f0c1, 0x1f0cf, 1), (0x1f0d1, 0x1f0f5, 1),
  (0x1f100, 0x1f1ad, 1), (0x1f1e6, 0x1f1ff, 1), (0x1f201, 0x1f202, 1), (0x1f210, 0x1f23b, 1),
  (0x1f240, 0x1f248, 1), (0x1f250, 0x1f251, 1), (0x1f260, 0x1f265, 1), (0x1f300, 0x1f6d7, 1),
  (0x1f6dc, 0x1f6ec, 1), (0x1f6f0, 0x1f6fc, 1), (0x1f700, 0x1f776, 1), (0x1f77b, 0x1f7d9, 1),
  (0x1f7e0, 0x1f7eb, 1), (0x1f7f0, 0x1f7f0, 1), (0x1f800, 0x1f80b, 1), (0x1f810, 0x1f847, 1),
  (0x1f850, 0x1f859, 1), (0x1f860, 0x1f887, 1), (0x1f890, 0x1f8ad, 1), (0x1f8b0, 0x1f8bb, 1),
  (0x1f8c0, 0x1f8c1, 1), (0x1f900, 0x1fa53, 1), (0x1fa60, 0x1fa6d, 1), (0x1fa70, 0x1fa7c, 1),
  (0x1fa80, 0x1fa89, 1), (0x1fa8f, 0x1fac6, 1), (0x1face, 0x1fadc, 1), (0x1fadf, 0x1fae9, 1),
  (0x1faf0, 0x1faf8, 1), (0x1fb00, 0x1fb92, 1), (0x1fb94, 0x1fbf9, 1), (0xe0001, 0xe0001, 1),
  (0xe0020, 0xe007f, 1)]

/-- The characters used with the script Common. -/
def commonExtended : List (Nat × Nat × Nat) := [
  (0x0, 0x40, 1), (0x5b, 0x60, 1), (0x7b, 0xa9, 1), (0xab, 0xb6, 1), (0xb8, 0xb9, 1),
  (0xbb, 0xbf, 1), (0xd7, 0xd7, 1), (0xf7, 0xf7, 1), (0x2b9, 0x2bb, 1), (0x2bd, 0x2c6, 1),
  (0x2c8, 0x2c8, 1), (0x2cc, 0x2cc, 1), (0x2ce, 0x2d6, 1), (0x2d8, 0x2d8, 1), (0x2da, 0x2df, 1),
  (0x2e5, 0x2e9, 1), (0x2ec, 0x2ff, 1), (0x37e, 0x37e, 1), (0x385, 0x385, 1), (0x387, 0x387, 1),
  (0x605, 0x605, 1), (0x6dd, 0x6dd, 1), (0x8e2, 0x8e2, 1), (0xe3f, 0xe3f, 1), (0xfd5, 0xfd8, 1),
  (0x2000, 0x200b, 1), (0x200e, 0x202e, 1), (0x2030, 0x204e, 1), (0x2050, 0x2059, 1),
  (0x205b, 0x205c, 1), (0x205e, 0x2064, 1), (0x2066, 0x2070, 1), (0x2074, 0x207e, 1),
  (0x2080, 0x208e, 1), (0x20a0, 0x20c0, 1), (0x2100, 0x2125, 1), (0x2127, 0x2129, 1),
  (0x212c, 0x2131, 1), (0x2133, 0x214d, 1), (0x214f, 0x215f, 1), (0x2189, 0x218b, 1),
  (0x2190, 0x2429, 1), (0x2440, 0x244a, 1), (0x2460, 0x27ff, 1), (0x2900, 0x2b73, 1),
  (0x2b76, 0x2b95, 1), (0x2b97, 0x2bff, 1), (0x2e00, 0x2e16, 1), (0x2e18, 0x2e2f, 1),
  (0x2e32, 0x2e3b, 1), (0x2e3d, 0x2e40, 1), (0x2e42, 0x2e42, 1), (0x2e44, 0x2e5d, 1),
  (0x3000, 0x3000, 1), (0x3004, 0x3020, 14), (0x3036, 0x3036, 1), (0x3248, 0x325f, 1),
  (0x327f, 0x327f, 1), (0x32b1, 0x32bf, 1), (0x32cc, 0x32cf, 1), (0x3371, 0x337a, 1),
  (0x3380, 0x33df, 1), (0x33ff, 0x33ff, 1), (0x4dc0, 0x4dff, 1), (0xa708, 0xa721, 1),
  (0xa788, 0xa78a, 1), (0xab5b, 0xab5b, 1), (0xab6a, 0xab6b, 1), (0xfe10, 0xfe19, 1),
  (0xfe30, 0xfe44, 1), (0xfe47, 0xfe52, 1), (0xfe54, 0xfe66, 1), (0xfe68, 0xfe6b, 1),
  (0xfeff, 0xfeff, 1), (0xff01, 0xff20, 1), (0xff3b, 0xff40, 1), (0xff5b, 0xff60, 1),
  (0xffe0, 0xffe6, 1), (0xffe8, 0xffee, 1), (0xfff9, 0xfffd, 1), (0x10190, 0x1019c, 1),
  (0x101d0, 0x101fc, 1), (0x1cc00, 0x1ccf9, 1), (0x1cd00, 0x1ceb3, 1), (0x1cf50, 0x1cfc3, 1),
  (0x1d000, 0x1d0f5, 1), (0x1d100, 0x1d126, 1), (0x1d129, 0x1d166, 1), (0x1d16a, 0x1d17a, 1),
  (0x1d183, 0x1d184, 1), (0x1d18c, 0x1d1a9, 1), (0x1d1ae, 0x1d1ea, 1), (0x1d2c0, 0x1d2d3, 1),
  (0x1d2e0, 0x1d2f3, 1), (0x1d300, 0x1d356, 1), (0x1d372, 0x1d378, 1), (0x1d400, 0x1d454, 1),
  (0x1d456, 0x1d49c, 1), (0x1d49e, 0x1d49f, 1), (0x1d4a2, 0x1d4a2, 1), (0x1d4a5, 0x1d4a6, 1),
  (0x1d4a9, 0x1d4ac, 1), (0x1d4ae, 0x1d4b9, 1), (0x1d4bb, 0x1d4bb, 1), (0x1d4bd, 0x1d4c3, 1),
  (0x1d4c5, 0x1d505, 1), (0x1d507, 0x1d50a, 1), (0x1d50d, 0x1d514, 1), (0x1d516, 0x1d51c, 1),
  (0x1d51e, 0x1d539, 1), (0x1d53b, 0x1d53e, 1), (0x1d540, 0x1d544, 1), (0x1d546, 0x1d546, 1),
  (0x1d54a, 0x1d550, 1), (0x1d552, 0x1d6a5, 1), (0x1d6a8, 0x1d7cb, 1), (0x1d7ce, 0x1d7ff, 1),
  (0x1ec71, 0x1ecb4, 1), (0x1ed01, 0x1ed3d, 1), (0x1f000, 0x1f02b, 1), (0x1f030, 0x1f093, 1),
  (0x1f0a0, 0x1f0ae, 1), (0x1f0b1, 0x1f0bf, 1), (0x1f0c1, 0x1f0cf, 1), (0x1f0d1, 0x1f0f5, 1),
  (0x1f100, 0x1f1ad, 1), (0x1f1e6, 0x1f1ff, 1), (0x1f201, 0x1f202, 1), (0x1f210, 0x1f23b, 1),
  (0x1f240, 0x1f248, 1), (0x1f260, 0x1f265, 1), (0x1f300, 0x1f6d7, 1), (0x1f6dc, 0x1f6ec, 1),
  (0x1f6f0, 0x1f6fc, 1), (0x1f700, 0x1f776, 1), (0x1f77b, 0x1f7d9, 1), (0x1f7e0, 0x1f7eb, 1),
  (0x1f7f0, 0x1f7f0, 1), (0x1f800, 0x1f80b, 1), (0x1f810, 0x1f847, 1), (0x1f850, 0x1f859, 1),
  (0x1f860, 0x1f887, 1), (0x1f890, 0x1f8ad, 1), (0x1f8b0, 0x1f8bb, 1), (0x1f8c0, 0x1f8c1, 1),
  (0x1f900, 0x1fa53, 1), (0x1fa60, 0x1fa6d, 1), (0x1fa70, 0x1fa7c, 1), (0x1fa80, 0x1fa89, 1),
  (0x1fa8f, 0x1fac6, 1), (0x1face, 0x1fadc, 1), (0x1fadf, 0x1fae9, 1), (0x1faf0, 0x1faf8, 1),
  (0x1fb00, 0x1fb92, 1), (0x1fb94, 0x1fbf9, 1), (0xe0001, 0xe0001, 1), (0xe0020, 0xe007f, 1)]

/-- The script Coptic. -/
def coptic : List (Nat × Nat × Nat) := [
  (0x3e2, 0x3ef, 1), (0x2c80, 0x2cf3, 1), (0x2cf9, 0x2cff, 1)]

/-- The characters used with the script Coptic. -/
def copticExtended : List (Nat × Nat × Nat) := [
  (0xb7, 0xb7, 1), (0x300, 0x300, 1), (0x304, 0x305, 1), (0x307, 0x307, 1), (0x374, 0x375, 1),
  (0x3e2, 0x3ef, 1), (0x2c80, 0x2cf3, 1), (0x2cf9, 0x2cff, 1), (0x2e17, 0x2e17, 1),
  (0x102e0, 0x102fb, 1)]

/-- The script Cuneiform. -/
def cuneiform : List (Nat × Nat × Nat) := [
  (0x12000, 0x12399, 1), (0x12400, 0x1246e, 1), (0x12470, 0x12474, 1), (0x12480, 0x12543, 1)]

/-- The script Cypriot. -/
def cypriot : List (Nat × Nat × Nat) := [
  (0x10800, 0x10805, 1), (0x10808, 0x10808, 1), (0x1080a, 0x10835, 1), (0x10837, 0x10838, 1),
  (0x1083c, 0x1083c, 1), (0x1083f, 0x1083f, 1)]

/-- The characters used with the script Cypriot. -/
def cypriotExtended : List (Nat × Nat × Nat) := [
  (0x10100, 0x10101, 1), (0x10102, 0x10102, 1), (0x10107, 0x10133, 1), (0x10137, 0x1013f, 1),
  (0x10800, 0x10805, 1), (0x10808, 0x10808, 1), (0x1080a, 0x10835, 1), (0x10837, 0x10838, 1),
  (0x1083c, 0x1083c, 1), (0x1083f, 0x1083f, 1)]

/-- The script Cypro Minoan. -/
def cyproMinoan : List (Nat × Nat × Nat) := [
  (0x12f90, 0x12ff2, 1)]

/-- The characters used with the script Cypro Minoan. -/
def cyproMinoanExtended : List (Nat × Nat × Nat) := [
  (0x10100, 0x10101, 1), (0x12f90, 0x12ff2, 1)]

/-- The script Cyrillic. -/
def cyrillic : List (Nat × Nat × Nat) := [
  (0x400, 0x484, 1), (0x487, 0x52f, 1), (0x1c80, 0x1c8a, 1), (0x1d2b, 0x1d2b, 1),
  (0x1d78, 0x1d78, 1), (0x2de0, 0x2dff, 1), (0xa640, 0xa69f, 1), (0xfe2e, 0xfe2f, 1),
  (0x1e030, 0x1e06d, 1), (0x1e08f, 0x1e08f, 1)]

/-- The characters used with the script Cyrillic. -/
def cyrillicExtended : List (Nat × Nat × Nat) := [
  (0x2bc, 0x2bc, 1), (0x300, 0x302, 1), (0x304, 0x308, 2), (0x30b, 0x30b, 1), (0x311, 0x311, 1),
  (0x400, 0x52f, 1), (0x1c80, 0x1c8a, 1), (0x1d2b, 0x1d2b, 1), (0x1d78, 0x1d78, 1),
  (0x1df8, 0x1df8, 1), (0x2de0, 0x2dff, 1), (0x2e43, 0x2e43, 1), (0xa640, 0xa69f, 1),
  (0xfe2e, 0xfe2f, 1), (0x1e030, 0x1e06d, 1), (0x1e08f, 0x1e08f, 1)]

/-- The script Deseret. -/
def deseret : List (Nat × Nat × Nat) := [
  (0x10400, 0x1044f, 1)]

/-- The script Devanagari. -/
def devanagari : List (Nat × Nat × Nat) := [
  (0x900, 0x950, 1), (0x955, 0x963, 1), (0x966, 0x97f, 1), (0xa8e0, 0xa8ff, 1),
  (0x11b00, 0x11b09, 1)]

/-- The characters used with the script Devanagari. -/
def devanagariExtended : List (Nat × Nat × Nat) := [
  (0x2bc, 0x2bc, 1), (0x900, 0x952, 1), (0x955, 0x97f, 1), (0x1cd0, 0x1cf6, 1),
  (0x1cf8, 0x1cf9, 1), (0x20f0, 0x20f0, 1), (0xa830, 0xa839, 1), (0xa8e0, 0xa8ff, 1),
  (0x11b00, 0x11b09, 1)]

/-- The script Dives Akuru. -/
def divesAkuru : List (Nat × Nat × Nat) := [
  (0x11900, 0x11906, 1), (0x11909, 0x11909, 1), (0x1190c, 0x11913, 1), (0x11915, 0x11916, 1),
  (0x11918, 0x11935, 1), (0x11937, 0x11938, 1), (0x1193b, 0x11946, 1), (0x11950, 0x11959, 1)]

/-- The script Dogra. -/
def dogra : List (Nat × Nat × Nat) := [
  (0x11800, 0x1183b, 1)]

/-- The characters used with the script Dogra. -/
def dograExtended : List (Nat × Nat × Nat) := [
  (0x964, 0x964, 1), (0x965, 0x965, 1), (0x966, 0x96f, 1), (0xa830, 0xa832, 1),
  (0xa833, 0xa835, 1), (0xa836, 0xa839, 1), (0x11800, 0x1183b, 1)]

/-- The script Duployan. -/
def duployan : List (Nat × Nat × Nat) := [
  (0x1bc00, 0x1bc6a, 1), (0x1bc70, 0x1bc7c, 1), (0x1bc80, 0x1bc88, 1), (0x1bc90, 0x1bc99, 1),
  (0x1bc9c, 0x1bc9f, 1)]

/-- The characters used with the script Duployan. -/
def duployanExtended : List (Nat × Nat × Nat) := [
  (0xb7, 0xb7, 1), (0x307, 0x308, 1), (0x30a, 0x30a, 1), (0x323, 0x324, 1), (0x2e3c, 0x2e3c, 1),
  (0x1bc00, 0x1bc6a, 1), (0x1bc70, 0x1bc7c, 1), (0x1bc80, 0x1bc88, 1), (0x1bc90, 0x1bc99, 1),
  (0x1bc9c, 0x1bca3, 1)]

/-- The script Egyptian Hieroglyphs. -/
def egyptianHieroglyphs : List (Nat × Nat × Nat) := [
  (0x13000, 0x13455, 1), (0x13460, 0x143fa, 1)]

/-- The script Elbasan. -/
def elbasan : List (Nat × Nat × Nat) := [
  (0x10500, 0x10527, 1)]

/-- The characters used with the script Elbasan. -/
def elbasanExtended : List (Nat × Nat × Nat) := [
  (0xb7, 0xb7, 1), (0x305, 0x305, 1), (0x10500, 0x10527, 1)]

/-- The script Elymaic. -/
def elymaic : List (Nat × Nat × Nat) := [
  (0x10fe0, 0x10ff6, 1)]

/-- The script Ethiopic. -/
def ethiopic : List (Nat × Nat × Nat) := [
  (0x1200, 0x1248, 1), (0x124a, 0x124d, 1), (0x1250, 0x1256, 1), (0x1258, 0x1258, 1),
  (0x125a, 0x125d, 1), (0x1260, 0x1288, 1), (0x128a, 0x128d, 1), (0x1290, 0x12b0, 1),
  (0x12b2, 0x12b5, 1), (0x12b8, 0x12be, 1), (0x12c0, 0x12c0, 1), (0x12c2, 0x12c5, 1),
  (0x12c8, 0x12d6, 1), (0x12d8, 0x1310, 1), (0x1312, 0x1315, 1), (0x1318, 0x135a, 1),
  (0x135d, 0x137c, 1), (0x1380, 0x1399, 1), (0x2d80, 0x2d96, 1), (0x2da0, 0x2da6, 1),
  (0x2da8, 0x2dae, 1), (0x2db0, 0x2db6, 1), (0x2db8, 0x2dbe, 1), (0x2dc0, 0x2dc6, 1),
  (0x2dc8, 0x2dce, 1), (0x2dd0, 0x2dd6, 1), (0x2dd8, 0x2dde, 1), (0xab01, 0xab06, 1),
  (0xab09, 0xab0e, 1), (0xab11, 0xab16, 1), (0xab20, 0xab26, 1), (0xab28, 0xab2e, 1),
  (0x1e7e0, 0x1e7e6, 1), (0x1e7e8, 0x1e7eb, 1), (0x1e7ed, 0x1e7ee, 1), (0x1e7f0, 0x1e7fe, 1)]

/-- The characters used with the script Ethiopic. -/
def ethiopicExtended : List (Nat × Nat × Nat) := [
  (0x30e, 0x30e, 1), (0x1200, 0x1248, 1), (0x124a, 0x124d, 1), (0x1250, 0x1256, 1),
  (0x1258, 0x1258, 1), (0x125a, 0x125d, 1), (0x1260, 0x1288, 1), (0x128a, 0x128d, 1),
  (0x1290, 0x12b0, 1), (0x12b2, 0x12b5, 1), (0x12b8, 0x12be, 1), (0x12c0, 0x12c0, 1),
  (0x12c2, 0x12c5, 1), (0x12c8, 0x12d6, 1), (0x12d8, 0x1310, 1), (0x1312, 0x1315, 1),
  (0x1318, 0x135a, 1), (0x135d, 0x137c, 1), (0x1380, 0x1399, 1), (0x2d80, 0x2d96, 1),
  (0x2da0, 0x2da6, 1), (0x2da8, 0x2dae, 1), (0x2db0, 0x2db6, 1), (0x2db8, 0x2dbe, 1),
  (0x2dc0, 0x2dc6, 1), (0x2dc8, 0x2dce, 1), (0x2dd0, 0x2dd6, 1), (0x2dd8, 0x2dde, 1),
  (0xab01, 0xab06, 1), (0xab09, 0xab0e, 1), (0xab11, 0xab16, 1), (0xab20, 0xab26, 1),
  (0xab28, 0xab2e, 1), (0x1e7e0, 0x1e7e6, 1), (0x1e7e8, 0x1e7eb, 1), (0x1e7ed, 0x1e7ee, 1),
  (0x1e7f0, 0x1e7fe, 1)]

/-- The script Garay. -/
def garay : List (Nat × Nat × Nat) := [
  (0x10d40, 0x10d65, 1), (0x10d69, 0x10d85, 1), (0x10d8e, 0x10d8f, 1)]

/-- The characters used with the script Garay. -/
def garayExtended : List (Nat × Nat × Nat) := [
  (0x60c, 0x60c, 1), (0x61b, 0x61b, 1), (0x61f, 0x61f, 1), (0x10d40, 0x10d65, 1),
  (0x10d69, 0x10d85, 1), (0x10d8e, 0x10d8f, 1)]

/-- The script Georgian. -/
def georgian : List (Nat × Nat × Nat) := [
  (0x10a0, 0x10c5, 1), (0x10c7, 0x10c7, 1), (0x10cd, 0x10cd, 1), (0x10d0, 0x10fa, 1),
  (0x10fc, 0x10ff, 1), (0x1c90, 0x1cba, 1), (0x1cbd, 0x1cbf, 1), (0x2d00, 0x2d25, 1),
  (0x2d27, 0x2d27, 1), (0x2d2d, 0x2d2d, 1)]

/-- The characters used with the script Georgian. -/
def georgianExtended : List (Nat × Nat × Nat) := [
  (0xb7, 0xb7, 1), (0x589, 0x589, 1), (0x10a0, 0x10c5, 1), (0x10c7, 0x10c7, 1),
  (0x10cd, 0x10cd, 1), (0x10d0, 0x10ff, 1), (0x1c90, 0x1cba, 1), (0x1cbd, 0x1cbf, 1),
  (0x205a, 0x205a, 1), (0x2d00, 0x2d25, 1), (0x2d27, 0x2d27, 1), (0x2d2d, 0x2d2d, 1),
  (0x2e31, 0x2e31, 1)]

/-- The script Glagolitic. -/
def glagolitic : List (Nat × Nat × Nat) := [
  (0x2c00, 0x2c5f, 1), (0x1e000, 0x1e006, 1), (0x1e008, 0x1e018, 1), (0x1e01b, 0x1e021, 1),
  (0x1e023, 0x1e024, 1), (0x1e026, 0x1e02a, 1)]

/-- The characters used with the script Glagolitic. -/
def glagoliticExtended : List (Nat × Nat × Nat) := [
  (0xb7, 0xb7, 1), (0x303, 0x303, 1), (0x305, 0x305, 1), (0x484, 0x484, 1), (0x487, 0x487, 1),
  (0x589, 0x589, 1), (0x10fb, 0x10fb, 1), (0x205a, 0x205a, 1), (0x2c00, 0x2c5f, 1),
  (0x2e43, 0x2e43, 1), (0xa66f, 0xa66f, 1), (0x1e000, 0x1e006, 1), (0x1e008, 0x1e018, 1),
  (0x1e01b, 0x1e021, 1), (0x1e023, 0x1e024, 1), (0x1e026, 0x1e02a, 1)]

/-- The script Gothic. -/
def gothic : List (Nat × Nat × Nat) := [
  (0x10330, 0x1034a, 1)]

/-- The characters used with the script Gothic. -/
def gothicExtended : List (Nat × Nat × Nat) := [
  (0xb7, 0xb7, 1), (0x304, 0x305, 1), (0x308, 0x308, 1), (0x331, 0x331, 1), (0x10330, 0x1034a, 1)]

/-- The script Grantha. -/
def grantha : List (Nat × Nat × Nat) := [
  (0x11300, 0x11303, 1), (0x11305, 0x1130c, 1), (0x1130f, 0x11310, 1), (0x11313, 0x11328, 1),
  (0x1132a, 0x11330, 1), (0x11332, 0x11333, 1), (0x11335, 0x11339, 1), (0x1133c, 0x11344, 1),
  (0x11347, 0x11348, 1), (0x1134b, 0x1134d, 1), (0x11350, 0x11350, 1), (0x11357, 0x11357, 1),
  (0x1135d, 0x11363, 1), (0x11366, 0x1136c, 1), (0x11370, 0x11374, 1)]

/-- The characters used with the script Grantha. -/
def granthaExtended : List (Nat × Nat × Nat) := [
  (0x951, 0x951, 1), (0x952, 0x952, 1), (0x964, 0x964, 1), (0x965, 0x965, 1), (0xbe6, 0xbf3, 1),
  (0x1cd0, 0x1cd0, 1), (0x1cd2, 0x1cd2, 1), (0x1cd3, 0x1cd3, 1), (0x1cf2, 0x1cf4, 1),
  (0x1cf8, 0x1cf9, 1), (0x20f0, 0x20f0, 1), (0x11300, 0x11303, 1), (0x11305, 0x1130c, 1),
  (0x1130f, 0x11310, 1), (0x11313, 0x11328, 1), (0x1132a, 0x11330, 1), (0x11332, 0x11333, 1),
  (0x11335, 0x11339, 1), (0x1133b, 0x1133c, 1), (0x1133d, 0x11344, 1), (0x11347, 0x11348, 1),
  (0x1134b, 0x1134d, 1), (0x11350, 0x11350, 1), (0x11357, 0x11357, 1), (0x1135d, 0x11363, 1),
  (0x11366, 0x1136c, 1), (0x11370, 0x11374, 1), (0x11fd0, 0x11fd1, 1), (0x11fd3, 0x11fd3, 1)]

/-- The script Greek. -/
def greek : List (Nat × Nat × Nat) := [
  (0x370, 0x373, 1), (0x375, 0x377, 1), (0x37a, 0x37d, 1), (0x37f, 0x37f, 1), (0x384, 0x384, 1),
  (0x386, 0x386, 1), (0x388, 0x38a, 1), (0x38c, 0x38c, 1), (0x38e, 0x3a1, 1), (0x3a3, 0x3e1, 1),
  (0x3f0, 0x3ff, 1), (0x1d26, 0x1d2a, 1), (0x1d5d, 0x1d61, 1), (0x1d66, 0x1d6a, 1),
  (0x1dbf, 0x1dbf, 1), (0x1f00, 0x1f15, 1), (0x1f18, 0x1f1d, 1), (0x1f20, 0x1f45, 1),
  (0x1f48, 0x1f4d, 1), (0x1f50, 0x1f57, 1), (0x1f59, 0x1f5d, 2), (0x1f5f, 0x1f7d, 1),
  (0x1f80, 0x1fb4, 1), (0x1fb6, 0x1fc4, 1), (0x1fc6, 0x1fd3, 1), (0x1fd6, 0x1fdb, 1),
  (0x1fdd, 0x1fef, 1), (0x1ff2, 0x1ff4, 1), (0x1ff6, 0x1ffe, 1), (0x2126, 0x2126, 1),
  (0xab65, 0xab65, 1), (0x10140, 0x1018e, 1), (0x101a0, 0x101a0, 1), (0x1d200, 0x1d245, 1)]

/-- The characters used with the script Greek. -/
def greekExtended : List (Nat × Nat × Nat) := [
  (0xb7, 0xb7, 1), (0x300, 0x301, 1), (0x304, 0x308, 2), (0x313, 0x313, 1), (0x342, 0x342, 1),
  (0x345, 0x345, 1), (0x370, 0x377, 1), (0x37a, 0x37d, 1), (0x37f, 0x37f, 1), (0x384, 0x384, 1),
  (0x386, 0x386, 1), (0x388, 0x38a, 1), (0x38c, 0x38c, 1), (0x38e, 0x3a1, 1), (0x3a3, 0x3e1, 1),
  (0x3f0, 0x3ff, 1), (0x1d26, 0x1d2a, 1), (0x1d5d, 0x1d61, 1), (0x1d66, 0x1d6a, 1),
  (0x1dbf, 0x1dc1, 1), (0x1f00, 0x1f15, 1), (0x1f18, 0x1f1d, 1), (0x1f20, 0x1f45, 1),
  (0x1f48, 0x1f4d, 1), (0x1f50, 0x1f57, 1), (0x1f59, 0x1f5d, 2), (0x1f5f, 0x1f7d, 1),
  (0x1f80, 0x1fb4, 1), (0x1fb6, 0x1fc4, 1), (0x1fc6, 0x1fd3, 1), (0x1fd6, 0x1fdb, 1),
  (0x1fdd, 0x1fef, 1), (0x1ff2, 0x1ff4, 1), (0x1ff6, 0x1ffe, 1), (0x205d, 0x205d, 1),
  (0x2126, 0x2126, 1), (0xab65, 0xab65, 1), (0x10140, 0x1018e, 1), (0x101a0, 0x101a0, 1),
  (0x1d200, 0x1d245, 1)]

/-- The script Gujarati. -/
def gujarati : List (Nat × Nat × Nat) := [
  (0xa81, 0xa83, 1), (0xa85, 0xa8d, 1), (0xa8f, 0xa91, 1), (0xa93, 0xaa8, 1), (0xaaa, 0xab0, 1),
  (0xab2, 0xab3, 1), (0xab5, 0xab9, 1), (0xabc, 0xac5, 1), (0xac7, 0xac9, 1), (0xacb, 0xacd, 1),
  (0xad0, 0xad0, 1), (0xae0, 0xae3, 1), (0xae6, 0xaf1, 1), (0xaf9, 0xaff, 1)]

/-- The characters used with the script Gujarati. -/
def gujaratiExtended : List (Nat × Nat × Nat) := [
  (0x951, 0x951, 1), (0x952, 0x952, 1), (0x964, 0x964, 1), (0x965, 0x965, 1), (0xa81, 0xa83, 1),
  (0xa85, 0xa8d, 1), (0xa8f, 0xa91, 1), (0xa93, 0xaa8, 1), (0xaaa, 0xab0, 1), (0xab2, 0xab3, 1),
  (0xab5, 0xab9, 1), (0xabc, 0xac5, 1), (0xac7, 0xac9, 1), (0xacb, 0xacd, 1), (0xad0, 0xad0, 1),
  (0xae0, 0xae3, 1), (0xae6, 0xaef, 1), (0xaf0, 0xaf1, 1), (0xaf9, 0xaff, 1), (0xa830, 0xa832, 1),
  (0xa833, 0xa835, 1), (0xa836, 0xa839, 1)]

/-- The script Gunjala Gondi. -/
def gunjalaGondi : List (Nat × Nat × Nat) := [
  (0x11d60, 0x11d65, 1), (0x11d67, 0x11d68, 1), (0x11d6a, 0x11d8e, 1), (0x11d90, 0x11d91, 1),
  (0x11d93, 0x11d98, 1), (0x11da0, 0x11da9, 1)]

/-- The characters used with the script Gunjala Gondi. -/
def gunjalaGondiExtended : List (Nat × Nat × Nat) := [
  (0xb7, 0xb7, 1), (0x964, 0x965, 1), (0x11d60, 0x11d65, 1), (0x11d67, 0x11d68, 1),
  (0x11d6a, 0x11d8e, 1), (0x11d90, 0x11d91, 1), (0x11d93, 0x11d98, 1), (0x11da0, 0x11da9, 1)]

/-- The script Gurmukhi. -/
def gurmukhi : List (Nat × Nat × Nat) := [
  (0xa01, 0xa03, 1), (0xa05, 0xa0a, 1), (0xa0f, 0xa10, 1), (0xa13, 0xa28, 1), (0xa2a, 0xa30, 1),
  (0xa32, 0xa33, 1), (0xa35, 0xa36, 1), (0xa38, 0xa39, 1), (0xa3c, 0xa3c, 1), (0xa3e, 0xa42, 1),
  (0xa47, 0xa48, 1), (0xa4b, 0xa4d, 1), (0xa51, 0xa51, 1), (0xa59, 0xa5c, 1), (0xa5e, 0xa5e, 1),
  (0xa66, 0xa76, 1)]

/-- The characters used with the script Gurmukhi. -/
def gurmukhiExtended : List (Nat × Nat × Nat) := [
  (0x951, 0x951, 1), (0x952, 0x952, 1), (0x964, 0x964, 1), (0x965, 0x965, 1), (0xa01, 0xa03, 1),
  (0xa05, 0xa0a, 1), (0xa0f, 0xa10, 1), (0xa13, 0xa28, 1), (0xa2a, 0xa30, 1), (0xa32, 0xa33, 1),
  (0xa35, 0xa36, 1), (0xa38, 0xa39, 1), (0xa3c, 0xa3c, 1), (0xa3e, 0xa42, 1), (0xa47, 0xa48, 1),
  (0xa4b, 0xa4d, 1), (0xa51, 0xa51, 1), (0xa59, 0xa5c, 1), (0xa5e, 0xa5e, 1), (0xa66, 0xa6f, 1),
  (0xa70, 0xa76, 1), (0xa830, 0xa832, 1), (0xa833, 0xa835, 1), (0xa836, 0xa839, 1)]

/-- The script Gurung Khema. -/
def gurungKhema : List (Nat × Nat × Nat) := [
  (0x16100, 0x16139, 1)]

/-- The characters used with the script Gurung Khema. -/
def gurungKhemaExtended : List (Nat × Nat × Nat) := [
  (0x965, 0x965, 1), (0x16100, 0x16139, 1)]

/-- The script Han. -/
def han : List (Nat × Nat × Nat) := [
  (0x2e80, 0x2e99, 1), (0x2e9b, 0x2ef3, 1), (0x2f00, 0x2fd5, 1), (0x3005, 0x3005, 1),
  (0x3007, 0x3007, 1), (0x3021, 0x3029, 1), (0x3038, 0x303b, 1), (0x3400, 0x4dbf, 1),
  (0x4e00, 0x9fff, 1), (0xf900, 0xfa6d, 1), (0xfa70, 0xfad9, 1), (0x16fe2, 0x16fe3, 1),
  (0x16ff0, 0x16ff1, 1), (0x20000, 0x2a6df, 1), (0x2a700, 0x2b739, 1), (0x2b740, 0x2b81d, 1),
  (0x2b820, 0x2cea1, 1), (0x2ceb0, 0x2ebe0, 1), (0x2ebf0, 0x2ee5d, 1), (0x2f800, 0x2fa1d, 1),
  (0x30000, 0x3134a, 1), (0x31350, 0x323af, 1)]

/-- The characters used with the script Han. -/
def hanExtended : List (Nat × Nat × Nat) := [
  (0xb7, 0xb7, 1), (0x2e80, 0x2e99, 1), (0x2e9b, 0x2ef3, 1), (0x2f00, 0x2fd5, 1),
  (0x2ff0, 0x2fff, 1), (0x3001, 0x3003, 1), (0x3005, 0x3011, 1), (0x3013, 0x301f, 1),
  (0x3021, 0x302d, 1), (0x3030, 0x3030, 1), (0x3037, 0x303f, 1), (0x30fb, 0x30fb, 1),
  (0x3190, 0x319f, 1), (0x31c0, 0x31e5, 1), (0x31ef, 0x31ef, 1), (0x3220, 0x3247, 1),
  (0x3280, 0x32b0, 1), (0x32c0, 0x32cb, 1), (0x32ff, 0x32ff, 1), (0x3358, 0x3370, 1),
  (0x337b, 0x337f, 1), (0x33e0, 0x33fe, 1), (0x3400, 0x4dbf, 1), (0x4e00, 0x9fff, 1),
  (0xa700, 0xa707, 1), (0xf900, 0xfa6d, 1), (0xfa70, 0xfad9, 1), (0xfe45, 0xfe46, 1),
  (0xff61, 0xff65, 1), (0x16fe2, 0x16fe3, 1), (0x16ff0, 0x16ff1, 1), (0x1d360, 0x1d371, 1),
  (0x1f250, 0x1f251, 1), (0x20000, 0x2a6df, 1), (0x2a700, 0x2b739, 1), (0x2b740, 0x2b81d, 1),
  (0x2b820, 0x2cea1, 1), (0x2ceb0, 0x2ebe0, 1), (0x2ebf0, 0x2ee5d, 1), (0x2f800, 0x2fa1d, 1),
  (0x30000, 0x3134a, 1), (0x31350, 0x323af, 1)]

/-- The script Hangul. -/
def hangul : List (Nat × Nat × Nat) := [
  (0x1100, 0x11ff, 1), (0x302e, 0x302f, 1), (0x3131, 0x318e, 1), (0x3200, 0x321e, 1),
  (0x3260, 0x327e, 1), (0xa960, 0xa97c, 1), (0xac00, 0xd7a3, 1), (0xd7b0, 0xd7c6, 1),
  (0xd7cb, 0xd7fb, 1), (0xffa0, 0xffbe, 1), (0xffc2, 0xffc7, 1), (0xffca, 0xffcf, 1),
  (0xffd2, 0xffd7, 1), (0xffda, 0xffdc, 1)]

/-- The characters used with the script Hangul. -/
def hangulExtended : List (Nat × Nat × Nat) := [
  (0x1100, 0x11ff, 1), (0x3001, 0x3002, 1), (0x3003, 0x3003, 1), (0x3008, 0x3011, 1),
  (0x3013, 0x3013, 1), (0x3014, 0x301b, 1), (0x301c, 0x301f, 1), (0x302e, 0x302f, 1),
  (0x3030, 0x3030, 1), (0x3037, 0x3037, 1), (0x30fb, 0x30fb, 1), (0x3131, 0x318e, 1),
  (0x3200, 0x321e, 1), (0x3260, 0x327e, 1), (0xa960, 0xa97c, 1), (0xac00, 0xd7a3, 1),
  (0xd7b0, 0xd7c6, 1), (0xd7cb, 0xd7fb, 1), (0xfe45, 0xfe46, 1), (0xff61, 0xff65, 1),
  (0xffa0, 0xffbe, 1), (0xffc2, 0xffc7, 1), (0xffca, 0xffcf, 1), (0xffd2, 0xffd7, 1),
  (0xffda, 0xffdc, 1)]

/-- The script Hanifi Rohingya. -/
def hanifiRohingya : List (Nat × Nat × Nat) := [
  (0x10d00, 0x10d27, 1), (0x10d30, 0x10d39, 1)]

/-- The characters used with the script Hanifi Rohingya. -/
def hanifiRohingyaExtended : List (Nat × Nat × Nat) := [
  (0x60c, 0x60c, 1), (0x61b, 0x61b, 1), (0x61f, 0x61f, 1), (0x640, 0x640, 1), (0x6d4, 0x6d4, 1),
  (0x10d00, 0x10d27, 1), (0x10d30, 0x10d39, 1)]

/-- The script Hanunoo. -/
def hanunoo : List (Nat × Nat × Nat) := [
  (0x1720, 0x1734, 1)]

/-- The characters used with the script Hanunoo. -/
def hanunooExtended : List (Nat × Nat × Nat) := [
  (0x1720, 0x1734, 1), (0x1735, 0x1736, 1)]

/-- The script Hatran. -/
def hatran : List (Nat × Nat × Nat) := [
  (0x108e0, 0x108f2, 1), (0x108f4, 0x108f5, 1), (0x108fb, 0x108ff, 1)]

/-- The script Hebrew. -/
def hebrew : List (Nat × Nat × Nat) := [
  (0x591, 0x5c7, 1), (0x5d0, 0x5ea, 1), (0x5ef, 0x5f4, 1), (0xfb1d, 0xfb36, 1),
  (0xfb38, 0xfb3c, 1), (0xfb3e, 0xfb3e, 1), (0xfb40, 0xfb41, 1), (0xfb43, 0xfb44, 1),
  (0xfb46, 0xfb4f, 1)]

/-- The characters used with the script Hebrew. -/
def hebrewExtended : List (Nat × Nat × Nat) := [
  (0x307, 0x308, 1), (0x591, 0x5c7, 1), (0x5d0, 0x5ea, 1), (0x5ef, 0x5f4, 1), (0xfb1d, 0xfb36, 1),
  (0xfb38, 0xfb3c, 1), (0xfb3e, 0xfb3e, 1), (0xfb40, 0xfb41, 1), (0xfb43, 0xfb44, 1),
  (0xfb46, 0xfb4f, 1)]

/-- The script Hiragana. -/
def hiragana : List (Nat × Nat × Nat) := [
  (0x3041, 0x3096, 1), (0x309d, 0x309f, 1), (0x1b001, 0x1b11f, 1), (0x1b132, 0x1b132, 1),
  (0x1b150, 0x1b152, 1), (0x1f200, 0x1f200, 1)]

/-- The characters used with the script Hiragana. -/
def hiraganaExtended : List (Nat × Nat × Nat) := [
  (0x3001, 0x3002, 1), (0x3003, 0x3003, 1), (0x3008, 0x3011, 1), (0x3013, 0x3013, 1),
  (0x3014, 0x301b, 1), (0x301c, 0x301f, 1), (0x3030, 0x3030, 1), (0x3031, 0x3035, 1),
  (0x3037, 0x3037, 1), (0x303c, 0x303d, 1), (0x3041, 0x3096, 1), (0x3099, 0x309c, 1),
  (0x309d, 0x309f, 1), (0x30a0, 0x30a0, 1), (0x30fb, 0x30fb, 1), (0x30fc, 0x30fc, 1),
  (0xfe45, 0xfe46, 1), (0xff61, 0xff65, 1), (0xff70, 0xff70, 1), (0xff9e, 0xff9f, 1),
  (0x1b001, 0x1b11f, 1), (0x1b132, 0x1b132, 1), (0x1b150, 0x1b152, 1), (0x1f200, 0x1f200, 1)]

/-- The script Imperial Aramaic. -/
def imperialAramaic : List (Nat × Nat × Nat) := [
  (0x10840, 0x10855, 1), (0x10857, 0x1085f, 1)]

/-- The script Inherited. -/
def inherited : List (Nat × Nat × Nat) := [
  (0x300, 0x36f, 1), (0x485, 0x486, 1), (0x64b, 0x655, 1), (0x670, 0x670, 1), (0x951, 0x954, 1),
  (0x1ab0, 0x1ace, 1), (0x1cd0, 0x1cd2, 1), (0x1cd4, 0x1ce0, 1), (0x1ce2, 0x1ce8, 1),
  (0x1ced, 0x1ced, 1), (0x1cf4, 0x1cf4, 1), (0x1cf8, 0x1cf9, 1), (0x1dc0, 0x1dff, 1),
  (0x200c, 0x200d, 1), (0x20d0, 0x20f0, 1), (0x302a, 0x302d, 1), (0x3099, 0x309a, 1),
  (0xfe00, 0xfe0f, 1), (0xfe20, 0xfe2d, 1), (0x101fd, 0x101fd, 1), (0x102e0, 0x102e0, 1),
  (0x1133b, 0x1133b, 1), (0x1cf00, 0x1cf2d, 1), (0x1cf30, 0x1cf46, 1), (0x1d167, 0x1d169, 1),
  (0x1d17b, 0x1d182, 1), (0x1d185, 0x1d18b, 1), (0x1d1aa, 0x1d1ad, 1), (0xe0100, 0xe01ef, 1)]

/-- The characters used with the script Inherited. -/
def inheritedExtended : List (Nat × Nat × Nat) := [
  (0x30f, 0x30f, 1), (0x312, 0x312, 1), (0x314, 0x31f, 1), (0x321, 0x322, 1), (0x326, 0x32c, 1),
  (0x32f, 0x32f, 1), (0x332, 0x341, 1), (0x343, 0x344, 1), (0x346, 0x357, 1), (0x359, 0x35d, 1),
  (0x35f, 0x362, 1), (0x953, 0x954, 1), (0x1ab0, 0x1ace, 1), (0x1dc2, 0x1df7, 1),
  (0x1df9, 0x1df9, 1), (0x1dfb, 0x1dff, 1), (0x200c, 0x200d, 1), (0x20d0, 0x20ef, 1),
  (0xfe00, 0xfe0f, 1), (0xfe20, 0xfe2d, 1), (0x101fd, 0x101fd, 1), (0x1cf00, 0x1cf2d, 1),
  (0x1cf30, 0x1cf46, 1), (0x1d167, 0x1d169, 1), (0x1d17b, 0x1d182, 1), (0x1d185, 0x1d18b, 1),
  (0x1d1aa, 0x1d1ad, 1), (0xe0100, 0xe01ef, 1)]

/-- The script Inscriptional Pahlavi. -/
def inscriptionalPahlavi : List (Nat × Nat × Nat) := [
  (0x10b60, 0x10b72, 1), (0x10b78, 0x10b7f, 1)]

/-- The script Inscriptional Parthian. -/
def inscriptionalParthian : List (Nat × Nat × Nat) := [
  (0x10b40, 0x10b55, 1), (0x10b58, 0x10b5f, 1)]

/-- The script Javanese. -/
def javanese : List (Nat × Nat × Nat) := [
  (0xa980, 0xa9cd, 1), (0xa9d0, 0xa9d9, 1), (0xa9de, 0xa9df, 1)]

/-- The characters used with the script Javanese. -/
def javaneseExtended : List (Nat × Nat × Nat) := [
  (0xa980, 0xa9cd, 1), (0xa9cf, 0xa9cf, 1), (0xa9d0, 0xa9d9, 1), (0xa9de, 0xa9df, 1)]

/-- The script Kaithi. -/
def kaithi : List (Nat × Nat × Nat) := [
  (0x11080, 0x110c2, 1), (0x110cd, 0x110cd, 1)]

/-- The characters used with the script Kaithi. -/
def kaithiExtended : List (Nat × Nat × Nat) := [
  (0x966, 0x96f, 1), (0x2e31, 0x2e31, 1), (0xa830, 0xa839, 1), (0x11080, 0x110c2, 1),
  (0x110cd, 0x110cd, 1)]

/-- The script Kannada. -/
def kannada : List (Nat × Nat × Nat) := [
  (0xc80, 0xc8c, 1), (0xc8e, 0xc90, 1), (0xc92, 0xca8, 1), (0xcaa, 0xcb3, 1), (0xcb5, 0xcb9, 1),
  (0xcbc, 0xcc4, 1), (0xcc6, 0xcc8, 1), (0xcca, 0xccd, 1), (0xcd5, 0xcd6, 1), (0xcdd, 0xcde, 1),
  (0xce0, 0xce3, 1), (0xce6, 0xcef, 1), (0xcf1, 0xcf3, 1)]

/-- The characters used with the script Kannada. -/
def kannadaExtended : List (Nat × Nat × Nat) := [
  (0x951, 0x952, 1), (0x964, 0x965, 1), (0xc80, 0xc8c, 1), (0xc8e, 0xc90, 1), (0xc92, 0xca8, 1),
  (0xcaa, 0xcb3, 1), (0xcb5, 0xcb9, 1), (0xcbc, 0xcc4, 1), (0xcc6, 0xcc8, 1), (0xcca, 0xccd, 1),
  (0xcd5, 0xcd6, 1), (0xcdd, 0xcde, 1), (0xce0, 0xce3, 1), (0xce6, 0xcef, 1), (0xcf1, 0xcf3, 1),
  (0x1cd0, 0x1cd0, 1), (0x1cd2, 0x1cd3, 1), (0x1cda, 0x1cda, 1), (0x1cf2, 0x1cf2, 1),
  (0x1cf4, 0x1cf4, 1), (0xa830, 0xa835, 1)]

/-- The script Katakana. -/
def katakana : List (Nat × Nat × Nat) := [
  (0x30a1, 0x30fa, 1), (0x30fd, 0x30ff, 1), (0x31f0, 0x31ff, 1), (0x32d0, 0x32fe, 1),
  (0x3300, 0x3357, 1), (0xff66, 0xff6f, 1), (0xff71, 0xff9d, 1), (0x1aff0, 0x1aff3, 1),
  (0x1aff5, 0x1affb, 1), (0x1affd, 0x1affe, 1), (0x1b000, 0x1b000, 1), (0x1b120, 0x1b122, 1),
  (0x1b155, 0x1b155, 1), (0x1b164, 0x1b167, 1)]

/-- The characters used with the script Katakana. -/
def katakanaExtended : List (Nat × Nat × Nat) := [
  (0x305, 0x305, 1), (0x323, 0x323, 1), (0x3001, 0x3003, 1), (0x3008, 0x3011, 1),
  (0x3013, 0x301f, 1), (0x3030, 0x3035, 1), (0x3037, 0x3037, 1), (0x303c, 0x303d, 1),
  (0x3099, 0x309c, 1), (0x30a0, 0x30ff, 1), (0x31f0, 0x31ff, 1), (0x32d0, 0x32fe, 1),
  (0x3300, 0x3357, 1), (0xfe45, 0xfe46, 1), (0xff61, 0xff9f, 1), (0x1aff0, 0x1aff3, 1),
  (0x1aff5, 0x1affb, 1), (0x1affd, 0x1affe, 1), (0x1b000, 0x1b000, 1), (0x1b120, 0x1b122, 1),
  (0x1b155, 0x1b155, 1), (0x1b164, 0x1b167, 1)]

/-- The script Kawi. -/
def kawi : List (Nat × Nat × Nat) := [
  (0x11f00, 0x11f10, 1), (0x11f12, 0x11f3a, 1), (0x11f3e, 0x11f5a, 1)]

/-- The script Kayah Li. -/
def kayahLi : List (Nat × Nat × Nat) := [
  (0xa900, 0xa92d, 1), (0xa92f, 0xa92f, 1)]

/-- The characters used with the script Kayah Li. -/
def kayahLiExtended : List (Nat × Nat × Nat) := [
  (0xa900, 0xa92d, 1), (0xa92e, 0xa92e, 1), (0xa92f, 0xa92f, 1)]

/-- The script Kharoshthi. -/
def kharoshthi : List (Nat × Nat × Nat) := [
  (0x10a00, 0x10a03, 1), (0x10a05, 0x10a06, 1), (0x10a0c, 0x10a13, 1), (0x10a15, 0x10a17, 1),
  (0x10a19, 0x10a35, 1), (0x10a38, 0x10a3a, 1), (0x10a3f, 0x10a48, 1), (0x10a50, 0x10a58, 1)]

/-- The script Khitan Small Script. -/
def khitanSmallScript : List (Nat × Nat × Nat) := [
  (0x16fe4, 0x16fe4, 1), (0x18b00, 0x18cd5, 1), (0x18cff, 0x18cff, 1)]

/-- The script Khmer. -/
def khmer : List (Nat × Nat × Nat) := [
  (0x1780, 0x17dd, 1), (0x17e0, 0x17e9, 1), (0x17f0, 0x17f9, 1), (0x19e0, 0x19ff, 1)]

/-- The script Khojki. -/
def khojki : List (Nat × Nat × Nat) := [
  (0x11200, 0x11211, 1), (0x11213, 0x11241, 1)]

/-- The characters used with the script Khojki. -/
def khojkiExtended : List (Nat × Nat × Nat) := [
  (0xae6, 0xaef, 1), (0xa830, 0xa832, 1), (0xa833, 0xa835, 1), (0xa836, 0xa839, 1),
  (0x11200, 0x11211, 1), (0x11213, 0x11241, 1)]

/-- The script Khudawadi. -/
def khudawadi : List (Nat × Nat × Nat) := [
  (0x112b0, 0x112ea, 1), (0x112f0, 0x112f9, 1)]

/-- The characters used with the script Khudawadi. -/
def khudawadiExtended : List (Nat × Nat × Nat) := [
  (0x964, 0x964, 1), (0x965, 0x965, 1), (0xa830, 0xa832, 1), (0xa833, 0xa835, 1),
  (0xa836, 0xa839, 1), (0x112b0, 0x112ea, 1), (0x112f0, 0x112f9, 1)]

/-- The script Kirat Rai. -/
def kiratRai : List (Nat × Nat × Nat) := [
  (0x16d40, 0x16d79, 1)]

/-- The script Lao. -/
def lao : List (Nat × Nat × Nat) := [
  (0xe81, 0xe82, 1), (0xe84, 0xe84, 1), (0xe86, 0xe8a, 1), (0xe8c, 0xea3, 1), (0xea5, 0xea5, 1),
  (0xea7, 0xebd, 1), (0xec0, 0xec4, 1), (0xec6, 0xec6, 1), (0xec8, 0xece, 1), (0xed0, 0xed9, 1),
  (0xedc, 0xedf, 1)]

/-- The script Latin. -/
def latin : List (Nat × Nat × Nat) := [
  (0x41, 0x5a, 1), (0x61, 0x7a, 1), (0xaa, 0xaa, 1), (0xba, 0xba, 1), (0xc0, 0xd6, 1),
  (0xd8, 0xf6, 1), (0xf8, 0x2b8, 1), (0x2e0, 0x2e4, 1), (0x1d00, 0x1d25, 1), (0x1d2c, 0x1d5c, 1),
  (0x1d62, 0x1d65, 1), (0x1d6b, 0x1d77, 1), (0x1d79, 0x1dbe, 1), (0x1e00, 0x1eff, 1),
  (0x2071, 0x2071, 1), (0x207f, 0x207f, 1), (0x2090, 0x209c, 1), (0x212a, 0x212b, 1),
  (0x2132, 0x2132, 1), (0x214e, 0x214e, 1), (0x2160, 0x2188, 1), (0x2c60, 0x2c7f, 1),
  (0xa722, 0xa787, 1), (0xa78b, 0xa7cd, 1), (0xa7d0, 0xa7d1, 1), (0xa7d3, 0xa7d3, 1),
  (0xa7d5, 0xa7dc, 1), (0xa7f2, 0xa7ff, 1), (0xab30, 0xab5a, 1), (0xab5c, 0xab64, 1),
  (0xab66, 0xab69, 1), (0xfb00, 0xfb06, 1), (0xff21, 0xff3a, 1), (0xff41, 0xff5a, 1),
  (0x10780, 0x10785, 1), (0x10787, 0x107b0, 1), (0x107b2, 0x107ba, 1), (0x1df00, 0x1df1e, 1),
  (0x1df25, 0x1df2a, 1)]

/-- The characters used with the script Latin. -/
def latinExtended : List (Nat × Nat × Nat) := [
  (0x41, 0x5a, 1), (0x61, 0x7a, 1), (0xaa, 0xaa, 1), (0xb7, 0xb7, 1), (0xba, 0xba, 1),
  (0xc0, 0xd6, 1), (0xd8, 0xf6, 1), (0xf8, 0x2b8, 1), (0x2bc, 0x2bc, 1), (0x2c7, 0x2c7, 1),
  (0x2c9, 0x2cb, 1), (0x2cd, 0x2cd, 1), (0x2d7, 0x2d7, 1), (0x2d9, 0x2d9, 1), (0x2e0, 0x2e4, 1),
  (0x300, 0x30e, 1), (0x310, 0x311, 1), (0x313, 0x313, 1), (0x323, 0x325, 1), (0x32d, 0x32e, 1),
  (0x330, 0x331, 1), (0x358, 0x358, 1), (0x35e, 0x35e, 1), (0x363, 0x36f, 1), (0x485, 0x486, 1),
  (0x951, 0x952, 1), (0x10fb, 0x10fb, 1), (0x1d00, 0x1d25, 1), (0x1d2c, 0x1d5c, 1),
  (0x1d62, 0x1d65, 1), (0x1d6b, 0x1d77, 1), (0x1d79, 0x1dbe, 1), (0x1df8, 0x1df8, 1),
  (0x1e00, 0x1eff, 1), (0x202f, 0x202f, 1), (0x2071, 0x2071, 1), (0x207f, 0x207f, 1),
  (0x2090, 0x209c, 1), (0x20f0, 0x20f0, 1), (0x212a, 0x212b, 1), (0x2132, 0x2132, 1),
  (0x214e, 0x214e, 1), (0x2160, 0x2188, 1), (0x2c60, 0x2c7f, 1), (0x2e17, 0x2e17, 1),
  (0xa700, 0xa707, 1), (0xa722, 0xa787, 1), (0xa78b, 0xa7cd, 1), (0xa7d0, 0xa7d1, 1),
  (0xa7d3, 0xa7d3, 1), (0xa7d5, 0xa7dc, 1), (0xa7f2, 0xa7ff, 1), (0xa92e, 0xa92e, 1),
  (0xab30, 0xab5a, 1), (0xab5c, 0xab64, 1), (0xab66, 0xab69, 1), (0xfb00, 0xfb06, 1),
  (0xff21, 0xff3a, 1), (0xff41, 0xff5a, 1), (0x10780, 0x10785, 1), (0x10787, 0x107b0, 1),
  (0x107b2, 0x107ba, 1), (0x1df00, 0x1df1e, 1), (0x1df25, 0x1df2a, 1)]

/-- The script Lepcha. -/
def lepcha : List (Nat × Nat × Nat) := [
  (0x1c00, 0x1c37, 1), (0x1c3b, 0x1c49, 1), (0x1c4d, 0x1c4f, 1)]

/-- The script Limbu. -/
def limbu : List (Nat × Nat × Nat) := [
  (0x1900, 0x191e, 1), (0x1920, 0x192b, 1), (0x1930, 0x193b, 1), (0x1940, 0x1940, 1),
  (0x1944, 0x194f, 1)]

/-- The characters used with the script Limbu. -/
def limbuExtended : List (Nat × Nat × Nat) := [
  (0x965, 0x965, 1), (0x1900, 0x191e, 1), (0x1920, 0x192b, 1), (0x1930, 0x193b, 1),
  (0x1940, 0x1940, 1), (0x1944, 0x194f, 1)]

/-- The script Linear A. -/
def linearA : List (Nat × Nat × Nat) := [
  (0x10600, 0x10736, 1), (0x10740, 0x10755, 1), (0x10760, 0x10767, 1)]

/-- The characters used with the script Linear A. -/
def linearAExtended : List (Nat × Nat × Nat) := [
  (0x10107, 0x10133, 1), (0x10600, 0x10736, 1), (0x10740, 0x10755, 1), (0x10760, 0x10767, 1)]

/-- The script Linear B. -/
def linearB : List (Nat × Nat × Nat) := [
  (0x10000, 0x1000b, 1), (0x1000d, 0x10026, 1), (0x10028, 0x1003a, 1), (0x1003c, 0x1003d, 1),
  (0x1003f, 0x1004d, 1), (0x10050, 0x1005d, 1), (0x10080, 0x100fa, 1)]

/-- The characters used with the script Linear B. -/
def linearBExtended : List (Nat × Nat × Nat) := [
  (0x10000, 0x1000b, 1), (0x1000d, 0x10026, 1), (0x10028, 0x1003a, 1), (0x1003c, 0x1003d, 1),
  (0x1003f, 0x1004d, 1), (0x10050, 0x1005d, 1), (0x10080, 0x100fa, 1), (0x10100, 0x10101, 1),
  (0x10102, 0x10102, 1), (0x10107, 0x10133, 1), (0x10137, 0x1013f, 1)]

/-- The script Lisu. -/
def lisu : List (Nat × Nat × Nat) := [
  (0xa4d0, 0xa4ff, 1), (0x11fb0, 0x11fb0, 1)]

/-- The characters used with the script Lisu. -/
def lisuExtended : List (Nat × Nat × Nat) := [
  (0x2bc, 0x2bc, 1), (0x2cd, 0x2cd, 1), (0x300a, 0x300b, 1), (0xa4d0, 0xa4ff, 1),
  (0x11fb0, 0x11fb0, 1)]

/-- The script Lycian. -/
def lycian : List (Nat × Nat × Nat) := [
  (0x10280, 0x1029c, 1)]

/-- The characters used with the script Lycian. -/
def lycianExtended : List (Nat × Nat × Nat) := [
  (0x205a, 0x205a, 1), (0x10280, 0x1029c, 1)]

/-- The script Lydian. -/
def lydian : List (Nat × Nat × Nat) := [
  (0x10920, 0x10939, 1), (0x1093f, 0x1093f, 1)]

/-- The characters used with the script Lydian. -/
def lydianExtended : List (Nat × Nat × Nat) := [
  (0xb7, 0xb7, 1), (0x2e31, 0x2e31, 1), (0x10920, 0x10939, 1), (0x1093f, 0x1093f, 1)]

/-- The script Mahajani. -/
def mahajani : List (Nat × Nat × Nat) := [
  (0x11150, 0x11176, 1)]

/-- The characters used with the script Mahajani. -/
def mahajaniExtended : List (Nat × Nat × Nat) := [
  (0xb7, 0xb7, 1), (0x964, 0x96f, 1), (0xa830, 0xa839, 1), (0x11150, 0x11176, 1)]

/-- The script Makasar. -/
def makasar : List (Nat × Nat × Nat) := [
  (0x11ee0, 0x11ef8, 1)]

/-- The script Malayalam. -/
def malayalam : List (Nat × Nat × Nat) := [
  (0xd00, 0xd0c, 1), (0xd0e, 0xd10, 1), (0xd12, 0xd44, 1), (0xd46, 0xd48, 1), (0xd4a, 0xd4f, 1),
  (0xd54, 0xd63, 1), (0xd66, 0xd7f, 1)]

/-- The characters used with the script Malayalam. -/
def malayalamExtended : List (Nat × Nat × Nat) := [
  (0x951, 0x952, 1), (0x964, 0x965, 1), (0xd00, 0xd0c, 1), (0xd0e, 0xd10, 1), (0xd12, 0xd44, 1),
  (0xd46, 0xd48, 1), (0xd4a, 0xd4f, 1), (0xd54, 0xd63, 1), (0xd66, 0xd7f, 1), (0x1cda, 0x1cda, 1),
  (0x1cf2, 0x1cf2, 1), (0xa830, 0xa832, 1)]

/-- The script Mandaic. -/
def mandaic : List (Nat × Nat × Nat) := [
  (0x840, 0x85b, 1), (0x85e, 0x85e, 1)]

/-- The characters used with the script Mandaic. -/
def mandaicExtended : List (Nat × Nat × Nat) := [
  (0x640, 0x640, 1), (0x840, 0x85b, 1), (0x85e, 0x85e, 1)]

/-- The script Manichaean. -/
def manichaean : List (Nat × Nat × Nat) := [
  (0x10ac0, 0x10ae6, 1), (0x10aeb, 0x10af6, 1)]

/-- The characters used with the script Manichaean. -/
def manichaeanExtended : List (Nat × Nat × Nat) := [
  (0x640, 0x640, 1), (0x10ac0, 0x10ae6, 1), (0x10aeb, 0x10af1, 1), (0x10af2, 0x10af2, 1),
  (0x10af3, 0x10af6, 1)]

/-- The script Marchen. -/
def marchen : List (Nat × Nat × Nat) := [
  (0x11c70, 0x11c8f, 1), (0x11c92, 0x11ca7, 1), (0x11ca9, 0x11cb6, 1)]

/-- The script Masaram Gondi. -/
def masaramGondi : List (Nat × Nat × Nat) := [
  (0x11d00, 0x11d06, 1), (0x11d08, 0x11d09, 1), (0x11d0b, 0x11d36, 1), (0x11d3a, 0x11d3a, 1),
  (0x11d3c, 0x11d3d, 1), (0x11d3f, 0x11d47, 1), (0x11d50, 0x11d59, 1)]

/-- The characters used with the script Masaram Gondi. -/
def masaramGondiExtended : List (Nat × Nat × Nat) := [
  (0x964, 0x964, 1), (0x965, 0x965, 1), (0x11d00, 0x11d06, 1), (0x11d08, 0x11d09, 1),
  (0x11d0b, 0x11d36, 1), (0x11d3a, 0x11d3a, 1), (0x11d3c, 0x11d3d, 1), (0x11d3f, 0x11d47, 1),
  (0x11d50, 0x11d59, 1)]

/-- The script Medefaidrin. -/
def medefaidrin : List (Nat × Nat × Nat) := [
  (0x16e40, 0x16e9a, 1)]

/-- The script Meetei Mayek. -/
def meeteiMayek : List (Nat × Nat × Nat) := [
  (0xaae0, 0xaaf6, 1), (0xabc0, 0xabed, 1), (0xabf0, 0xabf9, 1)]

/-- The script Mende Kikakui. -/
def mendeKikakui : List (Nat × Nat × Nat) := [
  (0x1e800, 0x1e8c4, 1), (0x1e8c7, 0x1e8d6, 1)]

/-- The script Meroitic Cursive. -/
def meroiticCursive : List (Nat × Nat × Nat) := [
  (0x109a0, 0x109b7, 1), (0x109bc, 0x109cf, 1), (0x109d2, 0x109ff, 1)]

/-- The script Meroitic Hieroglyphs. -/
def meroiticHieroglyphs : List (Nat × Nat × Nat) := [
  (0x10980, 0x1099f, 1)]

/-- The characters used with the script Meroitic Hieroglyphs. -/
def meroiticHieroglyphsExtended : List (Nat × Nat × Nat) := [
  (0x205d, 0x205d, 1), (0x10980, 0x1099f, 1)]

/-- The script Miao. -/
def miao : List (Nat × Nat × Nat) := [
  (0x16f00, 0x16f4a, 1), (0x16f4f, 0x16f87, 1), (0x16f8f, 0x16f9f, 1)]

/-- The script Modi. -/
def modi : List (Nat × Nat × Nat) := [
  (0x11600, 0x11644, 1), (0x11650, 0x11659, 1)]

/-- The characters used with the script Modi. -/
def modiExtended : List (Nat × Nat × Nat) := [
  (0xa830, 0xa832, 1), (0xa833, 0xa835, 1), (0xa836, 0xa839, 1), (0x11600, 0x11644, 1),
  (0x11650, 0x11659, 1)]

/-- The script Mongolian. -/
def mongolian : List (Nat × Nat × Nat) := [
  (0x1800, 0x1801, 1), (0x1804, 0x1804, 1), (0x1806, 0x1819, 1), (0x1820, 0x1878, 1),
  (0x1880, 0x18aa, 1), (0x11660, 0x1166c, 1)]

/-- The characters used with the script Mongolian. -/
def mongolianExtended : List (Nat × Nat × Nat) := [
  (0x1800, 0x1819, 1), (0x1820, 0x1878, 1), (0x1880, 0x18aa, 1), (0x202f, 0x202f, 1),
  (0x3001, 0x3002, 1), (0x3008, 0x300b, 1), (0x11660, 0x1166c, 1)]

/-- The script Mro. -/
def mro : List (Nat × Nat × Nat) := [
  (0x16a40, 0x16a5e, 1), (0x16a60, 0x16a69, 1), (0x16a6e, 0x16a6f, 1)]

/-- The script Multani. -/
def multani : List (Nat × Nat × Nat) := [
  (0x11280, 0x11286, 1), (0x11288, 0x11288, 1), (0x1128a, 0x1128d, 1), (0x1128f, 0x1129d, 1),
  (0x1129f, 0x112a9, 1)]

/-- The characters used with the script Multani. -/
def multaniExtended : List (Nat × Nat × Nat) := [
  (0xa66, 0xa6f, 1), (0x11280, 0x11286, 1), (0x11288, 0x11288, 1), (0x1128a, 0x1128d, 1),
  (0x1128f, 0x1129d, 1), (0x1129f, 0x112a9, 1)]

/-- The script Myanmar. -/
def myanmar : List (Nat × Nat × Nat) := [
  (0x1000, 0x109f, 1), (0xa9e0, 0xa9fe, 1), (0xaa60, 0xaa7f, 1), (0x116d0, 0x116e3, 1)]

/-- The characters used with the script Myanmar. -/
def myanmarExtended : List (Nat × Nat × Nat) := [
  (0x1000, 0x109f, 1), (0xa92e, 0xa92e, 1), (0xa9e0, 0xa9fe, 1), (0xaa60, 0xaa7f, 1),
  (0x116d0, 0x116e3, 1)]

/-- The script Nabataean. -/
def nabataean : List (Nat × Nat × Nat) := [
  (0x10880, 0x1089e, 1), (0x108a7, 0x108af, 1)]

/-- The script Nag Mundari. -/
def nagMundari : List (Nat × Nat × Nat) := [
  (0x1e4d0, 0x1e4f9, 1)]

/-- The script Nandinagari. -/
def nandinagari : List (Nat × Nat × Nat) := [
  (0x119a0, 0x119a7, 1), (0x119aa, 0x119d7, 1), (0x119da, 0x119e4, 1)]

/-- The characters used with the script Nandinagari. -/
def nandinagariExtended : List (Nat × Nat × Nat) := [
  (0x964, 0x965, 1), (0xce6, 0xcef, 1), (0x1ce9, 0x1ce9, 1), (0x1cf2, 0x1cf2, 1),
  (0x1cfa, 0x1cfa, 1), (0xa830, 0xa835, 1), (0x119a0, 0x119a7, 1), (0x119aa, 0x119d7, 1),
  (0x119da, 0x119e4, 1)]

/-- The script New Tai Lue. -/
def newTaiLue : List (Nat × Nat × Nat) := [
  (0x1980, 0x19ab, 1), (0x19b0, 0x19c9, 1), (0x19d0, 0x19da, 1), (0x19de, 0x19df, 1)]

/-- The script Newa. -/
def newa : List (Nat × Nat × Nat) := [
  (0x11400, 0x1145b, 1), (0x1145d, 0x11461, 1)]

/-- The characters used with the script Newa. -/
def newaExtended : List (Nat × Nat × Nat) := [
  (0x11400, 0x1145b, 1), (0x1145d, 0x11461, 1)]

/-- The script Nko. -/
def nko : List (Nat × Nat × Nat) := [
  (0x7c0, 0x7fa, 1), (0x7fd, 0x7ff, 1)]

/-- The characters used with the script Nko. -/
def nkoExtended : List (Nat × Nat × Nat) := [
  (0x60c, 0x60c, 1), (0x61b, 0x61b, 1), (0x61f, 0x61f, 1), (0x7c0, 0x7fa, 1), (0x7fd, 0x7ff, 1),
  (0xfd3e, 0xfd3f, 1)]

/-- The script Nushu. -/
def nushu : List (Nat × Nat × Nat) := [
  (0x16fe1, 0x16fe1, 1), (0x1b170, 0x1b2fb, 1)]

/-- The script Nyiakeng Puachue Hmong. -/
def nyiakengPuachueHmong : List (Nat × Nat × Nat) := [
  (0x1e100, 0x1e12c, 1), (0x1e130, 0x1e13d, 1), (0x1e140, 0x1e149, 1), (0x1e14e, 0x1e14f, 1)]

/-- The script Ogham. -/
def ogham : List (Nat × Nat × Nat) := [
  (0x1680, 0x169c, 1)]

/-- The script Ol Chiki. -/
def olChiki : List (Nat × Nat × Nat) := [
  (0x1c50, 0x1c7f, 1)]

/-- The script Ol Onal. -/
def olOnal : List (Nat × Nat × Nat) := [
  (0x1e5d0, 0x1e5fa, 1), (0x1e5ff, 0x1e5ff, 1)]

/-- The characters used with the script Ol Onal. -/
def olOnalExtended : List (Nat × Nat × Nat) := [
  (0x964, 0x965, 1), (0x1e5d0, 0x1e5fa, 1), (0x1e5ff, 0x1e5ff, 1)]

/-- The script Old Hungarian. -/
def oldHungarian : List (Nat × Nat × Nat) := [
  (0x10c80, 0x10cb2, 1), (0x10cc0, 0x10cf2, 1), (0x10cfa, 0x10cff, 1)]

/-- The characters used with the script Old Hungarian. -/
def oldHungarianExtended : List (Nat × Nat × Nat) := [
  (0x205a, 0x205a, 1), (0x205d, 0x205d, 1), (0x2e31, 0x2e31, 1), (0x2e41, 0x2e41, 1),
  (0x10c80, 0x10cb2, 1), (0x10cc0, 0x10cf2, 1), (0x10cfa, 0x10cff, 1)]

/-- The script Old Italic. -/
def oldItalic : List (Nat × Nat × Nat) := [
  (0x10300, 0x10323, 1), (0x1032d, 0x1032f, 1)]

/-- The script Old North Arabian. -/
def oldNorthArabian : List (Nat × Nat × Nat) := [
  (0x10a80, 0x10a9f, 1)]

/-- The script Old Permic. -/
def oldPermic : List (Nat × Nat × Nat) := [
  (0x10350, 0x1037a, 1)]

/-- The characters used with the script Old Permic. -/
def oldPermicExtended : List (Nat × Nat × Nat) := [
  (0xb7, 0xb7, 1), (0x300, 0x300, 1), (0x306, 0x308, 1), (0x313, 0x313, 1), (0x483, 0x483, 1),
  (0x10350, 0x1037a, 1)]

/-- The script Old Persian. -/
def oldPersian : List (Nat × Nat × Nat) := [
  (0x103a0, 0x103c3, 1), (0x103c8, 0x103d5, 1)]

/-- The script Old Sogdian. -/
def oldSogdian : List (Nat × Nat × Nat) := [
  (0x10f00, 0x10f27, 1)]

/-- The script Old South Arabian. -/
def oldSouthArabian : List (Nat × Nat × Nat) := [
  (0x10a60, 0x10a7f, 1)]

/-- The script Old Turkic. -/
def oldTurkic : List (Nat × Nat × Nat) := [
  (0x10c00, 0x10c48, 1)]

/-- The characters used with the script Old Turkic. -/
def oldTurkicExtended : List (Nat × Nat × Nat) := [
  (0x205a, 0x205a, 1), (0x2e30, 0x2e30, 1), (0x10c00, 0x10c48, 1)]

/-- The script Old Uyghur. -/
def oldUyghur : List (Nat × Nat × Nat) := [
  (0x10f70, 0x10f89, 1)]

/-- The characters used with the script Old Uyghur. -/
def oldUyghurExtended : List (Nat × Nat × Nat) := [
  (0x640, 0x640, 1), (0x10af2, 0x10af2, 1), (0x10f70, 0x10f89, 1)]

/-- The script Oriya. -/
def oriya : List (Nat × Nat × Nat) := [
  (0xb01, 0xb03, 1), (0xb05, 0xb0c, 1), (0xb0f, 0xb10, 1), (0xb13, 0xb28, 1), (0xb2a, 0xb30, 1),
  (0xb32, 0xb33, 1), (0xb35, 0xb39, 1), (0xb3c, 0xb44, 1), (0xb47, 0xb48, 1), (0xb4b, 0xb4d, 1),
  (0xb55, 0xb57, 1), (0xb5c, 0xb5d, 1), (0xb5f, 0xb63, 1), (0xb66, 0xb77, 1)]

/-- The characters used with the script Oriya. -/
def oriyaExtended : List (Nat × Nat × Nat) := [
  (0x951, 0x951, 1), (0x952, 0x952, 1), (0x964, 0x964, 1), (0x965, 0x965, 1), (0xb01, 0xb03, 1),
  (0xb05, 0xb0c, 1), (0xb0f, 0xb10, 1), (0xb13, 0xb28, 1), (0xb2a, 0xb30, 1), (0xb32, 0xb33, 1),
  (0xb35, 0xb39, 1), (0xb3c, 0xb44, 1), (0xb47, 0xb48, 1), (0xb4b, 0xb4d, 1), (0xb55, 0xb57, 1),
  (0xb5c, 0xb5d, 1), (0xb5f, 0xb63, 1), (0xb66, 0xb77, 1), (0x1cda, 0x1cda, 1),
  (0x1cf2, 0x1cf2, 1)]

/-- The script Osage. -/
def osage : List (Nat × Nat × Nat) := [
  (0x104b0, 0x104d3, 1), (0x104d8, 0x104fb, 1)]

/-- The characters used with the script Osage. -/
def osageExtended : List (Nat × Nat × Nat) := [
  (0x301, 0x301, 1), (0x304, 0x304, 1), (0x30b, 0x30b, 1), (0x358, 0x358, 1),
  (0x104b0, 0x104d3, 1), (0x104d8, 0x104fb, 1)]

/-- The script Osmanya. -/
def osmanya : List (Nat × Nat × Nat) := [
  (0x10480, 0x1049d, 1), (0x104a0, 0x104a9, 1)]

/-- The script Pahawh Hmong. -/
def pahawhHmong : List (Nat × Nat × Nat) := [
  (0x16b00, 0x16b45, 1), (0x16b50, 0x16b59, 1), (0x16b5b, 0x16b61, 1), (0x16b63, 0x16b77, 1),
  (0x16b7d, 0x16b8f, 1)]

/-- The script Palmyrene. -/
def palmyrene : List (Nat × Nat × Nat) := [
  (0x10860, 0x1087f, 1)]

/-- The script Pau Cin Hau. -/
def pauCinHau : List (Nat × Nat × Nat) := [
  (0x11ac0, 0x11af8, 1)]

/-- The script Phags Pa. -/
def phagsPa : List (Nat × Nat × Nat) := [
  (0xa840, 0xa877, 1)]

/-- The characters used with the script Phags Pa. -/
def phagsPaExtended : List (Nat × Nat × Nat) := [
  (0x1802, 0x1803, 1), (0x1805, 0x1805, 1), (0x202f, 0x202f, 1), (0x3002, 0x3002, 1),
  (0xa840, 0xa877, 1)]

/-- The script Phoenician. -/
def phoenician : List (Nat × Nat × Nat) := [
  (0x10900, 0x1091b, 1), (0x1091f, 0x1091f, 1)]

/-- The script Psalter Pahlavi. -/
def psalterPahlavi : List (Nat × Nat × Nat) := [
  (0x10b80, 0x10b91, 1), (0x10b99, 0x10b9c, 1), (0x10ba9, 0x10baf, 1)]

/-- The characters used with the script Psalter Pahlavi. -/
def psalterPahlaviExtended : List (Nat × Nat × Nat) := [
  (0x640, 0x640, 1), (0x10b80, 0x10b91, 1), (0x10b99, 0x10b9c, 1), (0x10ba9, 0x10baf, 1)]

/-- The script Rejang. -/
def rejang : List (Nat × Nat × Nat) := [
  (0xa930, 0xa953, 1), (0xa95f, 0xa95f, 1)]

/-- The script Runic. -/
def runic : List (Nat × Nat × Nat) := [
  (0x16a0, 0x16ea, 1), (0x16ee, 0x16f8, 1)]

/-- The characters used with the script Runic. -/
def runicExtended : List (Nat × Nat × Nat) := [
  (0x16a0, 0x16f8, 1)]

/-- The script Samaritan. -/
def samaritan : List (Nat × Nat × Nat) := [
  (0x800, 0x82d, 1), (0x830, 0x83e, 1)]

/-- The characters used with the script Samaritan. -/
def samaritanExtended : List (Nat × Nat × Nat) := [
  (0x800, 0x82d, 1), (0x830, 0x83e, 1), (0x2e31, 0x2e31, 1)]

/-- The script Saurashtra. -/
def saurashtra : List (Nat × Nat × Nat) := [
  (0xa880, 0xa8c5, 1), (0xa8ce, 0xa8d9, 1)]

/-- The script Sharada. -/
def sharada : List (Nat × Nat × Nat) := [
  (0x11180, 0x111df, 1)]

/-- The characters used with the script Sharada. -/
def sharadaExtended : List (Nat × Nat × Nat) := [
  (0x951, 0x951, 1), (0x1cd7, 0x1cd7, 1), (0x1cd9, 0x1cd9, 1), (0x1cdc, 0x1cdd, 1),
  (0x1ce0, 0x1ce0, 1), (0x1cea, 0x1cea, 1), (0x1ced, 0x1ced, 1), (0xa830, 0xa835, 1),
  (0xa838, 0xa838, 1), (0x11180, 0x111df, 1)]

/-- The script Shavian. -/
def shavian : List (Nat × Nat × Nat) := [
  (0x10450, 0x1047f, 1)]

/-- The characters used with the script Shavian. -/
def shavianExtended : List (Nat × Nat × Nat) := [
  (0xb7, 0xb7, 1), (0x10450, 0x1047f, 1)]

/-- The script Siddham. -/
def siddham : List (Nat × Nat × Nat) := [
  (0x11580, 0x115b5, 1), (0x115b8, 0x115dd, 1)]

/-- The script SignWriting. -/
def signwriting : List (Nat × Nat × Nat) := [
  (0x1d800, 0x1da8b, 1), (0x1da9b, 0x1da9f, 1), (0x1daa1, 0x1daaf, 1)]

/-- The script Sinhala. -/
def sinhala : List (Nat × Nat × Nat) := [
  (0xd81, 0xd83, 1), (0xd85, 0xd96, 1), (0xd9a, 0xdb1, 1), (0xdb3, 0xdbb, 1), (0xdbd, 0xdbd, 1),
  (0xdc0, 0xdc6, 1), (0xdca, 0xdca, 1), (0xdcf, 0xdd4, 1), (0xdd6, 0xdd6, 1), (0xdd8, 0xddf, 1),
  (0xde6, 0xdef, 1), (0xdf2, 0xdf4, 1), (0x111e1, 0x111f4, 1)]

/-- The characters used with the script Sinhala. -/
def sinhalaExtended : List (Nat × Nat × Nat) := [
  (0x964, 0x965, 1), (0xd81, 0xd83, 1), (0xd85, 0xd96, 1), (0xd9a, 0xdb1, 1), (0xdb3, 0xdbb, 1),
  (0xdbd, 0xdbd, 1), (0xdc0, 0xdc6, 1), (0xdca, 0xdca, 1), (0xdcf, 0xdd4, 1), (0xdd6, 0xdd6, 1),
  (0xdd8, 0xddf, 1), (0xde6, 0xdef, 1), (0xdf2, 0xdf4, 1), (0x1cf2, 0x1cf2, 1),
  (0x111e1, 0x111f4, 1)]

/-- The script Sogdian. -/
def sogdian : List (Nat × Nat × Nat) := [
  (0x10f30, 0x10f59, 1)]

/-- The characters used with the script Sogdian. -/
def sogdianExtended : List (Nat × Nat × Nat) := [
  (0x640, 0x640, 1), (0x10f30, 0x10f59, 1)]

/-- The script Sora Sompeng. -/
def soraSompeng : List (Nat × Nat × Nat) := [
  (0x110d0, 0x110e8, 1), (0x110f0, 0x110f9, 1)]

/-- The script Soyombo. -/
def soyombo : List (Nat × Nat × Nat) := [
  (0x11a50, 0x11aa2, 1)]

/-- The script Sundanese. -/
def sundanese : List (Nat × Nat × Nat) := [
  (0x1b80, 0x1bbf, 1), (0x1cc0, 0x1cc7, 1)]

/-- The script Sunuwar. -/
def sunuwar : List (Nat × Nat × Nat) := [
  (0x11bc0, 0x11be1, 1), (0x11bf0, 0x11bf9, 1)]

/-- The characters used with the script Sunuwar. -/
def sunuwarExtended : List (Nat × Nat × Nat) := [
  (0x300, 0x301, 1), (0x303, 0x303, 1), (0x30d, 0x30d, 1), (0x310, 0x310, 1), (0x32d, 0x32d, 1),
  (0x331, 0x331, 1), (0x11bc0, 0x11be1, 1), (0x11bf0, 0x11bf9, 1)]

/-- The script Syloti Nagri. -/
def sylotiNagri : List (Nat × Nat × Nat) := [
  (0xa800, 0xa82c, 1)]

/-- The characters used with the script Syloti Nagri. -/
def sylotiNagriExtended : List (Nat × Nat × Nat) := [
  (0x964, 0x964, 1), (0x965, 0x965, 1), (0x9e6, 0x9ef, 1), (0xa800, 0xa82c, 1)]

/-- The script Syriac. -/
def syriac : List (Nat × Nat × Nat) := [
  (0x700, 0x70d, 1), (0x70f, 0x74a, 1), (0x74d, 0x74f, 1), (0x860, 0x86a, 1)]

/-- The characters used with the script Syriac. -/
def syriacExtended : List (Nat × Nat × Nat) := [
  (0x303, 0x304, 1), (0x307, 0x308, 1), (0x30a, 0x30a, 1), (0x320, 0x320, 1), (0x323, 0x325, 1),
  (0x32d, 0x32e, 1), (0x330, 0x330, 1), (0x60c, 0x60c, 1), (0x61b, 0x61c, 1), (0x61f, 0x61f, 1),
  (0x640, 0x640, 1), (0x64b, 0x655, 1), (0x670, 0x670, 1), (0x700, 0x70d, 1), (0x70f, 0x74a, 1),
  (0x74d, 0x74f, 1), (0x860, 0x86a, 1), (0x1df8, 0x1df8, 1), (0x1dfa, 0x1dfa, 1)]

/-- The script Tagalog. -/
def tagalog : List (Nat × Nat × Nat) := [
  (0x1700, 0x1715, 1), (0x171f, 0x171f, 1)]

/-- The characters used with the script Tagalog. -/
def tagalogExtended : List (Nat × Nat × Nat) := [
  (0x1700, 0x1715, 1), (0x171f, 0x171f, 1), (0x1735, 0x1736, 1)]

/-- The script Tagbanwa. -/
def tagbanwa : List (Nat × Nat × Nat) := [
  (0x1760, 0x176c, 1), (0x176e, 0x1770, 1), (0x1772, 0x1773, 1)]

/-- The characters used with the script Tagbanwa. -/
def tagbanwaExtended : List (Nat × Nat × Nat) := [
  (0x1735, 0x1736, 1), (0x1760, 0x176c, 1), (0x176e, 0x1770, 1), (0x1772, 0x1773, 1)]

/-- The script Tai Le. -/
def taiLe : List (Nat × Nat × Nat) := [
  (0x1950, 0x196d, 1), (0x1970, 0x1974, 1)]

/-- The characters used with the script Tai Le. -/
def taiLeExtended : List (Nat × Nat × Nat) := [
  (0x300, 0x301, 1), (0x307, 0x308, 1), (0x30c, 0x30c, 1), (0x1040, 0x1049, 1),
  (0x1950, 0x196d, 1), (0x1970, 0x1974, 1)]

/-- The script Tai Tham. -/
def taiTham : List (Nat × Nat × Nat) := [
  (0x1a20, 0x1a5e, 1), (0x1a60, 0x1a7c, 1), (0x1a7f, 0x1a89, 1), (0x1a90, 0x1a99, 1),
  (0x1aa0, 0x1aad, 1)]

/-- The script Tai Viet. -/
def taiViet : List (Nat × Nat × Nat) := [
  (0xaa80, 0xaac2, 1), (0xaadb, 0xaadf, 1)]

/-- The script Takri. -/
def takri : List (Nat × Nat × Nat) := [
  (0x11680, 0x116b9, 1), (0x116c0, 0x116c9, 1)]

/-- The characters used with the script Takri. -/
def takriExtended : List (Nat × Nat × Nat) := [
  (0x964, 0x964, 1), (0x965, 0x965, 1), (0xa830, 0xa832, 1), (0xa833, 0xa835, 1),
  (0xa836, 0xa839, 1), (0x11680, 0x116b9, 1), (0x116c0, 0x116c9, 1)]

/-- The script Tamil. -/
def tamil : List (Nat × Nat × Nat) := [
  (0xb82, 0xb83, 1), (0xb85, 0xb8a, 1), (0xb8e, 0xb90, 1), (0xb92, 0xb95, 1), (0xb99, 0xb9a, 1),
  (0xb9c, 0xb9c, 1), (0xb9e, 0xb9f, 1), (0xba3, 0xba4, 1), (0xba8, 0xbaa, 1), (0xbae, 0xbb9, 1),
  (0xbbe, 0xbc2, 1), (0xbc6, 0xbc8, 1), (0xbca, 0xbcd, 1), (0xbd0, 0xbd0, 1), (0xbd7, 0xbd7, 1),
  (0xbe6, 0xbfa, 1), (0x11fc0, 0x11ff1, 1), (0x11fff, 0x11fff, 1)]

/-- The characters used with the script Tamil. -/
def tamilExtended : List (Nat × Nat × Nat) := [
  (0x951, 0x951, 1), (0x952, 0x952, 1), (0x964, 0x964, 1), (0x965, 0x965, 1), (0xb82, 0xb83, 1),
  (0xb85, 0xb8a, 1), (0xb8e, 0xb90, 1), (0xb92, 0xb95, 1), (0xb99, 0xb9a, 1), (0xb9c, 0xb9c, 1),
  (0xb9e, 0xb9f, 1), (0xba3, 0xba4, 1), (0xba8, 0xbaa, 1), (0xbae, 0xbb9, 1), (0xbbe, 0xbc2, 1),
  (0xbc6, 0xbc8, 1), (0xbca, 0xbcd, 1), (0xbd0, 0xbd0, 1), (0xbd7, 0xbd7, 1), (0xbe6, 0xbf3, 1),
  (0xbf4, 0xbfa, 1), (0x1cda, 0x1cda, 1), (0xa8f3, 0xa8f3, 1), (0x11301, 0x11301, 1),
  (0x11303, 0x11303, 1), (0x1133b, 0x1133c, 1), (0x11fc0, 0x11fcf, 1), (0x11fd0, 0x11fd1, 1),
  (0x11fd2, 0x11fd2, 1), (0x11fd3, 0x11fd3, 1), (0x11fd4, 0x11ff1, 1), (0x11fff, 0x11fff, 1)]

/-- The script Tangsa. -/
def tangsa : List (Nat × Nat × Nat) := [
  (0x16a70, 0x16abe, 1), (0x16ac0, 0x16ac9, 1)]

/-- The script Tangut. -/
def tangut : List (Nat × Nat × Nat) := [
  (0x16fe0, 0x16fe0, 1), (0x17000, 0x187f7, 1), (0x18800, 0x18aff, 1), (0x18d00, 0x18d08, 1)]

/-- The characters used with the script Tangut. -/
def tangutExtended : List (Nat × Nat × Nat) := [
  (0x2ff0, 0x2fff, 1), (0x31ef, 0x31ef, 1), (0x16fe0, 0x16fe0, 1), (0x17000, 0x187f7, 1),
  (0x18800, 0x18aff, 1), (0x18d00, 0x18d08, 1)]

/-- The script Telugu. -/
def telugu : List (Nat × Nat × Nat) := [
  (0xc00, 0xc0c, 1), (0xc0e, 0xc10, 1), (0xc12, 0xc28, 1), (0xc2a, 0xc39, 1), (0xc3c, 0xc44, 1),
  (0xc46, 0xc48, 1), (0xc4a, 0xc4d, 1), (0xc55, 0xc56, 1), (0xc58, 0xc5a, 1), (0xc5d, 0xc5d, 1),
  (0xc60, 0xc63, 1), (0xc66, 0xc6f, 1), (0xc77, 0xc7f, 1)]

/-- The characters used with the script Telugu. -/
def teluguExtended : List (Nat × Nat × Nat) := [
  (0x951, 0x952, 1), (0x964, 0x965, 1), (0xc00, 0xc0c, 1), (0xc0e, 0xc10, 1), (0xc12, 0xc28, 1),
  (0xc2a, 0xc39, 1), (0xc3c, 0xc44, 1), (0xc46, 0xc48, 1), (0xc4a, 0xc4d, 1), (0xc55, 0xc56, 1),
  (0xc58, 0xc5a, 1), (0xc5d, 0xc5d, 1), (0xc60, 0xc63, 1), (0xc66, 0xc6f, 1), (0xc77, 0xc7f, 1),
  (0x1cda, 0x1cda, 1), (0x1cf2, 0x1cf2, 1)]

/-- The script Thaana. -/
def thaana : List (Nat × Nat × Nat) := [
  (0x780, 0x7b1, 1)]

/-- The characters used with the script Thaana. -/
def thaanaExtended : List (Nat × Nat × Nat) := [
  (0x60c, 0x60c, 1), (0x61b, 0x61b, 1), (0x61c, 0x61c, 1), (0x61f, 0x61f, 1), (0x660, 0x669, 1),
  (0x780, 0x7b1, 1), (0xfdf2, 0xfdf2, 1), (0xfdfd, 0xfdfd, 1)]

/-- The script Thai. -/
def thai : List (Nat × Nat × Nat) := [
  (0xe01, 0xe3a, 1), (0xe40, 0xe5b, 1)]

/-- The characters used with the script Thai. -/
def thaiExtended : List (Nat × Nat × Nat) := [
  (0x2bc, 0x2bc, 1), (0x2d7, 0x2d7, 1), (0x303, 0x303, 1), (0x331, 0x331, 1), (0xe01, 0xe3a, 1),
  (0xe40, 0xe5b, 1)]

/-- The script Tibetan. -/
def tibetan : List (Nat × Nat × Nat) := [
  (0xf00, 0xf47, 1), (0xf49, 0xf6c, 1), (0xf71, 0xf97, 1), (0xf99, 0xfbc, 1), (0xfbe, 0xfcc, 1),
  (0xfce, 0xfd4, 1), (0xfd9, 0xfda, 1)]

/-- The characters used with the script Tibetan. -/
def tibetanExtended : List (Nat × Nat × Nat) := [
  (0xf00, 0xf47, 1), (0xf49, 0xf6c, 1), (0xf71, 0xf97, 1), (0xf99, 0xfbc, 1), (0xfbe, 0xfcc, 1),
  (0xfce, 0xfd4, 1), (0xfd9, 0xfda, 1), (0x3008, 0x300b, 1)]

/-- The script Tifinagh. -/
def tifinagh : List (Nat × Nat × Nat) := [
  (0x2d30, 0x2d67, 1), (0x2d6f, 0x2d70, 1), (0x2d7f, 0x2d7f, 1)]

/-- The characters used with the script Tifinagh. -/
def tifinaghExtended : List (Nat × Nat × Nat) := [
  (0x302, 0x302, 1), (0x304, 0x304, 1), (0x306, 0x309, 1), (0x323, 0x323, 1), (0x2d30, 0x2d67, 1),
  (0x2d6f, 0x2d70, 1), (0x2d7f, 0x2d7f, 1)]

/-- The script Tirhuta. -/
def tirhuta : List (Nat × Nat × Nat) := [
  (0x11480, 0x114c7, 1), (0x114d0, 0x114d9, 1)]

/-- The characters used with the script Tirhuta. -/
def tirhutaExtended : List (Nat × Nat × Nat) := [
  (0x951, 0x952, 1), (0x964, 0x965, 1), (0x1cf2, 0x1cf2, 1), (0xa830, 0xa839, 1),
  (0x11480, 0x114c7, 1), (0x114d0, 0x114d9, 1)]

/-- The script Todhri. -/
def todhri : List (Nat × Nat × Nat) := [
  (0x105c0, 0x105f3, 1)]

/-- The characters used with the script Todhri. -/
def todhriExtended : List (Nat × Nat × Nat) := [
  (0x301, 0x307, 3), (0x311, 0x311, 1), (0x313, 0x313, 1), (0x35e, 0x35e, 1),
  (0x105c0, 0x105f3, 1)]

/-- The script Toto. -/
def toto : List (Nat × Nat × Nat) := [
  (0x1e290, 0x1e2ae, 1)]

/-- The characters used with the script Toto. -/
def totoExtended : List (Nat × Nat × Nat) := [
  (0x2bc, 0x2bc, 1), (0x1e290, 0x1e2ae, 1)]

/-- The script Tulu Tigalari. -/
def tuluTigalari : List (Nat × Nat × Nat) := [
  (0x11380, 0x11389, 1), (0x1138b, 0x1138b, 1), (0x1138e, 0x1138e, 1), (0x11390, 0x113b5, 1),
  (0x113b7, 0x113c0, 1), (0x113c2, 0x113c2, 1), (0x113c5, 0x113c5, 1), (0x113c7, 0x113ca, 1),
  (0x113cc, 0x113d5, 1), (0x113d7, 0x113d8, 1), (0x113e1, 0x113e2, 1)]

/-- The characters used with the script Tulu Tigalari. -/
def tuluTigalariExtended : List (Nat × Nat × Nat) := [
  (0xce6, 0xcef, 1), (0x1cf2, 0x1cf2, 1), (0x1cf4, 0x1cf4, 1), (0xa830, 0xa835, 1),
  (0xa8f1, 0xa8f1, 1), (0x11380, 0x11389, 1), (0x1138b, 0x1138b, 1), (0x1138e, 0x1138e, 1),
  (0x11390, 0x113b5, 1), (0x113b7, 0x113c0, 1), (0x113c2, 0x113c2, 1), (0x113c5, 0x113c5, 1),
  (0x113c7, 0x113ca, 1), (0x113cc, 0x113d5, 1), (0x113d7, 0x113d8, 1), (0x113e1, 0x113e2, 1)]

/-- The script Ugaritic. -/
def ugaritic : List (Nat × Nat × Nat) := [
  (0x10380, 0x1039d, 1), (0x1039f, 0x1039f, 1)]

/-- The script Vai. -/
def vai : List (Nat × Nat × Nat) := [
  (0xa500, 0xa62b, 1)]

/-- The script Vithkuqi. -/
def vithkuqi : List (Nat × Nat × Nat) := [
  (0x10570, 0x1057a, 1), (0x1057c, 0x1058a, 1), (0x1058c, 0x10592, 1), (0x10594, 0x10595, 1),
  (0x10597, 0x105a1, 1), (0x105a3, 0x105b1, 1), (0x105b3, 0x105b9, 1), (0x105bb, 0x105bc, 1)]

/-- The script Wancho. -/
def wancho : List (Nat × Nat × Nat) := [
  (0x1e2c0, 0x1e2f9, 1), (0x1e2ff, 0x1e2ff, 1)]

/-- The script Warang Citi. -/
def warangCiti : List (Nat × Nat × Nat) := [
  (0x118a0, 0x118f2, 1), (0x118ff, 0x118ff, 1)]

/-- The script Yezidi. -/
def yezidi : List (Nat × Nat × Nat) := [
  (0x10e80, 0x10ea9, 1), (0x10eab, 0x10ead, 1), (0x10eb0, 0x10eb1, 1)]

/-- The characters used with the script Yezidi. -/
def yezidiExtended : List (Nat × Nat × Nat) := [
  (0x60c, 0x60c, 1), (0x61b, 0x61b, 1), (0x61f, 0x61f, 1), (0x660, 0x669, 1),
  (0x10e80, 0x10ea9, 1), (0x10eab, 0x10ead, 1), (0x10eb0, 0x10eb1, 1)]

/-- The script Yi. -/
def yi : List (Nat × Nat × Nat) := [
  (0xa000, 0xa48c, 1), (0xa490, 0xa4c6, 1)]

/-- The characters used with the script Yi. -/
def yiExtended : List (Nat × Nat × Nat) := [
  (0x3001, 0x3002, 1), (0x3008, 0x3011, 1), (0x3014, 0x301b, 1), (0x30fb, 0x30fb, 1),
  (0xa000, 0xa48c, 1), (0xa490, 0xa4c6, 1), (0xff61, 0xff65, 1)]

/-- The script Zanabazar Square. -/
def zanabazarSquare : List (Nat × Nat × Nat) := [
  (0x11a00, 0x11a47, 1)]

/-- Every script: its names, its code points, and the code points used with it. -/
def all : List (List String × List (Nat × Nat × Nat) × List (Nat × Nat × Nat)) := [
  (["adlm", "adlam"], adlam, adlamExtended),
  (["ahom"], ahom, ahom),
  (["hluw", "anatolianhieroglyphs"], anatolianHieroglyphs, anatolianHieroglyphs),
  (["arab", "arabic"], arabic, arabicExtended),
  (["armn", "armenian"], armenian, armenianExtended),
  (["avst", "avestan"], avestan, avestanExtended),
  (["bali", "balinese"], balinese, balinese),
  (["bamu", "bamum"], bamum, bamum),
  (["bass", "bassavah"], bassaVah, bassaVah),
  (["batk", "batak"], batak, batak),
  (["beng", "bengali"], bengali, bengaliExtended),
  (["bhks", "bhaiksuki"], bhaiksuki, bhaiksuki),
  (["bopo", "bopomofo"], bopomofo, bopomofoExtended),
  (["brah", "brahmi"], brahmi, brahmi),
  (["brai", "braille"], braille, braille),
  (["bugi", "buginese"], buginese, bugineseExtended),
  (["buhd", "buhid"], buhid, buhidExtended),
  (["cans", "canadianaboriginal"], canadianAboriginal, canadianAboriginal),
  (["cari", "carian"], carian, carianExtended),
  (["aghb", "caucasianalbanian"], caucasianAlbanian, caucasianAlbanianExtended),
  (["cakm", "chakma"], chakma, chakmaExtended),
  (["cham"], cham, cham),
  (["cher", "cherokee"], cherokee, cherokeeExtended),
  (["chrs", "chorasmian"], chorasmian, chorasmian),
  (["zyyy", "common"], common, commonExtended),
  (["copt", "coptic", "qaac"], coptic, copticExtended),
  (["xsux", "cuneiform"], cuneiform, cuneiform),
  (["cprt", "cypriot"], cypriot, cypriotExtended),
  (["cpmn", "cyprominoan"], cyproMinoan, cyproMinoanExtended),
  (["cyrl", "cyrillic"], cyrillic, cyrillicExtended),
  (["dsrt", "deseret"], deseret, deseret),
  (["deva", "devanagari"], devanagari, devanagariExtended),
  (["diak", "divesakuru"], divesAkuru, divesAkuru),
  (["dogr", "dogra"], dogra, dograExtended),
  (["dupl", "duployan"], duployan, duployanExtended),
  (["egyp", "egyptianhieroglyphs"], egyptianHieroglyphs, egyptianHieroglyphs),
  (["elba", "elbasan"], elbasan, elbasanExtended),
  (["elym", "elymaic"], elymaic, elymaic),
  (["ethi", "ethiopic"], ethiopic, ethiopicExtended),
  (["gara", "garay"], garay, garayExtended),
  (["geor", "georgian"], georgian, georgianExtended),
  (["glag", "glagolitic"], glagolitic, glagoliticExtended),
  (["goth", "gothic"], gothic, gothicExtended),
  (["gran", "grantha"], grantha, granthaExtended),
  (["grek", "greek"], greek, greekExtended),
  (["gujr", "gujarati"], gujarati, gujaratiExtended),
  (["gong", "gunjalagondi"], gunjalaGondi, gunjalaGondiExtended),
  (["guru", "gurmukhi"], gurmukhi, gurmukhiExtended),
  (["gukh", "gurungkhema"], gurungKhema, gurungKhemaExtended),
  (["hani", "han"], han, hanExtended),
  (["hang", "hangul"], hangul, hangulExtended),
  (["rohg", "hanifirohingya"], hanifiRohingya, hanifiRohingyaExtended),
  (["hano", "hanunoo"], hanunoo, hanunooExtended),
  (["hatr", "hatran"], hatran, hatran),
  (["hebr", "hebrew"], hebrew, hebrewExtended),
  (["hira", "hiragana"], hiragana, hiraganaExtended),
  (["armi", "imperialaramaic"], imperialAramaic, imperialAramaic),
  (["zinh", "inherited", "qaai"], inherited, inheritedExtended),
  (["phli", "inscriptionalpahlavi"], inscriptionalPahlavi, inscriptionalPahlavi),
  (["prti", "inscriptionalparthian"], inscriptionalParthian, inscriptionalParthian),
  (["java", "javanese"], javanese, javaneseExtended),
  (["kthi", "kaithi"], kaithi, kaithiExtended),
  (["knda", "kannada"], kannada, kannadaExtended),
  (["kana", "katakana"], katakana, katakanaExtended),
  (["kawi"], kawi, kawi),
  (["kali", "kayahli"], kayahLi, kayahLiExtended),
  (["khar", "kharoshthi"], kharoshthi, kharoshthi),
  (["kits", "khitansmallscript"], khitanSmallScript, khitanSmallScript),
  (["khmr", "khmer"], khmer, khmer),
  (["khoj", "khojki"], khojki, khojkiExtended),
  (["sind", "khudawadi"], khudawadi, khudawadiExtended),
  (["krai", "kiratrai"], kiratRai, kiratRai),
  (["laoo", "lao"], lao, lao),
  (["latn", "latin"], latin, latinExtended),
  (["lepc", "lepcha"], lepcha, lepcha),
  (["limb", "limbu"], limbu, limbuExtended),
  (["lina", "lineara"], linearA, linearAExtended),
  (["linb", "linearb"], linearB, linearBExtended),
  (["lisu"], lisu, lisuExtended),
  (["lyci", "lycian"], lycian, lycianExtended),
  (["lydi", "lydian"], lydian, lydianExtended),
  (["mahj", "mahajani"], mahajani, mahajaniExtended),
  (["maka", "makasar"], makasar, makasar),
  (["mlym", "malayalam"], malayalam, malayalamExtended),
  (["mand", "mandaic"], mandaic, mandaicExtended),
  (["mani", "manichaean"], manichaean, manichaeanExtended),
  (["marc", "marchen"], marchen, marchen),
  (["gonm", "masaramgondi"], masaramGondi, masaramGondiExtended),
  (["medf", "medefaidrin"], medefaidrin, medefaidrin),
  (["mtei", "meeteimayek"], meeteiMayek, meeteiMayek),
  (["mend", "mendekikakui"], mendeKikakui, mendeKikakui),
  (["merc", "meroiticcursive"], meroiticCursive, meroiticCursive),
  (["mero", "meroitichieroglyphs"], meroiticHieroglyphs, meroiticHieroglyphsExtended),
  (["plrd", "miao"], miao, miao),
  (["modi"], modi, modiExtended),
  (["mong", "mongolian"], mongolian, mongolianExtended),
  (["mroo", "mro"], mro, mro),
  (["mult", "multani"], multani, multaniExtended),
  (["mymr", "myanmar"], myanmar, myanmarExtended),
  (["nbat", "nabataean"], nabataean, nabataean),
  (["nagm", "nagmundari"], nagMundari, nagMundari),
  (["nand", "nandinagari"], nandinagari, nandinagariExtended),
  (["talu", "newtailue"], newTaiLue, newTaiLue),
  (["newa"], newa, newaExtended),
  (["nkoo", "nko"], nko, nkoExtended),
  (["nshu", "nushu"], nushu, nushu),
  (["hmnp", "nyiakengpuachuehmong"], nyiakengPuachueHmong, nyiakengPuachueHmong),
  (["ogam", "ogham"], ogham, ogham),
  (["olck", "olchiki"], olChiki, olChiki),
  (["onao", "olonal"], olOnal, olOnalExtended),
  (["hung", "oldhungarian"], oldHungarian, oldHungarianExtended),
  (["ital", "olditalic"], oldItalic, oldItalic),
  (["narb", "oldnortharabian"], oldNorthArabian, oldNorthArabian),
  (["perm", "oldpermic"], oldPermic, oldPermicExtended),
  (["xpeo", "oldpersian"], oldPersian, oldPersian),
  (["sogo", "oldsogdian"], oldSogdian, oldSogdian),
  (["sarb", "oldsoutharabian"], oldSouthArabian, oldSouthArabian),
  (["orkh", "oldturkic"], oldTurkic, oldTurkicExtended),
  (["ougr", "olduyghur"], oldUyghur, oldUyghurExtended),
  (["orya", "oriya"], oriya, oriyaExtended),
  (["osge", "osage"], osage, osageExtended),
  (["osma", "osmanya"], osmanya, osmanya),
  (["hmng", "pahawhhmong"], pahawhHmong, pahawhHmong),
  (["palm", "palmyrene"], palmyrene, palmyrene),
  (["pauc", "paucinhau"], pauCinHau, pauCinHau),
  (["phag", "phagspa"], phagsPa, phagsPaExtended),
  (["phnx", "phoenician"], phoenician, phoenician),
  (["phlp", "psalterpahlavi"], psalterPahlavi, psalterPahlaviExtended),
  (["rjng", "rejang"], rejang, rejang),
  (["runr", "runic"], runic, runicExtended),
  (["samr", "samaritan"], samaritan, samaritanExtended),
  (["saur", "saurashtra"], saurashtra, saurashtra),
  (["shrd", "sharada"], sharada, sharadaExtended),
  (["shaw", "shavian"], shavian, shavianExtended),
  (["sidd", "siddham"], siddham, siddham),
  (["sgnw", "signwriting"], signwriting, signwriting),
  (["sinh", "sinhala"], sinhala, sinhalaExtended),
  (["sogd", "sogdian"], sogdian, sogdianExtended),
  (["sora", "sorasompeng"], soraSompeng, soraSompeng),
  (["soyo", "soyombo"], soyombo, soyombo),
  (["sund", "sundanese"], sundanese, sundanese),
  (["sunu", "sunuwar"], sunuwar, sunuwarExtended),
  (["sylo", "sylotinagri"], sylotiNagri, sylotiNagriExtended),
  (["syrc", "syriac"], syriac, syriacExtended),
  (["tglg", "tagalog"], tagalog, tagalogExtended),
  (["tagb", "tagbanwa"], tagbanwa, tagbanwaExtended),
  (["tale", "taile"], taiLe, taiLeExtended),
  (["lana", "taitham"], taiTham, taiTham),
  (["tavt", "taiviet"], taiViet, taiViet),
  (["takr", "takri"], takri, takriExtended),
  (["taml", "tamil"], tamil, tamilExtended),
  (["tnsa", "tangsa"], tangsa, tangsa),
  (["tang", "tangut"], tangut, tangutExtended),
  (["telu", "telugu"], telugu, teluguExtended),
  (["thaa", "thaana"], thaana, thaanaExtended),
  (["thai"], thai, thaiExtended),
  (["tibt", "tibetan"], tibetan, tibetanExtended),
  (["tfng", "tifinagh"], tifinagh, tifinaghExtended),
  (["tirh", "tirhuta"], tirhuta, tirhutaExtended),
  (["todr", "todhri"], todhri, todhriExtended),
  (["toto"], toto, totoExtended),
  (["tutg", "tulutigalari"], tuluTigalari, tuluTigalariExtended),
  (["ugar", "ugaritic"], ugaritic, ugaritic),
  (["vaii", "vai"], vai, vai),
  (["vith", "vithkuqi"], vithkuqi, vithkuqi),
  (["wcho", "wancho"], wancho, wancho),
  (["wara", "warangciti"], warangCiti, warangCiti),
  (["yezi", "yezidi"], yezidi, yezidiExtended),
  (["yiii", "yi"], yi, yiExtended),
  (["zanb", "zanabazarsquare"], zanabazarSquare, zanabazarSquare)]

end MacroBody.Script
