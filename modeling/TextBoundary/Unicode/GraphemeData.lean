/-! Grapheme_Cluster_Break with Extended_Pictographic and Indic_Conjunct_Break, Unicode 15.1.
A run extends to the start of the next one; the masks are those of `GraphemeBreak`. -/

namespace TextBoundary.Unicode.GraphemeData

def ascii : List Nat := [
  0x00004, 0x00004, 0x00004, 0x00004, 0x00004, 0x00004, 0x00004, 0x00004,
  0x00004, 0x00004, 0x00002, 0x00004, 0x00004, 0x00001, 0x00004, 0x00004,
  0x00004, 0x00004, 0x00004, 0x00004, 0x00004, 0x00004, 0x00004, 0x00004,
  0x00004, 0x00004, 0x00004, 0x00004, 0x00004, 0x00004, 0x00004, 0x00004,
  0x20000, 0x20000, 0x20000, 0x20000, 0x20000, 0x20000, 0x20000, 0x20000,
  0x20000, 0x20000, 0x20000, 0x20000, 0x20000, 0x20000, 0x20000, 0x20000,
  0x20000, 0x20000, 0x20000, 0x20000, 0x20000, 0x20000, 0x20000, 0x20000,
  0x20000, 0x20000, 0x20000, 0x20000, 0x20000, 0x20000, 0x20000, 0x20000,
  0x20000, 0x20000, 0x20000, 0x20000, 0x20000, 0x20000, 0x20000, 0x20000,
  0x20000, 0x20000, 0x20000, 0x20000, 0x20000, 0x20000, 0x20000, 0x20000,
  0x20000, 0x20000, 0x20000, 0x20000, 0x20000, 0x20000, 0x20000, 0x20000,
  0x20000, 0x20000, 0x20000, 0x20000, 0x20000, 0x20000, 0x20000, 0x20000,
  0x20000, 0x20000, 0x20000, 0x20000, 0x20000, 0x20000, 0x20000, 0x20000,
  0x20000, 0x20000, 0x20000, 0x20000, 0x20000, 0x20000, 0x20000, 0x20000,
  0x20000, 0x20000, 0x20000, 0x20000, 0x20000, 0x20000, 0x20000, 0x20000,
  0x20000, 0x20000, 0x20000, 0x20000, 0x20000, 0x20000, 0x20000, 0x00004]

def runs0 : List (Nat × Nat) := [
  (0x0000, 0x00004), (0x000A, 0x00002), (0x000B, 0x00004), (0x000D, 0x00001), (0x000E, 0x00004),
  (0x0020, 0x20000), (0x007F, 0x00004), (0x00A0, 0x20000), (0x00A9, 0x02000), (0x00AA, 0x20000),
  (0x00AD, 0x00004), (0x00AE, 0x02000), (0x00AF, 0x20000), (0x0300, 0x10008), (0x034F, 0x00008),
  (0x0350, 0x10008), (0x0370, 0x20000), (0x0483, 0x10008), (0x0488, 0x00008), (0x048A, 0x20000),
  (0x0591, 0x10008), (0x05BE, 0x20000), (0x05BF, 0x10008), (0x05C0, 0x20000), (0x05C1, 0x10008),
  (0x05C3, 0x20000), (0x05C4, 0x10008), (0x05C6, 0x20000), (0x05C7, 0x10008), (0x05C8, 0x20000),
  (0x0600, 0x00040), (0x0606, 0x20000), (0x0610, 0x10008), (0x061B, 0x20000), (0x061C, 0x00004),
  (0x061D, 0x20000), (0x064B, 0x10008), (0x0660, 0x20000), (0x0670, 0x10008), (0x0671, 0x20000),
  (0x06D6, 0x10008), (0x06DD, 0x00040), (0x06DE, 0x20000), (0x06DF, 0x10008), (0x06E5, 0x20000),
  (0x06E7, 0x10008), (0x06E9, 0x20000), (0x06EA, 0x10008), (0x06EE, 0x20000), (0x070F, 0x00040),
  (0x0710, 0x20000), (0x0711, 0x10008), (0x0712, 0x20000), (0x0730, 0x10008), (0x074B, 0x20000),
  (0x07A6, 0x00008), (0x07B1, 0x20000), (0x07EB, 0x10008), (0x07F4, 0x20000), (0x07FD, 0x10008),
  (0x07FE, 0x20000), (0x0816, 0x10008), (0x081A, 0x20000), (0x081B, 0x10008), (0x0824, 0x20000),
  (0x0825, 0x10008), (0x0828, 0x20000), (0x0829, 0x10008), (0x082E, 0x20000), (0x0859, 0x10008),
  (0x085C, 0x20000), (0x0890, 0x00040), (0x0892, 0x20000), (0x0898, 0x10008), (0x08A0, 0x20000),
  (0x08CA, 0x10008), (0x08E2, 0x00040), (0x08E3, 0x10008), (0x0900, 0x00008), (0x0903, 0x00080),
  (0x0904, 0x20000), (0x0915, 0x08000), (0x093A, 0x00008), (0x093B, 0x00080), (0x093C, 0x10008),
  (0x093D, 0x20000), (0x093E, 0x00080), (0x0941, 0x00008), (0x0949, 0x00080), (0x094D, 0x04008),
  (0x094E, 0x00080), (0x0950, 0x20000), (0x0951, 0x10008), (0x0955, 0x00008), (0x0958, 0x08000),
  (0x0960, 0x20000)]

def runs1 : List (Nat × Nat) := [
  (0x0962, 0x00008), (0x0964, 0x20000), (0x0978, 0x08000), (0x0980, 0x20000), (0x0981, 0x00008),
  (0x0982, 0x00080), (0x0984, 0x20000), (0x0995, 0x08000), (0x09A9, 0x20000), (0x09AA, 0x08000),
  (0x09B1, 0x20000), (0x09B2, 0x08000), (0x09B3, 0x20000), (0x09B6, 0x08000), (0x09BA, 0x20000),
  (0x09BC, 0x10008), (0x09BD, 0x20000), (0x09BE, 0x00008), (0x09BF, 0x00080), (0x09C1, 0x00008),
  (0x09C5, 0x20000), (0x09C7, 0x00080), (0x09C9, 0x20000), (0x09CB, 0x00080), (0x09CD, 0x04008),
  (0x09CE, 0x20000), (0x09D7, 0x00008), (0x09D8, 0x20000), (0x09DC, 0x08000), (0x09DE, 0x20000),
  (0x09DF, 0x08000), (0x09E0, 0x20000), (0x09E2, 0x00008), (0x09E4, 0x20000), (0x09F0, 0x08000),
  (0x09F2, 0x20000), (0x09FE, 0x10008), (0x09FF, 0x20000), (0x0A01, 0x00008), (0x0A03, 0x00080),
  (0x0A04, 0x20000), (0x0A3C, 0x10008), (0x0A3D, 0x20000), (0x0A3E, 0x00080), (0x0A41, 0x00008),
  (0x0A43, 0x20000), (0x0A47, 0x00008), (0x0A49, 0x20000), (0x0A4B, 0x00008), (0x0A4D, 0x10008),
  (0x0A4E, 0x20000), (0x0A51, 0x00008), (0x0A52, 0x20000), (0x0A70, 0x00008), (0x0A72, 0x20000),
  (0x0A75, 0x00008), (0x0A76, 0x20000), (0x0A81, 0x00008), (0x0A83, 0x00080), (0x0A84, 0x20000),
  (0x0A95, 0x08000), (0x0AA9, 0x20000), (0x0AAA, 0x08000), (0x0AB1, 0x20000), (0x0AB2, 0x08000),
  (0x0AB4, 0x20000), (0x0AB5, 0x08000), (0x0ABA, 0x20000), (0x0ABC, 0x10008), (0x0ABD, 0x20000),
  (0x0ABE, 0x00080), (0x0AC1, 0x00008), (0x0AC6, 0x20000), (0x0AC7, 0x00008), (0x0AC9, 0x00080),
  (0x0ACA, 0x20000), (0x0ACB, 0x00080), (0x0ACD, 0x04008), (0x0ACE, 0x20000), (0x0AE2, 0x00008),
  (0x0AE4, 0x20000), (0x0AF9, 0x08000), (0x0AFA, 0x00008), (0x0B00, 0x20000), (0x0B01, 0x00008),
  (0x0B02, 0x00080), (0x0B04, 0x20000), (0x0B15, 0x08000), (0x0B29, 0x20000), (0x0B2A, 0x08000),
  (0x0B31, 0x20000), (0x0B32, 0x08000), (0x0B34, 0x20000), (0x0B35, 0x08000), (0x0B3A, 0x20000),
  (0x0B3C, 0x10008)]

def runs2 : List (Nat × Nat) := [
  (0x0B3D, 0x20000), (0x0B3E, 0x00008), (0x0B40, 0x00080), (0x0B41, 0x00008), (0x0B45, 0x20000),
  (0x0B47, 0x00080), (0x0B49, 0x20000), (0x0B4B, 0x00080), (0x0B4D, 0x04008), (0x0B4E, 0x20000),
  (0x0B55, 0x00008), (0x0B58, 0x20000), (0x0B5C, 0x08000), (0x0B5E, 0x20000), (0x0B5F, 0x08000),
  (0x0B60, 0x20000), (0x0B62, 0x00008), (0x0B64, 0x20000), (0x0B71, 0x08000), (0x0B72, 0x20000),
  (0x0B82, 0x00008), (0x0B83, 0x20000), (0x0BBE, 0x00008), (0x0BBF, 0x00080), (0x0BC0, 0x00008),
  (0x0BC1, 0x00080), (0x0BC3, 0x20000), (0x0BC6, 0x00080), (0x0BC9, 0x20000), (0x0BCA, 0x00080),
  (0x0BCD, 0x10008), (0x0BCE, 0x20000), (0x0BD7, 0x00008), (0x0BD8, 0x20000), (0x0C00, 0x00008),
  (0x0C01, 0x00080), (0x0C04, 0x00008), (0x0C05, 0x20000), (0x0C15, 0x08000), (0x0C29, 0x20000),
  (0x0C2A, 0x08000), (0x0C3A, 0x20000), (0x0C3C, 0x10008), (0x0C3D, 0x20000), (0x0C3E, 0x00008),
  (0x0C41, 0x00080), (0x0C45, 0x20000), (0x0C46, 0x00008), (0x0C49, 0x20000), (0x0C4A, 0x00008),
  (0x0C4D, 0x04008), (0x0C4E, 0x20000), (0x0C55, 0x10008), (0x0C57, 0x20000), (0x0C58, 0x08000),
  (0x0C5B, 0x20000), (0x0C62, 0x00008), (0x0C64, 0x20000), (0x0C81, 0x00008), (0x0C82, 0x00080),
  (0x0C84, 0x20000), (0x0CBC, 0x10008), (0x0CBD, 0x20000), (0x0CBE, 0x00080), (0x0CBF, 0x00008),
  (0x0CC0, 0x00080), (0x0CC2, 0x00008), (0x0CC3, 0x00080), (0x0CC5, 0x20000), (0x0CC6, 0x00008),
  (0x0CC7, 0x00080), (0x0CC9, 0x20000), (0x0CCA, 0x00080), (0x0CCC, 0x00008), (0x0CCD, 0x10008),
  (0x0CCE, 0x20000), (0x0CD5, 0x00008), (0x0CD7, 0x20000), (0x0CE2, 0x00008), (0x0CE4, 0x20000),
  (0x0CF3, 0x00080), (0x0CF4, 0x20000), (0x0D00, 0x00008), (0x0D02, 0x00080), (0x0D04, 0x20000),
  (0x0D15, 0x08000), (0x0D3B, 0x10008), (0x0D3D, 0x20000), (0x0D3E, 0x00008), (0x0D3F, 0x00080),
  (0x0D41, 0x00008), (0x0D45, 0x20000), (0x0D46, 0x00080), (0x0D49, 0x20000), (0x0D4A, 0x00080),
  (0x0D4D, 0x04008)]

def runs3 : List (Nat × Nat) := [
  (0x0D4E, 0x00040), (0x0D4F, 0x20000), (0x0D57, 0x00008), (0x0D58, 0x20000), (0x0D62, 0x00008),
  (0x0D64, 0x20000), (0x0D81, 0x00008), (0x0D82, 0x00080), (0x0D84, 0x20000), (0x0DCA, 0x10008),
  (0x0DCB, 0x20000), (0x0DCF, 0x00008), (0x0DD0, 0x00080), (0x0DD2, 0x00008), (0x0DD5, 0x20000),
  (0x0DD6, 0x00008), (0x0DD7, 0x20000), (0x0DD8, 0x00080), (0x0DDF, 0x00008), (0x0DE0, 0x20000),
  (0x0DF2, 0x00080), (0x0DF4, 0x20000), (0x0E31, 0x00008), (0x0E32, 0x20000), (0x0E33, 0x00080),
  (0x0E34, 0x00008), (0x0E38, 0x10008), (0x0E3B, 0x20000), (0x0E47, 0x00008), (0x0E48, 0x10008),
  (0x0E4C, 0x00008), (0x0E4F, 0x20000), (0x0EB1, 0x00008), (0x0EB2, 0x20000), (0x0EB3, 0x00080),
  (0x0EB4, 0x00008), (0x0EB8, 0x10008), (0x0EBB, 0x00008), (0x0EBD, 0x20000), (0x0EC8, 0x10008),
  (0x0ECC, 0x00008), (0x0ECF, 0x20000), (0x0F18, 0x10008), (0x0F1A, 0x20000), (0x0F35, 0x10008),
  (0x0F36, 0x20000), (0x0F37, 0x10008), (0x0F38, 0x20000), (0x0F39, 0x10008), (0x0F3A, 0x20000),
  (0x0F3E, 0x00080), (0x0F40, 0x20000), (0x0F71, 0x10008), (0x0F73, 0x00008), (0x0F74, 0x10008),
  (0x0F75, 0x00008), (0x0F7A, 0x10008), (0x0F7E, 0x00008), (0x0F7F, 0x00080), (0x0F80, 0x10008),
  (0x0F81, 0x00008), (0x0F82, 0x10008), (0x0F85, 0x20000), (0x0F86, 0x10008), (0x0F88, 0x20000),
  (0x0F8D, 0x00008), (0x0F98, 0x20000), (0x0F99, 0x00008), (0x0FBD, 0x20000), (0x0FC6, 0x10008),
  (0x0FC7, 0x20000), (0x102D, 0x00008), (0x1031, 0x00080), (0x1032, 0x00008), (0x1037, 0x10008),
  (0x1038, 0x20000), (0x1039, 0x10008), (0x103B, 0x00080), (0x103D, 0x00008), (0x103F, 0x20000),
  (0x1056, 0x00080), (0x1058, 0x00008), (0x105A, 0x20000), (0x105E, 0x00008), (0x1061, 0x20000),
  (0x1071, 0x00008), (0x1075, 0x20000), (0x1082, 0x00008), (0x1083, 0x20000), (0x1084, 0x00080),
  (0x1085, 0x00008), (0x1087, 0x20000), (0x108D, 0x10008), (0x108E, 0x20000), (0x109D, 0x00008),
  (0x109E, 0x20000)]

def runs4 : List (Nat × Nat) := [
  (0x1100, 0x00100), (0x1160, 0x00200), (0x11A8, 0x00400), (0x1200, 0x20000), (0x135D, 0x10008),
  (0x1360, 0x20000), (0x1712, 0x00008), (0x1714, 0x10008), (0x1715, 0x00080), (0x1716, 0x20000),
  (0x1732, 0x00008), (0x1734, 0x00080), (0x1735, 0x20000), (0x1752, 0x00008), (0x1754, 0x20000),
  (0x1772, 0x00008), (0x1774, 0x20000), (0x17B4, 0x00008), (0x17B6, 0x00080), (0x17B7, 0x00008),
  (0x17BE, 0x00080), (0x17C6, 0x00008), (0x17C7, 0x00080), (0x17C9, 0x00008), (0x17D2, 0x10008),
  (0x17D3, 0x00008), (0x17D4, 0x20000), (0x17DD, 0x10008), (0x17DE, 0x20000), (0x180B, 0x00008),
  (0x180E, 0x00004), (0x180F, 0x00008), (0x1810, 0x20000), (0x1885, 0x00008), (0x1887, 0x20000),
  (0x18A9, 0x10008), (0x18AA, 0x20000), (0x1920, 0x00008), (0x1923, 0x00080), (0x1927, 0x00008),
  (0x1929, 0x00080), (0x192C, 0x20000), (0x1930, 0x00080), (0x1932, 0x00008), (0x1933, 0x00080),
  (0x1939, 0x10008), (0x193C, 0x20000), (0x1A17, 0x10008), (0x1A19, 0x00080), (0x1A1B, 0x00008),
  (0x1A1C, 0x20000), (0x1A55, 0x00080), (0x1A56, 0x00008), (0x1A57, 0x00080), (0x1A58, 0x00008),
  (0x1A5F, 0x20000), (0x1A60, 0x10008), (0x1A61, 0x20000), (0x1A62, 0x00008), (0x1A63, 0x20000),
  (0x1A65, 0x00008), (0x1A6D, 0x00080), (0x1A73, 0x00008), (0x1A75, 0x10008), (0x1A7D, 0x20000),
  (0x1A7F, 0x10008), (0x1A80, 0x20000), (0x1AB0, 0x10008), (0x1ABE, 0x00008), (0x1ABF, 0x10008),
  (0x1ACF, 0x20000), (0x1B00, 0x00008), (0x1B04, 0x00080), (0x1B05, 0x20000), (0x1B34, 0x10008),
  (0x1B35, 0x00008), (0x1B3B, 0x00080), (0x1B3C, 0x00008), (0x1B3D, 0x00080), (0x1B42, 0x00008),
  (0x1B43, 0x00080), (0x1B45, 0x20000), (0x1B6B, 0x10008), (0x1B74, 0x20000), (0x1B80, 0x00008),
  (0x1B82, 0x00080), (0x1B83, 0x20000), (0x1BA1, 0x00080), (0x1BA2, 0x00008), (0x1BA6, 0x00080),
  (0x1BA8, 0x00008), (0x1BAA, 0x00080), (0x1BAB, 0x10008), (0x1BAC, 0x00008), (0x1BAE, 0x20000),
  (0x1BE6, 0x10008)]

def runs5 : List (Nat × Nat) := [
  (0x1BE7, 0x00080), (0x1BE8, 0x00008), (0x1BEA, 0x00080), (0x1BED, 0x00008), (0x1BEE, 0x00080),
  (0x1BEF, 0x00008), (0x1BF2, 0x00080), (0x1BF4, 0x20000), (0x1C24, 0x00080), (0x1C2C, 0x00008),
  (0x1C34, 0x00080), (0x1C36, 0x00008), (0x1C37, 0x10008), (0x1C38, 0x20000), (0x1CD0, 0x10008),
  (0x1CD3, 0x20000), (0x1CD4, 0x10008), (0x1CE1, 0x00080), (0x1CE2, 0x10008), (0x1CE9, 0x20000),
  (0x1CED, 0x10008), (0x1CEE, 0x20000), (0x1CF4, 0x10008), (0x1CF5, 0x20000), (0x1CF7, 0x00080),
  (0x1CF8, 0x10008), (0x1CFA, 0x20000), (0x1DC0, 0x10008), (0x1E00, 0x20000), (0x200B, 0x00004),
  (0x200C, 0x00008), (0x200D, 0x10010), (0x200E, 0x00004), (0x2010, 0x20000), (0x2028, 0x00004),
  (0x202F, 0x20000), (0x203C, 0x02000), (0x203D, 0x20000), (0x2049, 0x02000), (0x204A, 0x20000),
  (0x2060, 0x00004), (0x2070, 0x20000), (0x20D0, 0x10008), (0x20DD, 0x00008), (0x20E1, 0x10008),
  (0x20E2, 0x00008), (0x20E5, 0x10008), (0x20F1, 0x20000), (0x2122, 0x02000), (0x2123, 0x20000),
  (0x2139, 0x02000), (0x213A, 0x20000), (0x2194, 0x02000), (0x219A, 0x20000), (0x21A9, 0x02000),
  (0x21AB, 0x20000), (0x231A, 0x02000), (0x231C, 0x20000), (0x2328, 0x02000), (0x2329, 0x20000),
  (0x2388, 0x02000), (0x2389, 0x20000), (0x23CF, 0x02000), (0x23D0, 0x20000), (0x23E9, 0x02000),
  (0x23F4, 0x20000), (0x23F8, 0x02000), (0x23FB, 0x20000), (0x24C2, 0x02000), (0x24C3, 0x20000),
  (0x25AA, 0x02000), (0x25AC, 0x20000), (0x25B6, 0x02000), (0x25B7, 0x20000), (0x25C0, 0x02000),
  (0x25C1, 0x20000), (0x25FB, 0x02000), (0x25FF, 0x20000), (0x2600, 0x02000), (0x2606, 0x20000),
  (0x2607, 0x02000), (0x2613, 0x20000), (0x2614, 0x02000), (0x2686, 0x20000), (0x2690, 0x02000),
  (0x2706, 0x20000), (0x2708, 0x02000), (0x2713, 0x20000), (0x2714, 0x02000), (0x2715, 0x20000),
  (0x2716, 0x02000), (0x2717, 0x20000), (0x271D, 0x02000), (0x271E, 0x20000), (0x2721, 0x02000),
  (0x2722, 0x20000)]

def runs6 : List (Nat × Nat) := [
  (0x2728, 0x02000), (0x2729, 0x20000), (0x2733, 0x02000), (0x2735, 0x20000), (0x2744, 0x02000),
  (0x2745, 0x20000), (0x2747, 0x02000), (0x2748, 0x20000), (0x274C, 0x02000), (0x274D, 0x20000),
  (0x274E, 0x02000), (0x274F, 0x20000), (0x2753, 0x02000), (0x2756, 0x20000), (0x2757, 0x02000),
  (0x2758, 0x20000), (0x2763, 0x02000), (0x2768, 0x20000), (0x2795, 0x02000), (0x2798, 0x20000),
  (0x27A1, 0x02000), (0x27A2, 0x20000), (0x27B0, 0x02000), (0x27B1, 0x20000), (0x27BF, 0x02000),
  (0x27C0, 0x20000), (0x2934, 0x02000), (0x2936, 0x20000), (0x2B05, 0x02000), (0x2B08, 0x20000),
  (0x2B1B, 0x02000), (0x2B1D, 0x20000), (0x2B50, 0x02000), (0x2B51, 0x20000), (0x2B55, 0x02000),
  (0x2B56, 0x20000), (0x2CEF, 0x10008), (0x2CF2, 0x20000), (0x2D7F, 0x10008), (0x2D80, 0x20000),
  (0x2DE0, 0x10008), (0x2E00, 0x20000), (0x302A, 0x10008), (0x3030, 0x02000), (0x3031, 0x20000),
  (0x303D, 0x02000), (0x303E, 0x20000), (0x3099, 0x10008), (0x309B, 0x20000), (0x3297, 0x02000),
  (0x3298, 0x20000), (0x3299, 0x02000), (0x329A, 0x20000), (0xA66F, 0x10008), (0xA670, 0x00008),
  (0xA673, 0x20000), (0xA674, 0x10008), (0xA67E, 0x20000), (0xA69E, 0x10008), (0xA6A0, 0x20000),
  (0xA6F0, 0x10008), (0xA6F2, 0x20000), (0xA802, 0x00008), (0xA803, 0x20000), (0xA806, 0x10008),
  (0xA807, 0x20000), (0xA80B, 0x00008), (0xA80C, 0x20000), (0xA823, 0x00080), (0xA825, 0x00008),
  (0xA827, 0x00080), (0xA828, 0x20000), (0xA82C, 0x10008), (0xA82D, 0x20000), (0xA880, 0x00080),
  (0xA882, 0x20000), (0xA8B4, 0x00080), (0xA8C4, 0x10008), (0xA8C5, 0x00008), (0xA8C6, 0x20000),
  (0xA8E0, 0x10008), (0xA8F2, 0x20000), (0xA8FF, 0x00008), (0xA900, 0x20000), (0xA926, 0x00008),
  (0xA92B, 0x10008), (0xA92E, 0x20000), (0xA947, 0x00008), (0xA952, 0x00080), (0xA954, 0x20000),
  (0xA960, 0x00100), (0xA97D, 0x20000), (0xA980, 0x00008), (0xA983, 0x00080), (0xA984, 0x20000),
  (0xA9B3, 0x10008)]

def runs7 : List (Nat × Nat) := [
  (0xA9B4, 0x00080), (0xA9B6, 0x00008), (0xA9BA, 0x00080), (0xA9BC, 0x00008), (0xA9BE, 0x00080),
  (0xA9C1, 0x20000), (0xA9E5, 0x00008), (0xA9E6, 0x20000), (0xAA29, 0x00008), (0xAA2F, 0x00080),
  (0xAA31, 0x00008), (0xAA33, 0x00080), (0xAA35, 0x00008), (0xAA37, 0x20000), (0xAA43, 0x00008),
  (0xAA44, 0x20000), (0xAA4C, 0x00008), (0xAA4D, 0x00080), (0xAA4E, 0x20000), (0xAA7C, 0x00008),
  (0xAA7D, 0x20000), (0xAAB0, 0x10008), (0xAAB1, 0x20000), (0xAAB2, 0x10008), (0xAAB5, 0x20000),
  (0xAAB7, 0x10008), (0xAAB9, 0x20000), (0xAABE, 0x10008), (0xAAC0, 0x20000), (0xAAC1, 0x10008),
  (0xAAC2, 0x20000), (0xAAEB, 0x00080), (0xAAEC, 0x00008), (0xAAEE, 0x00080), (0xAAF0, 0x20000),
  (0xAAF5, 0x00080), (0xAAF6, 0x10008), (0xAAF7, 0x20000), (0xABE3, 0x00080), (0xABE5, 0x00008),
  (0xABE6, 0x00080), (0xABE8, 0x00008), (0xABE9, 0x00080), (0xABEB, 0x20000), (0xABEC, 0x00080),
  (0xABED, 0x10008), (0xABEE, 0x20000), (0xAC00, 0x00800), (0xAC01, 0x01000), (0xAC1C, 0x00800),
  (0xAC1D, 0x01000), (0xAC38, 0x00800), (0xAC39, 0x01000), (0xAC54, 0x00800), (0xAC55, 0x01000),
  (0xAC70, 0x00800), (0xAC71, 0x01000), (0xAC8C, 0x00800), (0xAC8D, 0x01000), (0xACA8, 0x00800),
  (0xACA9, 0x01000), (0xACC4, 0x00800), (0xACC5, 0x01000), (0xACE0, 0x00800), (0xACE1, 0x01000),
  (0xACFC, 0x00800), (0xACFD, 0x01000), (0xAD18, 0x00800), (0xAD19, 0x01000), (0xAD34, 0x00800),
  (0xAD35, 0x01000), (0xAD50, 0x00800), (0xAD51, 0x01000), (0xAD6C, 0x00800), (0xAD6D, 0x01000),
  (0xAD88, 0x00800), (0xAD89, 0x01000), (0xADA4, 0x00800), (0xADA5, 0x01000), (0xADC0, 0x00800),
  (0xADC1, 0x01000), (0xADDC, 0x00800), (0xADDD, 0x01000), (0xADF8, 0x00800), (0xADF9, 0x01000),
  (0xAE14, 0x00800), (0xAE15, 0x01000), (0xAE30, 0x00800), (0xAE31, 0x01000), (0xAE4C, 0x00800),
  (0xAE4D, 0x01000), (0xAE68, 0x00800), (0xAE69, 0x01000), (0xAE84, 0x00800), (0xAE85, 0x01000),
  (0xAEA0, 0x00800)]

def runs8 : List (Nat × Nat) := [
  (0xAEA1, 0x01000), (0xAEBC, 0x00800), (0xAEBD, 0x01000), (0xAED8, 0x00800), (0xAED9, 0x01000),
  (0xAEF4, 0x00800), (0xAEF5, 0x01000), (0xAF10, 0x00800), (0xAF11, 0x01000), (0xAF2C, 0x00800),
  (0xAF2D, 0x01000), (0xAF48, 0x00800), (0xAF49, 0x01000), (0xAF64, 0x00800), (0xAF65, 0x01000),
  (0xAF80, 0x00800), (0xAF81, 0x01000), (0xAF9C, 0x00800), (0xAF9D, 0x01000), (0xAFB8, 0x00800),
  (0xAFB9, 0x01000), (0xAFD4, 0x00800), (0xAFD5, 0x01000), (0xAFF0, 0x00800), (0xAFF1, 0x01000),
  (0xB00C, 0x00800), (0xB00D, 0x01000), (0xB028, 0x00800), (0xB029, 0x01000), (0xB044, 0x00800),
  (0xB045, 0x01000), (0xB060, 0x00800), (0xB061, 0x01000), (0xB07C, 0x00800), (0xB07D, 0x01000),
  (0xB098, 0x00800), (0xB099, 0x01000), (0xB0B4, 0x00800), (0xB0B5, 0x01000), (0xB0D0, 0x00800),
  (0xB0D1, 0x01000), (0xB0EC, 0x00800), (0xB0ED, 0x01000), (0xB108, 0x00800), (0xB109, 0x01000),
  (0xB124, 0x00800), (0xB125, 0x01000), (0xB140, 0x00800), (0xB141, 0x01000), (0xB15C, 0x00800),
  (0xB15D, 0x01000), (0xB178, 0x00800), (0xB179, 0x01000), (0xB194, 0x00800), (0xB195, 0x01000),
  (0xB1B0, 0x00800), (0xB1B1, 0x01000), (0xB1CC, 0x00800), (0xB1CD, 0x01000), (0xB1E8, 0x00800),
  (0xB1E9, 0x01000), (0xB204, 0x00800), (0xB205, 0x01000), (0xB220, 0x00800), (0xB221, 0x01000),
  (0xB23C, 0x00800), (0xB23D, 0x01000), (0xB258, 0x00800), (0xB259, 0x01000), (0xB274, 0x00800),
  (0xB275, 0x01000), (0xB290, 0x00800), (0xB291, 0x01000), (0xB2AC, 0x00800), (0xB2AD, 0x01000),
  (0xB2C8, 0x00800), (0xB2C9, 0x01000), (0xB2E4, 0x00800), (0xB2E5, 0x01000), (0xB300, 0x00800),
  (0xB301, 0x01000), (0xB31C, 0x00800), (0xB31D, 0x01000), (0xB338, 0x00800), (0xB339, 0x01000),
  (0xB354, 0x00800), (0xB355, 0x01000), (0xB370, 0x00800), (0xB371, 0x01000), (0xB38C, 0x00800),
  (0xB38D, 0x01000), (0xB3A8, 0x00800), (0xB3A9, 0x01000), (0xB3C4, 0x00800), (0xB3C5, 0x01000),
  (0xB3E0, 0x00800)]

def runs9 : List (Nat × Nat) := [
  (0xB3E1, 0x01000), (0xB3FC, 0x00800), (0xB3FD, 0x01000), (0xB418, 0x00800), (0xB419, 0x01000),
  (0xB434, 0x00800), (0xB435, 0x01000), (0xB450, 0x00800), (0xB451, 0x01000), (0xB46C, 0x00800),
  (0xB46D, 0x01000), (0xB488, 0x00800), (0xB489, 0x01000), (0xB4A4, 0x00800), (0xB4A5, 0x01000),
  (0xB4C0, 0x00800), (0xB4C1, 0x01000), (0xB4DC, 0x00800), (0xB4DD, 0x01000), (0xB4F8, 0x00800),
  (0xB4F9, 0x01000), (0xB514, 0x00800), (0xB515, 0x01000), (0xB530, 0x00800), (0xB531, 0x01000),
  (0xB54C, 0x00800), (0xB54D, 0x01000), (0xB568, 0x00800), (0xB569, 0x01000), (0xB584, 0x00800),
  (0xB585, 0x01000), (0xB5A0, 0x00800), (0xB5A1, 0x01000), (0xB5BC, 0x00800), (0xB5BD, 0x01000),
  (0xB5D8, 0x00800), (0xB5D9, 0x01000), (0xB5F4, 0x00800), (0xB5F5, 0x01000), (0xB610, 0x00800),
  (0xB611, 0x01000), (0xB62C, 0x00800), (0xB62D, 0x01000), (0xB648, 0x00800), (0xB649, 0x01000),
  (0xB664, 0x00800), (0xB665, 0x01000), (0xB680, 0x00800), (0xB681, 0x01000), (0xB69C, 0x00800),
  (0xB69D, 0x01000), (0xB6B8, 0x00800), (0xB6B9, 0x01000), (0xB6D4, 0x00800), (0xB6D5, 0x01000),
  (0xB6F0, 0x00800), (0xB6F1, 0x01000), (0xB70C, 0x00800), (0xB70D, 0x01000), (0xB728, 0x00800),
  (0xB729, 0x01000), (0xB744, 0x00800), (0xB745, 0x01000), (0xB760, 0x00800), (0xB761, 0x01000),
  (0xB77C, 0x00800), (0xB77D, 0x01000), (0xB798, 0x00800), (0xB799, 0x01000), (0xB7B4, 0x00800),
  (0xB7B5, 0x01000), (0xB7D0, 0x00800), (0xB7D1, 0x01000), (0xB7EC, 0x00800), (0xB7ED, 0x01000),
  (0xB808, 0x00800), (0xB809, 0x01000), (0xB824, 0x00800), (0xB825, 0x01000), (0xB840, 0x00800),
  (0xB841, 0x01000), (0xB85C, 0x00800), (0xB85D, 0x01000), (0xB878, 0x00800), (0xB879, 0x01000),
  (0xB894, 0x00800), (0xB895, 0x01000), (0xB8B0, 0x00800), (0xB8B1, 0x01000), (0xB8CC, 0x00800),
  (0xB8CD, 0x01000), (0xB8E8, 0x00800), (0xB8E9, 0x01000), (0xB904, 0x00800), (0xB905, 0x01000),
  (0xB920, 0x00800)]

def runs10 : List (Nat × Nat) := [
  (0xB921, 0x01000), (0xB93C, 0x00800), (0xB93D, 0x01000), (0xB958, 0x00800), (0xB959, 0x01000),
  (0xB974, 0x00800), (0xB975, 0x01000), (0xB990, 0x00800), (0xB991, 0x01000), (0xB9AC, 0x00800),
  (0xB9AD, 0x01000), (0xB9C8, 0x00800), (0xB9C9, 0x01000), (0xB9E4, 0x00800), (0xB9E5, 0x01000),
  (0xBA00, 0x00800), (0xBA01, 0x01000), (0xBA1C, 0x00800), (0xBA1D, 0x01000), (0xBA38, 0x00800),
  (0xBA39, 0x01000), (0xBA54, 0x00800), (0xBA55, 0x01000), (0xBA70, 0x00800), (0xBA71, 0x01000),
  (0xBA8C, 0x00800), (0xBA8D, 0x01000), (0xBAA8, 0x00800), (0xBAA9, 0x01000), (0xBAC4, 0x00800),
  (0xBAC5, 0x01000), (0xBAE0, 0x00800), (0xBAE1, 0x01000), (0xBAFC, 0x00800), (0xBAFD, 0x01000),
  (0xBB18, 0x00800), (0xBB19, 0x01000), (0xBB34, 0x00800), (0xBB35, 0x01000), (0xBB50, 0x00800),
  (0xBB51, 0x01000), (0xBB6C, 0x00800), (0xBB6D, 0x01000), (0xBB88, 0x00800), (0xBB89, 0x01000),
  (0xBBA4, 0x00800), (0xBBA5, 0x01000), (0xBBC0, 0x00800), (0xBBC1, 0x01000), (0xBBDC, 0x00800),
  (0xBBDD, 0x01000), (0xBBF8, 0x00800), (0xBBF9, 0x01000), (0xBC14, 0x00800), (0xBC15, 0x01000),
  (0xBC30, 0x00800), (0xBC31, 0x01000), (0xBC4C, 0x00800), (0xBC4D, 0x01000), (0xBC68, 0x00800),
  (0xBC69, 0x01000), (0xBC84, 0x00800), (0xBC85, 0x01000), (0xBCA0, 0x00800), (0xBCA1, 0x01000),
  (0xBCBC, 0x00800), (0xBCBD, 0x01000), (0xBCD8, 0x00800), (0xBCD9, 0x01000), (0xBCF4, 0x00800),
  (0xBCF5, 0x01000), (0xBD10, 0x00800), (0xBD11, 0x01000), (0xBD2C, 0x00800), (0xBD2D, 0x01000),
  (0xBD48, 0x00800), (0xBD49, 0x01000), (0xBD64, 0x00800), (0xBD65, 0x01000), (0xBD80, 0x00800),
  (0xBD81, 0x01000), (0xBD9C, 0x00800), (0xBD9D, 0x01000), (0xBDB8, 0x00800), (0xBDB9, 0x01000),
  (0xBDD4, 0x00800), (0xBDD5, 0x01000), (0xBDF0, 0x00800), (0xBDF1, 0x01000), (0xBE0C, 0x00800),
  (0xBE0D, 0x01000), (0xBE28, 0x00800), (0xBE29, 0x01000), (0xBE44, 0x00800), (0xBE45, 0x01000),
  (0xBE60, 0x00800)]

def runs11 : List (Nat × Nat) := [
  (0xBE61, 0x01000), (0xBE7C, 0x00800), (0xBE7D, 0x01000), (0xBE98, 0x00800), (0xBE99, 0x01000),
  (0xBEB4, 0x00800), (0xBEB5, 0x01000), (0xBED0, 0x00800), (0xBED1, 0x01000), (0xBEEC, 0x00800),
  (0xBEED, 0x01000), (0xBF08, 0x00800), (0xBF09, 0x01000), (0xBF24, 0x00800), (0xBF25, 0x01000),
  (0xBF40, 0x00800), (0xBF41, 0x01000), (0xBF5C, 0x00800), (0xBF5D, 0x01000), (0xBF78, 0x00800),
  (0xBF79, 0x01000), (0xBF94, 0x00800), (0xBF95, 0x01000), (0xBFB0, 0x00800), (0xBFB1, 0x01000),
  (0xBFCC, 0x00800), (0xBFCD, 0x01000), (0xBFE8, 0x00800), (0xBFE9, 0x01000), (0xC004, 0x00800),
  (0xC005, 0x01000), (0xC020, 0x00800), (0xC021, 0x01000), (0xC03C, 0x00800), (0xC03D, 0x01000),
  (0xC058, 0x00800), (0xC059, 0x01000), (0xC074, 0x00800), (0xC075, 0x01000), (0xC090, 0x00800),
  (0xC091, 0x01000), (0xC0AC, 0x00800), (0xC0AD, 0x01000), (0xC0C8, 0x00800), (0xC0C9, 0x01000),
  (0xC0E4, 0x00800), (0xC0E5, 0x01000), (0xC100, 0x00800), (0xC101, 0x01000), (0xC11C, 0x00800),
  (0xC11D, 0x01000), (0xC138, 0x00800), (0xC139, 0x01000), (0xC154, 0x00800), (0xC155, 0x01000),
  (0xC170, 0x00800), (0xC171, 0x01000), (0xC18C, 0x00800), (0xC18D, 0x01000), (0xC1A8, 0x00800),
  (0xC1A9, 0x01000), (0xC1C4, 0x00800), (0xC1C5, 0x01000), (0xC1E0, 0x00800), (0xC1E1, 0x01000),
  (0xC1FC, 0x00800), (0xC1FD, 0x01000), (0xC218, 0x00800), (0xC219, 0x01000), (0xC234, 0x00800),
  (0xC235, 0x01000), (0xC250, 0x00800), (0xC251, 0x01000), (0xC26C, 0x00800), (0xC26D, 0x01000),
  (0xC288, 0x00800), (0xC289, 0x01000), (0xC2A4, 0x00800), (0xC2A5, 0x01000), (0xC2C0, 0x00800),
  (0xC2C1, 0x01000), (0xC2DC, 0x00800), (0xC2DD, 0x01000), (0xC2F8, 0x00800), (0xC2F9, 0x01000),
  (0xC314, 0x00800), (0xC315, 0x01000), (0xC330, 0x00800), (0xC331, 0x01000), (0xC34C, 0x00800),
  (0xC34D, 0x01000), (0xC368, 0x00800), (0xC369, 0x01000), (0xC384, 0x00800), (0xC385, 0x01000),
  (0xC3A0, 0x00800)]

def runs12 : List (Nat × Nat) := [
  (0xC3A1, 0x01000), (0xC3BC, 0x00800), (0xC3BD, 0x01000), (0xC3D8, 0x00800), (0xC3D9, 0x01000),
  (0xC3F4, 0x00800), (0xC3F5, 0x01000), (0xC410, 0x00800), (0xC411, 0x01000), (0xC42C, 0x00800),
  (0xC42D, 0x01000), (0xC448, 0x00800), (0xC449, 0x01000), (0xC464, 0x00800), (0xC465, 0x01000),
  (0xC480, 0x00800), (0xC481, 0x01000), (0xC49C, 0x00800), (0xC49D, 0x01000), (0xC4B8, 0x00800),
  (0xC4B9, 0x01000), (0xC4D4, 0x00800), (0xC4D5, 0x01000), (0xC4F0, 0x00800), (0xC4F1, 0x01000),
  (0xC50C, 0x00800), (0xC50D, 0x01000), (0xC528, 0x00800), (0xC529, 0x01000), (0xC544, 0x00800),
  (0xC545, 0x01000), (0xC560, 0x00800), (0xC561, 0x01000), (0xC57C, 0x00800), (0xC57D, 0x01000),
  (0xC598, 0x00800), (0xC599, 0x01000), (0xC5B4, 0x00800), (0xC5B5, 0x01000), (0xC5D0, 0x00800),
  (0xC5D1, 0x01000), (0xC5EC, 0x00800), (0xC5ED, 0x01000), (0xC608, 0x00800), (0xC609, 0x01000),
  (0xC624, 0x00800), (0xC625, 0x01000), (0xC640, 0x00800), (0xC641, 0x01000), (0xC65C, 0x00800),
  (0xC65D, 0x01000), (0xC678, 0x00800), (0xC679, 0x01000), (0xC694, 0x00800), (0xC695, 0x01000),
  (0xC6B0, 0x00800), (0xC6B1, 0x01000), (0xC6CC, 0x00800), (0xC6CD, 0x01000), (0xC6E8, 0x00800),
  (0xC6E9, 0x01000), (0xC704, 0x00800), (0xC705, 0x01000), (0xC720, 0x00800), (0xC721, 0x01000),
  (0xC73C, 0x00800), (0xC73D, 0x01000), (0xC758, 0x00800), (0xC759, 0x01000), (0xC774, 0x00800),
  (0xC775, 0x01000), (0xC790, 0x00800), (0xC791, 0x01000), (0xC7AC, 0x00800), (0xC7AD, 0x01000),
  (0xC7C8, 0x00800), (0xC7C9, 0x01000), (0xC7E4, 0x00800), (0xC7E5, 0x01000), (0xC800, 0x00800),
  (0xC801, 0x01000), (0xC81C, 0x00800), (0xC81D, 0x01000), (0xC838, 0x00800), (0xC839, 0x01000),
  (0xC854, 0x00800), (0xC855, 0x01000), (0xC870, 0x00800), (0xC871, 0x01000), (0xC88C, 0x00800),
  (0xC88D, 0x01000), (0xC8A8, 0x00800), (0xC8A9, 0x01000), (0xC8C4, 0x00800), (0xC8C5, 0x01000),
  (0xC8E0, 0x00800)]

def runs13 : List (Nat × Nat) := [
  (0xC8E1, 0x01000), (0xC8FC, 0x00800), (0xC8FD, 0x01000), (0xC918, 0x00800), (0xC919, 0x01000),
  (0xC934, 0x00800), (0xC935, 0x01000), (0xC950, 0x00800), (0xC951, 0x01000), (0xC96C, 0x00800),
  (0xC96D, 0x01000), (0xC988, 0x00800), (0xC989, 0x01000), (0xC9A4, 0x00800), (0xC9A5, 0x01000),
  (0xC9C0, 0x00800), (0xC9C1, 0x01000), (0xC9DC, 0x00800), (0xC9DD, 0x01000), (0xC9F8, 0x00800),
  (0xC9F9, 0x01000), (0xCA14, 0x00800), (0xCA15, 0x01000), (0xCA30, 0x00800), (0xCA31, 0x01000),
  (0xCA4C, 0x00800), (0xCA4D, 0x01000), (0xCA68, 0x00800), (0xCA69, 0x01000), (0xCA84, 0x00800),
  (0xCA85, 0x01000), (0xCAA0, 0x00800), (0xCAA1, 0x01000), (0xCABC, 0x00800), (0xCABD, 0x01000),
  (0xCAD8, 0x00800), (0xCAD9, 0x01000), (0xCAF4, 0x00800), (0xCAF5, 0x01000), (0xCB10, 0x00800),
  (0xCB11, 0x01000), (0xCB2C, 0x00800), (0xCB2D, 0x01000), (0xCB48, 0x00800), (0xCB49, 0x01000),
  (0xCB64, 0x00800), (0xCB65, 0x01000), (0xCB80, 0x00800), (0xCB81, 0x01000), (0xCB9C, 0x00800),
  (0xCB9D, 0x01000), (0xCBB8, 0x00800), (0xCBB9, 0x01000), (0xCBD4, 0x00800), (0xCBD5, 0x01000),
  (0xCBF0, 0x00800), (0xCBF1, 0x01000), (0xCC0C, 0x00800), (0xCC0D, 0x01000), (0xCC28, 0x00800),
  (0xCC29, 0x01000), (0xCC44, 0x00800), (0xCC45, 0x01000), (0xCC60, 0x00800), (0xCC61, 0x01000),
  (0xCC7C, 0x00800), (0xCC7D, 0x01000), (0xCC98, 0x00800), (0xCC99, 0x01000), (0xCCB4, 0x00800),
  (0xCCB5, 0x01000), (0xCCD0, 0x00800), (0xCCD1, 0x01000), (0xCCEC, 0x00800), (0xCCED, 0x01000),
  (0xCD08, 0x00800), (0xCD09, 0x01000), (0xCD24, 0x00800), (0xCD25, 0x01000), (0xCD40, 0x00800),
  (0xCD41, 0x01000), (0xCD5C, 0x00800), (0xCD5D, 0x01000), (0xCD78, 0x00800), (0xCD79, 0x01000),
  (0xCD94, 0x00800), (0xCD95, 0x01000), (0xCDB0, 0x00800), (0xCDB1, 0x01000), (0xCDCC, 0x00800),
  (0xCDCD, 0x01000), (0xCDE8, 0x00800), (0xCDE9, 0x01000), (0xCE04, 0x00800), (0xCE05, 0x01000),
  (0xCE20, 0x00800)]

def runs14 : List (Nat × Nat) := [
  (0xCE21, 0x01000), (0xCE3C, 0x00800), (0xCE3D, 0x01000), (0xCE58, 0x00800), (0xCE59, 0x01000),
  (0xCE74, 0x00800), (0xCE75, 0x01000), (0xCE90, 0x00800), (0xCE91, 0x01000), (0xCEAC, 0x00800),
  (0xCEAD, 0x01000), (0xCEC8, 0x00800), (0xCEC9, 0x01000), (0xCEE4, 0x00800), (0xCEE5, 0x01000),
  (0xCF00, 0x00800), (0xCF01, 0x01000), (0xCF1C, 0x00800), (0xCF1D, 0x01000), (0xCF38, 0x00800),
  (0xCF39, 0x01000), (0xCF54, 0x00800), (0xCF55, 0x01000), (0xCF70, 0x00800), (0xCF71, 0x01000),
  (0xCF8C, 0x00800), (0xCF8D, 0x01000), (0xCFA8, 0x00800), (0xCFA9, 0x01000), (0xCFC4, 0x00800),
  (0xCFC5, 0x01000), (0xCFE0, 0x00800), (0xCFE1, 0x01000), (0xCFFC, 0x00800), (0xCFFD, 0x01000),
  (0xD018, 0x00800), (0xD019, 0x01000), (0xD034, 0x00800), (0xD035, 0x01000), (0xD050, 0x00800),
  (0xD051, 0x01000), (0xD06C, 0x00800), (0xD06D, 0x01000), (0xD088, 0x00800), (0xD089, 0x01000),
  (0xD0A4, 0x00800), (0xD0A5, 0x01000), (0xD0C0, 0x00800), (0xD0C1, 0x01000), (0xD0DC, 0x00800),
  (0xD0DD, 0x01000), (0xD0F8, 0x00800), (0xD0F9, 0x01000), (0xD114, 0x00800), (0xD115, 0x01000),
  (0xD130, 0x00800), (0xD131, 0x01000), (0xD14C, 0x00800), (0xD14D, 0x01000), (0xD168, 0x00800),
  (0xD169, 0x01000), (0xD184, 0x00800), (0xD185, 0x01000), (0xD1A0, 0x00800), (0xD1A1, 0x01000),
  (0xD1BC, 0x00800), (0xD1BD, 0x01000), (0xD1D8, 0x00800), (0xD1D9, 0x01000), (0xD1F4, 0x00800),
  (0xD1F5, 0x01000), (0xD210, 0x00800), (0xD211, 0x01000), (0xD22C, 0x00800), (0xD22D, 0x01000),
  (0xD248, 0x00800), (0xD249, 0x01000), (0xD264, 0x00800), (0xD265, 0x01000), (0xD280, 0x00800),
  (0xD281, 0x01000), (0xD29C, 0x00800), (0xD29D, 0x01000), (0xD2B8, 0x00800), (0xD2B9, 0x01000),
  (0xD2D4, 0x00800), (0xD2D5, 0x01000), (0xD2F0, 0x00800), (0xD2F1, 0x01000), (0xD30C, 0x00800),
  (0xD30D, 0x01000), (0xD328, 0x00800), (0xD329, 0x01000), (0xD344, 0x00800), (0xD345, 0x01000),
  (0xD360, 0x00800)]

def runs15 : List (Nat × Nat) := [
  (0xD361, 0x01000), (0xD37C, 0x00800), (0xD37D, 0x01000), (0xD398, 0x00800), (0xD399, 0x01000),
  (0xD3B4, 0x00800), (0xD3B5, 0x01000), (0xD3D0, 0x00800), (0xD3D1, 0x01000), (0xD3EC, 0x00800),
  (0xD3ED, 0x01000), (0xD408, 0x00800), (0xD409, 0x01000), (0xD424, 0x00800), (0xD425, 0x01000),
  (0xD440, 0x00800), (0xD441, 0x01000), (0xD45C, 0x00800), (0xD45D, 0x01000), (0xD478, 0x00800),
  (0xD479, 0x01000), (0xD494, 0x00800), (0xD495, 0x01000), (0xD4B0, 0x00800), (0xD4B1, 0x01000),
  (0xD4CC, 0x00800), (0xD4CD, 0x01000), (0xD4E8, 0x00800), (0xD4E9, 0x01000), (0xD504, 0x00800),
  (0xD505, 0x01000), (0xD520, 0x00800), (0xD521, 0x01000), (0xD53C, 0x00800), (0xD53D, 0x01000),
  (0xD558, 0x00800), (0xD559, 0x01000), (0xD574, 0x00800), (0xD575, 0x01000), (0xD590, 0x00800),
  (0xD591, 0x01000), (0xD5AC, 0x00800), (0xD5AD, 0x01000), (0xD5C8, 0x00800), (0xD5C9, 0x01000),
  (0xD5E4, 0x00800), (0xD5E5, 0x01000), (0xD600, 0x00800), (0xD601, 0x01000), (0xD61C, 0x00800),
  (0xD61D, 0x01000), (0xD638, 0x00800), (0xD639, 0x01000), (0xD654, 0x00800), (0xD655, 0x01000),
  (0xD670, 0x00800), (0xD671, 0x01000), (0xD68C, 0x00800), (0xD68D, 0x01000), (0xD6A8, 0x00800),
  (0xD6A9, 0x01000), (0xD6C4, 0x00800), (0xD6C5, 0x01000), (0xD6E0, 0x00800), (0xD6E1, 0x01000),
  (0xD6FC, 0x00800), (0xD6FD, 0x01000), (0xD718, 0x00800), (0xD719, 0x01000), (0xD734, 0x00800),
  (0xD735, 0x01000), (0xD750, 0x00800), (0xD751, 0x01000), (0xD76C, 0x00800), (0xD76D, 0x01000),
  (0xD788, 0x00800), (0xD789, 0x01000), (0xD7A4, 0x20000), (0xD7B0, 0x00200), (0xD7C7, 0x20000),
  (0xD7CB, 0x00400), (0xD7FC, 0x20000), (0xFB1E, 0x10008), (0xFB1F, 0x20000), (0xFE00, 0x00008),
  (0xFE10, 0x20000), (0xFE20, 0x10008), (0xFE30, 0x20000), (0xFEFF, 0x00004), (0xFF00, 0x20000),
  (0xFF9E, 0x00008), (0xFFA0, 0x20000), (0xFFF0, 0x00004), (0xFFFC, 0x20000), (0x101FD, 0x10008),
  (0x101FE, 0x20000)]

def runs16 : List (Nat × Nat) := [
  (0x102E0, 0x10008), (0x102E1, 0x20000), (0x10376, 0x10008), (0x1037B, 0x20000), (0x10A01, 0x00008),
  (0x10A04, 0x20000), (0x10A05, 0x00008), (0x10A07, 0x20000), (0x10A0C, 0x00008), (0x10A0D, 0x10008),
  (0x10A0E, 0x00008), (0x10A0F, 0x10008), (0x10A10, 0x20000), (0x10A38, 0x10008), (0x10A3B, 0x20000),
  (0x10A3F, 0x10008), (0x10A40, 0x20000), (0x10AE5, 0x10008), (0x10AE7, 0x20000), (0x10D24, 0x10008),
  (0x10D28, 0x20000), (0x10EAB, 0x10008), (0x10EAD, 0x20000), (0x10EFD, 0x10008), (0x10F00, 0x20000),
  (0x10F46, 0x10008), (0x10F51, 0x20000), (0x10F82, 0x10008), (0x10F86, 0x20000), (0x11000, 0x00080),
  (0x11001, 0x00008), (0x11002, 0x00080), (0x11003, 0x20000), (0x11038, 0x00008), (0x11046, 0x10008),
  (0x11047, 0x20000), (0x11070, 0x10008), (0x11071, 0x20000), (0x11073, 0x00008), (0x11075, 0x20000),
  (0x1107F, 0x10008), (0x11080, 0x00008), (0x11082, 0x00080), (0x11083, 0x20000), (0x110B0, 0x00080),
  (0x110B3, 0x00008), (0x110B7, 0x00080), (0x110B9, 0x10008), (0x110BB, 0x20000), (0x110BD, 0x00040),
  (0x110BE, 0x20000), (0x110C2, 0x00008), (0x110C3, 0x20000), (0x110CD, 0x00040), (0x110CE, 0x20000),
  (0x11100, 0x10008), (0x11103, 0x20000), (0x11127, 0x00008), (0x1112C, 0x00080), (0x1112D, 0x00008),
  (0x11133, 0x10008), (0x11135, 0x20000), (0x11145, 0x00080), (0x11147, 0x20000), (0x11173, 0x10008),
  (0x11174, 0x20000), (0x11180, 0x00008), (0x11182, 0x00080), (0x11183, 0x20000), (0x111B3, 0x00080),
  (0x111B6, 0x00008), (0x111BF, 0x00080), (0x111C1, 0x20000), (0x111C2, 0x00040), (0x111C4, 0x20000),
  (0x111C9, 0x00008), (0x111CA, 0x10008), (0x111CB, 0x00008), (0x111CD, 0x20000), (0x111CE, 0x00080),
  (0x111CF, 0x00008), (0x111D0, 0x20000), (0x1122C, 0x00080), (0x1122F, 0x00008), (0x11232, 0x00080),
  (0x11234, 0x00008), (0x11235, 0x00080), (0x11236, 0x10008), (0x11237, 0x00008), (0x11238, 0x20000),
  (0x1123E, 0x00008), (0x1123F, 0x20000), (0x11241, 0x00008), (0x11242, 0x20000), (0x112DF, 0x00008),
  (0x112E0, 0x00080)]

def runs17 : List (Nat × Nat) := [
  (0x112E3, 0x00008), (0x112E9, 0x10008), (0x112EB, 0x20000), (0x11300, 0x00008), (0x11302, 0x00080),
  (0x11304, 0x20000), (0x1133B, 0x10008), (0x1133D, 0x20000), (0x1133E, 0x00008), (0x1133F, 0x00080),
  (0x11340, 0x00008), (0x11341, 0x00080), (0x11345, 0x20000), (0x11347, 0x00080), (0x11349, 0x20000),
  (0x1134B, 0x00080), (0x1134E, 0x20000), (0x11357, 0x00008), (0x11358, 0x20000), (0x11362, 0x00080),
  (0x11364, 0x20000), (0x11366, 0x10008), (0x1136D, 0x20000), (0x11370, 0x10008), (0x11375, 0x20000),
  (0x11435, 0x00080), (0x11438, 0x00008), (0x11440, 0x00080), (0x11442, 0x10008), (0x11443, 0x00008),
  (0x11445, 0x00080), (0x11446, 0x10008), (0x11447, 0x20000), (0x1145E, 0x10008), (0x1145F, 0x20000),
  (0x114B0, 0x00008), (0x114B1, 0x00080), (0x114B3, 0x00008), (0x114B9, 0x00080), (0x114BA, 0x00008),
  (0x114BB, 0x00080), (0x114BD, 0x00008), (0x114BE, 0x00080), (0x114BF, 0x00008), (0x114C1, 0x00080),
  (0x114C2, 0x10008), (0x114C4, 0x20000), (0x115AF, 0x00008), (0x115B0, 0x00080), (0x115B2, 0x00008),
  (0x115B6, 0x20000), (0x115B8, 0x00080), (0x115BC, 0x00008), (0x115BE, 0x00080), (0x115BF, 0x10008),
  (0x115C1, 0x20000), (0x115DC, 0x00008), (0x115DE, 0x20000), (0x11630, 0x00080), (0x11633, 0x00008),
  (0x1163B, 0x00080), (0x1163D, 0x00008), (0x1163E, 0x00080), (0x1163F, 0x10008), (0x11640, 0x00008),
  (0x11641, 0x20000), (0x116AB, 0x00008), (0x116AC, 0x00080), (0x116AD, 0x00008), (0x116AE, 0x00080),
  (0x116B0, 0x00008), (0x116B6, 0x00080), (0x116B7, 0x10008), (0x116B8, 0x20000), (0x1171D, 0x00008),
  (0x11720, 0x20000), (0x11722, 0x00008), (0x11726, 0x00080), (0x11727, 0x00008), (0x1172B, 0x10008),
  (0x1172C, 0x20000), (0x1182C, 0x00080), (0x1182F, 0x00008), (0x11838, 0x00080), (0x11839, 0x10008),
  (0x1183B, 0x20000), (0x11930, 0x00008), (0x11931, 0x00080), (0x11936, 0x20000), (0x11937, 0x00080),
  (0x11939, 0x20000), (0x1193B, 0x00008), (0x1193D, 0x00080), (0x1193E, 0x10008), (0x1193F, 0x00040),
  (0x11940, 0x00080)]

def runs18 : List (Nat × Nat) := [
  (0x11941, 0x00040), (0x11942, 0x00080), (0x11943, 0x10008), (0x11944, 0x20000), (0x119D1, 0x00080),
  (0x119D4, 0x00008), (0x119D8, 0x20000), (0x119DA, 0x00008), (0x119DC, 0x00080), (0x119E0, 0x10008),
  (0x119E1, 0x20000), (0x119E4, 0x00080), (0x119E5, 0x20000), (0x11A01, 0x00008), (0x11A0B, 0x20000),
  (0x11A33, 0x00008), (0x11A34, 0x10008), (0x11A35, 0x00008), (0x11A39, 0x00080), (0x11A3A, 0x00040),
  (0x11A3B, 0x00008), (0x11A3F, 0x20000), (0x11A47, 0x10008), (0x11A48, 0x20000), (0x11A51, 0x00008),
  (0x11A57, 0x00080), (0x11A59, 0x00008), (0x11A5C, 0x20000), (0x11A84, 0x00040), (0x11A8A, 0x00008),
  (0x11A97, 0x00080), (0x11A98, 0x00008), (0x11A99, 0x10008), (0x11A9A, 0x20000), (0x11C2F, 0x00080),
  (0x11C30, 0x00008), (0x11C37, 0x20000), (0x11C38, 0x00008), (0x11C3E, 0x00080), (0x11C3F, 0x10008),
  (0x11C40, 0x20000), (0x11C92, 0x00008), (0x11CA8, 0x20000), (0x11CA9, 0x00080), (0x11CAA, 0x00008),
  (0x11CB1, 0x00080), (0x11CB2, 0x00008), (0x11CB4, 0x00080), (0x11CB5, 0x00008), (0x11CB7, 0x20000),
  (0x11D31, 0x00008), (0x11D37, 0x20000), (0x11D3A, 0x00008), (0x11D3B, 0x20000), (0x11D3C, 0x00008),
  (0x11D3E, 0x20000), (0x11D3F, 0x00008), (0x11D42, 0x10008), (0x11D43, 0x00008), (0x11D44, 0x10008),
  (0x11D46, 0x00040), (0x11D47, 0x00008), (0x11D48, 0x20000), (0x11D8A, 0x00080), (0x11D8F, 0x20000),
  (0x11D90, 0x00008), (0x11D92, 0x20000), (0x11D93, 0x00080), (0x11D95, 0x00008), (0x11D96, 0x00080),
  (0x11D97, 0x10008), (0x11D98, 0x20000), (0x11EF3, 0x00008), (0x11EF5, 0x00080), (0x11EF7, 0x20000),
  (0x11F00, 0x00008), (0x11F02, 0x00040), (0x11F03, 0x00080), (0x11F04, 0x20000), (0x11F34, 0x00080),
  (0x11F36, 0x00008), (0x11F3B, 0x20000), (0x11F3E, 0x00080), (0x11F40, 0x00008), (0x11F41, 0x00080),
  (0x11F42, 0x10008), (0x11F43, 0x20000), (0x13430, 0x00004), (0x13440, 0x00008), (0x13441, 0x20000),
  (0x13447, 0x00008), (0x13456, 0x20000), (0x16AF0, 0x10008), (0x16AF5, 0x20000), (0x16B30, 0x10008),
  (0x16B37, 0x20000)]

def runs19 : List (Nat × Nat) := [
  (0x16F4F, 0x00008), (0x16F50, 0x20000), (0x16F51, 0x00080), (0x16F88, 0x20000), (0x16F8F, 0x00008),
  (0x16F93, 0x20000), (0x16FE4, 0x00008), (0x16FE5, 0x20000), (0x16FF0, 0x00080), (0x16FF2, 0x20000),
  (0x1BC9D, 0x00008), (0x1BC9E, 0x10008), (0x1BC9F, 0x20000), (0x1BCA0, 0x00004), (0x1BCA4, 0x20000),
  (0x1CF00, 0x00008), (0x1CF2E, 0x20000), (0x1CF30, 0x00008), (0x1CF47, 0x20000), (0x1D165, 0x10008),
  (0x1D166, 0x00080), (0x1D167, 0x10008), (0x1D16A, 0x20000), (0x1D16D, 0x00080), (0x1D16E, 0x10008),
  (0x1D173, 0x00004), (0x1D17B, 0x10008), (0x1D183, 0x20000), (0x1D185, 0x10008), (0x1D18C, 0x20000),
  (0x1D1AA, 0x10008), (0x1D1AE, 0x20000), (0x1D242, 0x10008), (0x1D245, 0x20000), (0x1DA00, 0x00008),
  (0x1DA37, 0x20000), (0x1DA3B, 0x00008), (0x1DA6D, 0x20000), (0x1DA75, 0x00008), (0x1DA76, 0x20000),
  (0x1DA84, 0x00008), (0x1DA85, 0x20000), (0x1DA9B, 0x00008), (0x1DAA0, 0x20000), (0x1DAA1, 0x00008),
  (0x1DAB0, 0x20000), (0x1E000, 0x10008), (0x1E007, 0x20000), (0x1E008, 0x10008), (0x1E019, 0x20000),
  (0x1E01B, 0x10008), (0x1E022, 0x20000), (0x1E023, 0x10008), (0x1E025, 0x20000), (0x1E026, 0x10008),
  (0x1E02B, 0x20000), (0x1E08F, 0x10008), (0x1E090, 0x20000), (0x1E130, 0x10008), (0x1E137, 0x20000),
  (0x1E2AE, 0x10008), (0x1E2AF, 0x20000), (0x1E2EC, 0x10008), (0x1E2F0, 0x20000), (0x1E4EC, 0x10008),
  (0x1E4F0, 0x20000), (0x1E8D0, 0x10008), (0x1E8D7, 0x20000), (0x1E944, 0x10008), (0x1E94B, 0x20000),
  (0x1F000, 0x02000), (0x1F100, 0x20000), (0x1F10D, 0x02000), (0x1F110, 0x20000), (0x1F12F, 0x02000),
  (0x1F130, 0x20000), (0x1F16C, 0x02000), (0x1F172, 0x20000), (0x1F17E, 0x02000), (0x1F180, 0x20000),
  (0x1F18E, 0x02000), (0x1F18F, 0x20000), (0x1F191, 0x02000), (0x1F19B, 0x20000), (0x1F1AD, 0x02000),
  (0x1F1E6, 0x00020), (0x1F200, 0x20000), (0x1F201, 0x02000), (0x1F210, 0x20000), (0x1F21A, 0x02000),
  (0x1F21B, 0x20000), (0x1F22F, 0x02000), (0x1F230, 0x20000), (0x1F232, 0x02000), (0x1F23B, 0x20000),
  (0x1F23C, 0x02000)]

def runs20 : List (Nat × Nat) := [
  (0x1F240, 0x20000), (0x1F249, 0x02000), (0x1F3FB, 0x00008), (0x1F400, 0x02000), (0x1F53E, 0x20000),
  (0x1F546, 0x02000), (0x1F650, 0x20000), (0x1F680, 0x02000), (0x1F700, 0x20000), (0x1F774, 0x02000),
  (0x1F780, 0x20000), (0x1F7D5, 0x02000), (0x1F800, 0x20000), (0x1F80C, 0x02000), (0x1F810, 0x20000),
  (0x1F848, 0x02000), (0x1F850, 0x20000), (0x1F85A, 0x02000), (0x1F860, 0x20000), (0x1F888, 0x02000),
  (0x1F890, 0x20000), (0x1F8AE, 0x02000), (0x1F900, 0x20000), (0x1F90C, 0x02000), (0x1F93B, 0x20000),
  (0x1F93C, 0x02000), (0x1F946, 0x20000), (0x1F947, 0x02000), (0x1FB00, 0x20000), (0x1FC00, 0x02000),
  (0x1FFFE, 0x20000), (0xE0000, 0x00004), (0xE0020, 0x00008), (0xE0080, 0x00004), (0xE0100, 0x00008),
  (0xE01F0, 0x00004), (0xE1000, 0x20000)]

def runs : List (Nat × Nat) :=
  [runs0, runs1, runs2, runs3, runs4, runs5, runs6, runs7, runs8, runs9, runs10, runs11, runs12,
    runs13, runs14, runs15, runs16, runs17, runs18, runs19, runs20].flatten

end TextBoundary.Unicode.GraphemeData
