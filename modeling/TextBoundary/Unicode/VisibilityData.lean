/-! What code points show on their own, Unicode 17.0. A run extends to the start of the next one; the
masks are those of `Visibility`. -/

namespace TextBoundary.Unicode.VisibilityData

def ascii : List Nat := [
  1, 1, 1, 1, 1, 1, 1, 1, 1, 1, 1, 1, 1, 1, 1, 1,
  1, 1, 1, 1, 1, 1, 1, 1, 1, 1, 1, 1, 1, 1, 1, 1,
  0, 0, 0, 0, 0, 0, 0, 0, 0, 0, 0, 0, 0, 0, 0, 0,
  0, 0, 0, 0, 0, 0, 0, 0, 0, 0, 0, 0, 0, 0, 0, 0,
  0, 0, 0, 0, 0, 0, 0, 0, 0, 0, 0, 0, 0, 0, 0, 0,
  0, 0, 0, 0, 0, 0, 0, 0, 0, 0, 0, 0, 0, 0, 0, 0,
  0, 0, 0, 0, 0, 0, 0, 0, 0, 0, 0, 0, 0, 0, 0, 0,
  0, 0, 0, 0, 0, 0, 0, 0, 0, 0, 0, 0, 0, 0, 0, 1]

def runs0 : List (Nat × Nat) := [
  (0x0000, 1), (0x0020, 0), (0x007F, 1), (0x00A1, 0), (0x00AD, 5), (0x00AE, 0),
  (0x0300, 2), (0x034F, 6), (0x0350, 2), (0x0370, 0), (0x0378, 1), (0x037A, 0),
  (0x0380, 1), (0x0384, 0), (0x038B, 1), (0x038C, 0), (0x038D, 1), (0x038E, 0),
  (0x03A2, 1), (0x03A3, 0), (0x0483, 2), (0x048A, 0), (0x0530, 1), (0x0531, 0),
  (0x0557, 1), (0x0559, 0), (0x058B, 1), (0x058D, 0), (0x0590, 1), (0x0591, 2),
  (0x05BE, 0), (0x05BF, 2), (0x05C0, 0), (0x05C1, 2), (0x05C3, 0), (0x05C4, 2),
  (0x05C6, 0), (0x05C7, 2), (0x05C8, 1), (0x05D0, 0), (0x05EB, 1), (0x05EF, 0),
  (0x05F5, 1), (0x0606, 0), (0x0610, 2), (0x061B, 0), (0x061C, 5), (0x061D, 0),
  (0x064B, 2), (0x0660, 0), (0x0670, 2), (0x0671, 0), (0x06D6, 2), (0x06DD, 1),
  (0x06DE, 0), (0x06DF, 2), (0x06E5, 0), (0x06E7, 2), (0x06E9, 0), (0x06EA, 2),
  (0x06EE, 0), (0x070E, 1), (0x0710, 0), (0x0711, 2), (0x0712, 0), (0x0730, 2),
  (0x074B, 1), (0x074D, 0), (0x07A6, 2), (0x07B1, 0), (0x07B2, 1), (0x07C0, 0),
  (0x07EB, 2), (0x07F4, 0), (0x07FB, 1), (0x07FD, 2), (0x07FE, 0), (0x0816, 2),
  (0x081A, 0), (0x081B, 2), (0x0824, 0), (0x0825, 2), (0x0828, 0), (0x0829, 2),
  (0x082E, 1), (0x0830, 0), (0x083F, 1), (0x0840, 0), (0x0859, 2), (0x085C, 1),
  (0x085E, 0), (0x085F, 1), (0x0860, 0), (0x086B, 1), (0x0870, 0), (0x0890, 1),
  (0x0897, 2), (0x08A0, 0), (0x08CA, 2), (0x08E2, 1), (0x08E3, 2), (0x0903, 0),
  (0x093A, 2), (0x093B, 0), (0x093C, 2), (0x093D, 0), (0x0941, 2), (0x0949, 0),
  (0x094D, 2), (0x094E, 0), (0x0951, 2), (0x0958, 0), (0x0962, 2), (0x0964, 0),
  (0x0981, 2), (0x0982, 0), (0x0984, 1), (0x0985, 0), (0x098D, 1), (0x098F, 0)]

def runs1 : List (Nat × Nat) := [
  (0x0991, 1), (0x0993, 0), (0x09A9, 1), (0x09AA, 0), (0x09B1, 1), (0x09B2, 0),
  (0x09B3, 1), (0x09B6, 0), (0x09BA, 1), (0x09BC, 2), (0x09BD, 0), (0x09BE, 2),
  (0x09BF, 0), (0x09C1, 2), (0x09C5, 1), (0x09C7, 0), (0x09C9, 1), (0x09CB, 0),
  (0x09CD, 2), (0x09CE, 0), (0x09CF, 1), (0x09D7, 2), (0x09D8, 1), (0x09DC, 0),
  (0x09DE, 1), (0x09DF, 0), (0x09E2, 2), (0x09E4, 1), (0x09E6, 0), (0x09FE, 2),
  (0x09FF, 1), (0x0A01, 2), (0x0A03, 0), (0x0A04, 1), (0x0A05, 0), (0x0A0B, 1),
  (0x0A0F, 0), (0x0A11, 1), (0x0A13, 0), (0x0A29, 1), (0x0A2A, 0), (0x0A31, 1),
  (0x0A32, 0), (0x0A34, 1), (0x0A35, 0), (0x0A37, 1), (0x0A38, 0), (0x0A3A, 1),
  (0x0A3C, 2), (0x0A3D, 1), (0x0A3E, 0), (0x0A41, 2), (0x0A43, 1), (0x0A47, 2),
  (0x0A49, 1), (0x0A4B, 2), (0x0A4E, 1), (0x0A51, 2), (0x0A52, 1), (0x0A59, 0),
  (0x0A5D, 1), (0x0A5E, 0), (0x0A5F, 1), (0x0A66, 0), (0x0A70, 2), (0x0A72, 0),
  (0x0A75, 2), (0x0A76, 0), (0x0A77, 1), (0x0A81, 2), (0x0A83, 0), (0x0A84, 1),
  (0x0A85, 0), (0x0A8E, 1), (0x0A8F, 0), (0x0A92, 1), (0x0A93, 0), (0x0AA9, 1),
  (0x0AAA, 0), (0x0AB1, 1), (0x0AB2, 0), (0x0AB4, 1), (0x0AB5, 0), (0x0ABA, 1),
  (0x0ABC, 2), (0x0ABD, 0), (0x0AC1, 2), (0x0AC6, 1), (0x0AC7, 2), (0x0AC9, 0),
  (0x0ACA, 1), (0x0ACB, 0), (0x0ACD, 2), (0x0ACE, 1), (0x0AD0, 0), (0x0AD1, 1),
  (0x0AE0, 0), (0x0AE2, 2), (0x0AE4, 1), (0x0AE6, 0), (0x0AF2, 1), (0x0AF9, 0),
  (0x0AFA, 2), (0x0B00, 1), (0x0B01, 2), (0x0B02, 0), (0x0B04, 1), (0x0B05, 0),
  (0x0B0D, 1), (0x0B0F, 0), (0x0B11, 1), (0x0B13, 0), (0x0B29, 1), (0x0B2A, 0),
  (0x0B31, 1), (0x0B32, 0), (0x0B34, 1), (0x0B35, 0), (0x0B3A, 1), (0x0B3C, 2)]

def runs2 : List (Nat × Nat) := [
  (0x0B3D, 0), (0x0B3E, 2), (0x0B40, 0), (0x0B41, 2), (0x0B45, 1), (0x0B47, 0),
  (0x0B49, 1), (0x0B4B, 0), (0x0B4D, 2), (0x0B4E, 1), (0x0B55, 2), (0x0B58, 1),
  (0x0B5C, 0), (0x0B5E, 1), (0x0B5F, 0), (0x0B62, 2), (0x0B64, 1), (0x0B66, 0),
  (0x0B78, 1), (0x0B82, 2), (0x0B83, 0), (0x0B84, 1), (0x0B85, 0), (0x0B8B, 1),
  (0x0B8E, 0), (0x0B91, 1), (0x0B92, 0), (0x0B96, 1), (0x0B99, 0), (0x0B9B, 1),
  (0x0B9C, 0), (0x0B9D, 1), (0x0B9E, 0), (0x0BA0, 1), (0x0BA3, 0), (0x0BA5, 1),
  (0x0BA8, 0), (0x0BAB, 1), (0x0BAE, 0), (0x0BBA, 1), (0x0BBE, 2), (0x0BBF, 0),
  (0x0BC0, 2), (0x0BC1, 0), (0x0BC3, 1), (0x0BC6, 0), (0x0BC9, 1), (0x0BCA, 0),
  (0x0BCD, 2), (0x0BCE, 1), (0x0BD0, 0), (0x0BD1, 1), (0x0BD7, 2), (0x0BD8, 1),
  (0x0BE6, 0), (0x0BFB, 1), (0x0C00, 2), (0x0C01, 0), (0x0C04, 2), (0x0C05, 0),
  (0x0C0D, 1), (0x0C0E, 0), (0x0C11, 1), (0x0C12, 0), (0x0C29, 1), (0x0C2A, 0),
  (0x0C3A, 1), (0x0C3C, 2), (0x0C3D, 0), (0x0C3E, 2), (0x0C41, 0), (0x0C45, 1),
  (0x0C46, 2), (0x0C49, 1), (0x0C4A, 2), (0x0C4E, 1), (0x0C55, 2), (0x0C57, 1),
  (0x0C58, 0), (0x0C5B, 1), (0x0C5C, 0), (0x0C5E, 1), (0x0C60, 0), (0x0C62, 2),
  (0x0C64, 1), (0x0C66, 0), (0x0C70, 1), (0x0C77, 0), (0x0C81, 2), (0x0C82, 0),
  (0x0C8D, 1), (0x0C8E, 0), (0x0C91, 1), (0x0C92, 0), (0x0CA9, 1), (0x0CAA, 0),
  (0x0CB4, 1), (0x0CB5, 0), (0x0CBA, 1), (0x0CBC, 2), (0x0CBD, 0), (0x0CBF, 2),
  (0x0CC1, 0), (0x0CC2, 2), (0x0CC3, 0), (0x0CC5, 1), (0x0CC6, 2), (0x0CC9, 1),
  (0x0CCA, 2), (0x0CCE, 1), (0x0CD5, 2), (0x0CD7, 1), (0x0CDC, 0), (0x0CDF, 1),
  (0x0CE0, 0), (0x0CE2, 2), (0x0CE4, 1), (0x0CE6, 0), (0x0CF0, 1), (0x0CF1, 0)]

def runs3 : List (Nat × Nat) := [
  (0x0CF4, 1), (0x0D00, 2), (0x0D02, 0), (0x0D0D, 1), (0x0D0E, 0), (0x0D11, 1),
  (0x0D12, 0), (0x0D3B, 2), (0x0D3D, 0), (0x0D3E, 2), (0x0D3F, 0), (0x0D41, 2),
  (0x0D45, 1), (0x0D46, 0), (0x0D49, 1), (0x0D4A, 0), (0x0D4D, 2), (0x0D4E, 0),
  (0x0D50, 1), (0x0D54, 0), (0x0D57, 2), (0x0D58, 0), (0x0D62, 2), (0x0D64, 1),
  (0x0D66, 0), (0x0D80, 1), (0x0D81, 2), (0x0D82, 0), (0x0D84, 1), (0x0D85, 0),
  (0x0D97, 1), (0x0D9A, 0), (0x0DB2, 1), (0x0DB3, 0), (0x0DBC, 1), (0x0DBD, 0),
  (0x0DBE, 1), (0x0DC0, 0), (0x0DC7, 1), (0x0DCA, 2), (0x0DCB, 1), (0x0DCF, 2),
  (0x0DD0, 0), (0x0DD2, 2), (0x0DD5, 1), (0x0DD6, 2), (0x0DD7, 1), (0x0DD8, 0),
  (0x0DDF, 2), (0x0DE0, 1), (0x0DE6, 0), (0x0DF0, 1), (0x0DF2, 0), (0x0DF5, 1),
  (0x0E01, 0), (0x0E31, 2), (0x0E32, 0), (0x0E34, 2), (0x0E3B, 1), (0x0E3F, 0),
  (0x0E47, 2), (0x0E4F, 0), (0x0E5C, 1), (0x0E81, 0), (0x0E83, 1), (0x0E84, 0),
  (0x0E85, 1), (0x0E86, 0), (0x0E8B, 1), (0x0E8C, 0), (0x0EA4, 1), (0x0EA5, 0),
  (0x0EA6, 1), (0x0EA7, 0), (0x0EB1, 2), (0x0EB2, 0), (0x0EB4, 2), (0x0EBD, 0),
  (0x0EBE, 1), (0x0EC0, 0), (0x0EC5, 1), (0x0EC6, 0), (0x0EC7, 1), (0x0EC8, 2),
  (0x0ECF, 1), (0x0ED0, 0), (0x0EDA, 1), (0x0EDC, 0), (0x0EE0, 1), (0x0F00, 0),
  (0x0F18, 2), (0x0F1A, 0), (0x0F35, 2), (0x0F36, 0), (0x0F37, 2), (0x0F38, 0),
  (0x0F39, 2), (0x0F3A, 0), (0x0F48, 1), (0x0F49, 0), (0x0F6D, 1), (0x0F71, 2),
  (0x0F7F, 0), (0x0F80, 2), (0x0F85, 0), (0x0F86, 2), (0x0F88, 0), (0x0F8D, 2),
  (0x0F98, 1), (0x0F99, 2), (0x0FBD, 1), (0x0FBE, 0), (0x0FC6, 2), (0x0FC7, 0),
  (0x0FCD, 1), (0x0FCE, 0), (0x0FDB, 1), (0x1000, 0), (0x102D, 2), (0x1031, 0)]

def runs4 : List (Nat × Nat) := [
  (0x1032, 2), (0x1038, 0), (0x1039, 2), (0x103B, 0), (0x103D, 2), (0x103F, 0),
  (0x1058, 2), (0x105A, 0), (0x105E, 2), (0x1061, 0), (0x1071, 2), (0x1075, 0),
  (0x1082, 2), (0x1083, 0), (0x1085, 2), (0x1087, 0), (0x108D, 2), (0x108E, 0),
  (0x109D, 2), (0x109E, 0), (0x10C6, 1), (0x10C7, 0), (0x10C8, 1), (0x10CD, 0),
  (0x10CE, 1), (0x10D0, 0), (0x115F, 4), (0x1161, 0), (0x1249, 1), (0x124A, 0),
  (0x124E, 1), (0x1250, 0), (0x1257, 1), (0x1258, 0), (0x1259, 1), (0x125A, 0),
  (0x125E, 1), (0x1260, 0), (0x1289, 1), (0x128A, 0), (0x128E, 1), (0x1290, 0),
  (0x12B1, 1), (0x12B2, 0), (0x12B6, 1), (0x12B8, 0), (0x12BF, 1), (0x12C0, 0),
  (0x12C1, 1), (0x12C2, 0), (0x12C6, 1), (0x12C8, 0), (0x12D7, 1), (0x12D8, 0),
  (0x1311, 1), (0x1312, 0), (0x1316, 1), (0x1318, 0), (0x135B, 1), (0x135D, 2),
  (0x1360, 0), (0x137D, 1), (0x1380, 0), (0x139A, 1), (0x13A0, 0), (0x13F6, 1),
  (0x13F8, 0), (0x13FE, 1), (0x1400, 0), (0x1680, 1), (0x1681, 0), (0x169D, 1),
  (0x16A0, 0), (0x16F9, 1), (0x1700, 0), (0x1712, 2), (0x1716, 1), (0x171F, 0),
  (0x1732, 2), (0x1735, 0), (0x1737, 1), (0x1740, 0), (0x1752, 2), (0x1754, 1),
  (0x1760, 0), (0x176D, 1), (0x176E, 0), (0x1771, 1), (0x1772, 2), (0x1774, 1),
  (0x1780, 0), (0x17B4, 6), (0x17B6, 0), (0x17B7, 2), (0x17BE, 0), (0x17C6, 2),
  (0x17C7, 0), (0x17C9, 2), (0x17D4, 0), (0x17DD, 2), (0x17DE, 1), (0x17E0, 0),
  (0x17EA, 1), (0x17F0, 0), (0x17FA, 1), (0x1800, 0), (0x180B, 6), (0x180E, 5),
  (0x180F, 6), (0x1810, 0), (0x181A, 1), (0x1820, 0), (0x1879, 1), (0x1880, 0),
  (0x1885, 2), (0x1887, 0), (0x18A9, 2), (0x18AA, 0), (0x18AB, 1), (0x18B0, 0)]

def runs5 : List (Nat × Nat) := [
  (0x18F6, 1), (0x1900, 0), (0x191F, 1), (0x1920, 2), (0x1923, 0), (0x1927, 2),
  (0x1929, 0), (0x192C, 1), (0x1930, 0), (0x1932, 2), (0x1933, 0), (0x1939, 2),
  (0x193C, 1), (0x1940, 0), (0x1941, 1), (0x1944, 0), (0x196E, 1), (0x1970, 0),
  (0x1975, 1), (0x1980, 0), (0x19AC, 1), (0x19B0, 0), (0x19CA, 1), (0x19D0, 0),
  (0x19DB, 1), (0x19DE, 0), (0x1A17, 2), (0x1A19, 0), (0x1A1B, 2), (0x1A1C, 1),
  (0x1A1E, 0), (0x1A56, 2), (0x1A57, 0), (0x1A58, 2), (0x1A5F, 1), (0x1A60, 2),
  (0x1A61, 0), (0x1A62, 2), (0x1A63, 0), (0x1A65, 2), (0x1A6D, 0), (0x1A73, 2),
  (0x1A7D, 1), (0x1A7F, 2), (0x1A80, 0), (0x1A8A, 1), (0x1A90, 0), (0x1A9A, 1),
  (0x1AA0, 0), (0x1AAE, 1), (0x1AB0, 2), (0x1ADE, 1), (0x1AE0, 2), (0x1AEC, 1),
  (0x1B00, 2), (0x1B04, 0), (0x1B34, 2), (0x1B3E, 0), (0x1B42, 2), (0x1B45, 0),
  (0x1B4D, 1), (0x1B4E, 0), (0x1B6B, 2), (0x1B74, 0), (0x1B80, 2), (0x1B82, 0),
  (0x1BA2, 2), (0x1BA6, 0), (0x1BA8, 2), (0x1BAE, 0), (0x1BE6, 2), (0x1BE7, 0),
  (0x1BE8, 2), (0x1BEA, 0), (0x1BED, 2), (0x1BEE, 0), (0x1BEF, 2), (0x1BF4, 1),
  (0x1BFC, 0), (0x1C2C, 2), (0x1C34, 0), (0x1C36, 2), (0x1C38, 1), (0x1C3B, 0),
  (0x1C4A, 1), (0x1C4D, 0), (0x1C8B, 1), (0x1C90, 0), (0x1CBB, 1), (0x1CBD, 0),
  (0x1CC8, 1), (0x1CD0, 2), (0x1CD3, 0), (0x1CD4, 2), (0x1CE1, 0), (0x1CE2, 2),
  (0x1CE9, 0), (0x1CED, 2), (0x1CEE, 0), (0x1CF4, 2), (0x1CF5, 0), (0x1CF8, 2),
  (0x1CFA, 0), (0x1CFB, 1), (0x1D00, 0), (0x1DC0, 2), (0x1E00, 0), (0x1F16, 1),
  (0x1F18, 0), (0x1F1E, 1), (0x1F20, 0), (0x1F46, 1), (0x1F48, 0), (0x1F4E, 1),
  (0x1F50, 0), (0x1F58, 1), (0x1F59, 0), (0x1F5A, 1), (0x1F5B, 0), (0x1F5C, 1)]

def runs6 : List (Nat × Nat) := [
  (0x1F5D, 0), (0x1F5E, 1), (0x1F5F, 0), (0x1F7E, 1), (0x1F80, 0), (0x1FB5, 1),
  (0x1FB6, 0), (0x1FC5, 1), (0x1FC6, 0), (0x1FD4, 1), (0x1FD6, 0), (0x1FDC, 1),
  (0x1FDD, 0), (0x1FF0, 1), (0x1FF2, 0), (0x1FF5, 1), (0x1FF6, 0), (0x1FFF, 1),
  (0x200B, 5), (0x2010, 0), (0x2028, 1), (0x202A, 5), (0x202F, 1), (0x2030, 0),
  (0x205F, 1), (0x2060, 5), (0x2070, 0), (0x2072, 1), (0x2074, 0), (0x208F, 1),
  (0x2090, 0), (0x209D, 1), (0x20A0, 0), (0x20C2, 1), (0x20D0, 2), (0x20F1, 1),
  (0x2100, 0), (0x218C, 1), (0x2190, 0), (0x242A, 1), (0x2440, 0), (0x244B, 1),
  (0x2460, 0), (0x2B74, 1), (0x2B76, 0), (0x2CEF, 2), (0x2CF2, 0), (0x2CF4, 1),
  (0x2CF9, 0), (0x2D26, 1), (0x2D27, 0), (0x2D28, 1), (0x2D2D, 0), (0x2D2E, 1),
  (0x2D30, 0), (0x2D68, 1), (0x2D6F, 0), (0x2D71, 1), (0x2D7F, 2), (0x2D80, 0),
  (0x2D97, 1), (0x2DA0, 0), (0x2DA7, 1), (0x2DA8, 0), (0x2DAF, 1), (0x2DB0, 0),
  (0x2DB7, 1), (0x2DB8, 0), (0x2DBF, 1), (0x2DC0, 0), (0x2DC7, 1), (0x2DC8, 0),
  (0x2DCF, 1), (0x2DD0, 0), (0x2DD7, 1), (0x2DD8, 0), (0x2DDF, 1), (0x2DE0, 2),
  (0x2E00, 0), (0x2E5E, 1), (0x2E80, 0), (0x2E9A, 1), (0x2E9B, 0), (0x2EF4, 1),
  (0x2F00, 0), (0x2FD6, 1), (0x2FF0, 0), (0x3000, 1), (0x3001, 0), (0x302A, 2),
  (0x3030, 0), (0x3040, 1), (0x3041, 0), (0x3097, 1), (0x3099, 2), (0x309B, 0),
  (0x3100, 1), (0x3105, 0), (0x3130, 1), (0x3131, 0), (0x3164, 4), (0x3165, 0),
  (0x318F, 1), (0x3190, 0), (0x31E6, 1), (0x31EF, 0), (0x321F, 1), (0x3220, 0),
  (0xA48D, 1), (0xA490, 0), (0xA4C7, 1), (0xA4D0, 0), (0xA62C, 1), (0xA640, 0),
  (0xA66F, 2), (0xA673, 0), (0xA674, 2), (0xA67E, 0), (0xA69E, 2), (0xA6A0, 0)]

def runs7 : List (Nat × Nat) := [
  (0xA6F0, 2), (0xA6F2, 0), (0xA6F8, 1), (0xA700, 0), (0xA7DD, 1), (0xA7F1, 0),
  (0xA802, 2), (0xA803, 0), (0xA806, 2), (0xA807, 0), (0xA80B, 2), (0xA80C, 0),
  (0xA825, 2), (0xA827, 0), (0xA82C, 2), (0xA82D, 1), (0xA830, 0), (0xA83A, 1),
  (0xA840, 0), (0xA878, 1), (0xA880, 0), (0xA8C4, 2), (0xA8C6, 1), (0xA8CE, 0),
  (0xA8DA, 1), (0xA8E0, 2), (0xA8F2, 0), (0xA8FF, 2), (0xA900, 0), (0xA926, 2),
  (0xA92E, 0), (0xA947, 2), (0xA952, 0), (0xA953, 2), (0xA954, 1), (0xA95F, 0),
  (0xA97D, 1), (0xA980, 2), (0xA983, 0), (0xA9B3, 2), (0xA9B4, 0), (0xA9B6, 2),
  (0xA9BA, 0), (0xA9BC, 2), (0xA9BE, 0), (0xA9C0, 2), (0xA9C1, 0), (0xA9CE, 1),
  (0xA9CF, 0), (0xA9DA, 1), (0xA9DE, 0), (0xA9E5, 2), (0xA9E6, 0), (0xA9FF, 1),
  (0xAA00, 0), (0xAA29, 2), (0xAA2F, 0), (0xAA31, 2), (0xAA33, 0), (0xAA35, 2),
  (0xAA37, 1), (0xAA40, 0), (0xAA43, 2), (0xAA44, 0), (0xAA4C, 2), (0xAA4D, 0),
  (0xAA4E, 1), (0xAA50, 0), (0xAA5A, 1), (0xAA5C, 0), (0xAA7C, 2), (0xAA7D, 0),
  (0xAAB0, 2), (0xAAB1, 0), (0xAAB2, 2), (0xAAB5, 0), (0xAAB7, 2), (0xAAB9, 0),
  (0xAABE, 2), (0xAAC0, 0), (0xAAC1, 2), (0xAAC2, 0), (0xAAC3, 1), (0xAADB, 0),
  (0xAAEC, 2), (0xAAEE, 0), (0xAAF6, 2), (0xAAF7, 1), (0xAB01, 0), (0xAB07, 1),
  (0xAB09, 0), (0xAB0F, 1), (0xAB11, 0), (0xAB17, 1), (0xAB20, 0), (0xAB27, 1),
  (0xAB28, 0), (0xAB2F, 1), (0xAB30, 0), (0xAB6C, 1), (0xAB70, 0), (0xABE5, 2),
  (0xABE6, 0), (0xABE8, 2), (0xABE9, 0), (0xABED, 2), (0xABEE, 1), (0xABF0, 0),
  (0xABFA, 1), (0xAC00, 0), (0xD7A4, 1), (0xD7B0, 0), (0xD7C7, 1), (0xD7CB, 0),
  (0xD7FC, 1), (0xF900, 0), (0xFA6E, 1), (0xFA70, 0), (0xFADA, 1), (0xFB00, 0)]

def runs8 : List (Nat × Nat) := [
  (0xFB07, 1), (0xFB13, 0), (0xFB18, 1), (0xFB1D, 0), (0xFB1E, 2), (0xFB1F, 0),
  (0xFB37, 1), (0xFB38, 0), (0xFB3D, 1), (0xFB3E, 0), (0xFB3F, 1), (0xFB40, 0),
  (0xFB42, 1), (0xFB43, 0), (0xFB45, 1), (0xFB46, 0), (0xFDD0, 1), (0xFDF0, 0),
  (0xFE00, 6), (0xFE10, 0), (0xFE1A, 1), (0xFE20, 2), (0xFE30, 0), (0xFE53, 1),
  (0xFE54, 0), (0xFE67, 1), (0xFE68, 0), (0xFE6C, 1), (0xFE70, 0), (0xFE75, 1),
  (0xFE76, 0), (0xFEFD, 1), (0xFEFF, 5), (0xFF00, 1), (0xFF01, 0), (0xFFA0, 4),
  (0xFFA1, 0), (0xFFBF, 1), (0xFFC2, 0), (0xFFC8, 1), (0xFFCA, 0), (0xFFD0, 1),
  (0xFFD2, 0), (0xFFD8, 1), (0xFFDA, 0), (0xFFDD, 1), (0xFFE0, 0), (0xFFE7, 1),
  (0xFFE8, 0), (0xFFEF, 1), (0xFFF0, 5), (0xFFF9, 1), (0xFFFC, 0), (0xFFFE, 1),
  (0x10000, 0), (0x1000C, 1), (0x1000D, 0), (0x10027, 1), (0x10028, 0), (0x1003B, 1),
  (0x1003C, 0), (0x1003E, 1), (0x1003F, 0), (0x1004E, 1), (0x10050, 0), (0x1005E, 1),
  (0x10080, 0), (0x100FB, 1), (0x10100, 0), (0x10103, 1), (0x10107, 0), (0x10134, 1),
  (0x10137, 0), (0x1018F, 1), (0x10190, 0), (0x1019D, 1), (0x101A0, 0), (0x101A1, 1),
  (0x101D0, 0), (0x101FD, 2), (0x101FE, 1), (0x10280, 0), (0x1029D, 1), (0x102A0, 0),
  (0x102D1, 1), (0x102E0, 2), (0x102E1, 0), (0x102FC, 1), (0x10300, 0), (0x10324, 1),
  (0x1032D, 0), (0x1034B, 1), (0x10350, 0), (0x10376, 2), (0x1037B, 1), (0x10380, 0),
  (0x1039E, 1), (0x1039F, 0), (0x103C4, 1), (0x103C8, 0), (0x103D6, 1), (0x10400, 0),
  (0x1049E, 1), (0x104A0, 0), (0x104AA, 1), (0x104B0, 0), (0x104D4, 1), (0x104D8, 0),
  (0x104FC, 1), (0x10500, 0), (0x10528, 1), (0x10530, 0), (0x10564, 1), (0x1056F, 0),
  (0x1057B, 1), (0x1057C, 0), (0x1058B, 1), (0x1058C, 0), (0x10593, 1), (0x10594, 0)]

def runs9 : List (Nat × Nat) := [
  (0x10596, 1), (0x10597, 0), (0x105A2, 1), (0x105A3, 0), (0x105B2, 1), (0x105B3, 0),
  (0x105BA, 1), (0x105BB, 0), (0x105BD, 1), (0x105C0, 0), (0x105F4, 1), (0x10600, 0),
  (0x10737, 1), (0x10740, 0), (0x10756, 1), (0x10760, 0), (0x10768, 1), (0x10780, 0),
  (0x10786, 1), (0x10787, 0), (0x107B1, 1), (0x107B2, 0), (0x107BB, 1), (0x10800, 0),
  (0x10806, 1), (0x10808, 0), (0x10809, 1), (0x1080A, 0), (0x10836, 1), (0x10837, 0),
  (0x10839, 1), (0x1083C, 0), (0x1083D, 1), (0x1083F, 0), (0x10856, 1), (0x10857, 0),
  (0x1089F, 1), (0x108A7, 0), (0x108B0, 1), (0x108E0, 0), (0x108F3, 1), (0x108F4, 0),
  (0x108F6, 1), (0x108FB, 0), (0x1091C, 1), (0x1091F, 0), (0x1093A, 1), (0x1093F, 0),
  (0x1095A, 1), (0x10980, 0), (0x109B8, 1), (0x109BC, 0), (0x109D0, 1), (0x109D2, 0),
  (0x10A01, 2), (0x10A04, 1), (0x10A05, 2), (0x10A07, 1), (0x10A0C, 2), (0x10A10, 0),
  (0x10A14, 1), (0x10A15, 0), (0x10A18, 1), (0x10A19, 0), (0x10A36, 1), (0x10A38, 2),
  (0x10A3B, 1), (0x10A3F, 2), (0x10A40, 0), (0x10A49, 1), (0x10A50, 0), (0x10A59, 1),
  (0x10A60, 0), (0x10AA0, 1), (0x10AC0, 0), (0x10AE5, 2), (0x10AE7, 1), (0x10AEB, 0),
  (0x10AF7, 1), (0x10B00, 0), (0x10B36, 1), (0x10B39, 0), (0x10B56, 1), (0x10B58, 0),
  (0x10B73, 1), (0x10B78, 0), (0x10B92, 1), (0x10B99, 0), (0x10B9D, 1), (0x10BA9, 0),
  (0x10BB0, 1), (0x10C00, 0), (0x10C49, 1), (0x10C80, 0), (0x10CB3, 1), (0x10CC0, 0),
  (0x10CF3, 1), (0x10CFA, 0), (0x10D24, 2), (0x10D28, 1), (0x10D30, 0), (0x10D3A, 1),
  (0x10D40, 0), (0x10D66, 1), (0x10D69, 2), (0x10D6E, 0), (0x10D86, 1), (0x10D8E, 0),
  (0x10D90, 1), (0x10E60, 0), (0x10E7F, 1), (0x10E80, 0), (0x10EAA, 1), (0x10EAB, 2),
  (0x10EAD, 0), (0x10EAE, 1), (0x10EB0, 0), (0x10EB2, 1), (0x10EC2, 0), (0x10EC8, 1)]

def runs10 : List (Nat × Nat) := [
  (0x10ED0, 0), (0x10ED9, 1), (0x10EFA, 2), (0x10F00, 0), (0x10F28, 1), (0x10F30, 0),
  (0x10F46, 2), (0x10F51, 0), (0x10F5A, 1), (0x10F70, 0), (0x10F82, 2), (0x10F86, 0),
  (0x10F8A, 1), (0x10FB0, 0), (0x10FCC, 1), (0x10FE0, 0), (0x10FF7, 1), (0x11000, 0),
  (0x11001, 2), (0x11002, 0), (0x11038, 2), (0x11047, 0), (0x1104E, 1), (0x11052, 0),
  (0x11070, 2), (0x11071, 0), (0x11073, 2), (0x11075, 0), (0x11076, 1), (0x1107F, 2),
  (0x11082, 0), (0x110B3, 2), (0x110B7, 0), (0x110B9, 2), (0x110BB, 0), (0x110BD, 1),
  (0x110BE, 0), (0x110C2, 2), (0x110C3, 1), (0x110D0, 0), (0x110E9, 1), (0x110F0, 0),
  (0x110FA, 1), (0x11100, 2), (0x11103, 0), (0x11127, 2), (0x1112C, 0), (0x1112D, 2),
  (0x11135, 1), (0x11136, 0), (0x11148, 1), (0x11150, 0), (0x11173, 2), (0x11174, 0),
  (0x11177, 1), (0x11180, 2), (0x11182, 0), (0x111B6, 2), (0x111BF, 0), (0x111C0, 2),
  (0x111C1, 0), (0x111C9, 2), (0x111CD, 0), (0x111CF, 2), (0x111D0, 0), (0x111E0, 1),
  (0x111E1, 0), (0x111F5, 1), (0x11200, 0), (0x11212, 1), (0x11213, 0), (0x1122F, 2),
  (0x11232, 0), (0x11234, 2), (0x11238, 0), (0x1123E, 2), (0x1123F, 0), (0x11241, 2),
  (0x11242, 1), (0x11280, 0), (0x11287, 1), (0x11288, 0), (0x11289, 1), (0x1128A, 0),
  (0x1128E, 1), (0x1128F, 0), (0x1129E, 1), (0x1129F, 0), (0x112AA, 1), (0x112B0, 0),
  (0x112DF, 2), (0x112E0, 0), (0x112E3, 2), (0x112EB, 1), (0x112F0, 0), (0x112FA, 1),
  (0x11300, 2), (0x11302, 0), (0x11304, 1), (0x11305, 0), (0x1130D, 1), (0x1130F, 0),
  (0x11311, 1), (0x11313, 0), (0x11329, 1), (0x1132A, 0), (0x11331, 1), (0x11332, 0),
  (0x11334, 1), (0x11335, 0), (0x1133A, 1), (0x1133B, 2), (0x1133D, 0), (0x1133E, 2),
  (0x1133F, 0), (0x11340, 2), (0x11341, 0), (0x11345, 1), (0x11347, 0), (0x11349, 1)]

def runs11 : List (Nat × Nat) := [
  (0x1134B, 0), (0x1134D, 2), (0x1134E, 1), (0x11350, 0), (0x11351, 1), (0x11357, 2),
  (0x11358, 1), (0x1135D, 0), (0x11364, 1), (0x11366, 2), (0x1136D, 1), (0x11370, 2),
  (0x11375, 1), (0x11380, 0), (0x1138A, 1), (0x1138B, 0), (0x1138C, 1), (0x1138E, 0),
  (0x1138F, 1), (0x11390, 0), (0x113B6, 1), (0x113B7, 0), (0x113B8, 2), (0x113B9, 0),
  (0x113BB, 2), (0x113C1, 1), (0x113C2, 2), (0x113C3, 1), (0x113C5, 2), (0x113C6, 1),
  (0x113C7, 2), (0x113CA, 0), (0x113CB, 1), (0x113CC, 0), (0x113CE, 2), (0x113D1, 0),
  (0x113D2, 2), (0x113D3, 0), (0x113D6, 1), (0x113D7, 0), (0x113D9, 1), (0x113E1, 2),
  (0x113E3, 1), (0x11400, 0), (0x11438, 2), (0x11440, 0), (0x11442, 2), (0x11445, 0),
  (0x11446, 2), (0x11447, 0), (0x1145C, 1), (0x1145D, 0), (0x1145E, 2), (0x1145F, 0),
  (0x11462, 1), (0x11480, 0), (0x114B0, 2), (0x114B1, 0), (0x114B3, 2), (0x114B9, 0),
  (0x114BA, 2), (0x114BB, 0), (0x114BD, 2), (0x114BE, 0), (0x114BF, 2), (0x114C1, 0),
  (0x114C2, 2), (0x114C4, 0), (0x114C8, 1), (0x114D0, 0), (0x114DA, 1), (0x11580, 0),
  (0x115AF, 2), (0x115B0, 0), (0x115B2, 2), (0x115B6, 1), (0x115B8, 0), (0x115BC, 2),
  (0x115BE, 0), (0x115BF, 2), (0x115C1, 0), (0x115DC, 2), (0x115DE, 1), (0x11600, 0),
  (0x11633, 2), (0x1163B, 0), (0x1163D, 2), (0x1163E, 0), (0x1163F, 2), (0x11641, 0),
  (0x11645, 1), (0x11650, 0), (0x1165A, 1), (0x11660, 0), (0x1166D, 1), (0x11680, 0),
  (0x116AB, 2), (0x116AC, 0), (0x116AD, 2), (0x116AE, 0), (0x116B0, 2), (0x116B8, 0),
  (0x116BA, 1), (0x116C0, 0), (0x116CA, 1), (0x116D0, 0), (0x116E4, 1), (0x11700, 0),
  (0x1171B, 1), (0x1171D, 2), (0x1171E, 0), (0x1171F, 2), (0x11720, 0), (0x11722, 2),
  (0x11726, 0), (0x11727, 2), (0x1172C, 1), (0x11730, 0), (0x11747, 1), (0x11800, 0)]

def runs12 : List (Nat × Nat) := [
  (0x1182F, 2), (0x11838, 0), (0x11839, 2), (0x1183B, 0), (0x1183C, 1), (0x118A0, 0),
  (0x118F3, 1), (0x118FF, 0), (0x11907, 1), (0x11909, 0), (0x1190A, 1), (0x1190C, 0),
  (0x11914, 1), (0x11915, 0), (0x11917, 1), (0x11918, 0), (0x11930, 2), (0x11931, 0),
  (0x11936, 1), (0x11937, 0), (0x11939, 1), (0x1193B, 2), (0x1193F, 0), (0x11943, 2),
  (0x11944, 0), (0x11947, 1), (0x11950, 0), (0x1195A, 1), (0x119A0, 0), (0x119A8, 1),
  (0x119AA, 0), (0x119D4, 2), (0x119D8, 1), (0x119DA, 2), (0x119DC, 0), (0x119E0, 2),
  (0x119E1, 0), (0x119E5, 1), (0x11A00, 0), (0x11A01, 2), (0x11A0B, 0), (0x11A33, 2),
  (0x11A39, 0), (0x11A3B, 2), (0x11A3F, 0), (0x11A47, 2), (0x11A48, 1), (0x11A50, 0),
  (0x11A51, 2), (0x11A57, 0), (0x11A59, 2), (0x11A5C, 0), (0x11A8A, 2), (0x11A97, 0),
  (0x11A98, 2), (0x11A9A, 0), (0x11AA3, 1), (0x11AB0, 0), (0x11AF9, 1), (0x11B00, 0),
  (0x11B0A, 1), (0x11B60, 2), (0x11B61, 0), (0x11B62, 2), (0x11B65, 0), (0x11B66, 2),
  (0x11B67, 0), (0x11B68, 1), (0x11BC0, 0), (0x11BE2, 1), (0x11BF0, 0), (0x11BFA, 1),
  (0x11C00, 0), (0x11C09, 1), (0x11C0A, 0), (0x11C30, 2), (0x11C37, 1), (0x11C38, 2),
  (0x11C3E, 0), (0x11C3F, 2), (0x11C40, 0), (0x11C46, 1), (0x11C50, 0), (0x11C6D, 1),
  (0x11C70, 0), (0x11C90, 1), (0x11C92, 2), (0x11CA8, 1), (0x11CA9, 0), (0x11CAA, 2),
  (0x11CB1, 0), (0x11CB2, 2), (0x11CB4, 0), (0x11CB5, 2), (0x11CB7, 1), (0x11D00, 0),
  (0x11D07, 1), (0x11D08, 0), (0x11D0A, 1), (0x11D0B, 0), (0x11D31, 2), (0x11D37, 1),
  (0x11D3A, 2), (0x11D3B, 1), (0x11D3C, 2), (0x11D3E, 1), (0x11D3F, 2), (0x11D46, 0),
  (0x11D47, 2), (0x11D48, 1), (0x11D50, 0), (0x11D5A, 1), (0x11D60, 0), (0x11D66, 1),
  (0x11D67, 0), (0x11D69, 1), (0x11D6A, 0), (0x11D8F, 1), (0x11D90, 2), (0x11D92, 1)]

def runs13 : List (Nat × Nat) := [
  (0x11D93, 0), (0x11D95, 2), (0x11D96, 0), (0x11D97, 2), (0x11D98, 0), (0x11D99, 1),
  (0x11DA0, 0), (0x11DAA, 1), (0x11DB0, 0), (0x11DDC, 1), (0x11DE0, 0), (0x11DEA, 1),
  (0x11EE0, 0), (0x11EF3, 2), (0x11EF5, 0), (0x11EF9, 1), (0x11F00, 2), (0x11F02, 0),
  (0x11F11, 1), (0x11F12, 0), (0x11F36, 2), (0x11F3B, 1), (0x11F3E, 0), (0x11F40, 2),
  (0x11F43, 0), (0x11F5A, 2), (0x11F5B, 1), (0x11FB0, 0), (0x11FB1, 1), (0x11FC0, 0),
  (0x11FF2, 1), (0x11FFF, 0), (0x1239A, 1), (0x12400, 0), (0x1246F, 1), (0x12470, 0),
  (0x12475, 1), (0x12480, 0), (0x12544, 1), (0x12F90, 0), (0x12FF3, 1), (0x13000, 0),
  (0x13430, 1), (0x13440, 2), (0x13441, 0), (0x13447, 2), (0x13456, 1), (0x13460, 0),
  (0x143FB, 1), (0x14400, 0), (0x14647, 1), (0x16100, 0), (0x1611E, 2), (0x1612A, 0),
  (0x1612D, 2), (0x16130, 0), (0x1613A, 1), (0x16800, 0), (0x16A39, 1), (0x16A40, 0),
  (0x16A5F, 1), (0x16A60, 0), (0x16A6A, 1), (0x16A6E, 0), (0x16ABF, 1), (0x16AC0, 0),
  (0x16ACA, 1), (0x16AD0, 0), (0x16AEE, 1), (0x16AF0, 2), (0x16AF5, 0), (0x16AF6, 1),
  (0x16B00, 0), (0x16B30, 2), (0x16B37, 0), (0x16B46, 1), (0x16B50, 0), (0x16B5A, 1),
  (0x16B5B, 0), (0x16B62, 1), (0x16B63, 0), (0x16B78, 1), (0x16B7D, 0), (0x16B90, 1),
  (0x16D40, 0), (0x16D7A, 1), (0x16E40, 0), (0x16E9B, 1), (0x16EA0, 0), (0x16EB9, 1),
  (0x16EBB, 0), (0x16ED4, 1), (0x16F00, 0), (0x16F4B, 1), (0x16F4F, 2), (0x16F50, 0),
  (0x16F88, 1), (0x16F8F, 2), (0x16F93, 0), (0x16FA0, 1), (0x16FE0, 0), (0x16FE4, 2),
  (0x16FE5, 1), (0x16FF0, 2), (0x16FF2, 0), (0x16FF7, 1), (0x17000, 0), (0x18CD6, 1),
  (0x18CFF, 0), (0x18D1F, 1), (0x18D80, 0), (0x18DF3, 1), (0x1AFF0, 0), (0x1AFF4, 1),
  (0x1AFF5, 0), (0x1AFFC, 1), (0x1AFFD, 0), (0x1AFFF, 1), (0x1B000, 0), (0x1B123, 1)]

def runs14 : List (Nat × Nat) := [
  (0x1B132, 0), (0x1B133, 1), (0x1B150, 0), (0x1B153, 1), (0x1B155, 0), (0x1B156, 1),
  (0x1B164, 0), (0x1B168, 1), (0x1B170, 0), (0x1B2FC, 1), (0x1BC00, 0), (0x1BC6B, 1),
  (0x1BC70, 0), (0x1BC7D, 1), (0x1BC80, 0), (0x1BC89, 1), (0x1BC90, 0), (0x1BC9A, 1),
  (0x1BC9C, 0), (0x1BC9D, 2), (0x1BC9F, 0), (0x1BCA0, 5), (0x1BCA4, 1), (0x1CC00, 0),
  (0x1CCFD, 1), (0x1CD00, 0), (0x1CEB4, 1), (0x1CEBA, 0), (0x1CED1, 1), (0x1CEE0, 0),
  (0x1CEF1, 1), (0x1CF00, 2), (0x1CF2E, 1), (0x1CF30, 2), (0x1CF47, 1), (0x1CF50, 0),
  (0x1CFC4, 1), (0x1D000, 0), (0x1D0F6, 1), (0x1D100, 0), (0x1D127, 1), (0x1D129, 0),
  (0x1D165, 2), (0x1D16A, 0), (0x1D16D, 2), (0x1D173, 5), (0x1D17B, 2), (0x1D183, 0),
  (0x1D185, 2), (0x1D18C, 0), (0x1D1AA, 2), (0x1D1AE, 0), (0x1D1EB, 1), (0x1D200, 0),
  (0x1D242, 2), (0x1D245, 0), (0x1D246, 1), (0x1D2C0, 0), (0x1D2D4, 1), (0x1D2E0, 0),
  (0x1D2F4, 1), (0x1D300, 0), (0x1D357, 1), (0x1D360, 0), (0x1D379, 1), (0x1D400, 0),
  (0x1D455, 1), (0x1D456, 0), (0x1D49D, 1), (0x1D49E, 0), (0x1D4A0, 1), (0x1D4A2, 0),
  (0x1D4A3, 1), (0x1D4A5, 0), (0x1D4A7, 1), (0x1D4A9, 0), (0x1D4AD, 1), (0x1D4AE, 0),
  (0x1D4BA, 1), (0x1D4BB, 0), (0x1D4BC, 1), (0x1D4BD, 0), (0x1D4C4, 1), (0x1D4C5, 0),
  (0x1D506, 1), (0x1D507, 0), (0x1D50B, 1), (0x1D50D, 0), (0x1D515, 1), (0x1D516, 0),
  (0x1D51D, 1), (0x1D51E, 0), (0x1D53A, 1), (0x1D53B, 0), (0x1D53F, 1), (0x1D540, 0),
  (0x1D545, 1), (0x1D546, 0), (0x1D547, 1), (0x1D54A, 0), (0x1D551, 1), (0x1D552, 0),
  (0x1D6A6, 1), (0x1D6A8, 0), (0x1D7CC, 1), (0x1D7CE, 0), (0x1DA00, 2), (0x1DA37, 0),
  (0x1DA3B, 2), (0x1DA6D, 0), (0x1DA75, 2), (0x1DA76, 0), (0x1DA84, 2), (0x1DA85, 0),
  (0x1DA8C, 1), (0x1DA9B, 2), (0x1DAA0, 1), (0x1DAA1, 2), (0x1DAB0, 1), (0x1DF00, 0)]

def runs15 : List (Nat × Nat) := [
  (0x1DF1F, 1), (0x1DF25, 0), (0x1DF2B, 1), (0x1E000, 2), (0x1E007, 1), (0x1E008, 2),
  (0x1E019, 1), (0x1E01B, 2), (0x1E022, 1), (0x1E023, 2), (0x1E025, 1), (0x1E026, 2),
  (0x1E02B, 1), (0x1E030, 0), (0x1E06E, 1), (0x1E08F, 2), (0x1E090, 1), (0x1E100, 0),
  (0x1E12D, 1), (0x1E130, 2), (0x1E137, 0), (0x1E13E, 1), (0x1E140, 0), (0x1E14A, 1),
  (0x1E14E, 0), (0x1E150, 1), (0x1E290, 0), (0x1E2AE, 2), (0x1E2AF, 1), (0x1E2C0, 0),
  (0x1E2EC, 2), (0x1E2F0, 0), (0x1E2FA, 1), (0x1E2FF, 0), (0x1E300, 1), (0x1E4D0, 0),
  (0x1E4EC, 2), (0x1E4F0, 0), (0x1E4FA, 1), (0x1E5D0, 0), (0x1E5EE, 2), (0x1E5F0, 0),
  (0x1E5FB, 1), (0x1E5FF, 0), (0x1E600, 1), (0x1E6C0, 0), (0x1E6DF, 1), (0x1E6E0, 0),
  (0x1E6E3, 2), (0x1E6E4, 0), (0x1E6E6, 2), (0x1E6E7, 0), (0x1E6EE, 2), (0x1E6F0, 0),
  (0x1E6F5, 2), (0x1E6F6, 1), (0x1E6FE, 0), (0x1E700, 1), (0x1E7E0, 0), (0x1E7E7, 1),
  (0x1E7E8, 0), (0x1E7EC, 1), (0x1E7ED, 0), (0x1E7EF, 1), (0x1E7F0, 0), (0x1E7FF, 1),
  (0x1E800, 0), (0x1E8C5, 1), (0x1E8C7, 0), (0x1E8D0, 2), (0x1E8D7, 1), (0x1E900, 0),
  (0x1E944, 2), (0x1E94B, 0), (0x1E94C, 1), (0x1E950, 0), (0x1E95A, 1), (0x1E95E, 0),
  (0x1E960, 1), (0x1EC71, 0), (0x1ECB5, 1), (0x1ED01, 0), (0x1ED3E, 1), (0x1EE00, 0),
  (0x1EE04, 1), (0x1EE05, 0), (0x1EE20, 1), (0x1EE21, 0), (0x1EE23, 1), (0x1EE24, 0),
  (0x1EE25, 1), (0x1EE27, 0), (0x1EE28, 1), (0x1EE29, 0), (0x1EE33, 1), (0x1EE34, 0),
  (0x1EE38, 1), (0x1EE39, 0), (0x1EE3A, 1), (0x1EE3B, 0), (0x1EE3C, 1), (0x1EE42, 0),
  (0x1EE43, 1), (0x1EE47, 0), (0x1EE48, 1), (0x1EE49, 0), (0x1EE4A, 1), (0x1EE4B, 0),
  (0x1EE4C, 1), (0x1EE4D, 0), (0x1EE50, 1), (0x1EE51, 0), (0x1EE53, 1), (0x1EE54, 0),
  (0x1EE55, 1), (0x1EE57, 0), (0x1EE58, 1), (0x1EE59, 0), (0x1EE5A, 1), (0x1EE5B, 0)]

def runs16 : List (Nat × Nat) := [
  (0x1EE5C, 1), (0x1EE5D, 0), (0x1EE5E, 1), (0x1EE5F, 0), (0x1EE60, 1), (0x1EE61, 0),
  (0x1EE63, 1), (0x1EE64, 0), (0x1EE65, 1), (0x1EE67, 0), (0x1EE6B, 1), (0x1EE6C, 0),
  (0x1EE73, 1), (0x1EE74, 0), (0x1EE78, 1), (0x1EE79, 0), (0x1EE7D, 1), (0x1EE7E, 0),
  (0x1EE7F, 1), (0x1EE80, 0), (0x1EE8A, 1), (0x1EE8B, 0), (0x1EE9C, 1), (0x1EEA1, 0),
  (0x1EEA4, 1), (0x1EEA5, 0), (0x1EEAA, 1), (0x1EEAB, 0), (0x1EEBC, 1), (0x1EEF0, 0),
  (0x1EEF2, 1), (0x1F000, 0), (0x1F02C, 1), (0x1F030, 0), (0x1F094, 1), (0x1F0A0, 0),
  (0x1F0AF, 1), (0x1F0B1, 0), (0x1F0C0, 1), (0x1F0C1, 0), (0x1F0D0, 1), (0x1F0D1, 0),
  (0x1F0F6, 1), (0x1F100, 0), (0x1F1AE, 1), (0x1F1E6, 0), (0x1F203, 1), (0x1F210, 0),
  (0x1F23C, 1), (0x1F240, 0), (0x1F249, 1), (0x1F250, 0), (0x1F252, 1), (0x1F260, 0),
  (0x1F266, 1), (0x1F300, 0), (0x1F6D9, 1), (0x1F6DC, 0), (0x1F6ED, 1), (0x1F6F0, 0),
  (0x1F6FD, 1), (0x1F700, 0), (0x1F7DA, 1), (0x1F7E0, 0), (0x1F7EC, 1), (0x1F7F0, 0),
  (0x1F7F1, 1), (0x1F800, 0), (0x1F80C, 1), (0x1F810, 0), (0x1F848, 1), (0x1F850, 0),
  (0x1F85A, 1), (0x1F860, 0), (0x1F888, 1), (0x1F890, 0), (0x1F8AE, 1), (0x1F8B0, 0),
  (0x1F8BC, 1), (0x1F8C0, 0), (0x1F8C2, 1), (0x1F8D0, 0), (0x1F8D9, 1), (0x1F900, 0),
  (0x1FA58, 1), (0x1FA60, 0), (0x1FA6E, 1), (0x1FA70, 0), (0x1FA7D, 1), (0x1FA80, 0),
  (0x1FA8B, 1), (0x1FA8E, 0), (0x1FAC7, 1), (0x1FAC8, 0), (0x1FAC9, 1), (0x1FACD, 0),
  (0x1FADD, 1), (0x1FADF, 0), (0x1FAEB, 1), (0x1FAEF, 0), (0x1FAF9, 1), (0x1FB00, 0),
  (0x1FB93, 1), (0x1FB94, 0), (0x1FBFB, 1), (0x20000, 0), (0x2A6E0, 1), (0x2A700, 0),
  (0x2B81E, 1), (0x2B820, 0), (0x2CEAE, 1), (0x2CEB0, 0), (0x2EBE1, 1), (0x2EBF0, 0),
  (0x2EE5E, 1), (0x2F800, 0), (0x2FA1E, 1), (0x30000, 0), (0x3134B, 1), (0x31350, 0)]

def runs17 : List (Nat × Nat) := [
  (0x3347A, 1), (0xE0000, 5), (0xE0100, 6), (0xE01F0, 5), (0xE1000, 1)]

def runs : List (Nat × Nat) :=
  [runs0, runs1, runs2, runs3, runs4, runs5, runs6, runs7, runs8, runs9, runs10, runs11, runs12,
    runs13, runs14, runs15, runs16, runs17].flatten

end TextBoundary.Unicode.VisibilityData
