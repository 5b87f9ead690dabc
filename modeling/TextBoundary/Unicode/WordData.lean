/-! Word_Break with Extended_Pictographic, Unicode 15.1.
A run extends to the start of the next one; the masks are those of `WordBreak`. -/

namespace TextBoundary.Unicode.WordData

def ascii : List Nat := [
  0x80000, 0x80000, 0x80000, 0x80000, 0x80000, 0x80000, 0x80000, 0x80000,
  0x80000, 0x80000, 0x00002, 0x00004, 0x00004, 0x00001, 0x80000, 0x80000,
  0x80000, 0x80000, 0x80000, 0x80000, 0x80000, 0x80000, 0x80000, 0x80000,
  0x80000, 0x80000, 0x80000, 0x80000, 0x80000, 0x80000, 0x80000, 0x80000,
  0x20000, 0x80000, 0x00800, 0x80000, 0x80000, 0x80000, 0x80000, 0x00400,
  0x80000, 0x80000, 0x80000, 0x80000, 0x04000, 0x80000, 0x01000, 0x80000,
  0x08000, 0x08000, 0x08000, 0x08000, 0x08000, 0x08000, 0x08000, 0x08000,
  0x08000, 0x08000, 0x02000, 0x04000, 0x80000, 0x80000, 0x80000, 0x80000,
  0x80000, 0x00200, 0x00200, 0x00200, 0x00200, 0x00200, 0x00200, 0x00200,
  0x00200, 0x00200, 0x00200, 0x00200, 0x00200, 0x00200, 0x00200, 0x00200,
  0x00200, 0x00200, 0x00200, 0x00200, 0x00200, 0x00200, 0x00200, 0x00200,
  0x00200, 0x00200, 0x00200, 0x80000, 0x80000, 0x80000, 0x80000, 0x10000,
  0x80000, 0x00200, 0x00200, 0x00200, 0x00200, 0x00200, 0x00200, 0x00200,
  0x00200, 0x00200, 0x00200, 0x00200, 0x00200, 0x00200, 0x00200, 0x00200,
  0x00200, 0x00200, 0x00200, 0x00200, 0x00200, 0x00200, 0x00200, 0x00200,
  0x00200, 0x00200, 0x00200, 0x80000, 0x80000, 0x80000, 0x80000, 0x80000]

def runs0 : List (Nat × Nat) := [
  (0x0000, 0x80000), (0x000A, 0x00002), (0x000B, 0x00004), (0x000D, 0x00001), (0x000E, 0x80000),
  (0x0020, 0x20000), (0x0021, 0x80000), (0x0022, 0x00800), (0x0023, 0x80000), (0x0027, 0x00400),
  (0x0028, 0x80000), (0x002C, 0x04000), (0x002D, 0x80000), (0x002E, 0x01000), (0x002F, 0x80000),
  (0x0030, 0x08000), (0x003A, 0x02000), (0x003B, 0x04000), (0x003C, 0x80000), (0x0041, 0x00200),
  (0x005B, 0x80000), (0x005F, 0x10000), (0x0060, 0x80000), (0x0061, 0x00200), (0x007B, 0x80000),
  (0x0085, 0x00004), (0x0086, 0x80000), (0x00A9, 0x40000), (0x00AA, 0x00200), (0x00AB, 0x80000),
  (0x00AD, 0x00040), (0x00AE, 0x40000), (0x00AF, 0x80000), (0x00B5, 0x00200), (0x00B6, 0x80000),
  (0x00B7, 0x02000), (0x00B8, 0x80000), (0x00BA, 0x00200), (0x00BB, 0x80000), (0x00C0, 0x00200),
  (0x00D7, 0x80000), (0x00D8, 0x00200), (0x00F7, 0x80000), (0x00F8, 0x00200), (0x02D8, 0x80000),
  (0x02DE, 0x00200), (0x0300, 0x00008), (0x0370, 0x00200), (0x0375, 0x80000), (0x0376, 0x00200),
  (0x0378, 0x80000), (0x037A, 0x00200), (0x037E, 0x04000), (0x037F, 0x00200), (0x0380, 0x80000),
  (0x0386, 0x00200), (0x0387, 0x02000), (0x0388, 0x00200), (0x038B, 0x80000), (0x038C, 0x00200),
  (0x038D, 0x80000), (0x038E, 0x00200), (0x03A2, 0x80000), (0x03A3, 0x00200), (0x03F6, 0x80000),
  (0x03F7, 0x00200), (0x0482, 0x80000), (0x0483, 0x00008), (0x048A, 0x00200), (0x0530, 0x80000),
  (0x0531, 0x00200), (0x0557, 0x80000), (0x0559, 0x00200), (0x055D, 0x80000), (0x055E, 0x00200),
  (0x055F, 0x02000), (0x0560, 0x00200), (0x0589, 0x04000), (0x058A, 0x00200), (0x058B, 0x80000),
  (0x0591, 0x00008), (0x05BE, 0x80000), (0x05BF, 0x00008), (0x05C0, 0x80000), (0x05C1, 0x00008),
  (0x05C3, 0x80000), (0x05C4, 0x00008), (0x05C6, 0x80000), (0x05C7, 0x00008), (0x05C8, 0x80000),
  (0x05D0, 0x00100), (0x05EB, 0x80000), (0x05EF, 0x00100), (0x05F3, 0x00200), (0x05F4, 0x02000),
  (0x05F5, 0x80000)]

def runs1 : List (Nat × Nat) := [
  (0x0600, 0x08000), (0x0606, 0x80000), (0x060C, 0x04000), (0x060E, 0x80000), (0x0610, 0x00008),
  (0x061B, 0x80000), (0x061C, 0x00040), (0x061D, 0x80000), (0x0620, 0x00200), (0x064B, 0x00008),
  (0x0660, 0x08000), (0x066A, 0x80000), (0x066B, 0x08000), (0x066C, 0x04000), (0x066D, 0x80000),
  (0x066E, 0x00200), (0x0670, 0x00008), (0x0671, 0x00200), (0x06D4, 0x80000), (0x06D5, 0x00200),
  (0x06D6, 0x00008), (0x06DD, 0x08000), (0x06DE, 0x80000), (0x06DF, 0x00008), (0x06E5, 0x00200),
  (0x06E7, 0x00008), (0x06E9, 0x80000), (0x06EA, 0x00008), (0x06EE, 0x00200), (0x06F0, 0x08000),
  (0x06FA, 0x00200), (0x06FD, 0x80000), (0x06FF, 0x00200), (0x0700, 0x80000), (0x070F, 0x00200),
  (0x0711, 0x00008), (0x0712, 0x00200), (0x0730, 0x00008), (0x074B, 0x80000), (0x074D, 0x00200),
  (0x07A6, 0x00008), (0x07B1, 0x00200), (0x07B2, 0x80000), (0x07C0, 0x08000), (0x07CA, 0x00200),
  (0x07EB, 0x00008), (0x07F4, 0x00200), (0x07F6, 0x80000), (0x07F8, 0x04000), (0x07F9, 0x80000),
  (0x07FA, 0x00200), (0x07FB, 0x80000), (0x07FD, 0x00008), (0x07FE, 0x80000), (0x0800, 0x00200),
  (0x0816, 0x00008), (0x081A, 0x00200), (0x081B, 0x00008), (0x0824, 0x00200), (0x0825, 0x00008),
  (0x0828, 0x00200), (0x0829, 0x00008), (0x082E, 0x80000), (0x0840, 0x00200), (0x0859, 0x00008),
  (0x085C, 0x80000), (0x0860, 0x00200), (0x086B, 0x80000), (0x0870, 0x00200), (0x0888, 0x80000),
  (0x0889, 0x00200), (0x088F, 0x80000), (0x0890, 0x08000), (0x0892, 0x80000), (0x0898, 0x00008),
  (0x08A0, 0x00200), (0x08CA, 0x00008), (0x08E2, 0x08000), (0x08E3, 0x00008), (0x0904, 0x00200),
  (0x093A, 0x00008), (0x093D, 0x00200), (0x093E, 0x00008), (0x0950, 0x00200), (0x0951, 0x00008),
  (0x0958, 0x00200), (0x0962, 0x00008), (0x0964, 0x80000), (0x0966, 0x08000), (0x0970, 0x80000),
  (0x0971, 0x00200), (0x0981, 0x00008), (0x0984, 0x80000), (0x0985, 0x00200), (0x098D, 0x80000),
  (0x098F, 0x00200)]

def runs2 : List (Nat × Nat) := [
  (0x0991, 0x80000), (0x0993, 0x00200), (0x09A9, 0x80000), (0x09AA, 0x00200), (0x09B1, 0x80000),
  (0x09B2, 0x00200), (0x09B3, 0x80000), (0x09B6, 0x00200), (0x09BA, 0x80000), (0x09BC, 0x00008),
  (0x09BD, 0x00200), (0x09BE, 0x00008), (0x09C5, 0x80000), (0x09C7, 0x00008), (0x09C9, 0x80000),
  (0x09CB, 0x00008), (0x09CE, 0x00200), (0x09CF, 0x80000), (0x09D7, 0x00008), (0x09D8, 0x80000),
  (0x09DC, 0x00200), (0x09DE, 0x80000), (0x09DF, 0x00200), (0x09E2, 0x00008), (0x09E4, 0x80000),
  (0x09E6, 0x08000), (0x09F0, 0x00200), (0x09F2, 0x80000), (0x09FC, 0x00200), (0x09FD, 0x80000),
  (0x09FE, 0x00008), (0x09FF, 0x80000), (0x0A01, 0x00008), (0x0A04, 0x80000), (0x0A05, 0x00200),
  (0x0A0B, 0x80000), (0x0A0F, 0x00200), (0x0A11, 0x80000), (0x0A13, 0x00200), (0x0A29, 0x80000),
  (0x0A2A, 0x00200), (0x0A31, 0x80000), (0x0A32, 0x00200), (0x0A34, 0x80000), (0x0A35, 0x00200),
  (0x0A37, 0x80000), (0x0A38, 0x00200), (0x0A3A, 0x80000), (0x0A3C, 0x00008), (0x0A3D, 0x80000),
  (0x0A3E, 0x00008), (0x0A43, 0x80000), (0x0A47, 0x00008), (0x0A49, 0x80000), (0x0A4B, 0x00008),
  (0x0A4E, 0x80000), (0x0A51, 0x00008), (0x0A52, 0x80000), (0x0A59, 0x00200), (0x0A5D, 0x80000),
  (0x0A5E, 0x00200), (0x0A5F, 0x80000), (0x0A66, 0x08000), (0x0A70, 0x00008), (0x0A72, 0x00200),
  (0x0A75, 0x00008), (0x0A76, 0x80000), (0x0A81, 0x00008), (0x0A84, 0x80000), (0x0A85, 0x00200),
  (0x0A8E, 0x80000), (0x0A8F, 0x00200), (0x0A92, 0x80000), (0x0A93, 0x00200), (0x0AA9, 0x80000),
  (0x0AAA, 0x00200), (0x0AB1, 0x80000), (0x0AB2, 0x00200), (0x0AB4, 0x80000), (0x0AB5, 0x00200),
  (0x0ABA, 0x80000), (0x0ABC, 0x00008), (0x0ABD, 0x00200), (0x0ABE, 0x00008), (0x0AC6, 0x80000),
  (0x0AC7, 0x00008), (0x0ACA, 0x80000), (0x0ACB, 0x00008), (0x0ACE, 0x80000), (0x0AD0, 0x00200),
  (0x0AD1, 0x80000), (0x0AE0, 0x00200), (0x0AE2, 0x00008), (0x0AE4, 0x80000), (0x0AE6, 0x08000),
  (0x0AF0, 0x80000)]

def runs3 : List (Nat × Nat) := [
  (0x0AF9, 0x00200), (0x0AFA, 0x00008), (0x0B00, 0x80000), (0x0B01, 0x00008), (0x0B04, 0x80000),
  (0x0B05, 0x00200), (0x0B0D, 0x80000), (0x0B0F, 0x00200), (0x0B11, 0x80000), (0x0B13, 0x00200),
  (0x0B29, 0x80000), (0x0B2A, 0x00200), (0x0B31, 0x80000), (0x0B32, 0x00200), (0x0B34, 0x80000),
  (0x0B35, 0x00200), (0x0B3A, 0x80000), (0x0B3C, 0x00008), (0x0B3D, 0x00200), (0x0B3E, 0x00008),
  (0x0B45, 0x80000), (0x0B47, 0x00008), (0x0B49, 0x80000), (0x0B4B, 0x00008), (0x0B4E, 0x80000),
  (0x0B55, 0x00008), (0x0B58, 0x80000), (0x0B5C, 0x00200), (0x0B5E, 0x80000), (0x0B5F, 0x00200),
  (0x0B62, 0x00008), (0x0B64, 0x80000), (0x0B66, 0x08000), (0x0B70, 0x80000), (0x0B71, 0x00200),
  (0x0B72, 0x80000), (0x0B82, 0x00008), (0x0B83, 0x00200), (0x0B84, 0x80000), (0x0B85, 0x00200),
  (0x0B8B, 0x80000), (0x0B8E, 0x00200), (0x0B91, 0x80000), (0x0B92, 0x00200), (0x0B96, 0x80000),
  (0x0B99, 0x00200), (0x0B9B, 0x80000), (0x0B9C, 0x00200), (0x0B9D, 0x80000), (0x0B9E, 0x00200),
  (0x0BA0, 0x80000), (0x0BA3, 0x00200), (0x0BA5, 0x80000), (0x0BA8, 0x00200), (0x0BAB, 0x80000),
  (0x0BAE, 0x00200), (0x0BBA, 0x80000), (0x0BBE, 0x00008), (0x0BC3, 0x80000), (0x0BC6, 0x00008),
  (0x0BC9, 0x80000), (0x0BCA, 0x00008), (0x0BCE, 0x80000), (0x0BD0, 0x00200), (0x0BD1, 0x80000),
  (0x0BD7, 0x00008), (0x0BD8, 0x80000), (0x0BE6, 0x08000), (0x0BF0, 0x80000), (0x0C00, 0x00008),
  (0x0C05, 0x00200), (0x0C0D, 0x80000), (0x0C0E, 0x00200), (0x0C11, 0x80000), (0x0C12, 0x00200),
  (0x0C29, 0x80000), (0x0C2A, 0x00200), (0x0C3A, 0x80000), (0x0C3C, 0x00008), (0x0C3D, 0x00200),
  (0x0C3E, 0x00008), (0x0C45, 0x80000), (0x0C46, 0x00008), (0x0C49, 0x80000), (0x0C4A, 0x00008),
  (0x0C4E, 0x80000), (0x0C55, 0x00008), (0x0C57, 0x80000), (0x0C58, 0x00200), (0x0C5B, 0x80000),
  (0x0C5D, 0x00200), (0x0C5E, 0x80000), (0x0C60, 0x00200), (0x0C62, 0x00008), (0x0C64, 0x80000),
  (0x0C66, 0x08000)]

def runs4 : List (Nat × Nat) := [
  (0x0C70, 0x80000), (0x0C80, 0x00200), (0x0C81, 0x00008), (0x0C84, 0x80000), (0x0C85, 0x00200),
  (0x0C8D, 0x80000), (0x0C8E, 0x00200), (0x0C91, 0x80000), (0x0C92, 0x00200), (0x0CA9, 0x80000),
  (0x0CAA, 0x00200), (0x0CB4, 0x80000), (0x0CB5, 0x00200), (0x0CBA, 0x80000), (0x0CBC, 0x00008),
  (0x0CBD, 0x00200), (0x0CBE, 0x00008), (0x0CC5, 0x80000), (0x0CC6, 0x00008), (0x0CC9, 0x80000),
  (0x0CCA, 0x00008), (0x0CCE, 0x80000), (0x0CD5, 0x00008), (0x0CD7, 0x80000), (0x0CDD, 0x00200),
  (0x0CDF, 0x80000), (0x0CE0, 0x00200), (0x0CE2, 0x00008), (0x0CE4, 0x80000), (0x0CE6, 0x08000),
  (0x0CF0, 0x80000), (0x0CF1, 0x00200), (0x0CF3, 0x00008), (0x0CF4, 0x80000), (0x0D00, 0x00008),
  (0x0D04, 0x00200), (0x0D0D, 0x80000), (0x0D0E, 0x00200), (0x0D11, 0x80000), (0x0D12, 0x00200),
  (0x0D3B, 0x00008), (0x0D3D, 0x00200), (0x0D3E, 0x00008), (0x0D45, 0x80000), (0x0D46, 0x00008),
  (0x0D49, 0x80000), (0x0D4A, 0x00008), (0x0D4E, 0x00200), (0x0D4F, 0x80000), (0x0D54, 0x00200),
  (0x0D57, 0x00008), (0x0D58, 0x80000), (0x0D5F, 0x00200), (0x0D62, 0x00008), (0x0D64, 0x80000),
  (0x0D66, 0x08000), (0x0D70, 0x80000), (0x0D7A, 0x00200), (0x0D80, 0x80000), (0x0D81, 0x00008),
  (0x0D84, 0x80000), (0x0D85, 0x00200), (0x0D97, 0x80000), (0x0D9A, 0x00200), (0x0DB2, 0x80000),
  (0x0DB3, 0x00200), (0x0DBC, 0x80000), (0x0DBD, 0x00200), (0x0DBE, 0x80000), (0x0DC0, 0x00200),
  (0x0DC7, 0x80000), (0x0DCA, 0x00008), (0x0DCB, 0x80000), (0x0DCF, 0x00008), (0x0DD5, 0x80000),
  (0x0DD6, 0x00008), (0x0DD7, 0x80000), (0x0DD8, 0x00008), (0x0DE0, 0x80000), (0x0DE6, 0x08000),
  (0x0DF0, 0x80000), (0x0DF2, 0x00008), (0x0DF4, 0x80000), (0x0E31, 0x00008), (0x0E32, 0x80000),
  (0x0E34, 0x00008), (0x0E3B, 0x80000), (0x0E47, 0x00008), (0x0E4F, 0x80000), (0x0E50, 0x08000),
  (0x0E5A, 0x80000), (0x0EB1, 0x00008), (0x0EB2, 0x80000), (0x0EB4, 0x00008), (0x0EBD, 0x80000),
  (0x0EC8, 0x00008)]

def runs5 : List (Nat × Nat) := [
  (0x0ECF, 0x80000), (0x0ED0, 0x08000), (0x0EDA, 0x80000), (0x0F00, 0x00200), (0x0F01, 0x80000),
  (0x0F18, 0x00008), (0x0F1A, 0x80000), (0x0F20, 0x08000), (0x0F2A, 0x80000), (0x0F35, 0x00008),
  (0x0F36, 0x80000), (0x0F37, 0x00008), (0x0F38, 0x80000), (0x0F39, 0x00008), (0x0F3A, 0x80000),
  (0x0F3E, 0x00008), (0x0F40, 0x00200), (0x0F48, 0x80000), (0x0F49, 0x00200), (0x0F6D, 0x80000),
  (0x0F71, 0x00008), (0x0F85, 0x80000), (0x0F86, 0x00008), (0x0F88, 0x00200), (0x0F8D, 0x00008),
  (0x0F98, 0x80000), (0x0F99, 0x00008), (0x0FBD, 0x80000), (0x0FC6, 0x00008), (0x0FC7, 0x80000),
  (0x102B, 0x00008), (0x103F, 0x80000), (0x1040, 0x08000), (0x104A, 0x80000), (0x1056, 0x00008),
  (0x105A, 0x80000), (0x105E, 0x00008), (0x1061, 0x80000), (0x1062, 0x00008), (0x1065, 0x80000),
  (0x1067, 0x00008), (0x106E, 0x80000), (0x1071, 0x00008), (0x1075, 0x80000), (0x1082, 0x00008),
  (0x108E, 0x80000), (0x108F, 0x00008), (0x1090, 0x08000), (0x109A, 0x00008), (0x109E, 0x80000),
  (0x10A0, 0x00200), (0x10C6, 0x80000), (0x10C7, 0x00200), (0x10C8, 0x80000), (0x10CD, 0x00200),
  (0x10CE, 0x80000), (0x10D0, 0x00200), (0x10FB, 0x80000), (0x10FC, 0x00200), (0x1249, 0x80000),
  (0x124A, 0x00200), (0x124E, 0x80000), (0x1250, 0x00200), (0x1257, 0x80000), (0x1258, 0x00200),
  (0x1259, 0x80000), (0x125A, 0x00200), (0x125E, 0x80000), (0x1260, 0x00200), (0x1289, 0x80000),
  (0x128A, 0x00200), (0x128E, 0x80000), (0x1290, 0x00200), (0x12B1, 0x80000), (0x12B2, 0x00200),
  (0x12B6, 0x80000), (0x12B8, 0x00200), (0x12BF, 0x80000), (0x12C0, 0x00200), (0x12C1, 0x80000),
  (0x12C2, 0x00200), (0x12C6, 0x80000), (0x12C8, 0x00200), (0x12D7, 0x80000), (0x12D8, 0x00200),
  (0x1311, 0x80000), (0x1312, 0x00200), (0x1316, 0x80000), (0x1318, 0x00200), (0x135B, 0x80000),
  (0x135D, 0x00008), (0x1360, 0x80000), (0x1380, 0x00200), (0x1390, 0x80000), (0x13A0, 0x00200),
  (0x13F6, 0x80000)]

def runs6 : List (Nat × Nat) := [
  (0x13F8, 0x00200), (0x13FE, 0x80000), (0x1401, 0x00200), (0x166D, 0x80000), (0x166F, 0x00200),
  (0x1680, 0x20000), (0x1681, 0x00200), (0x169B, 0x80000), (0x16A0, 0x00200), (0x16EB, 0x80000),
  (0x16EE, 0x00200), (0x16F9, 0x80000), (0x1700, 0x00200), (0x1712, 0x00008), (0x1716, 0x80000),
  (0x171F, 0x00200), (0x1732, 0x00008), (0x1735, 0x80000), (0x1740, 0x00200), (0x1752, 0x00008),
  (0x1754, 0x80000), (0x1760, 0x00200), (0x176D, 0x80000), (0x176E, 0x00200), (0x1771, 0x80000),
  (0x1772, 0x00008), (0x1774, 0x80000), (0x17B4, 0x00008), (0x17D4, 0x80000), (0x17DD, 0x00008),
  (0x17DE, 0x80000), (0x17E0, 0x08000), (0x17EA, 0x80000), (0x180B, 0x00008), (0x180E, 0x00040),
  (0x180F, 0x00008), (0x1810, 0x08000), (0x181A, 0x80000), (0x1820, 0x00200), (0x1879, 0x80000),
  (0x1880, 0x00200), (0x1885, 0x00008), (0x1887, 0x00200), (0x18A9, 0x00008), (0x18AA, 0x00200),
  (0x18AB, 0x80000), (0x18B0, 0x00200), (0x18F6, 0x80000), (0x1900, 0x00200), (0x191F, 0x80000),
  (0x1920, 0x00008), (0x192C, 0x80000), (0x1930, 0x00008), (0x193C, 0x80000), (0x1946, 0x08000),
  (0x1950, 0x80000), (0x19D0, 0x08000), (0x19DA, 0x80000), (0x1A00, 0x00200), (0x1A17, 0x00008),
  (0x1A1C, 0x80000), (0x1A55, 0x00008), (0x1A5F, 0x80000), (0x1A60, 0x00008), (0x1A7D, 0x80000),
  (0x1A7F, 0x00008), (0x1A80, 0x08000), (0x1A8A, 0x80000), (0x1A90, 0x08000), (0x1A9A, 0x80000),
  (0x1AB0, 0x00008), (0x1ACF, 0x80000), (0x1B00, 0x00008), (0x1B05, 0x00200), (0x1B34, 0x00008),
  (0x1B45, 0x00200), (0x1B4D, 0x80000), (0x1B50, 0x08000), (0x1B5A, 0x80000), (0x1B6B, 0x00008),
  (0x1B74, 0x80000), (0x1B80, 0x00008), (0x1B83, 0x00200), (0x1BA1, 0x00008), (0x1BAE, 0x00200),
  (0x1BB0, 0x08000), (0x1BBA, 0x00200), (0x1BE6, 0x00008), (0x1BF4, 0x80000), (0x1C00, 0x00200),
  (0x1C24, 0x00008), (0x1C38, 0x80000), (0x1C40, 0x08000), (0x1C4A, 0x80000), (0x1C4D, 0x00200),
  (0x1C50, 0x08000)]

def runs7 : List (Nat × Nat) := [
  (0x1C5A, 0x00200), (0x1C7E, 0x80000), (0x1C80, 0x00200), (0x1C89, 0x80000), (0x1C90, 0x00200),
  (0x1CBB, 0x80000), (0x1CBD, 0x00200), (0x1CC0, 0x80000), (0x1CD0, 0x00008), (0x1CD3, 0x80000),
  (0x1CD4, 0x00008), (0x1CE9, 0x00200), (0x1CED, 0x00008), (0x1CEE, 0x00200), (0x1CF4, 0x00008),
  (0x1CF5, 0x00200), (0x1CF7, 0x00008), (0x1CFA, 0x00200), (0x1CFB, 0x80000), (0x1D00, 0x00200),
  (0x1DC0, 0x00008), (0x1E00, 0x00200), (0x1F16, 0x80000), (0x1F18, 0x00200), (0x1F1E, 0x80000),
  (0x1F20, 0x00200), (0x1F46, 0x80000), (0x1F48, 0x00200), (0x1F4E, 0x80000), (0x1F50, 0x00200),
  (0x1F58, 0x80000), (0x1F59, 0x00200), (0x1F5A, 0x80000), (0x1F5B, 0x00200), (0x1F5C, 0x80000),
  (0x1F5D, 0x00200), (0x1F5E, 0x80000), (0x1F5F, 0x00200), (0x1F7E, 0x80000), (0x1F80, 0x00200),
  (0x1FB5, 0x80000), (0x1FB6, 0x00200), (0x1FBD, 0x80000), (0x1FBE, 0x00200), (0x1FBF, 0x80000),
  (0x1FC2, 0x00200), (0x1FC5, 0x80000), (0x1FC6, 0x00200), (0x1FCD, 0x80000), (0x1FD0, 0x00200),
  (0x1FD4, 0x80000), (0x1FD6, 0x00200), (0x1FDC, 0x80000), (0x1FE0, 0x00200), (0x1FED, 0x80000),
  (0x1FF2, 0x00200), (0x1FF5, 0x80000), (0x1FF6, 0x00200), (0x1FFD, 0x80000), (0x2000, 0x20000),
  (0x2007, 0x80000), (0x2008, 0x20000), (0x200B, 0x80000), (0x200C, 0x00008), (0x200D, 0x00010),
  (0x200E, 0x00040), (0x2010, 0x80000), (0x2018, 0x01000), (0x201A, 0x80000), (0x2024, 0x01000),
  (0x2025, 0x80000), (0x2027, 0x02000), (0x2028, 0x00004), (0x202A, 0x00040), (0x202F, 0x10000),
  (0x2030, 0x80000), (0x203C, 0x40000), (0x203D, 0x80000), (0x203F, 0x10000), (0x2041, 0x80000),
  (0x2044, 0x04000), (0x2045, 0x80000), (0x2049, 0x40000), (0x204A, 0x80000), (0x2054, 0x10000),
  (0x2055, 0x80000), (0x205F, 0x20000), (0x2060, 0x00040), (0x2065, 0x80000), (0x2066, 0x00040),
  (0x2070, 0x80000), (0x2071, 0x00200), (0x2072, 0x80000), (0x207F, 0x00200), (0x2080, 0x80000),
  (0x2090, 0x00200)]

def runs8 : List (Nat × Nat) := [
  (0x209D, 0x80000), (0x20D0, 0x00008), (0x20F1, 0x80000), (0x2102, 0x00200), (0x2103, 0x80000),
  (0x2107, 0x00200), (0x2108, 0x80000), (0x210A, 0x00200), (0x2114, 0x80000), (0x2115, 0x00200),
  (0x2116, 0x80000), (0x2119, 0x00200), (0x211E, 0x80000), (0x2122, 0x40000), (0x2123, 0x80000),
  (0x2124, 0x00200), (0x2125, 0x80000), (0x2126, 0x00200), (0x2127, 0x80000), (0x2128, 0x00200),
  (0x2129, 0x80000), (0x212A, 0x00200), (0x212E, 0x80000), (0x212F, 0x00200), (0x2139, 0x40200),
  (0x213A, 0x80000), (0x213C, 0x00200), (0x2140, 0x80000), (0x2145, 0x00200), (0x214A, 0x80000),
  (0x214E, 0x00200), (0x214F, 0x80000), (0x2160, 0x00200), (0x2189, 0x80000), (0x2194, 0x40000),
  (0x219A, 0x80000), (0x21A9, 0x40000), (0x21AB, 0x80000), (0x231A, 0x40000), (0x231C, 0x80000),
  (0x2328, 0x40000), (0x2329, 0x80000), (0x2388, 0x40000), (0x2389, 0x80000), (0x23CF, 0x40000),
  (0x23D0, 0x80000), (0x23E9, 0x40000), (0x23F4, 0x80000), (0x23F8, 0x40000), (0x23FB, 0x80000),
  (0x24B6, 0x00200), (0x24C2, 0x40200), (0x24C3, 0x00200), (0x24EA, 0x80000), (0x25AA, 0x40000),
  (0x25AC, 0x80000), (0x25B6, 0x40000), (0x25B7, 0x80000), (0x25C0, 0x40000), (0x25C1, 0x80000),
  (0x25FB, 0x40000), (0x25FF, 0x80000), (0x2600, 0x40000), (0x2606, 0x80000), (0x2607, 0x40000),
  (0x2613, 0x80000), (0x2614, 0x40000), (0x2686, 0x80000), (0x2690, 0x40000), (0x2706, 0x80000),
  (0x2708, 0x40000), (0x2713, 0x80000), (0x2714, 0x40000), (0x2715, 0x80000), (0x2716, 0x40000),
  (0x2717, 0x80000), (0x271D, 0x40000), (0x271E, 0x80000), (0x2721, 0x40000), (0x2722, 0x80000),
  (0x2728, 0x40000), (0x2729, 0x80000), (0x2733, 0x40000), (0x2735, 0x80000), (0x2744, 0x40000),
  (0x2745, 0x80000), (0x2747, 0x40000), (0x2748, 0x80000), (0x274C, 0x40000), (0x274D, 0x80000),
  (0x274E, 0x40000), (0x274F, 0x80000), (0x2753, 0x40000), (0x2756, 0x80000), (0x2757, 0x40000),
  (0x2758, 0x80000)]

def runs9 : List (Nat × Nat) := [
  (0x2763, 0x40000), (0x2768, 0x80000), (0x2795, 0x40000), (0x2798, 0x80000), (0x27A1, 0x40000),
  (0x27A2, 0x80000), (0x27B0, 0x40000), (0x27B1, 0x80000), (0x27BF, 0x40000), (0x27C0, 0x80000),
  (0x2934, 0x40000), (0x2936, 0x80000), (0x2B05, 0x40000), (0x2B08, 0x80000), (0x2B1B, 0x40000),
  (0x2B1D, 0x80000), (0x2B50, 0x40000), (0x2B51, 0x80000), (0x2B55, 0x40000), (0x2B56, 0x80000),
  (0x2C00, 0x00200), (0x2CE5, 0x80000), (0x2CEB, 0x00200), (0x2CEF, 0x00008), (0x2CF2, 0x00200),
  (0x2CF4, 0x80000), (0x2D00, 0x00200), (0x2D26, 0x80000), (0x2D27, 0x00200), (0x2D28, 0x80000),
  (0x2D2D, 0x00200), (0x2D2E, 0x80000), (0x2D30, 0x00200), (0x2D68, 0x80000), (0x2D6F, 0x00200),
  (0x2D70, 0x80000), (0x2D7F, 0x00008), (0x2D80, 0x00200), (0x2D97, 0x80000), (0x2DA0, 0x00200),
  (0x2DA7, 0x80000), (0x2DA8, 0x00200), (0x2DAF, 0x80000), (0x2DB0, 0x00200), (0x2DB7, 0x80000),
  (0x2DB8, 0x00200), (0x2DBF, 0x80000), (0x2DC0, 0x00200), (0x2DC7, 0x80000), (0x2DC8, 0x00200),
  (0x2DCF, 0x80000), (0x2DD0, 0x00200), (0x2DD7, 0x80000), (0x2DD8, 0x00200), (0x2DDF, 0x80000),
  (0x2DE0, 0x00008), (0x2E00, 0x80000), (0x2E2F, 0x00200), (0x2E30, 0x80000), (0x3000, 0x20000),
  (0x3001, 0x80000), (0x3005, 0x00200), (0x3006, 0x80000), (0x302A, 0x00008), (0x3030, 0x40000),
  (0x3031, 0x00080), (0x3036, 0x80000), (0x303B, 0x00200), (0x303D, 0x40000), (0x303E, 0x80000),
  (0x3099, 0x00008), (0x309B, 0x00080), (0x309D, 0x80000), (0x30A0, 0x00080), (0x30FB, 0x80000),
  (0x30FC, 0x00080), (0x3100, 0x80000), (0x3105, 0x00200), (0x3130, 0x80000), (0x3131, 0x00200),
  (0x318F, 0x80000), (0x31A0, 0x00200), (0x31C0, 0x80000), (0x31F0, 0x00080), (0x3200, 0x80000),
  (0x3297, 0x40000), (0x3298, 0x80000), (0x3299, 0x40000), (0x329A, 0x80000), (0x32D0, 0x00080),
  (0x32FF, 0x80000), (0x3300, 0x00080), (0x3358, 0x80000), (0xA000, 0x00200), (0xA48D, 0x80000),
  (0xA4D0, 0x00200)]

def runs10 : List (Nat × Nat) := [
  (0xA4FE, 0x80000), (0xA500, 0x00200), (0xA60D, 0x80000), (0xA610, 0x00200), (0xA620, 0x08000),
  (0xA62A, 0x00200), (0xA62C, 0x80000), (0xA640, 0x00200), (0xA66F, 0x00008), (0xA673, 0x80000),
  (0xA674, 0x00008), (0xA67E, 0x80000), (0xA67F, 0x00200), (0xA69E, 0x00008), (0xA6A0, 0x00200),
  (0xA6F0, 0x00008), (0xA6F2, 0x80000), (0xA708, 0x00200), (0xA7CB, 0x80000), (0xA7D0, 0x00200),
  (0xA7D2, 0x80000), (0xA7D3, 0x00200), (0xA7D4, 0x80000), (0xA7D5, 0x00200), (0xA7DA, 0x80000),
  (0xA7F2, 0x00200), (0xA802, 0x00008), (0xA803, 0x00200), (0xA806, 0x00008), (0xA807, 0x00200),
  (0xA80B, 0x00008), (0xA80C, 0x00200), (0xA823, 0x00008), (0xA828, 0x80000), (0xA82C, 0x00008),
  (0xA82D, 0x80000), (0xA840, 0x00200), (0xA874, 0x80000), (0xA880, 0x00008), (0xA882, 0x00200),
  (0xA8B4, 0x00008), (0xA8C6, 0x80000), (0xA8D0, 0x08000), (0xA8DA, 0x80000), (0xA8E0, 0x00008),
  (0xA8F2, 0x00200), (0xA8F8, 0x80000), (0xA8FB, 0x00200), (0xA8FC, 0x80000), (0xA8FD, 0x00200),
  (0xA8FF, 0x00008), (0xA900, 0x08000), (0xA90A, 0x00200), (0xA926, 0x00008), (0xA92E, 0x80000),
  (0xA930, 0x00200), (0xA947, 0x00008), (0xA954, 0x80000), (0xA960, 0x00200), (0xA97D, 0x80000),
  (0xA980, 0x00008), (0xA984, 0x00200), (0xA9B3, 0x00008), (0xA9C1, 0x80000), (0xA9CF, 0x00200),
  (0xA9D0, 0x08000), (0xA9DA, 0x80000), (0xA9E5, 0x00008), (0xA9E6, 0x80000), (0xA9F0, 0x08000),
  (0xA9FA, 0x80000), (0xAA00, 0x00200), (0xAA29, 0x00008), (0xAA37, 0x80000), (0xAA40, 0x00200),
  (0xAA43, 0x00008), (0xAA44, 0x00200), (0xAA4C, 0x00008), (0xAA4E, 0x80000), (0xAA50, 0x08000),
  (0xAA5A, 0x80000), (0xAA7B, 0x00008), (0xAA7E, 0x80000), (0xAAB0, 0x00008), (0xAAB1, 0x80000),
  (0xAAB2, 0x00008), (0xAAB5, 0x80000), (0xAAB7, 0x00008), (0xAAB9, 0x80000), (0xAABE, 0x00008),
  (0xAAC0, 0x80000), (0xAAC1, 0x00008), (0xAAC2, 0x80000), (0xAAE0, 0x00200), (0xAAEB, 0x00008),
  (0xAAF0, 0x80000)]

def runs11 : List (Nat × Nat) := [
  (0xAAF2, 0x00200), (0xAAF5, 0x00008), (0xAAF7, 0x80000), (0xAB01, 0x00200), (0xAB07, 0x80000),
  (0xAB09, 0x00200), (0xAB0F, 0x80000), (0xAB11, 0x00200), (0xAB17, 0x80000), (0xAB20, 0x00200),
  (0xAB27, 0x80000), (0xAB28, 0x00200), (0xAB2F, 0x80000), (0xAB30, 0x00200), (0xAB6A, 0x80000),
  (0xAB70, 0x00200), (0xABE3, 0x00008), (0xABEB, 0x80000), (0xABEC, 0x00008), (0xABEE, 0x80000),
  (0xABF0, 0x08000), (0xABFA, 0x80000), (0xAC00, 0x00200), (0xD7A4, 0x80000), (0xD7B0, 0x00200),
  (0xD7C7, 0x80000), (0xD7CB, 0x00200), (0xD7FC, 0x80000), (0xFB00, 0x00200), (0xFB07, 0x80000),
  (0xFB13, 0x00200), (0xFB18, 0x80000), (0xFB1D, 0x00100), (0xFB1E, 0x00008), (0xFB1F, 0x00100),
  (0xFB29, 0x80000), (0xFB2A, 0x00100), (0xFB37, 0x80000), (0xFB38, 0x00100), (0xFB3D, 0x80000),
  (0xFB3E, 0x00100), (0xFB3F, 0x80000), (0xFB40, 0x00100), (0xFB42, 0x80000), (0xFB43, 0x00100),
  (0xFB45, 0x80000), (0xFB46, 0x00100), (0xFB50, 0x00200), (0xFBB2, 0x80000), (0xFBD3, 0x00200),
  (0xFD3E, 0x80000), (0xFD50, 0x00200), (0xFD90, 0x80000), (0xFD92, 0x00200), (0xFDC8, 0x80000),
  (0xFDF0, 0x00200), (0xFDFC, 0x80000), (0xFE00, 0x00008), (0xFE10, 0x04000), (0xFE11, 0x80000),
  (0xFE13, 0x02000), (0xFE14, 0x04000), (0xFE15, 0x80000), (0xFE20, 0x00008), (0xFE30, 0x80000),
  (0xFE33, 0x10000), (0xFE35, 0x80000), (0xFE4D, 0x10000), (0xFE50, 0x04000), (0xFE51, 0x80000),
  (0xFE52, 0x01000), (0xFE53, 0x80000), (0xFE54, 0x04000), (0xFE55, 0x02000), (0xFE56, 0x80000),
  (0xFE70, 0x00200), (0xFE75, 0x80000), (0xFE76, 0x00200), (0xFEFD, 0x80000), (0xFEFF, 0x00040),
  (0xFF00, 0x80000), (0xFF07, 0x01000), (0xFF08, 0x80000), (0xFF0C, 0x04000), (0xFF0D, 0x80000),
  (0xFF0E, 0x01000), (0xFF0F, 0x80000), (0xFF10, 0x08000), (0xFF1A, 0x02000), (0xFF1B, 0x04000),
  (0xFF1C, 0x80000), (0xFF21, 0x00200), (0xFF3B, 0x80000), (0xFF3F, 0x10000), (0xFF40, 0x80000),
  (0xFF41, 0x00200)]

def runs12 : List (Nat × Nat) := [
  (0xFF5B, 0x80000), (0xFF66, 0x00080), (0xFF9E, 0x00008), (0xFFA0, 0x00200), (0xFFBF, 0x80000),
  (0xFFC2, 0x00200), (0xFFC8, 0x80000), (0xFFCA, 0x00200), (0xFFD0, 0x80000), (0xFFD2, 0x00200),
  (0xFFD8, 0x80000), (0xFFDA, 0x00200), (0xFFDD, 0x80000), (0xFFF9, 0x00040), (0xFFFC, 0x80000),
  (0x10000, 0x00200), (0x1000C, 0x80000), (0x1000D, 0x00200), (0x10027, 0x80000), (0x10028, 0x00200),
  (0x1003B, 0x80000), (0x1003C, 0x00200), (0x1003E, 0x80000), (0x1003F, 0x00200), (0x1004E, 0x80000),
  (0x10050, 0x00200), (0x1005E, 0x80000), (0x10080, 0x00200), (0x100FB, 0x80000), (0x10140, 0x00200),
  (0x10175, 0x80000), (0x101FD, 0x00008), (0x101FE, 0x80000), (0x10280, 0x00200), (0x1029D, 0x80000),
  (0x102A0, 0x00200), (0x102D1, 0x80000), (0x102E0, 0x00008), (0x102E1, 0x80000), (0x10300, 0x00200),
  (0x10320, 0x80000), (0x1032D, 0x00200), (0x1034B, 0x80000), (0x10350, 0x00200), (0x10376, 0x00008),
  (0x1037B, 0x80000), (0x10380, 0x00200), (0x1039E, 0x80000), (0x103A0, 0x00200), (0x103C4, 0x80000),
  (0x103C8, 0x00200), (0x103D0, 0x80000), (0x103D1, 0x00200), (0x103D6, 0x80000), (0x10400, 0x00200),
  (0x1049E, 0x80000), (0x104A0, 0x08000), (0x104AA, 0x80000), (0x104B0, 0x00200), (0x104D4, 0x80000),
  (0x104D8, 0x00200), (0x104FC, 0x80000), (0x10500, 0x00200), (0x10528, 0x80000), (0x10530, 0x00200),
  (0x10564, 0x80000), (0x10570, 0x00200), (0x1057B, 0x80000), (0x1057C, 0x00200), (0x1058B, 0x80000),
  (0x1058C, 0x00200), (0x10593, 0x80000), (0x10594, 0x00200), (0x10596, 0x80000), (0x10597, 0x00200),
  (0x105A2, 0x80000), (0x105A3, 0x00200), (0x105B2, 0x80000), (0x105B3, 0x00200), (0x105BA, 0x80000),
  (0x105BB, 0x00200), (0x105BD, 0x80000), (0x10600, 0x00200), (0x10737, 0x80000), (0x10740, 0x00200),
  (0x10756, 0x80000), (0x10760, 0x00200), (0x10768, 0x80000), (0x10780, 0x00200), (0x10786, 0x80000),
  (0x10787, 0x00200), (0x107B1, 0x80000), (0x107B2, 0x00200), (0x107BB, 0x80000), (0x10800, 0x00200),
  (0x10806, 0x80000)]

def runs13 : List (Nat × Nat) := [
  (0x10808, 0x00200), (0x10809, 0x80000), (0x1080A, 0x00200), (0x10836, 0x80000), (0x10837, 0x00200),
  (0x10839, 0x80000), (0x1083C, 0x00200), (0x1083D, 0x80000), (0x1083F, 0x00200), (0x10856, 0x80000),
  (0x10860, 0x00200), (0x10877, 0x80000), (0x10880, 0x00200), (0x1089F, 0x80000), (0x108E0, 0x00200),
  (0x108F3, 0x80000), (0x108F4, 0x00200), (0x108F6, 0x80000), (0x10900, 0x00200), (0x10916, 0x80000),
  (0x10920, 0x00200), (0x1093A, 0x80000), (0x10980, 0x00200), (0x109B8, 0x80000), (0x109BE, 0x00200),
  (0x109C0, 0x80000), (0x10A00, 0x00200), (0x10A01, 0x00008), (0x10A04, 0x80000), (0x10A05, 0x00008),
  (0x10A07, 0x80000), (0x10A0C, 0x00008), (0x10A10, 0x00200), (0x10A14, 0x80000), (0x10A15, 0x00200),
  (0x10A18, 0x80000), (0x10A19, 0x00200), (0x10A36, 0x80000), (0x10A38, 0x00008), (0x10A3B, 0x80000),
  (0x10A3F, 0x00008), (0x10A40, 0x80000), (0x10A60, 0x00200), (0x10A7D, 0x80000), (0x10A80, 0x00200),
  (0x10A9D, 0x80000), (0x10AC0, 0x00200), (0x10AC8, 0x80000), (0x10AC9, 0x00200), (0x10AE5, 0x00008),
  (0x10AE7, 0x80000), (0x10B00, 0x00200), (0x10B36, 0x80000), (0x10B40, 0x00200), (0x10B56, 0x80000),
  (0x10B60, 0x00200), (0x10B73, 0x80000), (0x10B80, 0x00200), (0x10B92, 0x80000), (0x10C00, 0x00200),
  (0x10C49, 0x80000), (0x10C80, 0x00200), (0x10CB3, 0x80000), (0x10CC0, 0x00200), (0x10CF3, 0x80000),
  (0x10D00, 0x00200), (0x10D24, 0x00008), (0x10D28, 0x80000), (0x10D30, 0x08000), (0x10D3A, 0x80000),
  (0x10E80, 0x00200), (0x10EAA, 0x80000), (0x10EAB, 0x00008), (0x10EAD, 0x80000), (0x10EB0, 0x00200),
  (0x10EB2, 0x80000), (0x10EFD, 0x00008), (0x10F00, 0x00200), (0x10F1D, 0x80000), (0x10F27, 0x00200),
  (0x10F28, 0x80000), (0x10F30, 0x00200), (0x10F46, 0x00008), (0x10F51, 0x80000), (0x10F70, 0x00200),
  (0x10F82, 0x00008), (0x10F86, 0x80000), (0x10FB0, 0x00200), (0x10FC5, 0x80000), (0x10FE0, 0x00200),
  (0x10FF7, 0x80000), (0x11000, 0x00008), (0x11003, 0x00200), (0x11038, 0x00008), (0x11047, 0x80000),
  (0x11066, 0x08000)]

def runs14 : List (Nat × Nat) := [
  (0x11070, 0x00008), (0x11071, 0x00200), (0x11073, 0x00008), (0x11075, 0x00200), (0x11076, 0x80000),
  (0x1107F, 0x00008), (0x11083, 0x00200), (0x110B0, 0x00008), (0x110BB, 0x80000), (0x110BD, 0x08000),
  (0x110BE, 0x80000), (0x110C2, 0x00008), (0x110C3, 0x80000), (0x110CD, 0x08000), (0x110CE, 0x80000),
  (0x110D0, 0x00200), (0x110E9, 0x80000), (0x110F0, 0x08000), (0x110FA, 0x80000), (0x11100, 0x00008),
  (0x11103, 0x00200), (0x11127, 0x00008), (0x11135, 0x80000), (0x11136, 0x08000), (0x11140, 0x80000),
  (0x11144, 0x00200), (0x11145, 0x00008), (0x11147, 0x00200), (0x11148, 0x80000), (0x11150, 0x00200),
  (0x11173, 0x00008), (0x11174, 0x80000), (0x11176, 0x00200), (0x11177, 0x80000), (0x11180, 0x00008),
  (0x11183, 0x00200), (0x111B3, 0x00008), (0x111C1, 0x00200), (0x111C5, 0x80000), (0x111C9, 0x00008),
  (0x111CD, 0x80000), (0x111CE, 0x00008), (0x111D0, 0x08000), (0x111DA, 0x00200), (0x111DB, 0x80000),
  (0x111DC, 0x00200), (0x111DD, 0x80000), (0x11200, 0x00200), (0x11212, 0x80000), (0x11213, 0x00200),
  (0x1122C, 0x00008), (0x11238, 0x80000), (0x1123E, 0x00008), (0x1123F, 0x00200), (0x11241, 0x00008),
  (0x11242, 0x80000), (0x11280, 0x00200), (0x11287, 0x80000), (0x11288, 0x00200), (0x11289, 0x80000),
  (0x1128A, 0x00200), (0x1128E, 0x80000), (0x1128F, 0x00200), (0x1129E, 0x80000), (0x1129F, 0x00200),
  (0x112A9, 0x80000), (0x112B0, 0x00200), (0x112DF, 0x00008), (0x112EB, 0x80000), (0x112F0, 0x08000),
  (0x112FA, 0x80000), (0x11300, 0x00008), (0x11304, 0x80000), (0x11305, 0x00200), (0x1130D, 0x80000),
  (0x1130F, 0x00200), (0x11311, 0x80000), (0x11313, 0x00200), (0x11329, 0x80000), (0x1132A, 0x00200),
  (0x11331, 0x80000), (0x11332, 0x00200), (0x11334, 0x80000), (0x11335, 0x00200), (0x1133A, 0x80000),
  (0x1133B, 0x00008), (0x1133D, 0x00200), (0x1133E, 0x00008), (0x11345, 0x80000), (0x11347, 0x00008),
  (0x11349, 0x80000), (0x1134B, 0x00008), (0x1134E, 0x80000), (0x11350, 0x00200), (0x11351, 0x80000),
  (0x11357, 0x00008)]

def runs15 : List (Nat × Nat) := [
  (0x11358, 0x80000), (0x1135D, 0x00200), (0x11362, 0x00008), (0x11364, 0x80000), (0x11366, 0x00008),
  (0x1136D, 0x80000), (0x11370, 0x00008), (0x11375, 0x80000), (0x11400, 0x00200), (0x11435, 0x00008),
  (0x11447, 0x00200), (0x1144B, 0x80000), (0x11450, 0x08000), (0x1145A, 0x80000), (0x1145E, 0x00008),
  (0x1145F, 0x00200), (0x11462, 0x80000), (0x11480, 0x00200), (0x114B0, 0x00008), (0x114C4, 0x00200),
  (0x114C6, 0x80000), (0x114C7, 0x00200), (0x114C8, 0x80000), (0x114D0, 0x08000), (0x114DA, 0x80000),
  (0x11580, 0x00200), (0x115AF, 0x00008), (0x115B6, 0x80000), (0x115B8, 0x00008), (0x115C1, 0x80000),
  (0x115D8, 0x00200), (0x115DC, 0x00008), (0x115DE, 0x80000), (0x11600, 0x00200), (0x11630, 0x00008),
  (0x11641, 0x80000), (0x11644, 0x00200), (0x11645, 0x80000), (0x11650, 0x08000), (0x1165A, 0x80000),
  (0x11680, 0x00200), (0x116AB, 0x00008), (0x116B8, 0x00200), (0x116B9, 0x80000), (0x116C0, 0x08000),
  (0x116CA, 0x80000), (0x1171D, 0x00008), (0x1172C, 0x80000), (0x11730, 0x08000), (0x1173A, 0x80000),
  (0x11800, 0x00200), (0x1182C, 0x00008), (0x1183B, 0x80000), (0x118A0, 0x00200), (0x118E0, 0x08000),
  (0x118EA, 0x80000), (0x118FF, 0x00200), (0x11907, 0x80000), (0x11909, 0x00200), (0x1190A, 0x80000),
  (0x1190C, 0x00200), (0x11914, 0x80000), (0x11915, 0x00200), (0x11917, 0x80000), (0x11918, 0x00200),
  (0x11930, 0x00008), (0x11936, 0x80000), (0x11937, 0x00008), (0x11939, 0x80000), (0x1193B, 0x00008),
  (0x1193F, 0x00200), (0x11940, 0x00008), (0x11941, 0x00200), (0x11942, 0x00008), (0x11944, 0x80000),
  (0x11950, 0x08000), (0x1195A, 0x80000), (0x119A0, 0x00200), (0x119A8, 0x80000), (0x119AA, 0x00200),
  (0x119D1, 0x00008), (0x119D8, 0x80000), (0x119DA, 0x00008), (0x119E1, 0x00200), (0x119E2, 0x80000),
  (0x119E3, 0x00200), (0x119E4, 0x00008), (0x119E5, 0x80000), (0x11A00, 0x00200), (0x11A01, 0x00008),
  (0x11A0B, 0x00200), (0x11A33, 0x00008), (0x11A3A, 0x00200), (0x11A3B, 0x00008), (0x11A3F, 0x80000),
  (0x11A47, 0x00008)]

def runs16 : List (Nat × Nat) := [
  (0x11A48, 0x80000), (0x11A50, 0x00200), (0x11A51, 0x00008), (0x11A5C, 0x00200), (0x11A8A, 0x00008),
  (0x11A9A, 0x80000), (0x11A9D, 0x00200), (0x11A9E, 0x80000), (0x11AB0, 0x00200), (0x11AF9, 0x80000),
  (0x11C00, 0x00200), (0x11C09, 0x80000), (0x11C0A, 0x00200), (0x11C2F, 0x00008), (0x11C37, 0x80000),
  (0x11C38, 0x00008), (0x11C40, 0x00200), (0x11C41, 0x80000), (0x11C50, 0x08000), (0x11C5A, 0x80000),
  (0x11C72, 0x00200), (0x11C90, 0x80000), (0x11C92, 0x00008), (0x11CA8, 0x80000), (0x11CA9, 0x00008),
  (0x11CB7, 0x80000), (0x11D00, 0x00200), (0x11D07, 0x80000), (0x11D08, 0x00200), (0x11D0A, 0x80000),
  (0x11D0B, 0x00200), (0x11D31, 0x00008), (0x11D37, 0x80000), (0x11D3A, 0x00008), (0x11D3B, 0x80000),
  (0x11D3C, 0x00008), (0x11D3E, 0x80000), (0x11D3F, 0x00008), (0x11D46, 0x00200), (0x11D47, 0x00008),
  (0x11D48, 0x80000), (0x11D50, 0x08000), (0x11D5A, 0x80000), (0x11D60, 0x00200), (0x11D66, 0x80000),
  (0x11D67, 0x00200), (0x11D69, 0x80000), (0x11D6A, 0x00200), (0x11D8A, 0x00008), (0x11D8F, 0x80000),
  (0x11D90, 0x00008), (0x11D92, 0x80000), (0x11D93, 0x00008), (0x11D98, 0x00200), (0x11D99, 0x80000),
  (0x11DA0, 0x08000), (0x11DAA, 0x80000), (0x11EE0, 0x00200), (0x11EF3, 0x00008), (0x11EF7, 0x80000),
  (0x11F00, 0x00008), (0x11F02, 0x00200), (0x11F03, 0x00008), (0x11F04, 0x00200), (0x11F11, 0x80000),
  (0x11F12, 0x00200), (0x11F34, 0x00008), (0x11F3B, 0x80000), (0x11F3E, 0x00008), (0x11F43, 0x80000),
  (0x11F50, 0x08000), (0x11F5A, 0x80000), (0x11FB0, 0x00200), (0x11FB1, 0x80000), (0x12000, 0x00200),
  (0x1239A, 0x80000), (0x12400, 0x00200), (0x1246F, 0x80000), (0x12480, 0x00200), (0x12544, 0x80000),
  (0x12F90, 0x00200), (0x12FF1, 0x80000), (0x13000, 0x00200), (0x13430, 0x00040), (0x13440, 0x00008),
  (0x13441, 0x00200), (0x13447, 0x00008), (0x13456, 0x80000), (0x14400, 0x00200), (0x14647, 0x80000),
  (0x16800, 0x00200), (0x16A39, 0x80000), (0x16A40, 0x00200), (0x16A5F, 0x80000), (0x16A60, 0x08000),
  (0x16A6A, 0x80000)]

def runs17 : List (Nat × Nat) := [
  (0x16A70, 0x00200), (0x16ABF, 0x80000), (0x16AC0, 0x08000), (0x16ACA, 0x80000), (0x16AD0, 0x00200),
  (0x16AEE, 0x80000), (0x16AF0, 0x00008), (0x16AF5, 0x80000), (0x16B00, 0x00200), (0x16B30, 0x00008),
  (0x16B37, 0x80000), (0x16B40, 0x00200), (0x16B44, 0x80000), (0x16B50, 0x08000), (0x16B5A, 0x80000),
  (0x16B63, 0x00200), (0x16B78, 0x80000), (0x16B7D, 0x00200), (0x16B90, 0x80000), (0x16E40, 0x00200),
  (0x16E80, 0x80000), (0x16F00, 0x00200), (0x16F4B, 0x80000), (0x16F4F, 0x00008), (0x16F50, 0x00200),
  (0x16F51, 0x00008), (0x16F88, 0x80000), (0x16F8F, 0x00008), (0x16F93, 0x00200), (0x16FA0, 0x80000),
  (0x16FE0, 0x00200), (0x16FE2, 0x80000), (0x16FE3, 0x00200), (0x16FE4, 0x00008), (0x16FE5, 0x80000),
  (0x16FF0, 0x00008), (0x16FF2, 0x80000), (0x1AFF0, 0x00080), (0x1AFF4, 0x80000), (0x1AFF5, 0x00080),
  (0x1AFFC, 0x80000), (0x1AFFD, 0x00080), (0x1AFFF, 0x80000), (0x1B000, 0x00080), (0x1B001, 0x80000),
  (0x1B120, 0x00080), (0x1B123, 0x80000), (0x1B155, 0x00080), (0x1B156, 0x80000), (0x1B164, 0x00080),
  (0x1B168, 0x80000), (0x1BC00, 0x00200), (0x1BC6B, 0x80000), (0x1BC70, 0x00200), (0x1BC7D, 0x80000),
  (0x1BC80, 0x00200), (0x1BC89, 0x80000), (0x1BC90, 0x00200), (0x1BC9A, 0x80000), (0x1BC9D, 0x00008),
  (0x1BC9F, 0x80000), (0x1BCA0, 0x00040), (0x1BCA4, 0x80000), (0x1CF00, 0x00008), (0x1CF2E, 0x80000),
  (0x1CF30, 0x00008), (0x1CF47, 0x80000), (0x1D165, 0x00008), (0x1D16A, 0x80000), (0x1D16D, 0x00008),
  (0x1D173, 0x00040), (0x1D17B, 0x00008), (0x1D183, 0x80000), (0x1D185, 0x00008), (0x1D18C, 0x80000),
  (0x1D1AA, 0x00008), (0x1D1AE, 0x80000), (0x1D242, 0x00008), (0x1D245, 0x80000), (0x1D400, 0x00200),
  (0x1D455, 0x80000), (0x1D456, 0x00200), (0x1D49D, 0x80000), (0x1D49E, 0x00200), (0x1D4A0, 0x80000),
  (0x1D4A2, 0x00200), (0x1D4A3, 0x80000), (0x1D4A5, 0x00200), (0x1D4A7, 0x80000), (0x1D4A9, 0x00200),
  (0x1D4AD, 0x80000), (0x1D4AE, 0x00200), (0x1D4BA, 0x80000), (0x1D4BB, 0x00200), (0x1D4BC, 0x80000),
  (0x1D4BD, 0x00200)]

def runs18 : List (Nat × Nat) := [
  (0x1D4C4, 0x80000), (0x1D4C5, 0x00200), (0x1D506, 0x80000), (0x1D507, 0x00200), (0x1D50B, 0x80000),
  (0x1D50D, 0x00200), (0x1D515, 0x80000), (0x1D516, 0x00200), (0x1D51D, 0x80000), (0x1D51E, 0x00200),
  (0x1D53A, 0x80000), (0x1D53B, 0x00200), (0x1D53F, 0x80000), (0x1D540, 0x00200), (0x1D545, 0x80000),
  (0x1D546, 0x00200), (0x1D547, 0x80000), (0x1D54A, 0x00200), (0x1D551, 0x80000), (0x1D552, 0x00200),
  (0x1D6A6, 0x80000), (0x1D6A8, 0x00200), (0x1D6C1, 0x80000), (0x1D6C2, 0x00200), (0x1D6DB, 0x80000),
  (0x1D6DC, 0x00200), (0x1D6FB, 0x80000), (0x1D6FC, 0x00200), (0x1D715, 0x80000), (0x1D716, 0x00200),
  (0x1D735, 0x80000), (0x1D736, 0x00200), (0x1D74F, 0x80000), (0x1D750, 0x00200), (0x1D76F, 0x80000),
  (0x1D770, 0x00200), (0x1D789, 0x80000), (0x1D78A, 0x00200), (0x1D7A9, 0x80000), (0x1D7AA, 0x00200),
  (0x1D7C3, 0x80000), (0x1D7C4, 0x00200), (0x1D7CC, 0x80000), (0x1D7CE, 0x08000), (0x1D800, 0x80000),
  (0x1DA00, 0x00008), (0x1DA37, 0x80000), (0x1DA3B, 0x00008), (0x1DA6D, 0x80000), (0x1DA75, 0x00008),
  (0x1DA76, 0x80000), (0x1DA84, 0x00008), (0x1DA85, 0x80000), (0x1DA9B, 0x00008), (0x1DAA0, 0x80000),
  (0x1DAA1, 0x00008), (0x1DAB0, 0x80000), (0x1DF00, 0x00200), (0x1DF1F, 0x80000), (0x1DF25, 0x00200),
  (0x1DF2B, 0x80000), (0x1E000, 0x00008), (0x1E007, 0x80000), (0x1E008, 0x00008), (0x1E019, 0x80000),
  (0x1E01B, 0x00008), (0x1E022, 0x80000), (0x1E023, 0x00008), (0x1E025, 0x80000), (0x1E026, 0x00008),
  (0x1E02B, 0x80000), (0x1E030, 0x00200), (0x1E06E, 0x80000), (0x1E08F, 0x00008), (0x1E090, 0x80000),
  (0x1E100, 0x00200), (0x1E12D, 0x80000), (0x1E130, 0x00008), (0x1E137, 0x00200), (0x1E13E, 0x80000),
  (0x1E140, 0x08000), (0x1E14A, 0x80000), (0x1E14E, 0x00200), (0x1E14F, 0x80000), (0x1E290, 0x00200),
  (0x1E2AE, 0x00008), (0x1E2AF, 0x80000), (0x1E2C0, 0x00200), (0x1E2EC, 0x00008), (0x1E2F0, 0x08000),
  (0x1E2FA, 0x80000), (0x1E4D0, 0x00200), (0x1E4EC, 0x00008), (0x1E4F0, 0x08000), (0x1E4FA, 0x80000),
  (0x1E7E0, 0x00200)]

def runs19 : List (Nat × Nat) := [
  (0x1E7E7, 0x80000), (0x1E7E8, 0x00200), (0x1E7EC, 0x80000), (0x1E7ED, 0x00200), (0x1E7EF, 0x80000),
  (0x1E7F0, 0x00200), (0x1E7FF, 0x80000), (0x1E800, 0x00200), (0x1E8C5, 0x80000), (0x1E8D0, 0x00008),
  (0x1E8D7, 0x80000), (0x1E900, 0x00200), (0x1E944, 0x00008), (0x1E94B, 0x00200), (0x1E94C, 0x80000),
  (0x1E950, 0x08000), (0x1E95A, 0x80000), (0x1EE00, 0x00200), (0x1EE04, 0x80000), (0x1EE05, 0x00200),
  (0x1EE20, 0x80000), (0x1EE21, 0x00200), (0x1EE23, 0x80000), (0x1EE24, 0x00200), (0x1EE25, 0x80000),
  (0x1EE27, 0x00200), (0x1EE28, 0x80000), (0x1EE29, 0x00200), (0x1EE33, 0x80000), (0x1EE34, 0x00200),
  (0x1EE38, 0x80000), (0x1EE39, 0x00200), (0x1EE3A, 0x80000), (0x1EE3B, 0x00200), (0x1EE3C, 0x80000),
  (0x1EE42, 0x00200), (0x1EE43, 0x80000), (0x1EE47, 0x00200), (0x1EE48, 0x80000), (0x1EE49, 0x00200),
  (0x1EE4A, 0x80000), (0x1EE4B, 0x00200), (0x1EE4C, 0x80000), (0x1EE4D, 0x00200), (0x1EE50, 0x80000),
  (0x1EE51, 0x00200), (0x1EE53, 0x80000), (0x1EE54, 0x00200), (0x1EE55, 0x80000), (0x1EE57, 0x00200),
  (0x1EE58, 0x80000), (0x1EE59, 0x00200), (0x1EE5A, 0x80000), (0x1EE5B, 0x00200), (0x1EE5C, 0x80000),
  (0x1EE5D, 0x00200), (0x1EE5E, 0x80000), (0x1EE5F, 0x00200), (0x1EE60, 0x80000), (0x1EE61, 0x00200),
  (0x1EE63, 0x80000), (0x1EE64, 0x00200), (0x1EE65, 0x80000), (0x1EE67, 0x00200), (0x1EE6B, 0x80000),
  (0x1EE6C, 0x00200), (0x1EE73, 0x80000), (0x1EE74, 0x00200), (0x1EE78, 0x80000), (0x1EE79, 0x00200),
  (0x1EE7D, 0x80000), (0x1EE7E, 0x00200), (0x1EE7F, 0x80000), (0x1EE80, 0x00200), (0x1EE8A, 0x80000),
  (0x1EE8B, 0x00200), (0x1EE9C, 0x80000), (0x1EEA1, 0x00200), (0x1EEA4, 0x80000), (0x1EEA5, 0x00200),
  (0x1EEAA, 0x80000), (0x1EEAB, 0x00200), (0x1EEBC, 0x80000), (0x1F000, 0x40000), (0x1F100, 0x80000),
  (0x1F10D, 0x40000), (0x1F110, 0x80000), (0x1F12F, 0x40000), (0x1F130, 0x00200), (0x1F14A, 0x80000),
  (0x1F150, 0x00200), (0x1F16A, 0x80000), (0x1F16C, 0x40000), (0x1F170, 0x40200), (0x1F172, 0x00200),
  (0x1F17E, 0x40200)]

def runs20 : List (Nat × Nat) := [
  (0x1F180, 0x00200), (0x1F18A, 0x80000), (0x1F18E, 0x40000), (0x1F18F, 0x80000), (0x1F191, 0x40000),
  (0x1F19B, 0x80000), (0x1F1AD, 0x40000), (0x1F1E6, 0x00020), (0x1F200, 0x80000), (0x1F201, 0x40000),
  (0x1F210, 0x80000), (0x1F21A, 0x40000), (0x1F21B, 0x80000), (0x1F22F, 0x40000), (0x1F230, 0x80000),
  (0x1F232, 0x40000), (0x1F23B, 0x80000), (0x1F23C, 0x40000), (0x1F240, 0x80000), (0x1F249, 0x40000),
  (0x1F3FB, 0x00008), (0x1F400, 0x40000), (0x1F53E, 0x80000), (0x1F546, 0x40000), (0x1F650, 0x80000),
  (0x1F680, 0x40000), (0x1F700, 0x80000), (0x1F774, 0x40000), (0x1F780, 0x80000), (0x1F7D5, 0x40000),
  (0x1F800, 0x80000), (0x1F80C, 0x40000), (0x1F810, 0x80000), (0x1F848, 0x40000), (0x1F850, 0x80000),
  (0x1F85A, 0x40000), (0x1F860, 0x80000), (0x1F888, 0x40000), (0x1F890, 0x80000), (0x1F8AE, 0x40000),
  (0x1F900, 0x80000), (0x1F90C, 0x40000), (0x1F93B, 0x80000), (0x1F93C, 0x40000), (0x1F946, 0x80000),
  (0x1F947, 0x40000), (0x1FB00, 0x80000), (0x1FBF0, 0x08000), (0x1FBFA, 0x80000), (0x1FC00, 0x40000),
  (0x1FFFE, 0x80000), (0xE0001, 0x00040), (0xE0002, 0x80000), (0xE0020, 0x00008), (0xE0080, 0x80000),
  (0xE0100, 0x00008), (0xE01F0, 0x80000)]

def runs : List (Nat × Nat) :=
  [runs0, runs1, runs2, runs3, runs4, runs5, runs6, runs7, runs8, runs9, runs10, runs11, runs12,
    runs13, runs14, runs15, runs16, runs17, runs18, runs19, runs20].flatten

end TextBoundary.Unicode.WordData
