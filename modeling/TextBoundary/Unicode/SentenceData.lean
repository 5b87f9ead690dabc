/-! Sentence_Break, Unicode 15.1.
A run extends to the start of the next one; the masks are those of `SentenceBreak`. -/

namespace TextBoundary.Unicode.SentenceData

def ascii : List Nat := [
  0x4000, 0x4000, 0x4000, 0x4000, 0x4000, 0x4000, 0x4000, 0x4000,
  0x4000, 0x0020, 0x0002, 0x0020, 0x0020, 0x0001, 0x4000, 0x4000,
  0x4000, 0x4000, 0x4000, 0x4000, 0x4000, 0x4000, 0x4000, 0x4000,
  0x4000, 0x4000, 0x4000, 0x4000, 0x4000, 0x4000, 0x4000, 0x4000,
  0x0020, 0x1000, 0x2000, 0x4000, 0x4000, 0x4000, 0x4000, 0x2000,
  0x2000, 0x2000, 0x4000, 0x4000, 0x0800, 0x0800, 0x0400, 0x4000,
  0x0200, 0x0200, 0x0200, 0x0200, 0x0200, 0x0200, 0x0200, 0x0200,
  0x0200, 0x0200, 0x0800, 0x4000, 0x4000, 0x4000, 0x4000, 0x1000,
  0x4000, 0x0080, 0x0080, 0x0080, 0x0080, 0x0080, 0x0080, 0x0080,
  0x0080, 0x0080, 0x0080, 0x0080, 0x0080, 0x0080, 0x0080, 0x0080,
  0x0080, 0x0080, 0x0080, 0x0080, 0x0080, 0x0080, 0x0080, 0x0080,
  0x0080, 0x0080, 0x0080, 0x2000, 0x4000, 0x2000, 0x4000, 0x4000,
  0x4000, 0x0040, 0x0040, 0x0040, 0x0040, 0x0040, 0x0040, 0x0040,
  0x0040, 0x0040, 0x0040, 0x0040, 0x0040, 0x0040, 0x0040, 0x0040,
  0x0040, 0x0040, 0x0040, 0x0040, 0x0040, 0x0040, 0x0040, 0x0040,
  0x0040, 0x0040, 0x0040, 0x2000, 0x4000, 0x2000, 0x4000, 0x4000]

def runs0 : List (Nat × Nat) := [
  (0x0000, 0x4000), (0x0009, 0x0020), (0x000A, 0x0002), (0x000B, 0x0020), (0x000D, 0x0001),
  (0x000E, 0x4000), (0x0020, 0x0020), (0x0021, 0x1000), (0x0022, 0x2000), (0x0023, 0x4000),
  (0x0027, 0x2000), (0x002A, 0x4000), (0x002C, 0x0800), (0x002E, 0x0400), (0x002F, 0x4000),
  (0x0030, 0x0200), (0x003A, 0x0800), (0x003B, 0x4000), (0x003F, 0x1000), (0x0040, 0x4000),
  (0x0041, 0x0080), (0x005B, 0x2000), (0x005C, 0x4000), (0x005D, 0x2000), (0x005E, 0x4000),
  (0x0061, 0x0040), (0x007B, 0x2000), (0x007C, 0x4000), (0x007D, 0x2000), (0x007E, 0x4000),
  (0x0085, 0x0008), (0x0086, 0x4000), (0x00A0, 0x0020), (0x00A1, 0x4000), (0x00AA, 0x0040),
  (0x00AB, 0x2000), (0x00AC, 0x4000), (0x00AD, 0x0010), (0x00AE, 0x4000), (0x00B5, 0x0040),
  (0x00B6, 0x4000), (0x00BA, 0x0040), (0x00BB, 0x2000), (0x00BC, 0x4000), (0x00C0, 0x0080),
  (0x00D7, 0x4000), (0x00D8, 0x0080), (0x00DF, 0x0040), (0x00F7, 0x4000), (0x00F8, 0x0040),
  (0x0100, 0x0080), (0x0101, 0x0040), (0x0102, 0x0080), (0x0103, 0x0040), (0x0104, 0x0080),
  (0x0105, 0x0040), (0x0106, 0x0080), (0x0107, 0x0040), (0x0108, 0x0080), (0x0109, 0x0040),
  (0x010A, 0x0080), (0x010B, 0x0040), (0x010C, 0x0080), (0x010D, 0x0040), (0x010E, 0x0080),
  (0x010F, 0x0040), (0x0110, 0x0080), (0x0111, 0x0040), (0x0112, 0x0080), (0x0113, 0x0040),
  (0x0114, 0x0080), (0x0115, 0x0040), (0x0116, 0x0080), (0x0117, 0x0040), (0x0118, 0x0080),
  (0x0119, 0x0040), (0x011A, 0x0080), (0x011B, 0x0040), (0x011C, 0x0080), (0x011D, 0x0040),
  (0x011E, 0x0080), (0x011F, 0x0040), (0x0120, 0x0080), (0x0121, 0x0040), (0x0122, 0x0080),
  (0x0123, 0x0040), (0x0124, 0x0080), (0x0125, 0x0040), (0x0126, 0x0080), (0x0127, 0x0040),
  (0x0128, 0x0080), (0x0129, 0x0040), (0x012A, 0x0080), (0x012B, 0x0040), (0x012C, 0x0080),
  (0x012D, 0x0040)]

def runs1 : List (Nat × Nat) := [
  (0x012E, 0x0080), (0x012F, 0x0040), (0x0130, 0x0080), (0x0131, 0x0040), (0x0132, 0x0080),
  (0x0133, 0x0040), (0x0134, 0x0080), (0x0135, 0x0040), (0x0136, 0x0080), (0x0137, 0x0040),
  (0x0139, 0x0080), (0x013A, 0x0040), (0x013B, 0x0080), (0x013C, 0x0040), (0x013D, 0x0080),
  (0x013E, 0x0040), (0x013F, 0x0080), (0x0140, 0x0040), (0x0141, 0x0080), (0x0142, 0x0040),
  (0x0143, 0x0080), (0x0144, 0x0040), (0x0145, 0x0080), (0x0146, 0x0040), (0x0147, 0x0080),
  (0x0148, 0x0040), (0x014A, 0x0080), (0x014B, 0x0040), (0x014C, 0x0080), (0x014D, 0x0040),
  (0x014E, 0x0080), (0x014F, 0x0040), (0x0150, 0x0080), (0x0151, 0x0040), (0x0152, 0x0080),
  (0x0153, 0x0040), (0x0154, 0x0080), (0x0155, 0x0040), (0x0156, 0x0080), (0x0157, 0x0040),
  (0x0158, 0x0080), (0x0159, 0x0040), (0x015A, 0x0080), (0x015B, 0x0040), (0x015C, 0x0080),
  (0x015D, 0x0040), (0x015E, 0x0080), (0x015F, 0x0040), (0x0160, 0x0080), (0x0161, 0x0040),
  (0x0162, 0x0080), (0x0163, 0x0040), (0x0164, 0x0080), (0x0165, 0x0040), (0x0166, 0x0080),
  (0x0167, 0x0040), (0x0168, 0x0080), (0x0169, 0x0040), (0x016A, 0x0080), (0x016B, 0x0040),
  (0x016C, 0x0080), (0x016D, 0x0040), (0x016E, 0x0080), (0x016F, 0x0040), (0x0170, 0x0080),
  (0x0171, 0x0040), (0x0172, 0x0080), (0x0173, 0x0040), (0x0174, 0x0080), (0x0175, 0x0040),
  (0x0176, 0x0080), (0x0177, 0x0040), (0x0178, 0x0080), (0x017A, 0x0040), (0x017B, 0x0080),
  (0x017C, 0x0040), (0x017D, 0x0080), (0x017E, 0x0040), (0x0181, 0x0080), (0x0183, 0x0040),
  (0x0184, 0x0080), (0x0185, 0x0040), (0x0186, 0x0080), (0x0188, 0x0040), (0x0189, 0x0080),
  (0x018C, 0x0040), (0x018E, 0x0080), (0x0192, 0x0040), (0x0193, 0x0080), (0x0195, 0x0040),
  (0x0196, 0x0080), (0x0199, 0x0040), (0x019C, 0x0080), (0x019E, 0x0040), (0x019F, 0x0080),
  (0x01A1, 0x0040)]

def runs2 : List (Nat × Nat) := [
  (0x01A2, 0x0080), (0x01A3, 0x0040), (0x01A4, 0x0080), (0x01A5, 0x0040), (0x01A6, 0x0080),
  (0x01A8, 0x0040), (0x01A9, 0x0080), (0x01AA, 0x0040), (0x01AC, 0x0080), (0x01AD, 0x0040),
  (0x01AE, 0x0080), (0x01B0, 0x0040), (0x01B1, 0x0080), (0x01B4, 0x0040), (0x01B5, 0x0080),
  (0x01B6, 0x0040), (0x01B7, 0x0080), (0x01B9, 0x0040), (0x01BB, 0x0100), (0x01BC, 0x0080),
  (0x01BD, 0x0040), (0x01C0, 0x0100), (0x01C4, 0x0080), (0x01C6, 0x0040), (0x01C7, 0x0080),
  (0x01C9, 0x0040), (0x01CA, 0x0080), (0x01CC, 0x0040), (0x01CD, 0x0080), (0x01CE, 0x0040),
  (0x01CF, 0x0080), (0x01D0, 0x0040), (0x01D1, 0x0080), (0x01D2, 0x0040), (0x01D3, 0x0080),
  (0x01D4, 0x0040), (0x01D5, 0x0080), (0x01D6, 0x0040), (0x01D7, 0x0080), (0x01D8, 0x0040),
  (0x01D9, 0x0080), (0x01DA, 0x0040), (0x01DB, 0x0080), (0x01DC, 0x0040), (0x01DE, 0x0080),
  (0x01DF, 0x0040), (0x01E0, 0x0080), (0x01E1, 0x0040), (0x01E2, 0x0080), (0x01E3, 0x0040),
  (0x01E4, 0x0080), (0x01E5, 0x0040), (0x01E6, 0x0080), (0x01E7, 0x0040), (0x01E8, 0x0080),
  (0x01E9, 0x0040), (0x01EA, 0x0080), (0x01EB, 0x0040), (0x01EC, 0x0080), (0x01ED, 0x0040),
  (0x01EE, 0x0080), (0x01EF, 0x0040), (0x01F1, 0x0080), (0x01F3, 0x0040), (0x01F4, 0x0080),
  (0x01F5, 0x0040), (0x01F6, 0x0080), (0x01F9, 0x0040), (0x01FA, 0x0080), (0x01FB, 0x0040),
  (0x01FC, 0x0080), (0x01FD, 0x0040), (0x01FE, 0x0080), (0x01FF, 0x0040), (0x0200, 0x0080),
  (0x0201, 0x0040), (0x0202, 0x0080), (0x0203, 0x0040), (0x0204, 0x0080), (0x0205, 0x0040),
  (0x0206, 0x0080), (0x0207, 0x0040), (0x0208, 0x0080), (0x0209, 0x0040), (0x020A, 0x0080),
  (0x020B, 0x0040), (0x020C, 0x0080), (0x020D, 0x0040), (0x020E, 0x0080), (0x020F, 0x0040),
  (0x0210, 0x0080), (0x0211, 0x0040), (0x0212, 0x0080), (0x0213, 0x0040), (0x0214, 0x0080),
  (0x0215, 0x0040)]

def runs3 : List (Nat × Nat) := [
  (0x0216, 0x0080), (0x0217, 0x0040), (0x0218, 0x0080), (0x0219, 0x0040), (0x021A, 0x0080),
  (0x021B, 0x0040), (0x021C, 0x0080), (0x021D, 0x0040), (0x021E, 0x0080), (0x021F, 0x0040),
  (0x0220, 0x0080), (0x0221, 0x0040), (0x0222, 0x0080), (0x0223, 0x0040), (0x0224, 0x0080),
  (0x0225, 0x0040), (0x0226, 0x0080), (0x0227, 0x0040), (0x0228, 0x0080), (0x0229, 0x0040),
  (0x022A, 0x0080), (0x022B, 0x0040), (0x022C, 0x0080), (0x022D, 0x0040), (0x022E, 0x0080),
  (0x022F, 0x0040), (0x0230, 0x0080), (0x0231, 0x0040), (0x0232, 0x0080), (0x0233, 0x0040),
  (0x023A, 0x0080), (0x023C, 0x0040), (0x023D, 0x0080), (0x023F, 0x0040), (0x0241, 0x0080),
  (0x0242, 0x0040), (0x0243, 0x0080), (0x0247, 0x0040), (0x0248, 0x0080), (0x0249, 0x0040),
  (0x024A, 0x0080), (0x024B, 0x0040), (0x024C, 0x0080), (0x024D, 0x0040), (0x024E, 0x0080),
  (0x024F, 0x0040), (0x0294, 0x0100), (0x0295, 0x0040), (0x02B9, 0x0100), (0x02C0, 0x0040),
  (0x02C2, 0x4000), (0x02C6, 0x0100), (0x02D2, 0x4000), (0x02E0, 0x0040), (0x02E5, 0x4000),
  (0x02EC, 0x0100), (0x02ED, 0x4000), (0x02EE, 0x0100), (0x02EF, 0x4000), (0x0300, 0x0004),
  (0x0370, 0x0080), (0x0371, 0x0040), (0x0372, 0x0080), (0x0373, 0x0040), (0x0374, 0x0100),
  (0x0375, 0x4000), (0x0376, 0x0080), (0x0377, 0x0040), (0x0378, 0x4000), (0x037A, 0x0040),
  (0x037E, 0x4000), (0x037F, 0x0080), (0x0380, 0x4000), (0x0386, 0x0080), (0x0387, 0x4000),
  (0x0388, 0x0080), (0x038B, 0x4000), (0x038C, 0x0080), (0x038D, 0x4000), (0x038E, 0x0080),
  (0x0390, 0x0040), (0x0391, 0x0080), (0x03A2, 0x4000), (0x03A3, 0x0080), (0x03AC, 0x0040),
  (0x03CF, 0x0080), (0x03D0, 0x0040), (0x03D2, 0x0080), (0x03D5, 0x0040), (0x03D8, 0x0080),
  (0x03D9, 0x0040), (0x03DA, 0x0080), (0x03DB, 0x0040), (0x03DC, 0x0080), (0x03DD, 0x0040),
  (0x03DE, 0x0080)]

def runs4 : List (Nat × Nat) := [
  (0x03DF, 0x0040), (0x03E0, 0x0080), (0x03E1, 0x0040), (0x03E2, 0x0080), (0x03E3, 0x0040),
  (0x03E4, 0x0080), (0x03E5, 0x0040), (0x03E6, 0x0080), (0x03E7, 0x0040), (0x03E8, 0x0080),
  (0x03E9, 0x0040), (0x03EA, 0x0080), (0x03EB, 0x0040), (0x03EC, 0x0080), (0x03ED, 0x0040),
  (0x03EE, 0x0080), (0x03EF, 0x0040), (0x03F4, 0x0080), (0x03F5, 0x0040), (0x03F6, 0x4000),
  (0x03F7, 0x0080), (0x03F8, 0x0040), (0x03F9, 0x0080), (0x03FB, 0x0040), (0x03FD, 0x0080),
  (0x0430, 0x0040), (0x0460, 0x0080), (0x0461, 0x0040), (0x0462, 0x0080), (0x0463, 0x0040),
  (0x0464, 0x0080), (0x0465, 0x0040), (0x0466, 0x0080), (0x0467, 0x0040), (0x0468, 0x0080),
  (0x0469, 0x0040), (0x046A, 0x0080), (0x046B, 0x0040), (0x046C, 0x0080), (0x046D, 0x0040),
  (0x046E, 0x0080), (0x046F, 0x0040), (0x0470, 0x0080), (0x0471, 0x0040), (0x0472, 0x0080),
  (0x0473, 0x0040), (0x0474, 0x0080), (0x0475, 0x0040), (0x0476, 0x0080), (0x0477, 0x0040),
  (0x0478, 0x0080), (0x0479, 0x0040), (0x047A, 0x0080), (0x047B, 0x0040), (0x047C, 0x0080),
  (0x047D, 0x0040), (0x047E, 0x0080), (0x047F, 0x0040), (0x0480, 0x0080), (0x0481, 0x0040),
  (0x0482, 0x4000), (0x0483, 0x0004), (0x048A, 0x0080), (0x048B, 0x0040), (0x048C, 0x0080),
  (0x048D, 0x0040), (0x048E, 0x0080), (0x048F, 0x0040), (0x0490, 0x0080), (0x0491, 0x0040),
  (0x0492, 0x0080), (0x0493, 0x0040), (0x0494, 0x0080), (0x0495, 0x0040), (0x0496, 0x0080),
  (0x0497, 0x0040), (0x0498, 0x0080), (0x0499, 0x0040), (0x049A, 0x0080), (0x049B, 0x0040),
  (0x049C, 0x0080), (0x049D, 0x0040), (0x049E, 0x0080), (0x049F, 0x0040), (0x04A0, 0x0080),
  (0x04A1, 0x0040), (0x04A2, 0x0080), (0x04A3, 0x0040), (0x04A4, 0x0080), (0x04A5, 0x0040),
  (0x04A6, 0x0080), (0x04A7, 0x0040), (0x04A8, 0x0080), (0x04A9, 0x0040), (0x04AA, 0x0080),
  (0x04AB, 0x0040)]

def runs5 : List (Nat × Nat) := [
  (0x04AC, 0x0080), (0x04AD, 0x0040), (0x04AE, 0x0080), (0x04AF, 0x0040), (0x04B0, 0x0080),
  (0x04B1, 0x0040), (0x04B2, 0x0080), (0x04B3, 0x0040), (0x04B4, 0x0080), (0x04B5, 0x0040),
  (0x04B6, 0x0080), (0x04B7, 0x0040), (0x04B8, 0x0080), (0x04B9, 0x0040), (0x04BA, 0x0080),
  (0x04BB, 0x0040), (0x04BC, 0x0080), (0x04BD, 0x0040), (0x04BE, 0x0080), (0x04BF, 0x0040),
  (0x04C0, 0x0080), (0x04C2, 0x0040), (0x04C3, 0x0080), (0x04C4, 0x0040), (0x04C5, 0x0080),
  (0x04C6, 0x0040), (0x04C7, 0x0080), (0x04C8, 0x0040), (0x04C9, 0x0080), (0x04CA, 0x0040),
  (0x04CB, 0x0080), (0x04CC, 0x0040), (0x04CD, 0x0080), (0x04CE, 0x0040), (0x04D0, 0x0080),
  (0x04D1, 0x0040), (0x04D2, 0x0080), (0x04D3, 0x0040), (0x04D4, 0x0080), (0x04D5, 0x0040),
  (0x04D6, 0x0080), (0x04D7, 0x0040), (0x04D8, 0x0080), (0x04D9, 0x0040), (0x04DA, 0x0080),
  (0x04DB, 0x0040), (0x04DC, 0x0080), (0x04DD, 0x0040), (0x04DE, 0x0080), (0x04DF, 0x0040),
  (0x04E0, 0x0080), (0x04E1, 0x0040), (0x04E2, 0x0080), (0x04E3, 0x0040), (0x04E4, 0x0080),
  (0x04E5, 0x0040), (0x04E6, 0x0080), (0x04E7, 0x0040), (0x04E8, 0x0080), (0x04E9, 0x0040),
  (0x04EA, 0x0080), (0x04EB, 0x0040), (0x04EC, 0x0080), (0x04ED, 0x0040), (0x04EE, 0x0080),
  (0x04EF, 0x0040), (0x04F0, 0x0080), (0x04F1, 0x0040), (0x04F2, 0x0080), (0x04F3, 0x0040),
  (0x04F4, 0x0080), (0x04F5, 0x0040), (0x04F6, 0x0080), (0x04F7, 0x0040), (0x04F8, 0x0080),
  (0x04F9, 0x0040), (0x04FA, 0x0080), (0x04FB, 0x0040), (0x04FC, 0x0080), (0x04FD, 0x0040),
  (0x04FE, 0x0080), (0x04FF, 0x0040), (0x0500, 0x0080), (0x0501, 0x0040), (0x0502, 0x0080),
  (0x0503, 0x0040), (0x0504, 0x0080), (0x0505, 0x0040), (0x0506, 0x0080), (0x0507, 0x0040),
  (0x0508, 0x0080), (0x0509, 0x0040), (0x050A, 0x0080), (0x050B, 0x0040), (0x050C, 0x0080),
  (0x050D, 0x0040)]

def runs6 : List (Nat × Nat) := [
  (0x050E, 0x0080), (0x050F, 0x0040), (0x0510, 0x0080), (0x0511, 0x0040), (0x0512, 0x0080),
  (0x0513, 0x0040), (0x0514, 0x0080), (0x0515, 0x0040), (0x0516, 0x0080), (0x0517, 0x0040),
  (0x0518, 0x0080), (0x0519, 0x0040), (0x051A, 0x0080), (0x051B, 0x0040), (0x051C, 0x0080),
  (0x051D, 0x0040), (0x051E, 0x0080), (0x051F, 0x0040), (0x0520, 0x0080), (0x0521, 0x0040),
  (0x0522, 0x0080), (0x0523, 0x0040), (0x0524, 0x0080), (0x0525, 0x0040), (0x0526, 0x0080),
  (0x0527, 0x0040), (0x0528, 0x0080), (0x0529, 0x0040), (0x052A, 0x0080), (0x052B, 0x0040),
  (0x052C, 0x0080), (0x052D, 0x0040), (0x052E, 0x0080), (0x052F, 0x0040), (0x0530, 0x4000),
  (0x0531, 0x0080), (0x0557, 0x4000), (0x0559, 0x0100), (0x055A, 0x4000), (0x055D, 0x0800),
  (0x055E, 0x4000), (0x0560, 0x0040), (0x0589, 0x1000), (0x058A, 0x4000), (0x0591, 0x0004),
  (0x05BE, 0x4000), (0x05BF, 0x0004), (0x05C0, 0x4000), (0x05C1, 0x0004), (0x05C3, 0x4000),
  (0x05C4, 0x0004), (0x05C6, 0x4000), (0x05C7, 0x0004), (0x05C8, 0x4000), (0x05D0, 0x0100),
  (0x05EB, 0x4000), (0x05EF, 0x0100), (0x05F4, 0x4000), (0x0600, 0x0200), (0x0606, 0x4000),
  (0x060C, 0x0800), (0x060E, 0x4000), (0x0610, 0x0004), (0x061B, 0x4000), (0x061C, 0x0010),
  (0x061D, 0x1000), (0x0620, 0x0100), (0x064B, 0x0004), (0x0660, 0x0200), (0x066A, 0x4000),
  (0x066B, 0x0200), (0x066D, 0x4000), (0x066E, 0x0100), (0x0670, 0x0004), (0x0671, 0x0100),
  (0x06D4, 0x1000), (0x06D5, 0x0100), (0x06D6, 0x0004), (0x06DD, 0x0200), (0x06DE, 0x4000),
  (0x06DF, 0x0004), (0x06E5, 0x0100), (0x06E7, 0x0004), (0x06E9, 0x4000), (0x06EA, 0x0004),
  (0x06EE, 0x0100), (0x06F0, 0x0200), (0x06FA, 0x0100), (0x06FD, 0x4000), (0x06FF, 0x0100),
  (0x0700, 0x1000), (0x0703, 0x4000), (0x070F, 0x0010), (0x0710, 0x0100), (0x0711, 0x0004),
  (0x0712, 0x0100)]

def runs7 : List (Nat × Nat) := [
  (0x0730, 0x0004), (0x074B, 0x4000), (0x074D, 0x0100), (0x07A6, 0x0004), (0x07B1, 0x0100),
  (0x07B2, 0x4000), (0x07C0, 0x0200), (0x07CA, 0x0100), (0x07EB, 0x0004), (0x07F4, 0x0100),
  (0x07F6, 0x4000), (0x07F8, 0x0800), (0x07F9, 0x1000), (0x07FA, 0x0100), (0x07FB, 0x4000),
  (0x07FD, 0x0004), (0x07FE, 0x4000), (0x0800, 0x0100), (0x0816, 0x0004), (0x081A, 0x0100),
  (0x081B, 0x0004), (0x0824, 0x0100), (0x0825, 0x0004), (0x0828, 0x0100), (0x0829, 0x0004),
  (0x082E, 0x4000), (0x0837, 0x1000), (0x0838, 0x4000), (0x0839, 0x1000), (0x083A, 0x4000),
  (0x083D, 0x1000), (0x083F, 0x4000), (0x0840, 0x0100), (0x0859, 0x0004), (0x085C, 0x4000),
  (0x0860, 0x0100), (0x086B, 0x4000), (0x0870, 0x0100), (0x0888, 0x4000), (0x0889, 0x0100),
  (0x088F, 0x4000), (0x0890, 0x0200), (0x0892, 0x4000), (0x0898, 0x0004), (0x08A0, 0x0100),
  (0x08CA, 0x0004), (0x08E2, 0x0200), (0x08E3, 0x0004), (0x0904, 0x0100), (0x093A, 0x0004),
  (0x093D, 0x0100), (0x093E, 0x0004), (0x0950, 0x0100), (0x0951, 0x0004), (0x0958, 0x0100),
  (0x0962, 0x0004), (0x0964, 0x1000), (0x0966, 0x0200), (0x0970, 0x4000), (0x0971, 0x0100),
  (0x0981, 0x0004), (0x0984, 0x4000), (0x0985, 0x0100), (0x098D, 0x4000), (0x098F, 0x0100),
  (0x0991, 0x4000), (0x0993, 0x0100), (0x09A9, 0x4000), (0x09AA, 0x0100), (0x09B1, 0x4000),
  (0x09B2, 0x0100), (0x09B3, 0x4000), (0x09B6, 0x0100), (0x09BA, 0x4000), (0x09BC, 0x0004),
  (0x09BD, 0x0100), (0x09BE, 0x0004), (0x09C5, 0x4000), (0x09C7, 0x0004), (0x09C9, 0x4000),
  (0x09CB, 0x0004), (0x09CE, 0x0100), (0x09CF, 0x4000), (0x09D7, 0x0004), (0x09D8, 0x4000),
  (0x09DC, 0x0100), (0x09DE, 0x4000), (0x09DF, 0x0100), (0x09E2, 0x0004), (0x09E4, 0x4000),
  (0x09E6, 0x0200), (0x09F0, 0x0100), (0x09F2, 0x4000), (0x09FC, 0x0100), (0x09FD, 0x4000),
  (0x09FE, 0x0004)]

def runs8 : List (Nat × Nat) := [
  (0x09FF, 0x4000), (0x0A01, 0x0004), (0x0A04, 0x4000), (0x0A05, 0x0100), (0x0A0B, 0x4000),
  (0x0A0F, 0x0100), (0x0A11, 0x4000), (0x0A13, 0x0100), (0x0A29, 0x4000), (0x0A2A, 0x0100),
  (0x0A31, 0x4000), (0x0A32, 0x0100), (0x0A34, 0x4000), (0x0A35, 0x0100), (0x0A37, 0x4000),
  (0x0A38, 0x0100), (0x0A3A, 0x4000), (0x0A3C, 0x0004), (0x0A3D, 0x4000), (0x0A3E, 0x0004),
  (0x0A43, 0x4000), (0x0A47, 0x0004), (0x0A49, 0x4000), (0x0A4B, 0x0004), (0x0A4E, 0x4000),
  (0x0A51, 0x0004), (0x0A52, 0x4000), (0x0A59, 0x0100), (0x0A5D, 0x4000), (0x0A5E, 0x0100),
  (0x0A5F, 0x4000), (0x0A66, 0x0200), (0x0A70, 0x0004), (0x0A72, 0x0100), (0x0A75, 0x0004),
  (0x0A76, 0x4000), (0x0A81, 0x0004), (0x0A84, 0x4000), (0x0A85, 0x0100), (0x0A8E, 0x4000),
  (0x0A8F, 0x0100), (0x0A92, 0x4000), (0x0A93, 0x0100), (0x0AA9, 0x4000), (0x0AAA, 0x0100),
  (0x0AB1, 0x4000), (0x0AB2, 0x0100), (0x0AB4, 0x4000), (0x0AB5, 0x0100), (0x0ABA, 0x4000),
  (0x0ABC, 0x0004), (0x0ABD, 0x0100), (0x0ABE, 0x0004), (0x0AC6, 0x4000), (0x0AC7, 0x0004),
  (0x0ACA, 0x4000), (0x0ACB, 0x0004), (0x0ACE, 0x4000), (0x0AD0, 0x0100), (0x0AD1, 0x4000),
  (0x0AE0, 0x0100), (0x0AE2, 0x0004), (0x0AE4, 0x4000), (0x0AE6, 0x0200), (0x0AF0, 0x4000),
  (0x0AF9, 0x0100), (0x0AFA, 0x0004), (0x0B00, 0x4000), (0x0B01, 0x0004), (0x0B04, 0x4000),
  (0x0B05, 0x0100), (0x0B0D, 0x4000), (0x0B0F, 0x0100), (0x0B11, 0x4000), (0x0B13, 0x0100),
  (0x0B29, 0x4000), (0x0B2A, 0x0100), (0x0B31, 0x4000), (0x0B32, 0x0100), (0x0B34, 0x4000),
  (0x0B35, 0x0100), (0x0B3A, 0x4000), (0x0B3C, 0x0004), (0x0B3D, 0x0100), (0x0B3E, 0x0004),
  (0x0B45, 0x4000), (0x0B47, 0x0004), (0x0B49, 0x4000), (0x0B4B, 0x0004), (0x0B4E, 0x4000),
  (0x0B55, 0x0004), (0x0B58, 0x4000), (0x0B5C, 0x0100), (0x0B5E, 0x4000), (0x0B5F, 0x0100),
  (0x0B62, 0x0004)]

def runs9 : List (Nat × Nat) := [
  (0x0B64, 0x4000), (0x0B66, 0x0200), (0x0B70, 0x4000), (0x0B71, 0x0100), (0x0B72, 0x4000),
  (0x0B82, 0x0004), (0x0B83, 0x0100), (0x0B84, 0x4000), (0x0B85, 0x0100), (0x0B8B, 0x4000),
  (0x0B8E, 0x0100), (0x0B91, 0x4000), (0x0B92, 0x0100), (0x0B96, 0x4000), (0x0B99, 0x0100),
  (0x0B9B, 0x4000), (0x0B9C, 0x0100), (0x0B9D, 0x4000), (0x0B9E, 0x0100), (0x0BA0, 0x4000),
  (0x0BA3, 0x0100), (0x0BA5, 0x4000), (0x0BA8, 0x0100), (0x0BAB, 0x4000), (0x0BAE, 0x0100),
  (0x0BBA, 0x4000), (0x0BBE, 0x0004), (0x0BC3, 0x4000), (0x0BC6, 0x0004), (0x0BC9, 0x4000),
  (0x0BCA, 0x0004), (0x0BCE, 0x4000), (0x0BD0, 0x0100), (0x0BD1, 0x4000), (0x0BD7, 0x0004),
  (0x0BD8, 0x4000), (0x0BE6, 0x0200), (0x0BF0, 0x4000), (0x0C00, 0x0004), (0x0C05, 0x0100),
  (0x0C0D, 0x4000), (0x0C0E, 0x0100), (0x0C11, 0x4000), (0x0C12, 0x0100), (0x0C29, 0x4000),
  (0x0C2A, 0x0100), (0x0C3A, 0x4000), (0x0C3C, 0x0004), (0x0C3D, 0x0100), (0x0C3E, 0x0004),
  (0x0C45, 0x4000), (0x0C46, 0x0004), (0x0C49, 0x4000), (0x0C4A, 0x0004), (0x0C4E, 0x4000),
  (0x0C55, 0x0004), (0x0C57, 0x4000), (0x0C58, 0x0100), (0x0C5B, 0x4000), (0x0C5D, 0x0100),
  (0x0C5E, 0x4000), (0x0C60, 0x0100), (0x0C62, 0x0004), (0x0C64, 0x4000), (0x0C66, 0x0200),
  (0x0C70, 0x4000), (0x0C80, 0x0100), (0x0C81, 0x0004), (0x0C84, 0x4000), (0x0C85, 0x0100),
  (0x0C8D, 0x4000), (0x0C8E, 0x0100), (0x0C91, 0x4000), (0x0C92, 0x0100), (0x0CA9, 0x4000),
  (0x0CAA, 0x0100), (0x0CB4, 0x4000), (0x0CB5, 0x0100), (0x0CBA, 0x4000), (0x0CBC, 0x0004),
  (0x0CBD, 0x0100), (0x0CBE, 0x0004), (0x0CC5, 0x4000), (0x0CC6, 0x0004), (0x0CC9, 0x4000),
  (0x0CCA, 0x0004), (0x0CCE, 0x4000), (0x0CD5, 0x0004), (0x0CD7, 0x4000), (0x0CDD, 0x0100),
  (0x0CDF, 0x4000), (0x0CE0, 0x0100), (0x0CE2, 0x0004), (0x0CE4, 0x4000), (0x0CE6, 0x0200),
  (0x0CF0, 0x4000)]

def runs10 : List (Nat × Nat) := [
  (0x0CF1, 0x0100), (0x0CF3, 0x0004), (0x0CF4, 0x4000), (0x0D00, 0x0004), (0x0D04, 0x0100),
  (0x0D0D, 0x4000), (0x0D0E, 0x0100), (0x0D11, 0x4000), (0x0D12, 0x0100), (0x0D3B, 0x0004),
  (0x0D3D, 0x0100), (0x0D3E, 0x0004), (0x0D45, 0x4000), (0x0D46, 0x0004), (0x0D49, 0x4000),
  (0x0D4A, 0x0004), (0x0D4E, 0x0100), (0x0D4F, 0x4000), (0x0D54, 0x0100), (0x0D57, 0x0004),
  (0x0D58, 0x4000), (0x0D5F, 0x0100), (0x0D62, 0x0004), (0x0D64, 0x4000), (0x0D66, 0x0200),
  (0x0D70, 0x4000), (0x0D7A, 0x0100), (0x0D80, 0x4000), (0x0D81, 0x0004), (0x0D84, 0x4000),
  (0x0D85, 0x0100), (0x0D97, 0x4000), (0x0D9A, 0x0100), (0x0DB2, 0x4000), (0x0DB3, 0x0100),
  (0x0DBC, 0x4000), (0x0DBD, 0x0100), (0x0DBE, 0x4000), (0x0DC0, 0x0100), (0x0DC7, 0x4000),
  (0x0DCA, 0x0004), (0x0DCB, 0x4000), (0x0DCF, 0x0004), (0x0DD5, 0x4000), (0x0DD6, 0x0004),
  (0x0DD7, 0x4000), (0x0DD8, 0x0004), (0x0DE0, 0x4000), (0x0DE6, 0x0200), (0x0DF0, 0x4000),
  (0x0DF2, 0x0004), (0x0DF4, 0x4000), (0x0E01, 0x0100), (0x0E31, 0x0004), (0x0E32, 0x0100),
  (0x0E34, 0x0004), (0x0E3B, 0x4000), (0x0E40, 0x0100), (0x0E47, 0x0004), (0x0E4F, 0x4000),
  (0x0E50, 0x0200), (0x0E5A, 0x4000), (0x0E81, 0x0100), (0x0E83, 0x4000), (0x0E84, 0x0100),
  (0x0E85, 0x4000), (0x0E86, 0x0100), (0x0E8B, 0x4000), (0x0E8C, 0x0100), (0x0EA4, 0x4000),
  (0x0EA5, 0x0100), (0x0EA6, 0x4000), (0x0EA7, 0x0100), (0x0EB1, 0x0004), (0x0EB2, 0x0100),
  (0x0EB4, 0x0004), (0x0EBD, 0x0100), (0x0EBE, 0x4000), (0x0EC0, 0x0100), (0x0EC5, 0x4000),
  (0x0EC6, 0x0100), (0x0EC7, 0x4000), (0x0EC8, 0x0004), (0x0ECF, 0x4000), (0x0ED0, 0x0200),
  (0x0EDA, 0x4000), (0x0EDC, 0x0100), (0x0EE0, 0x4000), (0x0F00, 0x0100), (0x0F01, 0x4000),
  (0x0F18, 0x0004), (0x0F1A, 0x4000), (0x0F20, 0x0200), (0x0F2A, 0x4000), (0x0F35, 0x0004),
  (0x0F36, 0x4000)]

def runs11 : List (Nat × Nat) := [
  (0x0F37, 0x0004), (0x0F38, 0x4000), (0x0F39, 0x0004), (0x0F3A, 0x2000), (0x0F3E, 0x0004),
  (0x0F40, 0x0100), (0x0F48, 0x4000), (0x0F49, 0x0100), (0x0F6D, 0x4000), (0x0F71, 0x0004),
  (0x0F85, 0x4000), (0x0F86, 0x0004), (0x0F88, 0x0100), (0x0F8D, 0x0004), (0x0F98, 0x4000),
  (0x0F99, 0x0004), (0x0FBD, 0x4000), (0x0FC6, 0x0004), (0x0FC7, 0x4000), (0x1000, 0x0100),
  (0x102B, 0x0004), (0x103F, 0x0100), (0x1040, 0x0200), (0x104A, 0x1000), (0x104C, 0x4000),
  (0x1050, 0x0100), (0x1056, 0x0004), (0x105A, 0x0100), (0x105E, 0x0004), (0x1061, 0x0100),
  (0x1062, 0x0004), (0x1065, 0x0100), (0x1067, 0x0004), (0x106E, 0x0100), (0x1071, 0x0004),
  (0x1075, 0x0100), (0x1082, 0x0004), (0x108E, 0x0100), (0x108F, 0x0004), (0x1090, 0x0200),
  (0x109A, 0x0004), (0x109E, 0x4000), (0x10A0, 0x0080), (0x10C6, 0x4000), (0x10C7, 0x0080),
  (0x10C8, 0x4000), (0x10CD, 0x0080), (0x10CE, 0x4000), (0x10D0, 0x0100), (0x10FB, 0x4000),
  (0x10FC, 0x0100), (0x1249, 0x4000), (0x124A, 0x0100), (0x124E, 0x4000), (0x1250, 0x0100),
  (0x1257, 0x4000), (0x1258, 0x0100), (0x1259, 0x4000), (0x125A, 0x0100), (0x125E, 0x4000),
  (0x1260, 0x0100), (0x1289, 0x4000), (0x128A, 0x0100), (0x128E, 0x4000), (0x1290, 0x0100),
  (0x12B1, 0x4000), (0x12B2, 0x0100), (0x12B6, 0x4000), (0x12B8, 0x0100), (0x12BF, 0x4000),
  (0x12C0, 0x0100), (0x12C1, 0x4000), (0x12C2, 0x0100), (0x12C6, 0x4000), (0x12C8, 0x0100),
  (0x12D7, 0x4000), (0x12D8, 0x0100), (0x1311, 0x4000), (0x1312, 0x0100), (0x1316, 0x4000),
  (0x1318, 0x0100), (0x135B, 0x4000), (0x135D, 0x0004), (0x1360, 0x4000), (0x1362, 0x1000),
  (0x1363, 0x4000), (0x1367, 0x1000), (0x1369, 0x4000), (0x1380, 0x0100), (0x1390, 0x4000),
  (0x13A0, 0x0080), (0x13F6, 0x4000), (0x13F8, 0x0040), (0x13FE, 0x4000), (0x1401, 0x0100),
  (0x166D, 0x4000)]

def runs12 : List (Nat × Nat) := [
  (0x166E, 0x1000), (0x166F, 0x0100), (0x1680, 0x0020), (0x1681, 0x0100), (0x169B, 0x2000),
  (0x169D, 0x4000), (0x16A0, 0x0100), (0x16EB, 0x4000), (0x16EE, 0x0100), (0x16F9, 0x4000),
  (0x1700, 0x0100), (0x1712, 0x0004), (0x1716, 0x4000), (0x171F, 0x0100), (0x1732, 0x0004),
  (0x1735, 0x1000), (0x1737, 0x4000), (0x1740, 0x0100), (0x1752, 0x0004), (0x1754, 0x4000),
  (0x1760, 0x0100), (0x176D, 0x4000), (0x176E, 0x0100), (0x1771, 0x4000), (0x1772, 0x0004),
  (0x1774, 0x4000), (0x1780, 0x0100), (0x17B4, 0x0004), (0x17D4, 0x4000), (0x17D7, 0x0100),
  (0x17D8, 0x4000), (0x17DC, 0x0100), (0x17DD, 0x0004), (0x17DE, 0x4000), (0x17E0, 0x0200),
  (0x17EA, 0x4000), (0x1802, 0x0800), (0x1803, 0x1000), (0x1804, 0x4000), (0x1808, 0x0800),
  (0x1809, 0x1000), (0x180A, 0x4000), (0x180B, 0x0004), (0x180E, 0x0010), (0x180F, 0x0004),
  (0x1810, 0x0200), (0x181A, 0x4000), (0x1820, 0x0100), (0x1879, 0x4000), (0x1880, 0x0100),
  (0x1885, 0x0004), (0x1887, 0x0100), (0x18A9, 0x0004), (0x18AA, 0x0100), (0x18AB, 0x4000),
  (0x18B0, 0x0100), (0x18F6, 0x4000), (0x1900, 0x0100), (0x191F, 0x4000), (0x1920, 0x0004),
  (0x192C, 0x4000), (0x1930, 0x0004), (0x193C, 0x4000), (0x1944, 0x1000), (0x1946, 0x0200),
  (0x1950, 0x0100), (0x196E, 0x4000), (0x1970, 0x0100), (0x1975, 0x4000), (0x1980, 0x0100),
  (0x19AC, 0x4000), (0x19B0, 0x0100), (0x19CA, 0x4000), (0x19D0, 0x0200), (0x19DA, 0x4000),
  (0x1A00, 0x0100), (0x1A17, 0x0004), (0x1A1C, 0x4000), (0x1A20, 0x0100), (0x1A55, 0x0004),
  (0x1A5F, 0x4000), (0x1A60, 0x0004), (0x1A7D, 0x4000), (0x1A7F, 0x0004), (0x1A80, 0x0200),
  (0x1A8A, 0x4000), (0x1A90, 0x0200), (0x1A9A, 0x4000), (0x1AA7, 0x0100), (0x1AA8, 0x1000),
  (0x1AAC, 0x4000), (0x1AB0, 0x0004), (0x1ACF, 0x4000), (0x1B00, 0x0004), (0x1B05, 0x0100),
  (0x1B34, 0x0004)]

def runs13 : List (Nat × Nat) := [
  (0x1B45, 0x0100), (0x1B4D, 0x4000), (0x1B50, 0x0200), (0x1B5A, 0x1000), (0x1B5C, 0x4000),
  (0x1B5E, 0x1000), (0x1B60, 0x4000), (0x1B6B, 0x0004), (0x1B74, 0x4000), (0x1B7D, 0x1000),
  (0x1B7F, 0x4000), (0x1B80, 0x0004), (0x1B83, 0x0100), (0x1BA1, 0x0004), (0x1BAE, 0x0100),
  (0x1BB0, 0x0200), (0x1BBA, 0x0100), (0x1BE6, 0x0004), (0x1BF4, 0x4000), (0x1C00, 0x0100),
  (0x1C24, 0x0004), (0x1C38, 0x4000), (0x1C3B, 0x1000), (0x1C3D, 0x4000), (0x1C40, 0x0200),
  (0x1C4A, 0x4000), (0x1C4D, 0x0100), (0x1C50, 0x0200), (0x1C5A, 0x0100), (0x1C7E, 0x1000),
  (0x1C80, 0x0040), (0x1C89, 0x4000), (0x1C90, 0x0100), (0x1CBB, 0x4000), (0x1CBD, 0x0100),
  (0x1CC0, 0x4000), (0x1CD0, 0x0004), (0x1CD3, 0x4000), (0x1CD4, 0x0004), (0x1CE9, 0x0100),
  (0x1CED, 0x0004), (0x1CEE, 0x0100), (0x1CF4, 0x0004), (0x1CF5, 0x0100), (0x1CF7, 0x0004),
  (0x1CFA, 0x0100), (0x1CFB, 0x4000), (0x1D00, 0x0040), (0x1DC0, 0x0004), (0x1E00, 0x0080),
  (0x1E01, 0x0040), (0x1E02, 0x0080), (0x1E03, 0x0040), (0x1E04, 0x0080), (0x1E05, 0x0040),
  (0x1E06, 0x0080), (0x1E07, 0x0040), (0x1E08, 0x0080), (0x1E09, 0x0040), (0x1E0A, 0x0080),
  (0x1E0B, 0x0040), (0x1E0C, 0x0080), (0x1E0D, 0x0040), (0x1E0E, 0x0080), (0x1E0F, 0x0040),
  (0x1E10, 0x0080), (0x1E11, 0x0040), (0x1E12, 0x0080), (0x1E13, 0x0040), (0x1E14, 0x0080),
  (0x1E15, 0x0040), (0x1E16, 0x0080), (0x1E17, 0x0040), (0x1E18, 0x0080), (0x1E19, 0x0040),
  (0x1E1A, 0x0080), (0x1E1B, 0x0040), (0x1E1C, 0x0080), (0x1E1D, 0x0040), (0x1E1E, 0x0080),
  (0x1E1F, 0x0040), (0x1E20, 0x0080), (0x1E21, 0x0040), (0x1E22, 0x0080), (0x1E23, 0x0040),
  (0x1E24, 0x0080), (0x1E25, 0x0040), (0x1E26, 0x0080), (0x1E27, 0x0040), (0x1E28, 0x0080),
  (0x1E29, 0x0040), (0x1E2A, 0x0080), (0x1E2B, 0x0040), (0x1E2C, 0x0080), (0x1E2D, 0x0040),
  (0x1E2E, 0x0080)]

def runs14 : List (Nat × Nat) := [
  (0x1E2F, 0x0040), (0x1E30, 0x0080), (0x1E31, 0x0040), (0x1E32, 0x0080), (0x1E33, 0x0040),
  (0x1E34, 0x0080), (0x1E35, 0x0040), (0x1E36, 0x0080), (0x1E37, 0x0040), (0x1E38, 0x0080),
  (0x1E39, 0x0040), (0x1E3A, 0x0080), (0x1E3B, 0x0040), (0x1E3C, 0x0080), (0x1E3D, 0x0040),
  (0x1E3E, 0x0080), (0x1E3F, 0x0040), (0x1E40, 0x0080), (0x1E41, 0x0040), (0x1E42, 0x0080),
  (0x1E43, 0x0040), (0x1E44, 0x0080), (0x1E45, 0x0040), (0x1E46, 0x0080), (0x1E47, 0x0040),
  (0x1E48, 0x0080), (0x1E49, 0x0040), (0x1E4A, 0x0080), (0x1E4B, 0x0040), (0x1E4C, 0x0080),
  (0x1E4D, 0x0040), (0x1E4E, 0x0080), (0x1E4F, 0x0040), (0x1E50, 0x0080), (0x1E51, 0x0040),
  (0x1E52, 0x0080), (0x1E53, 0x0040), (0x1E54, 0x0080), (0x1E55, 0x0040), (0x1E56, 0x0080),
  (0x1E57, 0x0040), (0x1E58, 0x0080), (0x1E59, 0x0040), (0x1E5A, 0x0080), (0x1E5B, 0x0040),
  (0x1E5C, 0x0080), (0x1E5D, 0x0040), (0x1E5E, 0x0080), (0x1E5F, 0x0040), (0x1E60, 0x0080),
  (0x1E61, 0x0040), (0x1E62, 0x0080), (0x1E63, 0x0040), (0x1E64, 0x0080), (0x1E65, 0x0040),
  (0x1E66, 0x0080), (0x1E67, 0x0040), (0x1E68, 0x0080), (0x1E69, 0x0040), (0x1E6A, 0x0080),
  (0x1E6B, 0x0040), (0x1E6C, 0x0080), (0x1E6D, 0x0040), (0x1E6E, 0x0080), (0x1E6F, 0x0040),
  (0x1E70, 0x0080), (0x1E71, 0x0040), (0x1E72, 0x0080), (0x1E73, 0x0040), (0x1E74, 0x0080),
  (0x1E75, 0x0040), (0x1E76, 0x0080), (0x1E77, 0x0040), (0x1E78, 0x0080), (0x1E79, 0x0040),
  (0x1E7A, 0x0080), (0x1E7B, 0x0040), (0x1E7C, 0x0080), (0x1E7D, 0x0040), (0x1E7E, 0x0080),
  (0x1E7F, 0x0040), (0x1E80, 0x0080), (0x1E81, 0x0040), (0x1E82, 0x0080), (0x1E83, 0x0040),
  (0x1E84, 0x0080), (0x1E85, 0x0040), (0x1E86, 0x0080), (0x1E87, 0x0040), (0x1E88, 0x0080),
  (0x1E89, 0x0040), (0x1E8A, 0x0080), (0x1E8B, 0x0040), (0x1E8C, 0x0080), (0x1E8D, 0x0040),
  (0x1E8E, 0x0080)]

def runs15 : List (Nat × Nat) := [
  (0x1E8F, 0x0040), (0x1E90, 0x0080), (0x1E91, 0x0040), (0x1E92, 0x0080), (0x1E93, 0x0040),
  (0x1E94, 0x0080), (0x1E95, 0x0040), (0x1E9E, 0x0080), (0x1E9F, 0x0040), (0x1EA0, 0x0080),
  (0x1EA1, 0x0040), (0x1EA2, 0x0080), (0x1EA3, 0x0040), (0x1EA4, 0x0080), (0x1EA5, 0x0040),
  (0x1EA6, 0x0080), (0x1EA7, 0x0040), (0x1EA8, 0x0080), (0x1EA9, 0x0040), (0x1EAA, 0x0080),
  (0x1EAB, 0x0040), (0x1EAC, 0x0080), (0x1EAD, 0x0040), (0x1EAE, 0x0080), (0x1EAF, 0x0040),
  (0x1EB0, 0x0080), (0x1EB1, 0x0040), (0x1EB2, 0x0080), (0x1EB3, 0x0040), (0x1EB4, 0x0080),
  (0x1EB5, 0x0040), (0x1EB6, 0x0080), (0x1EB7, 0x0040), (0x1EB8, 0x0080), (0x1EB9, 0x0040),
  (0x1EBA, 0x0080), (0x1EBB, 0x0040), (0x1EBC, 0x0080), (0x1EBD, 0x0040), (0x1EBE, 0x0080),
  (0x1EBF, 0x0040), (0x1EC0, 0x0080), (0x1EC1, 0x0040), (0x1EC2, 0x0080), (0x1EC3, 0x0040),
  (0x1EC4, 0x0080), (0x1EC5, 0x0040), (0x1EC6, 0x0080), (0x1EC7, 0x0040), (0x1EC8, 0x0080),
  (0x1EC9, 0x0040), (0x1ECA, 0x0080), (0x1ECB, 0x0040), (0x1ECC, 0x0080), (0x1ECD, 0x0040),
  (0x1ECE, 0x0080), (0x1ECF, 0x0040), (0x1ED0, 0x0080), (0x1ED1, 0x0040), (0x1ED2, 0x0080),
  (0x1ED3, 0x0040), (0x1ED4, 0x0080), (0x1ED5, 0x0040), (0x1ED6, 0x0080), (0x1ED7, 0x0040),
  (0x1ED8, 0x0080), (0x1ED9, 0x0040), (0x1EDA, 0x0080), (0x1EDB, 0x0040), (0x1EDC, 0x0080),
  (0x1EDD, 0x0040), (0x1EDE, 0x0080), (0x1EDF, 0x0040), (0x1EE0, 0x0080), (0x1EE1, 0x0040),
  (0x1EE2, 0x0080), (0x1EE3, 0x0040), (0x1EE4, 0x0080), (0x1EE5, 0x0040), (0x1EE6, 0x0080),
  (0x1EE7, 0x0040), (0x1EE8, 0x0080), (0x1EE9, 0x0040), (0x1EEA, 0x0080), (0x1EEB, 0x0040),
  (0x1EEC, 0x0080), (0x1EED, 0x0040), (0x1EEE, 0x0080), (0x1EEF, 0x0040), (0x1EF0, 0x0080),
  (0x1EF1, 0x0040), (0x1EF2, 0x0080), (0x1EF3, 0x0040), (0x1EF4, 0x0080), (0x1EF5, 0x0040),
  (0x1EF6, 0x0080)]

def runs16 : List (Nat × Nat) := [
  (0x1EF7, 0x0040), (0x1EF8, 0x0080), (0x1EF9, 0x0040), (0x1EFA, 0x0080), (0x1EFB, 0x0040),
  (0x1EFC, 0x0080), (0x1EFD, 0x0040), (0x1EFE, 0x0080), (0x1EFF, 0x0040), (0x1F08, 0x0080),
  (0x1F10, 0x0040), (0x1F16, 0x4000), (0x1F18, 0x0080), (0x1F1E, 0x4000), (0x1F20, 0x0040),
  (0x1F28, 0x0080), (0x1F30, 0x0040), (0x1F38, 0x0080), (0x1F40, 0x0040), (0x1F46, 0x4000),
  (0x1F48, 0x0080), (0x1F4E, 0x4000), (0x1F50, 0x0040), (0x1F58, 0x4000), (0x1F59, 0x0080),
  (0x1F5A, 0x4000), (0x1F5B, 0x0080), (0x1F5C, 0x4000), (0x1F5D, 0x0080), (0x1F5E, 0x4000),
  (0x1F5F, 0x0080), (0x1F60, 0x0040), (0x1F68, 0x0080), (0x1F70, 0x0040), (0x1F7E, 0x4000),
  (0x1F80, 0x0040), (0x1F88, 0x0080), (0x1F90, 0x0040), (0x1F98, 0x0080), (0x1FA0, 0x0040),
  (0x1FA8, 0x0080), (0x1FB0, 0x0040), (0x1FB5, 0x4000), (0x1FB6, 0x0040), (0x1FB8, 0x0080),
  (0x1FBD, 0x4000), (0x1FBE, 0x0040), (0x1FBF, 0x4000), (0x1FC2, 0x0040), (0x1FC5, 0x4000),
  (0x1FC6, 0x0040), (0x1FC8, 0x0080), (0x1FCD, 0x4000), (0x1FD0, 0x0040), (0x1FD4, 0x4000),
  (0x1FD6, 0x0040), (0x1FD8, 0x0080), (0x1FDC, 0x4000), (0x1FE0, 0x0040), (0x1FE8, 0x0080),
  (0x1FED, 0x4000), (0x1FF2, 0x0040), (0x1FF5, 0x4000), (0x1FF6, 0x0040), (0x1FF8, 0x0080),
  (0x1FFD, 0x4000), (0x2000, 0x0020), (0x200B, 0x0010), (0x200C, 0x0004), (0x200E, 0x0010),
  (0x2010, 0x4000), (0x2013, 0x0800), (0x2015, 0x4000), (0x2018, 0x2000), (0x2020, 0x4000),
  (0x2024, 0x0400), (0x2025, 0x4000), (0x2028, 0x0008), (0x202A, 0x0010), (0x202F, 0x0020),
  (0x2030, 0x4000), (0x2039, 0x2000), (0x203B, 0x4000), (0x203C, 0x1000), (0x203E, 0x4000),
  (0x2045, 0x2000), (0x2047, 0x1000), (0x204A, 0x4000), (0x205F, 0x0020), (0x2060, 0x0010),
  (0x2065, 0x4000), (0x2066, 0x0010), (0x2070, 0x4000), (0x2071, 0x0040), (0x2072, 0x4000),
  (0x207D, 0x2000)]

def runs17 : List (Nat × Nat) := [
  (0x207F, 0x0040), (0x2080, 0x4000), (0x208D, 0x2000), (0x208F, 0x4000), (0x2090, 0x0040),
  (0x209D, 0x4000), (0x20D0, 0x0004), (0x20F1, 0x4000), (0x2102, 0x0080), (0x2103, 0x4000),
  (0x2107, 0x0080), (0x2108, 0x4000), (0x210A, 0x0040), (0x210B, 0x0080), (0x210E, 0x0040),
  (0x2110, 0x0080), (0x2113, 0x0040), (0x2114, 0x4000), (0x2115, 0x0080), (0x2116, 0x4000),
  (0x2119, 0x0080), (0x211E, 0x4000), (0x2124, 0x0080), (0x2125, 0x4000), (0x2126, 0x0080),
  (0x2127, 0x4000), (0x2128, 0x0080), (0x2129, 0x4000), (0x212A, 0x0080), (0x212E, 0x4000),
  (0x212F, 0x0040), (0x2130, 0x0080), (0x2134, 0x0040), (0x2135, 0x0100), (0x2139, 0x0040),
  (0x213A, 0x4000), (0x213C, 0x0040), (0x213E, 0x0080), (0x2140, 0x4000), (0x2145, 0x0080),
  (0x2146, 0x0040), (0x214A, 0x4000), (0x214E, 0x0040), (0x214F, 0x4000), (0x2160, 0x0080),
  (0x2170, 0x0040), (0x2180, 0x0100), (0x2183, 0x0080), (0x2184, 0x0040), (0x2185, 0x0100),
  (0x2189, 0x4000), (0x2308, 0x2000), (0x230C, 0x4000), (0x2329, 0x2000), (0x232B, 0x4000),
  (0x24B6, 0x0080), (0x24D0, 0x0040), (0x24EA, 0x4000), (0x275B, 0x2000), (0x2761, 0x4000),
  (0x2768, 0x2000), (0x2776, 0x4000), (0x27C5, 0x2000), (0x27C7, 0x4000), (0x27E6, 0x2000),
  (0x27F0, 0x4000), (0x2983, 0x2000), (0x2999, 0x4000), (0x29D8, 0x2000), (0x29DC, 0x4000),
  (0x29FC, 0x2000), (0x29FE, 0x4000), (0x2C00, 0x0080), (0x2C30, 0x0040), (0x2C60, 0x0080),
  (0x2C61, 0x0040), (0x2C62, 0x0080), (0x2C65, 0x0040), (0x2C67, 0x0080), (0x2C68, 0x0040),
  (0x2C69, 0x0080), (0x2C6A, 0x0040), (0x2C6B, 0x0080), (0x2C6C, 0x0040), (0x2C6D, 0x0080),
  (0x2C71, 0x0040), (0x2C72, 0x0080), (0x2C73, 0x0040), (0x2C75, 0x0080), (0x2C76, 0x0040),
  (0x2C7E, 0x0080), (0x2C81, 0x0040), (0x2C82, 0x0080), (0x2C83, 0x0040), (0x2C84, 0x0080),
  (0x2C85, 0x0040)]

def runs18 : List (Nat × Nat) := [
  (0x2C86, 0x0080), (0x2C87, 0x0040), (0x2C88, 0x0080), (0x2C89, 0x0040), (0x2C8A, 0x0080),
  (0x2C8B, 0x0040), (0x2C8C, 0x0080), (0x2C8D, 0x0040), (0x2C8E, 0x0080), (0x2C8F, 0x0040),
  (0x2C90, 0x0080), (0x2C91, 0x0040), (0x2C92, 0x0080), (0x2C93, 0x0040), (0x2C94, 0x0080),
  (0x2C95, 0x0040), (0x2C96, 0x0080), (0x2C97, 0x0040), (0x2C98, 0x0080), (0x2C99, 0x0040),
  (0x2C9A, 0x0080), (0x2C9B, 0x0040), (0x2C9C, 0x0080), (0x2C9D, 0x0040), (0x2C9E, 0x0080),
  (0x2C9F, 0x0040), (0x2CA0, 0x0080), (0x2CA1, 0x0040), (0x2CA2, 0x0080), (0x2CA3, 0x0040),
  (0x2CA4, 0x0080), (0x2CA5, 0x0040), (0x2CA6, 0x0080), (0x2CA7, 0x0040), (0x2CA8, 0x0080),
  (0x2CA9, 0x0040), (0x2CAA, 0x0080), (0x2CAB, 0x0040), (0x2CAC, 0x0080), (0x2CAD, 0x0040),
  (0x2CAE, 0x0080), (0x2CAF, 0x0040), (0x2CB0, 0x0080), (0x2CB1, 0x0040), (0x2CB2, 0x0080),
  (0x2CB3, 0x0040), (0x2CB4, 0x0080), (0x2CB5, 0x0040), (0x2CB6, 0x0080), (0x2CB7, 0x0040),
  (0x2CB8, 0x0080), (0x2CB9, 0x0040), (0x2CBA, 0x0080), (0x2CBB, 0x0040), (0x2CBC, 0x0080),
  (0x2CBD, 0x0040), (0x2CBE, 0x0080), (0x2CBF, 0x0040), (0x2CC0, 0x0080), (0x2CC1, 0x0040),
  (0x2CC2, 0x0080), (0x2CC3, 0x0040), (0x2CC4, 0x0080), (0x2CC5, 0x0040), (0x2CC6, 0x0080),
  (0x2CC7, 0x0040), (0x2CC8, 0x0080), (0x2CC9, 0x0040), (0x2CCA, 0x0080), (0x2CCB, 0x0040),
  (0x2CCC, 0x0080), (0x2CCD, 0x0040), (0x2CCE, 0x0080), (0x2CCF, 0x0040), (0x2CD0, 0x0080),
  (0x2CD1, 0x0040), (0x2CD2, 0x0080), (0x2CD3, 0x0040), (0x2CD4, 0x0080), (0x2CD5, 0x0040),
  (0x2CD6, 0x0080), (0x2CD7, 0x0040), (0x2CD8, 0x0080), (0x2CD9, 0x0040), (0x2CDA, 0x0080),
  (0x2CDB, 0x0040), (0x2CDC, 0x0080), (0x2CDD, 0x0040), (0x2CDE, 0x0080), (0x2CDF, 0x0040),
  (0x2CE0, 0x0080), (0x2CE1, 0x0040), (0x2CE2, 0x0080), (0x2CE3, 0x0040), (0x2CE5, 0x4000),
  (0x2CEB, 0x0080)]

def runs19 : List (Nat × Nat) := [
  (0x2CEC, 0x0040), (0x2CED, 0x0080), (0x2CEE, 0x0040), (0x2CEF, 0x0004), (0x2CF2, 0x0080),
  (0x2CF3, 0x0040), (0x2CF4, 0x4000), (0x2D00, 0x0040), (0x2D26, 0x4000), (0x2D27, 0x0040),
  (0x2D28, 0x4000), (0x2D2D, 0x0040), (0x2D2E, 0x4000), (0x2D30, 0x0100), (0x2D68, 0x4000),
  (0x2D6F, 0x0100), (0x2D70, 0x4000), (0x2D7F, 0x0004), (0x2D80, 0x0100), (0x2D97, 0x4000),
  (0x2DA0, 0x0100), (0x2DA7, 0x4000), (0x2DA8, 0x0100), (0x2DAF, 0x4000), (0x2DB0, 0x0100),
  (0x2DB7, 0x4000), (0x2DB8, 0x0100), (0x2DBF, 0x4000), (0x2DC0, 0x0100), (0x2DC7, 0x4000),
  (0x2DC8, 0x0100), (0x2DCF, 0x4000), (0x2DD0, 0x0100), (0x2DD7, 0x4000), (0x2DD8, 0x0100),
  (0x2DDF, 0x4000), (0x2DE0, 0x0004), (0x2E00, 0x2000), (0x2E0E, 0x4000), (0x2E1C, 0x2000),
  (0x2E1E, 0x4000), (0x2E20, 0x2000), (0x2E2A, 0x4000), (0x2E2E, 0x1000), (0x2E2F, 0x0100),
  (0x2E30, 0x4000), (0x2E3C, 0x1000), (0x2E3D, 0x4000), (0x2E42, 0x2000), (0x2E43, 0x4000),
  (0x2E53, 0x1000), (0x2E55, 0x2000), (0x2E5D, 0x4000), (0x3000, 0x0020), (0x3001, 0x0800),
  (0x3002, 0x1000), (0x3003, 0x4000), (0x3005, 0x0100), (0x3008, 0x2000), (0x3012, 0x4000),
  (0x3014, 0x2000), (0x301C, 0x4000), (0x301D, 0x2000), (0x3020, 0x4000), (0x3021, 0x0100),
  (0x302A, 0x0004), (0x3030, 0x4000), (0x3031, 0x0100), (0x3036, 0x4000), (0x3038, 0x0100),
  (0x303D, 0x4000), (0x3041, 0x0100), (0x3097, 0x4000), (0x3099, 0x0004), (0x309B, 0x4000),
  (0x309D, 0x0100), (0x30A0, 0x4000), (0x30A1, 0x0100), (0x30FB, 0x4000), (0x30FC, 0x0100),
  (0x3100, 0x4000), (0x3105, 0x0100), (0x3130, 0x4000), (0x3131, 0x0100), (0x318F, 0x4000),
  (0x31A0, 0x0100), (0x31C0, 0x4000), (0x31F0, 0x0100), (0x3200, 0x4000), (0x3400, 0x0100),
  (0x4DC0, 0x4000), (0x4E00, 0x0100), (0xA48D, 0x4000), (0xA4D0, 0x0100), (0xA4FE, 0x4000),
  (0xA4FF, 0x1000)]

def runs20 : List (Nat × Nat) := [
  (0xA500, 0x0100), (0xA60D, 0x4000), (0xA60E, 0x1000), (0xA610, 0x0100), (0xA620, 0x0200),
  (0xA62A, 0x0100), (0xA62C, 0x4000), (0xA640, 0x0080), (0xA641, 0x0040), (0xA642, 0x0080),
  (0xA643, 0x0040), (0xA644, 0x0080), (0xA645, 0x0040), (0xA646, 0x0080), (0xA647, 0x0040),
  (0xA648, 0x0080), (0xA649, 0x0040), (0xA64A, 0x0080), (0xA64B, 0x0040), (0xA64C, 0x0080),
  (0xA64D, 0x0040), (0xA64E, 0x0080), (0xA64F, 0x0040), (0xA650, 0x0080), (0xA651, 0x0040),
  (0xA652, 0x0080), (0xA653, 0x0040), (0xA654, 0x0080), (0xA655, 0x0040), (0xA656, 0x0080),
  (0xA657, 0x0040), (0xA658, 0x0080), (0xA659, 0x0040), (0xA65A, 0x0080), (0xA65B, 0x0040),
  (0xA65C, 0x0080), (0xA65D, 0x0040), (0xA65E, 0x0080), (0xA65F, 0x0040), (0xA660, 0x0080),
  (0xA661, 0x0040), (0xA662, 0x0080), (0xA663, 0x0040), (0xA664, 0x0080), (0xA665, 0x0040),
  (0xA666, 0x0080), (0xA667, 0x0040), (0xA668, 0x0080), (0xA669, 0x0040), (0xA66A, 0x0080),
  (0xA66B, 0x0040), (0xA66C, 0x0080), (0xA66D, 0x0040), (0xA66E, 0x0100), (0xA66F, 0x0004),
  (0xA673, 0x4000), (0xA674, 0x0004), (0xA67E, 0x4000), (0xA67F, 0x0100), (0xA680, 0x0080),
  (0xA681, 0x0040), (0xA682, 0x0080), (0xA683, 0x0040), (0xA684, 0x0080), (0xA685, 0x0040),
  (0xA686, 0x0080), (0xA687, 0x0040), (0xA688, 0x0080), (0xA689, 0x0040), (0xA68A, 0x0080),
  (0xA68B, 0x0040), (0xA68C, 0x0080), (0xA68D, 0x0040), (0xA68E, 0x0080), (0xA68F, 0x0040),
  (0xA690, 0x0080), (0xA691, 0x0040), (0xA692, 0x0080), (0xA693, 0x0040), (0xA694, 0x0080),
  (0xA695, 0x0040), (0xA696, 0x0080), (0xA697, 0x0040), (0xA698, 0x0080), (0xA699, 0x0040),
  (0xA69A, 0x0080), (0xA69B, 0x0040), (0xA69E, 0x0004), (0xA6A0, 0x0100), (0xA6F0, 0x0004),
  (0xA6F2, 0x4000), (0xA6F3, 0x1000), (0xA6F4, 0x4000), (0xA6F7, 0x1000), (0xA6F8, 0x4000),
  (0xA717, 0x0100)]

def runs21 : List (Nat × Nat) := [
  (0xA720, 0x4000), (0xA722, 0x0080), (0xA723, 0x0040), (0xA724, 0x0080), (0xA725, 0x0040),
  (0xA726, 0x0080), (0xA727, 0x0040), (0xA728, 0x0080), (0xA729, 0x0040), (0xA72A, 0x0080),
  (0xA72B, 0x0040), (0xA72C, 0x0080), (0xA72D, 0x0040), (0xA72E, 0x0080), (0xA72F, 0x0040),
  (0xA732, 0x0080), (0xA733, 0x0040), (0xA734, 0x0080), (0xA735, 0x0040), (0xA736, 0x0080),
  (0xA737, 0x0040), (0xA738, 0x0080), (0xA739, 0x0040), (0xA73A, 0x0080), (0xA73B, 0x0040),
  (0xA73C, 0x0080), (0xA73D, 0x0040), (0xA73E, 0x0080), (0xA73F, 0x0040), (0xA740, 0x0080),
  (0xA741, 0x0040), (0xA742, 0x0080), (0xA743, 0x0040), (0xA744, 0x0080), (0xA745, 0x0040),
  (0xA746, 0x0080), (0xA747, 0x0040), (0xA748, 0x0080), (0xA749, 0x0040), (0xA74A, 0x0080),
  (0xA74B, 0x0040), (0xA74C, 0x0080), (0xA74D, 0x0040), (0xA74E, 0x0080), (0xA74F, 0x0040),
  (0xA750, 0x0080), (0xA751, 0x0040), (0xA752, 0x0080), (0xA753, 0x0040), (0xA754, 0x0080),
  (0xA755, 0x0040), (0xA756, 0x0080), (0xA757, 0x0040), (0xA758, 0x0080), (0xA759, 0x0040),
  (0xA75A, 0x0080), (0xA75B, 0x0040), (0xA75C, 0x0080), (0xA75D, 0x0040), (0xA75E, 0x0080),
  (0xA75F, 0x0040), (0xA760, 0x0080), (0xA761, 0x0040), (0xA762, 0x0080), (0xA763, 0x0040),
  (0xA764, 0x0080), (0xA765, 0x0040), (0xA766, 0x0080), (0xA767, 0x0040), (0xA768, 0x0080),
  (0xA769, 0x0040), (0xA76A, 0x0080), (0xA76B, 0x0040), (0xA76C, 0x0080), (0xA76D, 0x0040),
  (0xA76E, 0x0080), (0xA76F, 0x0040), (0xA779, 0x0080), (0xA77A, 0x0040), (0xA77B, 0x0080),
  (0xA77C, 0x0040), (0xA77D, 0x0080), (0xA77F, 0x0040), (0xA780, 0x0080), (0xA781, 0x0040),
  (0xA782, 0x0080), (0xA783, 0x0040), (0xA784, 0x0080), (0xA785, 0x0040), (0xA786, 0x0080),
  (0xA787, 0x0040), (0xA788, 0x0100), (0xA789, 0x4000), (0xA78B, 0x0080), (0xA78C, 0x0040),
  (0xA78D, 0x0080)]

def runs22 : List (Nat × Nat) := [
  (0xA78E, 0x0040), (0xA78F, 0x0100), (0xA790, 0x0080), (0xA791, 0x0040), (0xA792, 0x0080),
  (0xA793, 0x0040), (0xA796, 0x0080), (0xA797, 0x0040), (0xA798, 0x0080), (0xA799, 0x0040),
  (0xA79A, 0x0080), (0xA79B, 0x0040), (0xA79C, 0x0080), (0xA79D, 0x0040), (0xA79E, 0x0080),
  (0xA79F, 0x0040), (0xA7A0, 0x0080), (0xA7A1, 0x0040), (0xA7A2, 0x0080), (0xA7A3, 0x0040),
  (0xA7A4, 0x0080), (0xA7A5, 0x0040), (0xA7A6, 0x0080), (0xA7A7, 0x0040), (0xA7A8, 0x0080),
  (0xA7A9, 0x0040), (0xA7AA, 0x0080), (0xA7AF, 0x0040), (0xA7B0, 0x0080), (0xA7B5, 0x0040),
  (0xA7B6, 0x0080), (0xA7B7, 0x0040), (0xA7B8, 0x0080), (0xA7B9, 0x0040), (0xA7BA, 0x0080),
  (0xA7BB, 0x0040), (0xA7BC, 0x0080), (0xA7BD, 0x0040), (0xA7BE, 0x0080), (0xA7BF, 0x0040),
  (0xA7C0, 0x0080), (0xA7C1, 0x0040), (0xA7C2, 0x0080), (0xA7C3, 0x0040), (0xA7C4, 0x0080),
  (0xA7C8, 0x0040), (0xA7C9, 0x0080), (0xA7CA, 0x0040), (0xA7CB, 0x4000), (0xA7D0, 0x0080),
  (0xA7D1, 0x0040), (0xA7D2, 0x4000), (0xA7D3, 0x0040), (0xA7D4, 0x4000), (0xA7D5, 0x0040),
  (0xA7D6, 0x0080), (0xA7D7, 0x0040), (0xA7D8, 0x0080), (0xA7D9, 0x0040), (0xA7DA, 0x4000),
  (0xA7F2, 0x0100), (0xA7F5, 0x0080), (0xA7F6, 0x0040), (0xA7F7, 0x0100), (0xA7F8, 0x0040),
  (0xA7FB, 0x0100), (0xA802, 0x0004), (0xA803, 0x0100), (0xA806, 0x0004), (0xA807, 0x0100),
  (0xA80B, 0x0004), (0xA80C, 0x0100), (0xA823, 0x0004), (0xA828, 0x4000), (0xA82C, 0x0004),
  (0xA82D, 0x4000), (0xA840, 0x0100), (0xA874, 0x4000), (0xA876, 0x1000), (0xA878, 0x4000),
  (0xA880, 0x0004), (0xA882, 0x0100), (0xA8B4, 0x0004), (0xA8C6, 0x4000), (0xA8CE, 0x1000),
  (0xA8D0, 0x0200), (0xA8DA, 0x4000), (0xA8E0, 0x0004), (0xA8F2, 0x0100), (0xA8F8, 0x4000),
  (0xA8FB, 0x0100), (0xA8FC, 0x4000), (0xA8FD, 0x0100), (0xA8FF, 0x0004), (0xA900, 0x0200),
  (0xA90A, 0x0100)]

def runs23 : List (Nat × Nat) := [
  (0xA926, 0x0004), (0xA92E, 0x4000), (0xA92F, 0x1000), (0xA930, 0x0100), (0xA947, 0x0004),
  (0xA954, 0x4000), (0xA960, 0x0100), (0xA97D, 0x4000), (0xA980, 0x0004), (0xA984, 0x0100),
  (0xA9B3, 0x0004), (0xA9C1, 0x4000), (0xA9C8, 0x1000), (0xA9CA, 0x4000), (0xA9CF, 0x0100),
  (0xA9D0, 0x0200), (0xA9DA, 0x4000), (0xA9E0, 0x0100), (0xA9E5, 0x0004), (0xA9E6, 0x0100),
  (0xA9F0, 0x0200), (0xA9FA, 0x0100), (0xA9FF, 0x4000), (0xAA00, 0x0100), (0xAA29, 0x0004),
  (0xAA37, 0x4000), (0xAA40, 0x0100), (0xAA43, 0x0004), (0xAA44, 0x0100), (0xAA4C, 0x0004),
  (0xAA4E, 0x4000), (0xAA50, 0x0200), (0xAA5A, 0x4000), (0xAA5D, 0x1000), (0xAA60, 0x0100),
  (0xAA77, 0x4000), (0xAA7A, 0x0100), (0xAA7B, 0x0004), (0xAA7E, 0x0100), (0xAAB0, 0x0004),
  (0xAAB1, 0x0100), (0xAAB2, 0x0004), (0xAAB5, 0x0100), (0xAAB7, 0x0004), (0xAAB9, 0x0100),
  (0xAABE, 0x0004), (0xAAC0, 0x0100), (0xAAC1, 0x0004), (0xAAC2, 0x0100), (0xAAC3, 0x4000),
  (0xAADB, 0x0100), (0xAADE, 0x4000), (0xAAE0, 0x0100), (0xAAEB, 0x0004), (0xAAF0, 0x1000),
  (0xAAF2, 0x0100), (0xAAF5, 0x0004), (0xAAF7, 0x4000), (0xAB01, 0x0100), (0xAB07, 0x4000),
  (0xAB09, 0x0100), (0xAB0F, 0x4000), (0xAB11, 0x0100), (0xAB17, 0x4000), (0xAB20, 0x0100),
  (0xAB27, 0x4000), (0xAB28, 0x0100), (0xAB2F, 0x4000), (0xAB30, 0x0040), (0xAB5B, 0x4000),
  (0xAB5C, 0x0040), (0xAB69, 0x0100), (0xAB6A, 0x4000), (0xAB70, 0x0040), (0xABC0, 0x0100),
  (0xABE3, 0x0004), (0xABEB, 0x1000), (0xABEC, 0x0004), (0xABEE, 0x4000), (0xABF0, 0x0200),
  (0xABFA, 0x4000), (0xAC00, 0x0100), (0xD7A4, 0x4000), (0xD7B0, 0x0100), (0xD7C7, 0x4000),
  (0xD7CB, 0x0100), (0xD7FC, 0x4000), (0xF900, 0x0100), (0xFA6E, 0x4000), (0xFA70, 0x0100),
  (0xFADA, 0x4000), (0xFB00, 0x0040), (0xFB07, 0x4000), (0xFB13, 0x0040), (0xFB18, 0x4000),
  (0xFB1D, 0x0100)]

def runs24 : List (Nat × Nat) := [
  (0xFB1E, 0x0004), (0xFB1F, 0x0100), (0xFB29, 0x4000), (0xFB2A, 0x0100), (0xFB37, 0x4000),
  (0xFB38, 0x0100), (0xFB3D, 0x4000), (0xFB3E, 0x0100), (0xFB3F, 0x4000), (0xFB40, 0x0100),
  (0xFB42, 0x4000), (0xFB43, 0x0100), (0xFB45, 0x4000), (0xFB46, 0x0100), (0xFBB2, 0x4000),
  (0xFBD3, 0x0100), (0xFD3E, 0x2000), (0xFD40, 0x4000), (0xFD50, 0x0100), (0xFD90, 0x4000),
  (0xFD92, 0x0100), (0xFDC8, 0x4000), (0xFDF0, 0x0100), (0xFDFC, 0x4000), (0xFE00, 0x0004),
  (0xFE10, 0x0800), (0xFE12, 0x4000), (0xFE13, 0x0800), (0xFE14, 0x4000), (0xFE17, 0x2000),
  (0xFE19, 0x4000), (0xFE20, 0x0004), (0xFE30, 0x4000), (0xFE31, 0x0800), (0xFE33, 0x4000),
  (0xFE35, 0x2000), (0xFE45, 0x4000), (0xFE47, 0x2000), (0xFE49, 0x4000), (0xFE50, 0x0800),
  (0xFE52, 0x0400), (0xFE53, 0x4000), (0xFE55, 0x0800), (0xFE56, 0x1000), (0xFE58, 0x0800),
  (0xFE59, 0x2000), (0xFE5F, 0x4000), (0xFE63, 0x0800), (0xFE64, 0x4000), (0xFE70, 0x0100),
  (0xFE75, 0x4000), (0xFE76, 0x0100), (0xFEFD, 0x4000), (0xFEFF, 0x0010), (0xFF00, 0x4000),
  (0xFF01, 0x1000), (0xFF02, 0x4000), (0xFF08, 0x2000), (0xFF0A, 0x4000), (0xFF0C, 0x0800),
  (0xFF0E, 0x0400), (0xFF0F, 0x4000), (0xFF10, 0x0200), (0xFF1A, 0x0800), (0xFF1B, 0x4000),
  (0xFF1F, 0x1000), (0xFF20, 0x4000), (0xFF21, 0x0080), (0xFF3B, 0x2000), (0xFF3C, 0x4000),
  (0xFF3D, 0x2000), (0xFF3E, 0x4000), (0xFF41, 0x0040), (0xFF5B, 0x2000), (0xFF5C, 0x4000),
  (0xFF5D, 0x2000), (0xFF5E, 0x4000), (0xFF5F, 0x2000), (0xFF61, 0x1000), (0xFF62, 0x2000),
  (0xFF64, 0x0800), (0xFF65, 0x4000), (0xFF66, 0x0100), (0xFF9E, 0x0004), (0xFFA0, 0x0100),
  (0xFFBF, 0x4000), (0xFFC2, 0x0100), (0xFFC8, 0x4000), (0xFFCA, 0x0100), (0xFFD0, 0x4000),
  (0xFFD2, 0x0100), (0xFFD8, 0x4000), (0xFFDA, 0x0100), (0xFFDD, 0x4000), (0xFFF9, 0x0010),
  (0xFFFC, 0x4000)]

def runs25 : List (Nat × Nat) := [
  (0x10000, 0x0100), (0x1000C, 0x4000), (0x1000D, 0x0100), (0x10027, 0x4000), (0x10028, 0x0100),
  (0x1003B, 0x4000), (0x1003C, 0x0100), (0x1003E, 0x4000), (0x1003F, 0x0100), (0x1004E, 0x4000),
  (0x10050, 0x0100), (0x1005E, 0x4000), (0x10080, 0x0100), (0x100FB, 0x4000), (0x10140, 0x0100),
  (0x10175, 0x4000), (0x101FD, 0x0004), (0x101FE, 0x4000), (0x10280, 0x0100), (0x1029D, 0x4000),
  (0x102A0, 0x0100), (0x102D1, 0x4000), (0x102E0, 0x0004), (0x102E1, 0x4000), (0x10300, 0x0100),
  (0x10320, 0x4000), (0x1032D, 0x0100), (0x1034B, 0x4000), (0x10350, 0x0100), (0x10376, 0x0004),
  (0x1037B, 0x4000), (0x10380, 0x0100), (0x1039E, 0x4000), (0x103A0, 0x0100), (0x103C4, 0x4000),
  (0x103C8, 0x0100), (0x103D0, 0x4000), (0x103D1, 0x0100), (0x103D6, 0x4000), (0x10400, 0x0080),
  (0x10428, 0x0040), (0x10450, 0x0100), (0x1049E, 0x4000), (0x104A0, 0x0200), (0x104AA, 0x4000),
  (0x104B0, 0x0080), (0x104D4, 0x4000), (0x104D8, 0x0040), (0x104FC, 0x4000), (0x10500, 0x0100),
  (0x10528, 0x4000), (0x10530, 0x0100), (0x10564, 0x4000), (0x10570, 0x0080), (0x1057B, 0x4000),
  (0x1057C, 0x0080), (0x1058B, 0x4000), (0x1058C, 0x0080), (0x10593, 0x4000), (0x10594, 0x0080),
  (0x10596, 0x4000), (0x10597, 0x0040), (0x105A2, 0x4000), (0x105A3, 0x0040), (0x105B2, 0x4000),
  (0x105B3, 0x0040), (0x105BA, 0x4000), (0x105BB, 0x0040), (0x105BD, 0x4000), (0x10600, 0x0100),
  (0x10737, 0x4000), (0x10740, 0x0100), (0x10756, 0x4000), (0x10760, 0x0100), (0x10768, 0x4000),
  (0x10780, 0x0040), (0x10781, 0x0100), (0x10783, 0x0040), (0x10786, 0x4000), (0x10787, 0x0040),
  (0x107B1, 0x4000), (0x107B2, 0x0040), (0x107BB, 0x4000), (0x10800, 0x0100), (0x10806, 0x4000),
  (0x10808, 0x0100), (0x10809, 0x4000), (0x1080A, 0x0100), (0x10836, 0x4000), (0x10837, 0x0100),
  (0x10839, 0x4000), (0x1083C, 0x0100), (0x1083D, 0x4000), (0x1083F, 0x0100), (0x10856, 0x4000),
  (0x10860, 0x0100)]

def runs26 : List (Nat × Nat) := [
  (0x10877, 0x4000), (0x10880, 0x0100), (0x1089F, 0x4000), (0x108E0, 0x0100), (0x108F3, 0x4000),
  (0x108F4, 0x0100), (0x108F6, 0x4000), (0x10900, 0x0100), (0x10916, 0x4000), (0x10920, 0x0100),
  (0x1093A, 0x4000), (0x10980, 0x0100), (0x109B8, 0x4000), (0x109BE, 0x0100), (0x109C0, 0x4000),
  (0x10A00, 0x0100), (0x10A01, 0x0004), (0x10A04, 0x4000), (0x10A05, 0x0004), (0x10A07, 0x4000),
  (0x10A0C, 0x0004), (0x10A10, 0x0100), (0x10A14, 0x4000), (0x10A15, 0x0100), (0x10A18, 0x4000),
  (0x10A19, 0x0100), (0x10A36, 0x4000), (0x10A38, 0x0004), (0x10A3B, 0x4000), (0x10A3F, 0x0004),
  (0x10A40, 0x4000), (0x10A56, 0x1000), (0x10A58, 0x4000), (0x10A60, 0x0100), (0x10A7D, 0x4000),
  (0x10A80, 0x0100), (0x10A9D, 0x4000), (0x10AC0, 0x0100), (0x10AC8, 0x4000), (0x10AC9, 0x0100),
  (0x10AE5, 0x0004), (0x10AE7, 0x4000), (0x10B00, 0x0100), (0x10B36, 0x4000), (0x10B40, 0x0100),
  (0x10B56, 0x4000), (0x10B60, 0x0100), (0x10B73, 0x4000), (0x10B80, 0x0100), (0x10B92, 0x4000),
  (0x10C00, 0x0100), (0x10C49, 0x4000), (0x10C80, 0x0080), (0x10CB3, 0x4000), (0x10CC0, 0x0040),
  (0x10CF3, 0x4000), (0x10D00, 0x0100), (0x10D24, 0x0004), (0x10D28, 0x4000), (0x10D30, 0x0200),
  (0x10D3A, 0x4000), (0x10E80, 0x0100), (0x10EAA, 0x4000), (0x10EAB, 0x0004), (0x10EAD, 0x4000),
  (0x10EB0, 0x0100), (0x10EB2, 0x4000), (0x10EFD, 0x0004), (0x10F00, 0x0100), (0x10F1D, 0x4000),
  (0x10F27, 0x0100), (0x10F28, 0x4000), (0x10F30, 0x0100), (0x10F46, 0x0004), (0x10F51, 0x4000),
  (0x10F55, 0x1000), (0x10F5A, 0x4000), (0x10F70, 0x0100), (0x10F82, 0x0004), (0x10F86, 0x1000),
  (0x10F8A, 0x4000), (0x10FB0, 0x0100), (0x10FC5, 0x4000), (0x10FE0, 0x0100), (0x10FF7, 0x4000),
  (0x11000, 0x0004), (0x11003, 0x0100), (0x11038, 0x0004), (0x11047, 0x1000), (0x11049, 0x4000),
  (0x11066, 0x0200), (0x11070, 0x0004), (0x11071, 0x0100), (0x11073, 0x0004), (0x11075, 0x0100),
  (0x11076, 0x4000)]

def runs27 : List (Nat × Nat) := [
  (0x1107F, 0x0004), (0x11083, 0x0100), (0x110B0, 0x0004), (0x110BB, 0x4000), (0x110BD, 0x0200),
  (0x110BE, 0x1000), (0x110C2, 0x0004), (0x110C3, 0x4000), (0x110CD, 0x0200), (0x110CE, 0x4000),
  (0x110D0, 0x0100), (0x110E9, 0x4000), (0x110F0, 0x0200), (0x110FA, 0x4000), (0x11100, 0x0004),
  (0x11103, 0x0100), (0x11127, 0x0004), (0x11135, 0x4000), (0x11136, 0x0200), (0x11140, 0x4000),
  (0x11141, 0x1000), (0x11144, 0x0100), (0x11145, 0x0004), (0x11147, 0x0100), (0x11148, 0x4000),
  (0x11150, 0x0100), (0x11173, 0x0004), (0x11174, 0x4000), (0x11176, 0x0100), (0x11177, 0x4000),
  (0x11180, 0x0004), (0x11183, 0x0100), (0x111B3, 0x0004), (0x111C1, 0x0100), (0x111C5, 0x1000),
  (0x111C7, 0x4000), (0x111C9, 0x0004), (0x111CD, 0x1000), (0x111CE, 0x0004), (0x111D0, 0x0200),
  (0x111DA, 0x0100), (0x111DB, 0x4000), (0x111DC, 0x0100), (0x111DD, 0x4000), (0x111DE, 0x1000),
  (0x111E0, 0x4000), (0x11200, 0x0100), (0x11212, 0x4000), (0x11213, 0x0100), (0x1122C, 0x0004),
  (0x11238, 0x1000), (0x1123A, 0x4000), (0x1123B, 0x1000), (0x1123D, 0x4000), (0x1123E, 0x0004),
  (0x1123F, 0x0100), (0x11241, 0x0004), (0x11242, 0x4000), (0x11280, 0x0100), (0x11287, 0x4000),
  (0x11288, 0x0100), (0x11289, 0x4000), (0x1128A, 0x0100), (0x1128E, 0x4000), (0x1128F, 0x0100),
  (0x1129E, 0x4000), (0x1129F, 0x0100), (0x112A9, 0x1000), (0x112AA, 0x4000), (0x112B0, 0x0100),
  (0x112DF, 0x0004), (0x112EB, 0x4000), (0x112F0, 0x0200), (0x112FA, 0x4000), (0x11300, 0x0004),
  (0x11304, 0x4000), (0x11305, 0x0100), (0x1130D, 0x4000), (0x1130F, 0x0100), (0x11311, 0x4000),
  (0x11313, 0x0100), (0x11329, 0x4000), (0x1132A, 0x0100), (0x11331, 0x4000), (0x11332, 0x0100),
  (0x11334, 0x4000), (0x11335, 0x0100), (0x1133A, 0x4000), (0x1133B, 0x0004), (0x1133D, 0x0100),
  (0x1133E, 0x0004), (0x11345, 0x4000), (0x11347, 0x0004), (0x11349, 0x4000), (0x1134B, 0x0004),
  (0x1134E, 0x4000)]

def runs28 : List (Nat × Nat) := [
  (0x11350, 0x0100), (0x11351, 0x4000), (0x11357, 0x0004), (0x11358, 0x4000), (0x1135D, 0x0100),
  (0x11362, 0x0004), (0x11364, 0x4000), (0x11366, 0x0004), (0x1136D, 0x4000), (0x11370, 0x0004),
  (0x11375, 0x4000), (0x11400, 0x0100), (0x11435, 0x0004), (0x11447, 0x0100), (0x1144B, 0x1000),
  (0x1144D, 0x4000), (0x11450, 0x0200), (0x1145A, 0x4000), (0x1145E, 0x0004), (0x1145F, 0x0100),
  (0x11462, 0x4000), (0x11480, 0x0100), (0x114B0, 0x0004), (0x114C4, 0x0100), (0x114C6, 0x4000),
  (0x114C7, 0x0100), (0x114C8, 0x4000), (0x114D0, 0x0200), (0x114DA, 0x4000), (0x11580, 0x0100),
  (0x115AF, 0x0004), (0x115B6, 0x4000), (0x115B8, 0x0004), (0x115C1, 0x4000), (0x115C2, 0x1000),
  (0x115C4, 0x4000), (0x115C9, 0x1000), (0x115D8, 0x0100), (0x115DC, 0x0004), (0x115DE, 0x4000),
  (0x11600, 0x0100), (0x11630, 0x0004), (0x11641, 0x1000), (0x11643, 0x4000), (0x11644, 0x0100),
  (0x11645, 0x4000), (0x11650, 0x0200), (0x1165A, 0x4000), (0x11680, 0x0100), (0x116AB, 0x0004),
  (0x116B8, 0x0100), (0x116B9, 0x4000), (0x116C0, 0x0200), (0x116CA, 0x4000), (0x11700, 0x0100),
  (0x1171B, 0x4000), (0x1171D, 0x0004), (0x1172C, 0x4000), (0x11730, 0x0200), (0x1173A, 0x4000),
  (0x1173C, 0x1000), (0x1173F, 0x4000), (0x11740, 0x0100), (0x11747, 0x4000), (0x11800, 0x0100),
  (0x1182C, 0x0004), (0x1183B, 0x4000), (0x118A0, 0x0080), (0x118C0, 0x0040), (0x118E0, 0x0200),
  (0x118EA, 0x4000), (0x118FF, 0x0100), (0x11907, 0x4000), (0x11909, 0x0100), (0x1190A, 0x4000),
  (0x1190C, 0x0100), (0x11914, 0x4000), (0x11915, 0x0100), (0x11917, 0x4000), (0x11918, 0x0100),
  (0x11930, 0x0004), (0x11936, 0x4000), (0x11937, 0x0004), (0x11939, 0x4000), (0x1193B, 0x0004),
  (0x1193F, 0x0100), (0x11940, 0x0004), (0x11941, 0x0100), (0x11942, 0x0004), (0x11944, 0x1000),
  (0x11945, 0x4000), (0x11946, 0x1000), (0x11947, 0x4000), (0x11950, 0x0200), (0x1195A, 0x4000),
  (0x119A0, 0x0100)]

def runs29 : List (Nat × Nat) := [
  (0x119A8, 0x4000), (0x119AA, 0x0100), (0x119D1, 0x0004), (0x119D8, 0x4000), (0x119DA, 0x0004),
  (0x119E1, 0x0100), (0x119E2, 0x4000), (0x119E3, 0x0100), (0x119E4, 0x0004), (0x119E5, 0x4000),
  (0x11A00, 0x0100), (0x11A01, 0x0004), (0x11A0B, 0x0100), (0x11A33, 0x0004), (0x11A3A, 0x0100),
  (0x11A3B, 0x0004), (0x11A3F, 0x4000), (0x11A42, 0x1000), (0x11A44, 0x4000), (0x11A47, 0x0004),
  (0x11A48, 0x4000), (0x11A50, 0x0100), (0x11A51, 0x0004), (0x11A5C, 0x0100), (0x11A8A, 0x0004),
  (0x11A9A, 0x4000), (0x11A9B, 0x1000), (0x11A9D, 0x0100), (0x11A9E, 0x4000), (0x11AB0, 0x0100),
  (0x11AF9, 0x4000), (0x11C00, 0x0100), (0x11C09, 0x4000), (0x11C0A, 0x0100), (0x11C2F, 0x0004),
  (0x11C37, 0x4000), (0x11C38, 0x0004), (0x11C40, 0x0100), (0x11C41, 0x1000), (0x11C43, 0x4000),
  (0x11C50, 0x0200), (0x11C5A, 0x4000), (0x11C72, 0x0100), (0x11C90, 0x4000), (0x11C92, 0x0004),
  (0x11CA8, 0x4000), (0x11CA9, 0x0004), (0x11CB7, 0x4000), (0x11D00, 0x0100), (0x11D07, 0x4000),
  (0x11D08, 0x0100), (0x11D0A, 0x4000), (0x11D0B, 0x0100), (0x11D31, 0x0004), (0x11D37, 0x4000),
  (0x11D3A, 0x0004), (0x11D3B, 0x4000), (0x11D3C, 0x0004), (0x11D3E, 0x4000), (0x11D3F, 0x0004),
  (0x11D46, 0x0100), (0x11D47, 0x0004), (0x11D48, 0x4000), (0x11D50, 0x0200), (0x11D5A, 0x4000),
  (0x11D60, 0x0100), (0x11D66, 0x4000), (0x11D67, 0x0100), (0x11D69, 0x4000), (0x11D6A, 0x0100),
  (0x11D8A, 0x0004), (0x11D8F, 0x4000), (0x11D90, 0x0004), (0x11D92, 0x4000), (0x11D93, 0x0004),
  (0x11D98, 0x0100), (0x11D99, 0x4000), (0x11DA0, 0x0200), (0x11DAA, 0x4000), (0x11EE0, 0x0100),
  (0x11EF3, 0x0004), (0x11EF7, 0x1000), (0x11EF9, 0x4000), (0x11F00, 0x0004), (0x11F02, 0x0100),
  (0x11F03, 0x0004), (0x11F04, 0x0100), (0x11F11, 0x4000), (0x11F12, 0x0100), (0x11F34, 0x0004),
  (0x11F3B, 0x4000), (0x11F3E, 0x0004), (0x11F43, 0x1000), (0x11F45, 0x4000), (0x11F50, 0x0200),
  (0x11F5A, 0x4000)]

def runs30 : List (Nat × Nat) := [
  (0x11FB0, 0x0100), (0x11FB1, 0x4000), (0x12000, 0x0100), (0x1239A, 0x4000), (0x12400, 0x0100),
  (0x1246F, 0x4000), (0x12480, 0x0100), (0x12544, 0x4000), (0x12F90, 0x0100), (0x12FF1, 0x4000),
  (0x13000, 0x0100), (0x13430, 0x0010), (0x13440, 0x0004), (0x13441, 0x0100), (0x13447, 0x0004),
  (0x13456, 0x4000), (0x14400, 0x0100), (0x14647, 0x4000), (0x16800, 0x0100), (0x16A39, 0x4000),
  (0x16A40, 0x0100), (0x16A5F, 0x4000), (0x16A60, 0x0200), (0x16A6A, 0x4000), (0x16A6E, 0x1000),
  (0x16A70, 0x0100), (0x16ABF, 0x4000), (0x16AC0, 0x0200), (0x16ACA, 0x4000), (0x16AD0, 0x0100),
  (0x16AEE, 0x4000), (0x16AF0, 0x0004), (0x16AF5, 0x1000), (0x16AF6, 0x4000), (0x16B00, 0x0100),
  (0x16B30, 0x0004), (0x16B37, 0x1000), (0x16B39, 0x4000), (0x16B40, 0x0100), (0x16B44, 0x1000),
  (0x16B45, 0x4000), (0x16B50, 0x0200), (0x16B5A, 0x4000), (0x16B63, 0x0100), (0x16B78, 0x4000),
  (0x16B7D, 0x0100), (0x16B90, 0x4000), (0x16E40, 0x0080), (0x16E60, 0x0040), (0x16E80, 0x4000),
  (0x16E98, 0x1000), (0x16E99, 0x4000), (0x16F00, 0x0100), (0x16F4B, 0x4000), (0x16F4F, 0x0004),
  (0x16F50, 0x0100), (0x16F51, 0x0004), (0x16F88, 0x4000), (0x16F8F, 0x0004), (0x16F93, 0x0100),
  (0x16FA0, 0x4000), (0x16FE0, 0x0100), (0x16FE2, 0x4000), (0x16FE3, 0x0100), (0x16FE4, 0x0004),
  (0x16FE5, 0x4000), (0x16FF0, 0x0004), (0x16FF2, 0x4000), (0x17000, 0x0100), (0x187F8, 0x4000),
  (0x18800, 0x0100), (0x18CD6, 0x4000), (0x18D00, 0x0100), (0x18D09, 0x4000), (0x1AFF0, 0x0100),
  (0x1AFF4, 0x4000), (0x1AFF5, 0x0100), (0x1AFFC, 0x4000), (0x1AFFD, 0x0100), (0x1AFFF, 0x4000),
  (0x1B000, 0x0100), (0x1B123, 0x4000), (0x1B132, 0x0100), (0x1B133, 0x4000), (0x1B150, 0x0100),
  (0x1B153, 0x4000), (0x1B155, 0x0100), (0x1B156, 0x4000), (0x1B164, 0x0100), (0x1B168, 0x4000),
  (0x1B170, 0x0100), (0x1B2FC, 0x4000), (0x1BC00, 0x0100), (0x1BC6B, 0x4000), (0x1BC70, 0x0100),
  (0x1BC7D, 0x4000)]

def runs31 : List (Nat × Nat) := [
  (0x1BC80, 0x0100), (0x1BC89, 0x4000), (0x1BC90, 0x0100), (0x1BC9A, 0x4000), (0x1BC9D, 0x0004),
  (0x1BC9F, 0x1000), (0x1BCA0, 0x0010), (0x1BCA4, 0x4000), (0x1CF00, 0x0004), (0x1CF2E, 0x4000),
  (0x1CF30, 0x0004), (0x1CF47, 0x4000), (0x1D165, 0x0004), (0x1D16A, 0x4000), (0x1D16D, 0x0004),
  (0x1D173, 0x0010), (0x1D17B, 0x0004), (0x1D183, 0x4000), (0x1D185, 0x0004), (0x1D18C, 0x4000),
  (0x1D1AA, 0x0004), (0x1D1AE, 0x4000), (0x1D242, 0x0004), (0x1D245, 0x4000), (0x1D400, 0x0080),
  (0x1D41A, 0x0040), (0x1D434, 0x0080), (0x1D44E, 0x0040), (0x1D455, 0x4000), (0x1D456, 0x0040),
  (0x1D468, 0x0080), (0x1D482, 0x0040), (0x1D49C, 0x0080), (0x1D49D, 0x4000), (0x1D49E, 0x0080),
  (0x1D4A0, 0x4000), (0x1D4A2, 0x0080), (0x1D4A3, 0x4000), (0x1D4A5, 0x0080), (0x1D4A7, 0x4000),
  (0x1D4A9, 0x0080), (0x1D4AD, 0x4000), (0x1D4AE, 0x0080), (0x1D4B6, 0x0040), (0x1D4BA, 0x4000),
  (0x1D4BB, 0x0040), (0x1D4BC, 0x4000), (0x1D4BD, 0x0040), (0x1D4C4, 0x4000), (0x1D4C5, 0x0040),
  (0x1D4D0, 0x0080), (0x1D4EA, 0x0040), (0x1D504, 0x0080), (0x1D506, 0x4000), (0x1D507, 0x0080),
  (0x1D50B, 0x4000), (0x1D50D, 0x0080), (0x1D515, 0x4000), (0x1D516, 0x0080), (0x1D51D, 0x4000),
  (0x1D51E, 0x0040), (0x1D538, 0x0080), (0x1D53A, 0x4000), (0x1D53B, 0x0080), (0x1D53F, 0x4000),
  (0x1D540, 0x0080), (0x1D545, 0x4000), (0x1D546, 0x0080), (0x1D547, 0x4000), (0x1D54A, 0x0080),
  (0x1D551, 0x4000), (0x1D552, 0x0040), (0x1D56C, 0x0080), (0x1D586, 0x0040), (0x1D5A0, 0x0080),
  (0x1D5BA, 0x0040), (0x1D5D4, 0x0080), (0x1D5EE, 0x0040), (0x1D608, 0x0080), (0x1D622, 0x0040),
  (0x1D63C, 0x0080), (0x1D656, 0x0040), (0x1D670, 0x0080), (0x1D68A, 0x0040), (0x1D6A6, 0x4000),
  (0x1D6A8, 0x0080), (0x1D6C1, 0x4000), (0x1D6C2, 0x0040), (0x1D6DB, 0x4000), (0x1D6DC, 0x0040),
  (0x1D6E2, 0x0080), (0x1D6FB, 0x4000), (0x1D6FC, 0x0040), (0x1D715, 0x4000), (0x1D716, 0x0040),
  (0x1D71C, 0x0080)]

def runs32 : List (Nat × Nat) := [
  (0x1D735, 0x4000), (0x1D736, 0x0040), (0x1D74F, 0x4000), (0x1D750, 0x0040), (0x1D756, 0x0080),
  (0x1D76F, 0x4000), (0x1D770, 0x0040), (0x1D789, 0x4000), (0x1D78A, 0x0040), (0x1D790, 0x0080),
  (0x1D7A9, 0x4000), (0x1D7AA, 0x0040), (0x1D7C3, 0x4000), (0x1D7C4, 0x0040), (0x1D7CA, 0x0080),
  (0x1D7CB, 0x0040), (0x1D7CC, 0x4000), (0x1D7CE, 0x0200), (0x1D800, 0x4000), (0x1DA00, 0x0004),
  (0x1DA37, 0x4000), (0x1DA3B, 0x0004), (0x1DA6D, 0x4000), (0x1DA75, 0x0004), (0x1DA76, 0x4000),
  (0x1DA84, 0x0004), (0x1DA85, 0x4000), (0x1DA88, 0x1000), (0x1DA89, 0x4000), (0x1DA9B, 0x0004),
  (0x1DAA0, 0x4000), (0x1DAA1, 0x0004), (0x1DAB0, 0x4000), (0x1DF00, 0x0040), (0x1DF0A, 0x0100),
  (0x1DF0B, 0x0040), (0x1DF1F, 0x4000), (0x1DF25, 0x0040), (0x1DF2B, 0x4000), (0x1E000, 0x0004),
  (0x1E007, 0x4000), (0x1E008, 0x0004), (0x1E019, 0x4000), (0x1E01B, 0x0004), (0x1E022, 0x4000),
  (0x1E023, 0x0004), (0x1E025, 0x4000), (0x1E026, 0x0004), (0x1E02B, 0x4000), (0x1E030, 0x0040),
  (0x1E06E, 0x4000), (0x1E08F, 0x0004), (0x1E090, 0x4000), (0x1E100, 0x0100), (0x1E12D, 0x4000),
  (0x1E130, 0x0004), (0x1E137, 0x0100), (0x1E13E, 0x4000), (0x1E140, 0x0200), (0x1E14A, 0x4000),
  (0x1E14E, 0x0100), (0x1E14F, 0x4000), (0x1E290, 0x0100), (0x1E2AE, 0x0004), (0x1E2AF, 0x4000),
  (0x1E2C0, 0x0100), (0x1E2EC, 0x0004), (0x1E2F0, 0x0200), (0x1E2FA, 0x4000), (0x1E4D0, 0x0100),
  (0x1E4EC, 0x0004), (0x1E4F0, 0x0200), (0x1E4FA, 0x4000), (0x1E7E0, 0x0100), (0x1E7E7, 0x4000),
  (0x1E7E8, 0x0100), (0x1E7EC, 0x4000), (0x1E7ED, 0x0100), (0x1E7EF, 0x4000), (0x1E7F0, 0x0100),
  (0x1E7FF, 0x4000), (0x1E800, 0x0100), (0x1E8C5, 0x4000), (0x1E8D0, 0x0004), (0x1E8D7, 0x4000),
  (0x1E900, 0x0080), (0x1E922, 0x0040), (0x1E944, 0x0004), (0x1E94B, 0x0100), (0x1E94C, 0x4000),
  (0x1E950, 0x0200), (0x1E95A, 0x4000), (0x1EE00, 0x0100), (0x1EE04, 0x4000), (0x1EE05, 0x0100),
  (0x1EE20, 0x4000)]

def runs33 : List (Nat × Nat) := [
  (0x1EE21, 0x0100), (0x1EE23, 0x4000), (0x1EE24, 0x0100), (0x1EE25, 0x4000), (0x1EE27, 0x0100),
  (0x1EE28, 0x4000), (0x1EE29, 0x0100), (0x1EE33, 0x4000), (0x1EE34, 0x0100), (0x1EE38, 0x4000),
  (0x1EE39, 0x0100), (0x1EE3A, 0x4000), (0x1EE3B, 0x0100), (0x1EE3C, 0x4000), (0x1EE42, 0x0100),
  (0x1EE43, 0x4000), (0x1EE47, 0x0100), (0x1EE48, 0x4000), (0x1EE49, 0x0100), (0x1EE4A, 0x4000),
  (0x1EE4B, 0x0100), (0x1EE4C, 0x4000), (0x1EE4D, 0x0100), (0x1EE50, 0x4000), (0x1EE51, 0x0100),
  (0x1EE53, 0x4000), (0x1EE54, 0x0100), (0x1EE55, 0x4000), (0x1EE57, 0x0100), (0x1EE58, 0x4000),
  (0x1EE59, 0x0100), (0x1EE5A, 0x4000), (0x1EE5B, 0x0100), (0x1EE5C, 0x4000), (0x1EE5D, 0x0100),
  (0x1EE5E, 0x4000), (0x1EE5F, 0x0100), (0x1EE60, 0x4000), (0x1EE61, 0x0100), (0x1EE63, 0x4000),
  (0x1EE64, 0x0100), (0x1EE65, 0x4000), (0x1EE67, 0x0100), (0x1EE6B, 0x4000), (0x1EE6C, 0x0100),
  (0x1EE73, 0x4000), (0x1EE74, 0x0100), (0x1EE78, 0x4000), (0x1EE79, 0x0100), (0x1EE7D, 0x4000),
  (0x1EE7E, 0x0100), (0x1EE7F, 0x4000), (0x1EE80, 0x0100), (0x1EE8A, 0x4000), (0x1EE8B, 0x0100),
  (0x1EE9C, 0x4000), (0x1EEA1, 0x0100), (0x1EEA4, 0x4000), (0x1EEA5, 0x0100), (0x1EEAA, 0x4000),
  (0x1EEAB, 0x0100), (0x1EEBC, 0x4000), (0x1F130, 0x0080), (0x1F14A, 0x4000), (0x1F150, 0x0080),
  (0x1F16A, 0x4000), (0x1F170, 0x0080), (0x1F18A, 0x4000), (0x1F676, 0x2000), (0x1F679, 0x4000),
  (0x1FBF0, 0x0200), (0x1FBFA, 0x4000), (0x20000, 0x0100), (0x2A6E0, 0x4000), (0x2A700, 0x0100),
  (0x2B73A, 0x4000), (0x2B740, 0x0100), (0x2B81E, 0x4000), (0x2B820, 0x0100), (0x2CEA2, 0x4000),
  (0x2CEB0, 0x0100), (0x2EBE1, 0x4000), (0x2EBF0, 0x0100), (0x2EE5E, 0x4000), (0x2F800, 0x0100),
  (0x2FA1E, 0x4000), (0x30000, 0x0100), (0x3134B, 0x4000), (0x31350, 0x0100), (0x323B0, 0x4000),
  (0xE0001, 0x0010), (0xE0002, 0x4000), (0xE0020, 0x0004), (0xE0080, 0x4000), (0xE0100, 0x0004),
  (0xE01F0, 0x4000)]

def runs : List (Nat × Nat) :=
  [runs0, runs1, runs2, runs3, runs4, runs5, runs6, runs7, runs8, runs9, runs10, runs11, runs12,
    runs13, runs14, runs15, runs16, runs17, runs18, runs19, runs20, runs21, runs22, runs23, runs24,
    runs25, runs26, runs27, runs28, runs29, runs30, runs31, runs32, runs33].flatten

end TextBoundary.Unicode.SentenceData
