/-!
# Regular replacements

Characters of domain names that stand for one other character each, in runs that go in even steps:
the first character, how many there are, the step between them, the character that the first stands
for, and the step between those that they stand for. A run of letters in two cases has step two; a
run of styled letters or digits has step one; a run with images in step zero has one image.
-/

namespace HeatFeed.Http.Domain

/-- Runs of the first plane. -/
def runsLow : List (Nat × Nat × Nat × Nat × Nat) := [
  (0xC0, 23, 1, 0xE0, 1), (0xD8, 7, 1, 0xF8, 1), (0x100, 24, 2, 0x101, 2), (0x134, 2, 2, 0x135, 2),
  (0x139, 3, 2, 0x13A, 2), (0x141, 4, 2, 0x142, 2), (0x14A, 23, 2, 0x14B, 2),
  (0x179, 3, 2, 0x17A, 2), (0x182, 2, 2, 0x183, 2), (0x1A0, 3, 2, 0x1A1, 2),
  (0x1B3, 2, 2, 0x1B4, 2), (0x1CD, 8, 2, 0x1CE, 2), (0x1DE, 9, 2, 0x1DF, 2),
  (0x1F8, 20, 2, 0x1F9, 2), (0x222, 9, 2, 0x223, 2), (0x246, 5, 2, 0x247, 2),
  (0x2B0, 2, 2, 0x68, 2), (0x370, 2, 2, 0x371, 2), (0x386, 2, 2, 0x3AC, 1), (0x38C, 2, 2, 0x3CC, 1),
  (0x391, 17, 1, 0x3B1, 1), (0x3A3, 9, 1, 0x3C3, 1), (0x3D8, 12, 2, 0x3D9, 2),
  (0x400, 16, 1, 0x450, 1), (0x410, 32, 1, 0x430, 1), (0x460, 17, 2, 0x461, 2),
  (0x48A, 27, 2, 0x48B, 2), (0x4C1, 7, 2, 0x4C2, 2), (0x4D0, 48, 2, 0x4D1, 2),
  (0x531, 38, 1, 0x561, 1), (0x10A0, 38, 1, 0x2D00, 1), (0x13F8, 6, 1, 0x13F0, 1),
  (0x1C90, 43, 1, 0x10D0, 1), (0x1D2C, 2, 2, 0x61, 1), (0x1D33, 8, 1, 0x67, 1),
  (0x1D3C, 2, 2, 0x6F, 1), (0x1DAC, 2, 2, 0x271, 1), (0x1E00, 75, 2, 0x1E01, 2),
  (0x1EA0, 48, 2, 0x1EA1, 2), (0x1F08, 8, 1, 0x1F00, 1), (0x1F18, 6, 1, 0x1F10, 1),
  (0x1F28, 8, 1, 0x1F20, 1), (0x1F38, 8, 1, 0x1F30, 1), (0x1F48, 6, 1, 0x1F40, 1),
  (0x1F59, 4, 2, 0x1F51, 2), (0x1F68, 8, 1, 0x1F60, 1), (0x1F71, 4, 2, 0x3AC, 1),
  (0x1F79, 3, 2, 0x3CC, 1), (0x1FC8, 2, 2, 0x1F72, 2), (0x1FC9, 2, 2, 0x3AD, 1),
  (0x1FF9, 2, 2, 0x3CC, 2), (0x2000, 11, 1, 0x20, 0), (0x2074, 6, 1, 0x34, 1),
  (0x2080, 10, 1, 0x30, 1), (0x2096, 4, 1, 0x6B, 1), (0x2135, 4, 1, 0x5D0, 1),
  (0x2460, 9, 1, 0x31, 1), (0x24B6, 26, 1, 0x61, 1), (0x24D0, 26, 1, 0x61, 1),
  (0x2C00, 48, 1, 0x2C30, 1), (0x2C67, 3, 2, 0x2C68, 2), (0x2C80, 50, 2, 0x2C81, 2),
  (0x2CEB, 2, 2, 0x2CEC, 2), (0x3133, 2, 2, 0x11AA, 2), (0x313A, 6, 1, 0x11B0, 1),
  (0x3145, 10, 1, 0x1109, 1), (0x314F, 21, 1, 0x1161, 1), (0x3179, 4, 1, 0x112C, 1),
  (0x3194, 3, 2, 0x4E09, 1), (0x326A, 4, 1, 0x110F, 1), (0x32A4, 2, 2, 0x4E0A, 1),
  (0x32D0, 5, 1, 0x30A2, 2), (0x32D5, 12, 1, 0x30AB, 2), (0x32E1, 4, 1, 0x30C4, 2),
  (0x32E5, 5, 1, 0x30CB, 1), (0x32EE, 5, 1, 0x30DE, 1), (0x32F6, 5, 1, 0x30E9, 1),
  (0x32FB, 4, 1, 0x30EF, 1), (0xA640, 23, 2, 0xA641, 2), (0xA680, 14, 2, 0xA681, 2),
  (0xA722, 7, 2, 0xA723, 2), (0xA732, 31, 2, 0xA733, 2), (0xA779, 2, 2, 0xA77A, 2),
  (0xA77E, 5, 2, 0xA77F, 2), (0xA790, 2, 2, 0xA791, 2), (0xA796, 10, 2, 0xA797, 2),
  (0xA7B4, 8, 2, 0xA7B5, 2), (0xA7C7, 2, 2, 0xA7C8, 2), (0xA7CC, 8, 2, 0xA7CD, 2),
  (0xAB70, 80, 1, 0x13A0, 1), (0xFB52, 4, 1, 0x67B, 0), (0xFB56, 4, 1, 0x67E, 0),
  (0xFB5A, 4, 1, 0x680, 0), (0xFB5E, 4, 1, 0x67A, 0), (0xFB62, 4, 1, 0x67F, 0),
  (0xFB66, 4, 1, 0x679, 0), (0xFB6A, 4, 1, 0x6A4, 0), (0xFB6E, 4, 1, 0x6A6, 0),
  (0xFB72, 4, 1, 0x684, 0), (0xFB76, 4, 1, 0x683, 0), (0xFB7A, 4, 1, 0x686, 0),
  (0xFB7E, 4, 1, 0x687, 0), (0xFB8E, 4, 1, 0x6A9, 0), (0xFB92, 4, 1, 0x6AF, 0),
  (0xFB96, 4, 1, 0x6B3, 0), (0xFB9A, 4, 1, 0x6B1, 0), (0xFBA0, 4, 1, 0x6BB, 0),
  (0xFBA6, 4, 1, 0x6C1, 0), (0xFBAA, 4, 1, 0x6BE, 0), (0xFBD3, 4, 1, 0x6AD, 0),
  (0xFBE4, 4, 1, 0x6D0, 0), (0xFBFC, 4, 1, 0x6CC, 0), (0xFE41, 4, 1, 0x300C, 1),
  (0xFE80, 6, 2, 0x621, 1), (0xFE81, 5, 2, 0x622, 1), (0xFE8B, 3, 2, 0x626, 1),
  (0xFE8C, 3, 2, 0x626, 1), (0xFE91, 3, 2, 0x628, 1), (0xFE92, 3, 2, 0x628, 1),
  (0xFE99, 4, 1, 0x62B, 0), (0xFE9D, 4, 1, 0x62C, 0), (0xFEA1, 4, 1, 0x62D, 0),
  (0xFEA5, 4, 1, 0x62E, 0), (0xFEA9, 5, 2, 0x62F, 1), (0xFEAA, 5, 2, 0x62F, 1),
  (0xFEB5, 4, 1, 0x634, 0), (0xFEB9, 4, 1, 0x635, 0), (0xFEBD, 4, 1, 0x636, 0),
  (0xFEC1, 4, 1, 0x637, 0), (0xFEC5, 4, 1, 0x638, 0), (0xFEC9, 4, 1, 0x639, 0),
  (0xFECD, 4, 1, 0x63A, 0), (0xFED1, 4, 1, 0x641, 0), (0xFED5, 4, 1, 0x642, 0),
  (0xFED9, 4, 1, 0x643, 0), (0xFEDD, 4, 1, 0x644, 0), (0xFEE1, 4, 1, 0x645, 0),
  (0xFEE5, 4, 1, 0x646, 0), (0xFEE9, 4, 1, 0x647, 0), (0xFEED, 3, 2, 0x648, 1),
  (0xFEEE, 3, 2, 0x648, 1), (0xFF01, 32, 1, 0x21, 1), (0xFF21, 26, 1, 0x61, 1),
  (0xFF3B, 36, 1, 0x5B, 1), (0xFF67, 5, 1, 0x30A1, 2), (0xFF71, 5, 1, 0x30A2, 2),
  (0xFF76, 12, 1, 0x30AB, 2), (0xFF82, 4, 1, 0x30C4, 2), (0xFF86, 5, 1, 0x30CB, 1),
  (0xFF8F, 5, 1, 0x30DE, 1), (0xFF97, 5, 1, 0x30E9, 1), (0xFFA3, 2, 2, 0x11AA, 2),
  (0xFFAA, 6, 1, 0x11B0, 1), (0xFFB5, 10, 1, 0x1109, 1), (0xFFC2, 6, 1, 0x1161, 1),
  (0xFFCA, 6, 1, 0x1167, 1), (0xFFD2, 6, 1, 0x116D, 1), (0xFFE9, 4, 1, 0x2190, 1)]

/-- Runs of the higher planes. -/
def runsHigh : List (Nat × Nat × Nat × Nat × Nat) := [
  (0x10400, 40, 1, 0x10428, 1), (0x104B0, 36, 1, 0x104D8, 1), (0x10570, 19, 2, 0x10597, 2),
  (0x10571, 5, 2, 0x10598, 2), (0x1057D, 7, 2, 0x105A4, 2), (0x1058D, 3, 2, 0x105B4, 2),
  (0x10787, 2, 2, 0x2A3, 2), (0x10794, 2, 2, 0x29B, 1), (0x1079F, 2, 2, 0x1DF05, 1),
  (0x107AC, 2, 2, 0x2A6, 1), (0x10C80, 51, 1, 0x10CC0, 1), (0x10D50, 22, 1, 0x10D70, 1),
  (0x118A0, 32, 1, 0x118C0, 1), (0x16E40, 32, 1, 0x16E60, 1), (0x16EA0, 25, 1, 0x16EBB, 1),
  (0x1CCD6, 26, 1, 0x61, 1), (0x1CCF0, 10, 1, 0x30, 1), (0x1D400, 26, 1, 0x61, 1),
  (0x1D41A, 26, 1, 0x61, 1), (0x1D434, 26, 1, 0x61, 1), (0x1D44E, 13, 2, 0x61, 2),
  (0x1D44F, 3, 2, 0x62, 2), (0x1D457, 9, 2, 0x6A, 2), (0x1D468, 26, 1, 0x61, 1),
  (0x1D482, 26, 1, 0x61, 1), (0x1D49C, 2, 2, 0x61, 2), (0x1D4A9, 4, 1, 0x6E, 1),
  (0x1D4AE, 8, 1, 0x73, 1), (0x1D4B6, 4, 1, 0x61, 1), (0x1D4BB, 11, 2, 0x66, 2),
  (0x1D4BE, 3, 2, 0x69, 2), (0x1D4C6, 5, 2, 0x71, 2), (0x1D4D0, 26, 1, 0x61, 1),
  (0x1D4EA, 26, 1, 0x61, 1), (0x1D507, 4, 1, 0x64, 1), (0x1D50D, 8, 1, 0x6A, 1),
  (0x1D516, 7, 1, 0x73, 1), (0x1D51E, 26, 1, 0x61, 1), (0x1D53B, 4, 1, 0x64, 1),
  (0x1D540, 5, 1, 0x69, 1), (0x1D54A, 7, 1, 0x73, 1), (0x1D552, 26, 1, 0x61, 1),
  (0x1D56C, 26, 1, 0x61, 1), (0x1D586, 26, 1, 0x61, 1), (0x1D5A0, 26, 1, 0x61, 1),
  (0x1D5BA, 26, 1, 0x61, 1), (0x1D5D4, 26, 1, 0x61, 1), (0x1D5EE, 26, 1, 0x61, 1),
  (0x1D608, 26, 1, 0x61, 1), (0x1D622, 26, 1, 0x61, 1), (0x1D63C, 26, 1, 0x61, 1),
  (0x1D656, 26, 1, 0x61, 1), (0x1D670, 26, 1, 0x61, 1), (0x1D68A, 26, 1, 0x61, 1),
  (0x1D6A8, 17, 1, 0x3B1, 1), (0x1D6BA, 7, 1, 0x3C3, 1), (0x1D6C2, 17, 1, 0x3B1, 1),
  (0x1D6D5, 6, 1, 0x3C4, 1), (0x1D6E2, 17, 1, 0x3B1, 1), (0x1D6F4, 7, 1, 0x3C3, 1),
  (0x1D6FC, 17, 1, 0x3B1, 1), (0x1D70F, 6, 1, 0x3C4, 1), (0x1D71C, 17, 1, 0x3B1, 1),
  (0x1D72E, 7, 1, 0x3C3, 1), (0x1D736, 17, 1, 0x3B1, 1), (0x1D749, 6, 1, 0x3C4, 1),
  (0x1D756, 17, 1, 0x3B1, 1), (0x1D768, 7, 1, 0x3C3, 1), (0x1D770, 17, 1, 0x3B1, 1),
  (0x1D783, 6, 1, 0x3C4, 1), (0x1D790, 17, 1, 0x3B1, 1), (0x1D7A2, 7, 1, 0x3C3, 1),
  (0x1D7AA, 17, 1, 0x3B1, 1), (0x1D7BD, 6, 1, 0x3C4, 1), (0x1D7CE, 10, 1, 0x30, 1),
  (0x1D7D8, 10, 1, 0x30, 1), (0x1D7E2, 10, 1, 0x30, 1), (0x1D7EC, 10, 1, 0x30, 1),
  (0x1D7F6, 10, 1, 0x30, 1), (0x1E030, 9, 1, 0x430, 1), (0x1E03C, 11, 1, 0x43E, 1),
  (0x1E051, 9, 1, 0x430, 1), (0x1E060, 5, 1, 0x444, 1), (0x1E900, 34, 1, 0x1E922, 1),
  (0x1EE0A, 4, 1, 0x643, 1), (0x1EE10, 2, 2, 0x641, 1), (0x1EE2A, 4, 1, 0x643, 1),
  (0x1EE30, 2, 2, 0x641, 1), (0x1EE4B, 2, 2, 0x644, 2), (0x1EE6A, 2, 2, 0x643, 2),
  (0x1EE70, 2, 2, 0x641, 1), (0x1EE90, 2, 2, 0x641, 1), (0x1EEB0, 2, 2, 0x641, 1),
  (0x1F130, 26, 1, 0x61, 1), (0x1FBF0, 10, 1, 0x30, 1), (0x2F84B, 2, 2, 0x5716, 1),
  (0x2F87B, 2, 2, 0x21DE4, 2)]

end HeatFeed.Http.Domain
