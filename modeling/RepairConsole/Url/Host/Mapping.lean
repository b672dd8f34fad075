import RepairConsole.Url.Host.Composition
/-!
# Spellings of host names

A host name may be typed in capitals, in wide or narrow letters, with ligatures or signs that
stand for words. All of these are spellings of characters of the repertoire: each is replaced
by what it stands for, and characters that are not seen are left out.
-/

namespace RepairConsole.Url.Host

namespace Mapping

/-- The characters that are left out, from the first to the last of each run. -/
def ignored : List (Nat × Nat) :=
  [(0xAD, 0xAD), (0x34F, 0x34F), (0x115F, 0x1160), (0x17B4, 0x17B5), (0x180B, 0x180F),
   (0x200B, 0x200B), (0x2060, 0x2064), (0x206A, 0x206F), (0x3164, 0x3164), (0xFE00, 0xFE0F),
   (0xFEFF, 0xFEFF), (0xFFA0, 0xFFA0), (0x1BCA0, 0x1BCA3), (0x1D173, 0x1D17A), (0xE0100, 0xE01EF)]

/-- Runs of characters of which each has the same distance to the one that it stands for: the
first, the last, the step from one to the next, and what the first stands for. -/
def shifts : List (Nat × Nat × Nat × Nat) :=
  [(0x41, 0x5A, 1, 0x61), (0xC0, 0xD6, 1, 0xE0), (0xD8, 0xDE, 1, 0xF8), (0x100, 0x12E, 2, 0x101),
   (0x141, 0x147, 2, 0x142), (0x14A, 0x176, 2, 0x14B), (0x1CD, 0x1DB, 2, 0x1CE),
   (0x1DE, 0x1EE, 2, 0x1DF), (0x1F8, 0x21E, 2, 0x1F9), (0x222, 0x232, 2, 0x223),
   (0x246, 0x24E, 2, 0x247), (0x391, 0x3A1, 1, 0x3B1), (0x3A3, 0x3AB, 1, 0x3C3),
   (0x3D8, 0x3EE, 2, 0x3D9), (0x400, 0x40F, 1, 0x450), (0x410, 0x42F, 1, 0x430),
   (0x460, 0x480, 2, 0x461), (0x48A, 0x4BE, 2, 0x48B), (0x4C1, 0x4CD, 2, 0x4C2),
   (0x4D0, 0x52E, 2, 0x4D1), (0x531, 0x556, 1, 0x561), (0x10A0, 0x10C5, 1, 0x2D00),
   (0x13F8, 0x13FD, 1, 0x13F0), (0x1C90, 0x1CBA, 1, 0x10D0), (0x1D31, 0x1D39, 2, 0x65),
   (0x1D34, 0x1D3A, 2, 0x68), (0x1DAE, 0x1DB1, 1, 0x272), (0x1E00, 0x1E94, 2, 0x1E01),
   (0x1EA0, 0x1EFE, 2, 0x1EA1), (0x1F08, 0x1F0F, 1, 0x1F00), (0x1F18, 0x1F1D, 1, 0x1F10),
   (0x1F28, 0x1F2F, 1, 0x1F20), (0x1F38, 0x1F3F, 1, 0x1F30), (0x1F48, 0x1F4D, 1, 0x1F40),
   (0x1F59, 0x1F5F, 2, 0x1F51), (0x1F68, 0x1F6F, 1, 0x1F60), (0x2074, 0x2079, 1, 0x34),
   (0x2080, 0x2089, 1, 0x30), (0x2096, 0x2099, 1, 0x6B), (0x2135, 0x2138, 1, 0x5D0),
   (0x2460, 0x2468, 1, 0x31), (0x24B6, 0x24CF, 1, 0x61), (0x24D0, 0x24E9, 1, 0x61),
   (0x2C00, 0x2C2F, 1, 0x2C30), (0x2C80, 0x2CE2, 2, 0x2C81), (0x313A, 0x313F, 1, 0x11B0),
   (0x3145, 0x314E, 1, 0x1109), (0x314F, 0x3163, 1, 0x1161), (0x3178, 0x317C, 1, 0x112B),
   (0x3269, 0x326D, 1, 0x110E), (0x32E4, 0x32E9, 1, 0x30CA), (0x32EE, 0x32F2, 1, 0x30DE),
   (0x32F5, 0x32FA, 1, 0x30E8), (0x32FB, 0x32FE, 1, 0x30EF), (0xA640, 0xA66C, 2, 0xA641),
   (0xA680, 0xA69A, 2, 0xA681), (0xA722, 0xA72E, 2, 0xA723), (0xA732, 0xA76E, 2, 0xA733),
   (0xA77E, 0xA786, 2, 0xA77F), (0xA796, 0xA7A8, 2, 0xA797), (0xA7B4, 0xA7C2, 2, 0xA7B5),
   (0xA7CC, 0xA7DA, 2, 0xA7CD), (0xAB70, 0xABBF, 1, 0x13A0), (0xFE41, 0xFE44, 1, 0x300C),
   (0xFF01, 0xFF20, 1, 0x21), (0xFF21, 0xFF3A, 1, 0x61), (0xFF3B, 0xFF5E, 1, 0x5B),
   (0xFF85, 0xFF8A, 1, 0x30CA), (0xFF8F, 0xFF93, 1, 0x30DE), (0xFF96, 0xFF9B, 1, 0x30E8),
   (0xFFAA, 0xFFAF, 1, 0x11B0), (0xFFB5, 0xFFBE, 1, 0x1109), (0xFFC2, 0xFFC7, 1, 0x1161),
   (0xFFCA, 0xFFCF, 1, 0x1167), (0xFFD2, 0xFFD7, 1, 0x116D), (0xFFE9, 0xFFEC, 1, 0x2190),
   (0x10400, 0x10427, 1, 0x10428), (0x104B0, 0x104D3, 1, 0x104D8), (0x10570, 0x10594, 2, 0x10597),
   (0x10571, 0x10579, 2, 0x10598), (0x1057D, 0x10589, 2, 0x105A4), (0x10C80, 0x10CB2, 1, 0x10CC0),
   (0x10D50, 0x10D65, 1, 0x10D70), (0x118A0, 0x118BF, 1, 0x118C0), (0x16E40, 0x16E5F, 1, 0x16E60),
   (0x16EA0, 0x16EB8, 1, 0x16EBB), (0x1CCD6, 0x1CCEF, 1, 0x61), (0x1CCF0, 0x1CCF9, 1, 0x30),
   (0x1D400, 0x1D419, 1, 0x61), (0x1D41A, 0x1D433, 1, 0x61), (0x1D434, 0x1D44D, 1, 0x61),
   (0x1D44E, 0x1D466, 2, 0x61), (0x1D457, 0x1D467, 2, 0x6A), (0x1D468, 0x1D481, 1, 0x61),
   (0x1D482, 0x1D49B, 1, 0x61), (0x1D4A9, 0x1D4AC, 1, 0x6E), (0x1D4AE, 0x1D4B5, 1, 0x73),
   (0x1D4B6, 0x1D4B9, 1, 0x61), (0x1D4BB, 0x1D4CF, 2, 0x66), (0x1D4C6, 0x1D4CE, 2, 0x71),
   (0x1D4D0, 0x1D4E9, 1, 0x61), (0x1D4EA, 0x1D503, 1, 0x61), (0x1D507, 0x1D50A, 1, 0x64),
   (0x1D50D, 0x1D514, 1, 0x6A), (0x1D516, 0x1D51C, 1, 0x73), (0x1D51E, 0x1D537, 1, 0x61),
   (0x1D53B, 0x1D53E, 1, 0x64), (0x1D540, 0x1D544, 1, 0x69), (0x1D54A, 0x1D550, 1, 0x73),
   (0x1D552, 0x1D56B, 1, 0x61), (0x1D56C, 0x1D585, 1, 0x61), (0x1D586, 0x1D59F, 1, 0x61),
   (0x1D5A0, 0x1D5B9, 1, 0x61), (0x1D5BA, 0x1D5D3, 1, 0x61), (0x1D5D4, 0x1D5ED, 1, 0x61),
   (0x1D5EE, 0x1D607, 1, 0x61), (0x1D608, 0x1D621, 1, 0x61), (0x1D622, 0x1D63B, 1, 0x61),
   (0x1D63C, 0x1D655, 1, 0x61), (0x1D656, 0x1D66F, 1, 0x61), (0x1D670, 0x1D689, 1, 0x61),
   (0x1D68A, 0x1D6A3, 1, 0x61), (0x1D6A8, 0x1D6B8, 1, 0x3B1), (0x1D6BA, 0x1D6C0, 1, 0x3C3),
   (0x1D6C2, 0x1D6D2, 1, 0x3B1), (0x1D6D4, 0x1D6DA, 1, 0x3C3), (0x1D6E2, 0x1D6F2, 1, 0x3B1),
   (0x1D6F4, 0x1D6FA, 1, 0x3C3), (0x1D6FC, 0x1D70C, 1, 0x3B1), (0x1D70E, 0x1D714, 1, 0x3C3),
   (0x1D71C, 0x1D72C, 1, 0x3B1), (0x1D72E, 0x1D734, 1, 0x3C3), (0x1D736, 0x1D746, 1, 0x3B1),
   (0x1D748, 0x1D74E, 1, 0x3C3), (0x1D756, 0x1D766, 1, 0x3B1), (0x1D768, 0x1D76E, 1, 0x3C3),
   (0x1D770, 0x1D780, 1, 0x3B1), (0x1D782, 0x1D788, 1, 0x3C3), (0x1D790, 0x1D7A0, 1, 0x3B1),
   (0x1D7A2, 0x1D7A8, 1, 0x3C3), (0x1D7AA, 0x1D7BA, 1, 0x3B1), (0x1D7BC, 0x1D7C2, 1, 0x3C3),
   (0x1D7CE, 0x1D7D7, 1, 0x30), (0x1D7D8, 0x1D7E1, 1, 0x30), (0x1D7E2, 0x1D7EB, 1, 0x30),
   (0x1D7EC, 0x1D7F5, 1, 0x30), (0x1D7F6, 0x1D7FF, 1, 0x30), (0x1E030, 0x1E038, 1, 0x430),
   (0x1E03C, 0x1E046, 1, 0x43E), (0x1E051, 0x1E059, 1, 0x430), (0x1E05F, 0x1E064, 1, 0x443),
   (0x1E900, 0x1E921, 1, 0x1E922), (0x1EE0A, 0x1EE0D, 1, 0x643), (0x1EE2A, 0x1EE2D, 1, 0x643),
   (0x1F130, 0x1F149, 1, 0x61), (0x1FBF0, 0x1FBF9, 1, 0x30)]

/-- What other characters stand for. Under a code point are the texts for it and for those
after it, in hexadecimal digits; an empty one is for a character that stands for itself. -/
def spellings : Text.Runs.Table :=
  [(0xA0, "20"),
   (0xA8, "20 308,,61,,,,,20 304,,,32,33,20 301,3bc,,,20 327,31,6f,,31 2044 34,31 2044 32"),
   (0xBE, "33 2044 34"), (0x130, "69 307,,69 6a,69 6a,135,,137,,,13a,,13c,,13e,,6c b7,6c b7"),
   (0x149, "2bc 6e"),
   (0x178, "ff,17a,,17c,,17e,,73,,253,183,,185,,254,188,,256,257,18c,,,1dd,259,25b,192,,260"),
   (0x194, "263,,269,268,199,,,,26f,272,,275,1a1,,1a3,,1a5,,280,1a8,,283,,,1ad,,288,1b0,,28a"),
   (0x1B2, "28b,1b4,,1b6,,292,1b9,,,,1bd"),
   (0x1C4, "64 17e,64 17e,64 17e,6c 6a,6c 6a,6c 6a,6e 6a,6e 6a,6e 6a"),
   (0x1F1, "64 7a,64 7a,64 7a,1f5,,195,1bf"), (0x220, "19e"),
   (0x23A, "2c65,23c,,19a,2c66,,,242,,180,289,28c"), (0x2B0, "68,266,6a,72,279,27b,281,77,79"),
   (0x2D8, "20 306,20 307,20 30a,20 328,20 303,20 30b,,,263,6c,73,78,295"),
   (0x340, "300,301,,313,308 301,3b9"),
   (0x370, "371,,373,,2b9,,377,,,,20 3b9,,,,3b,3f3,,,,,20 301,20 308 301,3ac,b7,3ad,3ae,3af"),
   (0x38C, "3cc,,3cd,3ce"), (0x3CF, "3d7,3b2,3b8,3c5,3cd,3cb,3c6,3c0"),
   (0x3F0, "3ba,3c1,3c3,,3b8,3b5,,3f8,,3c3,3fb,,,37b,37c,37d"), (0x4C0, "4cf"),
   (0x587, "565 582"), (0x675, "627 674,648 674,6c7 674,64a 674"),
   (0x958, "915 93c,916 93c,917 93c,91c 93c,921 93c,922 93c,92b 93c,92f 93c"),
   (0x9DC, "9a1 9bc,9a2 9bc,,9af 9bc"), (0xA33, "a32 a3c,,,a38 a3c"),
   (0xA59, "a16 a3c,a17 a3c,a1c a3c,,,a2b a3c"), (0xB5C, "b21 b3c,b22 b3c"), (0xE33, "e4d e32"),
   (0xEB3, "ecd eb2"), (0xEDC, "eab e99,eab ea1"), (0xF0C, "f0b"), (0xF43, "f42 fb7"),
   (0xF4D, "f4c fb7,,,,,f51 fb7,,,,,f56 fb7,,,,,f5b fb7"), (0xF69, "f40 fb5"),
   (0xF73, "f71 f72,,f71 f74,fb2 f80,fb2 f71 f80,fb3 f80,fb3 f71 f80"), (0xF81, "f71 f80"),
   (0xF93, "f92 fb7"), (0xF9D, "f9c fb7,,,,,fa1 fb7,,,,,fa6 fb7,,,,,fab fb7"), (0xFB9, "f90 fb5"),
   (0x10C7, "2d27,,,,,,2d2d"), (0x10FC, "10dc"),
   (0x1C80, "432,434,43e,441,442,442,44a,463,a64b,1c8a"), (0x1CBD, "10fd,10fe,10ff"),
   (0x1D2C, "61,e6,62,,64,,1dd"),
   (0x1D3C, "6f,223,70,72,74,75,77,61,250,251,1d02,62,64,65,259,25b,25c,67,,6b,6d,14b,6f,254"),
   (0x1D54, "1d16,1d17,70,74,75,1d1d,26f,76,1d25,3b2,3b3,3b4,3c6,3c7,69,72,75,76,3b2,3b3,3c1"),
   (0x1D69, "3c6,3c7"), (0x1D78, "43d"),
   (0x1D9B, "252,63,255,f0,25c,66,25f,261,265,268,269,26a,1d7b,29d,26d,1d85,29f,271,270"),
   (0x1DB2, "278,282,283,1ab,289,28a,1d1c,28b,28c,7a,290,291,292,3b8"),
   (0x1E9A, "61 2be,1e61,,,df"),
   (0x1F71, "3ac,,3ad,,3ae,,3af,,3cc,,3cd,,3ce,,,1f00 3b9,1f01 3b9,1f02 3b9,1f03 3b9,1f04 3b9"),
   (0x1F85, "1f05 3b9,1f06 3b9,1f07 3b9,1f00 3b9,1f01 3b9,1f02 3b9,1f03 3b9,1f04 3b9,1f05 3b9"),
   (0x1F8E, "1f06 3b9,1f07 3b9,1f20 3b9,1f21 3b9,1f22 3b9,1f23 3b9,1f24 3b9,1f25 3b9,1f26 3b9"),
   (0x1F97, "1f27 3b9,1f20 3b9,1f21 3b9,1f22 3b9,1f23 3b9,1f24 3b9,1f25 3b9,1f26 3b9,1f27 3b9"),
   (0x1FA0, "1f60 3b9,1f61 3b9,1f62 3b9,1f63 3b9,1f64 3b9,1f65 3b9,1f66 3b9,1f67 3b9,1f60 3b9"),
   (0x1FA9, "1f61 3b9,1f62 3b9,1f63 3b9,1f64 3b9,1f65 3b9,1f66 3b9,1f67 3b9,,,1f70 3b9,3b1 3b9"),
   (0x1FB4, "3ac 3b9,,,1fb6 3b9,1fb0,1fb1,1f70,3ac,3b1 3b9,20 313,3b9,20 313,20 342,20 308 342"),
   (0x1FC2, "1f74 3b9,3b7 3b9,3ae 3b9,,,1fc6 3b9,1f72,3ad,1f74,3ae,3b7 3b9,20 313 300"),
   (0x1FCE, "20 313 301,20 313 342,,,,390,,,,,1fd0,1fd1,1f76,3af,,20 314 300,20 314 301"),
   (0x1FDF, "20 314 342,,,,3b0,,,,,1fe0,1fe1,1f7a,3cd,1fe5,20 308 300,20 308 301,60,,,1f7c 3b9"),
   (0x1FF3, "3c9 3b9,3ce 3b9,,,1ff6 3b9,1f78,3cc,1f7c,3ce,3c9 3b9,20 301,20 314,,20,20,20,20"),
   (0x2004, "20,20,20,20,20,20,20,,,,,,,2010,,,,,,20 333"),
   (0x202F, "20,,,,2032 2032,2032 2032 2032,,2035 2035,2035 2035 2035,,,,,21 21,,20 305"),
   (0x2047, "3f 3f,3f 21,21 3f"), (0x2057, "2032 2032 2032 2032"), (0x205F, "20"),
   (0x2070, "30,69"), (0x207A, "2b,2212,3d,28,29,6e"),
   (0x208A, "2b,2212,3d,28,29,,61,65,6f,78,259,68,,,,,70,73,74"), (0x20A8, "72 73"),
   (0x2100, "61 2f 63,61 2f 73,63,b0 63,,63 2f 6f,63 2f 75,25b,,b0 66,67,68,68,68,68,127,69,69"),
   (0x2112, "6c,6c,,6e,6e 6f,,,70,71,72,72,72,,,73 6d,74 65 6c,74 6d,,7a,,3c9,,7a,,6b,e5,62,63"),
   (0x212F, "65,65,66,214e,6d,6f,,,,,69,,66 61 78,3c0,3b3,3b3,3c0,2211,,,,,64,64,65,69,6a"),
   (0x2150, "31 2044 37,31 2044 39,31 2044 31 30,31 2044 33,32 2044 33,31 2044 35,32 2044 35"),
   (0x2157, "33 2044 35,34 2044 35,31 2044 36,35 2044 36,31 2044 38,33 2044 38,35 2044 38"),
   (0x215E, "37 2044 38,31 2044,69,69 69,69 69 69,69 76,76,76 69,76 69 69,76 69 69 69,69 78,78"),
   (0x216A, "78 69,78 69 69,6c,63,64,6d,69,69 69,69 69 69,69 76,76,76 69,76 69 69,76 69 69 69"),
   (0x2178, "69 78,78,78 69,78 69 69,6c,63,64,6d,,,,2184,,,,,,30 2044 33"),
   (0x222C, "222b 222b,222b 222b 222b,,222e 222e,222e 222e 222e"), (0x2329, "3008,3009"),
   (0x2469, "31 30,31 31,31 32,31 33,31 34,31 35,31 36,31 37,31 38,31 39,32 30,28 31 29"),
   (0x2475, "28 32 29,28 33 29,28 34 29,28 35 29,28 36 29,28 37 29,28 38 29,28 39 29"),
   (0x247D, "28 31 30 29,28 31 31 29,28 31 32 29,28 31 33 29,28 31 34 29,28 31 35 29"),
   (0x2483, "28 31 36 29,28 31 37 29,28 31 38 29,28 31 39 29,28 32 30 29"),
   (0x249C, "28 61 29,28 62 29,28 63 29,28 64 29,28 65 29,28 66 29,28 67 29,28 68 29,28 69 29"),
   (0x24A5, "28 6a 29,28 6b 29,28 6c 29,28 6d 29,28 6e 29,28 6f 29,28 70 29,28 71 29,28 72 29"),
   (0x24AE, "28 73 29,28 74 29,28 75 29,28 76 29,28 77 29,28 78 29,28 79 29,28 7a 29"),
   (0x24EA, "30"), (0x2A0C, "222b 222b 222b 222b"), (0x2A74, "3a 3a 3d,3d 3d,3d 3d 3d"),
   (0x2ADC, "2add 338"),
   (0x2C60, "2c61,,26b,1d7d,27d,,,2c68,,2c6a,,2c6c,,251,271,250,252,,2c73,,,2c76,,,,,,,6a,76"),
   (0x2C7E, "23f,240"), (0x2CEB, "2cec,,2cee,,,,,2cf3"), (0x2D6F, "2d61"), (0x2E9F, "6bcd"),
   (0x2EF3, "9f9f"),
   (0x2F00, "4e00,4e28,4e36,4e3f,4e59,4e85,4e8c,4ea0,4eba,513f,5165,516b,5182,5196,51ab,51e0"),
   (0x2F10, "51f5,5200,529b,52f9,5315,531a,5338,5341,535c,5369,5382,53b6,53c8,53e3,56d7,571f"),
   (0x2F20, "58eb,5902,590a,5915,5927,5973,5b50,5b80,5bf8,5c0f,5c22,5c38,5c6e,5c71,5ddb,5de5"),
   (0x2F30, "5df1,5dfe,5e72,5e7a,5e7f,5ef4,5efe,5f0b,5f13,5f50,5f61,5f73,5fc3,6208,6236,624b"),
   (0x2F40, "652f,6534,6587,6597,65a4,65b9,65e0,65e5,66f0,6708,6728,6b20,6b62,6b79,6bb3,6bcb"),
   (0x2F50, "6bd4,6bdb,6c0f,6c14,6c34,706b,722a,7236,723b,723f,7247,7259,725b,72ac,7384,7389"),
   (0x2F60, "74dc,74e6,7518,751f,7528,7530,758b,7592,7676,767d,76ae,76bf,76ee,77db,77e2,77f3"),
   (0x2F70, "793a,79b8,79be,7a74,7acb,7af9,7c73,7cf8,7f36,7f51,7f8a,7fbd,8001,800c,8012,8033"),
   (0x2F80, "807f,8089,81e3,81ea,81f3,81fc,820c,821b,821f,826e,8272,8278,864d,866b,8840,884c"),
   (0x2F90, "8863,897e,898b,89d2,8a00,8c37,8c46,8c55,8c78,8c9d,8d64,8d70,8db3,8eab,8eca,8f9b"),
   (0x2FA0, "8fb0,8fb5,9091,9149,91c6,91cc,91d1,9577,9580,961c,96b6,96b9,96e8,9751,975e,9762"),
   (0x2FB0, "9769,97cb,97ed,97f3,9801,98a8,98db,98df,9996,9999,99ac,9aa8,9ad8,9adf,9b25,9b2f"),
   (0x2FC0, "9b32,9b3c,9b5a,9ce5,9e75,9e7f,9ea5,9ebb,9ec3,9ecd,9ed1,9ef9,9efd,9f0e,9f13,9f20"),
   (0x2FD0, "9f3b,9f4a,9f52,9f8d,9f9c,9fa0"), (0x3000, "20,,2e"),
   (0x3036, "3012,,5341,5344,5345"), (0x309B, "20 3099,20 309a,,,3088 308a"),
   (0x30FF, "30b3 30c8"),
   (0x3131, "1100,1101,11aa,1102,11ac,11ad,1103,1104,1105,,,,,,,111a,1106,1107,1108,1121"),
   (0x3165, "1114,1115,11c7,11c8,11cc,11ce,11d3,11d7,11d9,111c,11dd,11df,111d,111e,1120,1122"),
   (0x3175, "1123,1127,1129,,,,,,1132,1136,1140,1147,114c,11f1,11f2,1157,1158,1159,1184,1185"),
   (0x3189, "1188,1191,1192,1194,119e,11a1,,,,4e00,4e8c,4e09,56db,4e0a,4e2d,4e0b,7532,4e59"),
   (0x319B, "4e19,4e01,5929,5730,4eba"),
   (0x3200, "28 1100 29,28 1102 29,28 1103 29,28 1105 29,28 1106 29,28 1107 29,28 1109 29"),
   (0x3207, "28 110b 29,28 110c 29,28 110e 29,28 110f 29,28 1110 29,28 1111 29,28 1112 29"),
   (0x320E, "28 ac00 29,28 b098 29,28 b2e4 29,28 b77c 29,28 b9c8 29,28 bc14 29,28 c0ac 29"),
   (0x3215, "28 c544 29,28 c790 29,28 cc28 29,28 ce74 29,28 d0c0 29,28 d30c 29,28 d558 29"),
   (0x321C, "28 c8fc 29,28 c624 c804 29,28 c624 d6c4 29,,28 4e00 29,28 4e8c 29,28 4e09 29"),
   (0x3223, "28 56db 29,28 4e94 29,28 516d 29,28 4e03 29,28 516b 29,28 4e5d 29,28 5341 29"),
   (0x322A, "28 6708 29,28 706b 29,28 6c34 29,28 6728 29,28 91d1 29,28 571f 29,28 65e5 29"),
   (0x3231, "28 682a 29,28 6709 29,28 793e 29,28 540d 29,28 7279 29,28 8ca1 29,28 795d 29"),
   (0x3238, "28 52b4 29,28 4ee3 29,28 547c 29,28 5b66 29,28 76e3 29,28 4f01 29,28 8cc7 29"),
   (0x323F, "28 5354 29,28 796d 29,28 4f11 29,28 81ea 29,28 81f3 29,554f,5e7c,6587,7b8f"),
   (0x3250, "70 74 65,32 31,32 32,32 33,32 34,32 35,32 36,32 37,32 38,32 39,33 30,33 31,33 32"),
   (0x325D, "33 33,33 34,33 35,1100,1102,1103,1105,1106,1107,1109,110b,110c,,,,,,ac00,b098"),
   (0x3270, "b2e4,b77c,b9c8,bc14,c0ac,c544,c790,cc28,ce74,d0c0,d30c,d558,cc38 ace0,c8fc c758"),
   (0x327E, "c6b0,,4e00,4e8c,4e09,56db,4e94,516d,4e03,516b,4e5d,5341,6708,706b,6c34,6728,91d1"),
   (0x328F, "571f,65e5,682a,6709,793e,540d,7279,8ca1,795d,52b4,79d8,7537,5973,9069,512a,5370"),
   (0x329F, "6ce8,9805,4f11,5199,6b63,4e0a,4e2d,4e0b,5de6,53f3,533b,5b97,5b66,76e3,4f01,8cc7"),
   (0x32AF, "5354,591c,33 36,33 37,33 38,33 39,34 30,34 31,34 32,34 33,34 34,34 35,34 36,34 37"),
   (0x32BD, "34 38,34 39,35 30,31 6708,32 6708,33 6708,34 6708,35 6708,36 6708,37 6708,38 6708"),
   (0x32C8, "39 6708,31 30 6708,31 31 6708,31 32 6708,68 67,65 72 67,65 76,6c 74 64,30a2,30a4"),
   (0x32D2, "30a6,30a8,30aa,30ab,30ad,30af,30b1,30b3,30b5,30b7,30b9,30bb,30bd,30bf,30c1,30c4"),
   (0x32E2, "30c6,30c8,,,,,,,30d2,30d5,30d8,30db,,,,,,30e4,30e6"),
   (0x32FF, "4ee4 548c,30a2 30d1 30fc 30c8,30a2 30eb 30d5 30a1,30a2 30f3 30da 30a2"),
   (0x3303, "30a2 30fc 30eb,30a4 30cb 30f3 30b0,30a4 30f3 30c1,30a6 30a9 30f3"),
   (0x3307, "30a8 30b9 30af 30fc 30c9,30a8 30fc 30ab 30fc,30aa 30f3 30b9,30aa 30fc 30e0"),
   (0x330B, "30ab 30a4 30ea,30ab 30e9 30c3 30c8,30ab 30ed 30ea 30fc,30ac 30ed 30f3"),
   (0x330F, "30ac 30f3 30de,30ae 30ac,30ae 30cb 30fc,30ad 30e5 30ea 30fc,30ae 30eb 30c0 30fc"),
   (0x3314, "30ad 30ed,30ad 30ed 30b0 30e9 30e0,30ad 30ed 30e1 30fc 30c8 30eb"),
   (0x3317, "30ad 30ed 30ef 30c3 30c8,30b0 30e9 30e0,30b0 30e9 30e0 30c8 30f3"),
   (0x331A, "30af 30eb 30bc 30a4 30ed,30af 30ed 30fc 30cd,30b1 30fc 30b9,30b3 30eb 30ca"),
   (0x331E, "30b3 30fc 30dd,30b5 30a4 30af 30eb,30b5 30f3 30c1 30fc 30e0,30b7 30ea 30f3 30b0"),
   (0x3322, "30bb 30f3 30c1,30bb 30f3 30c8,30c0 30fc 30b9,30c7 30b7,30c9 30eb,30c8 30f3"),
   (0x3328, "30ca 30ce,30ce 30c3 30c8,30cf 30a4 30c4,30d1 30fc 30bb 30f3 30c8,30d1 30fc 30c4"),
   (0x332D, "30d0 30fc 30ec 30eb,30d4 30a2 30b9 30c8 30eb,30d4 30af 30eb,30d4 30b3,30d3 30eb"),
   (0x3332, "30d5 30a1 30e9 30c3 30c9,30d5 30a3 30fc 30c8,30d6 30c3 30b7 30a7 30eb"),
   (0x3335, "30d5 30e9 30f3,30d8 30af 30bf 30fc 30eb,30da 30bd,30da 30cb 30d2,30d8 30eb 30c4"),
   (0x333A, "30da 30f3 30b9,30da 30fc 30b8,30d9 30fc 30bf,30dd 30a4 30f3 30c8,30dc 30eb 30c8"),
   (0x333F, "30db 30f3,30dd 30f3 30c9,30db 30fc 30eb,30db 30fc 30f3,30de 30a4 30af 30ed"),
   (0x3344, "30de 30a4 30eb,30de 30c3 30cf,30de 30eb 30af,30de 30f3 30b7 30e7 30f3"),
   (0x3348, "30df 30af 30ed 30f3,30df 30ea,30df 30ea 30d0 30fc 30eb,30e1 30ac"),
   (0x334C, "30e1 30ac 30c8 30f3,30e1 30fc 30c8 30eb,30e4 30fc 30c9,30e4 30fc 30eb"),
   (0x3350, "30e6 30a2 30f3,30ea 30c3 30c8 30eb,30ea 30e9,30eb 30d4 30fc,30eb 30fc 30d6 30eb"),
   (0x3355, "30ec 30e0,30ec 30f3 30c8 30b2 30f3,30ef 30c3 30c8,30 70b9,31 70b9,32 70b9,33 70b9"),
   (0x335C, "34 70b9,35 70b9,36 70b9,37 70b9,38 70b9,39 70b9,31 30 70b9,31 31 70b9,31 32 70b9"),
   (0x3365, "31 33 70b9,31 34 70b9,31 35 70b9,31 36 70b9,31 37 70b9,31 38 70b9,31 39 70b9"),
   (0x336C, "32 30 70b9,32 31 70b9,32 32 70b9,32 33 70b9,32 34 70b9,68 70 61,64 61,61 75"),
   (0x3374, "62 61 72,6f 76,70 63,64 6d,64 6d 32,64 6d 33,69 75,5e73 6210,662d 548c,5927 6b63"),
   (0x337E, "660e 6cbb,682a 5f0f 4f1a 793e,70 61,6e 61,3bc 61,6d 61,6b 61,6b 62,6d 62,67 62"),
   (0x3388, "63 61 6c,6b 63 61 6c,70 66,6e 66,3bc 66,3bc 67,6d 67,6b 67,68 7a,6b 68 7a"),
   (0x3392, "6d 68 7a,67 68 7a,74 68 7a,3bc 6c,6d 6c,64 6c,6b 6c,66 6d,6e 6d,3bc 6d,6d 6d"),
   (0x339D, "63 6d,6b 6d,6d 6d 32,63 6d 32,6d 32,6b 6d 32,6d 6d 33,63 6d 33,6d 33,6b 6d 33"),
   (0x33A7, "6d 2215 73,6d 2215 73 32,70 61,6b 70 61,6d 70 61,67 70 61,72 61 64"),
   (0x33AE, "72 61 64 2215 73,72 61 64 2215 73 32,70 73,6e 73,3bc 73,6d 73,70 76,6e 76,3bc 76"),
   (0x33B7, "6d 76,6b 76,6d 76,70 77,6e 77,3bc 77,6d 77,6b 77,6d 77,6b 3c9,6d 3c9,,62 71,63 63"),
   (0x33C5, "63 64,63 2215 6b 67,,64 62,67 79,68 61,68 70,69 6e,6b 6b,6b 6d,6b 74,6c 6d,6c 6e"),
   (0x33D2, "6c 6f 67,6c 78,6d 62,6d 69 6c,6d 6f 6c,70 68,,70 70 6d,70 72,73 72,73 76,77 62"),
   (0x33DE, "76 2215 6d,61 2215 6d,31 65e5,32 65e5,33 65e5,34 65e5,35 65e5,36 65e5,37 65e5"),
   (0x33E7, "38 65e5,39 65e5,31 30 65e5,31 31 65e5,31 32 65e5,31 33 65e5,31 34 65e5,31 35 65e5"),
   (0x33EF, "31 36 65e5,31 37 65e5,31 38 65e5,31 39 65e5,32 30 65e5,32 31 65e5,32 32 65e5"),
   (0x33F6, "32 33 65e5,32 34 65e5,32 35 65e5,32 36 65e5,32 37 65e5,32 38 65e5,32 39 65e5"),
   (0x33FD, "33 30 65e5,33 31 65e5,67 61 6c"), (0xA69C, "44a,44c"), (0xA770, "a76f"),
   (0xA779, "a77a,,a77c,,1d79"), (0xA78B, "a78c,,265,,,a791,,a793"),
   (0xA7AA, "266,25c,261,26c,26a,,29e,287,29d,ab53"), (0xA7C4, "a794,282,1d8e,a7c8,,a7ca,,264"),
   (0xA7DC, "19b"), (0xA7F1, "73,63,66,71,a7f6,,,127,153"), (0xAB5C, "a727,ab37,26b,ab52"),
   (0xAB69, "28d"),
   (0xF900, "8c48,66f4,8eca,8cc8,6ed1,4e32,53e5,9f9c,9f9c,5951,91d1,5587,5948,61f6,7669,7f85"),
   (0xF910, "863f,87ba,88f8,908f,6a02,6d1b,70d9,73de,843d,916a,99f1,4e82,5375,6b04,721b,862d"),
   (0xF920, "9e1e,5d50,6feb,85cd,8964,62c9,81d8,881f,5eca,6717,6d6a,72fc,90ce,4f86,51b7,52de"),
   (0xF930, "64c4,6ad3,7210,76e7,8001,8606,865c,8def,9732,9b6f,9dfa,788c,797f,7da0,83c9,9304"),
   (0xF940, "9e7f,8ad6,58df,5f04,7c60,807e,7262,78ca,8cc2,96f7,58d8,5c62,6a13,6dda,6f0f,7d2f"),
   (0xF950, "7e37,964b,52d2,808b,51dc,51cc,7a1c,7dbe,83f1,9675,8b80,62cf,6a02,8afe,4e39,5be7"),
   (0xF960, "6012,7387,7570,5317,78fb,4fbf,5fa9,4e0d,6ccc,6578,7d22,53c3,585e,7701,8449,8aaa"),
   (0xF970, "6bba,8fb0,6c88,62fe,82e5,63a0,7565,4eae,5169,51c9,6881,7ce7,826f,8ad2,91cf,52f5"),
   (0xF980, "5442,5973,5eec,65c5,6ffe,792a,95ad,9a6a,9e97,9ece,529b,66c6,6b77,8f62,5e74,6190"),
   (0xF990, "6200,649a,6f23,7149,7489,79ca,7df4,806f,8f26,84ee,9023,934a,5217,52a3,54bd,70c8"),
   (0xF9A0, "88c2,8aaa,5ec9,5ff5,637b,6bae,7c3e,7375,4ee4,56f9,5be7,5dba,601c,73b2,7469,7f9a"),
   (0xF9B0, "8046,9234,96f6,9748,9818,4f8b,79ae,91b4,96b8,60e1,4e86,50da,5bee,5c3f,6599,6a02"),
   (0xF9C0, "71ce,7642,84fc,907c,9f8d,6688,962e,5289,677b,67f3,6d41,6e9c,7409,7559,786b,7d10"),
   (0xF9D0, "985e,516d,622e,9678,502b,5d19,6dea,8f2a,5f8b,6144,6817,7387,9686,5229,540f,5c65"),
   (0xF9E0, "6613,674e,68a8,6ce5,7406,75e2,7f79,88cf,88e1,91cc,96e2,533f,6eba,541d,71d0,7498"),
   (0xF9F0, "85fa,96a3,9c57,9e9f,6797,6dcb,81e8,7acb,7b20,7c92,72c0,7099,8b58,4ec0,8336,523a"),
   (0xFA00, "5207,5ea6,62d3,7cd6,5b85,6d1e,66b4,8f3b,884c,964d,898b,5ed3,5140,55c0,,,585a"),
   (0xFA12, "6674,,,51de,732a,76ca,793c,795e,7965,798f,9756,7cbe,7fbd,,8612,,8af8,,,9038,90fd"),
   (0xFA2A, "98ef,98fc,9928,9db4,90de,96b7,4fae,50e7,514d,52c9,52e4,5351,559d,5606,5668,5840"),
   (0xFA3A, "58a8,5c64,5c6e,6094,6168,618e,61f2,654f,65e2,6691,6885,6d77,6e1a,6f22,716e,722b"),
   (0xFA4A, "7422,7891,793e,7949,7948,7950,7956,795d,798d,798e,7a40,7a81,7bc0,7df4,7e09,7e41"),
   (0xFA5A, "7f72,8005,81ed,8279,8279,8457,8910,8996,8b01,8b39,8cd3,8d08,8fb6,9038,96e3,97ff"),
   (0xFA6A, "983b,6075,242ee,8218,,,4e26,51b5,5168,4f80,5145,5180,52c7,52fa,559d,5555,5599"),
   (0xFA7B, "55e2,585a,58b3,5944,5954,5a62,5b28,5ed2,5ed9,5f69,5fad,60d8,614e,6108,618e,6160"),
   (0xFA8B, "61f2,6234,63c4,641c,6452,6556,6674,6717,671b,6756,6b79,6bba,6d41,6edb,6ecb,6f22"),
   (0xFA9B, "701e,716e,77a7,7235,72af,732a,7471,7506,753b,761d,761f,76ca,76db,76f4,774a,7740"),
   (0xFAAB, "78cc,7ab1,7bc0,7c7b,7d5b,7df4,7f3e,8005,8352,83ef,8779,8941,8986,8996,8abf,8af8"),
   (0xFABB, "8acb,8b01,8afe,8aed,8b39,8b8a,8d08,8f38,9072,9199,9276,967c,96e3,9756,97db,97ff"),
   (0xFACB, "980b,983b,9b12,9f9c,2284a,22844,233d5,3b9d,4018,4039,25249,25cd0,27ed3,9f43,9f8e"),
   (0xFB00, "66 66,66 69,66 6c,66 66 69,66 66 6c,73 74,73 74"),
   (0xFB13, "574 576,574 565,574 56b,57e 576,574 56d,,,,,,5d9 5b4,,5f2 5b7,5e2,5d0,5d3,5d4,5db"),
   (0xFB25, "5dc,5dd,5e8,5ea,2b,5e9 5c1,5e9 5c2,5e9 5bc 5c1,5e9 5bc 5c2,5d0 5b7,5d0 5b8"),
   (0xFB30, "5d0 5bc,5d1 5bc,5d2 5bc,5d3 5bc,5d4 5bc,5d5 5bc,5d6 5bc,,5d8 5bc,5d9 5bc,5da 5bc"),
   (0xFB3B, "5db 5bc,5dc 5bc,,5de 5bc,,5e0 5bc,5e1 5bc,,5e3 5bc,5e4 5bc,,5e6 5bc,5e7 5bc"),
   (0xFB48, "5e8 5bc,5e9 5bc,5ea 5bc,5d5 5b9,5d1 5bf,5db 5bf,5e4 5bf,5d0 5dc,671,671,67b,67b"),
   (0xFB54, "67b,67b,67e,67e,67e,67e,680,680,680,680,67a,67a,67a,67a,67f,67f,67f,67f,679,679"),
   (0xFB68, "679,679,6a4,6a4,6a4,6a4,6a6,6a6,6a6,6a6,684,684,684,684,683,683,683,683,686,686"),
   (0xFB7C, "686,686,687,687,687,687,68d,68d,68c,68c,68e,68e,688,688,698,698,691,691,6a9,6a9"),
   (0xFB90, "6a9,6a9,6af,6af,6af,6af,6b3,6b3,6b3,6b3,6b1,6b1,6b1,6b1,6ba,6ba,6bb,6bb,6bb,6bb"),
   (0xFBA4, "6c0,6c0,6c1,6c1,6c1,6c1,6be,6be,6be,6be,6d2,6d2,6d3,6d3"),
   (0xFBD3, "6ad,6ad,6ad,6ad,6c7,6c7,6c6,6c6,6c8,6c8,6c7 674,6cb,6cb,6c5,6c5,6c9,6c9,6d0,6d0"),
   (0xFBE6, "6d0,6d0,649,649,626 627,626 627,626 6d5,626 6d5,626 648,626 648,626 6c7,626 6c7"),
   (0xFBF2, "626 6c6,626 6c6,626 6c8,626 6c8,626 6d0,626 6d0,626 6d0,626 649,626 649,626 649"),
   (0xFBFC, "6cc,6cc,6cc,6cc,626 62c,626 62d,626 645,626 649,626 64a,628 62c,628 62d,628 62e"),
   (0xFC08, "628 645,628 649,628 64a,62a 62c,62a 62d,62a 62e,62a 645,62a 649,62a 64a,62b 62c"),
   (0xFC12, "62b 645,62b 649,62b 64a,62c 62d,62c 645,62d 62c,62d 645,62e 62c,62e 62d,62e 645"),
   (0xFC1C, "633 62c,633 62d,633 62e,633 645,635 62d,635 645,636 62c,636 62d,636 62e,636 645"),
   (0xFC26, "637 62d,637 645,638 645,639 62c,639 645,63a 62c,63a 645,641 62c,641 62d,641 62e"),
   (0xFC30, "641 645,641 649,641 64a,642 62d,642 645,642 649,642 64a,643 627,643 62c,643 62d"),
   (0xFC3A, "643 62e,643 644,643 645,643 649,643 64a,644 62c,644 62d,644 62e,644 645,644 649"),
   (0xFC44, "644 64a,645 62c,645 62d,645 62e,645 645,645 649,645 64a,646 62c,646 62d,646 62e"),
   (0xFC4E, "646 645,646 649,646 64a,647 62c,647 645,647 649,647 64a,64a 62c,64a 62d,64a 62e"),
   (0xFC58, "64a 645,64a 649,64a 64a,630 670,631 670,649 670,20 64c 651,20 64d 651,20 64e 651"),
   (0xFC61, "20 64f 651,20 650 651,20 651 670,626 631,626 632,626 645,626 646,626 649,626 64a"),
   (0xFC6A, "628 631,628 632,628 645,628 646,628 649,628 64a,62a 631,62a 632,62a 645,62a 646"),
   (0xFC74, "62a 649,62a 64a,62b 631,62b 632,62b 645,62b 646,62b 649,62b 64a,641 649,641 64a"),
   (0xFC7E, "642 649,642 64a,643 627,643 644,643 645,643 649,643 64a,644 645,644 649,644 64a"),
   (0xFC88, "645 627,645 645,646 631,646 632,646 645,646 646,646 649,646 64a,649 670,64a 631"),
   (0xFC92, "64a 632,64a 645,64a 646,64a 649,64a 64a,626 62c,626 62d,626 62e,626 645,626 647"),
   (0xFC9C, "628 62c,628 62d,628 62e,628 645,628 647,62a 62c,62a 62d,62a 62e,62a 645,62a 647"),
   (0xFCA6, "62b 645,62c 62d,62c 645,62d 62c,62d 645,62e 62c,62e 645,633 62c,633 62d,633 62e"),
   (0xFCB0, "633 645,635 62d,635 62e,635 645,636 62c,636 62d,636 62e,636 645,637 62d,638 645"),
   (0xFCBA, "639 62c,639 645,63a 62c,63a 645,641 62c,641 62d,641 62e,641 645,642 62d,642 645"),
   (0xFCC4, "643 62c,643 62d,643 62e,643 644,643 645,644 62c,644 62d,644 62e,644 645,644 647"),
   (0xFCCE, "645 62c,645 62d,645 62e,645 645,646 62c,646 62d,646 62e,646 645,646 647,647 62c"),
   (0xFCD8, "647 645,647 670,64a 62c,64a 62d,64a 62e,64a 645,64a 647,626 645,626 647,628 645"),
   (0xFCE2, "628 647,62a 645,62a 647,62b 645,62b 647,633 645,633 647,634 645,634 647,643 644"),
   (0xFCEC, "643 645,644 645,646 645,646 647,64a 645,64a 647,640 64e 651,640 64f 651"),
   (0xFCF4, "640 650 651,637 649,637 64a,639 649,639 64a,63a 649,63a 64a,633 649,633 64a"),
   (0xFCFD, "634 649,634 64a,62d 649,62d 64a,62c 649,62c 64a,62e 649,62e 64a,635 649,635 64a"),
   (0xFD07, "636 649,636 64a,634 62c,634 62d,634 62e,634 645,634 631,633 631,635 631,636 631"),
   (0xFD11, "637 649,637 64a,639 649,639 64a,63a 649,63a 64a,633 649,633 64a,634 649,634 64a"),
   (0xFD1B, "62d 649,62d 64a,62c 649,62c 64a,62e 649,62e 64a,635 649,635 64a,636 649,636 64a"),
   (0xFD25, "634 62c,634 62d,634 62e,634 645,634 631,633 631,635 631,636 631,634 62c,634 62d"),
   (0xFD2F, "634 62e,634 645,633 647,634 647,637 645,633 62c,633 62d,633 62e,634 62c,634 62d"),
   (0xFD39, "634 62e,637 645,638 645,627 64b,627 64b"),
   (0xFD50, "62a 62c 645,62a 62d 62c,62a 62d 62c,62a 62d 645,62a 62e 645,62a 645 62c"),
   (0xFD56, "62a 645 62d,62a 645 62e,62c 645 62d,62c 645 62d,62d 645 64a,62d 645 649"),
   (0xFD5C, "633 62d 62c,633 62c 62d,633 62c 649,633 645 62d,633 645 62d,633 645 62c"),
   (0xFD62, "633 645 645,633 645 645,635 62d 62d,635 62d 62d,635 645 645,634 62d 645"),
   (0xFD68, "634 62d 645,634 62c 64a,634 645 62e,634 645 62e,634 645 645,634 645 645"),
   (0xFD6E, "636 62d 649,636 62e 645,636 62e 645,637 645 62d,637 645 62d,637 645 645"),
   (0xFD74, "637 645 64a,639 62c 645,639 645 645,639 645 645,639 645 649,63a 645 645"),
   (0xFD7A, "63a 645 64a,63a 645 649,641 62e 645,641 62e 645,642 645 62d,642 645 645"),
   (0xFD80, "644 62d 645,644 62d 64a,644 62d 649,644 62c 62c,644 62c 62c,644 62e 645"),
   (0xFD86, "644 62e 645,644 645 62d,644 645 62d,645 62d 62c,645 62d 645,645 62d 64a"),
   (0xFD8C, "645 62c 62d,645 62c 645,645 62e 62c,645 62e 645,,,645 62c 62e,647 645 62c"),
   (0xFD94, "647 645 645,646 62d 645,646 62d 649,646 62c 645,646 62c 645,646 62c 649"),
   (0xFD9A, "646 645 64a,646 645 649,64a 645 645,64a 645 645,628 62e 64a,62a 62c 64a"),
   (0xFDA0, "62a 62c 649,62a 62e 64a,62a 62e 649,62a 645 64a,62a 645 649,62c 645 64a"),
   (0xFDA6, "62c 62d 649,62c 645 649,633 62e 649,635 62d 64a,634 62d 64a,636 62d 64a"),
   (0xFDAC, "644 62c 64a,644 645 64a,64a 62d 64a,64a 62c 64a,64a 645 64a,645 645 64a"),
   (0xFDB2, "642 645 64a,646 62d 64a,642 645 62d,644 62d 645,639 645 64a,643 645 64a"),
   (0xFDB8, "646 62c 62d,645 62e 64a,644 62c 645,643 645 645,644 62c 645,646 62c 62d"),
   (0xFDBE, "62c 62d 64a,62d 62c 64a,645 62c 64a,641 645 64a,628 62d 64a,643 645 645"),
   (0xFDC4, "639 62c 645,635 645 645,633 62e 64a,646 62c 64a"),
   (0xFDF0, "635 644 6d2,642 644 6d2,627 644 644 647,627 643 628 631,645 62d 645 62f"),
   (0xFDF5, "635 644 639 645,631 633 648 644,639 644 64a 647,648 633 644 645,635 644 649"),
   (0xFDFA, "635 644 649 20 627 644 644 647 20 639 644 64a 647 20 648 633 644 645"),
   (0xFDFB, "62c 644 20 62c 644 627 644 647,631 6cc 627 644"),
   (0xFE10, "2c,3001,,3a,3b,21,3f,3016,3017"),
   (0xFE31, "2014,2013,5f,5f,28,29,7b,7d,3014,3015,3010,3011,300a,300b,3008,3009,,,,,,,5b,5d"),
   (0xFE49, "20 305,20 305,20 305,20 305,5f,5f,5f,2c,3001,,,3b,3a,3f,21,2014,28,29,7b,7d,3014"),
   (0xFE5E, "3015,23,26,2a,2b,2d,3c,3e,3d,,5c,24,25,40,,,,,20 64b,640 64b,20 64c,,20 64d"),
   (0xFE76, "20 64e,640 64e,20 64f,640 64f,20 650,640 650,20 651,640 651,20 652,640 652,621"),
   (0xFE81, "622,622,623,623,624,624,625,625,626,626,626,626,627,627,628,628,628,628,629,629"),
   (0xFE95, "62a,62a,62a,62a,62b,62b,62b,62b,62c,62c,62c,62c,62d,62d,62d,62d,62e,62e,62e,62e"),
   (0xFEA9, "62f,62f,630,630,631,631,632,632,633,633,633,633,634,634,634,634,635,635,635,635"),
   (0xFEBD, "636,636,636,636,637,637,637,637,638,638,638,638,639,639,639,639,63a,63a,63a,63a"),
   (0xFED1, "641,641,641,641,642,642,642,642,643,643,643,643,644,644,644,644,645,645,645,645"),
   (0xFEE5, "646,646,646,646,647,647,647,647,648,648,649,649,64a,64a,64a,64a,644 622,644 622"),
   (0xFEF7, "644 623,644 623,644 625,644 625,644 627,644 627"),
   (0xFF5F, "2985,2986,2e,300c,300d,3001,30fb,30f2,30a1,30a3,30a5,30a7,30a9,30e3,30e5,30e7"),
   (0xFF6F, "30c3,30fc,30a2,30a4,30a6,30a8,30aa,30ab,30ad,30af,30b1,30b3,30b5,30b7,30b9,30bb"),
   (0xFF7F, "30bd,30bf,30c1,30c4,30c6,30c8,,,,,,,30d2,30d5,30d8,30db,,,,,,30e4,30e6,,,,,,,30ef"),
   (0xFF9D, "30f3,3099,309a,,1100,1101,11aa,1102,11ac,11ad,1103,1104,1105,,,,,,,111a,1106,1107"),
   (0xFFB3, "1108,1121"),
   (0xFFDA, "1173,1174,1175,,,,a2,a3,ac,20 304,a6,a5,20a9,,2502,,,,,25a0,25cb"),
   (0x1058D, "105b4,,105b6,,105b8,,,,105bc"),
   (0x10781, "2d0,2d1,e6,299,253,,2a3,ab66,2a5,2a4,256,257,1d91,258,25e,2a9,264,262,260,29b,127"),
   (0x10796, "29c,267,284,2aa,2ab,26c,1df04,a78e,26e,1df05,28e,1df06,f8,276,277,71,27a,1df08"),
   (0x107A8, "27d,27e,280,2a8,2a6,ab67,2a7,288,2c71,,28f,2a1,2a2,298,1c0,1c1,1c2,1df0a,1df1e"),
   (0x1D15E, "1d157 1d165,1d158 1d165,1d158 1d165 1d16e,1d158 1d165 1d16f,1d158 1d165 1d170"),
   (0x1D163, "1d158 1d165 1d171,1d158 1d165 1d172"),
   (0x1D1BB, "1d1b9 1d165,1d1ba 1d165,1d1b9 1d165 1d16e,1d1ba 1d165 1d16e,1d1b9 1d165 1d16f"),
   (0x1D1C0, "1d1ba 1d165 1d16f"), (0x1D44F, "62,,64,,66"), (0x1D49C, "61,,63,64,,,67,,,6a,6b"),
   (0x1D4BE, "69,,6b,,6d"), (0x1D504, "61,62"), (0x1D538, "61,62"), (0x1D546, "6f"),
   (0x1D6A4, "131,237"), (0x1D6B9, "3b8"), (0x1D6C1, "2207"), (0x1D6D3, "3c3"),
   (0x1D6DB, "2202,3b5,3b8,3ba,3c6,3c1,3c0"), (0x1D6F3, "3b8"), (0x1D6FB, "2207"),
   (0x1D70D, "3c3"), (0x1D715, "2202,3b5,3b8,3ba,3c6,3c1,3c0"), (0x1D72D, "3b8"),
   (0x1D735, "2207"), (0x1D747, "3c3"), (0x1D74F, "2202,3b5,3b8,3ba,3c6,3c1,3c0"),
   (0x1D767, "3b8"), (0x1D76F, "2207"), (0x1D781, "3c3"),
   (0x1D789, "2202,3b5,3b8,3ba,3c6,3c1,3c0"), (0x1D7A1, "3b8"), (0x1D7A9, "2207"),
   (0x1D7BB, "3c3"), (0x1D7C3, "2202,3b5,3b8,3ba,3c6,3c1,3c0,3dd,3dd"), (0x1E039, "43a,43b,43c"),
   (0x1E047, "44b,44d,44e,a689,4d9,456,458,4e9,4af,4cf"),
   (0x1E05A, "43a,43b,43e,43f,441,,,,,,,44a,44b,491,456,455,45f,4ab,a651,4b1"),
   (0x1EE00, "627,628,62c,62f,,648,632,62d,637,64a,,,,,633,639,641,635,642,631,634,62a,62b,62e"),
   (0x1EE18, "630,636,638,63a,66e,6ba,6a1,66f,,628,62c,,647,,,62d,,64a,,,,,633,639,641,635,642"),
   (0x1EE34, "634,62a,62b,62e,,636,,63a,,,,,,,62c,,,,,62d,,64a,,644,,646,633,639,,635,642,,634"),
   (0x1EE57, "62e,,636,,63a,,6ba,,66f,,628,62c,,647,,,62d,637,64a,643,,645,646,633,639,641,635"),
   (0x1EE72, "642,,634,62a,62b,62e,,636,638,63a,66e,,6a1,,627,628,62c,62f,647,648,632,62d,637"),
   (0x1EE89, "64a,,644,645,646,633,639,641,635,642,631,634,62a,62b,62e,630,636,638,63a,,,,,,628"),
   (0x1EEA2, "62c,62f,,648,632,62d,637,64a,,644,645,646,633,639,641,635,642,631,634,62a,62b,62e"),
   (0x1EEB8, "630,636,638,63a"),
   (0x1F101, "30 2c,31 2c,32 2c,33 2c,34 2c,35 2c,36 2c,37 2c,38 2c,39 2c,,,,,,28 61 29"),
   (0x1F111, "28 62 29,28 63 29,28 64 29,28 65 29,28 66 29,28 67 29,28 68 29,28 69 29,28 6a 29"),
   (0x1F11A, "28 6b 29,28 6c 29,28 6d 29,28 6e 29,28 6f 29,28 70 29,28 71 29,28 72 29,28 73 29"),
   (0x1F123, "28 74 29,28 75 29,28 76 29,28 77 29,28 78 29,28 79 29,28 7a 29,3014 73 3015,63,72"),
   (0x1F12D, "63 64,77 7a"), (0x1F14A, "68 76,6d 76,73 64,73 73,70 70 76,77 63"),
   (0x1F16A, "6d 63,6d 64,6d 72"), (0x1F190, "64 6a"), (0x1F200, "307b 304b,30b3 30b3,30b5"),
   (0x1F210, "624b,5b57,53cc,30c7,4e8c,591a,89e3,5929,4ea4,6620,7121,6599,524d,5f8c,518d,65b0"),
   (0x1F220, "521d,7d42,751f,8ca9,58f0,5439,6f14,6295,6355,4e00,4e09,904a,5de6,4e2d,53f3,6307"),
   (0x1F230, "8d70,6253,7981,7a7a,5408,6e80,6709,6708,7533,5272,55b6,914d,,,,,3014 672c 3015"),
   (0x1F241, "3014 4e09 3015,3014 4e8c 3015,3014 5b89 3015,3014 70b9 3015,3014 6253 3015"),
   (0x1F246, "3014 76d7 3015,3014 52dd 3015,3014 6557 3015"), (0x1F250, "5f97,53ef"),
   (0x2F800, "4e3d,4e38,4e41,20122,4f60,4fae,4fbb,5002,507a,5099,50e7,50cf,349e,2063a,514d,5154"),
   (0x2F810, "5164,5177,2051c,34b9,5167,518d,2054b,5197,51a4,4ecc,51ac,51b5,291df,51f5,5203"),
   (0x2F81F, "34df,523b,5246,5272,5277,3515,52c7,52c9,52e4,52fa,5305,5306,5317,5349,5351,535a"),
   (0x2F82F, "5373,537d,537f,537f,537f,20a2c,7070,53ca,53df,20b63,53eb,53f1,5406,549e,5438,5448"),
   (0x2F83F, "5468,54a2,54f6,5510,5553,5563,5584,5584,5599,55ab,55b3,55c2,5716,5606,5717,5651"),
   (0x2F84F, "5674,5207,58ee,57ce,57f4,580d,578b,5832,5831,58ac,214e4,58f2,58f7,5906,591a,5922"),
   (0x2F85F, "5962,216a8,216ea,59ec,5a1b,5a27,59d8,5a66,36ee,36fc,5b08,5b3e,5b3e,219c8,5bc3"),
   (0x2F86E, "5bd8,5be7,5bf3,21b18,5bff,5c06,5f53,5c22,3781,5c60,5c6e,5cc0,5c8d,21de4,5d43"),
   (0x2F87D, "21de6,5d6e,5d6b,5d7c,5de1,5de2,382f,5dfd,5e28,5e3d,5e69,3862,22183,387c,5eb0,5eb3"),
   (0x2F88D, "5eb6,5eca,2a392,5efe,22331,22331,8201,5f22,5f22,38c7,232b8,261da,5f62,5f6b,38e3"),
   (0x2F89C, "5f9a,5fcd,5fd7,5ff9,6081,393a,391c,6094,226d4,60c7,6148,614c,614e,614c,617a,618e"),
   (0x2F8AC, "61b2,61a4,61af,61de,61f2,61f6,6210,621b,625d,62b1,62d4,6350,22b0c,633d,62fc,6368"),
   (0x2F8BC, "6383,63e4,22bf1,6422,63c5,63a9,3a2e,6469,647e,649d,6477,3a6c,654f,656c,2300a,65e3"),
   (0x2F8CC, "66f8,6649,3b19,6691,3b08,3ae4,5192,5195,6700,669c,80ad,43d9,6717,671b,6721,675e"),
   (0x2F8DC, "6753,233c3,3b49,67fa,6785,6852,6885,2346d,688e,681f,6914,3b9d,6942,69a3,69ea,6aa8"),
   (0x2F8EC, "236a3,6adb,3c18,6b21,238a7,6b54,3c4e,6b72,6b9f,6bba,6bbb,23a8d,21d0b,23afa,6c4e"),
   (0x2F8FB, "23cbc,6cbf,6ccd,6c67,6d16,6d3e,6d77,6d41,6d69,6d78,6d85,23d1e,6d34,6e2f,6e6e,3d33"),
   (0x2F90B, "6ecb,6ec7,23ed1,6df9,6f6e,23f5e,23f8e,6fc6,7039,701e,701b,3d96,704a,707d,7077"),
   (0x2F91A, "70ad,20525,7145,24263,719c,243ab,7228,7235,7250,24608,7280,7295,24735,24814,737a"),
   (0x2F929, "738b,3eac,73a5,3eb8,3eb8,7447,745c,7471,7485,74ca,3f1b,7524,24c36,753e,24c92,7570"),
   (0x2F939, "2219f,7610,24fa1,24fb8,25044,3ffc,4008,76f4,250f3,250f2,25119,25133,771e,771f"),
   (0x2F947, "771f,774a,4039,778b,4046,4096,2541d,784e,788c,78cc,40e3,25626,7956,2569a,256c5"),
   (0x2F956, "798f,79eb,412f,7a40,7a4a,7a4f,2597c,25aa7,25aa7,7aee,4202,25bab,7bc6,7bc9,4227"),
   (0x2F965, "25c80,7cd2,42a0,7ce8,7ce3,7d00,25f86,7d63,4301,7dc7,7e02,7e45,4334,26228,26247"),
   (0x2F974, "4359,262d9,7f7a,2633e,7f95,7ffa,8005,264da,26523,8060,265a8,8070,2335f,43d5,80b2"),
   (0x2F983, "8103,440b,813e,5ab5,267a7,267b5,23393,2339c,8201,8204,8f9e,446b,8291,828b,829d"),
   (0x2F992, "52b3,82b1,82b3,82bd,82e6,26b3c,82e5,831d,8363,83ad,8323,83bd,83e7,8457,8353,83ca"),
   (0x2F9A2, "83cc,83dc,26c36,26d6b,26cd5,452b,84f1,84f3,8516,273ca,8564,26f2c,455d,4561,26fb1"),
   (0x2F9B1, "270d2,456b,8650,865c,8667,8669,86a9,8688,870e,86e2,8779,8728,876b,8786,45d7,87e1"),
   (0x2F9C1, "8801,45f9,8860,8863,27667,88d7,88de,4635,88fa,34bb,278ae,27966,46be,46c7,8aa0"),
   (0x2F9D0, "8aed,8b8a,8c55,27ca8,8cab,8cc1,8d1b,8d77,27f2f,20804,8dcb,8dbc,8df0,208de,8ed4"),
   (0x2F9DF, "8f38,285d2,285ed,9094,90f1,9111,2872e,911b,9238,92d7,92d8,927c,93f9,9415,28bfa"),
   (0x2F9EE, "958b,4995,95b7,28d77,49e6,96c3,5db2,9723,29145,2921a,4a6e,4a76,97e0,2940a,4ab2"),
   (0x2F9FD, "29496,980b,980b,9829,295b6,98e2,4b33,9929,99a7,99c2,99fe,4bce,29b30,9b12,9c40"),
   (0x2FA0C, "9cfd,4cce,4ced,9d67,2a0ce,4cf8,2a105,2a20e,2a291,9ebb,4d56,9ef9,9efe,9f05,9f0f"),
   (0x2FA1B, "9f16,9f3b,2a600")]

def isIgnored (point : Nat) : Bool :=
  ignored.any fun (first, last) => first ≤ point && point ≤ last

/-- The character that one in a run stands for. -/
def shifted? (point : Nat) : Option Nat :=
  shifts.findSome? fun (first, last, step, target) =>
    if first ≤ point ∧ point ≤ last ∧ (point - first) % step = 0 then
      some (target + (point - first))
    else none

/-- The text that one in the table stands for. -/
def spelt? (point : Nat) : Option (List Nat) := do
  let row ← Text.Runs.row? point spellings
  let text ← (row.2.toList.splitOn ',')[point - row.1]?
  if text.isEmpty then none else some (Composition.numbers none text)

/-- What a character stands for. -/
def textOf (point : Nat) : List Nat :=
  if isIgnored point then []
  else ((shifted? point).map fun p => [p]).or (spelt? point) |>.getD [point]

/-- A text with every character replaced by what it stands for, in the form that host names
have. -/
def fold (text : List Nat) : List Nat := Composition.compose (text.flatMap textOf)

/-! ## Examples -/

example : textOf 'Ü'.toNat = ['ü'.toNat] := by decide +kernel

example : textOf '℃'.toNat = ['°'.toNat, 'c'.toNat] := by decide +kernel

example : textOf '。'.toNat = ['.'.toNat] := by decide +kernel

end Mapping
end RepairConsole.Url.Host
