import RepairConsole.Text.Runs
/-!
# Composed characters

A letter with a mark can be written as one character or as two. In a host name it is one
wherever there is one for it, and several marks on one letter stand in a fixed order, so that
equal names have equal characters.
-/

namespace RepairConsole.Url.Host

namespace Composition

/-! ## The order of marks -/

/-- The letters of the table below and the combining classes that they stand for. -/
def classes : List (Char × Nat) :=
  [('.', 0), ('a', 1), ('b', 6), ('c', 7), ('d', 8), ('e', 9), ('f', 10), ('g', 11),
   ('h', 12), ('i', 13), ('j', 14), ('k', 15), ('l', 16), ('m', 17), ('n', 18), ('o', 19),
   ('p', 20), ('q', 21), ('r', 22), ('s', 23), ('t', 24), ('u', 25), ('v', 26), ('w', 27),
   ('x', 28), ('y', 29), ('z', 30), ('A', 31), ('B', 32), ('C', 33), ('D', 34), ('E', 35),
   ('F', 36), ('G', 84), ('H', 91), ('I', 103), ('J', 107), ('K', 118), ('L', 122), ('M', 129),
   ('N', 130), ('O', 132), ('P', 202), ('Q', 214), ('R', 216), ('S', 218), ('T', 220), ('U', 222),
   ('V', 224), ('W', 226), ('X', 228), ('Y', 230), ('Z', 232), ('+', 233), ('-', 234)]

/-- The combining class of every code point in turn, by its letter. -/
def table : Text.Runs.Table :=
  [(0x0, "768.21YZ4TZR5T2P4T2P11T5a4T10Y3T3Y3T3Y4TYZ2TY+2-+2-+14Y274.5Y265.T4YT3YUT6Y6T2YT2YUX"),
   (0x5AF, "Yfghijklmn2opqr.s.tu.YT.9n64.8YzAB48.wxyzABCD2Y2T5YT2YT16.E101.8Y.4YTY2.2Y.T2YT35.F"),
   (0x712, "30.YT2YT2Y3TY2TYT3YTYTYTYT4Y158.7YTY9.T24.4Y.9Y.3Y.7Y41.5T57.2Y3T4Y42.5Y5T15YT2YT2YT"),
   (0x8EA, "3Y3Twxy3YT2Y2T5Y60.c16.e3.YT2Y103.c16.e48.3Y59.2c15.4e107.c16.3e108.c16.8e120.3e108."),
   (0xC3C, "c16.8eG2H100.c16.8e102.2e16.e124.5e105.2I5e9.4J108.2Ke13.4L76.2T27.T.T.R55.M2N6O4N2."),
   (0xF80, "2N2Ye.2Y62.T112.c.2e82.T719.3Y948.11e21.e157.e10.3Y201.X143.UY5T215.YT71.e20.10YT48."),
   (0x1AB0, "5Y6T2YT.2T2Y2T5YT18Y3T6YT4Y21-52.c15.e38.YT7Y54.2e58.c11.10e59.4c149.3Y.a5T2Y4TY.7a"),
   (0x1CE9, "4.T6.Y3.2Y198.2YT7YT2Y-QTP37YZ2XTSY+TY2T719.2Y2a4Y3a2Y4.Y3.2aYTY2a4T20Y3051.4Y140.e"),
   (0x2D80, "96.32Y554.SXZU2V105.4d30162.Y4.10Y32.2Y80.2Y276.e37.4e148.e27.18Y57.3T37.12e84.c12.e"),
   (0xA9C1, "239.Y.2YT2.2Y5.2Y.Y52.11e236.3e20270.148v622.7Y7T23Y952.131T96.T149.10Y1677.T.Y40.Ya"),
   (0x10A3A, "5Te165.Y5T569.12Y57.5Y317.2Y77.2T.3T70.2T3YTY4T49.YTYT192.e41.e14.e57.ec69.3Y48.3e"),
   (0x11136, "61.c76.e9.c106.ec178.c6e75.2c16.3e22.26Y78.3e113.e3.c23.Y99.ec251.ec126.e118.ec115."),
   (0x1172B, "5e265.ec258.2e4.c156.e83.e18.9e73.e421.e258.c.2e81.e425.2e16876.e2496.5a59.7Y1209.2b"),
   (0x16FF2, "19628.a5318.2R3a3.W13R8T2.5Y2T30.4Y148.3Y3515.256Y48.7Y375.18Y44.4Y508.2ZTY254.YT"),
   (0x1E5F0, "243.Y2.Y7.2Y5.9Y466.82T34.6Yc")]

/-- The combining class of a code point: zero unless it is a mark that can change places. -/
def classOf (point : Nat) : Nat :=
  ((Text.Runs.find? point table).bind fun c => classes.lookup c).getD 0

/-- Whether a sign takes the vowel from the letter before it. -/
def isVowelKiller (point : Nat) : Bool := classOf point == 9

/-- Puts a code point in front of a text in order, behind the marks that go before it. -/
def place (point : Nat) : List Nat → List Nat
  | [] => [point]
  | next :: rest =>
    if 0 < classOf next && classOf next < classOf point then next :: place point rest
    else point :: next :: rest

/-- A text with its marks in order. -/
def arrange (text : List Nat) : List Nat := text.foldr place []

/-! ## One character or two -/

/-- Characters of the repertoire that can be written as two. Under the second of the two are
the first and the one for both, in hexadecimal digits. -/
def pairRows : List (Nat × String) :=
  [(0x300, "61 e0  65 e8  69 ec  6e 1f9  6f f2  75 f9  77 1e81  79 1ef3  e2 1ea7  ea 1ec1"),
   (0x300, "f4 1ed3  fc 1dc  103 1eb1  113 1e15  14d 1e51  1a1 1edd  1b0 1eeb  3b1 1f70"),
   (0x300, "3b5 1f72  3b7 1f74  3b9 1f76  3bf 1f78  3c5 1f7a  3c9 1f7c  3ca 1fd2  3cb 1fe2"),
   (0x300, "435 450  438 45d  1f00 1f02  1f01 1f03  1f10 1f12  1f11 1f13  1f20 1f22  1f21 1f23"),
   (0x300, "1f30 1f32  1f31 1f33  1f40 1f42  1f41 1f43  1f50 1f52  1f51 1f53  1f60 1f62"),
   (0x300, "1f61 1f63"),
   (0x301, "61 e1  63 107  65 e9  67 1f5  69 ed  6b 1e31  6c 13a  6d 1e3f  6e 144  6f f3"),
   (0x301, "70 1e55  72 155  73 15b  75 fa  77 1e83  79 fd  7a 17a  e2 1ea5  e5 1fb  e6 1fd"),
   (0x301, "e7 1e09  ea 1ebf  ef 1e2f  f4 1ed1  f5 1e4d  f8 1ff  fc 1d8  103 1eaf  113 1e17"),
   (0x301, "14d 1e53  169 1e79  1a1 1edb  1b0 1ee9  3b1 3ac  3b5 3ad  3b7 3ae  3b9 3af  3bf 3cc"),
   (0x301, "3c5 3cd  3c9 3ce  3ca 390  3cb 3b0  433 453  43a 45c  1f00 1f04  1f01 1f05"),
   (0x301, "1f10 1f14  1f11 1f15  1f20 1f24  1f21 1f25  1f30 1f34  1f31 1f35  1f40 1f44"),
   (0x301, "1f41 1f45  1f50 1f54  1f51 1f55  1f60 1f64  1f61 1f65"),
   (0x302, "61 e2  63 109  65 ea  67 11d  68 125  69 ee  6a 135  6f f4  73 15d  75 fb  77 175"),
   (0x302, "79 177  7a 1e91  1ea1 1ead  1eb9 1ec7  1ecd 1ed9"),
   (0x303, "61 e3  65 1ebd  69 129  6e f1  6f f5  75 169  76 1e7d  79 1ef9  e2 1eab  ea 1ec5"),
   (0x303, "f4 1ed7  103 1eb5  1a1 1ee1  1b0 1eef"),
   (0x304, "61 101  65 113  67 1e21  69 12b  6f 14d  75 16b  79 233  e4 1df  e6 1e3  f5 22d"),
   (0x304, "f6 22b  fc 1d6  1eb 1ed  227 1e1  22f 231  3b1 1fb1  3b9 1fd1  3c5 1fe1  438 4e3"),
   (0x304, "443 4ef  1e37 1e39  1e5b 1e5d"),
   (0x306, "61 103  65 115  67 11f  69 12d  6f 14f  75 16d  229 1e1d  3b1 1fb0  3b9 1fd0"),
   (0x306, "3c5 1fe0  430 4d1  435 4d7  436 4c2  438 439  443 45e  1ea1 1eb7"),
   (0x307, "61 227  62 1e03  63 10b  64 1e0b  65 117  66 1e1f  67 121  68 1e23  6d 1e41  6e 1e45"),
   (0x307, "6f 22f  70 1e57  72 1e59  73 1e61  74 1e6b  77 1e87  78 1e8b  79 1e8f  7a 17c"),
   (0x307, "15b 1e65  161 1e67  1e63 1e69  105d2 105c9  105da 105e4"),
   (0x308, "61 e4  65 eb  68 1e27  69 ef  6f f6  74 1e97  75 fc  77 1e85  78 1e8d  79 ff"),
   (0x308, "f5 1e4f  16b 1e7b  3b9 3ca  3c5 3cb  430 4d3  435 451  436 4dd  437 4df  438 4e5"),
   (0x308, "43e 4e7  443 4f1  447 4f5  44b 4f9  44d 4ed  456 457  4d9 4db  4e9 4eb"),
   (0x309, "61 1ea3  65 1ebb  69 1ec9  6f 1ecf  75 1ee7  79 1ef7  e2 1ea9  ea 1ec3  f4 1ed5"),
   (0x309, "103 1eb3  1a1 1edf  1b0 1eed"),
   (0x30A, "61 e5  75 16f  77 1e98  79 1e99"),
   (0x30B, "6f 151  75 171  443 4f3"),
   (0x30C, "61 1ce  63 10d  64 10f  65 11b  67 1e7  68 21f  69 1d0  6a 1f0  6b 1e9  6c 13e"),
   (0x30C, "6e 148  6f 1d2  72 159  73 161  74 165  75 1d4  7a 17e  fc 1da  292 1ef"),
   (0x30F, "61 201  65 205  69 209  6f 20d  72 211  75 215  475 477"),
   (0x311, "61 203  65 207  69 20b  6f 20f  72 213  75 217"),
   (0x313, "3b1 1f00  3b5 1f10  3b7 1f20  3b9 1f30  3bf 1f40  3c1 1fe4  3c5 1f50  3c9 1f60"),
   (0x314, "3b1 1f01  3b5 1f11  3b7 1f21  3b9 1f31  3bf 1f41  3c1 1fe5  3c5 1f51  3c9 1f61"),
   (0x31B, "6f 1a1  75 1b0"),
   (0x323, "61 1ea1  62 1e05  64 1e0d  65 1eb9  68 1e25  69 1ecb  6b 1e33  6c 1e37  6d 1e43"),
   (0x323, "6e 1e47  6f 1ecd  72 1e5b  73 1e63  74 1e6d  75 1ee5  76 1e7f  77 1e89  79 1ef5"),
   (0x323, "7a 1e93  1a1 1ee3  1b0 1ef1"),
   (0x324, "75 1e73"),
   (0x325, "61 1e01"),
   (0x326, "73 219  74 21b"),
   (0x327, "63 e7  64 1e11  65 229  67 123  68 1e29  6b 137  6c 13c  6e 146  72 157  73 15f"),
   (0x327, "74 163"),
   (0x328, "61 105  65 119  69 12f  6f 1eb  75 173"),
   (0x32D, "64 1e13  65 1e19  6c 1e3d  6e 1e4b  74 1e71  75 1e77"),
   (0x32E, "68 1e2b"),
   (0x330, "65 1e1b  69 1e2d  75 1e75"),
   (0x331, "62 1e07  64 1e0f  68 1e96  6b 1e35  6c 1e3b  6e 1e49  72 1e5f  74 1e6f  7a 1e95"),
   (0x338, "3c 226e  3d 2260  3e 226f  2190 219a  2192 219b  2194 21ae  21d0 21cd  21d2 21cf"),
   (0x338, "21d4 21ce  2203 2204  2208 2209  220b 220c  2223 2224  2225 2226  223c 2241"),
   (0x338, "2243 2244  2245 2247  2248 2249  224d 226d  2261 2262  2264 2270  2265 2271"),
   (0x338, "2272 2274  2273 2275  2276 2278  2277 2279  227a 2280  227b 2281  227c 22e0"),
   (0x338, "227d 22e1  2282 2284  2283 2285  2286 2288  2287 2289  2291 22e2  2292 22e3"),
   (0x338, "22a2 22ac  22a8 22ad  22a9 22ae  22ab 22af  22b2 22ea  22b3 22eb  22b4 22ec"),
   (0x338, "22b5 22ed"),
   (0x342, "3b1 1fb6  3b7 1fc6  3b9 1fd6  3c5 1fe6  3c9 1ff6  3ca 1fd7  3cb 1fe7  1f00 1f06"),
   (0x342, "1f01 1f07  1f20 1f26  1f21 1f27  1f30 1f36  1f31 1f37  1f50 1f56  1f51 1f57"),
   (0x342, "1f60 1f66  1f61 1f67"),
   (0x653, "627 622"),
   (0x654, "627 623  648 624  64a 626  6c1 6c2  6d2 6d3  6d5 6c0"),
   (0x655, "627 625"),
   (0x93C, "928 929  930 931  933 934"),
   (0x9BE, "9c7 9cb"),
   (0x9D7, "9c7 9cc"),
   (0xB3E, "b47 b4b"),
   (0xB56, "b47 b48"),
   (0xB57, "b47 b4c"),
   (0xBBE, "bc6 bca  bc7 bcb"),
   (0xBD7, "b92 b94  bc6 bcc"),
   (0xC56, "c46 c48"),
   (0xCC2, "cc6 cca"),
   (0xCD5, "cbf cc0  cc6 cc7  cca ccb"),
   (0xCD6, "cc6 cc8"),
   (0xD3E, "d46 d4a  d47 d4b"),
   (0xD57, "d46 d4c"),
   (0xDCA, "dd9 dda  ddc ddd"),
   (0xDCF, "dd9 ddc"),
   (0xDDF, "dd9 dde"),
   (0x102E, "1025 1026"),
   (0x1B35, "1b05 1b06  1b07 1b08  1b09 1b0a  1b0b 1b0c  1b0d 1b0e  1b11 1b12  1b3a 1b3b"),
   (0x1B35, "1b3c 1b3d  1b3e 1b40  1b3f 1b41  1b42 1b43"),
   (0x3099, "3046 3094  304b 304c  304d 304e  304f 3050  3051 3052  3053 3054  3055 3056"),
   (0x3099, "3057 3058  3059 305a  305b 305c  305d 305e  305f 3060  3061 3062  3064 3065"),
   (0x3099, "3066 3067  3068 3069  306f 3070  3072 3073  3075 3076  3078 3079  307b 307c"),
   (0x3099, "309d 309e  30a6 30f4  30ab 30ac  30ad 30ae  30af 30b0  30b1 30b2  30b3 30b4"),
   (0x3099, "30b5 30b6  30b7 30b8  30b9 30ba  30bb 30bc  30bd 30be  30bf 30c0  30c1 30c2"),
   (0x3099, "30c4 30c5  30c6 30c7  30c8 30c9  30cf 30d0  30d2 30d3  30d5 30d6  30d8 30d9"),
   (0x3099, "30db 30dc  30ef 30f7  30f0 30f8  30f1 30f9  30f2 30fa  30fd 30fe"),
   (0x309A, "306f 3071  3072 3074  3075 3077  3078 307a  307b 307d  30cf 30d1  30d2 30d4"),
   (0x309A, "30d5 30d7  30d8 30da  30db 30dd"),
   (0x110BA, "11099 1109a  1109b 1109c  110a5 110ab"),
   (0x11127, "11131 1112e  11132 1112f"),
   (0x1133E, "11347 1134b"),
   (0x11357, "11347 1134c"),
   (0x113B8, "113c2 113c7"),
   (0x113BB, "11384 11385"),
   (0x113C2, "1138b 1138e  113c2 113c5"),
   (0x113C9, "11382 11383  11390 11391  113c2 113c8"),
   (0x114B0, "114b9 114bc"),
   (0x114BA, "114b9 114bb"),
   (0x114BD, "114b9 114be"),
   (0x115AF, "115b8 115ba  115b9 115bb"),
   (0x11930, "11935 11938"),
   (0x1611E, "1611e 16121"),
   (0x1611F, "1611e 16123  16121 16126  16122 16127  16129 16124"),
   (0x16120, "1611e 16125  16121 16128"),
   (0x16129, "1611e 16122"),
   (0x16D67, "16d63 16d69  16d67 16d68  16d69 16d6a")]

/-- The numbers that a row writes; `number` is the one under way. -/
def numbers (number : Option Nat) : List Char → List Nat
  | [] => number.toList
  | c :: rest =>
    if c = ' ' then number.toList ++ numbers none rest
    else numbers (some (16 * number.getD 0 + (c.toNat - if c.isDigit then 48 else 87))) rest

/-- Groups numbers by two. -/
def twos : List Nat → List (Nat × Nat)
  | first :: whole :: rest => (first, whole) :: twos rest
  | _ => []

/-- The first parts that stand under a second one, each with the character for both. -/
def under (second : Nat) : List (Nat × Nat) :=
  (pairRows.filter (·.1 == second)).flatMap fun row => twos (numbers none row.2.toList)

/-- The table that leads from a character to its parts. -/
def parts : List (Nat × Nat × Nat) :=
  pairRows.flatMap fun row =>
    (twos (numbers none row.2.toList)).map fun pair => (pair.2, pair.1, row.1)

/-- The two parts of a syllable block of Hangul; one with a final consonant is a block
without it and that consonant. -/
def syllableParts? (point : Nat) : Option (Nat × Nat) :=
  if point < 0xAC00 || 0xD7A4 ≤ point then none
  else
    let index := point - 0xAC00
    if index % 28 = 0 then some (0x1100 + index / 588, 0x1161 + index % 588 / 28)
    else some (point - index % 28, 0x11A7 + index % 28)

/-- The syllable block of two parts. -/
def syllable? (first second : Nat) : Option Nat :=
  if 0x1100 ≤ first && first < 0x1113 && 0x1161 ≤ second && second < 0x1176 then
    some (0xAC00 + ((first - 0x1100) * 21 + (second - 0x1161)) * 28)
  else if 0xAC00 ≤ first && first < 0xD7A4 && (first - 0xAC00) % 28 == 0 && 0x11A8 ≤ second &&
      second < 0x11C3 then
    some (first + (second - 0x11A7))
  else none

/-- The two characters that one can be written as. -/
def parts? (point : Nat) : Option (Nat × Nat) :=
  (syllableParts? point).or (parts.lookup point)

/-- The one character that two can be written as. -/
def whole? (first second : Nat) : Option Nat :=
  (syllable? first second).or ((under second).lookup first)

/-- A character written out. Only the first of two parts has parts again, and the first
argument bounds how often. -/
def writeOut : Nat → Nat → List Nat
  | 0, point => [point]
  | fuel + 1, point =>
    match parts? point with
    | some (first, second) => writeOut fuel first ++ [second]
    | none => [point]

/-- Joins the characters of a text in order, where they can be one. `letter` is the last one
that marks can join, and `marks` what stands after it, backwards. -/
def joinFrom (letter : Option Nat) (marks : List Nat) : List Nat → List Nat
  | [] => letter.toList ++ marks.reverse
  | point :: rest =>
    let isOpen := marks.head?.all fun m => classOf m < classOf point
    match letter.bind fun l => if isOpen then whole? l point else none with
    | some whole => joinFrom (some whole) marks rest
    | none =>
      if classOf point = 0 then letter.toList ++ marks.reverse ++ joinFrom (some point) [] rest
      else joinFrom letter (point :: marks) rest

/-- A text in the form that host names have. -/
def compose (text : List Nat) : List Nat :=
  joinFrom none [] (arrange (text.flatMap (writeOut 4)))

/-- Whether a text is in the form that host names have. -/
def isComposed (text : List Nat) : Bool := compose text == text

/-! ## Hangul -/

example : syllableParts? 0xAC01 = some (0xAC00, 0x11A8) := by decide

example : syllable? 0x1112 0x1161 = some 0xD558 := by decide

/-! ## Letters and marks -/

example : whole? 'e'.toNat 0x301 = some 'é'.toNat := by decide +kernel

example : arrange ['e'.toNat, 0x301, 0x327] = ['e'.toNat, 0x327, 0x301] := by decide +kernel

end Composition
end RepairConsole.Url.Host
