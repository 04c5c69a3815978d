import PatternSync.Text.Runs

/-!
# Letter case of single characters

The full lower-case mapping of one character, and the two properties that decide which of its two
lower-case forms a capital sigma takes, by Unicode 17.
-/

namespace PatternSync.Text

/-- Runs of characters with a one-character lower case: `(first, count, step, image)` stands for
`count` characters `step` apart, from `first` on, mapped in order to those from `image` on. -/
def lowerRuns : List (Nat × Nat × Nat × Nat) :=
  [(65, 26, 1, 97), (192, 23, 1, 224), (216, 7, 1, 248), (256, 24, 2, 257), (306, 3, 2, 307),
   (313, 8, 2, 314), (330, 23, 2, 331), (376, 1, 1, 255), (377, 3, 2, 378), (385, 1, 1, 595),
   (386, 2, 2, 387), (390, 1, 1, 596), (391, 1, 1, 392), (393, 2, 1, 598), (395, 1, 1, 396),
   (398, 1, 1, 477), (399, 1, 1, 601), (400, 1, 1, 603), (401, 1, 1, 402), (403, 1, 1, 608),
   (404, 1, 1, 611), (406, 1, 1, 617), (407, 1, 1, 616), (408, 1, 1, 409), (412, 1, 1, 623),
   (413, 1, 1, 626), (415, 1, 1, 629), (416, 3, 2, 417), (422, 1, 1, 640), (423, 1, 1, 424),
   (425, 1, 1, 643), (428, 1, 1, 429), (430, 1, 1, 648), (431, 1, 1, 432), (433, 2, 1, 650),
   (435, 2, 2, 436), (439, 1, 1, 658), (440, 1, 1, 441), (444, 1, 1, 445), (452, 1, 1, 454),
   (453, 1, 1, 454), (455, 1, 1, 457), (456, 1, 1, 457), (458, 1, 1, 460), (459, 9, 2, 460),
   (478, 9, 2, 479), (497, 1, 1, 499), (498, 2, 2, 499), (502, 1, 1, 405), (503, 1, 1, 447),
   (504, 20, 2, 505), (544, 1, 1, 414), (546, 9, 2, 547), (570, 1, 1, 11365), (571, 1, 1, 572),
   (573, 1, 1, 410), (574, 1, 1, 11366), (577, 1, 1, 578), (579, 1, 1, 384), (580, 1, 1, 649),
   (581, 1, 1, 652), (582, 5, 2, 583), (880, 2, 2, 881), (886, 1, 1, 887), (895, 1, 1, 1011),
   (902, 1, 1, 940), (904, 3, 1, 941), (908, 1, 1, 972), (910, 2, 1, 973), (913, 17, 1, 945),
   (931, 9, 1, 963), (975, 1, 1, 983), (984, 12, 2, 985), (1012, 1, 1, 952), (1015, 1, 1, 1016),
   (1017, 1, 1, 1010), (1018, 1, 1, 1019), (1021, 3, 1, 891), (1024, 16, 1, 1104),
   (1040, 32, 1, 1072), (1120, 17, 2, 1121), (1162, 27, 2, 1163), (1216, 1, 1, 1231),
   (1217, 7, 2, 1218), (1232, 48, 2, 1233), (1329, 38, 1, 1377), (4256, 38, 1, 11520),
   (4295, 1, 1, 11559), (4301, 1, 1, 11565), (5024, 80, 1, 43888), (5104, 6, 1, 5112),
   (7305, 1, 1, 7306), (7312, 43, 1, 4304), (7357, 3, 1, 4349), (7680, 75, 2, 7681),
   (7838, 1, 1, 223), (7840, 48, 2, 7841), (7944, 8, 1, 7936), (7960, 6, 1, 7952),
   (7976, 8, 1, 7968), (7992, 8, 1, 7984), (8008, 6, 1, 8000), (8025, 4, 2, 8017),
   (8040, 8, 1, 8032), (8072, 8, 1, 8064), (8088, 8, 1, 8080), (8104, 8, 1, 8096),
   (8120, 2, 1, 8112), (8122, 2, 1, 8048), (8124, 1, 1, 8115), (8136, 4, 1, 8050),
   (8140, 1, 1, 8131), (8152, 2, 1, 8144), (8154, 2, 1, 8054), (8168, 2, 1, 8160),
   (8170, 2, 1, 8058), (8172, 1, 1, 8165), (8184, 2, 1, 8056), (8186, 2, 1, 8060),
   (8188, 1, 1, 8179), (8486, 1, 1, 969), (8490, 1, 1, 107), (8491, 1, 1, 229), (8498, 1, 1, 8526),
   (8544, 16, 1, 8560), (8579, 1, 1, 8580), (9398, 26, 1, 9424), (11264, 48, 1, 11312),
   (11360, 1, 1, 11361), (11362, 1, 1, 619), (11363, 1, 1, 7549), (11364, 1, 1, 637),
   (11367, 3, 2, 11368), (11373, 1, 1, 593), (11374, 1, 1, 625), (11375, 1, 1, 592),
   (11376, 1, 1, 594), (11378, 1, 1, 11379), (11381, 1, 1, 11382), (11390, 2, 1, 575),
   (11392, 50, 2, 11393), (11499, 2, 2, 11500), (11506, 1, 1, 11507), (42560, 23, 2, 42561),
   (42624, 14, 2, 42625), (42786, 7, 2, 42787), (42802, 31, 2, 42803), (42873, 2, 2, 42874),
   (42877, 1, 1, 7545), (42878, 5, 2, 42879), (42891, 1, 1, 42892), (42893, 1, 1, 613),
   (42896, 2, 2, 42897), (42902, 10, 2, 42903), (42922, 1, 1, 614), (42923, 1, 1, 604),
   (42924, 1, 1, 609), (42925, 1, 1, 620), (42926, 1, 1, 618), (42928, 1, 1, 670),
   (42929, 1, 1, 647), (42930, 1, 1, 669), (42931, 1, 1, 43859), (42932, 8, 2, 42933),
   (42948, 1, 1, 42900), (42949, 1, 1, 642), (42950, 1, 1, 7566), (42951, 2, 2, 42952),
   (42955, 1, 1, 612), (42956, 8, 2, 42957), (42972, 1, 1, 411), (42997, 1, 1, 42998),
   (65313, 26, 1, 65345), (66560, 40, 1, 66600), (66736, 36, 1, 66776), (66928, 19, 2, 66967),
   (66929, 5, 2, 66968), (66941, 7, 2, 66980), (66957, 3, 2, 66996), (66965, 1, 1, 67004),
   (68736, 51, 1, 68800), (68944, 22, 1, 68976), (71840, 32, 1, 71872), (93760, 32, 1, 93792),
   (93856, 25, 1, 93883), (125184, 34, 1, 125218)]

/-- Run lengths of the property `Cased`. -/
def casedRuns : List Nat :=
  [65, 26, 6, 26, 47, 1, 10, 1, 4, 1, 5, 23, 1, 31, 1, 195, 1, 4, 4, 208, 2, 35, 7, 2, 30, 5, 96, 1,
   42, 4, 2, 2, 2, 4, 1, 1, 6, 1, 1, 3, 1, 1, 1, 20, 1, 83, 1, 139, 8, 166, 1, 38, 9, 41, 2839, 38,
   1, 1, 5, 1, 2, 43, 1, 4, 672, 86, 2, 6, 2178, 11, 5, 43, 2, 3, 64, 192, 64, 278, 2, 6, 2, 38, 2,
   6, 2, 8, 1, 1, 1, 1, 1, 1, 1, 31, 2, 53, 1, 7, 1, 1, 3, 3, 1, 7, 3, 4, 2, 6, 4, 13, 5, 3, 1, 7,
   116, 1, 13, 1, 16, 13, 101, 1, 4, 1, 2, 10, 1, 1, 3, 5, 6, 1, 1, 1, 1, 1, 1, 4, 1, 6, 4, 1, 2, 4,
   5, 5, 4, 1, 17, 32, 3, 2, 817, 52, 1814, 229, 6, 4, 3, 2, 12, 38, 1, 1, 5, 1, 30994, 46, 18, 30,
   132, 102, 3, 4, 1, 77, 20, 6, 1, 3, 821, 43, 1, 14, 6, 80, 20288, 7, 12, 5, 1033, 26, 6, 26,
   1189, 80, 96, 36, 4, 36, 116, 11, 1, 15, 1, 7, 1, 2, 1, 11, 1, 15, 1, 7, 1, 2, 451, 1, 2, 3, 1,
   42, 1, 9, 1221, 51, 13, 51, 93, 22, 10, 22, 2842, 64, 21856, 64, 32, 25, 2, 25, 25900, 85, 1, 71,
   1, 2, 2, 1, 2, 2, 2, 4, 1, 12, 1, 1, 1, 7, 1, 65, 1, 4, 2, 8, 1, 7, 1, 28, 1, 4, 1, 5, 1, 1, 3,
   7, 1, 340, 2, 25, 1, 25, 1, 31, 1, 25, 1, 31, 1, 25, 1, 31, 1, 25, 1, 31, 1, 25, 1, 8, 1844, 10,
   1, 20, 6, 6, 261, 62, 2194, 68, 2028, 26, 6, 26, 6, 26]

/-- Run lengths of the property `Case_Ignorable`. -/
def caseIgnorableRuns : List Nat :=
  [39, 1, 6, 1, 11, 1, 35, 1, 1, 1, 71, 1, 4, 1, 1, 1, 4, 1, 2, 2, 503, 192, 4, 2, 4, 1, 9, 2, 1, 1,
   251, 7, 207, 1, 5, 1, 49, 45, 1, 1, 1, 2, 1, 2, 1, 1, 44, 1, 11, 6, 10, 11, 1, 1, 35, 1, 10, 21,
   16, 1, 101, 8, 1, 10, 1, 4, 33, 1, 1, 1, 30, 27, 91, 11, 58, 11, 4, 1, 2, 1, 24, 24, 43, 3, 44,
   1, 7, 2, 5, 9, 41, 58, 55, 1, 1, 1, 4, 8, 4, 1, 3, 7, 10, 2, 13, 1, 15, 1, 58, 1, 4, 4, 8, 1, 20,
   2, 26, 1, 2, 2, 57, 1, 4, 2, 4, 2, 2, 3, 3, 1, 30, 2, 3, 1, 11, 2, 57, 1, 4, 5, 1, 2, 4, 1, 20,
   2, 22, 6, 1, 1, 58, 1, 2, 1, 1, 4, 8, 1, 7, 2, 11, 2, 30, 1, 61, 1, 12, 1, 50, 1, 3, 1, 55, 1, 1,
   3, 5, 3, 1, 4, 7, 2, 11, 2, 29, 1, 58, 1, 2, 1, 6, 1, 5, 2, 20, 2, 28, 2, 57, 2, 4, 4, 8, 1, 20,
   2, 29, 1, 72, 1, 7, 3, 1, 1, 90, 1, 2, 7, 11, 9, 98, 1, 2, 9, 9, 1, 1, 7, 73, 2, 27, 1, 1, 1, 1,
   1, 55, 14, 1, 5, 1, 2, 5, 11, 1, 36, 9, 1, 102, 4, 1, 6, 1, 2, 2, 2, 25, 2, 4, 3, 16, 4, 13, 1,
   2, 2, 6, 1, 15, 1, 94, 1, 608, 3, 946, 3, 29, 2, 30, 2, 30, 2, 64, 2, 1, 7, 8, 1, 2, 11, 3, 1, 5,
   1, 45, 5, 51, 1, 65, 2, 34, 1, 118, 3, 4, 2, 9, 1, 6, 3, 219, 2, 2, 1, 58, 1, 1, 7, 1, 1, 1, 1,
   2, 8, 6, 10, 2, 1, 39, 1, 8, 46, 2, 12, 20, 4, 48, 1, 1, 5, 1, 1, 5, 1, 40, 9, 12, 2, 32, 4, 2,
   2, 1, 3, 56, 1, 1, 2, 3, 1, 1, 3, 58, 8, 2, 2, 64, 6, 82, 3, 1, 13, 1, 7, 4, 1, 6, 1, 3, 2, 50,
   63, 13, 1, 34, 101, 445, 1, 1, 3, 11, 3, 13, 3, 13, 3, 13, 2, 12, 5, 8, 2, 10, 1, 2, 1, 2, 5, 49,
   5, 1, 10, 1, 1, 13, 1, 16, 13, 51, 33, 2955, 2, 113, 3, 125, 1, 15, 1, 96, 32, 47, 1, 469, 1, 36,
   4, 3, 5, 5, 1, 93, 6, 93, 3, 28438, 1, 1250, 6, 270, 1, 98, 4, 1, 10, 1, 1, 28, 4, 80, 2, 14, 34,
   78, 1, 23, 3, 102, 4, 3, 2, 8, 1, 3, 1, 4, 1, 25, 2, 5, 1, 151, 2, 26, 18, 13, 1, 38, 8, 25, 11,
   46, 3, 48, 1, 2, 4, 2, 2, 17, 1, 21, 2, 66, 6, 2, 2, 2, 2, 12, 1, 8, 1, 35, 1, 11, 1, 51, 1, 1,
   3, 2, 2, 5, 2, 1, 1, 27, 1, 14, 2, 5, 2, 1, 1, 100, 5, 9, 3, 121, 1, 2, 1, 4, 1, 20272, 1, 147,
   17, 573, 16, 3, 1, 12, 16, 34, 1, 2, 1, 169, 1, 7, 1, 6, 1, 11, 1, 35, 1, 1, 1, 47, 1, 45, 2, 67,
   1, 21, 3, 513, 1, 226, 1, 149, 5, 1029, 6, 1, 42, 1, 9, 582, 3, 1, 2, 5, 4, 40, 3, 4, 1, 165, 2,
   573, 4, 38, 1, 26, 5, 1, 1, 315, 2, 24, 1, 52, 6, 70, 11, 49, 4, 123, 1, 54, 15, 41, 1, 2, 2, 10,
   3, 49, 4, 2, 2, 2, 1, 4, 1, 10, 1, 50, 3, 36, 5, 1, 8, 62, 1, 12, 2, 52, 9, 10, 4, 2, 1, 95, 3,
   2, 1, 1, 2, 6, 1, 2, 1, 157, 1, 3, 8, 21, 2, 57, 2, 3, 1, 37, 7, 3, 5, 70, 6, 13, 1, 1, 1, 1, 1,
   14, 2, 85, 8, 2, 3, 1, 1, 23, 1, 84, 6, 1, 1, 4, 2, 1, 2, 238, 4, 6, 2, 1, 2, 27, 2, 85, 8, 2, 1,
   1, 2, 106, 1, 1, 1, 2, 6, 1, 1, 101, 1, 1, 1, 2, 4, 1, 5, 259, 9, 1, 2, 256, 2, 1, 1, 4, 1, 144,
   4, 2, 2, 4, 1, 32, 10, 40, 6, 2, 4, 8, 1, 9, 6, 2, 3, 46, 13, 1, 2, 198, 1, 1, 3, 1, 1, 201, 7,
   1, 6, 1, 1, 82, 22, 2, 7, 1, 2, 1, 2, 122, 6, 3, 1, 1, 2, 1, 7, 1, 1, 72, 2, 3, 1, 1, 1, 65, 1,
   281, 2, 11, 2, 52, 5, 5, 1, 1, 1, 23, 1, 5333, 17, 6, 15, 11464, 12, 3, 3, 2496, 5, 59, 7, 9, 4,
   508, 3, 40, 2, 482, 1, 63, 17, 64, 2, 1, 2, 13, 2, 16380, 4, 1, 7, 1, 2, 3230, 2, 1, 4, 4700, 46,
   2, 23, 544, 3, 9, 16, 2, 7, 30, 4, 148, 3, 1979, 55, 4, 50, 8, 1, 14, 1, 22, 5, 1, 15, 1360, 7,
   1, 17, 2, 7, 1, 2, 1, 5, 5, 62, 33, 1, 160, 14, 368, 1, 61, 4, 507, 5, 254, 2, 243, 1, 2, 1, 7,
   2, 5, 1, 9, 1, 464, 7, 109, 8, 2735, 5, 789505, 1, 30, 96, 128, 240]

def isCased (c : Char) : Bool :=
  charInRuns casedRuns c

/-- Whether the character is skipped when the letters around a sigma are looked for. -/
def isCaseIgnorable (c : Char) : Bool :=
  charInRuns caseIgnorableRuns c

/-- The image of `n` under the first run that holds it, or `n` itself. -/
def lowerCode (n : Nat) : List (Nat × Nat × Nat × Nat) → Nat
  | [] => n
  | (first, count, step, image) :: rest =>
    if first ≤ n && n < first + count * step && (n - first) % step == 0 then image + (n - first)
    else lowerCode n rest

/-- The lower case of one character, without regard to its neighbours. Only the capital I with a
dot above has two characters: the dot stays. -/
def lowerChar (c : Char) : List Char :=
  if c.toNat < 128 then [c.toLower]
  else if c.toNat == 0x130 then ['i', Char.ofNat 0x307]
  else [Char.ofNat (lowerCode c.toNat lowerRuns)]

end PatternSync.Text
