import ApiRouter.Text.Ranges

set_option autoImplicit false

/-! # Directions in a label

A label with a character that is written from right to left must be readable: it has one main
direction, starts with a letter, and ends with a letter or a digit, apart from marks. -/

namespace ApiRouter.Host

/-! ## Directions of characters

The direction in which each character of a host name is written. Characters that no host name holds
have no part in this. -/

open Text

/-- The characters that are written from right to left, apart from Arabic letters. -/
def rightToLeftRanges : Ranges := #[
  (1488, 1524), (1984, 2026), (2036, 2037), (2048, 2069), (2074, 2074), (2084, 2084), (2088, 2088),
  (2112, 2136), (67584, 68096), (68112, 68149), (68192, 68324), (68352, 68850), (69248, 69289),
  (69296, 69297), (69376, 69415), (69488, 69505), (69552, 69622), (124928, 125124),
  (125218, 125251), (125259, 125273)
]

/-- Arabic letters. -/
def arabicLetterRanges : Ranges := #[
  (1568, 1610), (1646, 1647), (1649, 1749), (1765, 1766), (1774, 1775), (1786, 1808), (1810, 1839),
  (1869, 1957), (1969, 1969), (2144, 2190), (2208, 2249), (65139, 65139), (68864, 68899),
  (69424, 69445)
]

/-- Arabic digits. -/
def arabicNumberRanges : Ranges := #[
  (1632, 1641), (68912, 68921)
]

/-- European digits. -/
def europeanNumberRanges : Ranges := #[
  (48, 57), (1776, 1785)
]

/-- The marks, which have the direction of what they stand on. -/
def markRanges : Ranges := #[
  (768, 879), (1155, 1159), (1425, 1479), (1552, 1562), (1611, 1631), (1648, 1648), (1750, 1764),
  (1767, 1773), (1809, 1809), (1840, 1866), (1958, 1968), (2027, 2035), (2045, 2045), (2070, 2073),
  (2075, 2083), (2085, 2087), (2089, 2093), (2137, 2139), (2200, 2207), (2250, 2306), (2362, 2362),
  (2364, 2364), (2369, 2376), (2381, 2381), (2385, 2391), (2402, 2403), (2433, 2433), (2492, 2492),
  (2497, 2500), (2509, 2509), (2530, 2531), (2558, 2562), (2620, 2620), (2625, 2641), (2672, 2673),
  (2677, 2690), (2748, 2748), (2753, 2760), (2765, 2765), (2786, 2787), (2810, 2817), (2876, 2876),
  (2879, 2879), (2881, 2884), (2893, 2902), (2914, 2915), (2946, 2946), (3008, 3008), (3021, 3021),
  (3072, 3072), (3076, 3076), (3132, 3132), (3134, 3136), (3142, 3158), (3170, 3171), (3201, 3201),
  (3260, 3260), (3276, 3277), (3298, 3299), (3328, 3329), (3387, 3388), (3393, 3396), (3405, 3405),
  (3426, 3427), (3457, 3457), (3530, 3530), (3538, 3542), (3633, 3633), (3636, 3642), (3655, 3662),
  (3761, 3761), (3764, 3772), (3784, 3789), (3864, 3865), (3893, 3897), (3953, 3966), (3968, 3975),
  (3981, 4038), (4141, 4144), (4146, 4151), (4153, 4154), (4157, 4158), (4184, 4185), (4190, 4192),
  (4209, 4212), (4226, 4226), (4229, 4230), (4237, 4237), (4253, 4253), (4957, 4959), (5906, 5908),
  (5938, 5939), (5970, 5971), (6002, 6003), (6071, 6077), (6086, 6086), (6089, 6099), (6109, 6109),
  (6277, 6278), (6313, 6313), (6432, 6434), (6439, 6440), (6450, 6450), (6457, 6459), (6679, 6680),
  (6683, 6683), (6742, 6742), (6744, 6752), (6754, 6754), (6757, 6764), (6771, 6783), (6832, 6915),
  (6964, 6964), (6966, 6970), (6972, 6972), (6978, 6978), (7019, 7041), (7074, 7077), (7080, 7081),
  (7083, 7085), (7142, 7142), (7144, 7145), (7149, 7149), (7151, 7153), (7212, 7219), (7222, 7223),
  (7376, 7392), (7394, 7400), (7405, 7405), (7412, 7412), (7416, 7417), (7616, 7679),
  (11503, 11505), (11647, 11647), (11744, 11775), (12330, 12333), (12441, 12442), (42607, 42621),
  (42654, 42655), (42736, 42737), (43010, 43010), (43014, 43014), (43019, 43019), (43045, 43046),
  (43052, 43052), (43204, 43205), (43232, 43249), (43263, 43263), (43302, 43309), (43335, 43345),
  (43392, 43394), (43443, 43443), (43446, 43449), (43452, 43453), (43493, 43493), (43561, 43566),
  (43569, 43570), (43573, 43574), (43587, 43587), (43596, 43596), (43644, 43644), (43696, 43696),
  (43698, 43700), (43703, 43704), (43710, 43711), (43713, 43713), (43756, 43757), (43766, 43766),
  (44005, 44005), (44008, 44008), (44013, 44013), (64286, 65071), (66045, 66045), (66272, 66272),
  (66422, 66426), (68097, 68111), (68152, 68159), (68325, 68326), (68900, 68903), (69291, 69292),
  (69446, 69456), (69506, 69509), (69633, 69633), (69688, 69702), (69744, 69744), (69747, 69748),
  (69759, 69761), (69811, 69814), (69817, 69826), (69888, 69890), (69927, 69931), (69933, 69940),
  (70003, 70003), (70016, 70017), (70070, 70078), (70089, 70092), (70095, 70095), (70191, 70193),
  (70196, 70196), (70198, 70206), (70367, 70367), (70371, 70378), (70400, 70401), (70459, 70460),
  (70464, 70464), (70502, 70516), (70712, 70719), (70722, 70724), (70726, 70726), (70750, 70750),
  (70835, 70840), (70842, 70842), (70847, 70848), (70850, 70851), (71090, 71093), (71100, 71101),
  (71103, 71104), (71132, 71133), (71219, 71226), (71229, 71229), (71231, 71232), (71339, 71339),
  (71341, 71341), (71344, 71349), (71351, 71351), (71453, 71455), (71458, 71461), (71463, 71467),
  (71727, 71735), (71737, 71738), (71995, 71996), (71998, 71998), (72003, 72003), (72148, 72155),
  (72160, 72160), (72193, 72198), (72201, 72202), (72243, 72248), (72251, 72263), (72273, 72278),
  (72281, 72283), (72330, 72342), (72344, 72345), (72752, 72765), (72850, 72871), (72874, 72880),
  (72882, 72883), (72885, 72886), (73009, 73029), (73031, 73031), (73104, 73105), (73109, 73109),
  (73111, 73111), (73459, 73460), (92912, 92916), (92976, 92982), (94031, 94031), (94095, 94098),
  (94180, 94180), (113821, 121519), (122880, 122922), (123184, 123190), (123566, 123566),
  (123628, 123631), (125136, 125142), (125252, 125258)
]

/-- The signs without a direction of their own. -/
def neutralRanges : Ranges := #[
  (45, 45), (183, 183), (697, 698), (710, 719), (748, 748), (885, 885), (8204, 8205),
  (11823, 11823), (12539, 12539), (42623, 42623), (42775, 42783), (42888, 42888)
]

/-- The characters whose direction is not known. -/
def unknownRanges : Ranges := #[
  (3315, 3315), (3790, 3790), (69373, 69375), (70207, 70209), (73472, 73561), (78895, 78933),
  (110898, 110898), (110933, 110933), (122661, 122666), (123023, 123023), (124112, 124153),
  (177977, 177977), (191472, 192093), (201552, 205743)
]

/-! ## Labels -/

/-- The direction that a character is written in. -/
inductive Direction where
  | leftToRight
  | rightToLeft
  | arabicNumber
  | europeanNumber
  /-- That of the character before. -/
  | mark
  | neutral
  deriving DecidableEq, Repr

/-- The direction of a code point that a label may hold, if it is known. -/
def Direction.of? (n : Nat) : Option Direction :=
  if unknownRanges.holdsCode n then none
  else if rightToLeftRanges.holdsCode n || arabicLetterRanges.holdsCode n then some .rightToLeft
  else if arabicNumberRanges.holdsCode n then some .arabicNumber
  else if europeanNumberRanges.holdsCode n then some .europeanNumber
  else if markRanges.holdsCode n then some .mark
  else if neutralRanges.holdsCode n then some .neutral
  else some .leftToRight

namespace Direction

/-- Whether the last direction apart from marks is one that a label may end with. -/
def endsWell (endings directions : List Direction) : Bool :=
  match directions.reverse.find? (· != .mark) with
  | some d => endings.contains d
  | none => false

/-- Whether directions fit together in a label. -/
def fit (directions : List Direction) : Bool :=
  let turns := [Direction.rightToLeft, .arabicNumber]
  if !directions.any turns.contains then true
  else
    match directions with
    | .rightToLeft :: _ =>
      !directions.contains .leftToRight
        && !(directions.contains .arabicNumber && directions.contains .europeanNumber)
        && endsWell [.rightToLeft, .arabicNumber, .europeanNumber] directions
    | _ => false

end Direction

/-- Whether the directions of the code points of a label fit together. -/
def isReadable (codes : List Nat) : Bool :=
  match codes.mapM Direction.of? with
  | some directions => Direction.fit directions
  | none => false

end ApiRouter.Host
