import ApiRouter.Text.Ranges

set_option autoImplicit false

/-! # How characters join

In some scripts characters join those beside them: both, or only the one before or after. Marks let
the characters around them join. -/

namespace ApiRouter.Host

open Text

/-- The characters that join on both sides. -/
def dualJoiningRanges : Ranges := #[
  (1568, 1568), (1574, 1574), (1576, 1576), (1578, 1582), (1587, 1599), (1601, 1607), (1609, 1610),
  (1646, 1647), (1656, 1671), (1690, 1727), (1729, 1730), (1740, 1740), (1742, 1742), (1744, 1745),
  (1786, 1788), (1791, 1791), (1810, 1812), (1818, 1821), (1823, 1831), (1833, 1833), (1835, 1835),
  (1837, 1838), (1870, 1880), (1884, 1898), (1901, 1904), (1906, 1906), (1909, 1911), (1914, 1919),
  (1994, 2026), (2113, 2117), (2120, 2120), (2122, 2131), (2133, 2133), (2144, 2144), (2146, 2149),
  (2152, 2152), (2182, 2182), (2185, 2189), (2208, 2217), (2223, 2224), (2227, 2232), (2234, 2248),
  (6151, 6151), (6176, 6264), (6279, 6312), (6314, 6314), (43072, 43121), (68288, 68292),
  (68307, 68310), (68312, 68316), (68318, 68320), (68331, 68334), (68480, 68480), (68482, 68482),
  (68486, 68488), (68490, 68491), (68493, 68493), (68496, 68496), (68525, 68526), (68865, 68897),
  (68899, 68899), (69424, 69426), (69428, 69444), (69457, 69459), (69488, 69491), (69494, 69505),
  (69552, 69552), (69554, 69555), (69560, 69560), (69563, 69564), (69566, 69567), (69569, 69569),
  (69572, 69572), (69578, 69578), (125184, 125251)
]

/-- The characters that join the one after them. -/
def leftJoiningRanges : Ranges := #[
  (43122, 43122), (68301, 68301), (68311, 68311), (68864, 68864), (69579, 69579)
]

/-- The characters that join the one before them. -/
def rightJoiningRanges : Ranges := #[
  (1570, 1573), (1575, 1575), (1577, 1577), (1583, 1586), (1608, 1608), (1649, 1651), (1653, 1655),
  (1672, 1689), (1728, 1728), (1731, 1739), (1741, 1741), (1743, 1743), (1746, 1747), (1749, 1749),
  (1774, 1775), (1808, 1808), (1813, 1817), (1822, 1822), (1832, 1832), (1834, 1834), (1836, 1836),
  (1839, 1839), (1869, 1869), (1881, 1883), (1899, 1900), (1905, 1905), (1907, 1908), (1912, 1913),
  (2112, 2112), (2118, 2119), (2121, 2121), (2132, 2132), (2134, 2136), (2151, 2151), (2153, 2154),
  (2160, 2178), (2190, 2190), (2218, 2220), (2222, 2222), (2225, 2226), (2233, 2233),
  (68293, 68293), (68295, 68295), (68297, 68298), (68302, 68306), (68317, 68317), (68321, 68321),
  (68324, 68324), (68335, 68335), (68481, 68481), (68483, 68485), (68489, 68489), (68492, 68492),
  (68494, 68495), (68497, 68497), (68521, 68524), (68898, 68898), (69427, 69427), (69460, 69460),
  (69492, 69493), (69556, 69558), (69561, 69562), (69565, 69565), (69570, 69571), (69577, 69577)
]

/-- The characters that others join through. -/
def transparentRanges : Ranges := #[
  (173, 173), (768, 879), (1155, 1161), (1425, 1469), (1471, 1471), (1473, 1474), (1476, 1477),
  (1479, 1479), (1552, 1562), (1564, 1564), (1611, 1631), (1648, 1648), (1750, 1756), (1759, 1764),
  (1767, 1768), (1770, 1773), (1807, 1807), (1809, 1809), (1840, 1866), (1958, 1968), (2027, 2035),
  (2045, 2045), (2070, 2073), (2075, 2083), (2085, 2087), (2089, 2093), (2137, 2139), (2200, 2207),
  (2250, 2273), (2275, 2306), (2362, 2362), (2364, 2364), (2369, 2376), (2381, 2381), (2385, 2391),
  (2402, 2403), (2433, 2433), (2492, 2492), (2497, 2500), (2509, 2509), (2530, 2531), (2558, 2558),
  (2561, 2562), (2620, 2620), (2625, 2626), (2631, 2632), (2635, 2637), (2641, 2641), (2672, 2673),
  (2677, 2677), (2689, 2690), (2748, 2748), (2753, 2757), (2759, 2760), (2765, 2765), (2786, 2787),
  (2810, 2815), (2817, 2817), (2876, 2876), (2879, 2879), (2881, 2884), (2893, 2893), (2901, 2902),
  (2914, 2915), (2946, 2946), (3008, 3008), (3021, 3021), (3072, 3072), (3076, 3076), (3132, 3132),
  (3134, 3136), (3142, 3144), (3146, 3149), (3157, 3158), (3170, 3171), (3201, 3201), (3260, 3260),
  (3263, 3263), (3270, 3270), (3276, 3277), (3298, 3299), (3328, 3329), (3387, 3388), (3393, 3396),
  (3405, 3405), (3426, 3427), (3457, 3457), (3530, 3530), (3538, 3540), (3542, 3542), (3633, 3633),
  (3636, 3642), (3655, 3662), (3761, 3761), (3764, 3772), (3784, 3790), (3864, 3865), (3893, 3893),
  (3895, 3895), (3897, 3897), (3953, 3966), (3968, 3972), (3974, 3975), (3981, 3991), (3993, 4028),
  (4038, 4038), (4141, 4144), (4146, 4151), (4153, 4154), (4157, 4158), (4184, 4185), (4190, 4192),
  (4209, 4212), (4226, 4226), (4229, 4230), (4237, 4237), (4253, 4253), (4957, 4959), (5906, 5908),
  (5938, 5939), (5970, 5971), (6002, 6003), (6068, 6069), (6071, 6077), (6086, 6086), (6089, 6099),
  (6109, 6109), (6155, 6157), (6159, 6159), (6277, 6278), (6313, 6313), (6432, 6434), (6439, 6440),
  (6450, 6450), (6457, 6459), (6679, 6680), (6683, 6683), (6742, 6742), (6744, 6750), (6752, 6752),
  (6754, 6754), (6757, 6764), (6771, 6780), (6783, 6783), (6832, 6862), (6912, 6915), (6964, 6964),
  (6966, 6970), (6972, 6972), (6978, 6978), (7019, 7027), (7040, 7041), (7074, 7077), (7080, 7081),
  (7083, 7085), (7142, 7142), (7144, 7145), (7149, 7149), (7151, 7153), (7212, 7219), (7222, 7223),
  (7376, 7378), (7380, 7392), (7394, 7400), (7405, 7405), (7412, 7412), (7416, 7417), (7616, 7679),
  (8203, 8203), (8206, 8207), (8234, 8238), (8288, 8292), (8298, 8303), (8400, 8432),
  (11503, 11505), (11647, 11647), (11744, 11775), (12330, 12333), (12441, 12442), (42607, 42610),
  (42612, 42621), (42654, 42655), (42736, 42737), (43010, 43010), (43014, 43014), (43019, 43019),
  (43045, 43046), (43052, 43052), (43204, 43205), (43232, 43249), (43263, 43263), (43302, 43309),
  (43335, 43345), (43392, 43394), (43443, 43443), (43446, 43449), (43452, 43453), (43493, 43493),
  (43561, 43566), (43569, 43570), (43573, 43574), (43587, 43587), (43596, 43596), (43644, 43644),
  (43696, 43696), (43698, 43700), (43703, 43704), (43710, 43711), (43713, 43713), (43756, 43757),
  (43766, 43766), (44005, 44005), (44008, 44008), (44013, 44013), (64286, 64286), (65024, 65039),
  (65056, 65071), (65279, 65279), (65529, 65531), (66045, 66045), (66272, 66272), (66422, 66426),
  (68097, 68099), (68101, 68102), (68108, 68111), (68152, 68154), (68159, 68159), (68325, 68326),
  (68900, 68903), (69291, 69292), (69373, 69375), (69446, 69456), (69506, 69509), (69633, 69633),
  (69688, 69702), (69744, 69744), (69747, 69748), (69759, 69761), (69811, 69814), (69817, 69818),
  (69826, 69826), (69888, 69890), (69927, 69931), (69933, 69940), (70003, 70003), (70016, 70017),
  (70070, 70078), (70089, 70092), (70095, 70095), (70191, 70193), (70196, 70196), (70198, 70199),
  (70206, 70206), (70209, 70209), (70367, 70367), (70371, 70378), (70400, 70401), (70459, 70460),
  (70464, 70464), (70502, 70508), (70512, 70516), (70712, 70719), (70722, 70724), (70726, 70726),
  (70750, 70750), (70835, 70840), (70842, 70842), (70847, 70848), (70850, 70851), (71090, 71093),
  (71100, 71101), (71103, 71104), (71132, 71133), (71219, 71226), (71229, 71229), (71231, 71232),
  (71339, 71339), (71341, 71341), (71344, 71349), (71351, 71351), (71453, 71455), (71458, 71461),
  (71463, 71467), (71727, 71735), (71737, 71738), (71995, 71996), (71998, 71998), (72003, 72003),
  (72148, 72151), (72154, 72155), (72160, 72160), (72193, 72202), (72243, 72248), (72251, 72254),
  (72263, 72263), (72273, 72278), (72281, 72283), (72330, 72342), (72344, 72345), (72752, 72758),
  (72760, 72765), (72767, 72767), (72850, 72871), (72874, 72880), (72882, 72883), (72885, 72886),
  (73009, 73014), (73018, 73018), (73020, 73021), (73023, 73029), (73031, 73031), (73104, 73105),
  (73109, 73109), (73111, 73111), (73459, 73460), (73472, 73473), (73526, 73530), (73536, 73536),
  (73538, 73538), (78896, 78912), (78919, 78933), (92912, 92916), (92976, 92982), (94031, 94031),
  (94095, 94098), (94180, 94180), (113821, 113822), (113824, 113827), (118528, 118573),
  (118576, 118598), (119143, 119145), (119155, 119170), (119173, 119179), (119210, 119213),
  (119362, 119364), (121344, 121398), (121403, 121452), (121461, 121461), (121476, 121476),
  (121499, 121503), (121505, 121519), (122880, 122886), (122888, 122904), (122907, 122913),
  (122915, 122916), (122918, 122922), (123023, 123023), (123184, 123190), (123566, 123566),
  (123628, 123631), (124140, 124143), (125136, 125142), (125252, 125259), (917505, 917505),
  (917536, 917631), (917760, 917999)
]

end ApiRouter.Host
