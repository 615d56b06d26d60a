import Switchboard.Text.Alphabetic

/-! Characters of a word: letters, the marks that combine with them, decimal digits, connecting
punctuation and the two joiners, as version 16 of Unicode knows them. Braces are none of these, so a
braced name ends at its brace. -/
namespace Switchboard.Text

/-- Word characters that are neither ASCII nor alphabetic. -/
def wordMarks : CharSet := ⟨[
  768, 837, 838, 867, 1155, 1162, 1425, 1456, 1624, 1625, 1632, 1642, 1759, 1761, 1770, 1773,
  1776, 1786, 1856, 1867, 1984, 1994, 2027, 2036, 2045, 2046, 2072, 2074, 2093, 2094, 2137, 2140,
  2200, 2208, 2250, 2260, 2272, 2274, 2282, 2288, 2364, 2365, 2381, 2382, 2385, 2389, 2406, 2416,
  2492, 2493, 2509, 2510, 2534, 2544, 2558, 2559, 2620, 2621, 2637, 2638, 2662, 2672, 2748, 2749,
  2765, 2766, 2790, 2800, 2813, 2816, 2876, 2877, 2893, 2894, 2901, 2902, 2918, 2928, 3021, 3022,
  3046, 3056, 3132, 3133, 3149, 3150, 3174, 3184, 3260, 3261, 3277, 3278, 3302, 3312, 3387, 3389,
  3405, 3406, 3430, 3440, 3530, 3531, 3558, 3568, 3655, 3661, 3662, 3663, 3664, 3674, 3770, 3771,
  3784, 3789, 3790, 3791, 3792, 3802, 3864, 3866, 3872, 3882, 3893, 3894, 3895, 3896, 3897, 3898,
  3902, 3904, 3972, 3973, 3974, 3976, 4038, 4039, 4151, 4152, 4153, 4155, 4160, 4170, 4240, 4250,
  4957, 4960, 5908, 5910, 5940, 5941, 6068, 6070, 6089, 6100, 6109, 6110, 6112, 6122, 6155, 6158,
  6159, 6170, 6457, 6460, 6470, 6480, 6608, 6618, 6752, 6753, 6773, 6781, 6783, 6794, 6800, 6810,
  6832, 6847, 6849, 6860, 6964, 6965, 6980, 6981, 6992, 7002, 7019, 7028, 7082, 7084, 7088, 7098,
  7142, 7143, 7154, 7156, 7223, 7224, 7232, 7242, 7248, 7258, 7376, 7379, 7380, 7401, 7405, 7406,
  7412, 7413, 7415, 7418, 7616, 7635, 7669, 7680, 8204, 8206, 8255, 8257, 8276, 8277, 8400, 8433,
  11503, 11506, 11647, 11648, 12330, 12336, 12441, 12443, 42528, 42538, 42607, 42611, 42620,
  42622, 42736, 42738, 43014, 43015, 43052, 43053, 43204, 43205, 43216, 43226, 43232, 43250,
  43264, 43274, 43307, 43310, 43347, 43348, 43443, 43444, 43456, 43457, 43472, 43482, 43504,
  43514, 43600, 43610, 43711, 43712, 43713, 43714, 43766, 43767, 44012, 44014, 44016, 44026,
  65024, 65040, 65056, 65072, 65075, 65077, 65101, 65104, 65296, 65306, 65343, 65344, 66045,
  66046, 66272, 66273, 66720, 66730, 68152, 68155, 68159, 68160, 68325, 68327, 68912, 68922,
  68928, 68938, 68970, 68974, 69373, 69376, 69446, 69457, 69506, 69510, 69702, 69703, 69734,
  69745, 69759, 69760, 69817, 69819, 69872, 69882, 69939, 69941, 69942, 69952, 70003, 70004,
  70080, 70081, 70089, 70093, 70096, 70106, 70197, 70199, 70377, 70379, 70384, 70394, 70459,
  70461, 70477, 70478, 70502, 70509, 70512, 70517, 70606, 70609, 70610, 70611, 70625, 70627,
  70722, 70723, 70726, 70727, 70736, 70746, 70750, 70751, 70850, 70852, 70864, 70874, 71103,
  71105, 71231, 71232, 71248, 71258, 71350, 71352, 71360, 71370, 71376, 71396, 71467, 71468,
  71472, 71482, 71737, 71739, 71904, 71914, 71997, 71999, 72003, 72004, 72016, 72026, 72160,
  72161, 72243, 72245, 72263, 72264, 72344, 72346, 72688, 72698, 72767, 72768, 72784, 72794,
  73026, 73027, 73028, 73030, 73040, 73050, 73111, 73112, 73120, 73130, 73537, 73539, 73552,
  73563, 78912, 78913, 78919, 78934, 90415, 90426, 92768, 92778, 92864, 92874, 92912, 92917,
  92976, 92983, 93008, 93018, 93552, 93562, 94180, 94181, 113821, 113822, 118000, 118010, 118528,
  118574, 118576, 118599, 119141, 119146, 119149, 119155, 119163, 119171, 119173, 119180, 119210,
  119214, 119362, 119365, 120782, 120832, 121344, 121399, 121403, 121453, 121461, 121462, 121476,
  121477, 121499, 121504, 121505, 121520, 123184, 123191, 123200, 123210, 123566, 123567, 123628,
  123642, 124140, 124154, 124398, 124400, 124401, 124411, 125136, 125143, 125252, 125255, 125256,
  125259, 125264, 125274, 130032, 130042, 917760, 918000]⟩

/-- Alphabetic characters that version 17 of Unicode has added. -/
def recentLetters : CharSet := ⟨[
  2191, 2192, 3164, 3165, 3292, 3293, 42958, 42960, 42962, 42963, 42964, 42965, 42993, 42994,
  67904, 67930, 69317, 69320, 69370, 69372, 72544, 72552, 73136, 73180, 93856, 93881, 93883,
  93908, 94194, 94199, 100344, 100352, 101641, 101663, 101760, 101875, 124608, 124639, 124640,
  124662, 124670, 124672, 177978, 177984, 183970, 183982, 205744, 210042]⟩

/-- A letter of version 16. -/
def isWordLetter (c : Char) : Bool := alphabetic.contains c && !recentLetters.contains c

def isWordChar (c : Char) : Bool :=
  if c.toNat < 128 then c.isAlphanum || c == '_' else isWordLetter c || wordMarks.contains c

theorem isWordChar_open : isWordChar '\x7b' = false := by decide

theorem isWordChar_close : isWordChar '\x7d' = false := by decide

end Switchboard.Text
