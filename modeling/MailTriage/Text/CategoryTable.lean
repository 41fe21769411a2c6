/-!
The general categories of Unicode 14, as runs: an entry `16 * start + category` says that the
code points from `start` up to the start of the next entry have the category with that number.
-/

namespace MailTriage.Text

set_option maxRecDepth 20000

/-- Starts ascend, and the first one is zero. -/
def categoryRuns : Array Nat := #[
  14, 524, 541, 774, 941, 1040, 1469, 1515, 1529, 1547, 1552, 1981, 2046, 2572, 2589, 2699, 2717,
  2722, 2749, 2778, 2797, 2811, 2829, 2856, 2891, 2896, 2925, 2955, 2968, 2978, 3005, 3016, 3069,
  3072, 3453, 3456, 3965, 3968, 7090, 7104, 7170, 7232, 10562, 10576, 11009, 11307, 11361, 11563,
  11777, 11867, 11969, 11995, 12001, 12027, 12291, 14080, 14145, 14171, 14176, 14222, 14241,
  14256, 14317, 14320, 14350, 14411, 14432, 14461, 14464, 14526, 14528, 14558, 14560, 14894,
  14896, 16237, 16240, 18477, 18483, 18565, 18592, 21262, 21264, 21886, 21905, 21933, 22016,
  22685, 22718, 22749, 22798, 22803, 23533, 23539, 23565, 23571, 23613, 23619, 23661, 23667,
  23694, 23810, 24254, 24306, 24381, 24414, 24586, 24685, 24835, 25021, 25034, 25053, 25090,
  25601, 25618, 25779, 26118, 26285, 26338, 26371, 26386, 27981, 27986, 28003, 28122, 28141,
  28147, 28241, 28275, 28317, 28323, 28386, 28422, 28578, 28637, 28658, 28685, 28910, 28922,
  28930, 28947, 28962, 29443, 29886, 29906, 31331, 31506, 31534, 31750, 31906, 32435, 32577,
  32621, 32673, 32702, 32723, 32749, 32770, 33123, 33185, 33203, 33345, 33363, 33409, 33427,
  33518, 33549, 33790, 33794, 34195, 34254, 34285, 34302, 34306, 34494, 34562, 34955, 34962,
  35070, 35082, 35118, 35203, 35330, 35985, 36003, 36394, 36403, 36916, 36930, 37795, 37812,
  37827, 37842, 37860, 37907, 38036, 38099, 38116, 38146, 38163, 38274, 38435, 38477, 38502,
  38669, 38673, 38690, 38931, 38948, 38990, 38994, 39134, 39154, 39198, 39218, 39582, 39586,
  39710, 39714, 39742, 39778, 39854, 39875, 39890, 39908, 39955, 40030, 40052, 40094, 40116,
  40147, 40162, 40190, 40308, 40334, 40386, 40430, 40434, 40483, 40526, 40550, 40706, 40749,
  40776, 40877, 40898, 40925, 40931, 40958, 40979, 41012, 41038, 41042, 41150, 41202, 41246,
  41266, 41630, 41634, 41758, 41762, 41806, 41810, 41854, 41858, 41902, 41923, 41950, 41956,
  42003, 42046, 42099, 42142, 42163, 42222, 42259, 42286, 42386, 42462, 42466, 42494, 42598,
  42755, 42786, 42835, 42861, 42878, 43027, 43060, 43086, 43090, 43246, 43250, 43310, 43314,
  43678, 43682, 43806, 43810, 43854, 43858, 43950, 43971, 43986, 44004, 44051, 44142, 44147,
  44180, 44206, 44212, 44243, 44270, 44290, 44318, 44546, 44579, 44622, 44646, 44813, 44846,
  44946, 44963, 45070, 45075, 45092, 45134, 45138, 45278, 45298, 45342, 45362, 45726, 45730,
  45854, 45858, 45902, 45906, 45998, 46019, 46034, 46052, 46067, 46084, 46099, 46174, 46196,
  46238, 46260, 46291, 46318, 46419, 46452, 46478, 46530, 46574, 46578, 46627, 46670, 46694,
  46861, 46866, 46888, 46990, 47139, 47154, 47182, 47186, 47294, 47330, 47390, 47394, 47470,
  47506, 47550, 47554, 47582, 47586, 47630, 47666, 47710, 47746, 47806, 47842, 48046, 48100,
  48131, 48148, 48190, 48228, 48286, 48292, 48339, 48366, 48386, 48414, 48500, 48526, 48742,
  48904, 48957, 49086, 49155, 49172, 49219, 49234, 49374, 49378, 49438, 49442, 49822, 49826,
  50094, 50115, 50130, 50147, 50196, 50270, 50275, 50334, 50339, 50414, 50515, 50558, 50562,
  50622, 50642, 50670, 50690, 50723, 50766, 50790, 50958, 51069, 51080, 51197, 51202, 51219,
  51236, 51277, 51282, 51422, 51426, 51486, 51490, 51870, 51874, 52046, 52050, 52142, 52163,
  52178, 52196, 52211, 52228, 52318, 52323, 52340, 52382, 52388, 52419, 52462, 52564, 52606,
  52690, 52734, 52738, 52771, 52814, 52838, 53006, 53010, 53054, 53251, 53284, 53314, 53470,
  53474, 53534, 53538, 54195, 54226, 54244, 54291, 54366, 54372, 54430, 54436, 54483, 54498,
  54525, 54542, 54594, 54644, 54664, 54770, 54819, 54862, 54886, 55048, 55197, 55202, 55310,
  55315, 55332, 55374, 55378, 55678, 55714, 56110, 56114, 56270, 56274, 56302, 56322, 56446,
  56483, 56510, 56564, 56611, 56670, 56675, 56702, 56708, 56846, 56934, 57102, 57124, 57165,
  57182, 57362, 58131, 58146, 58179, 58302, 58365, 58370, 58465, 58483, 58621, 58630, 58797,
  58830, 59410, 59454, 59458, 59486, 59490, 59582, 59586, 59982, 59986, 60014, 60018, 60179,
  60194, 60227, 60370, 60398, 60418, 60510, 60513, 60542, 60547, 60654, 60678, 60846, 60866,
  60942, 61442, 61469, 61827, 61869, 61958, 62120, 62285, 62291, 62317, 62323, 62349, 62355,
  62381, 62436, 62466, 62606, 62610, 63198, 63251, 63476, 63491, 63581, 63587, 63618, 63699,
  63886, 63891, 64478, 64493, 64611, 64637, 64734, 64749, 64958, 65538, 66228, 66259, 66324,
  66339, 66436, 66451, 66484, 66515, 66546, 66566, 66733, 66818, 66916, 66947, 66978, 67043,
  67090, 67108, 67154, 67188, 67298, 67347, 67410, 67619, 67636, 67667, 67700, 67795, 67810,
  67828, 67846, 68004, 68051, 68077, 68096, 68718, 68720, 68750, 68816, 68846, 68864, 69565,
  69569, 69584, 69634, 74910, 74914, 74990, 75010, 75134, 75138, 75166, 75170, 75246, 75266,
  75934, 75938, 76014, 76034, 76574, 76578, 76654, 76674, 76798, 76802, 76830, 76834, 76910,
  76930, 77182, 77186, 78110, 78114, 78190, 78210, 79294, 79315, 79373, 79512, 79838, 79874,
  80141, 80302, 80384, 81774, 81792, 81902, 81933, 81938, 91869, 91890, 92172, 92178, 92605,
  92638, 92674, 93885, 93927, 93970, 94110, 94210, 94499, 94548, 94574, 94706, 95011, 95044,
  95069, 95102, 95234, 95523, 95566, 95746, 95966, 95970, 96030, 96035, 96078, 96258, 97091,
  97124, 97139, 97252, 97379, 97396, 97427, 97613, 97649, 97677, 97730, 97747, 97774, 97798,
  97966, 98056, 98222, 98317, 98483, 98538, 98547, 98566, 98734, 98818, 99377, 99394, 100254,
  100354, 100435, 100466, 101011, 101026, 101054, 101122, 102254, 102402, 102910, 102915, 102964,
  103027, 103060, 103118, 103172, 103203, 103220, 103315, 103374, 103437, 103454, 103501, 103526,
  103682, 104174, 104194, 104286, 104450, 105166, 105218, 105646, 105734, 105896, 105918, 105965,
  106498, 106867, 106900, 106931, 106958, 106989, 107010, 107860, 107875, 107892, 107907, 108030,
  108035, 108052, 108067, 108084, 108115, 108244, 108339, 108510, 108531, 108550, 108718, 108806,
  108974, 109069, 109169, 109197, 109294, 109315, 109541, 109555, 109822, 110595, 110660, 110674,
  111427, 111444, 111459, 111540, 111555, 111572, 111651, 111668, 111698, 111838, 111878, 112045,
  112307, 112461, 112638, 112643, 112676, 112690, 113172, 113187, 113252, 113283, 113316, 113331,
  113378, 113414, 113570, 114275, 114292, 114307, 114340, 114387, 114404, 114419, 114468, 114510,
  114637, 114690, 115268, 115395, 115524, 115555, 115598, 115645, 115718, 115886, 115922, 115974,
  116130, 116609, 116717, 116736, 116894, 116992, 117694, 117712, 117773, 117902, 118019, 118077,
  118083, 118292, 118307, 118418, 118483, 118498, 118595, 118610, 118644, 118659, 118690, 118718,
  118784, 119489, 120496, 120705, 120720, 121265, 121859, 122880, 127342, 127360, 127470, 127488,
  128110, 128128, 128238, 128256, 128398, 128400, 128430, 128432, 128462, 128464, 128494, 128496,
  129006, 129024, 129886, 129888, 130011, 130016, 130043, 130080, 130142, 130144, 130267, 130304,
  130382, 130400, 130510, 130523, 130560, 130779, 130830, 130848, 130910, 130912, 131035, 131070,
  131084, 131258, 131341, 131726, 131754, 131836, 131853, 132089, 132125, 132425, 132445, 132604,
  132618, 132702, 132714, 132872, 132881, 132910, 132936, 133037, 133105, 133128, 133293, 133374,
  133377, 133598, 133645, 134174, 134403, 134613, 134675, 134693, 134739, 134942, 135181, 135200,
  135229, 135280, 135309, 135328, 135501, 135504, 135533, 135568, 135661, 135744, 135773, 135776,
  135805, 135808, 135837, 135840, 135917, 135920, 136018, 136080, 136109, 136128, 136205, 136272,
  136365, 136416, 136445, 136456, 136711, 137264, 137303, 137368, 137389, 137422, 137485, 148094,
  148493, 148670, 149000, 149965, 151208, 151565, 161640, 162125, 177998, 178029, 178542, 178557,
  180224, 182209, 182240, 183901, 183984, 184051, 184096, 184142, 184221, 184280, 184301, 184320,
  184942, 184944, 184974, 185040, 185070, 185090, 185998, 186097, 186125, 186142, 186355, 186370,
  186750, 186882, 187006, 187010, 187134, 187138, 187262, 187266, 187390, 187394, 187518, 187522,
  187646, 187650, 187774, 187778, 187902, 187907, 188429, 189169, 189197, 189934, 190477, 190894,
  190909, 192334, 192525, 195950, 196365, 196558, 196620, 196637, 196689, 196706, 196727, 196749,
  197143, 197283, 197348, 197389, 197393, 197485, 197511, 197553, 197570, 197597, 197646, 197650,
  199038, 199059, 199099, 199121, 199154, 199181, 199186, 200637, 200641, 200690, 200718, 200786,
  201486, 201490, 203006, 203021, 203048, 203117, 203266, 203789, 204366, 204546, 204813, 205310,
  205320, 205485, 205960, 206093, 206104, 206349, 206856, 207021, 207640, 207885, 212994, 318477,
  319490, 655697, 655714, 674014, 674061, 674942, 675074, 675713, 675821, 675842, 680129, 680157,
  680194, 680454, 680610, 680654, 680960, 681698, 681715, 681733, 681789, 681795, 681965, 681969,
  681984, 682433, 682467, 682498, 683623, 683779, 683821, 683918, 684043, 684401, 684555, 684576,
  685825, 685840, 686209, 686235, 686256, 686322, 686336, 687294, 687360, 687406, 687408, 687438,
  687440, 687534, 687905, 687952, 687986, 688001, 688032, 688050, 688163, 688178, 688227, 688242,
  688307, 688322, 688692, 688723, 688756, 688781, 688835, 688862, 688904, 689005, 689070, 689154,
  689997, 690062, 690180, 690210, 691012, 691267, 691310, 691437, 691462, 691630, 691715, 692002,
  692109, 692146, 692173, 692178, 692211, 692230, 692386, 692835, 692973, 692994, 693363, 693540,
  693582, 693757, 693762, 694238, 694275, 694324, 694338, 695091, 695108, 695139, 695204, 695235,
  695268, 695325, 695534, 695537, 695558, 695726, 695789, 695810, 695891, 695905, 695922, 696070,
  696226, 696318, 696322, 696979, 697076, 697107, 697140, 697171, 697214, 697346, 697395, 697410,
  697539, 697556, 697582, 697606, 697774, 697805, 697858, 698113, 698130, 698237, 698274, 698292,
  698307, 698324, 698338, 699139, 699154, 699171, 699218, 699251, 699282, 699363, 699394, 699411,
  699426, 699454, 699826, 699857, 699885, 699906, 700084, 700099, 700132, 700173, 700194, 700209,
  700244, 700259, 700286, 700434, 700542, 700562, 700670, 700690, 700798, 700930, 701054, 701058,
  701182, 701184, 701883, 701889, 701952, 702097, 702123, 702158, 702208, 703490, 704052, 704083,
  704100, 704131, 704148, 704189, 704196, 704211, 704238, 704262, 704430, 704514, 883278, 883458,
  883838, 883890, 884686, 1019906, 1025774, 1025794, 1027502, 1028096, 1028222, 1028400, 1028494,
  1028562, 1028579, 1028594, 1028765, 1028770, 1028990, 1028994, 1029086, 1029090, 1029118,
  1029122, 1029166, 1029170, 1029214, 1029218, 1030955, 1031230, 1031474, 1037293, 1037570,
  1038606, 1038626, 1039502, 1039613, 1039630, 1040130, 1040333, 1040387, 1040653, 1040814,
  1040899, 1041165, 1041209, 1041245, 1041625, 1041677, 1041726, 1041741, 1042046, 1042061,
  1042126, 1042178, 1042270, 1042274, 1044446, 1044474, 1044494, 1044509, 1044742, 1044909,
  1045008, 1045437, 1045483, 1045497, 1045515, 1045520, 1045949, 1046114, 1046273, 1046290,
  1047009, 1047042, 1047550, 1047586, 1047694, 1047714, 1047822, 1047842, 1047950, 1047970,
  1048030, 1048077, 1048123, 1048141, 1048190, 1048205, 1048318, 1048474, 1048525, 1048558,
  1048578, 1048782, 1048786, 1049214, 1049218, 1049534, 1049538, 1049582, 1049586, 1049838,
  1049858, 1050094, 1050626, 1052606, 1052685, 1052734, 1052792, 1053518, 1053565, 1053703,
  1054552, 1054621, 1054888, 1054925, 1054974, 1054989, 1055198, 1055245, 1055262, 1056013,
  1056723, 1056750, 1058818, 1059294, 1059330, 1060126, 1060355, 1060376, 1060814, 1060866,
  1061384, 1061454, 1061586, 1061911, 1061922, 1062055, 1062078, 1062146, 1062755, 1062846,
  1062914, 1063406, 1063421, 1063426, 1064014, 1064066, 1064205, 1064215, 1064302, 1064960,
  1066242, 1067502, 1067526, 1067694, 1067776, 1068366, 1068416, 1069006, 1069058, 1069710,
  1069826, 1070670, 1070845, 1070848, 1071038, 1071040, 1071294, 1071296, 1071422, 1071424,
  1071470, 1071472, 1071662, 1071664, 1071918, 1071920, 1072046, 1072048, 1072094, 1073154,
  1078142, 1078274, 1078638, 1078786, 1078926, 1079297, 1079406, 1079409, 1080094, 1080097,
  1080254, 1081346, 1081454, 1081474, 1081502, 1081506, 1082222, 1082226, 1082270, 1082306,
  1082334, 1082354, 1082734, 1082749, 1082760, 1082882, 1083261, 1083288, 1083394, 1083902,
  1084024, 1084174, 1084930, 1085246, 1085250, 1085294, 1085368, 1085442, 1085800, 1085902,
  1085949, 1085954, 1086382, 1086461, 1086478, 1087490, 1088398, 1088456, 1088482, 1088520,
  1088782, 1088808, 1089538, 1089555, 1089614, 1089619, 1089662, 1089731, 1089794, 1089870,
  1089874, 1089934, 1089938, 1090414, 1090435, 1090494, 1090547, 1090568, 1090718, 1090829,
  1090974, 1091074, 1091544, 1091581, 1091586, 1092056, 1092110, 1092610, 1092749, 1092754,
  1093203, 1093246, 1093304, 1093389, 1093502, 1093634, 1094510, 1094557, 1094658, 1095022,
  1095048, 1095170, 1095486, 1095560, 1095682, 1095982, 1096093, 1096158, 1096344, 1096462,
  1097730, 1098910, 1099776, 1100606, 1100800, 1101630, 1101736, 1101826, 1102403, 1102478,
  1102598, 1102766, 1107464, 1107966, 1107970, 1108654, 1108659, 1108701, 1108718, 1108738,
  1108782, 1110018, 1110488, 1110642, 1110670, 1110786, 1111139, 1111320, 1111389, 1111470,
  1111810, 1112099, 1112173, 1112238, 1112834, 1113176, 1113294, 1113602, 1113982, 1114116,
  1114131, 1114148, 1114162, 1115011, 1115261, 1115374, 1115432, 1115750, 1115907, 1115922,
  1115955, 1115986, 1116014, 1116147, 1116196, 1116210, 1116932, 1116979, 1117044, 1117075,
  1117117, 1117146, 1117165, 1117219, 1117246, 1117402, 1117422, 1117442, 1117854, 1117958,
  1118126, 1118211, 1118258, 1118835, 1118916, 1118931, 1119070, 1119078, 1119245, 1119298,
  1119316, 1119346, 1119374, 1119490, 1120051, 1120077, 1120098, 1120126, 1120259, 1120292,
  1120306, 1121076, 1121123, 1121268, 1121298, 1121373, 1121427, 1121501, 1121508, 1121523,
  1121542, 1121698, 1121725, 1121730, 1121757, 1121806, 1121816, 1122142, 1122306, 1122606,
  1122610, 1123012, 1123059, 1123108, 1123139, 1123156, 1123171, 1123213, 1123299, 1123326,
  1124354, 1124478, 1124482, 1124510, 1124514, 1124590, 1124594, 1124846, 1124850, 1125021,
  1125038, 1125122, 1125875, 1125892, 1125939, 1126078, 1126150, 1126318, 1126403, 1126436,
  1126478, 1126482, 1126622, 1126642, 1126686, 1126706, 1127070, 1127074, 1127198, 1127202,
  1127246, 1127250, 1127342, 1127347, 1127378, 1127396, 1127427, 1127444, 1127518, 1127540,
  1127582, 1127604, 1127662, 1127682, 1127710, 1127796, 1127822, 1127890, 1127972, 1128014,
  1128035, 1128158, 1128195, 1128286, 1130498, 1131348, 1131395, 1131524, 1131555, 1131604,
  1131619, 1131634, 1131709, 1131782, 1131949, 1131982, 1131997, 1132003, 1132018, 1132078,
  1132546, 1133316, 1133363, 1133460, 1133475, 1133492, 1133555, 1133588, 1133603, 1133634,
  1133677, 1133682, 1133710, 1133830, 1133998, 1136642, 1137396, 1137443, 1137518, 1137540,
  1137603, 1137636, 1137651, 1137693, 1138050, 1138115, 1138158, 1138690, 1139460, 1139507,
  1139636, 1139667, 1139684, 1139699, 1139741, 1139778, 1139806, 1139974, 1140142, 1140237,
  1140446, 1140738, 1141427, 1141444, 1141459, 1141476, 1141507, 1141604, 1141619, 1141634,
  1141661, 1141678, 1141766, 1141934, 1142786, 1143230, 1143251, 1143300, 1143331, 1143396,
  1143411, 1143502, 1143558, 1143720, 1143757, 1143810, 1143934, 1146882, 1147588, 1147635,
  1147780, 1147795, 1147837, 1147854, 1149440, 1150470, 1150632, 1150782, 1150962, 1151102,
  1151122, 1151150, 1151170, 1151310, 1151314, 1151358, 1151362, 1151748, 1151854, 1151860,
  1151902, 1151923, 1151956, 1151971, 1151986, 1152004, 1152018, 1152036, 1152051, 1152077,
  1152126, 1152262, 1152430, 1153538, 1153678, 1153698, 1154324, 1154371, 1154446, 1154467,
  1154500, 1154563, 1154578, 1154605, 1154610, 1154628, 1154654, 1155074, 1155091, 1155250,
  1155891, 1155988, 1156002, 1156019, 1156093, 1156211, 1156238, 1156354, 1156371, 1156468,
  1156499, 1156546, 1157283, 1157492, 1157507, 1157549, 1157586, 1157613, 1157694, 1157890,
  1159070, 1163266, 1163422, 1163426, 1164020, 1164035, 1164158, 1164163, 1164260, 1164275,
  1164290, 1164317, 1164398, 1164550, 1164712, 1165022, 1165069, 1165090, 1165582, 1165603,
  1165966, 1165972, 1165987, 1166100, 1166115, 1166148, 1166163, 1166206, 1167362, 1167486,
  1167490, 1167534, 1167538, 1168147, 1168254, 1168291, 1168318, 1168323, 1168366, 1168371,
  1168482, 1168499, 1168526, 1168646, 1168814, 1168898, 1169006, 1169010, 1169054, 1169058,
  1169572, 1169662, 1169667, 1169710, 1169716, 1169747, 1169764, 1169779, 1169794, 1169822,
  1169926, 1170094, 1175042, 1175347, 1175380, 1175421, 1175454, 1178370, 1178398, 1178632,
  1178973, 1179438, 1179645, 1179650, 1194414, 1196039, 1197822, 1197837, 1197918, 1198082,
  1201230, 1243394, 1244957, 1244990, 1245186, 1262334, 1262346, 1262494, 1327106, 1336446,
  1474562, 1483678, 1483778, 1484286, 1484294, 1484462, 1484525, 1484546, 1485822, 1485830,
  1485998, 1486082, 1486574, 1486595, 1486685, 1486702, 1486850, 1487619, 1487741, 1487873,
  1487949, 1487982, 1488134, 1488302, 1488312, 1488430, 1488434, 1488782, 1488850, 1489166,
  1500160, 1501192, 1501565, 1501630, 1503234, 1504446, 1504499, 1504514, 1504532, 1505422,
  1505523, 1505585, 1505806, 1506817, 1506861, 1506865, 1506883, 1506910, 1507076, 1507118,
  1507330, 1605518, 1605634, 1625454, 1626114, 1626270, 1769217, 1769294, 1769297, 1769422,
  1769425, 1769470, 1769474, 1774142, 1774850, 1774910, 1775170, 1775246, 1775362, 1781710,
  1818626, 1820350, 1820418, 1820638, 1820674, 1820830, 1820930, 1821102, 1821133, 1821139,
  1821181, 1821194, 1821262, 1896451, 1897198, 1897219, 1897598, 1897741, 1899598, 1900557,
  1904494, 1904653, 1905278, 1905309, 1906260, 1906291, 1906349, 1906388, 1906490, 1906611,
  1906749, 1906771, 1906893, 1907363, 1907437, 1908414, 1908749, 1909795, 1909853, 1909870,
  1912328, 1912654, 1912845, 1914238, 1914376, 1914782, 1916928, 1918302, 1918304, 1919454,
  1919456, 1919502, 1919520, 1919550, 1919568, 1919614, 1919632, 1919710, 1919712, 1919918,
  1919920, 1919950, 1919952, 1920078, 1920080, 1921134, 1921136, 1921214, 1921232, 1921374,
  1921376, 1921502, 1921504, 1921966, 1921968, 1922046, 1922048, 1922142, 1922144, 1922174,
  1922208, 1922334, 1922336, 1927790, 1927808, 1928221, 1928224, 1928637, 1928640, 1929149,
  1929152, 1929565, 1929568, 1930077, 1930080, 1930493, 1930496, 1931005, 1931008, 1931421,
  1931424, 1931933, 1931936, 1932349, 1932352, 1932494, 1932518, 1933325, 1941507, 1942397,
  1942451, 1943261, 1943379, 1943405, 1943619, 1943645, 1943758, 1943987, 1944078, 1944083,
  1944334, 1961984, 1962146, 1962160, 1962494, 1966083, 1966206, 1966211, 1966494, 1966515,
  1966638, 1966643, 1966686, 1966691, 1966782, 1970178, 1970910, 1970947, 1971057, 1971182,
  1971206, 1971374, 1971426, 1971453, 1971470, 1976578, 1977059, 1977086, 1977346, 1978051,
  1978118, 1978286, 1978365, 1978382, 1998338, 1998462, 1998466, 1998542, 1998546, 1998590,
  1998594, 1998846, 1998850, 2002014, 2002040, 2002179, 2002302, 2002944, 2004035, 2004145,
  2004174, 2004230, 2004398, 2004461, 2004494, 2017048, 2017997, 2018008, 2018061, 2018072,
  2018142, 2019352, 2020077, 2020088, 2020334, 2023426, 2023502, 2023506, 2023950, 2023954,
  2023998, 2024002, 2024030, 2024050, 2024078, 2024082, 2024254, 2024258, 2024334, 2024338,
  2024366, 2024370, 2024398, 2024482, 2024510, 2024562, 2024590, 2024594, 2024622, 2024626,
  2024654, 2024658, 2024718, 2024722, 2024766, 2024770, 2024798, 2024818, 2024846, 2024850,
  2024878, 2024882, 2024910, 2024914, 2024942, 2024946, 2024974, 2024978, 2025022, 2025026,
  2025054, 2025074, 2025150, 2025154, 2025278, 2025282, 2025358, 2025362, 2025438, 2025442,
  2025470, 2025474, 2025646, 2025650, 2025934, 2026002, 2026062, 2026066, 2026158, 2026162,
  2026446, 2027277, 2027310, 2031629, 2032334, 2032397, 2033998, 2034189, 2034430, 2034461,
  2034702, 2034717, 2034958, 2034973, 2035566, 2035720, 2035933, 2038510, 2039405, 2039870,
  2040077, 2040782, 2040845, 2040990, 2041101, 2041134, 2041357, 2041454, 2043917, 2047931,
  2048013, 2059662, 2059741, 2059998, 2060045, 2060254, 2060301, 2062158, 2062349, 2063774,
  2063885, 2064078, 2064141, 2064158, 2064397, 2064590, 2064653, 2065550, 2065677, 2065838,
  2065933, 2066574, 2066701, 2067182, 2067213, 2067246, 2068493, 2073934, 2074125, 2074350,
  2074381, 2074462, 2074509, 2074590, 2074637, 2074750, 2074893, 2075358, 2075405, 2075582,
  2075661, 2075758, 2075917, 2076078, 2076173, 2076302, 2076429, 2076542, 2076685, 2079038,
  2079053, 2079934, 2080518, 2080686, 2097154, 2780686, 2781186, 2847646, 2847746, 2851310,
  2851330, 2943534, 2943746, 3063326, 3112962, 3121646, 3145730, 3224766, 14680090, 14680110,
  14680586, 14682126, 14684163, 14688014]

end MailTriage.Text
