import Mathlib.Algebra.BigOperators.Fin
import Mathlib.Algebra.Order.Field.Rat
import Mathlib.Data.Rat.Cast.Order

/-!
# The window of the two spectrograms

Both servers window their samples before a transform of 2048 points, and both headers hold
the same table for it, `hann2048`, written out with 2048 decimal fractions.  The table is
transcribed here once, in rows of 32, as exact rational numbers; nothing is recomputed
from a formula, since the entries of the source are what the programs multiply with.

Two facts about the table are used above, and both are found by looking at all entries:

* no entry is negative (`hann2048_nonneg`);
* the entries add up to no more than 1024 (`sum_hann2048_le`), one half of the 2048 by
  which a bin is divided afterwards.

Together they bound a bin of windowed samples from above by half of the largest sample,
which decides which colours and grey levels can occur at all.  The sum is taken row by
row, so that the evaluation stays small.
-/

namespace SpectrogramServers

/-- The initialiser of `hann2048`, in rows of 32. -/
def hann2048Rows : List (List ℚ) := [
  [0, 2.355394838837732e-06, 9.421557163713512e-06, 2.11984204002702e-05,
    3.768587359187503e-05, 5.888376140067431e-05, 8.479188410903671e-05, 0.0001154099976216072,
    0.0001507378134673054, 0.0001907749988023788, 0.0002355211764132337, 0.000284975924720321,
    0.0003391387777817445, 0.0003980092252978684, 0.0004615867126160911, 0.0005298706407361742,
    0.0006028603663155163, 0.0006805552016757588, 0.0007629544148087253, 0.0008500572293838049,
    0.000941862824754891, 0.001038370335968208, 0.00113957885377064, 0.001245487424618108,
    0.001356095050684569, 0.00147140068987156, 0.001591403255817747, 0.001716101617909582,
    0.001845494601291409, 0.001979580986877061, 0.002118359511360968, 0.002261828867230253],
  [0.002409987702777006, 0.002562834622110988, 0.00272036818517285, 0.00288258690774762,
    0.003049489261478688, 0.003221073673882302, 0.003397338528362326, 0.003578282164225455,
    0.003763902876696812, 0.003954198916936214, 0.004149168492054323, 0.004348809765129802,
    0.004553120855226689, 0.004762099837411715, 0.004975744742772847, 0.005194053558437661,
    0.005417024227592271, 0.00564465464950098, 0.005876942679525543, 0.006113886129145873,
    0.00635548276598058, 0.006601730313807619, 0.006852626452586275, 0.007108168818478644,
    0.007368355003872062, 0.007633182557401696, 0.007902648983973803, 0.00817675174478899,
    0.008455488257366361, 0.008738855895567721, 0.009026851989622442, 0.009319473826152447],
  [0.009616718648197908, 0.009918583655243063, 0.01022506600324286, 0.01053616280464953,
    0.01085187112843983, 0.0111721880001428, 0.01149711040186757, 0.01182663527233196,
    0.01216075950689127, 0.01249947995756745, 0.01284279343307898, 0.01319069669887063,
    0.0135431864771442, 0.01390025944688933, 0.0142619122439146, 0.01462814146087954,
    0.01499894364732651, 0.01537431530971328, 0.015754252911446, 0.01613875287291233,
    0.01652781157151539, 0.01692142534170776, 0.01731959047502613, 0.01772230322012608,
    0.01812955978281749, 0.01854135632610038, 0.01895768897020084, 0.019378553792608,
    0.01980394682811037, 0.02023386406883382, 0.02066830146427884, 0.02110725492135918],
  [0.02155072030443989, 0.02199869343537675, 0.02245117009355529, 0.02290814601593077,
    0.02336961689706835, 0.02383557838918349, 0.02430602610218291, 0.0247809556037063,
    0.02526036241916751, 0.02574424203179737, 0.02623258988268551, 0.02672540137082408,
    0.02722267185315042, 0.02772439664459125, 0.02823057101810672, 0.02874119020473465,
    0.02925624939363591, 0.02977574373213954, 0.03029966832578834, 0.03082801823838527,
    0.03136078849203955, 0.03189797406721406, 0.03243956990277225, 0.03298557089602594,
    0.03353597190278351, 0.03409076773739816, 0.03464995317281694, 0.03521352294062985,
    0.03578147173111962, 0.03635379419331164, 0.03693048493502449, 0.0375115385229205],
  [0.03809694948255715, 0.03868671229843873, 0.03928082141406802, 0.03987927123199886,
    0.04048205611388872, 0.04108917038055215, 0.04170060831201378, 0.04231636414756262,
    0.04293643208580633, 0.04356080628472547, 0.04418948086172908, 0.0448224498937097,
    0.04545970741709937, 0.04610124742792576, 0.04674706388186878, 0.04739715069431744,
    0.04805150174042722, 0.04871011085517785, 0.04937297183343126, 0.0500400784299902,
    0.05071142435965692, 0.0513870032972924, 0.05206680887787607, 0.05275083469656583,
    0.05343907430875799, 0.05413152123014858, 0.05482816893679388, 0.05552901086517226,
    0.05623404041224583, 0.05694325093552288, 0.05765663575312013, 0.05837418814382589],
  [0.05909590134716336, 0.05982176856345434, 0.06055178295388325, 0.06128593764056156,
    0.06202422570659272, 0.06276664019613704, 0.06351317411447754, 0.06426382042808559,
    0.06501857206468742, 0.06577742191333064, 0.06654036282445114, 0.06730738760994059,
    0.06807848904321412, 0.06885365985927833, 0.06963289275479995, 0.07041618038817432,
    0.07120351537959491, 0.07199489031112266, 0.07279029772675571, 0.07358973013250014,
    0.07439317999643996, 0.07520063974880858, 0.07601210178205992, 0.07682755845093991,
    0.07764700207255898, 0.07847042492646389, 0.07929781925471102, 0.08012917726193891,
    0.08096449111544218, 0.08180375294524511, 0.08264695484417572, 0.08349408886794046],
  [0.0843451470351988, 0.08520012132763871, 0.08605900369005215, 0.08692178603041067,
    0.08778846021994213, 0.08865901809320664, 0.08953345144817437, 0.09041175204630192,
    0.09129391161261052, 0.09217992183576385, 0.09306977436814629, 0.09396346082594148,
    0.09486097278921174, 0.0957623018019767, 0.09666743937229366, 0.09757637697233712,
    0.09848910603847938, 0.0994056179713711, 0.1003259041360223, 0.101249955861884,
    0.1021777644429294, 0.1031093211377364, 0.1040446171695698, 0.1049836437264635,
    0.1059263919613045, 0.1068728529919154, 0.1078230179011386, 0.10877687773692,
    0.1097344235123933, 0.1106956462059652, 0.1116605367613996, 0.1126290860879037],
  [0.1136012850602133, 0.1145771245186783, 0.11555659526935, 0.116539688084067,
    0.1175263937005423, 0.1185167028224507, 0.1195106061195161, 0.1205080942275998,
    0.1215091577487884, 0.1225137872514825, 0.1235219732704855, 0.1245337063070929,
    0.1255489768291815, 0.1265677752712996, 0.1275900920347567, 0.1286159174877145,
    0.1296452419652769, 0.1306780557695817, 0.1317143491698918, 0.1327541124026865,
    0.1337973356717541, 0.1348440091482838, 0.1358941229709584, 0.136947667246047,
    0.1380046320474989, 0.1390650074170361, 0.140128783364248, 0.1411959498666852,
    0.1422664968699537, 0.1433404142878099, 0.1444176920022557, 0.1454983198636337],
  [0.1465822876907226, 0.1476695852708336, 0.1487602023599062, 0.1498541286826051,
    0.1509513539324164, 0.1520518677717456, 0.1531556598320141, 0.1542627197137573,
    0.1553730369867228, 0.1564866011899683, 0.1576034018319604, 0.1587234283906729,
    0.1598466703136871, 0.1609731170182898, 0.162102757891574, 0.1632355822905388,
    0.164371579542189, 0.1655107389436364, 0.1666530497622004, 0.1677985012355088,
    0.1689470825715998, 0.1700987829490231, 0.1712535915169423, 0.1724114973952367,
    0.1735724896746043, 0.1747365574166642, 0.1759036896540597, 0.177073875390562,
    0.178247103601173, 0.1794233632322303, 0.1806026432015104, 0.1817849323983333],
  [0.1829702196836678, 0.1841584938902354, 0.1853497438226165, 0.1865439582573554,
    0.1877411259430659, 0.1889412356005378, 0.1901442759228426, 0.1913502355754404,
    0.1925591031962868, 0.1937708673959394, 0.1949855167576658, 0.1962030398375505,
    0.1974234251646033, 0.1986466612408669, 0.1998727365415256, 0.2011016395150137,
    0.2023333585831242, 0.2035678821411183, 0.2048051985578342, 0.2060452961757972,
    0.2072881633113291, 0.2085337882546585, 0.2097821592700313, 0.2110332645958209,
    0.2122870924446391, 0.2135436310034473, 0.2148028684336679, 0.2160647928712954,
    0.2173293924270087, 0.2185966551862825, 0.2198665692095004, 0.2211391225320665],
  [0.2224143031645187, 0.2236920990926416, 0.2249724982775793, 0.2262554886559495,
    0.2275410581399562, 0.2288291946175048, 0.2301198859523151, 0.2314131199840365,
    0.2327088845283615, 0.2340071673771419, 0.2353079562985028, 0.2366112390369582,
    0.2379170033135263, 0.2392252368258453, 0.2405359272482894, 0.2418490622320847,
    0.2431646294054259, 0.2444826163735924, 0.2458030107190654, 0.2471258000016446,
    0.2484509717585662, 0.2497785135046189, 0.2511084127322633, 0.2524406569117478,
    0.2537752334912283, 0.2551121298968858, 0.2564513335330445, 0.2577928317822914,
    0.2591366120055938, 0.2604826615424202, 0.2618309677108576, 0.2631815178077329],
  [0.2645342991087308, 0.2658892988685152, 0.2672465043208482, 0.2686059026787109,
    0.2699674811344239, 0.2713312268597677, 0.2726971270061037, 0.2740651687044952,
    0.275435339065829, 0.2768076251809359, 0.2781820141207141, 0.2795584929362484,
    0.2809370486589347, 0.2823176683006009, 0.2837003388536293, 0.28508504729108,
    0.286471780566812, 0.2878605256156081, 0.2892512693532964, 0.2906439986768746,
    0.2920387004646328, 0.2934353615762774, 0.2948339688530548, 0.2962345091178756,
    0.2976369691754387, 0.2990413358123554, 0.3004475957972738, 0.3018557358810037,
    0.303265742796642, 0.3046776032596963, 0.3060913039682116, 0.307506831602894],
  [0.3089241728272379, 0.3103433142876504, 0.3117642426135775, 0.3131869444176305,
    0.314611406295711, 0.3160376148271388, 0.3174655565747768, 0.3188952180851587,
    0.320326585888615, 0.3217596464994004, 0.3231943864158205, 0.3246307921203595,
    0.3260688500798071, 0.327508546745386, 0.3289498685528798, 0.3303928019227607,
    0.3318373332603175, 0.3332834489557835, 0.3347311353844653, 0.3361803789068698,
    0.3376311658688344, 0.3390834826016546, 0.340537315422213, 0.3419926506331086,
    0.3434494745227846, 0.3449077733656598, 0.3463675334222553, 0.3478287409393265,
    0.3492913821499904, 0.350755443273857, 0.3522209105171579, 0.3536877700728776],
  [0.3551560081208822, 0.3566256108280504, 0.3580965643484037, 0.3595688548232366,
    0.361042468381248, 0.3625173911386703, 0.3639936091994023, 0.3654711086551377,
    0.3669498755854986, 0.3684298960581649, 0.3699111561290063, 0.3713936418422136,
    0.3728773392304296, 0.374362234314882, 0.3758483131055138, 0.3773355616011158,
    0.3788239657894583, 0.380313511647423, 0.3818041851411354, 0.3832959722260971,
    0.3847888588473173, 0.3862828309394468, 0.3877778744269086, 0.3892739752240317,
    0.390771119235184, 0.3922692923549043, 0.3937684804680359, 0.3952686694498585,
    0.396769845166223, 0.398271993473683, 0.3997751002196293, 0.4012791512424222],
  [0.4027841323715257, 0.4042900294276406, 0.4057968282228384, 0.4073045145606946,
    0.4088130742364227, 0.4103224930370081, 0.4118327567413416, 0.4133438511203541,
    0.4148557619371498, 0.4163684749471412, 0.4178819758981824, 0.4193962505307042,
    0.420911284577848, 0.4224270637656001, 0.423943573812927, 0.4254608004319085,
    0.4269787293278738, 0.4284973461995354, 0.4300166367391239, 0.4315365866325229,
    0.433057181559404, 0.434578407193361, 0.4361002492020465, 0.4376226932473048,
    0.4391457249853087, 0.4406693300666937, 0.4421934941366936, 0.4437182028352758,
    0.4452434417972762, 0.4467691966525351, 0.4482954530260316, 0.4498221965380207],
  [0.4513494128041667, 0.4528770874356809, 0.4544052060394554, 0.4559337542181991,
    0.4574627175705744, 0.4589920816913317, 0.4605218321714455, 0.4620519545982503,
    0.4635824345555763, 0.4651132576238849, 0.4666444093804054, 0.4681758753992699,
    0.4697076412516496, 0.4712396925058912, 0.472772014727652, 0.4743045934800368,
    0.4758374143237332, 0.4773704628171481, 0.4789037245165432, 0.4804371849761719,
    0.4819708297484147, 0.4835046443839158, 0.4850386144317189, 0.4865727254394033,
    0.4881069629532205, 0.48964131251823, 0.4911757596784356, 0.4927102899769218,
    0.4942448889559893, 0.4957795421572922, 0.4973142351219736, 0.4988489533908019],
  [0.5003836825043074, 0.5019184080029176, 0.5034531154270945, 0.5049877903174704,
    0.5065224182149839, 0.5080569846610169, 0.5095914751975293, 0.5111258753671971,
    0.5126601707135472, 0.5141943467810942, 0.5157283891154768, 0.5172622832635931,
    0.5187960147737378, 0.5203295691957376, 0.5218629320810881, 0.5233960889830891,
    0.5249290254569812, 0.5264617270600814, 0.5279941793519205, 0.5295263678943772,
    0.531058278251816, 0.5325898959912213, 0.5341212066823354, 0.5356521958977931,
    0.537182849213258, 0.5387131522075583, 0.540243090462823, 0.5417726495646175,
    0.5433018151020791, 0.5448305726680537, 0.5463589078592301, 0.5478868062762774],
  [0.5494142535239793, 0.5509412352113703, 0.5524677369518715, 0.5539937443634252,
    0.5555192430686318, 0.557044218694884, 0.558568656874503, 0.5600925432448736,
    0.5616158634485794, 0.563138603133538, 0.5646607479531369, 0.5661822835663679,
    0.5677031956379622, 0.5692234698385263, 0.570743091844676, 0.5722620473391721,
    0.5737803220110548, 0.5752979015557789, 0.576814771675348, 0.5783309180784503,
    0.5798463264805918, 0.5813609826042323, 0.5828748721789188, 0.5843879809414203,
    0.5859002946358629, 0.5874117990138628, 0.5889224798346618, 0.5904323228652606,
    0.5919413138805533, 0.593449438663461, 0.5949566830050669, 0.5964630327047483],
  [0.5979684735703125, 0.5994729914181285, 0.6009765720732622, 0.602479201369609,
    0.6039808651500278, 0.6054815492664744, 0.6069812395801338, 0.6084799219615551,
    0.6099775822907831, 0.6114742064574924, 0.6129697803611195, 0.6144642899109961,
    0.6159577210264819, 0.6174500596370972, 0.6189412916826555, 0.6204314031133955,
    0.6219203798901143, 0.6234082079842987, 0.6248948733782587, 0.6263803620652579,
    0.6278646600496474, 0.629347753346995, 0.6308296279842203, 0.6323102699997235,
    0.6337896654435182, 0.6352678003773633, 0.6367446608748927, 0.6382202330217484,
    0.6396945029157101, 0.6411674566668271, 0.6426390803975488, 0.6441093602428554],
  [0.6455782823503884, 0.647045832880582, 0.6485119980067923, 0.6499767639154281,
    0.6514401168060813, 0.6529020428916563, 0.6543625283985008, 0.6558215595665343,
    0.6572791226493794, 0.6587352039144893, 0.6601897896432791, 0.6616428661312539,
    0.6630944196881381, 0.664544436638005, 0.6659929033194045, 0.6674398060854931,
    0.6688851313041613, 0.6703288653581631, 0.6717709946452434, 0.6732115055782667,
    0.6746503845853449, 0.6760876181099654, 0.6775231926111185, 0.6789570945634249,
    0.6803893104572637, 0.6818198267988991, 0.683248630110608, 0.6846757069308065,
    0.6861010438141775, 0.6875246273317956, 0.6889464440712566, 0.6903664806368007],
  [0.691784723649441, 0.6932011597470885, 0.6946157755846776, 0.6960285578342934,
    0.6974394931852956, 0.698848568344445, 0.7002557700360279, 0.7016610850019822,
    0.7030645000020211, 0.7044660018137592, 0.7058655772328356, 0.7072632130730399,
    0.7086588961664344, 0.7100526133634808, 0.7114443515331615, 0.712834097563105,
    0.7142218383597088, 0.7156075608482629, 0.7169912519730728, 0.7183728986975828,
    0.7197524880044988, 0.7211300068959106, 0.7225054423934145, 0.7238787815382358,
    0.7252500113913514, 0.7266191190336094, 0.727986091565854, 0.7293509161090452,
    0.7307135798043801, 0.7320740698134145, 0.7334323733181837, 0.7347884775213237],
  [0.7361423696461912, 0.7374940369369837, 0.738843466658861, 0.7401906460980637,
    0.7415355625620337, 0.7428782033795338, 0.7442185559007671, 0.7455566074974962,
    0.7468923455631613, 0.7482257575130005, 0.7495568307841673, 0.7508855528358493,
    0.7522119111493863, 0.753535893228388, 0.7548574865988522, 0.7561766788092821,
    0.7574934574308034, 0.7588078100572824, 0.7601197243054411, 0.7614291878149753,
    0.7627361882486707, 0.764040713292519, 0.7653427506558343, 0.7666422880713678,
    0.7679393132954246, 0.7692338141079791, 0.7705257783127886, 0.7718151937375101,
    0.7731020482338138, 0.7743863296774982, 0.7756680259686034, 0.7769471250315262],
  [0.7782236148151335, 0.7794974832928753, 0.7807687184628984, 0.7820373083481602,
    0.7833032409965404, 0.7845665044809537, 0.7858270868994632, 0.7870849763753915,
    0.7883401610574335, 0.7895926291197666, 0.790842368762164, 0.792089368210104,
    0.7933336157148826, 0.7945750995537231, 0.7958138080298871, 0.7970497294727845,
    0.7982828522380832, 0.7995131647078191, 0.8007406552905058, 0.8019653124212436,
    0.8031871245618276, 0.804406080200858, 0.8056221678538478, 0.8068353760633302,
    0.8080456933989681, 0.8092531084576606, 0.8104576098636511, 0.8116591862686335,
    0.8128578263518609, 0.8140535188202505, 0.8152462524084907, 0.8164360158791472],
  [0.8176227980227693, 0.8188065876579949, 0.8199873736316557, 0.8211651448188833,
    0.8223398901232126, 0.8235115984766881, 0.8246802588399661, 0.8258458602024203,
    0.827008391582245, 0.8281678420265588, 0.8293242006115069, 0.8304774564423653,
    0.8316275986536428, 0.8327746164091832, 0.8339184989022675, 0.8350592353557164,
    0.8361968150219907, 0.8373312271832933, 0.8384624611516698, 0.8395905062691099,
    0.840715351907647, 0.8418369874694585, 0.8429554023869658, 0.8440705861229344,
    0.8451825281705719, 0.8462912180536282, 0.8473966453264936, 0.8484987995742976,
    0.8495976704130059, 0.8506932474895201, 0.8517855204817736, 0.8528744790988301],
  [0.8539601130809791, 0.855042412199834, 0.8561213662584282, 0.8571969650913098,
    0.8582691985646396, 0.8593380565762845, 0.860403529055914, 0.8614656059650945,
    0.8625242772973842, 0.8635795330784273, 0.8646313633660474, 0.8656797582503422,
    0.866724707853776, 0.8677662023312733, 0.8688042318703111, 0.8698387866910118,
    0.870869857046235, 0.8718974332216698, 0.8729215055359252, 0.8739420643406228,
    0.8749591000204873, 0.8759726029934358, 0.8769825637106698, 0.8779889726567642,
    0.8789918203497575, 0.8799910973412404, 0.8809867942164451, 0.881978901594335,
    0.8829674101276915, 0.883952310503203, 0.8849335934415523, 0.8859112496975046],
  [0.8868852700599938, 0.8878556453522098, 0.8888223664316847, 0.8897854241903793,
    0.8907448095547683, 0.8917005134859263, 0.8926525269796129, 0.8936008410663578,
    0.8945454468115441, 0.895486335315494, 0.8964234977135519, 0.8973569251761679,
    0.8982866089089809, 0.899212540152902, 0.9001347101841964, 0.901053110314566,
    0.901967731891231, 0.9028785662970118, 0.9037856049504098, 0.9046888393056881,
    0.9055882608529526, 0.9064838611182322, 0.9073756316635575, 0.9082635640870418,
    0.9091476500229592, 0.9100278811418238, 0.9109042491504683, 0.911776745792122,
    0.9126453628464886, 0.9135100921298237, 0.9143709254950114, 0.9152278548316422],
  [0.9160808720660882, 0.9169299691615799, 0.9177751381182814, 0.9186163709733663,
    0.9194536598010931, 0.9202869967128779, 0.9211163738573713, 0.9219417834205306,
    0.9227632176256941, 0.9235806687336543, 0.9243941290427306, 0.9252035908888424,
    0.9260090466455804, 0.9268104887242792, 0.927607909574089, 0.9284013016820458,
    0.9291906575731428, 0.9299759698104011, 0.9307572309949388, 0.9315344337660421,
    0.9323075708012329, 0.9330766348163397, 0.9338416185655647, 0.9346025148415525,
    0.935359316475459, 0.9361120163370171, 0.9368606073346055, 0.9376050824153148,
    0.9383454345650138, 0.9390816568084162, 0.9398137422091454, 0.9405416838698009],
  [0.9412654749320225, 0.9419851085765554, 0.9427005780233138, 0.9434118765314459,
    0.944118997399396, 0.9448219339649692, 0.9455206796053923, 0.9462152277373783,
    0.9469055718171866, 0.9475917053406858, 0.9482736218434142, 0.9489513149006417,
    0.9496247781274292, 0.9502940051786894, 0.9509589897492465, 0.951619725573896,
    0.9522762064274625, 0.9529284261248596, 0.9535763785211477, 0.954220057511592,
    0.9548594570317197, 0.9554945710573775, 0.956125393604788, 0.9567519187306068,
    0.9573741405319778, 0.9579920531465884, 0.9586056507527264, 0.9592149275693331,
    0.9598198778560586, 0.9604204959133158, 0.9610167760823338, 0.961608712745212],
  [0.9621963003249718, 0.9627795332856105, 0.9633584061321524, 0.963932913410701,
    0.9645030497084903, 0.965068809653936, 0.965630187916686, 0.9661871792076704,
    0.9667397782791514, 0.967287979924773, 0.9678317789796101, 0.9683711703202167,
    0.9689061488646742, 0.9694367095726402, 0.9699628474453945, 0.9704845575258878,
    0.9710018348987868, 0.9715146746905219, 0.9720230720693323, 0.9725270222453115,
    0.9730265204704532, 0.9735215620386952, 0.974012142285964, 0.9744982565902189,
    0.9749799003714954, 0.9754570690919484, 0.9759297582558949, 0.9763979634098565,
    0.9768616801426013, 0.9773209040851849, 0.9777756309109928, 0.9782258563357802],
  [0.9786715761177123, 0.9791127860574049, 0.9795494819979635, 0.9799816598250228,
    0.980409315466785, 0.9808324448940586, 0.9812510441202958, 0.9816651092016313,
    0.9820746362369176, 0.9824796213677635, 0.9828800607785693, 0.9832759506965636,
    0.9836672873918377, 0.9840540671773823, 0.9844362864091207, 0.984813941485944,
    0.9851870288497453, 0.9855555449854519, 0.9859194864210603, 0.9862788497276669,
    0.9866336315195021, 0.9869838284539609, 0.9873294372316354, 0.9876704545963447,
    0.9880068773351669, 0.9883387022784684, 0.988665926299934, 0.9889885463165968,
    0.9893065592888668, 0.9896199622205594, 0.989928752158924, 0.9902329261946716],
  [0.9905324814620025, 0.9908274151386331, 0.9911177244458221, 0.9914034066483977,
    0.991684459054782, 0.9919608790170175, 0.9922326639307917, 0.9924998112354614,
    0.9927623184140771, 0.9930201829934067, 0.9932734025439584, 0.9935219746800041,
    0.9937658970596019, 0.9940051673846177, 0.994239783400747, 0.9944697428975364,
    0.9946950437084044, 0.9949156837106615, 0.9951316608255303, 0.9953429730181653,
    0.995549618297672, 0.9957515947171255, 0.9959489003735889, 0.9961415334081312,
    0.996329492005845, 0.9965127743958635, 0.9966913788513773, 0.99686530368965,
    0.9970345472720352, 0.997199108003991, 0.9973589843350954, 0.9975141747590608],
  [0.9976646778137483, 0.9978104920811814, 0.9979516161875597, 0.9980880488032708,
    0.9982197886429044, 0.9983468344652628, 0.998469185073374, 0.9985868393145017,
    0.9986997960801574, 0.9988080543061099, 0.9989116129723956, 0.9990104711033285,
    0.9991046277675089, 0.9991940820778322, 0.9992788331914975, 0.9993588803100153,
    0.9994342226792157, 0.9995048595892544, 0.99957079037462, 0.9996320144141406,
    0.9996885311309891, 0.9997403399926885, 0.9997874405111178, 0.9998298322425154,
    0.9998675147874845, 0.9999004877909958, 0.9999287509423918, 0.9999523039753886,
    0.9999711466680798, 0.9999852788429373, 0.9999947003668138, 0.9999994111509436],
  [0.9999994111509436, 0.9999947003668138, 0.9999852788429373, 0.9999711466680798,
    0.9999523039753886, 0.9999287509423918, 0.9999004877909958, 0.9998675147874845,
    0.9998298322425154, 0.9997874405111178, 0.9997403399926885, 0.9996885311309891,
    0.9996320144141407, 0.99957079037462, 0.9995048595892544, 0.9994342226792157,
    0.9993588803100153, 0.9992788331914975, 0.9991940820778322, 0.9991046277675089,
    0.9990104711033286, 0.9989116129723956, 0.99880805430611, 0.9986997960801574,
    0.9985868393145017, 0.998469185073374, 0.9983468344652628, 0.9982197886429045,
    0.9980880488032708, 0.9979516161875597, 0.9978104920811814, 0.9976646778137483],
  [0.9975141747590608, 0.9973589843350954, 0.997199108003991, 0.9970345472720352,
    0.99686530368965, 0.9966913788513773, 0.9965127743958635, 0.996329492005845,
    0.9961415334081312, 0.9959489003735889, 0.9957515947171256, 0.9955496182976721,
    0.9953429730181653, 0.9951316608255303, 0.9949156837106615, 0.9946950437084046,
    0.9944697428975364, 0.994239783400747, 0.9940051673846177, 0.9937658970596019,
    0.9935219746800041, 0.9932734025439585, 0.9930201829934067, 0.9927623184140771,
    0.9924998112354615, 0.9922326639307917, 0.9919608790170175, 0.991684459054782,
    0.9914034066483977, 0.9911177244458222, 0.9908274151386331, 0.9905324814620026],
  [0.9902329261946716, 0.989928752158924, 0.9896199622205594, 0.9893065592888668,
    0.9889885463165968, 0.988665926299934, 0.9883387022784684, 0.9880068773351669,
    0.9876704545963447, 0.9873294372316355, 0.986983828453961, 0.9866336315195021,
    0.9862788497276669, 0.9859194864210603, 0.9855555449854521, 0.9851870288497453,
    0.984813941485944, 0.9844362864091207, 0.9840540671773823, 0.9836672873918377,
    0.9832759506965636, 0.9828800607785695, 0.9824796213677636, 0.9820746362369176,
    0.9816651092016313, 0.981251044120296, 0.9808324448940585, 0.980409315466785,
    0.9799816598250229, 0.9795494819979638, 0.9791127860574049, 0.9786715761177124],
  [0.9782258563357803, 0.9777756309109928, 0.9773209040851849, 0.9768616801426012,
    0.9763979634098565, 0.975929758255895, 0.9754570690919484, 0.9749799003714954,
    0.9744982565902189, 0.974012142285964, 0.9735215620386952, 0.9730265204704533,
    0.9725270222453115, 0.9720230720693321, 0.9715146746905219, 0.9710018348987869,
    0.9704845575258878, 0.9699628474453946, 0.9694367095726402, 0.9689061488646743,
    0.9683711703202167, 0.9678317789796103, 0.9672879799247731, 0.9667397782791514,
    0.9661871792076704, 0.9656301879166861, 0.9650688096539362, 0.9645030497084903,
    0.9639329134107011, 0.9633584061321525, 0.9627795332856106, 0.9621963003249718],
  [0.961608712745212, 0.9610167760823338, 0.9604204959133157, 0.9598198778560586,
    0.9592149275693331, 0.9586056507527265, 0.9579920531465885, 0.9573741405319778,
    0.9567519187306069, 0.9561253936047882, 0.9554945710573773, 0.9548594570317197,
    0.954220057511592, 0.9535763785211477, 0.9529284261248596, 0.9522762064274626,
    0.9516197255738961, 0.9509589897492466, 0.9502940051786894, 0.9496247781274292,
    0.9489513149006417, 0.9482736218434142, 0.9475917053406857, 0.9469055718171867,
    0.9462152277373783, 0.9455206796053924, 0.9448219339649693, 0.9441189973993962,
    0.9434118765314459, 0.9427005780233139, 0.9419851085765554, 0.9412654749320226],
  [0.9405416838698009, 0.9398137422091455, 0.9390816568084163, 0.938345434565014,
    0.9376050824153149, 0.9368606073346056, 0.9361120163370172, 0.935359316475459,
    0.9346025148415525, 0.9338416185655646, 0.9330766348163397, 0.9323075708012329,
    0.9315344337660421, 0.930757230994939, 0.9299759698104011, 0.9291906575731429,
    0.9284013016820458, 0.9276079095740891, 0.9268104887242792, 0.9260090466455803,
    0.9252035908888423, 0.9243941290427307, 0.9235806687336543, 0.9227632176256941,
    0.9219417834205308, 0.9211163738573713, 0.9202869967128779, 0.9194536598010932,
    0.9186163709733666, 0.9177751381182813, 0.9169299691615798, 0.9160808720660882],
  [0.9152278548316424, 0.9143709254950115, 0.9135100921298238, 0.9126453628464888,
    0.9117767457921221, 0.9109042491504684, 0.9100278811418236, 0.9091476500229592,
    0.9082635640870418, 0.9073756316635576, 0.9064838611182323, 0.9055882608529529,
    0.9046888393056882, 0.9037856049504098, 0.902878566297012, 0.9019677318912311,
    0.9010531103145659, 0.9001347101841963, 0.8992125401529021, 0.8982866089089809,
    0.8973569251761679, 0.8964234977135521, 0.8954863353154942, 0.8945454468115442,
    0.8936008410663578, 0.8926525269796132, 0.8917005134859262, 0.8907448095547682,
    0.8897854241903793, 0.8888223664316849, 0.88785564535221, 0.8868852700599941],
  [0.8859112496975048, 0.8849335934415524, 0.883952310503203, 0.8829674101276916,
    0.8819789015943351, 0.8809867942164451, 0.8799910973412404, 0.8789918203497575,
    0.8779889726567645, 0.8769825637106698, 0.8759726029934358, 0.8749591000204875,
    0.873942064340623, 0.8729215055359252, 0.8718974332216696, 0.8708698570462351,
    0.8698387866910118, 0.8688042318703111, 0.8677662023312733, 0.8667247078537762,
    0.8656797582503423, 0.8646313633660476, 0.8635795330784275, 0.8625242772973843,
    0.8614656059650945, 0.860403529055914, 0.8593380565762845, 0.8582691985646396,
    0.85719696509131, 0.8561213662584283, 0.8550424121998343, 0.8539601130809791],
  [0.8528744790988301, 0.8517855204817738, 0.8506932474895199, 0.8495976704130059,
    0.8484987995742976, 0.8473966453264938, 0.8462912180536284, 0.845182528170572,
    0.8440705861229345, 0.8429554023869661, 0.8418369874694585, 0.8407153519076471,
    0.83959050626911, 0.8384624611516698, 0.8373312271832932, 0.8361968150219907,
    0.8350592353557166, 0.8339184989022677, 0.8327746164091833, 0.831627598653643,
    0.8304774564423656, 0.8293242006115069, 0.8281678420265588, 0.8270083915822453,
    0.8258458602024207, 0.8246802588399663, 0.8235115984766883, 0.8223398901232128,
    0.8211651448188831, 0.8199873736316559, 0.8188065876579949, 0.8176227980227692],
  [0.8164360158791473, 0.8152462524084906, 0.8140535188202503, 0.8128578263518611,
    0.8116591862686338, 0.810457609863651, 0.8092531084576609, 0.8080456933989683,
    0.8068353760633306, 0.805622167853848, 0.8044060802008581, 0.8031871245618278,
    0.8019653124212437, 0.8007406552905061, 0.7995131647078195, 0.798282852238083,
    0.7970497294727843, 0.7958138080298872, 0.7945750995537231, 0.7933336157148827,
    0.792089368210104, 0.7908423687621637, 0.7895926291197668, 0.7883401610574337,
    0.7870849763753917, 0.7858270868994635, 0.7845665044809538, 0.7833032409965403,
    0.7820373083481604, 0.7807687184628986, 0.7794974832928756, 0.7782236148151338],
  [0.7769471250315265, 0.7756680259686038, 0.7743863296774984, 0.7731020482338138,
    0.7718151937375102, 0.7705257783127886, 0.7692338141079789, 0.7679393132954248,
    0.7666422880713677, 0.7653427506558346, 0.7640407132925193, 0.7627361882486707,
    0.7614291878149755, 0.7601197243054412, 0.7588078100572824, 0.7574934574308038,
    0.7561766788092821, 0.7548574865988522, 0.7535358932283882, 0.7522119111493866,
    0.7508855528358499, 0.7495568307841678, 0.7482257575130008, 0.7468923455631614,
    0.7455566074974961, 0.744218555900767, 0.7428782033795339, 0.7415355625620336,
    0.7401906460980634, 0.7388434666588611, 0.7374940369369838, 0.7361423696461915],
  [0.734788477521324, 0.7334323733181838, 0.7320740698134147, 0.7307135798043802,
    0.7293509161090452, 0.7279860915658544, 0.7266191190336095, 0.7252500113913513,
    0.7238787815382364, 0.7225054423934147, 0.7211300068959111, 0.7197524880044989,
    0.7183728986975828, 0.7169912519730729, 0.7156075608482628, 0.7142218383597086,
    0.7128340975631051, 0.7114443515331614, 0.7100526133634807, 0.7086588961664346,
    0.7072632130730399, 0.7058655772328361, 0.7044660018137594, 0.7030645000020213,
    0.7016610850019825, 0.7002557700360281, 0.698848568344445, 0.697439493185296,
    0.6960285578342936, 0.6946157755846778, 0.6932011597470888, 0.691784723649441],
  [0.6903664806368009, 0.6889464440712566, 0.6875246273317956, 0.6861010438141775,
    0.6846757069308067, 0.6832486301106079, 0.6818198267988993, 0.6803893104572637,
    0.6789570945634248, 0.6775231926111187, 0.6760876181099655, 0.6746503845853449,
    0.6732115055782669, 0.6717709946452435, 0.6703288653581635, 0.6688851313041616,
    0.6674398060854931, 0.665992903319405, 0.6645444366380052, 0.6630944196881379,
    0.6616428661312539, 0.660189789643279, 0.658735203914489, 0.6572791226493794,
    0.6558215595665343, 0.6543625283985011, 0.6529020428916564, 0.6514401168060813,
    0.6499767639154284, 0.6485119980067924, 0.647045832880582, 0.6455782823503887],
  [0.6441093602428554, 0.6426390803975488, 0.6411674566668274, 0.6396945029157103,
    0.6382202330217488, 0.636744660874893, 0.635267800377363, 0.6337896654435183,
    0.6323102699997234, 0.63082962798422, 0.6293477533469951, 0.6278646600496471,
    0.6263803620652579, 0.6248948733782588, 0.6234082079842987, 0.6219203798901145,
    0.6204314031133956, 0.6189412916826555, 0.6174500596370975, 0.6159577210264821,
    0.6144642899109961, 0.6129697803611198, 0.6114742064574926, 0.6099775822907832,
    0.6084799219615555, 0.6069812395801341, 0.6054815492664744, 0.6039808651500278,
    0.6024792013696088, 0.6009765720732623, 0.5994729914181285, 0.5979684735703124],
  [0.5964630327047485, 0.5949566830050669, 0.5934494386634609, 0.5919413138805534,
    0.5904323228652606, 0.5889224798346622, 0.587411799013863, 0.5859002946358629,
    0.5843879809414206, 0.5828748721789189, 0.5813609826042324, 0.5798463264805922,
    0.5783309180784505, 0.5768147716753481, 0.5752979015557788, 0.5737803220110547,
    0.5722620473391722, 0.570743091844676, 0.5692234698385261, 0.5677031956379623,
    0.5661822835663679, 0.5646607479531368, 0.5631386031335383, 0.5616158634485794,
    0.5600925432448736, 0.5585686568745032, 0.5570442186948841, 0.5555192430686321,
    0.5539937443634254, 0.5524677369518716, 0.5509412352113707, 0.5494142535239795],
  [0.5478868062762775, 0.5463589078592306, 0.5448305726680535, 0.5433018151020789,
    0.5417726495646175, 0.5402430904628229, 0.5387131522075586, 0.5371828492132581,
    0.5356521958977931, 0.5341212066823356, 0.5325898959912214, 0.5310582782518158,
    0.5295263678943776, 0.5279941793519206, 0.5264617270600814, 0.5249290254569814,
    0.5233960889830892, 0.5218629320810886, 0.520329569195738, 0.5187960147737379,
    0.5172622832635936, 0.5157283891154771, 0.514194346781094, 0.5126601707135473,
    0.511125875367197, 0.5095914751975291, 0.5080569846610169, 0.506522418214984,
    0.5049877903174707, 0.5034531154270946, 0.5019184080029175, 0.5003836825043076],
  [0.4988489533908022, 0.4973142351219737, 0.4957795421572926, 0.4942448889559894,
    0.4927102899769218, 0.491175759678436, 0.4896413125182302, 0.488106962953221,
    0.4865727254394036, 0.4850386144317191, 0.4835046443839159, 0.4819708297484147,
    0.4804371849761717, 0.4789037245165433, 0.477370462817148, 0.4758374143237331,
    0.474304593480037, 0.472772014727652, 0.4712396925058914, 0.4697076412516498,
    0.4681758753992699, 0.4666444093804057, 0.4651132576238852, 0.4635824345555763,
    0.4620519545982507, 0.4605218321714457, 0.4589920816913318, 0.4574627175705748,
    0.4559337542181993, 0.4544052060394558, 0.4528770874356809, 0.4513494128041667],
  [0.4498221965380208, 0.4482954530260316, 0.4467691966525348, 0.4452434417972764,
    0.4437182028352758, 0.4421934941366935, 0.4406693300666938, 0.4391457249853087,
    0.4376226932473051, 0.4361002492020467, 0.4345784071933612, 0.4330571815594043,
    0.4315365866325232, 0.430016636739124, 0.4284973461995358, 0.4269787293278741,
    0.4254608004319086, 0.4239435738129274, 0.4224270637656, 0.4209112845778481,
    0.4193962505307042, 0.4178819758981823, 0.4163684749471414, 0.4148557619371499,
    0.413343851120354, 0.4118327567413418, 0.4103224930370081, 0.4088130742364225,
    0.4073045145606948, 0.4057968282228385, 0.404290029427641, 0.4027841323715259],
  [0.4012791512424223, 0.3997751002196297, 0.3982719934736834, 0.3967698451662231,
    0.3952686694498589, 0.3937684804680361, 0.3922692923549041, 0.390771119235184,
    0.3892739752240316, 0.3877778744269087, 0.3862828309394468, 0.3847888588473173,
    0.3832959722260973, 0.3818041851411355, 0.3803135116474229, 0.3788239657894585,
    0.3773355616011159, 0.3758483131055138, 0.3743622343148822, 0.3728773392304298,
    0.3713936418422139, 0.3699111561290066, 0.3684298960581651, 0.3669498755854991,
    0.365471108655138, 0.3639936091994024, 0.3625173911386704, 0.3610424683812479,
    0.3595688548232365, 0.3580965643484037, 0.3566256108280503, 0.3551560081208824],
  [0.3536877700728777, 0.3522209105171579, 0.3507554432738572, 0.3492913821499906,
    0.3478287409393265, 0.3463675334222557, 0.3449077733656599, 0.3434494745227847,
    0.3419926506331088, 0.3405373154222132, 0.3390834826016551, 0.3376311658688347,
    0.33618037890687, 0.3347311353844657, 0.3332834489557835, 0.3318373332603173,
    0.3303928019227608, 0.3289498685528797, 0.3275085467453858, 0.3260688500798072,
    0.3246307921203595, 0.3231943864158208, 0.3217596464994005, 0.320326585888615,
    0.318895218085159, 0.317465556574777, 0.3160376148271388, 0.3146114062957113,
    0.3131869444176306, 0.3117642426135776, 0.3103433142876507, 0.3089241728272382],
  [0.3075068316028942, 0.3060913039682119, 0.3046776032596962, 0.3032657427966421,
    0.3018557358810037, 0.3004475957972735, 0.2990413358123555, 0.2976369691754387,
    0.2962345091178755, 0.2948339688530549, 0.2934353615762774, 0.2920387004646327,
    0.2906439986768748, 0.2892512693532965, 0.2878605256156084, 0.2864717805668122,
    0.28508504729108, 0.2837003388536297, 0.2823176683006011, 0.2809370486589348,
    0.2795584929362487, 0.2781820141207142, 0.2768076251809358, 0.275435339065829,
    0.2740651687044951, 0.2726971270061038, 0.2713312268597677, 0.2699674811344238,
    0.2686059026787111, 0.2672465043208483, 0.2658892988685151, 0.2645342991087311],
  [0.263181517807733, 0.2618309677108576, 0.2604826615424204, 0.259136612005594,
    0.2577928317822917, 0.2564513335330448, 0.2551121298968859, 0.2537752334912287,
    0.252440656911748, 0.2511084127322634, 0.249778513504619, 0.2484509717585661,
    0.2471258000016445, 0.2458030107190654, 0.2444826163735923, 0.2431646294054261,
    0.2418490622320848, 0.2405359272482893, 0.2392252368258455, 0.2379170033135264,
    0.2366112390369582, 0.2353079562985031, 0.234007167377142, 0.2327088845283615,
    0.2314131199840366, 0.2301198859523153, 0.2288291946175052, 0.2275410581399565,
    0.2262554886559496, 0.2249724982775798, 0.2236920990926415, 0.2224143031645185],
  [0.2211391225320665, 0.2198665692095003, 0.2185966551862823, 0.2173293924270087,
    0.2160647928712954, 0.2148028684336681, 0.2135436310034474, 0.2122870924446391,
    0.2110332645958211, 0.2097821592700315, 0.2085337882546585, 0.2072881633113293,
    0.2060452961757973, 0.2048051985578342, 0.2035678821411186, 0.2023333585831244,
    0.2011016395150141, 0.1998727365415259, 0.1986466612408668, 0.1974234251646034,
    0.1962030398375504, 0.1949855167576656, 0.1937708673959395, 0.1925591031962868,
    0.1913502355754403, 0.1901442759228427, 0.1889412356005378, 0.1877411259430662,
    0.1865439582573555, 0.1853497438226166, 0.1841584938902356, 0.1829702196836679],
  [0.1817849323983334, 0.1806026432015106, 0.1794233632322305, 0.1782471036011731,
    0.1770738753905622, 0.1759036896540599, 0.1747365574166643, 0.1735724896746043,
    0.1724114973952366, 0.1712535915169424, 0.1700987829490231, 0.1689470825715997,
    0.1677985012355089, 0.1666530497622004, 0.1655107389436363, 0.1643715795421891,
    0.1632355822905388, 0.1621027578915743, 0.1609731170182899, 0.1598466703136871,
    0.1587234283906732, 0.1576034018319605, 0.1564866011899684, 0.1553730369867231,
    0.1542627197137575, 0.1531556598320138, 0.1520518677717456, 0.1509513539324164,
    0.1498541286826052, 0.1487602023599063, 0.1476695852708336, 0.1465822876907227],
  [0.1454983198636337, 0.1444176920022557, 0.14334041428781, 0.1422664968699537,
    0.1411959498666852, 0.1401287833642482, 0.1390650074170362, 0.1380046320474991,
    0.1369476672460472, 0.1358941229709584, 0.1348440091482841, 0.1337973356717543,
    0.1327541124026866, 0.1317143491698918, 0.1306780557695816, 0.1296452419652767,
    0.1286159174877146, 0.1275900920347567, 0.1265677752712998, 0.1255489768291816,
    0.1245337063070929, 0.1235219732704857, 0.1225137872514826, 0.1215091577487884,
    0.1205080942276, 0.1195106061195162, 0.1185167028224507, 0.1175263937005425,
    0.1165396880840671, 0.1155565952693504, 0.1145771245186785, 0.1136012850602134],
  [0.1126290860879041, 0.1116605367613996, 0.110695646205965, 0.1097344235123934,
    0.1087768777369199, 0.1078230179011385, 0.1068728529919155, 0.1059263919613044,
    0.1049836437264636, 0.1040446171695698, 0.1031093211377365, 0.1021777644429296,
    0.1012499558618841, 0.1003259041360223, 0.09940561797137126, 0.09848910603847949,
    0.09757637697233718, 0.09666743937229388, 0.09576230180197687, 0.09486097278921202,
    0.09396346082594176, 0.09306977436814612, 0.0921799218357639, 0.09129391161261047,
    0.09041175204630181, 0.08953345144817443, 0.0886590180932067, 0.08778846021994202,
    0.08692178603041079, 0.08605900369005215, 0.08520012132763893, 0.08434514703519885],
  [0.08349408886794046, 0.08264695484417589, 0.08180375294524522, 0.08096449111544224,
    0.08012917726193913, 0.07929781925471113, 0.078470424926464, 0.0776470020725592,
    0.07682755845094008, 0.07601210178205997, 0.07520063974880858, 0.07439317999643985,
    0.0735897301325002, 0.07279029772675571, 0.07199489031112255, 0.07120351537959502,
    0.07041618038817432, 0.06963289275479989, 0.06885365985927844, 0.06807848904321412,
    0.06730738760994076, 0.06654036282445125, 0.06577742191333069, 0.06501857206468764,
    0.06426382042808571, 0.06351317411447754, 0.06276664019613726, 0.06202422570659288,
    0.06128593764056167, 0.06055178295388325, 0.05982176856345428, 0.05909590134716342],
  [0.05837418814382589, 0.05765663575312008, 0.05694325093552299, 0.05623404041224589,
    0.0555290108651722, 0.05482816893679399, 0.05413152123014864, 0.05343907430875799,
    0.05275083469656594, 0.05206680887787613, 0.05138700329729257, 0.05071142435965703,
    0.05004007842999025, 0.04937297183343148, 0.04871011085517796, 0.04805150174042727,
    0.0473971506943176, 0.04674706388186872, 0.04610124742792565, 0.04545970741709937,
    0.04482244989370965, 0.04418948086172914, 0.04356080628472547, 0.04293643208580628,
    0.04231636414756274, 0.04170060831201378, 0.0410891703805521, 0.04048205611388883,
    0.03987927123199891, 0.03928082141406802, 0.03868671229843884, 0.03809694948255721],
  [0.03751153852292066, 0.0369304849350246, 0.03635379419331175, 0.03578147173111984,
    0.03521352294062996, 0.03464995317281683, 0.03409076773739822, 0.03353597190278351,
    0.03298557089602588, 0.03243956990277225, 0.03189797406721401, 0.03136078849203949,
    0.03082801823838527, 0.03029966832578834, 0.02977574373213965, 0.02925624939363597,
    0.02874119020473465, 0.02823057101810678, 0.02772439664459136, 0.02722267185315042,
    0.02672540137082419, 0.02623258988268562, 0.02574424203179737, 0.02526036241916768,
    0.02478095560370636, 0.02430602610218296, 0.02383557838918349, 0.02336961689706829,
    0.02290814601593083, 0.02245117009355529, 0.02199869343537669, 0.02155072030443994],
  [0.02110725492135918, 0.02066830146427884, 0.02023386406883387, 0.01980394682811037,
    0.01937855379260806, 0.01895768897020089, 0.01854135632610038, 0.01812955978281761,
    0.01772230322012613, 0.01731959047502618, 0.01692142534170787, 0.01652781157151545,
    0.01613875287291233, 0.015754252911446, 0.01537431530971328, 0.01499894364732657,
    0.01462814146087954, 0.01426191224391454, 0.01390025944688933, 0.0135431864771442,
    0.01319069669887057, 0.01284279343307898, 0.01249947995756745, 0.01216075950689122,
    0.01182663527233202, 0.01149711040186757, 0.01117218800014286, 0.01085187112843988,
    0.01053616280464953, 0.01022506600324297, 0.009918583655243118, 0.009616718648197908],
  [0.009319473826152558, 0.009026851989622442, 0.008738855895567665, 0.008455488257366361,
    0.008176751744788935, 0.007902648983973803, 0.007633182557401696, 0.007368355003872062,
    0.0071081688184787, 0.00685262645258633, 0.006601730313807619, 0.00635548276598058,
    0.006113886129145929, 0.005876942679525543, 0.00564465464950098, 0.005417024227592326,
    0.005194053558437717, 0.004975744742772847, 0.004762099837411715, 0.004553120855226744,
    0.004348809765129857, 0.004149168492054267, 0.003954198916936214, 0.003763902876696812,
    0.003578282164225455, 0.003397338528362381, 0.003221073673882302, 0.003049489261478688,
    0.00288258690774762, 0.00272036818517285, 0.002562834622111043, 0.002409987702777006],
  [0.002261828867230253, 0.002118359511360968, 0.001979580986877061, 0.001845494601291409,
    0.001716101617909582, 0.001591403255817803, 0.00147140068987156, 0.001356095050684569,
    0.001245487424618108, 0.00113957885377064, 0.001038370335968208, 0.0009418628247548355,
    0.0008500572293838049, 0.0007629544148087253, 0.0006805552016757588, 0.0006028603663155163,
    0.0005298706407361742, 0.0004615867126161466, 0.0003980092252978684, 0.0003391387777817445,
    0.000284975924720321, 0.0002355211764132337, 0.0001907749988023788, 0.0001507378134673054,
    0.0001154099976216072, 8.479188410903671e-05, 5.888376140067431e-05, 3.768587359187503e-05,
    2.11984204002702e-05, 9.421557163713512e-06, 2.355394838837732e-06, 0]]

/-- The initialiser of `hann2048`. -/
def hann2048Entries : List ℚ := hann2048Rows.flatten

/-- The rows make 2048 entries. -/
theorem length_hann2048Entries : hann2048Entries.length = 2048 := by decide +kernel

/-- `hann2048[j]`. -/
def hann2048 (j : Fin 2048) : ℚ := hann2048Entries.get (j.cast length_hann2048Entries.symm)

/-- No entry of the table is negative. -/
theorem hann2048Entries_nonneg : ∀ w ∈ hann2048Entries, 0 ≤ w := by decide +kernel

theorem hann2048_nonneg (j : Fin 2048) : 0 ≤ hann2048 j :=
  hann2048Entries_nonneg _ (List.get_mem _ _)

/-- The rows are summed one by one. -/
theorem sum_hann2048Rows_le : (hann2048Rows.map List.sum).sum ≤ 1024 := by decide +kernel

theorem sum_get_cast {entries : List ℚ} {n : ℕ} (length : n = entries.length) :
    ∑ j : Fin n, entries.get (j.cast length) = entries.sum := by
  subst length
  rw [← List.sum_ofFn]
  exact congrArg List.sum (List.ofFn_get entries)

/-- **The entries add up to no more than 1024**, one half of the length of the table. -/
theorem sum_hann2048_le : ∑ j, hann2048 j ≤ 1024 := by
  have sum : ∑ j, hann2048 j = hann2048Entries.sum := sum_get_cast _
  rw [sum, hann2048Entries, List.sum_flatten]
  exact sum_hann2048Rows_le

end SpectrogramServers
