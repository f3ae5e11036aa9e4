import Mathlib.Algebra.BigOperators.Fin
import Mathlib.Algebra.Field.Basic
import Mathlib.Data.Rat.Cast.Defs
import SpectrogramServers.Lib.CArray

/-!
# The tables of the receiver

The sine table and the two low-pass filters that `main` uses, entry by entry as the
headers have them, over an arbitrary field: `double` and `float` are exact numbers here.

## The sine table

`sin1024` has no declared size, so its initialiser decides.  Entry 767 is written
`-0.99998117528260111 -1,` and is a subtraction: a comma is missing.  Two entries have
become one, which is close to -2, the table has 1023 entries and not 1024, and everything
behind that entry stands one place early.  Index 1023 is out of its bounds.

The transcription keeps the slip, since the program multiplies with what the compiler
makes of the initialiser and not with a sine.  What it does to the mixer is said in
`Oscillator`.

## The filters

Both have 33 taps and are normalised before use: `normalized` divides by the sum of the
taps. The sums are computed from the literals, so the gain of a filter at frequency zero
is exactly one, whatever the last digits of the taps are.

The lengths are found by evaluation, and the arrays are indexed by `Fin` of them: an
access by a number has to show that it is inside.
-/

namespace SpectrogramServers.MyServer.Tables

universe u

/-- The initialiser of `sin1024`, in rows of 32. -/
def sin1024Entries : List ℚ := List.flatten [
  [0, 0.0061358846491544753, 0.012271538285719925, 0.01840672990580482, 0.024541228522912288,
    0.030674803176636626, 0.036807222941358832, 0.04293825693494082, 0.049067674327418015,
    0.055195244349689941, 0.061320736302208578, 0.067443919563664051, 0.073564563599667426,
    0.079682437971430126, 0.085797312344439894, 0.091908956497132724, 0.098017140329560604,
    0.10412163387205459, 0.11022220729388306, 0.11631863091190475, 0.1224106751992162,
    0.12849811079379317, 0.13458070850712617, 0.14065823933284921, 0.14673047445536175,
    0.15279718525844344, 0.15885814333386145, 0.16491312048996992, 0.17096188876030122,
    0.17700422041214875, 0.18303988795514095, 0.18906866414980619],
  [0.19509032201612825, 0.2011046348420919, 0.20711137619221856, 0.21311031991609136,
    0.2191012401568698, 0.22508391135979283, 0.23105810828067111, 0.2370236059943672,
    0.24298017990326387, 0.24892760574572015, 0.25486565960451457, 0.26079411791527551,
    0.26671275747489837, 0.27262135544994898, 0.27851968938505306, 0.28440753721127188,
    0.29028467725446233, 0.29615088824362379, 0.30200594931922808, 0.30784964004153487,
    0.31368174039889152, 0.31950203081601569, 0.32531029216226293, 0.33110630575987643,
    0.33688985339222005, 0.34266071731199438, 0.34841868024943456, 0.35416352542049034,
    0.35989503653498811, 0.36561299780477385, 0.37131719395183754, 0.37700741021641826],
  [0.38268343236508978, 0.38834504669882625, 0.3939920400610481, 0.39962419984564679,
    0.40524131400498986, 0.41084317105790391, 0.41642956009763715, 0.42200027079979968,
    0.42755509343028208, 0.43309381885315196, 0.43861623853852766, 0.4441221445704292,
    0.44961132965460654, 0.45508358712634384, 0.46053871095824001, 0.46597649576796618,
    0.47139673682599764, 0.47679923006332209, 0.48218377207912272, 0.487550160148436,
    0.49289819222978404, 0.49822766697278187, 0.50353838372571758, 0.50883014254310699,
    0.51410274419322166, 0.51935599016558964, 0.52458968267846895, 0.52980362468629461,
    0.53499761988709715, 0.54017147272989285, 0.54532498842204646, 0.55045797293660481],
  [0.55557023301960218, 0.56066157619733603, 0.56573181078361312, 0.57078074588696726,
    0.57580819141784534, 0.58081395809576453, 0.58579785745643886, 0.59075970185887416,
    0.59569930449243336, 0.60061647938386897, 0.60551104140432555, 0.61038280627630948,
    0.61523159058062682, 0.6200572117632891, 0.62485948814238634, 0.62963823891492698,
    0.63439328416364549, 0.63912444486377573, 0.64383154288979139, 0.64851440102211244,
    0.65317284295377676, 0.65780669329707864, 0.66241577759017178, 0.66699992230363747,
    0.67155895484701833, 0.67609270357531592, 0.68060099779545302, 0.68508366777270036,
    0.68954054473706683, 0.69397146088965389, 0.69837624940897292, 0.7027547444572253],
  [0.70710678118654746, 0.71143219574521632, 0.71573082528381859, 0.72000250796138165,
    0.72424708295146689, 0.7284643904482252, 0.7326542716724127, 0.73681656887736979,
    0.74095112535495899, 0.74505778544146595, 0.74913639452345926, 0.75318679904361241,
    0.75720884650648446, 0.76120238548426178, 0.76516726562245885, 0.76910333764557959,
    0.77301045336273688, 0.77688846567323244, 0.78073722857209438, 0.78455659715557524,
    0.78834642762660623, 0.79210657730021228, 0.79583690460888346, 0.79953726910790501,
    0.80320753148064483, 0.80684755354379922, 0.81045719825259477, 0.8140363297059483,
    0.81758481315158371, 0.82110251499110465, 0.82458930278502529, 0.82804504525775569],
  [0.83146961230254512, 0.83486287498638001, 0.83822470555483797, 0.84155497743689833,
    0.84485356524970701, 0.84812034480329712, 0.8513551931052652, 0.85455798836540053,
    0.85772861000027212, 0.8608669386377672, 0.8639728561215867, 0.86704624551569265,
    0.87008699110871135, 0.87309497841828998, 0.87607009419540649, 0.87901222642863341,
    0.88192126434835494, 0.88479709843093779, 0.88763962040285393, 0.89044872324475788,
    0.89322430119551532, 0.89596624975618511, 0.89867446569395382, 0.90134884704602203,
    0.90398929312344334, 0.90659570451491533, 0.90916798309052238, 0.91170603200542988,
    0.91420975570353069, 0.9166790599210427, 0.91911385169005777, 0.9215140393420419],
  [0.92387953251128674, 0.92621024213831138, 0.92850608047321548, 0.93076696107898371,
    0.93299279883473885, 0.9351835099389475, 0.93733901191257496, 0.93945922360218992,
    0.94154406518302081, 0.94359345816196039, 0.94560732538052128, 0.94758559101774109,
    0.94952818059303667, 0.95143502096900834, 0.95330604035419375, 0.95514116830577067,
    0.95694033573220894, 0.9587034748958716, 0.96043051941556579, 0.96212140426904158,
    0.96377606579543984, 0.9653944416976894, 0.96697647104485207, 0.96852209427441727,
    0.97003125319454397, 0.97150389098625178, 0.97293995220556007, 0.97433938278557586,
    0.97570213003852857, 0.97702814265775439, 0.97831737071962765, 0.97956976568544052],
  [0.98078528040323043, 0.98196386910955524, 0.98310548743121629, 0.98421009238692903,
    0.98527764238894122, 0.98630809724459867, 0.98730141815785843, 0.98825756773074946,
    0.98917650996478101, 0.99005821026229712, 0.99090263542778001, 0.99170975366909953,
    0.99247953459870997, 0.9932119492347945, 0.99390697000235606, 0.99456457073425542,
    0.99518472667219682, 0.99576741446765982, 0.996312612182778, 0.99682029929116567,
    0.99729045667869021, 0.99772306664419164, 0.99811811290014918, 0.99847558057329477,
    0.99879545620517241, 0.99907772775264536, 0.99932238458834954, 0.99952941750109314,
    0.99969881869620425, 0.9998305817958234, 0.9999247018391445, 0.99998117528260111],
  [1, 0.99998117528260111, 0.9999247018391445, 0.9998305817958234, 0.99969881869620425,
    0.99952941750109314, 0.99932238458834954, 0.99907772775264536, 0.99879545620517241,
    0.99847558057329477, 0.99811811290014918, 0.99772306664419164, 0.99729045667869021,
    0.99682029929116567, 0.996312612182778, 0.99576741446765982, 0.99518472667219693,
    0.99456457073425542, 0.99390697000235606, 0.9932119492347945, 0.99247953459870997,
    0.99170975366909953, 0.99090263542778001, 0.99005821026229712, 0.98917650996478101,
    0.98825756773074946, 0.98730141815785843, 0.98630809724459867, 0.98527764238894122,
    0.98421009238692903, 0.98310548743121629, 0.98196386910955524],
  [0.98078528040323043, 0.97956976568544052, 0.97831737071962765, 0.97702814265775439,
    0.97570213003852857, 0.97433938278557586, 0.97293995220556018, 0.97150389098625178,
    0.97003125319454397, 0.96852209427441727, 0.96697647104485207, 0.9653944416976894,
    0.96377606579543984, 0.96212140426904158, 0.9604305194155659, 0.9587034748958716,
    0.95694033573220894, 0.95514116830577067, 0.95330604035419386, 0.95143502096900834,
    0.94952818059303667, 0.9475855910177412, 0.94560732538052139, 0.94359345816196039,
    0.94154406518302081, 0.93945922360218992, 0.93733901191257496, 0.93518350993894761,
    0.93299279883473885, 0.93076696107898371, 0.92850608047321559, 0.92621024213831138],
  [0.92387953251128674, 0.92151403934204201, 0.91911385169005777, 0.9166790599210427,
    0.91420975570353069, 0.91170603200542988, 0.90916798309052249, 0.90659570451491533,
    0.90398929312344345, 0.90134884704602203, 0.89867446569395393, 0.89596624975618522,
    0.89322430119551521, 0.89044872324475799, 0.88763962040285393, 0.8847970984309379,
    0.88192126434835505, 0.87901222642863353, 0.8760700941954066, 0.8730949784182902,
    0.87008699110871146, 0.86704624551569287, 0.86397285612158681, 0.8608669386377672,
    0.85772861000027212, 0.85455798836540053, 0.8513551931052652, 0.84812034480329723,
    0.84485356524970723, 0.84155497743689844, 0.83822470555483819, 0.83486287498638012],
  [0.83146961230254546, 0.82804504525775591, 0.82458930278502529, 0.82110251499110476,
    0.81758481315158371, 0.81403632970594852, 0.81045719825259477, 0.80684755354379945,
    0.80320753148064494, 0.79953726910790524, 0.79583690460888357, 0.79210657730021228,
    0.78834642762660634, 0.78455659715557524, 0.7807372285720946, 0.77688846567323244,
    0.7730104533627371, 0.7691033376455797, 0.76516726562245907, 0.76120238548426189,
    0.75720884650648479, 0.75318679904361252, 0.74913639452345926, 0.74505778544146606,
    0.74095112535495899, 0.73681656887737002, 0.73265427167241282, 0.72846439044822531,
    0.724247082951467, 0.72000250796138188, 0.71573082528381871, 0.71143219574521677],
  [0.70710678118654757, 0.70275474445722519, 0.69837624940897292, 0.69397146088965389,
    0.68954054473706705, 0.68508366777270036, 0.68060099779545324, 0.67609270357531592,
    0.67155895484701855, 0.66699992230363758, 0.66241577759017201, 0.65780669329707875,
    0.65317284295377664, 0.64851440102211255, 0.64383154288979139, 0.63912444486377584,
    0.63439328416364549, 0.62963823891492721, 0.62485948814238634, 0.62005721176328943,
    0.61523159058062693, 0.6103828062763097, 0.60551104140432555, 0.60061647938386886,
    0.59569930449243347, 0.59075970185887416, 0.58579785745643898, 0.58081395809576453,
    0.57580819141784545, 0.57078074588696726, 0.56573181078361345, 0.56066157619733603],
  [0.55557023301960218, 0.55045797293660492, 0.54532498842204635, 0.54017147272989297,
    0.53499761988709715, 0.52980362468629483, 0.52458968267846895, 0.51935599016558975,
    0.51410274419322177, 0.50883014254310732, 0.50353838372571758, 0.49822766697278176,
    0.49289819222978415, 0.48755016014843588, 0.48218377207912289, 0.47679923006332209,
    0.47139673682599781, 0.46597649576796618, 0.46053871095824023, 0.45508358712634389,
    0.44961132965460687, 0.44412214457042931, 0.43861623853852755, 0.43309381885315207,
    0.42755509343028203, 0.42200027079979985, 0.41642956009763715, 0.41084317105790413,
    0.40524131400498986, 0.39962419984564707, 0.39399204006104815, 0.38834504669882658],
  [0.38268343236508984, 0.37700741021641815, 0.37131719395183765, 0.3656129978047738,
    0.35989503653498833, 0.35416352542049034, 0.34841868024943479, 0.34266071731199443,
    0.33688985339222027, 0.33110630575987648, 0.3253102921622632, 0.3195020308160158,
    0.31368174039889141, 0.30784964004153503, 0.30200594931922803, 0.29615088824362401,
    0.29028467725446233, 0.28440753721127204, 0.27851968938505312, 0.27262135544994925,
    0.26671275747489848, 0.26079411791527585, 0.25486565960451468, 0.24892760574572009,
    0.24298017990326404, 0.23702360599436717, 0.2310581082806713, 0.22508391135979283,
    0.21910124015687002, 0.21311031991609142, 0.20711137619221884, 0.20110463484209198],
  [0.19509032201612858, 0.18906866414980633, 0.1830398879551409, 0.17700422041214892,
    0.17096188876030119, 0.16491312048997012, 0.15885814333386145, 0.15279718525844369,
    0.1467304744553618, 0.14065823933284952, 0.13458070850712628, 0.12849811079379306,
    0.12241067519921635, 0.11631863091190471, 0.11022220729388325, 0.10412163387205457,
    0.09801714032956084, 0.091908956497132765, 0.085797312344440158, 0.079682437971430195,
    0.073564563599667745, 0.067443919563664176, 0.061320736302208495, 0.055195244349690094,
    0.049067674327417973, 0.042938256934941021, 0.036807222941358832, 0.030674803176636865,
    0.024541228522912326, 0.018406729905805101, 0.012271538285720007, 0.0061358846491547988],
  [1.2246467991473532e-16, -0.0061358846491545542, -0.012271538285719761, -0.018406729905804858,
    -0.024541228522912083, -0.030674803176636622, -0.036807222941358582, -0.042938256934940772,
    -0.049067674327417724, -0.055195244349689851, -0.061320736302208245, -0.067443919563663926,
    -0.073564563599667496, -0.079682437971429945, -0.085797312344439922, -0.091908956497132516,
    -0.09801714032956059, -0.10412163387205432, -0.110222207293883, -0.11631863091190446,
    -0.1224106751992161, -0.12849811079379284, -0.13458070850712606, -0.14065823933284929,
    -0.14673047445536158, -0.15279718525844346, -0.15885814333386122, -0.16491312048996992,
    -0.17096188876030097, -0.17700422041214869, -0.18303988795514067, -0.18906866414980611],
  [-0.19509032201612836, -0.20110463484209176, -0.20711137619221862, -0.2131103199160912,
    -0.21910124015686983, -0.22508391135979261, -0.23105810828067111, -0.23702360599436695,
    -0.24298017990326382, -0.24892760574571987, -0.25486565960451446, -0.26079411791527563,
    -0.26671275747489825, -0.27262135544994903, -0.27851968938505289, -0.28440753721127188,
    -0.29028467725446216, -0.29615088824362379, -0.30200594931922781, -0.30784964004153481,
    -0.31368174039889118, -0.31950203081601558, -0.32531029216226304, -0.33110630575987626,
    -0.33688985339222011, -0.34266071731199421, -0.34841868024943456, -0.35416352542049018,
    -0.35989503653498811, -0.36561299780477363, -0.37131719395183749, -0.37700741021641793],
  [-0.38268343236508967, -0.38834504669882636, -0.39399204006104793, -0.39962419984564684,
    -0.40524131400498969, -0.41084317105790391, -0.41642956009763693, -0.42200027079979963,
    -0.42755509343028181, -0.4330938188531519, -0.43861623853852733, -0.44412214457042909,
    -0.44961132965460665, -0.45508358712634367, -0.46053871095824006, -0.46597649576796596,
    -0.47139673682599764, -0.47679923006332192, -0.48218377207912272, -0.48755016014843572,
    -0.49289819222978393, -0.49822766697278154, -0.50353838372571746, -0.5088301425431071,
    -0.51410274419322155, -0.51935599016558964, -0.52458968267846873, -0.52980362468629461,
    -0.53499761988709693, -0.54017147272989285, -0.54532498842204613, -0.5504579729366047],
  [-0.55557023301960196, -0.56066157619733592, -0.56573181078361323, -0.57078074588696714,
    -0.57580819141784534, -0.5808139580957643, -0.58579785745643886, -0.59075970185887405,
    -0.59569930449243325, -0.60061647938386864, -0.60551104140432543, -0.61038280627630948,
    -0.61523159058062671, -0.62005721176328921, -0.62485948814238623, -0.62963823891492698,
    -0.63439328416364527, -0.63912444486377573, -0.64383154288979128, -0.64851440102211244,
    -0.65317284295377653, -0.65780669329707853, -0.66241577759017178, -0.66699992230363736,
    -0.67155895484701844, -0.67609270357531581, -0.68060099779545302, -0.68508366777270024,
    -0.68954054473706683, -0.69397146088965378, -0.6983762494089728, -0.70275474445722508],
  [-0.70710678118654746, -0.71143219574521643, -0.71573082528381848, -0.72000250796138165,
    -0.72424708295146667, -0.7284643904482252, -0.73265427167241259, -0.73681656887736979,
    -0.74095112535495877, -0.74505778544146584, -0.74913639452345904, -0.7531867990436123,
    -0.75720884650648423, -0.761202385484262, -0.76516726562245885, -0.76910333764557948,
    -0.77301045336273666, -0.77688846567323255, -0.78073722857209438, -0.78455659715557502,
    -0.78834642762660589, -0.79210657730021239, -0.79583690460888334, -0.79953726910790479,
    -0.80320753148064505, -0.80684755354379922, -0.81045719825259466, -0.81403632970594808,
    -0.81758481315158371, -0.82110251499110465, -0.82458930278502507, -0.82804504525775546],
  [-0.83146961230254524, -0.8348628749863799, -0.83822470555483775, -0.84155497743689855,
    -0.84485356524970712, -0.84812034480329712, -0.85135519310526486, -0.85455798836540053,
    -0.85772861000027201, -0.86086693863776709, -0.86397285612158647, -0.86704624551569265,
    -0.87008699110871135, -0.87309497841828987, -0.87607009419540671, -0.87901222642863353,
    -0.88192126434835494, -0.88479709843093757, -0.88763962040285405, -0.89044872324475788,
    -0.89322430119551521, -0.89596624975618488, -0.89867446569395382, -0.90134884704602192,
    -0.90398929312344312, -0.90659570451491545, -0.90916798309052238, -0.91170603200542977,
    -0.91420975570353047, -0.9166790599210427, -0.91911385169005766, -0.92151403934204179],
  [-0.92387953251128652, -0.92621024213831138, -0.92850608047321548, -0.9307669610789836,
    -0.93299279883473896, -0.93518350993894761, -0.93733901191257485, -0.9394592236021897,
    -0.94154406518302081, -0.94359345816196027, -0.94560732538052117, -0.9475855910177412,
    -0.94952818059303667, -0.95143502096900834, -0.95330604035419375, -0.95514116830577078,
    -0.95694033573220882, -0.95870347489587149, -0.96043051941556568, -0.96212140426904158,
    -0.96377606579543984, -0.96539444169768929, -0.96697647104485218, -0.96852209427441727,
    -0.97003125319454397, -0.97150389098625167, -0.97293995220556018, -0.97433938278557586,
    -0.97570213003852846, -0.97702814265775428, -0.97831737071962765, -0.97956976568544052],
  [-0.98078528040323032, -0.98196386910955535, -0.98310548743121629, -0.98421009238692903,
    -0.98527764238894111, -0.98630809724459867, -0.98730141815785832, -0.98825756773074946,
    -0.9891765099647809, -0.99005821026229712, -0.99090263542778001, -0.99170975366909953,
    -0.99247953459871008, -0.9932119492347945, -0.99390697000235606, -0.99456457073425542,
    -0.99518472667219693, -0.99576741446765982, -0.996312612182778, -0.99682029929116567,
    -0.99729045667869021, -0.99772306664419164, -0.99811811290014918, -0.99847558057329477,
    -0.99879545620517241, -0.99907772775264536, -0.99932238458834943, -0.99952941750109314,
    -0.99969881869620425, -0.9998305817958234, -0.9999247018391445, -0.99998117528260111 - 1],
  [-0.99998117528260111, -0.9999247018391445, -0.9998305817958234, -0.99969881869620425,
    -0.99952941750109314, -0.99932238458834954, -0.99907772775264536, -0.99879545620517241,
    -0.99847558057329477, -0.99811811290014918, -0.99772306664419164, -0.99729045667869021,
    -0.99682029929116567, -0.996312612182778, -0.99576741446765982, -0.99518472667219693,
    -0.99456457073425542, -0.99390697000235606, -0.99321194923479461, -0.99247953459871008,
    -0.99170975366909953, -0.99090263542778001, -0.99005821026229712, -0.9891765099647809,
    -0.98825756773074946, -0.98730141815785843, -0.98630809724459878, -0.98527764238894122,
    -0.98421009238692914, -0.9831054874312164, -0.98196386910955535, -0.98078528040323043],
  [-0.97956976568544063, -0.97831737071962777, -0.97702814265775428, -0.97570213003852857,
    -0.97433938278557597, -0.97293995220556029, -0.97150389098625178, -0.97003125319454397,
    -0.96852209427441738, -0.96697647104485229, -0.9653944416976894, -0.96377606579543995,
    -0.96212140426904169, -0.96043051941556579, -0.9587034748958716, -0.95694033573220894,
    -0.95514116830577089, -0.95330604035419375, -0.95143502096900845, -0.94952818059303679,
    -0.94758559101774131, -0.94560732538052128, -0.94359345816196039, -0.94154406518302092,
    -0.93945922360218981, -0.93733901191257496, -0.93518350993894772, -0.93299279883473907,
    -0.93076696107898371, -0.92850608047321559, -0.92621024213831149, -0.92387953251128663],
  [-0.9215140393420419, -0.91911385169005788, -0.91667905992104282, -0.91420975570353058,
    -0.91170603200542988, -0.90916798309052249, -0.90659570451491556, -0.90398929312344334,
    -0.90134884704602203, -0.89867446569395404, -0.895966249756185, -0.89322430119551532,
    -0.89044872324475799, -0.88763962040285416, -0.88479709843093768, -0.88192126434835505,
    -0.87901222642863364, -0.87607009419540693, -0.87309497841829009, -0.87008699110871146,
    -0.86704624551569287, -0.8639728561215867, -0.86086693863776731, -0.85772861000027223,
    -0.85455798836540087, -0.85135519310526508, -0.84812034480329734, -0.84485356524970734,
    -0.84155497743689878, -0.83822470555483797, -0.83486287498638023, -0.83146961230254557],
  [-0.82804504525775569, -0.82458930278502529, -0.82110251499110487, -0.81758481315158404,
    -0.8140363297059483, -0.81045719825259488, -0.80684755354379956, -0.80320753148064528,
    -0.79953726910790501, -0.79583690460888368, -0.79210657730021272, -0.78834642762660612,
    -0.78455659715557524, -0.78073722857209471, -0.77688846567323278, -0.77301045336273688,
    -0.7691033376455797, -0.76516726562245918, -0.76120238548426222, -0.75720884650648457,
    -0.75318679904361263, -0.7491363945234597, -0.74505778544146584, -0.74095112535495922,
    -0.73681656887737013, -0.73265427167241315, -0.7284643904482252, -0.72424708295146711,
    -0.72000250796138188, -0.71573082528381904, -0.71143219574521643, -0.70710678118654768],
  [-0.70275474445722563, -0.69837624940897269, -0.693971460889654, -0.68954054473706716,
    -0.6850836677727008, -0.68060099779545302, -0.67609270357531603, -0.67155895484701866,
    -0.66699992230363803, -0.66241577759017178, -0.65780669329707886, -0.65317284295377709,
    -0.64851440102211233, -0.6438315428897915, -0.63912444486377595, -0.63439328416364593,
    -0.62963823891492698, -0.62485948814238645, -0.62005721176328943, -0.61523159058062737,
    -0.61038280627630948, -0.60551104140432566, -0.60061647938386931, -0.59569930449243325,
    -0.59075970185887428, -0.58579785745643909, -0.58081395809576497, -0.57580819141784523,
    -0.57078074588696737, -0.56573181078361356, -0.56066157619733659, -0.55557023301960218],
  [-0.55045797293660503, -0.5453249884220468, -0.54017147272989274, -0.53499761988709726,
    -0.52980362468629494, -0.52458968267846939, -0.51935599016558953, -0.51410274419322188,
    -0.50883014254310732, -0.50353838372571813, -0.49822766697278187, -0.49289819222978426,
    -0.48755016014843638, -0.48218377207912261, -0.4767992300633222, -0.47139673682599792,
    -0.46597649576796668, -0.46053871095823995, -0.45508358712634395, -0.44961132965460698,
    -0.44412214457042981, -0.43861623853852766, -0.43309381885315218, -0.42755509343028253,
    -0.42200027079979952, -0.41642956009763726, -0.41084317105790424, -0.40524131400499042,
    -0.39962419984564673, -0.39399204006104827, -0.38834504669882669, -0.38268343236509039],
  [-0.37700741021641826, -0.37131719395183777, -0.36561299780477435, -0.359895036534988,
    -0.35416352542049045, -0.3484186802494349, -0.34266071731199493, -0.33688985339222,
    -0.33110630575987654, -0.32531029216226331, -0.31950203081601547, -0.31368174039889152,
    -0.30784964004153514, -0.30200594931922853, -0.29615088824362368, -0.29028467725446244,
    -0.28440753721127215, -0.27851968938505367, -0.27262135544994892, -0.26671275747489859,
    -0.26079411791527596, -0.25486565960451435, -0.2489276057457202, -0.24298017990326418,
    -0.23702360599436773, -0.23105810828067103, -0.22508391135979297, -0.21910124015687016,
    -0.21311031991609197, -0.20711137619221853, -0.20110463484209212, -0.19509032201612872],
  [-0.18906866414980603, -0.18303988795514103, -0.17700422041214905, -0.17096188876030177,
    -0.16491312048996984, -0.15885814333386158, -0.15279718525844382, -0.14673047445536239,
    -0.14065823933284921, -0.13458070850712642, -0.12849811079379364, -0.12241067519921603,
    -0.11631863091190484, -0.11022220729388338, -0.10412163387205513, -0.09801714032956052,
    -0.09190895649713289, -0.085797312344440282, -0.079682437971430764, -0.073564563599667426,
    -0.067443919563664301, -0.06132073630220905, -0.055195244349689775, -0.049067674327418091,
    -0.042938256934941139, -0.036807222941359394, -0.030674803176636546, -0.024541228522912451,
    -0.018406729905805226, -0.012271538285720572, -0.006135884649154477]]

/-- One entry short of 1024, because of the missing comma. -/
theorem length_sin1024Entries : sin1024Entries.length = 1023 := by decide +kernel

example : sin1024Entries[767]? = some (-0.99998117528260111 - 1 : ℚ) := by decide +kernel

/-- The initialiser of `fir1_32_02267573696`, the 200 kHz filter. -/
def fir1_32_02267573696 : List ℚ := [
  0.003868267330699852, 0.004409262231117821, 0.005848072806672679, 0.008189895432565177,
  0.01139476035988034, 0.0153780328267767, 0.02001329095866513, 0.02513747420941909,
  0.03055806761694293, 0.03606197025034354, 0.04142559781276156, 0.0464256953117383,
  0.05085029051617159, 0.05450920542713553, 0.05724356220525168, 0.05893377102092068,
  0.05950556736587481, 0.05893377102092069, 0.05724356220525168, 0.05450920542713553,
  0.0508502905161716, 0.0464256953117383, 0.04142559781276158, 0.03606197025034355,
  0.03055806761694293, 0.02513747420941909, 0.02001329095866513, 0.01537803282677671,
  0.01139476035988035, 0.008189895432565179, 0.005848072806672685, 0.004409262231117823,
  0.003868267330699852]

theorem length_fir1_32_02267573696 : fir1_32_02267573696.length = 33 := by decide +kernel

/-- The initialiser of `fir1_32_00170068027`, the 15 kHz filter. -/
def fir1_32_00170068027 : List ℚ := [
  0.004608294930875577, 0.005117440726642514, 0.006625311926544246, 0.009073961885992465,
  0.0123692903602643, 0.01638465972413496, 0.02096576158479601, 0.02593654676685374,
  0.03110599078341014, 0.03627543479996653, 0.04124621998202427, 0.04582732184268531,
  0.04984269120655598, 0.05313801968082782, 0.05558666964027603, 0.05709454084017777,
  0.0576036866359447, 0.05709454084017777, 0.05558666964027603, 0.05313801968082782,
  0.04984269120655599, 0.04582732184268531, 0.04124621998202429, 0.03627543479996655,
  0.03110599078341015, 0.02593654676685374, 0.02096576158479601, 0.01638465972413498,
  0.0123692903602643, 0.009073961885992465, 0.006625311926544253, 0.005117440726642517,
  0.004608294930875577]

theorem length_fir1_32_00170068027 : fir1_32_00170068027.length = 33 := by decide +kernel

/-- The body the two `normalized_…` functions share: every tap times the gain
that makes the taps sum to one. -/
def normalized {K : Type u} [Field K] {n : ℕ} (taps : CArray K n) : CArray K n := fun i =>
  1 / (∑ j, taps j) * taps i

section

variable (K : Type u) [Field K]

/-- `sin1024`, with the 1023 entries that its initialiser has. -/
def sin1024 : CArray K 1023 := fun i =>
  ((sin1024Entries.get (i.cast length_sin1024Entries.symm) : ℚ) : K)

/-- `normalized_fir1_32_02267573696()`, which `main` calls `filter_coeff_one`. -/
def normalized_fir1_32_02267573696 : CArray K 33 := normalized fun i =>
  ((fir1_32_02267573696.get (i.cast length_fir1_32_02267573696.symm) : ℚ) : K)

/-- `normalized_fir1_32_00170068027()`, which `main` calls `filter_coeff_two`. -/
def normalized_fir1_32_00170068027 : CArray K 33 := normalized fun i =>
  ((fir1_32_00170068027.get (i.cast length_fir1_32_00170068027.symm) : ℚ) : K)

end

end SpectrogramServers.MyServer.Tables
