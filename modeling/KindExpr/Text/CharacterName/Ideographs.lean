/-!
# Names of parts of ideographs

The names of the radicals and strokes of ideographs, of the sounds written beside them and
of the forms that enclose them.

Each entry is the first code point of a run and the names of the run, packed as
`unpackName` reads them.
-/

namespace KindExpr
namespace Text

/-- The packed names of radicals and strokes. -/
def radicalNames : List (Nat × String) :=
  [
    (0x2e80, "00CJK RADICAL REPEAT,20CLIFF,20SECOND ONE,30TWO,30THREE,20PERSON,20BOX"),
    (0x2e87, "20TABLE,20KNIFE ONE,30TWO,20DIVINATION,20SEAL,20SMALL ONE,30TWO"),
    (0x2e8e, "20LAME ONE,30TWO,30THREE,30FOUR,20SNAKE,20THREAD,20SNOUT ONE,30TWO"),
    (0x2e96, "20HEART ONE,30TWO,20HAND,20RAP"),
    (0x2e9b, "20CHOKE,20SUN,20MOON,20DEATH,20MOTHER,20CIVILIAN,20WATER ONE,30TWO"),
    (0x2ea3, "20FIRE,20PAW ONE,30TWO,20SIMPLIFIED HALF TREE TRUNK,20COW,20DOG,20JADE"),
    (0x2eaa, "20BOLT OF CLOTH,20EYE,20SPIRIT ONE,30TWO,20BAMBOO,20SILK,21C-SIMPLIFIED"),
    (0x2eb1, "20NET ONE,30TWO,30THREE,30FOUR,20MESH,20SHEEP,20RAM,20EWE,20OLD"),
    (0x2eba, "20BRUSH ONE,30TWO,20MEAT,20MORTAR,20GRASS ONE,30TWO,30THREE,20TIGER"),
    (0x2ec2, "20CLOTHES,20WEST ONE,30TWO,20C-SIMPLIFIED SEE,20SIMPLIFIED HORN,21"),
    (0x2ec8, "20C-SIMPLIFIED SPEECH,30SHELL,20FOOT,20C-SIMPLIFIED CART"),
    (0x2ecc, "20SIMPLIFIED WALK,20WALK ONE,30TWO,20CITY,20C-SIMPLIFIED GOLD"),
    (0x2ed1, "20LONG ONE,30TWO,20C-SIMPLIFIED LONG,30GATE,20MOUND ONE,30TWO,20RAIN"),
    (0x2ed8, "20BLUE,20C-SIMPLIFIED TANNED LEATHER,30LEAF,30WIND,30FLY,20EAT ONE"),
    (0x2ede, "30TWO,30THREE,20C-SIMPLIFIED EAT,20HEAD,20C-SIMPLIFIED HORSE,20BONE"),
    (0x2ee4, "20GHOST,20C-SIMPLIFIED FISH,30BIRD,30SALT,20SIMPLIFIED WHEAT,30YELLOW"),
    (0x2eea, "20C-SIMPLIFIED FROG,20J-SIMPLIFIED EVEN,21C-SIMPLIFIED"),
    (0x2eed, "20J-SIMPLIFIED TOOTH,21C-SIMPLIFIED,20J-SIMPLIFIED DRAGON"),
    (0x2ef0, "21C-SIMPLIFIED,20TURTLE,21J-SIMPLIFIED,21C-SIMPLIFIED"),
    (0x2f00, "00KANGXI RADICAL ONE,20LINE,20DOT,20SLASH,20SECOND,20HOOK,20TWO,20LID"),
    (0x2f08, "20MAN,20LEGS,20ENTER,20EIGHT,20DOWN BOX,20COVER,20ICE,20TABLE"),
    (0x2f10, "20OPEN BOX,20KNIFE,20POWER,20WRAP,20SPOON,20RIGHT OPEN BOX"),
    (0x2f16, "20HIDING ENCLOSURE,20TEN,20DIVINATION,20SEAL,20CLIFF,20PRIVATE,20AGAIN"),
    (0x2f1d, "20MOUTH,20ENCLOSURE,20EARTH,20SCHOLAR,20GO,30SLOWLY,20EVENING,20BIG"),
    (0x2f25, "20WOMAN,20CHILD,20ROOF,20INCH,20SMALL,20LAME,20CORPSE,20SPROUT"),
    (0x2f2d, "20MOUNTAIN,20RIVER,20WORK,20ONESELF,20TURBAN,20DRY,20SHORT THREAD"),
    (0x2f34, "20DOTTED CLIFF,20LONG STRIDE,20TWO HANDS,20SHOOT,20BOW,20SNOUT"),
    (0x2f3a, "20BRISTLE,20STEP,20HEART,20HALBERD,20DOOR,20HAND,20BRANCH,20RAP"),
    (0x2f42, "20SCRIPT,20DIPPER,20AXE,20SQUARE,20NOT,20SUN,20SAY,20MOON,20TREE,20LACK"),
    (0x2f4c, "20STOP,20DEATH,20WEAPON,20DO NOT,20COMPARE,20FUR,20CLAN,20STEAM,20WATER"),
    (0x2f55, "20FIRE,20CLAW,20FATHER,20DOUBLE X,20HALF TREE TRUNK,20SLICE,20FANG"),
    (0x2f5c, "20COW,20DOG,20PROFOUND,20JADE,20MELON,20TILE,20SWEET,20LIFE,20USE"),
    (0x2f65, "20FIELD,20BOLT OF CLOTH,20SICKNESS,20DOTTED TENT,20WHITE,20SKIN,20DISH"),
    (0x2f6c, "20EYE,20SPEAR,20ARROW,20STONE,20SPIRIT,20TRACK,20GRAIN,20CAVE,20STAND"),
    (0x2f75, "20BAMBOO,20RICE,20SILK,20JAR,20NET,20SHEEP,20FEATHER,20OLD,20AND,20PLOW"),
    (0x2f7f, "20EAR,20BRUSH,20MEAT,20MINISTER,20SELF,20ARRIVE,20MORTAR,20TONGUE"),
    (0x2f87, "20OPPOSE,20BOAT,20STOPPING,20COLOR,20GRASS,20TIGER,20INSECT,20BLOOD"),
    (0x2f8f, "20WALK ENCLOSURE,20CLOTHES,20WEST,20SEE,20HORN,20SPEECH,20VALLEY,20BEAN"),
    (0x2f97, "20PIG,20BADGER,20SHELL,20RED,20RUN,20FOOT,20BODY,20CART,20BITTER"),
    (0x2fa0, "20MORNING,20WALK,20CITY,20WINE,20DISTINGUISH,20VILLAGE,20GOLD,20LONG"),
    (0x2fa8, "20GATE,20MOUND,20SLAVE,20SHORT TAILED BIRD,20RAIN,20BLUE,20WRONG,20FACE"),
    (0x2fb0, "20LEATHER,21TANNED,20LEEK,20SOUND,20LEAF,20WIND,20FLY,20EAT,20HEAD"),
    (0x2fb9, "20FRAGRANT,20HORSE,20BONE,20TALL,20HAIR,20FIGHT,20SACRIFICIAL WINE"),
    (0x2fc0, "20CAULDRON,20GHOST,20FISH,20BIRD,20SALT,20DEER,20WHEAT,20HEMP,20YELLOW"),
    (0x2fc9, "20MILLET,20BLACK,20EMBROIDERY,20FROG,20TRIPOD,20DRUM,20RAT,20NOSE"),
    (0x2fd1, "20EVEN,20TOOTH,20DRAGON,20TURTLE,20FLUTE"),
    (0x2ff0, "00IDEOGRAPHIC DESCRIPTION CHARACTER LEFT TO RIGHT,30ABOVE TO BELOW"),
    (0x2ff2, "30LEFT TO MIDDLE AND RIGHT,30ABOVE TO MIDDLE AND BELOW,30FULL SURROUND"),
    (0x2ff5, "30SURROUND FROM ABOVE,50BELOW,50LEFT,51UPPER,60RIGHT,50LOWER LEFT"),
    (0x2ffb, "30OVERLAID"),
    (0x31c0, "00CJK STROKE T,20WG,20XG,20BXG,20SW,20HZZ,20HZG,20HP,20HZWG,20SZWG"),
    (0x31ca, "20HZT,20HZZP,20HPWG,20HZW,20HZZZ,20N,20H,20S,20P,20SP,20D,20HZ,20HG"),
    (0x31d7, "20SZ,20SWZ,20ST,20SG,20PD,20PZ,20TN,20SZZ,20SWG,20HXWG,20HZZZG,20PG,20Q")]

/-- The packed names of Bopomofo, of letters beside ideographs and of enclosed forms. -/
def enclosedNames : List (Nat × String) :=
  [
    (0x3105, "00BOPOMOFO LETTER B,20P,20M,20F,20D,20T,20N,20L,20G,20K,20H,20J,20Q,20X"),
    (0x3113, "20ZH,20CH,20SH,20R,20Z,20C,20S,20A,20O,20E,20EH,20AI,20EI,20AU,20OU"),
    (0x3122, "20AN,20EN,20ANG,20ENG,20ER,20I,20U,20IU,20V,20NG,20GN,20IH"),
    (0x312e, "20O WITH DOT ABOVE,20NN"),
    (0x3131, "00HANGUL LETTER KIYEOK,20SSANGKIYEOK,20KIYEOK-SIOS,20NIEUN"),
    (0x3135, "20NIEUN-CIEUC,20NIEUN-HIEUH,20TIKEUT,20SSANGTIKEUT,20RIEUL"),
    (0x313a, "20RIEUL-KIYEOK,20RIEUL-MIEUM,20RIEUL-PIEUP,20RIEUL-SIOS,20RIEUL-THIEUTH"),
    (0x313f, "20RIEUL-PHIEUPH,20RIEUL-HIEUH,20MIEUM,20PIEUP,20SSANGPIEUP,20PIEUP-SIOS"),
    (0x3145, "20SIOS,20SSANGSIOS,20IEUNG,20CIEUC,20SSANGCIEUC,20CHIEUCH,20KHIEUKH"),
    (0x314c, "20THIEUTH,20PHIEUPH,20HIEUH,20A,20AE,20YA,20YAE,20EO,20E,20YEO,20YE,20O"),
    (0x3158, "20WA,20WAE,20OE,20YO,20U,20WEO,20WE,20WI,20YU,20EU,20YI,20I,10FILLER"),
    (0x3165, "10LETTER SSANGNIEUN,20NIEUN-TIKEUT,20NIEUN-SIOS,20NIEUN-PANSIOS"),
    (0x3169, "20RIEUL-KIYEOK-SIOS,20RIEUL-TIKEUT,20RIEUL-PIEUP-SIOS,20RIEUL-PANSIOS"),
    (0x316d, "20RIEUL-YEORINHIEUH,20MIEUM-PIEUP,20MIEUM-SIOS,20MIEUM-PANSIOS"),
    (0x3171, "20KAPYEOUNMIEUM,20PIEUP-KIYEOK,20PIEUP-TIKEUT,20PIEUP-SIOS-KIYEOK"),
    (0x3175, "20PIEUP-SIOS-TIKEUT,20PIEUP-CIEUC,20PIEUP-THIEUTH,20KAPYEOUNPIEUP"),
    (0x3179, "20KAPYEOUNSSANGPIEUP,20SIOS-KIYEOK,20SIOS-NIEUN,20SIOS-TIKEUT"),
    (0x317d, "20SIOS-PIEUP,20SIOS-CIEUC,20PANSIOS,20SSANGIEUNG,20YESIEUNG"),
    (0x3182, "20YESIEUNG-SIOS,20YESIEUNG-PANSIOS,20KAPYEOUNPHIEUPH,20SSANGHIEUH"),
    (0x3186, "20YEORINHIEUH,20YO-YA,20YO-YAE,20YO-I,20YU-YEO,20YU-YE,20YU-I,20ARAEA"),
    (0x318e, "20ARAEAE"),
    (0x3190, "00IDEOGRAPHIC ANNOTATION LINKING MARK,21REVERSE,21ONE,21TWO,21THREE"),
    (0x3195, "21FOUR,21TOP,21MIDDLE,21BOTTOM,21FIRST,21SECOND,21THIRD,21FOURTH"),
    (0x319d, "21HEAVEN,21EARTH,21MAN,00BOPOMOFO LETTER BU,20ZI,20JI,20GU,20EE,20ENN"),
    (0x31a6, "20OO,20ONN,20IR,20ANN,20INN,20UNN,20IM,20NGG,20AINN,20AUNN,20AM,20OM"),
    (0x31b2, "20ONG,20INNN,10FINAL LETTER P,30T,30K,30H,10LETTER GH,20LH,20ZY"),
    (0x31bb, "10FINAL LETTER G,10LETTER GW,20KW,20OE,20AH"),
    (0x31f0, "00KATAKANA LETTER SMALL KU,30SI,30SU,30TO,30NU,30HA,30HI,30HU,30HE,30HO"),
    (0x31fa, "30MU,30RA,30RI,30RU,30RE,30RO,00PARENTHESIZED HANGUL KIYEOK,20NIEUN"),
    (0x3202, "20TIKEUT,20RIEUL,20MIEUM,20PIEUP,20SIOS,20IEUNG,20CIEUC,20CHIEUCH"),
    (0x320a, "20KHIEUKH,20THIEUTH,20PHIEUPH,20HIEUH,20KIYEOK A,21NIEUN,21TIKEUT"),
    (0x3211, "21RIEUL,21MIEUM,21PIEUP,21SIOS,21IEUNG,21CIEUC,21CHIEUCH,21KHIEUKH"),
    (0x3219, "21THIEUTH,21PHIEUPH,21HIEUH,20CIEUC U,10KOREAN CHARACTER OJEON,30O HU"),
    (0x3220, "10IDEOGRAPH ONE,20TWO,20THREE,20FOUR,20FIVE,20SIX,20SEVEN,20EIGHT"),
    (0x3228, "20NINE,20TEN,20MOON,20FIRE,20WATER,20WOOD,20METAL,20EARTH,20SUN,20STOCK"),
    (0x3232, "20HAVE,20SOCIETY,20NAME,20SPECIAL,20FINANCIAL,20CONGRATULATION,20LABOR"),
    (0x3239, "20REPRESENT,20CALL,20STUDY,20SUPERVISE,20ENTERPRISE,20RESOURCE"),
    (0x323f, "20ALLIANCE,20FESTIVAL,20REST,20SELF,20REACH"),
    (0x3244, "00CIRCLED IDEOGRAPH QUESTION,20KINDERGARTEN,20SCHOOL,20KOTO"),
    (0x3248, "10NUMBER TEN ON BLACK SQUARE,23TWENTY,23THIRTY,23FORTY,23FIFTY,23SIXTY"),
    (0x324e, "23SEVENTY,23EIGHTY,00PARTNERSHIP SIGN,00CIRCLED NUMBER TWENTY ONE,30TWO"),
    (0x3253, "30THREE,30FOUR,30FIVE,30SIX,30SEVEN,30EIGHT,30NINE,20THIRTY,30ONE,30TWO"),
    (0x325d, "30THREE,30FOUR,30FIVE,10HANGUL KIYEOK,20NIEUN,20TIKEUT,20RIEUL,20MIEUM"),
    (0x3265, "20PIEUP,20SIOS,20IEUNG,20CIEUC,20CHIEUCH,20KHIEUKH,20THIEUTH,20PHIEUPH"),
    (0x326d, "20HIEUH,20KIYEOK A,21NIEUN,21TIKEUT,21RIEUL,21MIEUM,21PIEUP,21SIOS"),
    (0x3275, "21IEUNG,21CIEUC,21CHIEUCH,21KHIEUKH,21THIEUTH,21PHIEUPH,21HIEUH"),
    (0x327c, "10KOREAN CHARACTER CHAMKO,30JUEUI,10HANGUL IEUNG U"),
    (0x327f, "00KOREAN STANDARD SYMBOL,00CIRCLED IDEOGRAPH ONE,20TWO,20THREE,20FOUR"),
    (0x3284, "20FIVE,20SIX,20SEVEN,20EIGHT,20NINE,20TEN,20MOON,20FIRE,20WATER,20WOOD"),
    (0x328e, "20METAL,20EARTH,20SUN,20STOCK,20HAVE,20SOCIETY,20NAME,20SPECIAL"),
    (0x3296, "20FINANCIAL,20CONGRATULATION,20LABOR,20SECRET,20MALE,20FEMALE"),
    (0x329c, "20SUITABLE,20EXCELLENT,20PRINT,20ATTENTION,20ITEM,20REST,20COPY"),
    (0x32a3, "20CORRECT,20HIGH,20CENTRE,20LOW,20LEFT,20RIGHT,20MEDICINE,20RELIGION"),
    (0x32ab, "20STUDY,20SUPERVISE,20ENTERPRISE,20RESOURCE,20ALLIANCE,20NIGHT"),
    (0x32b1, "10NUMBER THIRTY SIX,30SEVEN,30EIGHT,30NINE,20FORTY,30ONE,30TWO,30THREE"),
    (0x32b9, "30FOUR,30FIVE,30SIX,30SEVEN,30EIGHT,30NINE,20FIFTY"),
    (0x32c0, "00IDEOGRAPHIC TELEGRAPH SYMBOL FOR JANUARY,40FEBRUARY,40MARCH,40APRIL"),
    (0x32c4, "40MAY,40JUNE,40JULY,40AUGUST,40SEPTEMBER,40OCTOBER,40NOVEMBER"),
    (0x32cb, "40DECEMBER,00SQUARE HG,10ERG,10EV,00LIMITED LIABILITY SIGN"),
    (0x32d0, "00CIRCLED KATAKANA A,20I,20U,20E,20O,20KA,20KI,20KU,20KE,20KO,20SA,20SI"),
    (0x32dc, "20SU,20SE,20SO,20TA,20TI,20TU,20TE,20TO,20NA,20NI,20NU,20NE,20NO,20HA"),
    (0x32ea, "20HI,20HU,20HE,20HO,20MA,20MI,20MU,20ME,20MO,20YA,20YU,20YO,20RA,20RI"),
    (0x32f8, "20RU,20RE,20RO,20WA,20WI,20WE,20WO,00SQUARE ERA NAME REIWA,10APAATO"),
    (0x3301, "10ARUHUA,10ANPEA,10AARU,10ININGU,10INTI,10UON,10ESUKUUDO,10EEKAA,10ONSU"),
    (0x330a, "10OOMU,10KAIRI,10KARATTO,10KARORII,10GARON,10GANMA,10GIGA,10GINII"),
    (0x3312, "10KYURII,10GIRUDAA,10KIRO,10KIROGURAMU,10KIROMEETORU,10KIROWATTO"),
    (0x3318, "10GURAMU,10GURAMUTON,10KURUZEIRO,10KUROONE,10KEESU,10KORUNA,10KOOPO"),
    (0x331f, "10SAIKURU,10SANTIIMU,10SIRINGU,10SENTI,10SENTO,10DAASU,10DESI,10DORU"),
    (0x3327, "10TON,10NANO,10NOTTO,10HAITU,10PAASENTO,10PAATU,10BAARERU,10PIASUTORU"),
    (0x332f, "10PIKURU,10PIKO,10BIRU,10HUARADDO,10HUIITO,10BUSSYERU,10HURAN"),
    (0x3336, "10HEKUTAARU,10PESO,10PENIHI,10HERUTU,10PENSU,10PEEZI,10BEETA,10POINTO"),
    (0x333e, "10BORUTO,10HON,10PONDO,10HOORU,10HOON,10MAIKURO,10MAIRU,10MAHHA"),
    (0x3346, "10MARUKU,10MANSYON,10MIKURON,10MIRI,10MIRIBAARU,10MEGA,10MEGATON"),
    (0x334d, "10MEETORU,10YAADO,10YAARU,10YUAN,10RITTORU,10RIRA,10RUPII,10RUUBURU"),
    (0x3355, "10REMU,10RENTOGEN,10WATTO,00IDEOGRAPHIC TELEGRAPH SYMBOL FOR HOUR ZERO"),
    (0x3359, "50ONE,50TWO,50THREE,50FOUR,50FIVE,50SIX,50SEVEN,50EIGHT,50NINE,50TEN"),
    (0x3363, "50ELEVEN,50TWELVE,50THIRTEEN,50FOURTEEN,50FIFTEEN,50SIXTEEN,50SEVENTEEN"),
    (0x336a, "50EIGHTEEN,50NINETEEN,50TWENTY,50TWENTY-ONE,50TWENTY-TWO,50TWENTY-THREE"),
    (0x3370, "50TWENTY-FOUR,00SQUARE HPA,10DA,10AU,10BAR,10OV,10PC,10DM,20SQUARED"),
    (0x3379, "20CUBED,10IU,10ERA NAME HEISEI,30SYOUWA,30TAISYOU,30MEIZI,10CORPORATION"),
    (0x3380, "10PA AMPS,10NA,10MU A,10MA,10KA,10KB,10MB,10GB,10CAL,10KCAL,10PF,10NF"),
    (0x338c, "10MU F,20G,10MG,10KG,10HZ,10KHZ,10MHZ,10GHZ,10THZ,10MU L,10ML,10DL,10KL"),
    (0x3399, "10FM,10NM,10MU M,10MM,10CM,10KM,10MM SQUARED,11CM,11M,11KM,10MM CUBED"),
    (0x33a4, "11CM,11M,11KM,10M OVER S,40SQUARED,10PA,10KPA,10MPA,10GPA,10RAD"),
    (0x33ae, "20OVER S,40SQUARED,10PS,10NS,10MU S,10MS,10PV,10NV,10MU V,10MV,10KV"),
    (0x33b9, "10MV MEGA,10PW,10NW,10MU W,10MW,10KW,10MW MEGA,10K OHM,11M,10AM,10BQ"),
    (0x33c4, "10CC,10CD,10C OVER KG,10CO,10DB,10GY,10HA,10HP,10IN,10KK,10KM CAPITAL"),
    (0x33cf, "10KT,10LM,10LN,10LOG,10LX,10MB SMALL,10MIL,10MOL,10PH,10PM,10PPM,10PR"),
    (0x33db, "10SR,10SV,10WB,10V OVER M,12A"),
    (0x33e0, "00IDEOGRAPHIC TELEGRAPH SYMBOL FOR DAY ONE,50TWO,50THREE,50FOUR,50FIVE"),
    (0x33e5, "50SIX,50SEVEN,50EIGHT,50NINE,50TEN,50ELEVEN,50TWELVE,50THIRTEEN"),
    (0x33ed, "50FOURTEEN,50FIFTEEN,50SIXTEEN,50SEVENTEEN,50EIGHTEEN,50NINETEEN"),
    (0x33f3, "50TWENTY,50TWENTY-ONE,50TWENTY-TWO,50TWENTY-THREE,50TWENTY-FOUR"),
    (0x33f8, "50TWENTY-FIVE,50TWENTY-SIX,50TWENTY-SEVEN,50TWENTY-EIGHT,50TWENTY-NINE"),
    (0x33fd, "50THIRTY,50THIRTY-ONE,00SQUARE GAL"),
    (0x4dc0, "00HEXAGRAM FOR THE CREATIVE HEAVEN,30RECEPTIVE EARTH"),
    (0x4dc2, "20DIFFICULTY AT THE BEGINNING,20YOUTHFUL FOLLY,20WAITING,20CONFLICT"),
    (0x4dc6, "20THE ARMY,20HOLDING TOGETHER,20SMALL TAMING,20TREADING,20PEACE"),
    (0x4dcb, "20STANDSTILL,20FELLOWSHIP,20GREAT POSSESSION,20MODESTY,20ENTHUSIASM"),
    (0x4dd0, "20FOLLOWING,20WORK ON THE DECAYED,20APPROACH,20CONTEMPLATION"),
    (0x4dd4, "20BITING THROUGH,20GRACE,20SPLITTING APART,20RETURN,20INNOCENCE"),
    (0x4dd9, "20GREAT TAMING,20MOUTH CORNERS,20GREAT PREPONDERANCE"),
    (0x4ddc, "20THE ABYSMAL WATER,30CLINGING FIRE,20INFLUENCE,20DURATION,20RETREAT"),
    (0x4de1, "20GREAT POWER,20PROGRESS,20DARKENING OF THE LIGHT,20THE FAMILY"),
    (0x4de5, "20OPPOSITION,20OBSTRUCTION,20DELIVERANCE,20DECREASE,20INCREASE"),
    (0x4dea, "20BREAKTHROUGH,20COMING TO MEET,20GATHERING TOGETHER,20PUSHING UPWARD"),
    (0x4dee, "20OPPRESSION,20THE WELL,20REVOLUTION,20THE CAULDRON,30AROUSING THUNDER"),
    (0x4df3, "30KEEPING STILL MOUNTAIN,20DEVELOPMENT,20THE MARRYING MAIDEN"),
    (0x4df6, "20ABUNDANCE,20THE WANDERER,30GENTLE WIND,30JOYOUS LAKE,20DISPERSION"),
    (0x4dfb, "20LIMITATION,20INNER TRUTH,20SMALL PREPONDERANCE,20AFTER COMPLETION"),
    (0x4dff, "21BEFORE")]

end Text
end KindExpr
