/-!
# Names of letters of ancient scripts

The names of the characters of scripts that are read by scholars, and of
those that were added with them.

Each entry is the first code point of a run and the names of the run, packed as
`unpackName` reads them.
-/

namespace KindExpr
namespace Text

/-- The packed names of Linear A and B and of the alphabets of antiquity. -/
def linearNames : List (Nat × String) :=
  [
    (0x10000, "00LINEAR B SYLLABLE B008 A,30B038 E,30B028 I,30B061 O,30B010 U"),
    (0x10005, "30B001 DA,30B045 DE,30B007 DI,30B014 DO,30B051 DU,30B057 JA,30B046 JE"),
    (0x1000d, "30B036 JO,30B065 JU,30B077 KA,30B044 KE,30B067 KI,30B070 KO,30B081 KU"),
    (0x10014, "30B080 MA,30B013 ME,30B073 MI,30B015 MO,30B023 MU,30B006 NA,30B024 NE"),
    (0x1001b, "30B030 NI,30B052 NO,30B055 NU,30B003 PA,30B072 PE,30B039 PI,30B011 PO"),
    (0x10022, "30B050 PU,30B016 QA,30B078 QE,30B021 QI,30B032 QO"),
    (0x10028, "30B060 RA,30B027 RE,30B053 RI,30B002 RO,30B026 RU,30B031 SA,30B009 SE"),
    (0x1002f, "30B041 SI,30B012 SO,30B058 SU,30B059 TA,30B004 TE,30B037 TI,30B005 TO"),
    (0x10036, "30B069 TU,30B054 WA,30B075 WE,30B040 WI,30B042 WO"),
    (0x1003c, "30B017 ZA,30B074 ZE"),
    (0x1003f, "30B020 ZO,30B025 A2,30B043 A3,30B085 AU,30B071 DWE,30B090 DWO"),
    (0x10045, "30B048 NWA,30B029 PU2,30B062 PTE,30B076 RA2,30B033 RA3,30B068 RO2"),
    (0x1004b, "30B066 TA2,30B087 TWE,30B091 TWO"),
    (0x10050, "20SYMBOL B018,30B019,30B022,30B034,30B047,30B049,30B056,30B063,30B064"),
    (0x10059, "30B079,30B082,30B083,30B086,30B089"),
    (0x10080, "20IDEOGRAM B100 MAN,30B102 WOMAN,30B104 DEER,30B105 EQUID,30B105F MARE"),
    (0x10085, "30B105M STALLION,30B106F EWE,30B106M RAM,30B107F SHE-GOAT"),
    (0x10089, "30B107M HE-GOAT,30B108F SOW,30B108M BOAR,30B109F COW,30B109M BULL"),
    (0x1008e, "30B120 WHEAT,30B121 BARLEY,30B122 OLIVE,30B123 SPICE,30B125 CYPERUS"),
    (0x10093, "20MONOGRAM B127 KAPO,30B128 KANAKO,20IDEOGRAM B130 OIL,30B131 WINE"),
    (0x10097, "30B132,20MONOGRAM B133 AREPA,30B135 MERI,20IDEOGRAM B140 BRONZE"),
    (0x1009b, "30B141 GOLD,30B142,30B145 WOOL,30B146,30B150,30B151 HORN,30B152,30B153"),
    (0x100a3, "30B154,20MONOGRAM B156 TURO2,20IDEOGRAM B157,30B158,30B159 CLOTH"),
    (0x100a8, "30B160,30B161,30B162 GARMENT,30B163 ARMOUR,30B164,30B165,30B166,30B167"),
    (0x100b0, "30B168,30B169,30B170,30B171,30B172,30B173 MONTH,30B174,30B176 TREE"),
    (0x100b8, "30B177,30B178,30B179,30B180,30B181,30B182,30B183,30B184,30B185,30B189"),
    (0x100c2, "30B190,30B191 HELMET,30B220 FOOTSTOOL,30B225 BATHTUB,30B230 SPEAR"),
    (0x100c7, "30B231 ARROW,30B232,30B233 SWORD,30B234,30B236,30B240 WHEELED CHARIOT"),
    (0x100cd, "31B241,30B242 CHARIOT FRAME,30B243 WHEEL,30B245,30B246"),
    (0x100d2, "20MONOGRAM B247 DIPTE,20IDEOGRAM B248,30B249,30B251,30B252,30B253"),
    (0x100d8, "30B254 DART,30B255,30B256,30B257,30B258,30B259,30VESSEL B155,40B200"),
    (0x100e0, "40B201,40B202,40B203,40B204,40B205,40B206,40B207,40B208,40B209,40B210"),
    (0x100ea, "40B211,40B212,40B213,40B214,40B215,40B216,40B217,40B218,40B219,40B221"),
    (0x100f4, "40B222,40B226,40B227,40B228,40B229,40B250,40B305"),
    (0x10100, "00AEGEAN WORD SEPARATOR LINE,30DOT,10CHECK MARK"),
    (0x10107, "10NUMBER ONE,20TWO,20THREE,20FOUR,20FIVE,20SIX,20SEVEN,20EIGHT,20NINE"),
    (0x10110, "20TEN,20TWENTY,20THIRTY,20FORTY,20FIFTY,20SIXTY,20SEVENTY,20EIGHTY"),
    (0x10118, "20NINETY,20ONE HUNDRED,21TWO,21THREE,21FOUR,21FIVE,21SIX,21SEVEN"),
    (0x10120, "21EIGHT,21NINE,20ONE THOUSAND,21TWO,21THREE,21FOUR,21FIVE,21SIX"),
    (0x10128, "21SEVEN,21EIGHT,21NINE,21TEN,21TWENTY,21THIRTY,21FORTY,21FIFTY,21SIXTY"),
    (0x10131, "21SEVENTY,21EIGHTY,21NINETY"),
    (0x10137, "10WEIGHT BASE UNIT,20FIRST SUBUNIT,21SECOND,21THIRD,21FOURTH"),
    (0x1013c, "11DRY MEASURE FIRST,13LIQUID,11MEASURE SECOND,21THIRD"),
    (0x10140, "00GREEK ACROPHONIC ATTIC ONE QUARTER,40HALF,40DRACHMA,30FIVE,30FIFTY"),
    (0x10145, "30FIVE HUNDRED,40THOUSAND,31FIFTY,30FIVE TALENTS,31TEN,31FIFTY"),
    (0x1014b, "31ONE HUNDRED,32FIVE,31ONE THOUSAND,32FIVE,40STATERS,31TEN,31FIFTY"),
    (0x10152, "31ONE HUNDRED,32FIVE,31ONE THOUSAND,32TEN,32FIFTY,30TEN MNAS"),
    (0x10158, "20HERAEUM ONE PLETHRON,20THESPIAN ONE,21HERMIONIAN,20EPIDAUREAN TWO"),
    (0x1015c, "21THESPIAN,20CYRENAIC TWO DRACHMAS,22EPIDAUREAN,20TROEZENIAN FIVE"),
    (0x10160, "30TEN,40ALTERNATE FORM,20HERMIONIAN TEN,21MESSENIAN,21THESPIAN"),
    (0x10165, "30THIRTY,20TROEZENIAN FIFTY,40ALTERNATE FORM,20HERMIONIAN FIFTY"),
    (0x10169, "21THESPIAN,30ONE HUNDRED,31THREE,21EPIDAUREAN FIVE,22TROEZENIAN"),
    (0x1016e, "22THESPIAN,22CARYSTIAN,22NAXIAN,20THESPIAN ONE THOUSAND,31FIVE"),
    (0x10173, "20DELPHIC FIVE MNAS,21STRATIAN FIFTY,10ONE HALF SIGN,40ALTERNATE FORM"),
    (0x10177, "10TWO THIRDS SIGN,11THREE QUARTERS,11YEAR,11TALENT,11DRACHMA,11OBOL"),
    (0x1017d, "11TWO OBOLS,12THREE,12FOUR,12FIVE,11METRETES,11KYATHOS BASE,11LITRA"),
    (0x10184, "11OUNKIA,11XESTES,11ARTABE,11AROURA,11GRAMMA,11TRYBLION BASE,11ZERO"),
    (0x1018b, "11ONE QUARTER,11SINUSOID,11INDICTION,01NOMISMA"),
    (0x10190, "01ROMAN SEXTANS,11UNCIA,11SEMUNCIA,11SEXTULA,12DIMIDIA,11SILIQUA"),
    (0x10196, "11DENARIUS,11QUINARIUS,11SESTERTIUS,11DUPONDIUS,11AS,11CENTURIAL"),
    (0x1019c, "00ASCIA SYMBOL"),
    (0x101a0, "00GREEK SYMBOL TAU RHO"),
    (0x101d0, "00PHAISTOS DISC SIGN PEDESTRIAN,30PLUMED HEAD,31TATTOOED,30CAPTIVE"),
    (0x101d4, "30CHILD,30WOMAN,30HELMET,30GAUNTLET,30TIARA,30ARROW,30BOW,30SHIELD"),
    (0x101dc, "30CLUB,30MANACLES,30MATTOCK,30SAW,30LID,30BOOMERANG,30CARPENTRY PLANE"),
    (0x101e3, "30DOLIUM,30COMB,30SLING,30COLUMN,30BEEHIVE,30SHIP,30HORN,30HIDE"),
    (0x101eb, "30BULLS LEG,30CAT,30RAM,30EAGLE,30DOVE,30TUNNY,30BEE,30PLANE TREE"),
    (0x101f3, "30VINE,30PAPYRUS,30ROSETTE,30LILY,30OX BACK,30FLUTE,30GRATER"),
    (0x101fa, "30STRAINER,30SMALL AXE,30WAVY BAND,30COMBINING OBLIQUE STROKE"),
    (0x10280, "00LYCIAN LETTER A,20E,20B,20BH,20G,20D,20I,20W,20Z,20TH,20J,20K,20Q"),
    (0x1028d, "20L,20M,20N,20MM,20NN,20U,20P,20KK,20R,20S,20T,20TT,20AN,20EN,20H,20X"),
    (0x102a0, "00CARIAN LETTER A,20P2,20D,20L,20UUU,20R,20LD,20A2,20Q,20B,20M,20O"),
    (0x102ac, "20D2,20T,20SH,20SH2,20S,20C-18,20U,20NN,20X,20N,20TT2,20P,20SS,20I,20E"),
    (0x102bb, "20UUUU,20K,20K2,20ND,20UU,20G,20G2,20ST,20ST2,20NG,20II,20C-39,20TT"),
    (0x102c8, "20UUU2,20RR,20MB,20MB2,20MB3,20MB4,20LD2,20E2,20UUU3"),
    (0x102e0, "00COPTIC EPACT THOUSANDS MARK,20DIGIT ONE,30TWO,30THREE,30FOUR,30FIVE"),
    (0x102e6, "30SIX,30SEVEN,30EIGHT,30NINE,20NUMBER TEN,30TWENTY,30THIRTY,30FORTY"),
    (0x102ee, "30FIFTY,30SIXTY,30SEVENTY,30EIGHTY,30NINETY,30ONE HUNDRED,31TWO"),
    (0x102f5, "31THREE,31FOUR,31FIVE,31SIX,31SEVEN,31EIGHT,31NINE"),
    (0x10300, "00OLD ITALIC LETTER A,30BE,30KE,30DE,30E,30VE,30ZE,30HE,30THE,30I,30KA"),
    (0x1030b, "30EL,30EM,30EN,30ESH,30O,30PE,30SHE,30KU,30ER,30ES,30TE,30U,30EKS"),
    (0x10318, "30PHE,30KHE,30EF,30ERS,30CHE,30II,30UU,30ESS,20NUMERAL ONE,30FIVE"),
    (0x10322, "30TEN,30FIFTY"),
    (0x1032d, "20LETTER YE,30NORTHERN TSE,31SOUTHERN,00GOTHIC LETTER AHSA,20BAIRKAN"),
    (0x10332, "20GIBA,20DAGS,20AIHVUS,20QAIRTHRA,20IUJA,20HAGL,20THIUTH,20EIS,20KUSMA"),
    (0x1033b, "20LAGUS,20MANNA,20NAUTHS,20JER,20URUS,20PAIRTHRA,20NINETY,20RAIDA"),
    (0x10343, "20SAUIL,20TEIWS,20WINJA,20FAIHU,20IGGWS,20HWAIR,20OTHAL,20NINE HUNDRED"),
    (0x10350, "00OLD PERMIC LETTER AN,30BUR,30GAI,30DOI,30E,30ZHOI,30DZHOI,30ZATA"),
    (0x10358, "30DZITA,30I,30KOKE,30LEI,30MENOE,30NENOE,30VOOI,30PEEI,30REI,30SII"),
    (0x10362, "30TAI,30U,30CHERY,30SHOOI,30SHCHOOI,30YRY,30YERU,30O,30OO,30EF,30HA"),
    (0x1036d, "30TSIU,30VER,30YER,30YERI,30YAT,30IE,30YU,30YA,30IA"),
    (0x10376, "00COMBINING OLD PERMIC LETTER AN,40DOI,40ZATA,40NENOE,40SII"),
    (0x10380, "00UGARITIC LETTER ALPA,20BETA,20GAMLA,20KHA,20DELTA,20HO,20WO,20ZETA"),
    (0x10388, "20HOTA,20TET,20YOD,20KAF,20SHIN,20LAMDA,20MEM,20DHAL,20NUN,20ZU"),
    (0x10392, "20SAMKA,20AIN,20PU,20SADE,20QOPA,20RASHA,20THANNA,20GHAIN,20TO,20I,20U"),
    (0x1039d, "20SSU"),
    (0x1039f, "10WORD DIVIDER,00OLD PERSIAN SIGN A,30I,30U,30KA,30KU,30GA,30GU,30XA"),
    (0x103a8, "30CA,30JA,30JI,30TA,30TU,30DA,30DI,30DU,30THA,30PA,30BA,30FA,30NA,30NU"),
    (0x103b6, "30MA,30MI,30MU,30YA,30VA,30VI,30RA,30RU,30LA,30SA,30ZA,30SHA,30SSA"),
    (0x103c3, "30HA"),
    (0x103c8, "30AURAMAZDAA,30AURAMAZDAA-2,30AURAMAZDAAHA,30XSHAAYATHIYA,30DAHYAAUSH"),
    (0x103cd, "30DAHYAAUSH-2,30BAGA,30BUUMISH,20WORD DIVIDER,20NUMBER ONE,30TWO,30TEN"),
    (0x103d4, "30TWENTY,30HUNDRED"),
    (0x10400, "00DESERET CAPITAL LETTER LONG I,40E,40A,40AH,40O,40OO,30SHORT I,40E"),
    (0x10408, "40A,40AH,40O,40OO,30AY,30OW,30WU,30YEE,30H,30PEE,30BEE,30TEE,30DEE"),
    (0x10415, "30CHEE,30JEE,30KAY,30GAY,30EF,30VEE,30ETH,30THEE,30ES,30ZEE,30ESH"),
    (0x10420, "30ZHEE,30ER,30EL,30EM,30EN,30ENG,30OI,30EW,10SMALL LETTER LONG I,40E"),
    (0x1042a, "40A,40AH,40O,40OO,30SHORT I,40E,40A,40AH,40O,40OO,30AY,30OW,30WU,30YEE"),
    (0x10438, "30H,30PEE,30BEE,30TEE,30DEE,30CHEE,30JEE,30KAY,30GAY,30EF,30VEE,30ETH"),
    (0x10444, "30THEE,30ES,30ZEE,30ESH,30ZHEE,30ER,30EL,30EM,30EN,30ENG,30OI,30EW"),
    (0x10450, "00SHAVIAN LETTER PEEP,20TOT,20KICK,20FEE,20THIGH,20SO,20SURE,20CHURCH"),
    (0x10458, "20YEA,20HUNG,20BIB,20DEAD,20GAG,20VOW,20THEY,20ZOO,20MEASURE,20JUDGE"),
    (0x10462, "20WOE,20HA-HA,20LOLL,20MIME,20IF,20EGG,20ASH,20ADO,20ON,20WOOL,20OUT"),
    (0x1046d, "20AH,20ROAR,20NUN,20EAT,20AGE,20ICE,20UP,20OAK,20OOZE,20OIL,20AWE"),
    (0x10478, "20ARE,20OR,20AIR,20ERR,20ARRAY,20EAR,20IAN,20YEW,00OSMANYA LETTER ALEF"),
    (0x10481, "20BA,20TA,20JA,20XA,20KHA,20DEEL,20RA,20SA,20SHIIN,20DHA,20CAYN,20GA"),
    (0x1048d, "20FA,20QAAF,20KAAF,20LAAN,20MIIN,20NUUN,20WAW,20HA,20YA,20A,20E,20I"),
    (0x10499, "20O,20U,20AA,20EE,20OO"),
    (0x104a0, "10DIGIT ZERO,20ONE,20TWO,20THREE,20FOUR,20FIVE,20SIX,20SEVEN,20EIGHT"),
    (0x104a9, "20NINE"),
    (0x104b0, "00OSAGE CAPITAL LETTER A,30AI,30AIN,30AH,30BRA,30CHA,30EHCHA,30E,30EIN"),
    (0x104b9, "30HA,30HYA,30I,30KA,30EHKA,30KYA,30LA,30MA,30NA,30O,30OIN,30PA,30EHPA"),
    (0x104c6, "30SA,30SHA,30TA,30EHTA,30TSA,30EHTSA,30TSHA,30DHA,30U,30WA,30KHA,30GHA"),
    (0x104d2, "30ZA,30ZHA"),
    (0x104d8, "10SMALL LETTER A,30AI,30AIN,30AH,30BRA,30CHA,30EHCHA,30E,30EIN,30HA"),
    (0x104e2, "30HYA,30I,30KA,30EHKA,30KYA,30LA,30MA,30NA,30O,30OIN,30PA,30EHPA,30SA"),
    (0x104ef, "30SHA,30TA,30EHTA,30TSA,30EHTSA,30TSHA,30DHA,30U,30WA,30KHA,30GHA,30ZA"),
    (0x104fb, "30ZHA"),
    (0x10500, "00ELBASAN LETTER A,20BE,20CE,20CHE,20DE,20NDE,20DHE,20EI,20E,20FE,20GE"),
    (0x1050b, "20GJE,20HE,20I,20JE,20KE,20LE,20LLE,20ME,20NE,20NA,20NJE,20O,20PE,20QE"),
    (0x10519, "20RE,20RRE,20SE,20SHE,20TE,20THE,20U,20VE,20XE,20Y,20ZE,20ZHE,20GHE"),
    (0x10526, "20GHAMMA,20KHE"),
    (0x10530, "00CAUCASIAN ALBANIAN LETTER ALT,30BET,30GIM,30DAT,30EB,30ZARL,30EYN"),
    (0x10537, "30ZHIL,30TAS,30CHA,30YOWD,30ZHA,30IRB,30SHA,30LAN,30INYA,30XEYN,30DYAN"),
    (0x10542, "30CAR,30JHOX,30KAR,30LYIT,30HEYT,30QAY,30AOR,30CHOY,30CHI,30CYAY,30MAQ"),
    (0x1054d, "30QAR,30NOWC,30DZYAY,30SHAK,30JAYN,30ON,30TYAY,30FAM,30DZAY,30CHAT"),
    (0x10557, "30PEN,30GHEYS,30RAT,30SEYK,30VEYZ,30TIWR,30SHOY,30IWN,30CYAW,30CAYN"),
    (0x10561, "30YAYD,30PIWR,30KIW"),
    (0x1056f, "20CITATION MARK,00VITHKUQI CAPITAL LETTER A,30BBE,30BE,30CE,30CHE,30DE"),
    (0x10576, "30DHE,30EI,30E,30FE,30GA"),
    (0x1057c, "30HA,30HHA,30I,30IJE,30JE,30KA,30LA,30LLA,30ME,30NE,30NJE,30O,30PE"),
    (0x10589, "30QA,30RE"),
    (0x1058c, "30SE,30SHE,30TE,30THE,30U,30VE,30XE"),
    (0x10594, "30Y,30ZE"),
    (0x10597, "10SMALL LETTER A,30BBE,30BE,30CE,30CHE,30DE,30DHE,30EI,30E,30FE,30GA"),
    (0x105a3, "30HA,30HHA,30I,30IJE,30JE,30KA,30LA,30LLA,30ME,30NE,30NJE,30O,30PE"),
    (0x105b0, "30QA,30RE"),
    (0x105b3, "30SE,30SHE,30TE,30THE,30U,30VE,30XE"),
    (0x105bb, "30Y,30ZE"),
    (0x10600, "00LINEAR A SIGN AB001,30AB002,30AB003,30AB004,30AB005,30AB006,30AB007"),
    (0x10607, "30AB008,30AB009,30AB010,30AB011,30AB013,30AB016,30AB017,30AB020"),
    (0x1060f, "30AB021,30AB021F,30AB021M,30AB022,30AB022F,30AB022M,30AB023,30AB023M"),
    (0x10617, "30AB024,30AB026,30AB027,30AB028,30A028B,30AB029,30AB030,30AB031"),
    (0x1061f, "30AB034,30AB037,30AB038,30AB039,30AB040,30AB041,30AB044,30AB045"),
    (0x10627, "30AB046,30AB047,30AB048,30AB049,30AB050,30AB051,30AB053,30AB054"),
    (0x1062f, "30AB055,30AB056,30AB057,30AB058,30AB059,30AB060,30AB061,30AB065"),
    (0x10637, "30AB066,30AB067,30AB069,30AB070,30AB073,30AB074,30AB076,30AB077"),
    (0x1063f, "30AB078,30AB079,30AB080,30AB081,30AB082,30AB085,30AB086,30AB087"),
    (0x10647, "30A100-102,30AB118,30AB120,30A120B,30AB122,30AB123,30AB131A,30AB131B"),
    (0x1064f, "30A131C,30AB164,30AB171,30AB180,30AB188,30AB191,30A301,30A302,30A303"),
    (0x10658, "30A304,30A305,30A306,30A307,30A308,30A309A,30A309B,30A309C,30A310"),
    (0x10661, "30A311,30A312,30A313A,30A313B,30A313C,30A314,30A315,30A316,30A317"),
    (0x1066a, "30A318,30A319,30A320,30A321,30A322,30A323,30A324,30A325,30A326,30A327"),
    (0x10674, "30A328,30A329,30A330,30A331,30A332,30A333,30A334,30A335,30A336,30A337"),
    (0x1067e, "30A338,30A339,30A340,30A341,30A342,30A343,30A344,30A345,30A346,30A347"),
    (0x10688, "30A348,30A349,30A350,30A351,30A352,30A353,30A354,30A355,30A356,30A357"),
    (0x10692, "30A358,30A359,30A360,30A361,30A362,30A363,30A364,30A365,30A366,30A367"),
    (0x1069c, "30A368,30A369,30A370,30A371,30A400-VAS,30A401-VAS,30A402-VAS"),
    (0x106a3, "30A403-VAS,30A404-VAS,30A405-VAS,30A406-VAS,30A407-VAS,30A408-VAS"),
    (0x106a9, "30A409-VAS,30A410-VAS,30A411-VAS,30A412-VAS,30A413-VAS,30A414-VAS"),
    (0x106af, "30A415-VAS,30A416-VAS,30A417-VAS,30A418-VAS,30A501,30A502,30A503"),
    (0x106b6, "30A504,30A505,30A506,30A508,30A509,30A510,30A511,30A512,30A513,30A515"),
    (0x106c0, "30A516,30A520,30A521,30A523,30A524,30A525,30A526,30A527,30A528,30A529"),
    (0x106ca, "30A530,30A531,30A532,30A534,30A535,30A536,30A537,30A538,30A539,30A540"),
    (0x106d4, "30A541,30A542,30A545,30A547,30A548,30A549,30A550,30A551,30A552,30A553"),
    (0x106de, "30A554,30A555,30A556,30A557,30A559,30A563,30A564,30A565,30A566,30A568"),
    (0x106e8, "30A569,30A570,30A571,30A572,30A573,30A574,30A575,30A576,30A577,30A578"),
    (0x106f2, "30A579,30A580,30A581,30A582,30A583,30A584,30A585,30A586,30A587,30A588"),
    (0x106fc, "30A589,30A591,30A592,30A594,30A595,30A596,30A598,30A600,30A601,30A602"),
    (0x10706, "30A603,30A604,30A606,30A608,30A609,30A610,30A611,30A612,30A613,30A614"),
    (0x10710, "30A615,30A616,30A617,30A618,30A619,30A620,30A621,30A622,30A623,30A624"),
    (0x1071a, "30A626,30A627,30A628,30A629,30A634,30A637,30A638,30A640,30A642,30A643"),
    (0x10724, "30A644,30A645,30A646,30A648,30A649,30A651,30A652,30A653,30A654,30A655"),
    (0x1072e, "30A656,30A657,30A658,30A659,30A660,30A661,30A662,30A663,30A664"),
    (0x10740, "30A701 A,30A702 B,30A703 D,30A704 E,30A705 F,30A706 H,30A707 J"),
    (0x10747, "30A708 K,30A709 L,30A709-2 L2,30A709-3 L3,30A709-4 L4,30A709-6 L6"),
    (0x1074d, "30A710 W,30A711 X,30A712 Y,30A713 OMEGA,30A714 ABB,30A715 BB,30A717 DD"),
    (0x10754, "30A726 EYYY,30A732 JE"),
    (0x10760, "30A800,30A801,30A802,30A803,30A804,30A805,30A806,30A807"),
    (0x10780, "00MODIFIER LETTER SMALL CAPITAL AA,20SUPERSCRIPT TRIANGULAR COLON"),
    (0x10782, "32HALF,20SMALL AE,30CAPITAL B,30B WITH HOOK"),
    (0x10787, "30DZ DIGRAPH,50WITH RETROFLEX HOOK,60CURL,30DEZH DIGRAPH,30D WITH TAIL"),
    (0x1078c, "50HOOK,60AND TAIL,30REVERSED E,31CLOSED REVERSED OPEN,30FENG DIGRAPH"),
    (0x10791, "30RAMS HORN,30CAPITAL G,30G WITH HOOK,33CAPITAL,30H WITH STROKE"),
    (0x10796, "30CAPITAL H,30HENG WITH HOOK,31DOTLESS J WITH STROKE AND,30LS DIGRAPH"),
    (0x1079a, "31LZ,30L WITH BELT,33CAPITAL,31L WITH RETROFLEX HOOK AND,30LEZH"),
    (0x1079f, "40WITH RETROFLEX HOOK,30TURNED Y,50WITH BELT,30O WITH STROKE"),
    (0x107a3, "30CAPITAL OE,30CLOSED OMEGA,30Q,30TURNED R WITH LONG LEG"),
    (0x107a7, "80AND RETROFLEX HOOK,30R WITH TAIL,50FISHHOOK,30CAPITAL R"),
    (0x107ab, "30TC DIGRAPH WITH CURL,30TS DIGRAPH,50WITH RETROFLEX HOOK"),
    (0x107ae, "30TESH DIGRAPH,30T WITH RETROFLEX HOOK,31V WITH RIGHT"),
    (0x107b2, "30CAPITAL Y,20GLOTTAL STOP WITH STROKE,24REVERSED,20BILABIAL CLICK"),
    (0x107b6, "21DENTAL,21LATERAL,21ALVEOLAR,20RETROFLEX CLICK WITH RETROFLEX HOOK"),
    (0x107ba, "20SMALL S WITH CURL")]

/-- The packed names of the alphabets of the ancient east. -/
def easternAlphabetNames : List (Nat × String) :=
  [
    (0x10800, "00CYPRIOT SYLLABLE A,20E,20I,20O,20U,20JA"),
    (0x10808, "20JO"),
    (0x1080a, "20KA,20KE,20KI,20KO,20KU,20LA,20LE,20LI,20LO,20LU,20MA,20ME,20MI,20MO"),
    (0x10818, "20MU,20NA,20NE,20NI,20NO,20NU,20PA,20PE,20PI,20PO,20PU,20RA,20RE,20RI"),
    (0x10826, "20RO,20RU,20SA,20SE,20SI,20SO,20SU,20TA,20TE,20TI,20TO,20TU,20WA,20WE"),
    (0x10834, "20WI,20WO"),
    (0x10837, "20XA,20XE"),
    (0x1083c, "20ZA"),
    (0x1083f, "20ZO,00IMPERIAL ARAMAIC LETTER ALEPH,30BETH,30GIMEL,30DALETH,30HE"),
    (0x10845, "30WAW,30ZAYIN,30HETH,30TETH,30YODH,30KAPH,30LAMEDH,30MEM,30NUN"),
    (0x1084e, "30SAMEKH,30AYIN,30PE,30SADHE,30QOPH,30RESH,30SHIN,30TAW"),
    (0x10857, "20SECTION SIGN,20NUMBER ONE,30TWO,30THREE,30TEN,30TWENTY,30ONE HUNDRED"),
    (0x1085e, "40THOUSAND,31TEN,00PALMYRENE LETTER ALEPH,20BETH,20GIMEL,20DALETH,20HE"),
    (0x10865, "20WAW,20ZAYIN,20HETH,20TETH,20YODH,20KAPH,20LAMEDH,20MEM,20FINAL NUN"),
    (0x1086e, "21,20SAMEKH,20AYIN,20PE,20SADHE,20QOPH,20RESH,20SHIN,20TAW"),
    (0x10877, "10LEFT-POINTING FLEURON,11RIGHT-POINTING,10NUMBER ONE,20TWO,20THREE"),
    (0x1087c, "20FOUR,20FIVE,20TEN,20TWENTY,00NABATAEAN LETTER FINAL ALEPH,21"),
    (0x10882, "20FINAL BETH,21,20GIMEL,20DALETH,20FINAL HE,21,20WAW,20ZAYIN,20HETH"),
    (0x1088b, "20TETH,20FINAL YODH,21,20FINAL KAPH,21,20FINAL LAMEDH,21,20FINAL MEM"),
    (0x10893, "21,20FINAL NUN,21,20SAMEKH,20AYIN,20PE,20SADHE,20QOPH,20RESH"),
    (0x1089c, "20FINAL SHIN,21,20TAW"),
    (0x108a7, "10NUMBER ONE,20TWO,20THREE,20FOUR,12CRUCIFORM,10NUMBER FIVE,20TEN"),
    (0x108ae, "20TWENTY,20ONE HUNDRED"),
    (0x108e0, "00HATRAN LETTER ALEPH,20BETH,20GIMEL,20DALETH-RESH,20HE,20WAW,20ZAYN"),
    (0x108e7, "20HETH,20TETH,20YODH,20KAPH,20LAMEDH,20MEM,20NUN,20SAMEKH,20AYN,20PE"),
    (0x108f1, "20SADHE,20QOPH"),
    (0x108f4, "20SHIN,20TAW"),
    (0x108fb, "10NUMBER ONE,20FIVE,20TEN,20TWENTY,20ONE HUNDRED"),
    (0x10900, "00PHOENICIAN LETTER ALF,20BET,20GAML,20DELT,20HE,20WAU,20ZAI,20HET"),
    (0x10908, "20TET,20YOD,20KAF,20LAMD,20MEM,20NUN,20SEMK,20AIN,20PE,20SADE,20QOF"),
    (0x10913, "20ROSH,20SHIN,20TAU,10NUMBER ONE,20TEN,20TWENTY,20ONE HUNDRED,20TWO"),
    (0x1091b, "20THREE"),
    (0x1091f, "10WORD SEPARATOR,00LYDIAN LETTER A,20B,20G,20D,20E,20V,20I,20Y,20K,20L"),
    (0x1092a, "20M,20N,20O,20R,20SS,20T,20U,20F,20Q,20S,20TT,20AN,20EN,20LY,20NN,20C"),
    (0x1093f, "10TRIANGULAR MARK"),
    (0x10980, "00MEROITIC HIEROGLYPHIC LETTER A,30E,30I,30O,30YA,30WA,30BA,30BA-2"),
    (0x10988, "30PA,30MA,30NA,30NA-2,30NE,30NE-2,30RA,30RA-2,30LA,30KHA,30HHA,30SA"),
    (0x10994, "30SA-2,30SE,30KA,30QA,30TA,30TA-2,30TE,30TE-2,30TO,30DA,20SYMBOL VIDJ"),
    (0x1099f, "30VIDJ-2,10CURSIVE LETTER A,30E,30I,30O,30YA,30WA,30BA,30PA,30MA,30NA"),
    (0x109aa, "30NE,30RA,30LA,30KHA,30HHA,30SA,31ARCHAIC,30SE,30KA,30QA,30TA,30TE"),
    (0x109b6, "30TO,30DA"),
    (0x109bc, "20FRACTION ELEVEN TWELFTHS,30ONE HALF,20LOGOGRAM RMT,30IMN"),
    (0x109c0, "20NUMBER ONE,30TWO,30THREE,30FOUR,30FIVE,30SIX,30SEVEN,30EIGHT,30NINE"),
    (0x109c9, "30TEN,30TWENTY,30THIRTY,30FORTY,30FIFTY,30SIXTY,30SEVENTY"),
    (0x109d2, "30ONE HUNDRED,31TWO,31THREE,31FOUR,31FIVE,31SIX,31SEVEN,31EIGHT,31NINE"),
    (0x109db, "30ONE THOUSAND,31TWO,31THREE,31FOUR,31FIVE,31SIX,31SEVEN,31EIGHT"),
    (0x109e3, "31NINE,31TEN,31TWENTY,31THIRTY,31FORTY,31FIFTY,31SIXTY,31SEVENTY"),
    (0x109eb, "31EIGHTY,31NINETY,31ONE HUNDRED,32TWO,32THREE,32FOUR,32FIVE,32SIX"),
    (0x109f3, "32SEVEN,32EIGHT,32NINE,20FRACTION ONE TWELFTH,30TWO TWELFTHS,31THREE"),
    (0x109f9, "31FOUR,31FIVE,31SIX,31SEVEN,31EIGHT,31NINE,31TEN,00KHAROSHTHI LETTER A"),
    (0x10a01, "10VOWEL SIGN I,30U,30VOCALIC R"),
    (0x10a05, "30E,30O"),
    (0x10a0c, "20LENGTH MARK,10SIGN DOUBLE RING BELOW,20ANUSVARA,20VISARGA"),
    (0x10a10, "10LETTER KA,20KHA,20GA,20GHA"),
    (0x10a15, "20CA,20CHA,20JA"),
    (0x10a19, "20NYA,20TTA,20TTHA,20DDA,20DDHA,20NNA,20TA,20THA,20DA,20DHA,20NA,20PA"),
    (0x10a25, "20PHA,20BA,20BHA,20MA,20YA,20RA,20LA,20VA,20SHA,20SSA,20SA,20ZA,20HA"),
    (0x10a32, "20KKA,20TTTHA,20TTTA,20VHA"),
    (0x10a38, "10SIGN BAR ABOVE,20CAUDA,20DOT BELOW"),
    (0x10a3f, "10VIRAMA,10DIGIT ONE,20TWO,20THREE,20FOUR,10NUMBER TEN,20TWENTY"),
    (0x10a46, "20ONE HUNDRED,30THOUSAND,10FRACTION ONE HALF"),
    (0x10a50, "10PUNCTUATION DOT,20SMALL CIRCLE,21,20CRESCENT BAR,20MANGALAM,20LOTUS"),
    (0x10a56, "20DANDA,21DOUBLE,20LINES"),
    (0x10a60, "00OLD SOUTH ARABIAN LETTER HE,40LAMEDH,40HETH,40MEM,40QOPH,40WAW"),
    (0x10a66, "40SHIN,40RESH,40BETH,40TAW,40SAT,40KAPH,40NUN,40KHETH,40SADHE,40SAMEKH"),
    (0x10a70, "40FE,40ALEF,40AYN,40DHADHE,40GIMEL,40DALETH,40GHAYN,40TETH,40ZAYN"),
    (0x10a79, "40DHALETH,40YODH,40THAW,40THETH,30NUMBER ONE,40FIFTY"),
    (0x10a7f, "30NUMERIC INDICATOR,10NORTH ARABIAN LETTER HEH,40LAM,40HAH,40MEEM"),
    (0x10a84, "40QAF,40WAW,40ES-2,40REH,40BEH,40TEH,40ES-1,40KAF,40NOON,40KHAH,40SAD"),
    (0x10a8f, "40ES-3,40FEH,40ALEF,40AIN,40DAD,40GEEM,40DAL,40GHAIN,40TAH,40ZAIN"),
    (0x10a99, "40THAL,40YEH,40THEH,40ZAH,30NUMBER ONE,40TEN,40TWENTY"),
    (0x10ac0, "00MANICHAEAN LETTER ALEPH,20BETH,20BHETH,20GIMEL,20GHIMEL,20DALETH"),
    (0x10ac6, "20HE,20WAW,10SIGN UD,10LETTER ZAYIN,20ZHAYIN,20JAYIN,20JHAYIN,20HETH"),
    (0x10ace, "20TETH,20YODH,20KAPH,20XAPH,20KHAPH,20LAMEDH,20DHAMEDH,20THAMEDH,20MEM"),
    (0x10ad7, "20NUN,20SAMEKH,20AYIN,20AAYIN,20PE,20FE,20SADHE,20QOPH,20XOPH,20QHOPH"),
    (0x10ae1, "20RESH,20SHIN,20SSHIN,20TAW,10ABBREVIATION MARK ABOVE,30BELOW"),
    (0x10aeb, "10NUMBER ONE,20FIVE,20TEN,20TWENTY,20ONE HUNDRED,10PUNCTUATION STAR"),
    (0x10af1, "20FLEURON,20DOUBLE DOT WITHIN DOT,23,30,20TWO DOTS,20LINE FILLER"),
    (0x10b00, "00AVESTAN LETTER A,20AA,20AO,20AAO,20AN,20AAN,20AE,20AEE,20E,20EE,20O"),
    (0x10b0b, "20OO,20I,20II,20U,20UU,20KE,20XE,20XYE,20XVE,20GE,20GGE,20GHE,20CE"),
    (0x10b18, "20JE,20TE,20THE,20DE,20DHE,20TTE,20PE,20FE,20BE,20BHE,20NGE,20NGYE"),
    (0x10b24, "20NGVE,20NE,20NYE,20NNE,20ME,20HME,20YYE,20YE,20VE,20RE,20LE,20SE,20ZE"),
    (0x10b31, "20SHE,20ZHE,20SHYE,20SSHE,20HE"),
    (0x10b39, "10ABBREVIATION MARK,00TINY TWO DOTS OVER ONE DOT PUNCTUATION,06SMALL"),
    (0x10b3c, "06LARGE,11ONE DOT OVER TWO DOTS,11TWO RINGS OVER ONE RING"),
    (0x10b3f, "11ONE RING OVER TWO RINGS,00INSCRIPTIONAL PARTHIAN LETTER ALEPH,30BETH"),
    (0x10b42, "30GIMEL,30DALETH,30HE,30WAW,30ZAYIN,30HETH,30TETH,30YODH,30KAPH"),
    (0x10b4b, "30LAMEDH,30MEM,30NUN,30SAMEKH,30AYIN,30PE,30SADHE,30QOPH,30RESH,30SHIN"),
    (0x10b55, "30TAW"),
    (0x10b58, "20NUMBER ONE,30TWO,30THREE,30FOUR,30TEN,30TWENTY,30ONE HUNDRED"),
    (0x10b5f, "40THOUSAND,10PAHLAVI LETTER ALEPH,30BETH,30GIMEL,30DALETH,30HE"),
    (0x10b65, "30WAW-AYIN-RESH,30ZAYIN,30HETH,30TETH,30YODH,30KAPH,30LAMEDH"),
    (0x10b6c, "30MEM-QOPH,30NUN,30SAMEKH,30PE,30SADHE,30SHIN,30TAW"),
    (0x10b78, "20NUMBER ONE,30TWO,30THREE,30FOUR,30TEN,30TWENTY,30ONE HUNDRED"),
    (0x10b7f, "40THOUSAND,00PSALTER PAHLAVI LETTER ALEPH,30BETH,30GIMEL,30DALETH,30HE"),
    (0x10b85, "30WAW-AYIN-RESH,30ZAYIN,30HETH,30YODH,30KAPH,30LAMEDH,30MEM-QOPH,30NUN"),
    (0x10b8d, "30SAMEKH,30PE,30SADHE,30SHIN,30TAW"),
    (0x10b99, "20SECTION MARK,22TURNED,20FOUR DOTS WITH CROSS,50DOT"),
    (0x10ba9, "20NUMBER ONE,30TWO,30THREE,30FOUR,30TEN,30TWENTY,30ONE HUNDRED"),
    (0x10c00, "00OLD TURKIC LETTER ORKHON A,31YENISEI,40AE,30ORKHON I,31YENISEI,40E"),
    (0x10c06, "30ORKHON O,40OE,31YENISEI,30ORKHON AB,31YENISEI,30ORKHON AEB,31YENISEI"),
    (0x10c0d, "30ORKHON AG,31YENISEI,30ORKHON AEG,31YENISEI,30ORKHON AD,31YENISEI"),
    (0x10c13, "30ORKHON AED,40EZ,31YENISEI,30ORKHON AY,31YENISEI,30ORKHON AEY"),
    (0x10c19, "31YENISEI,30ORKHON AEK,31YENISEI,30ORKHON OEK,31YENISEI,30ORKHON AL"),
    (0x10c1f, "31YENISEI,30ORKHON AEL,40ELT,40EM,40AN,40AEN,31YENISEI,30ORKHON ENT"),
    (0x10c27, "31YENISEI,30ORKHON ENC,31YENISEI,30ORKHON ENY,31YENISEI,40ANG"),
    (0x10c2d, "30ORKHON ENG,30YENISEI AENG,30ORKHON EP,40OP,40IC,40EC,31YENISEI"),
    (0x10c34, "30ORKHON AQ,31YENISEI,30ORKHON IQ,31YENISEI,30ORKHON OQ,31YENISEI"),
    (0x10c3a, "30ORKHON AR,31YENISEI,30ORKHON AER,40AS,40AES,40ASH,31YENISEI"),
    (0x10c41, "30ORKHON ESH,31YENISEI,30ORKHON AT,31YENISEI,30ORKHON AET,31YENISEI"),
    (0x10c47, "30ORKHON OT,40BASH"),
    (0x10c80, "10HUNGARIAN CAPITAL LETTER A,40AA,40EB,40AMB,40EC,40ENC,40ECS,40ED"),
    (0x10c88, "40AND,40E,41CLOSE,40EE,40EF,40EG,40EGY,40EH,40I,40II,40EJ,40EK,40AK"),
    (0x10c95, "40UNK,40EL,40ELY,40EM,40EN,40ENY,40O,40OO,40NIKOLSBURG OE,41RUDIMENTA"),
    (0x10c9f, "40OEE,40EP,40EMP,40ER,41SHORT,40ES,40ESZ,40ET,40ENT,40ETY,40ECH,40U"),
    (0x10cab, "40UU,40NIKOLSBURG UE,41RUDIMENTA,40EV,40EZ,40EZS,40ENT-SHAPED SIGN"),
    (0x10cb2, "40US"),
    (0x10cc0, "20SMALL LETTER A,40AA,40EB,40AMB,40EC,40ENC,40ECS,40ED,40AND,40E"),
    (0x10cca, "41CLOSE,40EE,40EF,40EG,40EGY,40EH,40I,40II,40EJ,40EK,40AK,40UNK,40EL"),
    (0x10cd7, "40ELY,40EM,40EN,40ENY,40O,40OO,40NIKOLSBURG OE,41RUDIMENTA,40OEE,40EP"),
    (0x10ce1, "40EMP,40ER,41SHORT,40ES,40ESZ,40ET,40ENT,40ETY,40ECH,40U,40UU"),
    (0x10cec, "40NIKOLSBURG UE,41RUDIMENTA,40EV,40EZ,40EZS,40ENT-SHAPED SIGN,40US"),
    (0x10cfa, "20NUMBER ONE,30FIVE,30TEN,30FIFTY,30ONE HUNDRED,40THOUSAND"),
    (0x10d00, "00HANIFI ROHINGYA LETTER A,30BA,30PA,30TA,30TTA,30JA,30CA,30HA,30KHA"),
    (0x10d09, "30FA,30DA,30DDA,30RA,30RRA,30ZA,30SA,30SHA,30KA,30GA,30LA,30MA,30NA"),
    (0x10d16, "30WA,31KINNA,30YA,31KINNA,30NGA,30NYA,30VA,20VOWEL A,30I,30U,30E,30O"),
    (0x10d22, "20MARK SAKIN,30NA KHONNA,20SIGN HARBAHAY,30TAHALA,30TANA,30TASSI"),
    (0x10d30, "20DIGIT ZERO,30ONE,30TWO,30THREE,30FOUR,30FIVE,30SIX,30SEVEN,30EIGHT"),
    (0x10d39, "30NINE"),
    (0x10e60, "00RUMI DIGIT ONE,20TWO,20THREE,20FOUR,20FIVE,20SIX,20SEVEN,20EIGHT"),
    (0x10e68, "20NINE,10NUMBER TEN,20TWENTY,20THIRTY,20FORTY,20FIFTY,20SIXTY"),
    (0x10e6f, "20SEVENTY,20EIGHTY,20NINETY,20ONE HUNDRED,21TWO,21THREE,21FOUR,21FIVE"),
    (0x10e77, "21SIX,21SEVEN,21EIGHT,21NINE,10FRACTION ONE HALF,30QUARTER,30THIRD"),
    (0x10e7e, "20TWO THIRDS"),
    (0x10e80, "00YEZIDI LETTER ELIF,20BE,20PE,20PHE,20THE,20SE,20CIM,20CHIM,20CHHIM"),
    (0x10e89, "20HHA,20XA,20DAL,20ZAL,20RA,20RHA,20ZA,20JA,20SIN,20SHIN,20SAD,20DAD"),
    (0x10e95, "20TA,20ZE,20EYN,20XHEYN,20FA,20VA,30ALTERNATE FORM,20QAF,20KAF,20KHAF"),
    (0x10e9f, "20GAF,20LAM,20MIM,20NUN,20UM,20WAW,20OW,20EW,20HAY,20YOT,20ET"),
    (0x10eab, "10COMBINING HAMZA MARK,21MADDA,11HYPHENATION"),
    (0x10eb0, "10LETTER LAM WITH DOT ABOVE,21YOT WITH CIRCUMFLEX"),
    (0x10f00, "00OLD SOGDIAN LETTER ALEPH,31FINAL,30BETH,31FINAL,30GIMEL,30HE,31FINAL"),
    (0x10f07, "30WAW,30ZAYIN,30HETH,30YODH,30KAPH,30LAMEDH,30MEM,30NUN,31FINAL"),
    (0x10f10, "50WITH VERTICAL TAIL,30SAMEKH,30AYIN,31ALTERNATE,30PE,30SADHE,31FINAL"),
    (0x10f17, "50WITH VERTICAL TAIL,30RESH-AYIN-DALETH,30SHIN,30TAW,31FINAL"),
    (0x10f1c, "50WITH VERTICAL TAIL,20NUMBER ONE,30TWO,30THREE,30FOUR,30FIVE,30TEN"),
    (0x10f23, "30TWENTY,30THIRTY,30ONE HUNDRED,20FRACTION ONE HALF"),
    (0x10f27, "20LIGATURE AYIN-DALETH"),
    (0x10f30, "00SOGDIAN LETTER ALEPH,20BETH,20GIMEL,20HE,20WAW,20ZAYIN,20HETH,20YODH"),
    (0x10f38, "20KAPH,20LAMEDH,20MEM,20NUN,20SAMEKH,20AYIN,20PE,20SADHE,20RESH-AYIN"),
    (0x10f41, "20SHIN,20TAW,20FETH,20LESH,10INDEPENDENT SHIN,10COMBINING DOT BELOW"),
    (0x10f47, "21TWO DOTS,20DOT ABOVE,21TWO DOTS,21CURVE,30BELOW,20HOOK ABOVE,30BELOW"),
    (0x10f4e, "22LONG,21RESH,21STROKE,10NUMBER ONE,20TEN,20TWENTY,20ONE HUNDRED"),
    (0x10f55, "10PUNCTUATION TWO VERTICAL BARS,50WITH DOTS,20CIRCLE WITH DOT"),
    (0x10f58, "20TWO CIRCLES WITH DOTS,20HALF CIRCLE WITH DOT"),
    (0x10f70, "00OLD UYGHUR LETTER ALEPH,30BETH,30GIMEL-HETH,30WAW,30ZAYIN"),
    (0x10f75, "30FINAL HETH,30YODH,30KAPH,30LAMEDH,30MEM,30NUN,30SAMEKH,30PE,30SADHE"),
    (0x10f7e, "30RESH,30SHIN,30TAW,30LESH,20COMBINING DOT ABOVE,40BELOW"),
    (0x10f84, "30TWO DOTS ABOVE,50BELOW,20PUNCTUATION BAR,30TWO BARS,40DOTS,31FOUR"),
    (0x10fb0, "00CHORASMIAN LETTER ALEPH,21SMALL,20BETH,20GIMEL,20DALETH,20HE,20WAW"),
    (0x10fb7, "21CURLED,20ZAYIN,20HETH,20YODH,20KAPH,20LAMEDH,20MEM,20NUN,20SAMEKH"),
    (0x10fc0, "20AYIN,20PE,20RESH,20SHIN,20TAW,10NUMBER ONE,20TWO,20THREE,20FOUR"),
    (0x10fc9, "20TEN,20TWENTY,20ONE HUNDRED"),
    (0x10fe0, "00ELYMAIC LETTER ALEPH,20BETH,20GIMEL,20DALETH,20HE,20WAW,20ZAYIN"),
    (0x10fe7, "20HETH,20TETH,20YODH,20KAPH,20LAMEDH,20MEM,20NUN,20SAMEKH,20AYIN,20PE"),
    (0x10ff1, "20SADHE,20QOPH,20RESH,20SHIN,20TAW,10LIGATURE ZAYIN-YODH")]

/-- The packed names of Brahmi and of the scripts that came from it. -/
def brahmiNames : List (Nat × String) :=
  [
    (0x11000, "00BRAHMI SIGN CANDRABINDU,20ANUSVARA,20VISARGA,20JIHVAMULIYA"),
    (0x11004, "20UPADHMANIYA,10LETTER A,20AA,20I,20II,20U,20UU,20VOCALIC R,30RR,30L"),
    (0x1100e, "30LL,20E,20AI,20O,20AU,20KA,20KHA,20GA,20GHA,20NGA,20CA,20CHA,20JA"),
    (0x1101b, "20JHA,20NYA,20TTA,20TTHA,20DDA,20DDHA,20NNA,20TA,20THA,20DA,20DHA,20NA"),
    (0x11027, "20PA,20PHA,20BA,20BHA,20MA,20YA,20RA,20LA,20VA,20SHA,20SSA,20SA,20HA"),
    (0x11034, "20LLA,20OLD TAMIL LLLA,40RRA,40NNNA,10VOWEL SIGN AA,31BHATTIPROLU,30I"),
    (0x1103b, "30II,30U,30UU,30VOCALIC R,40RR,40L,40LL,30E,30AI,30O,30AU,10VIRAMA"),
    (0x11047, "10DANDA,11DOUBLE,10PUNCTUATION DOT,21DOUBLE,20LINE,20CRESCENT BAR"),
    (0x1104d, "20LOTUS"),
    (0x11052, "10NUMBER ONE,20TWO,20THREE,20FOUR,20FIVE,20SIX,20SEVEN,20EIGHT,20NINE"),
    (0x1105b, "20TEN,20TWENTY,20THIRTY,20FORTY,20FIFTY,20SIXTY,20SEVENTY,20EIGHTY"),
    (0x11063, "20NINETY,20ONE HUNDRED,30THOUSAND,10DIGIT ZERO,20ONE,20TWO,20THREE"),
    (0x1106a, "20FOUR,20FIVE,20SIX,20SEVEN,20EIGHT,20NINE,10SIGN OLD TAMIL VIRAMA"),
    (0x11071, "10LETTER OLD TAMIL SHORT E,50O,10VOWEL SIGN OLD TAMIL SHORT E,60O"),
    (0x11075, "10LETTER OLD TAMIL LLA"),
    (0x1107f, "10NUMBER JOINER,00KAITHI SIGN CANDRABINDU,20ANUSVARA,20VISARGA"),
    (0x11083, "10LETTER A,20AA,20I,20II,20U,20UU,20E,20AI,20O,20AU,20KA,20KHA,20GA"),
    (0x11090, "20GHA,20NGA,20CA,20CHA,20JA,20JHA,20NYA,20TTA,20TTHA,20DDA,20DDDHA"),
    (0x1109b, "20DDHA,20RHA,20NNA,20TA,20THA,20DA,20DHA,20NA,20PA,20PHA,20BA,20BHA"),
    (0x110a7, "20MA,20YA,20RA,20LA,20VA,20SHA,20SSA,20SA,20HA,10VOWEL SIGN AA,30I"),
    (0x110b2, "30II,30U,30UU,30E,30AI,30O,30AU,10SIGN VIRAMA,20NUKTA"),
    (0x110bb, "10ABBREVIATION SIGN,11ENUMERATION,11NUMBER,10SECTION MARK,12DOUBLE"),
    (0x110c0, "10DANDA,11DOUBLE,10VOWEL SIGN VOCALIC R"),
    (0x110cd, "10NUMBER SIGN ABOVE"),
    (0x110d0, "00SORA SOMPENG LETTER SAH,30TAH,30BAH,30CAH,30DAH,30GAH,30MAH,30NGAH"),
    (0x110d8, "30LAH,30NAH,30VAH,30PAH,30YAH,30RAH,30HAH,30KAH,30JAH,30NYAH,30AH"),
    (0x110e3, "30EEH,30IH,30UH,30OH,30EH,30MAE"),
    (0x110f0, "20DIGIT ZERO,30ONE,30TWO,30THREE,30FOUR,30FIVE,30SIX,30SEVEN,30EIGHT"),
    (0x110f9, "30NINE"),
    (0x11100, "00CHAKMA SIGN CANDRABINDU,20ANUSVARA,20VISARGA,10LETTER AA,20I,20U,20E"),
    (0x11107, "20KAA,20KHAA,20GAA,20GHAA,20NGAA,20CAA,20CHAA,20JAA,20JHAA,20NYAA"),
    (0x11111, "20TTAA,20TTHAA,20DDAA,20DDHAA,20NNAA,20TAA,20THAA,20DAA,20DHAA,20NAA"),
    (0x1111b, "20PAA,20PHAA,20BAA,20BHAA,20MAA,20YYAA,20YAA,20RAA,20LAA,20WAA,20SAA"),
    (0x11126, "20HAA,10VOWEL SIGN A,30I,30II,30U,30UU,30E,30AI,30O,30AU,30OI,10O MARK"),
    (0x11132, "11AU,10VIRAMA,10MAAYYAA"),
    (0x11136, "10DIGIT ZERO,20ONE,20TWO,20THREE,20FOUR,20FIVE,20SIX,20SEVEN,20EIGHT"),
    (0x1113f, "20NINE,10SECTION MARK,10DANDA,11DOUBLE,10QUESTION MARK,10LETTER LHAA"),
    (0x11145, "10VOWEL SIGN AA,30EI,10LETTER VAA"),
    (0x11150, "00MAHAJANI LETTER A,20I,20U,20E,20O,20KA,20KHA,20GA,20GHA,20CA,20CHA"),
    (0x1115b, "20JA,20JHA,20NYA,20TTA,20TTHA,20DDA,20DDHA,20NNA,20TA,20THA,20DA,20DHA"),
    (0x11167, "20NA,20PA,20PHA,20BA,20BHA,20MA,20RA,20LA,20VA,20SA,20HA,20RRA"),
    (0x11173, "10SIGN NUKTA,10ABBREVIATION SIGN,10SECTION MARK,10LIGATURE SHRI"),
    (0x11180, "00SHARADA SIGN CANDRABINDU,20ANUSVARA,20VISARGA,10LETTER A,20AA,20I"),
    (0x11186, "20II,20U,20UU,20VOCALIC R,30RR,30L,30LL,20E,20AI,20O,20AU,20KA,20KHA"),
    (0x11193, "20GA,20GHA,20NGA,20CA,20CHA,20JA,20JHA,20NYA,20TTA,20TTHA,20DDA,20DDHA"),
    (0x1119f, "20NNA,20TA,20THA,20DA,20DHA,20NA,20PA,20PHA,20BA,20BHA,20MA,20YA,20RA"),
    (0x111ac, "20LA,20LLA,20VA,20SHA,20SSA,20SA,20HA,10VOWEL SIGN AA,30I,30II,30U"),
    (0x111b7, "30UU,30VOCALIC R,40RR,40L,40LL,30E,30AI,30O,30AU,10SIGN VIRAMA"),
    (0x111c1, "20AVAGRAHA,20JIHVAMULIYA,20UPADHMANIYA,10OM,10DANDA,11DOUBLE"),
    (0x111c7, "10ABBREVIATION SIGN,10SEPARATOR,10SANDHI MARK,10SIGN NUKTA"),
    (0x111cb, "10VOWEL MODIFIER MARK,11EXTRA SHORT VOWEL,11SUTRA"),
    (0x111ce, "10VOWEL SIGN PRISHTHAMATRA E,10SIGN INVERTED CANDRABINDU,10DIGIT ZERO"),
    (0x111d1, "20ONE,20TWO,20THREE,20FOUR,20FIVE,20SIX,20SEVEN,20EIGHT,20NINE,10EKAM"),
    (0x111db, "10SIGN SIDDHAM,10HEADSTROKE,10CONTINUATION SIGN,10SECTION MARK-1"),
    (0x111df, "20MARK-2"),
    (0x111e1, "00SINHALA ARCHAIC DIGIT ONE,30TWO,30THREE,30FOUR,30FIVE,30SIX,30SEVEN"),
    (0x111e8, "30EIGHT,30NINE,20NUMBER TEN,30TWENTY,30THIRTY,30FORTY,30FIFTY,30SIXTY"),
    (0x111f0, "30SEVENTY,30EIGHTY,30NINETY,30ONE HUNDRED,40THOUSAND"),
    (0x11200, "00KHOJKI LETTER A,20AA,20I,20U,20E,20AI,20O,20AU,20KA,20KHA,20GA,20GGA"),
    (0x1120c, "20GHA,20NGA,20CA,20CHA,20JA,20JJA"),
    (0x11213, "20NYA,20TTA,20TTHA,20DDA,20DDHA,20NNA,20TA,20THA,20DA,20DDDA,20DHA"),
    (0x1121e, "20NA,20PA,20PHA,20BA,20BBA,20BHA,20MA,20YA,20RA,20LA,20VA,20SA,20HA"),
    (0x1122b, "20LLA,10VOWEL SIGN AA,30I,30II,30U,30E,30AI,30O,30AU,10SIGN ANUSVARA"),
    (0x11235, "20VIRAMA,20NUKTA,20SHADDA,10DANDA,11DOUBLE,10WORD SEPARATOR"),
    (0x1123b, "10SECTION MARK,12DOUBLE,10ABBREVIATION SIGN,10SIGN SUKUN"),
    (0x11280, "00MULTANI LETTER A,20I,20U,20E,20KA,20KHA,20GA"),
    (0x11288, "20GHA"),
    (0x1128a, "20CA,20CHA,20JA,20JJA"),
    (0x1128f, "20NYA,20TTA,20TTHA,20DDA,20DDDA,20DDHA,20NNA,20TA,20THA,20DA,20DHA"),
    (0x1129a, "20NA,20PA,20PHA,20BA"),
    (0x1129f, "20BHA,20MA,20YA,20RA,20LA,20VA,20SA,20HA,20RRA,20RHA,10SECTION MARK"),
    (0x112b0, "00KHUDAWADI LETTER A,20AA,20I,20II,20U,20UU,20E,20AI,20O,20AU,20KA"),
    (0x112bb, "20KHA,20GA,20GGA,20GHA,20NGA,20CA,20CHA,20JA,20JJA,20JHA,20NYA,20TTA"),
    (0x112c7, "20TTHA,20DDA,20DDDA,20RRA,20DDHA,20NNA,20TA,20THA,20DA,20DHA,20NA,20PA"),
    (0x112d3, "20PHA,20BA,20BBA,20BHA,20MA,20YA,20RA,20LA,20VA,20SHA,20SA,20HA"),
    (0x112df, "10SIGN ANUSVARA,10VOWEL SIGN AA,30I,30II,30U,30UU,30E,30AI,30O,30AU"),
    (0x112e9, "10SIGN NUKTA,20VIRAMA"),
    (0x112f0, "10DIGIT ZERO,20ONE,20TWO,20THREE,20FOUR,20FIVE,20SIX,20SEVEN,20EIGHT"),
    (0x112f9, "20NINE"),
    (0x11300, "00GRANTHA SIGN COMBINING ANUSVARA ABOVE,20CANDRABINDU,20ANUSVARA"),
    (0x11303, "20VISARGA"),
    (0x11305, "10LETTER A,20AA,20I,20II,20U,20UU,20VOCALIC R,30L"),
    (0x1130f, "20EE,20AI"),
    (0x11313, "20OO,20AU,20KA,20KHA,20GA,20GHA,20NGA,20CA,20CHA,20JA,20JHA,20NYA"),
    (0x1131f, "20TTA,20TTHA,20DDA,20DDHA,20NNA,20TA,20THA,20DA,20DHA,20NA"),
    (0x1132a, "20PA,20PHA,20BA,20BHA,20MA,20YA,20RA"),
    (0x11332, "20LA,20LLA"),
    (0x11335, "20VA,20SHA,20SSA,20SA,20HA"),
    (0x1133b, "00COMBINING BINDU BELOW,00GRANTHA SIGN NUKTA,20AVAGRAHA"),
    (0x1133e, "10VOWEL SIGN AA,30I,30II,30U,30UU,30VOCALIC R,40RR"),
    (0x11347, "30EE,30AI"),
    (0x1134b, "30OO,30AU,10SIGN VIRAMA"),
    (0x11350, "10OM"),
    (0x11357, "10AU LENGTH MARK"),
    (0x1135d, "10SIGN PLUTA,10LETTER VEDIC ANUSVARA,31DOUBLE,20VOCALIC RR,30LL"),
    (0x11362, "10VOWEL SIGN VOCALIC L,40LL"),
    (0x11366, "00COMBINING GRANTHA DIGIT ZERO,30ONE,30TWO,30THREE,30FOUR,30FIVE,30SIX"),
    (0x11370, "20LETTER A,30KA,30NA,30VI,30PA"),
    (0x11400, "00NEWA LETTER A,20AA,20I,20II,20U,20UU,20VOCALIC R,30RR,30L,30LL,20E"),
    (0x1140b, "20AI,20O,20AU,20KA,20KHA,20GA,20GHA,20NGA,20NGHA,20CA,20CHA,20JA,20JHA"),
    (0x11418, "20NYA,20NYHA,20TTA,20TTHA,20DDA,20DDHA,20NNA,20TA,20THA,20DA,20DHA"),
    (0x11423, "20NA,20NHA,20PA,20PHA,20BA,20BHA,20MA,20MHA,20YA,20RA,20RHA,20LA,20LHA"),
    (0x11430, "20WA,20SHA,20SSA,20SA,20HA,10VOWEL SIGN AA,30I,30II,30U,30UU"),
    (0x1143a, "30VOCALIC R,40RR,40L,40LL,30E,30AI,30O,30AU,10SIGN VIRAMA"),
    (0x11443, "20CANDRABINDU,20ANUSVARA,20VISARGA,20NUKTA,20AVAGRAHA,20FINAL ANUSVARA"),
    (0x11449, "10OM,10SIDDHI,10DANDA,11DOUBLE,10COMMA,10GAP FILLER"),
    (0x1144f, "10ABBREVIATION SIGN,10DIGIT ZERO,20ONE,20TWO,20THREE,20FOUR,20FIVE"),
    (0x11456, "20SIX,20SEVEN,20EIGHT,20NINE,10DOUBLE COMMA,10PLACEHOLDER MARK"),
    (0x1145d, "10INSERTION SIGN,10SANDHI MARK,10LETTER VEDIC ANUSVARA"),
    (0x11460, "10SIGN JIHVAMULIYA,20UPADHMANIYA"),
    (0x11480, "00TIRHUTA ANJI,10LETTER A,20AA,20I,20II,20U,20UU,20VOCALIC R,30RR,30L"),
    (0x1148a, "30LL,20E,20AI,20O,20AU,20KA,20KHA,20GA,20GHA,20NGA,20CA,20CHA,20JA"),
    (0x11497, "20JHA,20NYA,20TTA,20TTHA,20DDA,20DDHA,20NNA,20TA,20THA,20DA,20DHA,20NA"),
    (0x114a3, "20PA,20PHA,20BA,20BHA,20MA,20YA,20RA,20LA,20VA,20SHA,20SSA,20SA,20HA"),
    (0x114b0, "10VOWEL SIGN AA,30I,30II,30U,30UU,30VOCALIC R,40RR,40L,40LL,30E"),
    (0x114ba, "31SHORT,30AI,30O,31SHORT,30AU,10SIGN CANDRABINDU,20ANUSVARA,20VISARGA"),
    (0x114c2, "20VIRAMA,20NUKTA,20AVAGRAHA,10GVANG,10ABBREVIATION SIGN,10OM"),
    (0x114d0, "10DIGIT ZERO,20ONE,20TWO,20THREE,20FOUR,20FIVE,20SIX,20SEVEN,20EIGHT"),
    (0x114d9, "20NINE"),
    (0x11580, "00SIDDHAM LETTER A,20AA,20I,20II,20U,20UU,20VOCALIC R,30RR,30L,30LL"),
    (0x1158a, "20E,20AI,20O,20AU,20KA,20KHA,20GA,20GHA,20NGA,20CA,20CHA,20JA,20JHA"),
    (0x11597, "20NYA,20TTA,20TTHA,20DDA,20DDHA,20NNA,20TA,20THA,20DA,20DHA,20NA,20PA"),
    (0x115a3, "20PHA,20BA,20BHA,20MA,20YA,20RA,20LA,20VA,20SHA,20SSA,20SA,20HA"),
    (0x115af, "10VOWEL SIGN AA,30I,30II,30U,30UU,30VOCALIC R,40RR"),
    (0x115b8, "30E,30AI,30O,30AU,10SIGN CANDRABINDU,20ANUSVARA,20VISARGA,20VIRAMA"),
    (0x115c0, "20NUKTA,20SIDDHAM,10DANDA,11DOUBLE,10SEPARATOR DOT,20BAR"),
    (0x115c6, "10REPETITION MARK-1,20MARK-2,20MARK-3,10END OF TEXT MARK"),
    (0x115ca, "10SECTION MARK WITH TRIDENT AND U-SHAPED ORNAMENTS,60DOTTED CRESCENTS"),
    (0x115cc, "43RAYS,71DOUBLE,71TRIPLE,30DOUBLE RING,50WITH RAYS"),
    (0x115d1, "30WITH DOUBLE CRESCENTS,41TRIPLE,41QUADRUPLE,41SEPTUPLE"),
    (0x115d5, "40CIRCLES AND RAYS,60TWO ENCLOSURES,61FOUR"),
    (0x115d8, "10LETTER THREE-CIRCLE ALTERNATE I,22TWO-CIRCLE,40II,20ALTERNATE U"),
    (0x115dc, "12VOWEL SIGN,40UU"),
    (0x11600, "00MODI LETTER A,20AA,20I,20II,20U,20UU,20VOCALIC R,30RR,30L,30LL,20E"),
    (0x1160b, "20AI,20O,20AU,20KA,20KHA,20GA,20GHA,20NGA,20CA,20CHA,20JA,20JHA,20NYA"),
    (0x11618, "20TTA,20TTHA,20DDA,20DDHA,20NNA,20TA,20THA,20DA,20DHA,20NA,20PA,20PHA"),
    (0x11624, "20BA,20BHA,20MA,20YA,20RA,20LA,20VA,20SHA,20SSA,20SA,20HA,20LLA"),
    (0x11630, "10VOWEL SIGN AA,30I,30II,30U,30UU,30VOCALIC R,40RR,40L,40LL,30E,30AI"),
    (0x1163b, "30O,30AU,10SIGN ANUSVARA,20VISARGA,20VIRAMA,20ARDHACANDRA,10DANDA"),
    (0x11642, "11DOUBLE,10ABBREVIATION SIGN,10SIGN HUVA"),
    (0x11650, "10DIGIT ZERO,20ONE,20TWO,20THREE,20FOUR,20FIVE,20SIX,20SEVEN,20EIGHT"),
    (0x11659, "20NINE"),
    (0x11660, "00MONGOLIAN BIRGA WITH ORNAMENT,10ROTATED BIRGA"),
    (0x11662, "10DOUBLE BIRGA WITH ORNAMENT,13TRIPLE,11BIRGA WITH DOUBLE"),
    (0x11665, "11ROTATED BIRGA WITH,41DOUBLE,10INVERTED BIRGA,30WITH DOUBLE ORNAMENT"),
    (0x11669, "10SWIRL BIRGA,30WITH ORNAMENT,41DOUBLE,15TURNED"),
    (0x11680, "00TAKRI LETTER A,20AA,20I,20II,20U,20UU,20E,20AI,20O,20AU,20KA,20KHA"),
    (0x1168c, "20GA,20GHA,20NGA,20CA,20CHA,20JA,20JHA,20NYA,20TTA,20TTHA,20DDA,20DDHA"),
    (0x11698, "20NNA,20TA,20THA,20DA,20DHA,20NA,20PA,20PHA,20BA,20BHA,20MA,20YA,20RA"),
    (0x116a5, "20LA,20VA,20SHA,20SA,20HA,20RRA,10SIGN ANUSVARA,20VISARGA"),
    (0x116ad, "10VOWEL SIGN AA,30I,30II,30U,30UU,30E,30AI,30O,30AU,10SIGN VIRAMA"),
    (0x116b7, "20NUKTA,10LETTER ARCHAIC KHA,10ABBREVIATION SIGN"),
    (0x116c0, "10DIGIT ZERO,20ONE,20TWO,20THREE,20FOUR,20FIVE,20SIX,20SEVEN,20EIGHT"),
    (0x116c9, "20NINE"),
    (0x11700, "00AHOM LETTER KA,20KHA,20NGA,20NA,20TA,21ALTERNATE,20PA,20PHA,20BA"),
    (0x11709, "20MA,20JA,20CHA,20THA,20RA,20LA,20SA,20NYA,20HA,20A,20DA,20DHA,20GA"),
    (0x11716, "21ALTERNATE,20GHA,20BHA,20JHA,20ALTERNATE BA"),
    (0x1171d, "10CONSONANT SIGN MEDIAL LA,40RA,41LIGATING,10VOWEL SIGN A,30AA,30I"),
    (0x11723, "30II,30U,30UU,30E,30AW,30O,30AI,30AM,10SIGN KILLER"),
    (0x11730, "10DIGIT ZERO,20ONE,20TWO,20THREE,20FOUR,20FIVE,20SIX,20SEVEN,20EIGHT"),
    (0x11739, "20NINE,10NUMBER TEN,20TWENTY,10SIGN SMALL SECTION,21,20RULAI"),
    (0x1173f, "10SYMBOL VI,10LETTER CA,20TTA,20TTHA,20DDA,20DDHA,20NNA,20LLA"),
    (0x11800, "00DOGRA LETTER A,20AA,20I,20II,20U,20UU,20E,20AI,20O,20AU,20KA,20KHA"),
    (0x1180c, "20GA,20GHA,20NGA,20CA,20CHA,20JA,20JHA,20NYA,20TTA,20TTHA,20DDA,20DDHA"),
    (0x11818, "20NNA,20TA,20THA,20DA,20DHA,20NA,20PA,20PHA,20BA,20BHA,20MA,20YA,20RA"),
    (0x11825, "20LA,20VA,20SHA,20SSA,20SA,20HA,20RRA,10VOWEL SIGN AA,30I,30II,30U"),
    (0x11830, "30UU,30VOCALIC R,40RR,30E,30AI,30O,30AU,10SIGN ANUSVARA,20VISARGA"),
    (0x11839, "20VIRAMA,20NUKTA,10ABBREVIATION SIGN"),
    (0x118a0, "00WARANG CITI CAPITAL LETTER NGAA,40A,40WI,40YU,40YA,40YO,40II,40UU"),
    (0x118a8, "40E,40O,40ANG,40GA,40KO,40ENY,40YUJ,40UC,40ENN,40ODD,40TTE,40NUNG,40DA"),
    (0x118b5, "40AT,40AM,40BU,40PU,40HIYO,40HOLO,40HORR,40HAR,40SSUU,40SII,40VIYO"),
    (0x118c0, "20SMALL LETTER NGAA,40A,40WI,40YU,40YA,40YO,40II,40UU,40E,40O,40ANG"),
    (0x118cb, "40GA,40KO,40ENY,40YUJ,40UC,40ENN,40ODD,40TTE,40NUNG,40DA,40AT,40AM"),
    (0x118d7, "40BU,40PU,40HIYO,40HOLO,40HORR,40HAR,40SSUU,40SII,40VIYO,20DIGIT ZERO"),
    (0x118e1, "30ONE,30TWO,30THREE,30FOUR,30FIVE,30SIX,30SEVEN,30EIGHT,30NINE"),
    (0x118ea, "20NUMBER TEN,30TWENTY,30THIRTY,30FORTY,30FIFTY,30SIXTY,30SEVENTY"),
    (0x118f1, "30EIGHTY,30NINETY"),
    (0x118ff, "20OM,00DIVES AKURU LETTER A,30AA,30I,30II,30U,30UU,30E"),
    (0x11909, "30O"),
    (0x1190c, "30KA,30KHA,30GA,30GHA,30NGA,30CA,30CHA,30JA"),
    (0x11915, "30NYA,30TTA"),
    (0x11918, "30DDA,30DDHA,30NNA,30TA,30THA,30DA,30DHA,30NA,30PA,30PHA,30BA,30BHA"),
    (0x11924, "30MA,30YA,30YYA,30RA,30LA,30VA,30SHA,30SSA,30SA,30HA,30LLA,30ZA"),
    (0x11930, "20VOWEL SIGN AA,40I,40II,40U,40UU,40E"),
    (0x11937, "40AI,40O"),
    (0x1193b, "20SIGN ANUSVARA,30CANDRABINDU,30HALANTA,20VIRAMA,20PREFIXED NASAL SIGN"),
    (0x11940, "20MEDIAL YA,20INITIAL RA,21MEDIAL,20SIGN NUKTA,20DOUBLE DANDA"),
    (0x11945, "20GAP FILLER,20END OF TEXT MARK"),
    (0x11950, "20DIGIT ZERO,30ONE,30TWO,30THREE,30FOUR,30FIVE,30SIX,30SEVEN,30EIGHT"),
    (0x11959, "30NINE"),
    (0x119a0, "00NANDINAGARI LETTER A,20AA,20I,20II,20U,20UU,20VOCALIC R,30RR"),
    (0x119aa, "20E,20AI,20O,20AU,20KA,20KHA,20GA,20GHA,20NGA,20CA,20CHA,20JA,20JHA"),
    (0x119b7, "20NYA,20TTA,20TTHA,20DDA,20DDHA,20NNA,20TA,20THA,20DA,20DHA,20NA,20PA"),
    (0x119c3, "20PHA,20BA,20BHA,20MA,20YA,20RA,20LA,20VA,20SHA,20SSA,20SA,20HA,20LLA"),
    (0x119d0, "20RRA,10VOWEL SIGN AA,30I,30II,30U,30UU,30VOCALIC R,40RR"),
    (0x119da, "30E,30AI,30O,30AU,10SIGN ANUSVARA,20VISARGA,20VIRAMA,20AVAGRAHA"),
    (0x119e2, "20SIDDHAM,10HEADSTROKE,10VOWEL SIGN PRISHTHAMATRA E"),
    (0x11a00, "00ZANABAZAR SQUARE LETTER A,20VOWEL SIGN I,40UE,40U,40E,40OE,40O,40AI"),
    (0x11a08, "40AU,40REVERSED I,30LENGTH MARK,20LETTER KA,30KHA,30GA,30GHA,30NGA"),
    (0x11a10, "30CA,30CHA,30JA,30NYA,30TTA,30TTHA,30DDA,30DDHA,30NNA,30TA,30THA,30DA"),
    (0x11a1c, "30DHA,30NA,30PA,30PHA,30BA,30BHA,30MA,30TSA,30TSHA,30DZA,30DZHA,30ZHA"),
    (0x11a28, "30ZA,30-A,30YA,30RA,30LA,30VA,30SHA,30SSA,30SA,30HA,30KSSA"),
    (0x11a33, "20FINAL CONSONANT MARK,20SIGN VIRAMA,30CANDRABINDU,40WITH ORNAMENT"),
    (0x11a37, "32CANDRA,30ANUSVARA,30VISARGA,20CLUSTER-INITIAL LETTER RA"),
    (0x11a3b, "20CLUSTER-FINAL LETTER YA,40RA,40LA,40VA,20INITIAL HEAD MARK,22CLOSING"),
    (0x11a41, "20MARK TSHEG,30SHAD,31DOUBLE,30LONG TSHEG"),
    (0x11a45, "20INITIAL DOUBLE-LINED HEAD MARK,23CLOSING,20SUBJOINER"),
    (0x11a50, "00SOYOMBO LETTER A,10VOWEL SIGN I,30UE,30U,30E,30O,30OE,30AI,30AU"),
    (0x11a59, "30VOCALIC R,40L,20LENGTH MARK,10LETTER KA,20KHA,20GA,20GHA,20NGA,20CA"),
    (0x11a62, "20CHA,20JA,20JHA,20NYA,20TTA,20TTHA,20DDA,20DDHA,20NNA,20TA,20THA,20DA"),
    (0x11a6e, "20DHA,20NA,20PA,20PHA,20BA,20BHA,20MA,20TSA,20TSHA,20DZA,20ZHA,20ZA"),
    (0x11a7a, "20-A,20YA,20RA,20LA,20VA,20SHA,20SSA,20SA,20HA,20KSSA"),
    (0x11a84, "10SIGN JIHVAMULIYA,20UPADHMANIYA,10CLUSTER-INITIAL LETTER RA,30LA"),
    (0x11a88, "30SHA,30SA,10FINAL CONSONANT SIGN G,40K,40NG,40D,40N,40B,40M,40R,40L"),
    (0x11a93, "40SH,40S,40-A,10SIGN ANUSVARA,20VISARGA,10GEMINATION MARK,10SUBJOINER"),
    (0x11a9a, "10MARK TSHEG,20SHAD,21DOUBLE,20PLUTA"),
    (0x11a9e, "10HEAD MARK WITH MOON AND SUN AND TRIPLE FLAME,81,70,10TERMINAL MARK-1"),
    (0x11aa2, "20MARK-2"),
    (0x11ab0, "00CANADIAN SYLLABICS NATTILIK HI,30HII,30HO,30HOO,30HA,30HAA,30SHRI"),
    (0x11ab7, "30SHRII,30SHRO,30SHROO,30SHRA,30SHRAA,20SPE,20SPI,20SPO,20SPA"),
    (0x11ac0, "00PAU CIN HAU LETTER PA,40KA,40LA,40MA,40DA,40ZA,40VA,40NGA,40HA,40GA"),
    (0x11aca, "40KHA,40SA,40BA,40CA,40TA,40THA,40NA,40PHA,40RA,40FA,40CHA,40A,40E,40I"),
    (0x11ad8, "40O,40U,40UA,40IA,40FINAL P,50K,50T,50M,50N,50L,50W,50NG,50Y"),
    (0x11ae5, "30RISING TONE LONG,50,30SANDHI GLOTTAL STOP,30RISING TONE LONG FINAL"),
    (0x11ae9, "51,31SANDHI GLOTTAL STOP,40TONE LONG,50,50LONG FINAL,51"),
    (0x11aef, "30MID-LEVEL TONE,30GLOTTAL STOP VARIANT,30MID-LEVEL TONE LONG FINAL,51"),
    (0x11af3, "30LOW-FALLING TONE LONG,50,30GLOTTAL STOP"),
    (0x11af6, "30LOW-FALLING TONE LONG FINAL,51,31GLOTTAL STOP"),
    (0x11c00, "00BHAIKSUKI LETTER A,20AA,20I,20II,20U,20UU,20VOCALIC R,30RR,30L"),
    (0x11c0a, "20E,20AI,20O,20AU,20KA,20KHA,20GA,20GHA,20NGA,20CA,20CHA,20JA,20JHA"),
    (0x11c17, "20NYA,20TTA,20TTHA,20DDA,20DDHA,20NNA,20TA,20THA,20DA,20DHA,20NA,20PA"),
    (0x11c23, "20PHA,20BA,20BHA,20MA,20YA,20RA,20LA,20VA,20SHA,20SSA,20SA,20HA"),
    (0x11c2f, "10VOWEL SIGN AA,30I,30II,30U,30UU,30VOCALIC R,40RR,40L"),
    (0x11c38, "30E,30AI,30O,30AU,10SIGN CANDRABINDU,20ANUSVARA,20VISARGA,20VIRAMA"),
    (0x11c40, "20AVAGRAHA,10DANDA,11DOUBLE,10WORD SEPARATOR,10GAP FILLER-1,20FILLER-2"),
    (0x11c50, "10DIGIT ZERO,20ONE,20TWO,20THREE,20FOUR,20FIVE,20SIX,20SEVEN,20EIGHT"),
    (0x11c59, "20NINE,10NUMBER ONE,20TWO,20THREE,20FOUR,20FIVE,20SIX,20SEVEN,20EIGHT"),
    (0x11c62, "20NINE,20TEN,20TWENTY,20THIRTY,20FORTY,20FIFTY,20SIXTY,20SEVENTY"),
    (0x11c6a, "20EIGHTY,20NINETY,10HUNDREDS UNIT MARK"),
    (0x11c70, "01MARCHEN HEAD,10MARK SHAD,10LETTER KA,20KHA,20GA,20NGA,20CA,20CHA"),
    (0x11c78, "20JA,20NYA,20TA,20THA,20DA,20NA,20PA,20PHA,20BA,20MA,20TSA,20TSHA"),
    (0x11c84, "20DZA,20WA,20ZHA,20ZA,20-A,20YA,20RA,20LA,20SHA,20SA,20HA,20A"),
    (0x11c92, "10SUBJOINED LETTER KA,30KHA,30GA,30NGA,30CA,30CHA,30JA,30NYA,30TA"),
    (0x11c9b, "30THA,30DA,30NA,30PA,30PHA,30BA,30MA,30TSA,30TSHA,30DZA,30WA,30ZHA"),
    (0x11ca7, "30ZA"),
    (0x11ca9, "30YA,30RA,30LA,30SHA,30SA,30HA,30A,10VOWEL SIGN AA,30I,30U,30E,30O"),
    (0x11cb5, "10SIGN ANUSVARA,20CANDRABINDU"),
    (0x11d00, "00MASARAM GONDI LETTER A,30AA,30I,30II,30U,30UU,30E"),
    (0x11d08, "30AI,30O"),
    (0x11d0b, "30AU,30KA,30KHA,30GA,30GHA,30NGA,30CA,30CHA,30JA,30JHA,30NYA,30TTA"),
    (0x11d17, "30TTHA,30DDA,30DDHA,30NNA,30TA,30THA,30DA,30DHA,30NA,30PA,30PHA,30BA"),
    (0x11d23, "30BHA,30MA,30YA,30RA,30LA,30VA,30SHA,30SSA,30SA,30HA,30LLA,30KSSA"),
    (0x11d2f, "30JNYA,30TRA,20VOWEL SIGN AA,40I,40II,40U,40UU,40VOCALIC R"),
    (0x11d3a, "40E"),
    (0x11d3c, "40AI,40O"),
    (0x11d3f, "40AU,20SIGN ANUSVARA,30VISARGA,30NUKTA,30CANDRA,30HALANTA,20VIRAMA"),
    (0x11d46, "20REPHA,20RA-KARA"),
    (0x11d50, "20DIGIT ZERO,30ONE,30TWO,30THREE,30FOUR,30FIVE,30SIX,30SEVEN,30EIGHT"),
    (0x11d59, "30NINE"),
    (0x11d60, "00GUNJALA GONDI LETTER A,30AA,30I,30II,30U,30UU"),
    (0x11d67, "30EE,30AI"),
    (0x11d6a, "30OO,30AU,30YA,30VA,30BA,30BHA,30MA,30KA,30KHA,30TA,30THA,30LA,30GA"),
    (0x11d77, "30GHA,30DA,30DHA,30NA,30CA,30CHA,30TTA,30TTHA,30LLA,30JA,30JHA,30DDA"),
    (0x11d83, "30DDHA,30NGA,30PA,30PHA,30HA,30RA,30SA,20VOWEL SIGN AA,40I,40II,40U"),
    (0x11d8e, "40UU"),
    (0x11d90, "40EE,40AI"),
    (0x11d93, "40OO,40AU,20SIGN ANUSVARA,30VISARGA,20VIRAMA,20OM"),
    (0x11da0, "20DIGIT ZERO,30ONE,30TWO,30THREE,30FOUR,30FIVE,30SIX,30SEVEN,30EIGHT"),
    (0x11da9, "30NINE"),
    (0x11ee0, "00MAKASAR LETTER KA,20GA,20NGA,20PA,20BA,20MA,20TA,20DA,20NA,20CA,20JA"),
    (0x11eeb, "20NYA,20YA,20RA,20LA,20VA,20SA,20A,10ANGKA,10VOWEL SIGN I,30U,30E,30O"),
    (0x11ef7, "10PASSIMBANG,10END OF SECTION"),
    (0x11fb0, "00LISU LETTER YHA"),
    (0x11fc0, "00TAMIL FRACTION ONE THREE-HUNDRED-AND-TWENTIETH"),
    (0x11fc1, "30ONE-HUNDRED-AND-SIXTIETH,30EIGHTIETH,30SIXTY-FOURTH,30FORTIETH"),
    (0x11fc5, "30THIRTY-SECOND,20THREE EIGHTIETHS,30SIXTY-FOURTHS,20ONE TWENTIETH"),
    (0x11fc9, "30SIXTEENTH-1,30SIXTEENTH-2,30TENTH,30EIGHTH,20THREE TWENTIETHS"),
    (0x11fce, "30SIXTEENTHS,20ONE FIFTH,30QUARTER,30HALF-1,30HALF-2,20THREE QUARTERS"),
    (0x11fd4, "20DOWNSCALING FACTOR KIIZH,10SIGN NEL,20CEVITU,20AAZHAAKKU,20UZHAKKU"),
    (0x11fd9, "20MUUVUZHAKKU,20KURUNI,20PATHAKKU,20MUKKURUNI,20KAACU,20PANAM,20PON"),
    (0x11fe0, "20VARAAKAN,20PAARAM,20KUZHI,20VELI,10WET CULTIVATION SIGN,12DRY,11LAND"),
    (0x11fe7, "11SALT PAN,11TRADITIONAL CREDIT,21NUMBER,11CURRENT,11AND ODD,11SPENT"),
    (0x11fed, "11TOTAL,11IN POSSESSION,11STARTING FROM,10SIGN MUTHALIYA,20VAKAIYARAA"),
    (0x11fff, "10PUNCTUATION END OF TEXT")]

/-- The packed names of cuneiform signs. -/
def cuneiformNames : List (Nat × String) :=
  [
    (0x12000, "00CUNEIFORM SIGN A,30TIMES A,40BAD,40GAN2 TENU,40HA,40IGI,40LAGAR GUNU"),
    (0x12007, "40MUSH,40SAG,20A2,20AB,30TIMES ASH2,40DUN3 GUNU,40GAL,40GAN2 TENU,40HA"),
    (0x12010, "40IGI GUNU,40IMIN,40LAGAB,40SHESH,40U PLUS U PLUS U,30GUNU,20AB2"),
    (0x12017, "30TIMES BALAG,40GAN2 TENU,40ME PLUS EN,40SHA3,40TAK4,20AD,20AK"),
    (0x1201e, "30TIMES ERIN2,40SHITA PLUS GISH,20AL,30TIMES AL,40DIM2,40GISH,40HA"),
    (0x12025, "40KAD3,40KI,40SHE,40USH,20ALAN,20ALEPH,20AMAR,30TIMES SHE,20AN"),
    (0x1202e, "30OVER AN,30THREE TIMES,30PLUS NAGA OPPOSING AN PLUS NAGA,50SQUARED"),
    (0x12032, "20ANSHE,20APIN,20ARAD,30TIMES KUR,20ARKAB,20ASAL2,20ASH,30ZIDA TENU"),
    (0x1203a, "31KABA,30OVER ASH TUG2 OVER TUG2 TUG2 OVER TUG2 PAP,50OVER ASH"),
    (0x1203d, "70CROSSING ASH OVER ASH OVER ASH,20ASH2,20ASHGAB,20BA,20BAD,20BAG3"),
    (0x12043, "20BAHAR2,20BAL,30OVER BAL,20BALAG,20BAR,20BARA2,20BI,30TIMES A,40GAR"),
    (0x1204c, "40IGI GUNU,20BU,30OVER BU AB,50UN,30CROSSING BU,20BULUG,30OVER BULUG"),
    (0x12053, "20BUR,20BUR2,20DA,20DAG,30KISIM5 TIMES A PLUS MASH,50AMAR,50BALAG,50BI"),
    (0x1205b, "50GA,60PLUS MASH,50GI,50GIR2,50GUD,50HA,50IR,60PLUS LU,50KAK,50LA,50LU"),
    (0x12066, "60PLUS MASH2,50LUM,50NE,50PAP PLUS PAP,50SI,50TAK4,50U2 PLUS GIR2"),
    (0x1206d, "50USH,20DAM,20DAR,20DARA3,20DARA4,20DI,20DIB,20DIM,30TIMES SHE,20DIM2"),
    (0x12077, "20DIN,30KASKAL U GUNU DISH,21,20DU,30OVER DU,30GUNU,30SHESHIG,20DUB"),
    (0x1207f, "30TIMES ESH2,20DUB2,20DUG,20DUGUD,20DUH,20DUN,20DUN3,30GUNU,40GUNU"),
    (0x12088, "20DUN4,20DUR2,20E,30TIMES PAP,30OVER E NUN OVER NUN,20E2"),
    (0x1208e, "30TIMES A PLUS HA PLUS DA,40GAR,40MI,40SAL,40SHE,40U,20EDIN,20EGIR"),
    (0x12096, "20EL,20EN,30TIMES GAN2,50TENU,40ME,30CROSSING EN,31OPPOSING,30SQUARED"),
    (0x1209e, "20EREN,20ERIN2,20ESH2,20EZEN,30TIMES A,50PLUS LAL,70TIMES LAL,40AN"),
    (0x120a6, "40BAD,40DUN3 GUNU,60GUNU,40HA,50GUNU,41IGI,40KASKAL,50SQUARED,40KU3"),
    (0x120af, "40LA,40LAL TIMES LAL,40LI,40LU,40U2,40UD,20GA,30GUNU,20GA2"),
    (0x120b8, "30TIMES A PLUS DA PLUS HA,61,60IGI,40AB2 TENU PLUS TAB,40AN,40ASH"),
    (0x120be, "40ASH2 PLUS GAL,40BAD,40BAR PLUS RA,40BUR,50PLUS RA,40DA,40DI"),
    (0x120c5, "40DIM TIMES SHE,40DUB,40EL,50PLUS LA,40EN,50TIMES GAN2 TENU,42,40GAR"),
    (0x120cd, "40GI,40GI4,50PLUS A,40GIR2 PLUS SU,40HA PLUS LU PLUS ESH2,40HAL"),
    (0x120d3, "50PLUS LA,40HI PLUS LI,40HUB2,40IGI GUNU,40ISH PLUS HU PLUS ASH,40KAK"),
    (0x120d9, "40KASKAL,40KID,50PLUS LAL,40KU3 PLUS AN,40LA,40ME PLUS EN,40MI,40NUN"),
    (0x120e1, "50OVER NUN,40PA,40SAL,40SAR,40SHE,50PLUS TUR,40SHID,40SUM,40TAK4,40U"),
    (0x120eb, "40UD,50PLUS DU,30OVER GA2,20GABA,30CROSSING GABA,20GAD"),
    (0x120f1, "30OVER GAD GAR OVER GAR,20GAL,30GAD OVER GAD GAR OVER GAR,20GALAM"),
    (0x120f5, "20GAM,20GAN,20GAN2,30TENU,30OVER GAN2,31CROSSING,20GAR,20GAR3,20GASHAN"),
    (0x120fe, "20GESHTIN,30TIMES KUR,20GI,30TIMES E,40U,30CROSSING GI,20GI4"),
    (0x12105, "30OVER GI4,31CROSSING,20GIDIM,20GIR2,30GUNU,20GIR3,30TIMES A PLUS IGI"),
    (0x1210c, "40GAN2 TENU,40IGI,41LU PLUS,40PA,20GISAL,20GISH,30CROSSING GISH"),
    (0x12113, "30TIMES BAD,40TAK4,30TENU,20GU,30CROSSING GU,20GU2,30TIMES KAK"),
    (0x1211a, "50TIMES IGI GUNU,40NUN,40SAL PLUS TUG2,30GUNU,20GUD,30TIMES A PLUS KUR"),
    (0x12120, "41,30OVER GUD LUGAL,20GUL,20GUM,30TIMES SHE,20GUR,20GUR7,20GURUN"),
    (0x12128, "20GURUSH,20HA,30TENU,30GUNU,20HAL,20HI,30TIMES ASH,40ASH2,40BAD,40DISH"),
    (0x12132, "40GAD,40KIN,40NUN,40SHE,40U,20HU,20HUB2,30TIMES AN,40HAL,40KASKAL"),
    (0x1213c, "40LISH,40UD,20HUL2,20I,30A,20IB,20IDIM,30OVER IDIM BUR,50SQUARED,20IG"),
    (0x12146, "20IGI,30DIB,30RI,30OVER IGI SHIR OVER SHIR UD OVER UD,30GUNU,20IL"),
    (0x1214c, "30TIMES GAN2 TENU,20IL2,20IM,30TIMES TAK4,30CROSSING IM,31OPPOSING"),
    (0x12152, "30SQUARED,20IMIN,20IN,20IR,20ISH,20KA,30TIMES A,40AD,50PLUS KU3,40ASH2"),
    (0x1215c, "40BAD,40BALAG,40BAR,40BI,40ERIN2,40ESH2,40GA,40GAL,40GAN2 TENU,40GAR"),
    (0x12166, "50PLUS SHA3 PLUS A,40GI,40GIR2,40GISH PLUS SAR,50CROSSING GISH,40GU"),
    (0x1216c, "40GUR7,40IGI,40IM,40KAK,40KI,40KID,40LI,40LU,40ME,50PLUS DU,60GI,60TE"),
    (0x12178, "40MI,50PLUS NUNUZ,40NE,40NUN,40PI,40RU,40SA,40SAR,40SHA,40SHE,40SHID"),
    (0x12183, "40SHU,40SIG,40SUHUR,40TAR,40U,40U2,40UD,40UMUM TIMES PA,40USH,40ZI"),
    (0x1218d, "20KA2,30CROSSING KA2,20KAB,20KAD2,20KAD3,20KAD4,20KAD5,30OVER KAD5"),
    (0x12195, "20KAK,30TIMES IGI GUNU,20KAL,30TIMES BAD,30CROSSING KAL,20KAM2,20KAM4"),
    (0x1219c, "20KASKAL,30LAGAB TIMES U OVER LAGAB TIMES U,37OVER KASKAL,20KESH2,20KI"),
    (0x121a1, "30TIMES BAD,40U,40UD,20KID,20KIN,20KISAL,20KISH,20KISIM5,30OVER KISIM5"),
    (0x121aa, "20KU,30OVER HI TIMES ASH2 KU OVER HI TIMES ASH2,20KU3,20KU4"),
    (0x121ae, "30VARIANT FORM,20KU7,20KUL,30GUNU,20KUN,20KUR,30OPPOSING KUR,20KUSHU2"),
    (0x121b6, "20KWU318,20LA,20LAGAB,30TIMES A,50PLUS DA PLUS HA,60GAR,60LAL,40AL"),
    (0x121be, "40AN,40ASH ZIDA TENU,40BAD,40BI,40DAR,40EN,40GA,40GAR,40GUD,50PLUS GUD"),
    (0x121c8, "40HA,40HAL,40HI TIMES NUN,40IGI GUNU,40IM,50PLUS HA,60LU,40KI,40KIN"),
    (0x121d1, "40KU3,40KUL,50PLUS HI PLUS A,40LAGAB,40LISH,40LU,40LUL,40ME,50PLUS EN"),
    (0x121da, "40MUSH,40NE,40SHE PLUS SUM,40SHITA PLUS GISH PLUS ERIN2,70TENU,40SHU2"),
    (0x121e0, "50PLUS SHU2,40SUM,40TAG,40TAK4,40TE PLUS A PLUS SU PLUS NA,40U"),
    (0x121e6, "50PLUS A,60U PLUS U,40U2 PLUS ASH,40UD,40USH,30SQUARED,20LAGAR"),
    (0x121ed, "30TIMES SHE,50PLUS SUM,30GUNU,40OVER LAGAR GUNU SHE,20LAHSHU,20LAL"),
    (0x121f3, "30TIMES LAL,20LAM,30TIMES KUR,50PLUS RU,20LI,20LIL,20LIMMU2,20LISH"),
    (0x121fb, "20LU,30TIMES BAD,20LU2,30TIMES AL,40BAD,40ESH2,50TENU,41GAN2"),
    (0x12203, "40HI TIMES BAD,40IM,40KAD2,40KAD3,50PLUS ASH,40KI,40LA PLUS ASH"),
    (0x1220a, "40LAGAB,40ME PLUS EN,40NE,40NU,40SI PLUS ASH,40SIK2 PLUS BU,40TUG2"),
    (0x12211, "30TENU,30CROSSING LU2,31OPPOSING,30SQUARED,30SHESHIG,20LU3,20LUGAL"),
    (0x12218, "30OVER LUGAL,31OPPOSING,30SHESHIG,20LUH,20LUL,20LUM,30OVER LUM"),
    (0x1221f, "50GAR OVER GAR,20MA,30TIMES TAK4,30GUNU,20MA2,20MAH,20MAR,20MASH"),
    (0x12227, "20MASH2,20ME,20MES,20MI,20MIN,20MU,30OVER MU,20MUG,30GUNU,20MUNSUB"),
    (0x12231, "20MURGU2,20MUSH,30TIMES A,40KUR,40ZA,30OVER MUSH,50TIMES A PLUS NA"),
    (0x12238, "30CROSSING MUSH,20MUSH3,30TIMES A,50PLUS DI,41,30GUNU,20NA,20NA2"),
    (0x12240, "20NAGA,30INVERTED,30TIMES SHU TENU,30OPPOSING NAGA,20NAGAR"),
    (0x12245, "20NAM NUTILLU,30,20NAM2,20NE,30TIMES A,40UD,30SHESHIG,20NI,30TIMES E"),
    (0x1224e, "20NI2,20NIM,30TIMES GAN2 TENU,42GAR PLUS,20NINDA2,30TIMES AN,40ASH"),
    (0x12255, "50PLUS ASH,40GUD,40ME PLUS GAN2 TENU,40NE,40NUN,40SHE,50PLUS A AN"),
    (0x1225c, "60ASH,70PLUS ASH,42U2,40USH,20NISAG,20NU,20NU11,20NUN"),
    (0x12264, "30LAGAR TIMES GAR,50MASH,50SAL,60OVER NUN LAGAR TIMES SAL,50USH,30TENU"),
    (0x1226a, "30OVER NUN,31CROSSING,50LAGAR OVER LAGAR,20NUNUZ,30AB2 TIMES ASHGAB"),
    (0x1226f, "50BI,50DUG,50GUD,50IGI GUNU,50KAD3,50LA,50NE,50SILA3,50U2"),
    (0x12278, "30KISIM5 TIMES BI,60U,20PA,20PAD,20PAN,20PAP,20PESH2,20PI,30TIMES A"),
    (0x12281, "40AB,40BI,40BU,40E,40I,40IB,40U,40U2,30CROSSING PI,20PIRIG,30TIMES KAL"),
    (0x1228c, "40UD,40ZA,30OPPOSING PIRIG,20RA,20RAB,20RI,20RU,20SA,20SAG NUTILLU,30"),
    (0x12296, "30TIMES A,40DU,40DUB,40HA,40KAK,40KUR,40LUM,40MI,40NUN,40SAL,40SHID"),
    (0x122a1, "40TAB,40U2,40UB,40UM,40UR,40USH,30OVER SAG,30GUNU,20SAL"),
    (0x122aa, "30LAGAB TIMES ASH2,20SANGA2,20SAR,20SHA,20SHA3,30TIMES A,40BAD,40GISH"),
    (0x122b2, "40NE,40SHU2,40TUR,40U,50PLUS A,20SHA6,20SHAB6,20SHAR2,20SHE,30HU"),
    (0x122bc, "30OVER SHE GAD OVER GAD GAR OVER GAR,53TAB OVER TAB,20SHEG9,20SHEN"),
    (0x122c0, "20SHESH,20SHESH2,20SHESHLAM,20SHID,30TIMES A,40IM,20SHIM,30TIMES A"),
    (0x122c8, "40BAL,40BULUG,40DIN,40GAR,40IGI,50GUNU,40KUSHU2,40LUL,40MUG,40SAL"),
    (0x122d2, "20SHINIG,20SHIR,30TENU,30OVER SHIR BUR OVER BUR,20SHITA,20SHU"),
    (0x122d8, "30OVER INVERTED SHU,20SHU2,20SHUBUR,20SI,30GUNU,20SIG,20SIG4"),
    (0x122df, "30OVER SIG4 SHU2,20SIK2,20SILA3,20SU,30OVER SU,20SUD,20SUD2,20SUHUR"),
    (0x122e7, "20SUM,20SUMASH,20SUR,20SUR9,20TA,30ASTERISK,30TIMES HI,40MI,30GUNU"),
    (0x122f0, "20TAB,30OVER TAB NI OVER NI DISH OVER DISH,30SQUARED,20TAG,30TIMES BI"),
    (0x122f5, "40GUD,40SHE,40SHU,40TUG2,40UD,20TAK4,20TAR,20TE,30GUNU,20TI,30TENU"),
    (0x12300, "20TIL,20TIR,30TIMES TAK4,30OVER TIR,50GAD OVER GAD GAR OVER GAR,20TU"),
    (0x12306, "20TUG2,20TUK,20TUM,20TUR,30OVER TUR ZA OVER ZA,20U,30GUD,30U U"),
    (0x1230e, "30OVER U PA OVER PA GAR OVER GAR,50SUR OVER SUR"),
    (0x12310, "50U REVERSED OVER U REVERSED,20U2,20UB,20UD,30KUSHU2,30TIMES BAD,40MI"),
    (0x12317, "40U PLUS U PLUS U,90GUNU,31,30SHESHIG,40TIMES BAD,20UDUG,20UM"),
    (0x1231e, "30TIMES LAGAB,40ME PLUS DA,40SHA3,40U,20UMBIN,20UMUM,30TIMES KASKAL"),
    (0x12325, "40PA,20UN,30GUNU,20UR,30CROSSING UR,30SHESHIG,20UR2,30TIMES A PLUS HA"),
    (0x1232d, "60NA,40AL,40HA,40NUN,40U2,50PLUS ASH,60BI,20UR4,20URI,20URI3,20URU"),
    (0x12338, "30TIMES A,40ASHGAB,40BAR,40DUN,40GA,40GAL,40GAN2 TENU,40GAR,40GU,40HA"),
    (0x12342, "40IGI,40IM,40ISH,40KI,40LUM,40MIN,40PA,40SHE,40SIG4,40TU,40U PLUS GUD"),
    (0x1234d, "40UD,40URUDA,21,30TIMES U,20USH,30TIMES A,40KU,40KUR,40TAK4,20USHX"),
    (0x12357, "20USH2,20USHUMX,20UTUKI,20UZ3,30TIMES KASKAL,20UZU,20ZA,30TENU"),
    (0x1235f, "30SQUARED TIMES KUR,20ZAG,20ZAMX,20ZE2,20ZI,30OVER ZI,20ZI3,20ZIB"),
    (0x12367, "30KABA TENU,20ZIG,20ZIZ2,20ZU,20ZU5,30TIMES A,20ZUBUR,20ZUM"),
    (0x1236f, "20KAP ELAMITE,20AB TIMES NUN,20AB2 TIMES A,20AMAR TIMES KUG"),
    (0x12373, "20DAG KISIM5 TIMES U2 PLUS MASH,20DAG3,20DISH PLUS SHU,20DUB TIMES SHE"),
    (0x12377, "20EZEN TIMES GUD,40SHE,20GA2 TIMES AN PLUS KAK PLUS A,40ASH2,20GE22"),
    (0x1237c, "20GIG,20HUSH,20KA TIMES ANSHE,40ASH3,40GISH,40GUD,40HI TIMES ASH2"),
    (0x12383, "40LUM,40PA,40SHUL,40TU,40UR2,20LAGAB TIMES GI,20LU2 SHESHIG TIMES BAD"),
    (0x1238a, "30TIMES ESH2 PLUS LAL,40SHU,20MESH,20MUSH3 TIMES ZA,20NA4,20NIN,20NIN9"),
    (0x12391, "20NINDA2 TIMES BAL,40GI,20NU11 ROTATED NINETY DEGREES,20PESH2 ASTERISK"),
    (0x12395, "20PIR2,20SAG TIMES IGI GUNU,20TI2,20UM TIMES ME,20U U"),
    (0x12400, "10NUMERIC SIGN TWO ASH,31THREE,31FOUR,31FIVE,31SIX,31SEVEN,31EIGHT"),
    (0x12407, "31NINE,30THREE DISH,31FOUR,31FIVE,31SIX,31SEVEN,31EIGHT,31NINE"),
    (0x1240f, "30FOUR U,31FIVE,31SIX,31SEVEN,31EIGHT,31NINE,30ONE GESH2,31TWO,31THREE"),
    (0x12418, "31FOUR,31FIVE,31SIX,31SEVEN,31EIGHT,31NINE,30ONE GESHU,31TWO,31THREE"),
    (0x12421, "31FOUR,31FIVE,30TWO SHAR2,31THREE,50VARIANT FORM,30FOUR SHAR2,31FIVE"),
    (0x12428, "31SIX,31SEVEN,31EIGHT,31NINE,30ONE SHARU,31TWO,31THREE,50VARIANT FORM"),
    (0x12430, "30FOUR SHARU,31FIVE,30SHAR2 TIMES GAL PLUS DISH,70MIN,30ONE BURU,31TWO"),
    (0x12436, "31THREE,50VARIANT FORM,30FOUR BURU,31FIVE,30THREE VARIANT FORM ESH16"),
    (0x1243b, "60ESH21,30FOUR VARIANT FORM LIMMU,60LIMMU4,60LIMMU A,70B"),
    (0x12440, "30SIX VARIANT FORM ASH9,30SEVEN VARIANT FORM IMIN3,60IMIN A,70B"),
    (0x12444, "30EIGHT VARIANT FORM USSU,60USSU3,30NINE VARIANT FORM ILIMMU,60ILIMMU3"),
    (0x12448, "60ILIMMU4,60ILIMMU A,30TWO ASH TENU,32THREE,32FOUR,32FIVE,32SIX"),
    (0x1244f, "30ONE BAN2,31TWO,31THREE,31FOUR,50VARIANT FORM,30FIVE BAN2"),
    (0x12455, "50VARIANT FORM,30NIGIDAMIN,30NIGIDAESH,30ONE ESHE3,31TWO"),
    (0x1245a, "30ONE THIRD DISH,31TWO THIRDS,31FIVE SIXTHS,30ONE THIRD VARIANT FORM A"),
    (0x1245e, "33TWO THIRDS,30ONE EIGHTH ASH,41QUARTER,30OLD ASSYRIAN ONE SIXTH"),
    (0x12462, "60QUARTER,30ONE QUARTER GUR,41HALF,30ELAMITE ONE THIRD,40TWO THIRDS"),
    (0x12467, "40FORTY,40FIFTY,30FOUR U VARIANT FORM,33FIVE,33SIX,33SEVEN,33EIGHT"),
    (0x1246e, "33NINE"),
    (0x12470, "10PUNCTUATION SIGN OLD ASSYRIAN WORD DIVIDER,30VERTICAL COLON"),
    (0x12472, "31DIAGONAL,40TRICOLON,40QUADCOLON"),
    (0x12480, "10SIGN AB TIMES NUN TENU,40SHU2,20AD TIMES ESH2,20BAD TIMES DISH TENU"),
    (0x12484, "20BAHAR2 TIMES AB2,40NI,40ZA,20BU OVER BU TIMES NA2,20DA TIMES TAK4"),
    (0x12489, "20DAG TIMES KUR,20DIM TIMES IGI,40U U U,20DIM2 TIMES UD"),
    (0x1248d, "20DUG TIMES ANSHE,40ASH,50AT LEFT,40DIN,40DUN,40ERIN2,40GA,40GI"),
    (0x12495, "40GIR2 GUNU,40GISH,40HA,40HI,40IGI GUNU,40KASKAL,40KUR,40KUSHU2"),
    (0x1249d, "50PLUS KASKAL,40LAK-020,40LAM,50TIMES KUR,40LUH PLUS GISH,40MASH,40MES"),
    (0x124a4, "40MI,40NI,40PI,40SHE,40SI GUNU,20E2 TIMES KUR,40PAP,20ERIN2 X"),
    (0x124ac, "20ESH2 CROSSING ESH2,20EZEN SHESHIG TIMES ASH,50HI,50IGI GUNU,50LA"),
    (0x124b1, "50LAL,50ME,50MES,50SU,32,20GA2 TIMES BAHAR2,40DIM GUNU,41DUG TIMES IGI"),
    (0x124b9, "60KASKAL,40EREN,40GA,40GAR PLUS DI,60NE,40HA PLUS A"),
    (0x124bf, "40KUSHU2 PLUS KASKAL,40LAM,50TIMES KUR,40LUH,40MUSH,40NE,50PLUS E2"),
    (0x124c6, "60GI,40SHIM,40ZIZ2,20GABA ROTATED NINETY DEGREES,20GESHTIN TIMES U"),
    (0x124cb, "20GISH TIMES GISH CROSSING GISH,20GU2 TIMES IGI GUNU"),
    (0x124cd, "20GUD PLUS GISH TIMES TAK4,20HA TENU GUNU"),
    (0x124cf, "20HI TIMES ASH OVER HI TIMES ASH,20KA TIMES BU,40KA,40U U U,40UR"),
    (0x124d4, "20LAGAB TIMES ZU OVER ZU,20LAK-003,20LAK-021,20LAK-025,20LAK-030"),
    (0x124d9, "20LAK-050,20LAK-051,20LAK-062,20LAK-079 OVER LAK-079 GUNU,20LAK-080"),
    (0x124de, "20LAK-081 OVER LAK-081,20LAK-092,20LAK-130,20LAK-142,20LAK-210"),
    (0x124e3, "20LAK-219,20LAK-220,20LAK-225,20LAK-228,20LAK-238,20LAK-265,20LAK-266"),
    (0x124ea, "20LAK-343,20LAK-347,20LAK-348,20LAK-383,20LAK-384,20LAK-390,20LAK-441"),
    (0x124f1, "20LAK-449,30TIMES GU,40IGI,40PAP PLUS LU3,61PAP PLUS,40U2 PLUS BA"),
    (0x124f7, "20LAK-450,20LAK-457,20LAK-470,20LAK-483,20LAK-490,20LAK-492,20LAK-493"),
    (0x124fe, "20LAK-495,20LAK-550,20LAK-608,20LAK-617,30TIMES ASH,40BAD"),
    (0x12504, "40DUN3 GUNU GUNU,40KU3,40LA,40TAR,40TE,40U2,40UD,40URUDA,20LAK-636"),
    (0x1250d, "20LAK-648,30TIMES DUB,40GA,40IGI,50GUNU,40NI,40PAP PLUS PAP PLUS LU3"),
    (0x12514, "40SHESH PLUS KI,40UD,40URUDA,20LAK-724,20LAK-749,20LU2 GUNU TIMES ASH"),
    (0x1251a, "30TIMES DISH,40HAL,40PAP,50PLUS PAP PLUS LU3,40TAK4,20MI PLUS ZA7"),
    (0x12520, "20MUSH OVER MUSH TIMES GA,60KAK,20NINDA2 TIMES DIM GUNU,40GISH,40GUL"),
    (0x12525, "40HI,40KESH2,40LAK-050,40MASH,40PAP PLUS PAP,40U,50PLUS U,40URUDA"),
    (0x1252d, "20SAG GUNU TIMES HA,30TIMES EN,40SHE AT LEFT,40TAK4,20SHA6 TENU"),
    (0x12532, "20SHE OVER SHE,30PLUS HUB2,40NAM2,40SAR,20SHU2 PLUS DUG TIMES NI"),
    (0x12537, "40E2 TIMES AN,20SI TIMES TAK4,20TAK4 PLUS SAG,20TUM TIMES GAN2 TENU"),
    (0x1253b, "40THREE DISH,20UR2 INVERTED,30TIMES UD,20URU TIMES DARA3,40LAK-668"),
    (0x12540, "40LU3,20ZA7,20ZU OVER ZU PLUS SAR,20ZU5 TIMES THREE DISH TENU"),
    (0x12f90, "00CYPRO-MINOAN SIGN CM001,20CM002,20CM004,20CM005,20CM006,20CM007"),
    (0x12f96, "20CM008,20CM009,20CM010,20CM011,20CM012,20CM012B,20CM013,20CM015"),
    (0x12f9e, "20CM017,20CM019,20CM021,20CM023,20CM024,20CM025,20CM026,20CM027"),
    (0x12fa6, "20CM028,20CM029,20CM030,20CM033,20CM034,20CM035,20CM036,20CM037"),
    (0x12fae, "20CM038,20CM039,20CM040,20CM041,20CM044,20CM046,20CM047,20CM049"),
    (0x12fb6, "20CM050,20CM051,20CM052,20CM053,20CM054,20CM055,20CM056,20CM058"),
    (0x12fbe, "20CM059,20CM060,20CM061,20CM062,20CM063,20CM064,20CM066,20CM067"),
    (0x12fc6, "20CM068,20CM069,20CM070,20CM071,20CM072,20CM073,20CM074,20CM075"),
    (0x12fce, "20CM075B,20CM076,20CM078,20CM079,20CM080,20CM081,20CM082,20CM083"),
    (0x12fd6, "20CM084,20CM085,20CM086,20CM087,20CM088,20CM089,20CM090,20CM091"),
    (0x12fde, "20CM092,20CM094,20CM095,20CM096,20CM097,20CM098,20CM099,20CM100"),
    (0x12fe6, "20CM101,20CM102,20CM103,20CM104,20CM105,20CM107,20CM108,20CM109"),
    (0x12fee, "20CM110,20CM112,20CM114,20CM301,20CM302")]

/-- The packed names of hieroglyphs. -/
def hieroglyphNames : List (Nat × String) :=
  [
    (0x13000, "00EGYPTIAN HIEROGLYPH A001,20A002,20A003,20A004,20A005,20A005A,20A006"),
    (0x13007, "20A006A,20A006B,20A007,20A008,20A009,20A010,20A011,20A012,20A013"),
    (0x13010, "20A014,20A014A,20A015,20A016,20A017,20A017A,20A018,20A019,20A020"),
    (0x13019, "20A021,20A022,20A023,20A024,20A025,20A026,20A027,20A028,20A029,20A030"),
    (0x13023, "20A031,20A032,20A032A,20A033,20A034,20A035,20A036,20A037,20A038,20A039"),
    (0x1302d, "20A040,20A040A,20A041,20A042,20A042A,20A043,20A043A,20A044,20A045"),
    (0x13036, "20A045A,20A046,20A047,20A048,20A049,20A050,20A051,20A052,20A053,20A054"),
    (0x13040, "20A055,20A056,20A057,20A058,20A059,20A060,20A061,20A062,20A063,20A064"),
    (0x1304a, "20A065,20A066,20A067,20A068,20A069,20A070,20B001,20B002,20B003,20B004"),
    (0x13054, "20B005,20B005A,20B006,20B007,20B008,20B009,20C001,20C002,20C002A"),
    (0x1305d, "20C002B,20C002C,20C003,20C004,20C005,20C006,20C007,20C008,20C009"),
    (0x13066, "20C010,20C010A,20C011,20C012,20C013,20C014,20C015,20C016,20C017,20C018"),
    (0x13070, "20C019,20C020,20C021,20C022,20C023,20C024,20D001,20D002,20D003,20D004"),
    (0x1307a, "20D005,20D006,20D007,20D008,20D008A,20D009,20D010,20D011,20D012,20D013"),
    (0x13084, "20D014,20D015,20D016,20D017,20D018,20D019,20D020,20D021,20D022,20D023"),
    (0x1308e, "20D024,20D025,20D026,20D027,20D027A,20D028,20D029,20D030,20D031"),
    (0x13097, "20D031A,20D032,20D033,20D034,20D034A,20D035,20D036,20D037,20D038"),
    (0x130a0, "20D039,20D040,20D041,20D042,20D043,20D044,20D045,20D046,20D046A,20D047"),
    (0x130aa, "20D048,20D048A,20D049,20D050,20D050A,20D050B,20D050C,20D050D,20D050E"),
    (0x130b3, "20D050F,20D050G,20D050H,20D050I,20D051,20D052,20D052A,20D053,20D054"),
    (0x130bc, "20D054A,20D055,20D056,20D057,20D058,20D059,20D060,20D061,20D062,20D063"),
    (0x130c6, "20D064,20D065,20D066,20D067,20D067A,20D067B,20D067C,20D067D,20D067E"),
    (0x130cf, "20D067F,20D067G,20D067H,20E001,20E002,20E003,20E004,20E005,20E006"),
    (0x130d8, "20E007,20E008,20E008A,20E009,20E009A,20E010,20E011,20E012,20E013"),
    (0x130e1, "20E014,20E015,20E016,20E016A,20E017,20E017A,20E018,20E019,20E020"),
    (0x130ea, "20E020A,20E021,20E022,20E023,20E024,20E025,20E026,20E027,20E028"),
    (0x130f3, "20E028A,20E029,20E030,20E031,20E032,20E033,20E034,20E034A,20E036"),
    (0x130fc, "20E037,20E038,20F001,20F001A,20F002,20F003,20F004,20F005,20F006,20F007"),
    (0x13106, "20F008,20F009,20F010,20F011,20F012,20F013,20F013A,20F014,20F015,20F016"),
    (0x13110, "20F017,20F018,20F019,20F020,20F021,20F021A,20F022,20F023,20F024,20F025"),
    (0x1311a, "20F026,20F027,20F028,20F029,20F030,20F031,20F031A,20F032,20F033,20F034"),
    (0x13124, "20F035,20F036,20F037,20F037A,20F038,20F038A,20F039,20F040,20F041"),
    (0x1312d, "20F042,20F043,20F044,20F045,20F045A,20F046,20F046A,20F047,20F047A"),
    (0x13136, "20F048,20F049,20F050,20F051,20F051A,20F051B,20F051C,20F052,20F053"),
    (0x1313f, "20G001,20G002,20G003,20G004,20G005,20G006,20G006A,20G007,20G007A"),
    (0x13148, "20G007B,20G008,20G009,20G010,20G011,20G011A,20G012,20G013,20G014"),
    (0x13151, "20G015,20G016,20G017,20G018,20G019,20G020,20G020A,20G021,20G022,20G023"),
    (0x1315b, "20G024,20G025,20G026,20G026A,20G027,20G028,20G029,20G030,20G031,20G032"),
    (0x13165, "20G033,20G034,20G035,20G036,20G036A,20G037,20G037A,20G038,20G039"),
    (0x1316e, "20G040,20G041,20G042,20G043,20G043A,20G044,20G045,20G045A,20G046"),
    (0x13177, "20G047,20G048,20G049,20G050,20G051,20G052,20G053,20G054,20H001,20H002"),
    (0x13181, "20H003,20H004,20H005,20H006,20H006A,20H007,20H008,20I001,20I002,20I003"),
    (0x1318b, "20I004,20I005,20I005A,20I006,20I007,20I008,20I009,20I009A,20I010"),
    (0x13194, "20I010A,20I011,20I011A,20I012,20I013,20I014,20I015,20K001,20K002"),
    (0x1319d, "20K003,20K004,20K005,20K006,20K007,20K008,20L001,20L002,20L002A,20L003"),
    (0x131a7, "20L004,20L005,20L006,20L006A,20L007,20L008,20M001,20M001A,20M001B"),
    (0x131b0, "20M002,20M003,20M003A,20M004,20M005,20M006,20M007,20M008,20M009,20M010"),
    (0x131ba, "20M010A,20M011,20M012,20M012A,20M012B,20M012C,20M012D,20M012E,20M012F"),
    (0x131c3, "20M012G,20M012H,20M013,20M014,20M015,20M015A,20M016,20M016A,20M017"),
    (0x131cc, "20M017A,20M018,20M019,20M020,20M021,20M022,20M022A,20M023,20M024"),
    (0x131d5, "20M024A,20M025,20M026,20M027,20M028,20M028A,20M029,20M030,20M031"),
    (0x131de, "20M031A,20M032,20M033,20M033A,20M033B,20M034,20M035,20M036,20M037"),
    (0x131e7, "20M038,20M039,20M040,20M040A,20M041,20M042,20M043,20M044,20N001,20N002"),
    (0x131f1, "20N003,20N004,20N005,20N006,20N007,20N008,20N009,20N010,20N011,20N012"),
    (0x131fb, "20N013,20N014,20N015,20N016,20N017,20N018,20N018A,20N018B,20N019"),
    (0x13204, "20N020,20N021,20N022,20N023,20N024,20N025,20N025A,20N026,20N027,20N028"),
    (0x1320e, "20N029,20N030,20N031,20N032,20N033,20N033A,20N034,20N034A,20N035"),
    (0x13217, "20N035A,20N036,20N037,20N037A,20N038,20N039,20N040,20N041,20N042"),
    (0x13220, "20NL001,20NL002,20NL003,20NL004,20NL005,20NL005A,20NL006,20NL007"),
    (0x13228, "20NL008,20NL009,20NL010,20NL011,20NL012,20NL013,20NL014,20NL015"),
    (0x13230, "20NL016,20NL017,20NL017A,20NL018,20NL019,20NL020,20NU001,20NU002"),
    (0x13238, "20NU003,20NU004,20NU005,20NU006,20NU007,20NU008,20NU009,20NU010"),
    (0x13240, "20NU010A,20NU011,20NU011A,20NU012,20NU013,20NU014,20NU015,20NU016"),
    (0x13248, "20NU017,20NU018,20NU018A,20NU019,20NU020,20NU021,20NU022,20NU022A"),
    (0x13250, "20O001,20O001A,20O002,20O003,20O004,20O005,20O005A,20O006,20O006A"),
    (0x13259, "20O006B,20O006C,20O006D,20O006E,20O006F,20O007,20O008,20O009,20O010"),
    (0x13262, "20O010A,20O010B,20O010C,20O011,20O012,20O013,20O014,20O015,20O016"),
    (0x1326b, "20O017,20O018,20O019,20O019A,20O020,20O020A,20O021,20O022,20O023"),
    (0x13274, "20O024,20O024A,20O025,20O025A,20O026,20O027,20O028,20O029,20O029A"),
    (0x1327d, "20O030,20O030A,20O031,20O032,20O033,20O033A,20O034,20O035,20O036"),
    (0x13286, "20O036A,20O036B,20O036C,20O036D,20O037,20O038,20O039,20O040,20O041"),
    (0x1328f, "20O042,20O043,20O044,20O045,20O046,20O047,20O048,20O049,20O050,20O050A"),
    (0x13299, "20O050B,20O051,20P001,20P001A,20P002,20P003,20P003A,20P004,20P005"),
    (0x132a2, "20P006,20P007,20P008,20P009,20P010,20P011,20Q001,20Q002,20Q003,20Q004"),
    (0x132ac, "20Q005,20Q006,20Q007,20R001,20R002,20R002A,20R003,20R003A,20R003B"),
    (0x132b5, "20R004,20R005,20R006,20R007,20R008,20R009,20R010,20R010A,20R011,20R012"),
    (0x132bf, "20R013,20R014,20R015,20R016,20R016A,20R017,20R018,20R019,20R020,20R021"),
    (0x132c9, "20R022,20R023,20R024,20R025,20R026,20R027,20R028,20R029,20S001,20S002"),
    (0x132d3, "20S002A,20S003,20S004,20S005,20S006,20S006A,20S007,20S008,20S009"),
    (0x132dc, "20S010,20S011,20S012,20S013,20S014,20S014A,20S014B,20S015,20S016"),
    (0x132e5, "20S017,20S017A,20S018,20S019,20S020,20S021,20S022,20S023,20S024,20S025"),
    (0x132ef, "20S026,20S026A,20S026B,20S027,20S028,20S029,20S030,20S031,20S032"),
    (0x132f8, "20S033,20S034,20S035,20S035A,20S036,20S037,20S038,20S039,20S040,20S041"),
    (0x13302, "20S042,20S043,20S044,20S045,20S046,20T001,20T002,20T003,20T003A,20T004"),
    (0x1330c, "20T005,20T006,20T007,20T007A,20T008,20T008A,20T009,20T009A,20T010"),
    (0x13315, "20T011,20T011A,20T012,20T013,20T014,20T015,20T016,20T016A,20T017"),
    (0x1331e, "20T018,20T019,20T020,20T021,20T022,20T023,20T024,20T025,20T026,20T027"),
    (0x13328, "20T028,20T029,20T030,20T031,20T032,20T032A,20T033,20T033A,20T034"),
    (0x13331, "20T035,20T036,20U001,20U002,20U003,20U004,20U005,20U006,20U006A"),
    (0x1333a, "20U006B,20U007,20U008,20U009,20U010,20U011,20U012,20U013,20U014,20U015"),
    (0x13344, "20U016,20U017,20U018,20U019,20U020,20U021,20U022,20U023,20U023A,20U024"),
    (0x1334e, "20U025,20U026,20U027,20U028,20U029,20U029A,20U030,20U031,20U032"),
    (0x13357, "20U032A,20U033,20U034,20U035,20U036,20U037,20U038,20U039,20U040,20U041"),
    (0x13361, "20U042,20V001,20V001A,20V001B,20V001C,20V001D,20V001E,20V001F,20V001G"),
    (0x1336a, "20V001H,20V001I,20V002,20V002A,20V003,20V004,20V005,20V006,20V007"),
    (0x13373, "20V007A,20V007B,20V008,20V009,20V010,20V011,20V011A,20V011B,20V011C"),
    (0x1337c, "20V012,20V012A,20V012B,20V013,20V014,20V015,20V016,20V017,20V018"),
    (0x13385, "20V019,20V020,20V020A,20V020B,20V020C,20V020D,20V020E,20V020F,20V020G"),
    (0x1338e, "20V020H,20V020I,20V020J,20V020K,20V020L,20V021,20V022,20V023,20V023A"),
    (0x13397, "20V024,20V025,20V026,20V027,20V028,20V028A,20V029,20V029A,20V030"),
    (0x133a0, "20V030A,20V031,20V031A,20V032,20V033,20V033A,20V034,20V035,20V036"),
    (0x133a9, "20V037,20V037A,20V038,20V039,20V040,20V040A,20W001,20W002,20W003"),
    (0x133b2, "20W003A,20W004,20W005,20W006,20W007,20W008,20W009,20W009A,20W010"),
    (0x133bb, "20W010A,20W011,20W012,20W013,20W014,20W014A,20W015,20W016,20W017"),
    (0x133c4, "20W017A,20W018,20W018A,20W019,20W020,20W021,20W022,20W023,20W024"),
    (0x133cd, "20W024A,20W025,20X001,20X002,20X003,20X004,20X004A,20X004B,20X005"),
    (0x133d6, "20X006,20X006A,20X007,20X008,20X008A,20Y001,20Y001A,20Y002,20Y003"),
    (0x133df, "20Y004,20Y005,20Y006,20Y007,20Y008,20Z001,20Z002,20Z002A,20Z002B"),
    (0x133e8, "20Z002C,20Z002D,20Z003,20Z003A,20Z003B,20Z004,20Z004A,20Z005,20Z005A"),
    (0x133f1, "20Z006,20Z007,20Z008,20Z009,20Z010,20Z011,20Z012,20Z013,20Z014,20Z015"),
    (0x133fb, "20Z015A,20Z015B,20Z015C,20Z015D,20Z015E,20Z015F,20Z015G,20Z015H"),
    (0x13403, "20Z015I,20Z016,20Z016A,20Z016B,20Z016C,20Z016D,20Z016E,20Z016F,20Z016G"),
    (0x1340c, "20Z016H,20AA001,20AA002,20AA003,20AA004,20AA005,20AA006,20AA007"),
    (0x13414, "20AA007A,20AA007B,20AA008,20AA009,20AA010,20AA011,20AA012,20AA013"),
    (0x1341c, "20AA014,20AA015,20AA016,20AA017,20AA018,20AA019,20AA020,20AA021"),
    (0x13424, "20AA022,20AA023,20AA024,20AA025,20AA026,20AA027,20AA028,20AA029"),
    (0x1342c, "20AA030,20AA031,20AA032"),
    (0x13430, "20VERTICAL JOINER,21HORIZONTAL,20INSERT AT TOP START,41BOTTOM"),
    (0x13434, "40TOP END,41BOTTOM,20OVERLAY MIDDLE,20BEGIN SEGMENT,21END"),
    (0x14400, "00ANATOLIAN HIEROGLYPH A001,20A002,20A003,20A004,20A005,20A006,20A007"),
    (0x14407, "20A008,20A009,20A010,20A010A,20A011,20A012,20A013,20A014,20A015,20A016"),
    (0x14411, "20A017,20A018,20A019,20A020,20A021,20A022,20A023,20A024,20A025,20A026"),
    (0x1441b, "20A026A,20A027,20A028,20A029,20A030,20A031,20A032,20A033,20A034,20A035"),
    (0x14425, "20A036,20A037,20A038,20A039,20A039A,20A040,20A041,20A041A,20A042"),
    (0x1442e, "20A043,20A044,20A045,20A045A,20A046,20A046A,20A046B,20A047,20A048"),
    (0x14437, "20A049,20A050,20A051,20A052,20A053,20A054,20A055,20A056,20A057,20A058"),
    (0x14441, "20A059,20A060,20A061,20A062,20A063,20A064,20A065,20A066,20A066A"),
    (0x1444a, "20A066B,20A066C,20A067,20A068,20A069,20A070,20A071,20A072,20A073"),
    (0x14453, "20A074,20A075,20A076,20A077,20A078,20A079,20A080,20A081,20A082,20A083"),
    (0x1445d, "20A084,20A085,20A086,20A087,20A088,20A089,20A090,20A091,20A092,20A093"),
    (0x14467, "20A094,20A095,20A096,20A097,20A097A,20A098,20A098A,20A099,20A100"),
    (0x14470, "20A100A,20A101,20A101A,20A102,20A102A,20A103,20A104,20A104A,20A104B"),
    (0x14479, "20A104C,20A105,20A105A,20A105B,20A106,20A107,20A107A,20A107B,20A107C"),
    (0x14482, "20A108,20A109,20A110,20A110A,20A110B,20A111,20A112,20A113,20A114"),
    (0x1448b, "20A115,20A115A,20A116,20A117,20A118,20A119,20A120,20A121,20A122,20A123"),
    (0x14495, "20A124,20A125,20A125A,20A126,20A127,20A128,20A129,20A130,20A131,20A132"),
    (0x1449f, "20A133,20A134,20A135,20A135A,20A136,20A137,20A138,20A139,20A140,20A141"),
    (0x144a9, "20A142,20A143,20A144,20A145,20A146,20A147,20A148,20A149,20A150,20A151"),
    (0x144b3, "20A152,20A153,20A154,20A155,20A156,20A157,20A158,20A159,20A160,20A161"),
    (0x144bd, "20A162,20A163,20A164,20A165,20A166,20A167,20A168,20A169,20A170,20A171"),
    (0x144c7, "20A172,20A173,20A174,20A175,20A176,20A177,20A178,20A179,20A180,20A181"),
    (0x144d1, "20A182,20A183,20A184,20A185,20A186,20A187,20A188,20A189,20A190,20A191"),
    (0x144db, "20A192,20A193,20A194,20A195,20A196,20A197,20A198,20A199,20A200,20A201"),
    (0x144e5, "20A202,20A202A,20A202B,20A203,20A204,20A205,20A206,20A207,20A207A"),
    (0x144ee, "20A208,20A209,20A209A,20A210,20A211,20A212,20A213,20A214,20A215"),
    (0x144f7, "20A215A,20A216,20A216A,20A217,20A218,20A219,20A220,20A221,20A222"),
    (0x14500, "20A223,20A224,20A225,20A226,20A227,20A227A,20A228,20A229,20A230,20A231"),
    (0x1450a, "20A232,20A233,20A234,20A235,20A236,20A237,20A238,20A239,20A240,20A241"),
    (0x14514, "20A242,20A243,20A244,20A245,20A246,20A247,20A248,20A249,20A250,20A251"),
    (0x1451e, "20A252,20A253,20A254,20A255,20A256,20A257,20A258,20A259,20A260,20A261"),
    (0x14528, "20A262,20A263,20A264,20A265,20A266,20A267,20A267A,20A268,20A269,20A270"),
    (0x14532, "20A271,20A272,20A273,20A274,20A275,20A276,20A277,20A278,20A279,20A280"),
    (0x1453c, "20A281,20A282,20A283,20A284,20A285,20A286,20A287,20A288,20A289,20A289A"),
    (0x14546, "20A290,20A291,20A292,20A293,20A294,20A294A,20A295,20A296,20A297,20A298"),
    (0x14550, "20A299,20A299A,20A300,20A301,20A302,20A303,20A304,20A305,20A306,20A307"),
    (0x1455a, "20A308,20A309,20A309A,20A310,20A311,20A312,20A313,20A314,20A315,20A316"),
    (0x14564, "20A317,20A318,20A319,20A320,20A321,20A322,20A323,20A324,20A325,20A326"),
    (0x1456e, "20A327,20A328,20A329,20A329A,20A330,20A331,20A332A,20A332B,20A332C"),
    (0x14577, "20A333,20A334,20A335,20A336,20A336A,20A336B,20A336C,20A337,20A338"),
    (0x14580, "20A339,20A340,20A341,20A342,20A343,20A344,20A345,20A346,20A347,20A348"),
    (0x1458a, "20A349,20A350,20A351,20A352,20A353,20A354,20A355,20A356,20A357,20A358"),
    (0x14594, "20A359,20A359A,20A360,20A361,20A362,20A363,20A364,20A364A,20A365"),
    (0x1459d, "20A366,20A367,20A368,20A368A,20A369,20A370,20A371,20A371A,20A372"),
    (0x145a6, "20A373,20A374,20A375,20A376,20A377,20A378,20A379,20A380,20A381,20A381A"),
    (0x145b0, "20A382,20A383 RA OR RI,20A383A,20A384,20A385,20A386,20A386A,20A387"),
    (0x145b8, "20A388,20A389,20A390,20A391,20A392,20A393 EIGHT,20A394,20A395,20A396"),
    (0x145c1, "20A397,20A398,20A399,20A400,20A401,20A402,20A403,20A404,20A405,20A406"),
    (0x145cb, "20A407,20A408,20A409,20A410 BEGIN LOGOGRAM MARK,22A410A END,20A411"),
    (0x145d1, "20A412,20A413,20A414,20A415,20A416,20A417,20A418,20A419,20A420,20A421"),
    (0x145db, "20A422,20A423,20A424,20A425,20A426,20A427,20A428,20A429,20A430,20A431"),
    (0x145e5, "20A432,20A433,20A434,20A435,20A436,20A437,20A438,20A439,20A440,20A441"),
    (0x145ef, "20A442,20A443,20A444,20A445,20A446,20A447,20A448,20A449,20A450,20A450A"),
    (0x145f9, "20A451,20A452,20A453,20A454,20A455,20A456,20A457,20A457A,20A458,20A459"),
    (0x14603, "20A460,20A461,20A462,20A463,20A464,20A465,20A466,20A467,20A468,20A469"),
    (0x1460d, "20A470,20A471,20A472,20A473,20A474,20A475,20A476,20A477,20A478,20A479"),
    (0x14617, "20A480,20A481,20A482,20A483,20A484,20A485,20A486,20A487,20A488,20A489"),
    (0x14621, "20A490,20A491,20A492,20A493,20A494,20A495,20A496,20A497,20A501,20A502"),
    (0x1462b, "20A503,20A504,20A505,20A506,20A507,20A508,20A509,20A510,20A511,20A512"),
    (0x14635, "20A513,20A514,20A515,20A516,20A517,20A518,20A519,20A520,20A521,20A522"),
    (0x1463f, "20A523,20A524,20A525,20A526,20A527,20A528,20A529,20A530")]

/-- The packed names of Bamum, of Miao and of their neighbours. -/
def lateScriptNames : List (Nat × String) :=
  [
    (0x16800, "00BAMUM LETTER PHASE-A NGKUE MFON,30GBIEE FON,30PON MFON PIPAEMGBIEE"),
    (0x16803, "50PIPAEMBA,30NAA MFON,30SHUENSHUET,30TITA MFON,31NZA,30SHINDA PA NJI"),
    (0x16809, "30PON PA NJI PIPAEMGBIEE,60PIPAEMBA,30MAEMBGBIEE,30TU MAEMBA,30NGANGU"),
    (0x1680e, "30MAEMVEUX,30MANSUAE,30MVEUAENGAM,30SEUNYAM,30NTOQPEN,30KEUKEUTNDA"),
    (0x16814, "30NKINDI,30SUU,30NGKUENZEUM,30LAPAQ,30LET KUT,30NTAP MFAA,30MAEKEUP"),
    (0x1681b, "30PASHAE,30GHEUAERAE,30PAMSHAE,30MON NGGEUAET,30NZUN MEUT,30U YUQ NAE"),
    (0x16821, "30GHEUAEGHEUAE,30NTAP NTAA,30SISA,30MGBASA,30MEUNJOMNDEUQ,30MOOMPUQ"),
    (0x16827, "30KAFA,30PA LEERAEWA,31NDA,30PET,30MAEMKPEN,30NIKA,30PUP,30TUAEP"),
    (0x1682f, "30LUAEP,30SONJAM,30TEUTEUWEN,30MAENYI,30KET,30NDAANGGEUAET,30KUOQ"),
    (0x16836, "30MOOMEUT,30SHUM,30LOMMAE,30FIRI,30ROM,30KPOQ,30SOQ,30MAP PIEET"),
    (0x1683e, "30SHIRAE,30NTAP,30SHOQ NSHUT YUM,30NYIT MONGKEUAEQ,30PAARAE,30NKAARAE"),
    (0x16844, "30UNKNOWN,30NGGEN,30MAESI,30NJAM,30MBANYI,30NYET,30TEUAEN,30SOT,30PAAM"),
    (0x1684d, "30NSHIEE,30MAEM,30NYI,30KAQ,30NSHA,30VEE,30LU,30NEN,30NAQ,30MBAQ"),
    (0x16857, "20PHASE-B NSHUET,30TU MAEMGBIEE,30SIEE,30SET TU,30LOM NTEUM"),
    (0x1685c, "30MBA MAELEE,30KIEEM,30YEURAE,30MBAARAE,30KAM,30PEESHI,30YAFU LEERAEWA"),
    (0x16863, "30LAM NSHUT NYAM,30NTIEE SHEUOQ,30NDU NJAA,30GHEUGHEUAEM,30PIT"),
    (0x16868, "30TU NSIEE,30SHET NJAQ,30SHEUAEQTU,30MFON TEUAEQ,30MBIT MBAAKET"),
    (0x1686d, "30NYI NTEUM,30KEUPUQ,30GHEUGHEN,30KEUYEUX,30LAANAE,30PARUM,30VEUM"),
    (0x16874, "30NGKINDI MVOP,30NGGEU MBU,30WUAET,30SAKEUAE,30TAAM,30MEUQ,30NGGUOQ"),
    (0x1687b, "40LARGE,30MFIYAQ,30SUE,30MBEURI,30MONTIEEN,30NYAEMAE,30PUNGAAM"),
    (0x16882, "30MEUT NGGEET,30FEUX,30MBUOQ,30FEE,30KEUAEM,30MA NJEUAENA,40NJUQA"),
    (0x16889, "30LET,30NGGAAM,30NSEN,30MA,30KIQ,30NGOM,20PHASE-C NGKUE MAEMBA,30NZA"),
    (0x16891, "30YUM,30WANGKUOQ,30NGGEN,30NDEUAEREE,30NGKAQ,30GHARAE,30MBEEKEET"),
    (0x16898, "30GBAYI,30NYIR MKPARAQ MEUN,30NTU MBIT,30MBEUM,30PIRIEEN,30NDOMBU"),
    (0x1689e, "30MBAA CABBAGE-TREE,30KEUSHEUAEP,30GHAP,30KEUKAQ,30YU MUOMAE,30NZEUM"),
    (0x168a4, "30MBUE,30NSEUAEN,30MBIT,30YEUQ,30KPARAQ,30KAA,30SEUX,30NDIDA,30TAASHAE"),
    (0x168ad, "30NJUEQ,30TITA YUE,30SUAET,30NGGUAEN NYAM,30VEUX,30NANSANAQ"),
    (0x168b3, "30MA KEUAERI,30NTAA,30NGGUON,30LAP,30MBIRIEEN,30MGBASAQ,30NTEUNGBA"),
    (0x168ba, "30TEUTEUX,30NGGUM,30FUE,30NDEUT,30NSA,30NSHAQ,30BUNG,30VEUAEPEN"),
    (0x168c2, "30MBERAE,30RU,30NJAEM,30LAM,30TITUAEP,30NSUOT NGOM,30NJEEEE,30KET"),
    (0x168ca, "30NGGU,30MAESI,30MBUAEM,30LU,30KUT,30NJAM,30NGOM,30WUP,30NGGUEET"),
    (0x168d3, "30NSOM,30NTEN,30KUOP NKAARAE,30NSUN,30NDAM,30MA NSIEE,30YAA,30NDAP"),
    (0x168db, "30SHUEQ,30SETFON,30MBI,30MAEMBA,30MBANYI,30KEUSEUX,30MBEUX,30KEUM"),
    (0x168e3, "30MBAA PICKET,30YUWOQ,30NJEUX,30MIEE,30MUAE,30SHIQ,30KEN LAW,40FATIGUE"),
    (0x168eb, "30NGAQ,30NAQ,30LIQ,30PIN,30PEN,30TET,20PHASE-D MBUO,30WAP,30NJI,30MFON"),
    (0x168f5, "30NJIEE,30LIEE,30NJEUT,30NSHEE,30NGGAAMAE,30NYAM,30WUAEN,30NGKUN"),
    (0x168fd, "30SHEE,30NGKAP,30KEUAETMEUN,30TEUT,30SHEUAE,30NJAP,30SUE,30KET"),
    (0x16905, "30YAEMMAE,30KUOM,30SAP,30MFEUT,30NDEUX,30MALEERI,30MEUT,30SEUAEQ,30YEN"),
    (0x1690e, "30NJEUAEM,30KEUOT MBUAE,30NGKEURI,30TU,30GHAA,30NGKYEE,30FEUFEUAET"),
    (0x16915, "30NDEE,30MGBOFUM,30LEUAEP,30NDON,30MONI,30MGBEUN,30PUUT,30MGBIEE,30MFO"),
    (0x1691e, "30LUM,30NSIEEP,30MBAA,30KWAET,30NYET,30TEUAEN,30SOT,30YUWOQ,30KEUM"),
    (0x16927, "30RAEM,30TEEEE,30NGKEUAEQ,30MFEUAE,30NSIEET,30KEUP,30PIP,30PEUTAE"),
    (0x1692f, "30NYUE,30LET,30NGGAAM,30MFIEE,30NGGWAEN,30YUOM,30PAP,30YUOP,30NDAM"),
    (0x16938, "30NTEUM,30SUAE,30KUN,30NGGEUX,30NGKIEE,30TUOT,30MEUN,30KUQ,30NSUM"),
    (0x16941, "30TEUN,30MAENJET,30NGGAP,30LEUM,30NGGUOM,30NSHUT,30NJUEQ,30GHEUAE,30KU"),
    (0x1694a, "30REN OLD,30TAE,30TOQ,30NYI,30RII,30LEEEE,30MEEEE,30M,30SUU,30MU"),
    (0x16954, "30SHII,30SHEUX,30KYEE,30NU,30SHU,30NTEE,30PEE,30NI,30SHOQ,30PUQ,30MVOP"),
    (0x1695f, "30LOQ,30REN MUCH,30TI,30NTUU,30MBAA SEVEN,30SAQ,30FAA,20PHASE-E NDAP"),
    (0x16967, "30TOON,30MBEUM,30LAP,30VOM,30LOON,30PAA,30SOM,30RAQ,30NSHUOP,30NDUN"),
    (0x16971, "30PUAE,30TAM,30NGKA,30KPEUX,30WUO,30SEE,30NGGEUAET,30PAAM,30TOO,30KUOP"),
    (0x1697b, "30LOM,30NSHIEE,30NGOP,30MAEM,30NGKEUX,30NGOQ,30NSHUE,30RIMGBA,30NJEUX"),
    (0x16984, "30PEEM,30SAA,30NGGURAE,30MGBA,30GHEUX,30NGKEUAEM,30NJAEMLI,30MAP"),
    (0x1698c, "30LOOT,30NGGEEEE,30NDIQ,30TAEN NTEUM,30SET,30PUM,30NDAA SOFTNESS"),
    (0x16993, "30NGGUAESHAE NYAM,30YIEE,30GHEUN,30TUAE,30YEUAE,30PO,30TUMAE,30KEUAE"),
    (0x1699b, "30SUAEN,30TEUAEQ,30VEUAE,30WEUX,30LAAM,30PU,30TAAQ,30GHAAMAE"),
    (0x169a3, "30NGEUREUT,30SHEUAEQ,30MGBEN,30MBEE,30NZAQ,30NKOM,30GBET,30TUM,30KUET"),
    (0x169ac, "30YAP,30NYI CLEAVER,30YIT,30MFEUQ,30NDIAQ,30PIEEQ,30YUEQ,30LEUAEM"),
    (0x169b4, "30FUE,30GBEUX,30NGKUP,30KET,30MAE,30NGKAAMI,30GHET,30FA,30NTUM,30PEUT"),
    (0x169be, "30YEUM,30NGGEUAE,30NYI BETWEEN,30NZUQ,30POON,30MIEE,30FUET,30NAE"),
    (0x169c6, "30MUAE,30GHEUAE,30FU I,30MVI,30PUAQ,30NGKUM,30KUT,30PIET,30NTAP"),
    (0x169cf, "30YEUAET,30NGGUP,30PA PEOPLE,30FU CALL,30FOM,30NJEE,30A,30TOQ,30O,30I"),
    (0x169d9, "30LAQ,30PA PLURAL,30TAA,30TAQ,30NDAA MY HOUSE,30SHIQ,30YEUX,30NGUAE"),
    (0x169e1, "30YUAEN,30YOQ SWIMMING,40COVER,30YUQ,30YUN,30KEUX,30PEUX,30NJEE EPOCH"),
    (0x169e9, "30PUE,30WUE,30FEE,30VEE,30LU,30MI,30REUX,30RAE,30NGUAET,30NGA,30SHO"),
    (0x169f4, "30SHOQ,30FU REMEDY,30NA,30PI,30LOQ,30KO,30MEN,30MA,30MAQ,30TEU,30KI"),
    (0x169ff, "30MON,30TEN,30FAQ,30GHOM,20PHASE-F KA,30U,30KU,30EE,30REE,30TAE,30NYI"),
    (0x16a0a, "30LA,30RII,30RIEE,30MEEEE,30TAA,30NDAA,30NJAEM,30M,30SUU,30SHII,30SI"),
    (0x16a15, "30SEUX,30KYEE,30KET,30NUAE,30NU,30NJUAE,30YOQ,30SHU,30YA,30NSHA,30PEUX"),
    (0x16a20, "30NTEE,30WUE,30PEE,30RU,30NI,30REUX,30KEN,30NGKWAEN,30NGGA,30SHO"),
    (0x16a2a, "30PUAE,30FOM,30WA,30LI,30LOQ,30KO,30MBEN,30REN,30MA,30MO,30MBAA,30TET"),
    (0x16a36, "30KPA,30SAMBA,30VUEQ"),
    (0x16a40, "00MRO LETTER TA,20NGI,20YO,20MIM,20BA,20DA,20A,20PHI,20KHAI,20HAO"),
    (0x16a4a, "20DAI,20CHU,20KEAAE,20OL,20MAEM,20NIN,20PA,20OO,20O,20RO,20SHI,20THEA"),
    (0x16a56, "20EA,20WA,20E,20KO,20LAN,20LA,20HAI,20RI,20TEK"),
    (0x16a60, "10DIGIT ZERO,20ONE,20TWO,20THREE,20FOUR,20FIVE,20SIX,20SEVEN,20EIGHT"),
    (0x16a69, "20NINE"),
    (0x16a6e, "10DANDA,11DOUBLE,00TANGSA LETTER OZ,20OC,20OQ,20OX,20AZ,20AC,20AQ,20AX"),
    (0x16a78, "20VZ,20VC,20VQ,20VX,20EZ,20EC,20EQ,20EX,20IZ,20IC,20IQ,20IX,20UZ,20UC"),
    (0x16a86, "20UQ,20UX,20AWZ,20AWC,20AWQ,20AWX,20UIZ,20UIC,20UIQ,20UIX,20FINAL NG"),
    (0x16a91, "20LONG UEX,20SHORT UEZ,30AWX,20UEC,20UEZ,20UEQ,20UEX,20UIUZ,20UIUC"),
    (0x16a9a, "20UIUQ,20UIUX,20MZ,20MC,20MQ,20MX,20KA,20KHA,20GA,20NGA,20SA,20YA,20WA"),
    (0x16aa7, "20PA,20NYA,20PHA,20BA,20MA,20NA,20HA,20LA,20HTA,20TA,20DA,20RA,20NHA"),
    (0x16ab4, "20SHA,20CA,20TSA,20GHA,20HTTA,20THA,20XA,20FA,20DHA,20CHA,20ZA"),
    (0x16ac0, "10DIGIT ZERO,20ONE,20TWO,20THREE,20FOUR,20FIVE,20SIX,20SEVEN,20EIGHT"),
    (0x16ac9, "20NINE"),
    (0x16ad0, "00BASSA VAH LETTER ENNI,30KA,30SE,30FA,30MBE,30YIE,30GAH,30DHII,30KPAH"),
    (0x16ad9, "30JO,30HWAH,30WA,30ZO,30GBU,30DO,30CE,30UWU,30TO,30BA,30VU,30YEIN,30PA"),
    (0x16ae6, "30WADDA,30A,30O,30OO,30U,30EE,30E,30I"),
    (0x16af0, "20COMBINING HIGH TONE,31LOW,31MID,31LOW-MID,31HIGH-LOW,20FULL STOP"),
    (0x16b00, "00PAHAWH HMONG VOWEL KEEB,30KEEV,30KIB,30KIV,30KAUB,30KAUV,30KUB,30KUV"),
    (0x16b08, "30KEB,30KEV,30KAIB,30KAIV,30KOOB,30KOOV,30KAWB,30KAWV,30KUAB,30KUAV"),
    (0x16b12, "30KOB,30KOV,30KIAB,30KIAV,30KAB,30KAV,30KWB,30KWV,30KAAB,30KAAV"),
    (0x16b1c, "20CONSONANT VAU,30NTSAU,30LAU,30HAU,30NLAU,30RAU,30NKAU,30QHAU,30YAU"),
    (0x16b25, "30HLAU,30MAU,30CHAU,30NCHAU,30HNAU,30PLHAU,30NTHAU,30NAU,30AU,30XAU"),
    (0x16b2f, "30CAU,20MARK CIM TUB,40SO,40KES,40KHAV,40SUAM,40HOM,40TAUM"),
    (0x16b37, "20SIGN VOS THOM,40TSHAB CEEB,30CIM CHEEM,30VOS THIAB,40FEEM"),
    (0x16b3c, "30XYEEM NTXIV,40RHO,40TOV,40FAIB,30VOS SEEV,30MEEJ SUAB,30VOS NRUA"),
    (0x16b43, "30IB YAM,30XAUS,30CIM TSOV ROG"),
    (0x16b50, "20DIGIT ZERO,30ONE,30TWO,30THREE,30FOUR,30FIVE,30SIX,30SEVEN,30EIGHT"),
    (0x16b59, "30NINE"),
    (0x16b5b, "20NUMBER TENS,30HUNDREDS,30TEN THOUSANDS,30MILLIONS,31HUNDRED"),
    (0x16b60, "30TEN BILLIONS,30TRILLIONS"),
    (0x16b63, "20SIGN VOS LUB,30XYOO,30HLI,31THIRD-STAGE,30ZWJ THAJ,30HNUB,30NQIG"),
    (0x16b6a, "30XIAB,30NTUJ,30AV,30TXHEEJ CEEV,30MEEJ TSEEB,30TAU,30LOS,30MUS"),
    (0x16b72, "30CIM HAIS LUS NTOG NTOG,40CUAM TSHOOJ,40TXWV,50CHWV,40PUB DAWB"),
    (0x16b77, "40NRES TOS"),
    (0x16b7d, "20CLAN SIGN TSHEEJ,40YEEG,40LIS,40LAUJ,40XYOOJ,40KOO,40HAWJ,40MUAS"),
    (0x16b85, "40THOJ,40TSAB,40PHAB,40KHAB,40HAM,40VAJ,40FAJ,40YAJ,40TSWB,40KWM,40VWJ"),
    (0x16e40, "00MEDEFAIDRIN CAPITAL LETTER M,30S,30V,30W,30ATIU,30Z,30KP,30P,30T,30G"),
    (0x16e4a, "30F,30I,30K,30A,30J,30E,30B,30C,30U,30YU,30L,30Q,30HP,30NY,30X,30D"),
    (0x16e5a, "30OE,30N,30R,30O,30AI,30Y,10SMALL LETTER M,30S,30V,30W,30ATIU,30Z,30KP"),
    (0x16e67, "30P,30T,30G,30F,30I,30K,30A,30J,30E,30B,30C,30U,30YU,30L,30Q,30HP,30NY"),
    (0x16e78, "30X,30D,30OE,30N,30R,30O,30AI,30Y,10DIGIT ZERO,20ONE,20TWO,20THREE"),
    (0x16e84, "20FOUR,20FIVE,20SIX,20SEVEN,20EIGHT,20NINE,10NUMBER TEN,20ELEVEN"),
    (0x16e8c, "20TWELVE,20THIRTEEN,20FOURTEEN,20FIFTEEN,20SIXTEEN,20SEVENTEEN"),
    (0x16e92, "20EIGHTEEN,20NINETEEN,10DIGIT ONE ALTERNATE FORM,22TWO,22THREE,10COMMA"),
    (0x16e98, "10FULL STOP,10SYMBOL AIVA,10EXCLAMATION OH"),
    (0x16f00, "00MIAO LETTER PA,20BA,20YI PA,20PLA,20MA,20MHA,20ARCHAIC MA,20FA,20VA"),
    (0x16f09, "20VFA,20TA,20DA,20YI TTA,30TA,20TTA,20DDA,20NA,20NHA,20YI NNA"),
    (0x16f13, "20ARCHAIC NA,20NNA,20NNHA,20LA,20LYA,20LHA,20LHYA,20TLHA,20DLHA"),
    (0x16f1c, "20TLHYA,20DLHYA,20KA,20GA,20YI KA,20QA,20QGA,20NGA,20NGHA"),
    (0x16f25, "20ARCHAIC NGA,20HA,20XA,20GHA,20GHHA,20TSSA,20DZZA,20NYA,20NYHA,20TSHA"),
    (0x16f2f, "20DZHA,20YI TSHA,30DZHA,20REFORMED TSHA,20SHA,20SSA,20ZHA,20ZSHA,20TSA"),
    (0x16f38, "20DZA,20YI TSA,20SA,20ZA,20ZSA,20ZZA,20ZZSA,20ARCHAIC ZZA,20ZZYA"),
    (0x16f41, "20ZZSYA,20WA,20AH,20HHA,20BRI,20SYI,20DZYI,20TE,20TSE,20RTE"),
    (0x16f4f, "10SIGN CONSONANT MODIFIER BAR,10LETTER NASALIZATION,10SIGN ASPIRATION"),
    (0x16f52, "20REFORMED VOICING,30ASPIRATION,10VOWEL SIGN A,30AA,30AHH,30AN,30ANG"),
    (0x16f59, "30O,30OO,30WO,30W,30E,30EN,30ENG,30OEY,30I,30IA,30IAN,30IANG,30IO,30IE"),
    (0x16f67, "30II,30IU,30ING,30U,30UA,30UAN,30UANG,30UU,30UEI,30UNG,30Y,30YI,30AE"),
    (0x16f74, "30AEE,30ERR,31ROUNDED,30ER,31ROUNDED,30AI,30EI,30AU,30OU,30N,30NG"),
    (0x16f7f, "30UOG,30YUI,30OG,30OER,30VW,30IG,30EA,30IONG,30UI"),
    (0x16f8f, "10TONE RIGHT,21TOP,20ABOVE,20BELOW,10LETTER TONE-2,20TONE-3,20TONE-4"),
    (0x16f96, "20TONE-5,20TONE-6,20TONE-7,20TONE-8,20REFORMED TONE-1,30TONE-2"),
    (0x16f9c, "30TONE-4,30TONE-5,30TONE-6,30TONE-8"),
    (0x16fe0, "00TANGUT ITERATION MARK,02NUSHU,01OLD CHINESE HOOK,21ITERATION"),
    (0x16fe4, "00KHITAN SMALL SCRIPT FILLER"),
    (0x16ff0, "00VIETNAMESE ALTERNATE READING MARK CA,40NHAY"),
    (0x1aff0, "00KATAKANA LETTER MINNAN TONE-2,30TONE-3,30TONE-4,30TONE-5"),
    (0x1aff5, "30TONE-7,30TONE-8,30NASALIZED TONE-1,40TONE-2,40TONE-3,40TONE-4"),
    (0x1affb, "40TONE-5"),
    (0x1affd, "40TONE-7,40TONE-8")]

/-- The packed names of historic kana and of shorthand. -/
def kanaSupplementNames : List (Nat × String) :=
  [
    (0x1b000, "00KATAKANA LETTER ARCHAIC E,00HIRAGANA LETTER ARCHAIC YE"),
    (0x1b002, "00HENTAIGANA LETTER A-1,20A-2,20A-3,20A-WO,20I-1,20I-2,20I-3,20I-4"),
    (0x1b00a, "20U-1,20U-2,20U-3,20U-4,20U-5,20E-2,20E-3,20E-4,20E-5,20E-6,20O-1"),
    (0x1b015, "20O-2,20O-3,20KA-1,20KA-2,20KA-3,20KA-4,20KA-5,20KA-6,20KA-7,20KA-8"),
    (0x1b01f, "20KA-9,20KA-10,20KA-11,20KA-KE,20KI-1,20KI-2,20KI-3,20KI-4,20KI-5"),
    (0x1b028, "20KI-6,20KI-7,20KI-8,20KU-1,20KU-2,20KU-3,20KU-4,20KU-5,20KU-6,20KU-7"),
    (0x1b032, "20KE-1,20KE-2,20KE-3,20KE-4,20KE-5,20KE-6,20KO-1,20KO-2,20KO-3,20KO-KI"),
    (0x1b03c, "20SA-1,20SA-2,20SA-3,20SA-4,20SA-5,20SA-6,20SA-7,20SA-8,20SI-1,20SI-2"),
    (0x1b046, "20SI-3,20SI-4,20SI-5,20SI-6,20SU-1,20SU-2,20SU-3,20SU-4,20SU-5,20SU-6"),
    (0x1b050, "20SU-7,20SU-8,20SE-1,20SE-2,20SE-3,20SE-4,20SE-5,20SO-1,20SO-2,20SO-3"),
    (0x1b05a, "20SO-4,20SO-5,20SO-6,20SO-7,20TA-1,20TA-2,20TA-3,20TA-4,20TI-1,20TI-2"),
    (0x1b064, "20TI-3,20TI-4,20TI-5,20TI-6,20TI-7,20TU-1,20TU-2,20TU-3,20TU-4,20TU-TO"),
    (0x1b06e, "20TE-1,20TE-2,20TE-3,20TE-4,20TE-5,20TE-6,20TE-7,20TE-8,20TE-9,20TO-1"),
    (0x1b078, "20TO-2,20TO-3,20TO-4,20TO-5,20TO-6,20TO-RA,20NA-1,20NA-2,20NA-3,20NA-4"),
    (0x1b082, "20NA-5,20NA-6,20NA-7,20NA-8,20NA-9,20NI-1,20NI-2,20NI-3,20NI-4,20NI-5"),
    (0x1b08c, "20NI-6,20NI-7,20NI-TE,20NU-1,20NU-2,20NU-3,20NE-1,20NE-2,20NE-3,20NE-4"),
    (0x1b096, "20NE-5,20NE-6,20NE-KO,20NO-1,20NO-2,20NO-3,20NO-4,20NO-5,20HA-1,20HA-2"),
    (0x1b0a0, "20HA-3,20HA-4,20HA-5,20HA-6,20HA-7,20HA-8,20HA-9,20HA-10,20HA-11"),
    (0x1b0a9, "20HI-1,20HI-2,20HI-3,20HI-4,20HI-5,20HI-6,20HI-7,20HU-1,20HU-2,20HU-3"),
    (0x1b0b3, "20HE-1,20HE-2,20HE-3,20HE-4,20HE-5,20HE-6,20HE-7,20HO-1,20HO-2,20HO-3"),
    (0x1b0bd, "20HO-4,20HO-5,20HO-6,20HO-7,20HO-8,20MA-1,20MA-2,20MA-3,20MA-4,20MA-5"),
    (0x1b0c7, "20MA-6,20MA-7,20MI-1,20MI-2,20MI-3,20MI-4,20MI-5,20MI-6,20MI-7,20MU-1"),
    (0x1b0d1, "20MU-2,20MU-3,20MU-4,20ME-1,20ME-2,20ME-MA,20MO-1,20MO-2,20MO-3,20MO-4"),
    (0x1b0db, "20MO-5,20MO-6,20YA-1,20YA-2,20YA-3,20YA-4,20YA-5,20YA-YO,20YU-1,20YU-2"),
    (0x1b0e5, "20YU-3,20YU-4,20YO-1,20YO-2,20YO-3,20YO-4,20YO-5,20YO-6,20RA-1,20RA-2"),
    (0x1b0ef, "20RA-3,20RA-4,20RI-1,20RI-2,20RI-3,20RI-4,20RI-5,20RI-6,20RI-7,20RU-1"),
    (0x1b0f9, "20RU-2,20RU-3,20RU-4,20RU-5,20RU-6,20RE-1,20RE-2,20RE-3,20RE-4,20RO-1"),
    (0x1b103, "20RO-2,20RO-3,20RO-4,20RO-5,20RO-6,20WA-1,20WA-2,20WA-3,20WA-4,20WA-5"),
    (0x1b10d, "20WI-1,20WI-2,20WI-3,20WI-4,20WI-5,20WE-1,20WE-2,20WE-3,20WE-4,20WO-1"),
    (0x1b117, "20WO-2,20WO-3,20WO-4,20WO-5,20WO-6,20WO-7,20N-MU-MO-1,20N-MU-MO-2"),
    (0x1b11f, "00HIRAGANA LETTER ARCHAIC WU,00KATAKANA LETTER ARCHAIC YI,30YE,30WU"),
    (0x1b150, "00HIRAGANA LETTER SMALL WI,30WE,30WO"),
    (0x1b164, "00KATAKANA LETTER SMALL WI,30WE,30WO,30N"),
    (0x1bc00, "00DUPLOYAN LETTER H,20X,20P,20T,20F,20K,20L,20B,20D,20V,20G,20R,20P N"),
    (0x1bc0d, "20D S,20F N,20K M,20R S,20TH,20SLOAN DH,21,20KK,20SLOAN J,20HL,20LH"),
    (0x1bc18, "20RH,20M,20N,20J,20S,20M N,20N M,21J,20S J,20M WITH DOT,22N,22J"),
    (0x1bc24, "40DOTS INSIDE AND ABOVE,20S WITH DOT,50BELOW,20M S,21N,21J,21S,21M N"),
    (0x1bc2c, "21N M,22J,21S J,20J S WITH DOT,30N,40S,20S T,40R,30P,40R,20T S,31R,20W"),
    (0x1bc39, "20WH,20W R,20S N,30M,20K R S,22G,20S K,40R,20A,20SLOAN OW,20OA,20O"),
    (0x1bc45, "20AOU,20I,20E,20IE,20SHORT I,20UI,20EE,20SLOAN EH,20ROMANIAN I"),
    (0x1bc4e, "20SLOAN EE,20LONG I,20YE,20U,20EU,20XW,20U N,20LONG U,21ROMANIAN,20UH"),
    (0x1bc58, "20SLOAN U,20OOH,20OW,20OU,20WA,20WO,20WI,20WEI,20WOW,20NASAL U,30O,30I"),
    (0x1bc64, "30A,20PERNIN AN,30AM,20SLOAN EN,30AN,30ON,20VOCALIC M"),
    (0x1bc70, "10AFFIX LEFT HORIZONTAL SECANT,22MID,22RIGHT,21LOW VERTICAL,22MID"),
    (0x1bc75, "22HIGH,21ATTACHED,31LEFT-TO-RIGHT,30TANGENT,30TAIL,30E HOOK,31I"),
    (0x1bc7c, "31TANGENT"),
    (0x1bc80, "20HIGH ACUTE,31TIGHT,30GRAVE,31LONG,30DOT,30CIRCLE,30LINE,30WAVE"),
    (0x1bc88, "30VERTICAL"),
    (0x1bc90, "20LOW ACUTE,31TIGHT,30GRAVE,31LONG,30DOT,30CIRCLE,30LINE,30WAVE"),
    (0x1bc98, "30VERTICAL,30ARROW"),
    (0x1bc9c, "10SIGN O WITH CROSS,10THICK LETTER SELECTOR,10DOUBLE MARK"),
    (0x1bc9f, "10PUNCTUATION CHINOOK FULL STOP,00SHORTHAND FORMAT LETTER OVERLAP"),
    (0x1bca1, "21CONTINUING,20DOWN STEP,21UP")]

end Text
end KindExpr
