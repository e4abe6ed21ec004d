/-!
# Names of letters of further scripts

The names of the characters of scripts of Africa, America, Asia and Europe
that have no module of their own.

Each entry is the first code point of a run and the names of the run, packed as
`unpackName` reads them.
-/

namespace KindExpr
namespace Text

/-- The packed names of Hangul letters, of Ethiopic, of
Cherokee and of Canadian syllables. -/
def syllableScriptNames : List (Nat × String) :=
  [
    (0x1100, "00HANGUL CHOSEONG KIYEOK,20SSANGKIYEOK,20NIEUN,20TIKEUT,20SSANGTIKEUT"),
    (0x1105, "20RIEUL,20MIEUM,20PIEUP,20SSANGPIEUP,20SIOS,20SSANGSIOS,20IEUNG,20CIEUC"),
    (0x110d, "20SSANGCIEUC,20CHIEUCH,20KHIEUKH,20THIEUTH,20PHIEUPH,20HIEUH"),
    (0x1113, "20NIEUN-KIYEOK,20SSANGNIEUN,20NIEUN-TIKEUT,20NIEUN-PIEUP"),
    (0x1117, "20TIKEUT-KIYEOK,20RIEUL-NIEUN,20SSANGRIEUL,20RIEUL-HIEUH"),
    (0x111b, "20KAPYEOUNRIEUL,20MIEUM-PIEUP,20KAPYEOUNMIEUM,20PIEUP-KIYEOK"),
    (0x111f, "20PIEUP-NIEUN,20PIEUP-TIKEUT,20PIEUP-SIOS,20PIEUP-SIOS-KIYEOK"),
    (0x1123, "20PIEUP-SIOS-TIKEUT,20PIEUP-SIOS-PIEUP,20PIEUP-SSANGSIOS"),
    (0x1126, "20PIEUP-SIOS-CIEUC,20PIEUP-CIEUC,20PIEUP-CHIEUCH,20PIEUP-THIEUTH"),
    (0x112a, "20PIEUP-PHIEUPH,20KAPYEOUNPIEUP,20KAPYEOUNSSANGPIEUP,20SIOS-KIYEOK"),
    (0x112e, "20SIOS-NIEUN,20SIOS-TIKEUT,20SIOS-RIEUL,20SIOS-MIEUM,20SIOS-PIEUP"),
    (0x1133, "20SIOS-PIEUP-KIYEOK,20SIOS-SSANGSIOS,20SIOS-IEUNG,20SIOS-CIEUC"),
    (0x1137, "20SIOS-CHIEUCH,20SIOS-KHIEUKH,20SIOS-THIEUTH,20SIOS-PHIEUPH"),
    (0x113b, "20SIOS-HIEUH,20CHITUEUMSIOS,20CHITUEUMSSANGSIOS,20CEONGCHIEUMSIOS"),
    (0x113f, "20CEONGCHIEUMSSANGSIOS,20PANSIOS,20IEUNG-KIYEOK,20IEUNG-TIKEUT"),
    (0x1143, "20IEUNG-MIEUM,20IEUNG-PIEUP,20IEUNG-SIOS,20IEUNG-PANSIOS,20SSANGIEUNG"),
    (0x1148, "20IEUNG-CIEUC,20IEUNG-CHIEUCH,20IEUNG-THIEUTH,20IEUNG-PHIEUPH"),
    (0x114c, "20YESIEUNG,20CIEUC-IEUNG,20CHITUEUMCIEUC,20CHITUEUMSSANGCIEUC"),
    (0x1150, "20CEONGCHIEUMCIEUC,20CEONGCHIEUMSSANGCIEUC,20CHIEUCH-KHIEUKH"),
    (0x1153, "20CHIEUCH-HIEUH,20CHITUEUMCHIEUCH,20CEONGCHIEUMCHIEUCH,20PHIEUPH-PIEUP"),
    (0x1157, "20KAPYEOUNPHIEUPH,20SSANGHIEUH,20YEORINHIEUH,20KIYEOK-TIKEUT"),
    (0x115b, "20NIEUN-SIOS,20NIEUN-CIEUC,20NIEUN-HIEUH,20TIKEUT-RIEUL,20FILLER"),
    (0x1160, "11JUNGSEONG,20A,20AE,20YA,20YAE,20EO,20E,20YEO,20YE,20O,20WA,20WAE,20OE"),
    (0x116d, "20YO,20U,20WEO,20WE,20WI,20YU,20EU,20YI,20I,20A-O,20A-U,20YA-O,20YA-YO"),
    (0x117a, "20EO-O,20EO-U,20EO-EU,20YEO-O,20YEO-U,20O-EO,20O-E,20O-YE,20O-O,20O-U"),
    (0x1184, "20YO-YA,20YO-YAE,20YO-YEO,20YO-O,20YO-I,20U-A,20U-AE,20U-EO-EU,20U-YE"),
    (0x118d, "20U-U,20YU-A,20YU-EO,20YU-E,20YU-YEO,20YU-YE,20YU-U,20YU-I,20EU-U"),
    (0x1196, "20EU-EU,20YI-U,20I-A,20I-YA,20I-O,20I-U,20I-EU,20I-ARAEA,20ARAEA"),
    (0x119f, "20ARAEA-EO,20ARAEA-U,20ARAEA-I,20SSANGARAEA,20A-EU,20YA-U,20YEO-YA"),
    (0x11a6, "20O-YA,20O-YAE,10JONGSEONG KIYEOK,20SSANGKIYEOK,20KIYEOK-SIOS,20NIEUN"),
    (0x11ac, "20NIEUN-CIEUC,20NIEUN-HIEUH,20TIKEUT,20RIEUL,20RIEUL-KIYEOK"),
    (0x11b1, "20RIEUL-MIEUM,20RIEUL-PIEUP,20RIEUL-SIOS,20RIEUL-THIEUTH"),
    (0x11b5, "20RIEUL-PHIEUPH,20RIEUL-HIEUH,20MIEUM,20PIEUP,20PIEUP-SIOS,20SIOS"),
    (0x11bb, "20SSANGSIOS,20IEUNG,20CIEUC,20CHIEUCH,20KHIEUKH,20THIEUTH,20PHIEUPH"),
    (0x11c2, "20HIEUH,20KIYEOK-RIEUL,20KIYEOK-SIOS-KIYEOK,20NIEUN-KIYEOK"),
    (0x11c6, "20NIEUN-TIKEUT,20NIEUN-SIOS,20NIEUN-PANSIOS,20NIEUN-THIEUTH"),
    (0x11ca, "20TIKEUT-KIYEOK,20TIKEUT-RIEUL,20RIEUL-KIYEOK-SIOS,20RIEUL-NIEUN"),
    (0x11ce, "20RIEUL-TIKEUT,20RIEUL-TIKEUT-HIEUH,20SSANGRIEUL,20RIEUL-MIEUM-KIYEOK"),
    (0x11d2, "20RIEUL-MIEUM-SIOS,20RIEUL-PIEUP-SIOS,20RIEUL-PIEUP-HIEUH"),
    (0x11d5, "20RIEUL-KAPYEOUNPIEUP,20RIEUL-SSANGSIOS,20RIEUL-PANSIOS,20RIEUL-KHIEUKH"),
    (0x11d9, "20RIEUL-YEORINHIEUH,20MIEUM-KIYEOK,20MIEUM-RIEUL,20MIEUM-PIEUP"),
    (0x11dd, "20MIEUM-SIOS,20MIEUM-SSANGSIOS,20MIEUM-PANSIOS,20MIEUM-CHIEUCH"),
    (0x11e1, "20MIEUM-HIEUH,20KAPYEOUNMIEUM,20PIEUP-RIEUL,20PIEUP-PHIEUPH"),
    (0x11e5, "20PIEUP-HIEUH,20KAPYEOUNPIEUP,20SIOS-KIYEOK,20SIOS-TIKEUT,20SIOS-RIEUL"),
    (0x11ea, "20SIOS-PIEUP,20PANSIOS,20IEUNG-KIYEOK,20IEUNG-SSANGKIYEOK,20SSANGIEUNG"),
    (0x11ef, "20IEUNG-KHIEUKH,20YESIEUNG,20YESIEUNG-SIOS,20YESIEUNG-PANSIOS"),
    (0x11f3, "20PHIEUPH-PIEUP,20KAPYEOUNPHIEUPH,20HIEUH-NIEUN,20HIEUH-RIEUL"),
    (0x11f7, "20HIEUH-MIEUM,20HIEUH-PIEUP,20YEORINHIEUH,20KIYEOK-NIEUN,20KIYEOK-PIEUP"),
    (0x11fc, "20KIYEOK-CHIEUCH,20KIYEOK-KHIEUKH,20KIYEOK-HIEUH,20SSANGNIEUN"),
    (0x1200, "00ETHIOPIC SYLLABLE HA,20HU,20HI,20HAA,20HEE,20HE,20HO,20HOA,20LA,20LU"),
    (0x120a, "20LI,20LAA,20LEE,20LE,20LO,20LWA,20HHA,20HHU,20HHI,20HHAA,20HHEE,20HHE"),
    (0x1216, "20HHO,20HHWA,20MA,20MU,20MI,20MAA,20MEE,20ME,20MO,20MWA,20SZA,20SZU"),
    (0x1222, "20SZI,20SZAA,20SZEE,20SZE,20SZO,20SZWA,20RA,20RU,20RI,20RAA,20REE,20RE"),
    (0x122e, "20RO,20RWA,20SA,20SU,20SI,20SAA,20SEE,20SE,20SO,20SWA,20SHA,20SHU,20SHI"),
    (0x123b, "20SHAA,20SHEE,20SHE,20SHO,20SHWA,20QA,20QU,20QI,20QAA,20QEE,20QE,20QO"),
    (0x1247, "20QOA,20QWA"),
    (0x124a, "20QWI,20QWAA,20QWEE,20QWE"),
    (0x1250, "20QHA,20QHU,20QHI,20QHAA,20QHEE,20QHE,20QHO"),
    (0x1258, "20QHWA"),
    (0x125a, "20QHWI,20QHWAA,20QHWEE,20QHWE"),
    (0x1260, "20BA,20BU,20BI,20BAA,20BEE,20BE,20BO,20BWA,20VA,20VU,20VI,20VAA,20VEE"),
    (0x126d, "20VE,20VO,20VWA,20TA,20TU,20TI,20TAA,20TEE,20TE,20TO,20TWA,20CA,20CU"),
    (0x127a, "20CI,20CAA,20CEE,20CE,20CO,20CWA,20XA,20XU,20XI,20XAA,20XEE,20XE,20XO"),
    (0x1287, "20XOA,20XWA"),
    (0x128a, "20XWI,20XWAA,20XWEE,20XWE"),
    (0x1290, "20NA,20NU,20NI,20NAA,20NEE,20NE,20NO,20NWA,20NYA,20NYU,20NYI,20NYAA"),
    (0x129c, "20NYEE,20NYE,20NYO,20NYWA,20GLOTTAL A,30U,30I,30AA,30EE,30E,30O,30WA"),
    (0x12a8, "20KA,20KU,20KI,20KAA,20KEE,20KE,20KO,20KOA,20KWA"),
    (0x12b2, "20KWI,20KWAA,20KWEE,20KWE"),
    (0x12b8, "20KXA,20KXU,20KXI,20KXAA,20KXEE,20KXE,20KXO"),
    (0x12c0, "20KXWA"),
    (0x12c2, "20KXWI,20KXWAA,20KXWEE,20KXWE"),
    (0x12c8, "20WA,20WU,20WI,20WAA,20WEE,20WE,20WO,20WOA,20PHARYNGEAL A,30U,30I,30AA"),
    (0x12d4, "30EE,30E,30O"),
    (0x12d8, "20ZA,20ZU,20ZI,20ZAA,20ZEE,20ZE,20ZO,20ZWA,20ZHA,20ZHU,20ZHI,20ZHAA"),
    (0x12e4, "20ZHEE,20ZHE,20ZHO,20ZHWA,20YA,20YU,20YI,20YAA,20YEE,20YE,20YO,20YOA"),
    (0x12f0, "20DA,20DU,20DI,20DAA,20DEE,20DE,20DO,20DWA,20DDA,20DDU,20DDI,20DDAA"),
    (0x12fc, "20DDEE,20DDE,20DDO,20DDWA,20JA,20JU,20JI,20JAA,20JEE,20JE,20JO,20JWA"),
    (0x1308, "20GA,20GU,20GI,20GAA,20GEE,20GE,20GO,20GOA,20GWA"),
    (0x1312, "20GWI,20GWAA,20GWEE,20GWE"),
    (0x1318, "20GGA,20GGU,20GGI,20GGAA,20GGEE,20GGE,20GGO,20GGWAA,20THA,20THU,20THI"),
    (0x1323, "20THAA,20THEE,20THE,20THO,20THWA,20CHA,20CHU,20CHI,20CHAA,20CHEE,20CHE"),
    (0x132e, "20CHO,20CHWA,20PHA,20PHU,20PHI,20PHAA,20PHEE,20PHE,20PHO,20PHWA,20TSA"),
    (0x1339, "20TSU,20TSI,20TSAA,20TSEE,20TSE,20TSO,20TSWA,20TZA,20TZU,20TZI,20TZAA"),
    (0x1344, "20TZEE,20TZE,20TZO,20TZOA,20FA,20FU,20FI,20FAA,20FEE,20FE,20FO,20FWA"),
    (0x1350, "20PA,20PU,20PI,20PAA,20PEE,20PE,20PO,20PWA,20RYA,20MYA,20FYA"),
    (0x135d, "10COMBINING GEMINATION AND VOWEL LENGTH MARK,23,21GEMINATION,11SECTION"),
    (0x1361, "10WORDSPACE,10FULL STOP,10COMMA,10SEMICOLON,10COLON,11PREFACE"),
    (0x1367, "10QUESTION MARK,10PARAGRAPH SEPARATOR,10DIGIT ONE,20TWO,20THREE,20FOUR"),
    (0x136d, "20FIVE,20SIX,20SEVEN,20EIGHT,20NINE,10NUMBER TEN,20TWENTY,20THIRTY"),
    (0x1375, "20FORTY,20FIFTY,20SIXTY,20SEVENTY,20EIGHTY,20NINETY,20HUNDRED"),
    (0x137c, "20TEN THOUSAND"),
    (0x1380, "10SYLLABLE SEBATBEIT MWA,20MWI,20MWEE,20MWE,20SEBATBEIT BWA,20BWI"),
    (0x1386, "20BWEE,20BWE,20SEBATBEIT FWA,20FWI,20FWEE,20FWE,20SEBATBEIT PWA,20PWI"),
    (0x138e, "20PWEE,20PWE,10TONAL MARK YIZET,30DERET,30RIKRIK,31SHORT,30DIFAT"),
    (0x1395, "30KENAT,30CHIRET,30HIDET,30DERET-HIDET,30KURT"),
    (0x13a0, "00CHEROKEE LETTER A,20E,20I,20O,20U,20V,20GA,20KA,20GE,20GI,20GO,20GU"),
    (0x13ac, "20GV,20HA,20HE,20HI,20HO,20HU,20HV,20LA,20LE,20LI,20LO,20LU,20LV,20MA"),
    (0x13ba, "20ME,20MI,20MO,20MU,20NA,20HNA,20NAH,20NE,20NI,20NO,20NU,20NV,20QUA"),
    (0x13c7, "20QUE,20QUI,20QUO,20QUU,20QUV,20SA,20S,20SE,20SI,20SO,20SU,20SV,20DA"),
    (0x13d4, "20TA,20DE,20TE,20DI,20TI,20DO,20DU,20DV,20DLA,20TLA,20TLE,20TLI,20TLO"),
    (0x13e1, "20TLU,20TLV,20TSA,20TSE,20TSI,20TSO,20TSU,20TSV,20WA,20WE,20WI,20WO"),
    (0x13ed, "20WU,20WV,20YA,20YE,20YI,20YO,20YU,20YV,20MV"),
    (0x13f8, "10SMALL LETTER YE,30YI,30YO,30YU,30YV,30MV"),
    (0x1400, "00CANADIAN SYLLABICS HYPHEN,20E,20AAI,20I,20II,20O,20OO,21Y-CREE"),
    (0x1408, "20CARRIER EE,30I,20A,20AA,20WE,21WEST-CREE,20WI,21WEST-CREE,20WII"),
    (0x1411, "21WEST-CREE,20WO,21WEST-CREE,20WOO,21WEST-CREE,21NASKAPI,20WA"),
    (0x1418, "21WEST-CREE,20WAA,21WEST-CREE,21NASKAPI,20AI,20Y-CREE W,20GLOTTAL STOP"),
    (0x141f, "20FINAL ACUTE,30GRAVE,30BOTTOM HALF RING,32TOP,32RIGHT,31"),
    (0x1425, "30DOUBLE ACUTE,40SHORT VERTICAL STROKES,30MIDDLE DOT"),
    (0x1428, "30SHORT HORIZONTAL STROKE,30PLUS,30DOWN TACK,20EN,20IN,20ON,20AN,20PE"),
    (0x1430, "20PAAI,20PI,20PII,20PO,20POO,21Y-CREE,20CARRIER HEE,30HI,20PA,20PAA"),
    (0x143a, "20PWE,21WEST-CREE,20PWI,21WEST-CREE,20PWII,21WEST-CREE,20PWO"),
    (0x1441, "21WEST-CREE,20PWOO,21WEST-CREE,20PWA,21WEST-CREE,20PWAA,21WEST-CREE"),
    (0x1448, "21Y-CREE,20P,21WEST-CREE,20CARRIER H,20TE,20TAAI,20TI,20TII,20TO,20TOO"),
    (0x1452, "21Y-CREE,20CARRIER DEE,30DI,20TA,20TAA,20TWE,21WEST-CREE,20TWI"),
    (0x145a, "21WEST-CREE,20TWII,21WEST-CREE,20TWO,21WEST-CREE,20TWOO,21WEST-CREE"),
    (0x1461, "20TWA,21WEST-CREE,20TWAA,21WEST-CREE,21NASKAPI,20T,20TTE,20TTI,20TTO"),
    (0x146a, "20TTA,20KE,20KAAI,20KI,20KII,20KO,20KOO,21Y-CREE,20KA,20KAA,20KWE"),
    (0x1475, "21WEST-CREE,20KWI,21WEST-CREE,20KWII,21WEST-CREE,20KWO,21WEST-CREE"),
    (0x147c, "20KWOO,21WEST-CREE,20KWA,21WEST-CREE,20KWAA,21WEST-CREE,21NASKAPI,20K"),
    (0x1484, "20KW,20SOUTH-SLAVEY KEH,30KIH,30KOH,30KAH,20CE,20CAAI,20CI,20CII,20CO"),
    (0x148e, "20COO,21Y-CREE,20CA,20CAA,20CWE,21WEST-CREE,20CWI,21WEST-CREE,20CWII"),
    (0x1497, "21WEST-CREE,20CWO,21WEST-CREE,20CWOO,21WEST-CREE,20CWA,21WEST-CREE"),
    (0x149e, "20CWAA,21WEST-CREE,21NASKAPI,20C,20SAYISI TH,20ME,20MAAI,20MI,20MII"),
    (0x14a7, "20MO,20MOO,21Y-CREE,20MA,20MAA,20MWE,21WEST-CREE,20MWI,21WEST-CREE"),
    (0x14b0, "20MWII,21WEST-CREE,20MWO,21WEST-CREE,20MWOO,21WEST-CREE,20MWA"),
    (0x14b7, "21WEST-CREE,20MWAA,21WEST-CREE,21NASKAPI,20M,21WEST-CREE,20MH"),
    (0x14be, "20ATHAPASCAN M,21SAYISI,20NE,20NAAI,20NI,20NII,20NO,20NOO,21Y-CREE,20NA"),
    (0x14c8, "20NAA,20NWE,21WEST-CREE,20NWA,21WEST-CREE,20NWAA,21WEST-CREE,21NASKAPI"),
    (0x14d0, "20N,20CARRIER NG,20NH,20LE,20LAAI,20LI,20LII,20LO,20LOO,21Y-CREE,20LA"),
    (0x14db, "20LAA,20LWE,21WEST-CREE,20LWI,21WEST-CREE,20LWII,21WEST-CREE,20LWO"),
    (0x14e3, "21WEST-CREE,20LWOO,21WEST-CREE,20LWA,21WEST-CREE,20LWAA,21WEST-CREE,20L"),
    (0x14eb, "21WEST-CREE,21MEDIAL,20SE,20SAAI,20SI,20SII,20SO,20SOO,21Y-CREE,20SA"),
    (0x14f5, "20SAA,20SWE,21WEST-CREE,20SWI,21WEST-CREE,20SWII,21WEST-CREE,20SWO"),
    (0x14fd, "21WEST-CREE,20SWOO,21WEST-CREE,20SWA,21WEST-CREE,20SWAA,21WEST-CREE"),
    (0x1504, "21NASKAPI,20S,21ATHAPASCAN,20SW,20BLACKFOOT S,20MOOSE-CREE SK"),
    (0x150a, "20NASKAPI SKW,30S-W,30SPWA,30STWA,30SKWA,30SCWA,20SHE,20SHI,20SHII"),
    (0x1513, "20SHO,20SHOO,20SHA,20SHAA,20SHWE,21WEST-CREE,20SHWI,21WEST-CREE,20SHWII"),
    (0x151c, "21WEST-CREE,20SHWO,21WEST-CREE,20SHWOO,21WEST-CREE,20SHWA,21WEST-CREE"),
    (0x1523, "20SHWAA,21WEST-CREE,20SH,20YE,20YAAI,20YI,20YII,20YO,20YOO,21Y-CREE"),
    (0x152d, "20YA,20YAA,20YWE,21WEST-CREE,20YWI,21WEST-CREE,20YWII,21WEST-CREE,20YWO"),
    (0x1536, "21WEST-CREE,20YWOO,21WEST-CREE,20YWA,21WEST-CREE,20YWAA,21WEST-CREE"),
    (0x153d, "21NASKAPI,20Y,21BIBLE-CREE,21WEST-CREE,20SAYISI YI,20RE,21R-CREE"),
    (0x1544, "20WEST-CREE LE,20RAAI,20RI,20RII,20RO,20ROO,20WEST-CREE LO,20RA,20RAA"),
    (0x154d, "20WEST-CREE LA,20RWAA,21WEST-CREE,20R,21WEST-CREE,21MEDIAL,20FE,20FAAI"),
    (0x1555, "20FI,20FII,20FO,20FOO,20FA,20FAA,20FWAA,21WEST-CREE,20F,20THE,21N-CREE"),
    (0x1560, "20THI,21N-CREE,20THII,21N-CREE,20THO,20THOO,20THA,20THAA,20THWAA"),
    (0x1569, "21WEST-CREE,20TH,20TTHE,20TTHI,20TTHO,20TTHA,20TTH,20TYE,20TYI,20TYO"),
    (0x1573, "20TYA,20NUNAVIK HE,30HI,30HII,30HO,30HOO,30HA,30HAA,30H,21NUNAVUT,20HK"),
    (0x157e, "20QAAI,20QI,20QII,20QO,20QOO,20QA,20QAA,20Q,20TLHE,20TLHI,20TLHO,20TLHA"),
    (0x158a, "20WEST-CREE RE,30RI,30RO,30RA,20NGAAI,20NGI,20NGII,20NGO,20NGOO,20NGA"),
    (0x1594, "20NGAA,20NG,20NNG,20SAYISI SHE,30SHI,30SHO,30SHA,20WOODS-CREE THE,30THI"),
    (0x159d, "30THO,30THA,30TH,20LHI,20LHII,20LHO,20LHOO,20LHA,20LHAA,20LH"),
    (0x15a7, "20TH-CREE THE,30THI,30THII,30THO,30THOO,30THA,30THAA,30TH,20AIVILIK B"),
    (0x15b0, "20BLACKFOOT E,30I,30O,30A,30WE,30WI,30WO,30WA,30NE,30NI,30NO,30NA,30KE"),
    (0x15bd, "30KI,30KO,30KA,20SAYISI HE,30HI,30HO,30HA,20CARRIER GHU,30GHO,30GHE"),
    (0x15c7, "30GHEE,30GHI,30GHA,30RU,30RO,30RE,30REE,30RI,30RA,30WU,30WO,30WE,30WEE"),
    (0x15d4, "30WI,30WA,30HWU,30HWO,30HWE,30HWEE,30HWI,30HWA,30THU,30THO,30THE,30THEE"),
    (0x15e0, "30THI,30THA,30TTU,30TTO,30TTE,30TTEE,30TTI,30TTA,30PU,30PO,30PE,30PEE"),
    (0x15ec, "30PI,30PA,30P,30GU,30GO,30GE,30GEE,30GI,30GA,30KHU,30KHO,30KHE,30KHEE"),
    (0x15f9, "30KHI,30KHA,30KKU,30KKO,30KKE,30KKEE,30KKI,30KKA,30KK,30NU,30NO,30NE"),
    (0x1605, "30NEE,30NI,30NA,30MU,30MO,30ME,30MEE,30MI,30MA,30YU,30YO,30YE,30YEE"),
    (0x1612, "30YI,30YA,30JU,21SAYISI,20CARRIER JO,30JE,30JEE,30JI,21SAYISI"),
    (0x161b, "20CARRIER JA,30JJU,30JJO,30JJE,30JJEE,30JJI,30JJA,30LU,30LO,30LE,30LEE"),
    (0x1626, "30LI,30LA,30DLU,30DLO,30DLE,30DLEE,30DLI,30DLA,30LHU,30LHO,30LHE,30LHEE"),
    (0x1632, "30LHI,30LHA,30TLHU,30TLHO,30TLHE,30TLHEE,30TLHI,30TLHA,30TLU,30TLO"),
    (0x163c, "30TLE,30TLEE,30TLI,30TLA,30ZU,30ZO,30ZE,30ZEE,30ZI,30ZA,30Z,31INITIAL"),
    (0x1648, "30DZU,30DZO,30DZE,30DZEE,30DZI,30DZA,30SU,30SO,30SE,30SEE,30SI,30SA"),
    (0x1654, "30SHU,30SHO,30SHE,30SHEE,30SHI,30SHA,30SH,30TSU,30TSO,30TSE,30TSEE"),
    (0x165f, "30TSI,30TSA,30CHU,30CHO,30CHE,30CHEE,30CHI,30CHA,30TTSU,30TTSO,30TTSE"),
    (0x166a, "30TTSEE,30TTSI,30TTSA,20CHI SIGN,20FULL STOP,20QAI,20NGAI,20NNGI"),
    (0x1672, "20NNGII,20NNGO,20NNGOO,20NNGA,20NNGAA,20WOODS-CREE THWEE,30THWI,30THWII"),
    (0x167a, "30THWO,30THWOO,30THWA,30THWAA,30FINAL TH,20BLACKFOOT W")]

/-- The packed names of Ogham, of runes, of Khmer, of Mongolian
and of the scripts of islands. -/
def islandScriptNames : List (Nat × String) :=
  [
    (0x1680, "00OGHAM SPACE MARK,10LETTER BEITH,20LUIS,20FEARN,20SAIL,20NION,20UATH"),
    (0x1687, "20DAIR,20TINNE,20COLL,20CEIRT,20MUIN,20GORT,20NGEADAL,20STRAIF,20RUIS"),
    (0x1690, "20AILM,20ONN,20UR,20EADHADH,20IODHADH,20EABHADH,20OR,20UILLEANN,20IFIN"),
    (0x1699, "20EAMHANCHOLL,20PEITH,10FEATHER MARK,12REVERSED"),
    (0x16a0, "00RUNIC LETTER FEHU FEOH FE F,20V,20URUZ UR U,20YR,20Y,20W"),
    (0x16a6, "20THURISAZ THURS THORN,20ETH,20ANSUZ A,20OS O,20AC A,20AESC"),
    (0x16ac, "20LONG-BRANCH-OSS O,21SHORT-TWIG-OSS,21,20OE,20ON,20RAIDO RAD REID R"),
    (0x16b2, "20KAUNA,20CEN,20KAUN K,20G,20ENG,20GEBO GYFU G,20GAR,20WUNJO WYNN W"),
    (0x16ba, "20HAGLAZ H,21HAEGL,21LONG-BRANCH-HAGALL,21SHORT-TWIG-HAGALL"),
    (0x16be, "20NAUDIZ NYD NAUD N,21SHORT-TWIG-NAUD,20DOTTED-N,20ISAZ IS ISS I,20E"),
    (0x16c3, "20JERAN J,20GER,20LONG-BRANCH-AR AE,20SHORT-TWIG-AR A,20IWAZ EOH"),
    (0x16c8, "20PERTHO PEORTH P,20ALGIZ EOLHX,20SOWILO S,21SIGEL LONG-BRANCH-SOL"),
    (0x16cc, "21SHORT-TWIG-SOL,20C,20Z,20TIWAZ TIR TYR T,21SHORT-TWIG-TYR,20D"),
    (0x16d2, "20BERKANAN BEORC BJARKAN B,21SHORT-TWIG-BJARKAN,20DOTTED-P,20OPEN-P"),
    (0x16d6, "20EHWAZ EH E,20MANNAZ MAN M,21LONG-BRANCH-MADR,21SHORT-TWIG-MADR"),
    (0x16da, "20LAUKAZ LAGU LOGR L,20DOTTED-L,20INGWAZ,20ING,20DAGAZ DAEG D"),
    (0x16df, "20OTHALAN ETHEL O,20EAR,20IOR,20CWEORTH,20CALC,20CEALC,20STAN"),
    (0x16e6, "20LONG-BRANCH-YR,20SHORT-TWIG-YR,20ICELANDIC-YR,20Q,20X"),
    (0x16eb, "10SINGLE PUNCTUATION,11MULTIPLE,11CROSS,10ARLAUG SYMBOL,11TVIMADUR"),
    (0x16f0, "11BELGTHOR,10LETTER K,20SH,20OO,20FRANKS CASKET OS,40IS,40EH,40AC"),
    (0x16f8, "40AESC"),
    (0x1700, "00TAGALOG LETTER A,20I,20U,20KA,20GA,20NGA,20TA,20DA,20NA,20PA,20BA"),
    (0x170b, "20MA,20YA,20RA,20LA,20WA,20SA,20HA,10VOWEL SIGN I,30U,10SIGN VIRAMA"),
    (0x1715, "20PAMUDPOD"),
    (0x171f, "10LETTER ARCHAIC RA,00HANUNOO LETTER A,20I,20U,20KA,20GA,20NGA,20TA"),
    (0x1727, "20DA,20NA,20PA,20BA,20MA,20YA,20RA,20LA,20WA,20SA,20HA,10VOWEL SIGN I"),
    (0x1733, "30U,10SIGN PAMUDPOD,00PHILIPPINE SINGLE PUNCTUATION,11DOUBLE"),
    (0x1740, "00BUHID LETTER A,20I,20U,20KA,20GA,20NGA,20TA,20DA,20NA,20PA,20BA,20MA"),
    (0x174c, "20YA,20RA,20LA,20WA,20SA,20HA,10VOWEL SIGN I,30U"),
    (0x1760, "00TAGBANWA LETTER A,20I,20U,20KA,20GA,20NGA,20TA,20DA,20NA,20PA,20BA"),
    (0x176b, "20MA,20YA"),
    (0x176e, "20LA,20WA,20SA"),
    (0x1772, "10VOWEL SIGN I,30U"),
    (0x1780, "00KHMER LETTER KA,20KHA,20KO,20KHO,20NGO,20CA,20CHA,20CO,20CHO,20NYO"),
    (0x178a, "20DA,20TTHA,20DO,20TTHO,20NNO,20TA,20THA,20TO,20THO,20NO,20BA,20PHA"),
    (0x1796, "20PO,20PHO,20MO,20YO,20RO,20LO,20VO,20SHA,20SSO,20SA,20HA,20LA,20QA"),
    (0x17a3, "10INDEPENDENT VOWEL QAQ,30QAA,30QI,30QII,30QU,30QUK,30QUU,30QUUV,30RY"),
    (0x17ac, "30RYY,30LY,30LYY,30QE,30QAI,30QOO TYPE ONE,50TWO,30QAU"),
    (0x17b4, "10VOWEL INHERENT AQ,30AA,21SIGN,30I,30II,30Y,30YY,30U,30UU,30UA,30OE"),
    (0x17bf, "30YA,30IE,30E,30AE,30AI,30OO,30AU,10SIGN NIKAHIT,20REAHMUK"),
    (0x17c8, "20YUUKALEAPINTU,20MUUSIKATOAN,20TRIISAP,20BANTOC,20ROBAT,20TOANDAKHIAT"),
    (0x17ce, "20KAKABAT,20AHSDA,20SAMYOK SANNYA,20VIRIAM,20COENG,20BATHAMASAT,20KHAN"),
    (0x17d5, "20BARIYOOSAN,20CAMNUC PII KUUH,20LEK TOO,20BEYYAL,20PHNAEK MUAN"),
    (0x17da, "20KOOMUUT,10CURRENCY SYMBOL RIEL,10SIGN AVAKRAHASANYA,20ATTHACAN"),
    (0x17e0, "10DIGIT ZERO,20ONE,20TWO,20THREE,20FOUR,20FIVE,20SIX,20SEVEN,20EIGHT"),
    (0x17e9, "20NINE"),
    (0x17f0, "10SYMBOL LEK ATTAK SON,40MUOY,40PII,40BEI,40BUON,40PRAM,40PRAM-MUOY"),
    (0x17f7, "40PRAM-PII,40PRAM-BEI,40PRAM-BUON"),
    (0x1800, "00MONGOLIAN BIRGA,10ELLIPSIS,10COMMA,10FULL STOP,10COLON,10FOUR DOTS"),
    (0x1806, "10TODO SOFT HYPHEN,10SIBE SYLLABLE BOUNDARY MARKER,10MANCHU COMMA"),
    (0x1809, "20FULL STOP,10NIRUGU,10FREE VARIATION SELECTOR ONE,40TWO,40THREE"),
    (0x180e, "10VOWEL SEPARATOR,10FREE VARIATION SELECTOR FOUR,10DIGIT ZERO,20ONE"),
    (0x1812, "20TWO,20THREE,20FOUR,20FIVE,20SIX,20SEVEN,20EIGHT,20NINE"),
    (0x1820, "10LETTER A,20E,20I,20O,20U,20OE,20UE,20EE,20NA,20ANG,20BA,20PA,20QA"),
    (0x182d, "20GA,20MA,20LA,20SA,20SHA,20TA,20DA,20CHA,20JA,20YA,20RA,20WA,20FA,20KA"),
    (0x183b, "20KHA,20TSA,20ZA,20HAA,20ZRA,20LHA,20ZHI,20CHI,20TODO LONG VOWEL SIGN"),
    (0x1844, "30E,30I,30O,30U,30OE,30UE,30ANG,30BA,30PA,30QA,30GA,30MA,30TA,30DA"),
    (0x1852, "30CHA,30JA,30TSA,30YA,30WA,30KA,30GAA,30HAA,30JIA,30NIA,30DZA,20SIBE E"),
    (0x185e, "30I,30IY,30UE,30U,30ANG,30KA,30GA,30HA,30PA,30SHA,30TA,30DA,30JA,30FA"),
    (0x186c, "30GAA,30HAA,30TSA,30ZA,30RAA,30CHA,30ZHA,20MANCHU I,30KA,30RA,30FA"),
    (0x1877, "30ZHA,20CHA WITH TWO DOTS"),
    (0x1880, "20ALI GALI ANUSVARA ONE,41VISARGA,40DAMARU,40UBADAMA,41INVERTED"),
    (0x1885, "40BALUDA,41THREE,40A,40I,40KA,40NGA,40CA,40TTA,40TTHA,40DDA,40NNA,40TA"),
    (0x1891, "40DA,40PA,40PHA,40SSA,40ZHA,40ZA,40AH,20TODO ALI GALI TA,50ZHA"),
    (0x189a, "20MANCHU ALI GALI GHA,50NGA,50CA,50JHA,50TTA,50DDHA,50TA,50DHA,50SSA"),
    (0x18a3, "50CYA,50ZHA,50ZA,20ALI GALI HALF U,50YA,20MANCHU ALI GALI BHA"),
    (0x18a9, "20ALI GALI DAGALGA,20MANCHU ALI GALI LHA"),
    (0x18b0, "00CANADIAN SYLLABICS OY,20AY,20AAY,20WAY,20POY,20PAY,20PWOY,20TAY,20KAY"),
    (0x18b9, "20KWAY,20MAY,20NOY,20NAY,20LAY,20SOY,20SAY,20SHOY,20SHAY,20SHWOY,20YOY"),
    (0x18c4, "20YAY,20RAY,20NWI,21OJIBWAY,20NWII,21OJIBWAY,20NWO,21OJIBWAY,20NWOO"),
    (0x18cd, "21OJIBWAY,20RWEE,20RWI,20RWII,20RWO,20RWOO,20RWA,20OJIBWAY P,30T,30K"),
    (0x18d7, "30C,30M,30N,30S,30SH,20EASTERN W,21WESTERN,20FINAL SMALL RING"),
    (0x18df, "30RAISED DOT,20R-CREE RWE,20WEST-CREE LOO,30LAA,20THWE,20THWA,20TTHWE"),
    (0x18e6, "20TTHOO,20TTHAA,20TLHWE,20TLHOO,20SAYISI SHWE,30SHOO,30HOO"),
    (0x18ed, "20CARRIER GWU,30DENE GEE,30GAA,30GWA,20SAYISI JUU,20CARRIER JWA"),
    (0x18f3, "20BEAVER DENE L,40R,20CARRIER DENTAL S"),
    (0x1900, "00LIMBU VOWEL-CARRIER LETTER,10LETTER KA,20KHA,20GA,20GHA,20NGA,20CA"),
    (0x1907, "20CHA,20JA,20JHA,20YAN,20TA,20THA,20DA,20DHA,20NA,20PA,20PHA,20BA,20BHA"),
    (0x1914, "20MA,20YA,20RA,20LA,20WA,20SHA,20SSA,20SA,20HA,20GYAN,20TRA"),
    (0x1920, "10VOWEL SIGN A,30I,30U,30EE,30AI,30OO,30AU,30E,30O"),
    (0x1929, "10SUBJOINED LETTER YA,30RA,30WA"),
    (0x1930, "10SMALL LETTER KA,30NGA,30ANUSVARA,30TA,30NA,30PA,30MA,30RA,30LA"),
    (0x1939, "10SIGN MUKPHRENG,20KEMPHRENG,20SA-I"),
    (0x1940, "20LOO"),
    (0x1944, "10EXCLAMATION MARK,11QUESTION,10DIGIT ZERO,20ONE,20TWO,20THREE,20FOUR"),
    (0x194b, "20FIVE,20SIX,20SEVEN,20EIGHT,20NINE,00TAI LE LETTER KA,30XA,30NGA,30TSA"),
    (0x1954, "30SA,30YA,30TA,30THA,30LA,30PA,30PHA,30MA,30FA,30VA,30HA,30QA,30KHA"),
    (0x1961, "30TSHA,30NA,30A,30I,30EE,30EH,30U,30OO,30O,30UE,30E,30AUE,30AI"),
    (0x1970, "30TONE-2,30TONE-3,30TONE-4,30TONE-5,30TONE-6"),
    (0x1980, "00NEW TAI LUE LETTER HIGH QA,41LOW,40HIGH KA,50XA,50NGA,40LOW KA,50XA"),
    (0x1987, "50NGA,40HIGH TSA,50SA,50YA,40LOW TSA,50SA,50YA,40HIGH TA,50THA,50NA"),
    (0x1991, "40LOW TA,50THA,50NA,40HIGH PA,50PHA,50MA,40LOW PA,50PHA,50MA,40HIGH FA"),
    (0x199b, "50VA,50LA,40LOW FA,50VA,50LA,40HIGH HA,50DA,50BA,40LOW HA,50DA,50BA"),
    (0x19a6, "40HIGH KVA,50XVA,40LOW KVA,50XVA,40HIGH SUA,41LOW"),
    (0x19b0, "30VOWEL SIGN VOWEL SHORTENER,50AA,50II,50U,50UU,50E,50AE,50O,50OA,50UE"),
    (0x19ba, "50AY,50AAY,50UY,50OY,50OAY,50UEY,50IY,30LETTER FINAL V,50NG,50N,50M,50K"),
    (0x19c6, "50D,50B,30TONE MARK-1,40MARK-2"),
    (0x19d0, "30DIGIT ZERO,40ONE,40TWO,40THREE,40FOUR,40FIVE,40SIX,40SEVEN,40EIGHT"),
    (0x19d9, "40NINE,30THAM DIGIT ONE"),
    (0x19de, "30SIGN LAE,40LAEV,00KHMER SYMBOL PATHAMASAT,20MUOY KOET,21PII,21BEI"),
    (0x19e4, "21BUON,21PRAM,21PRAM-MUOY,21PRAM-PII,21PRAM-BEI,21PRAM-BUON,21DAP"),
    (0x19eb, "21DAP-MUOY,21DAP-PII,21DAP-BEI,21DAP-BUON,21DAP-PRAM,20TUTEYASAT"),
    (0x19f1, "20MUOY ROC,21PII,21BEI,21BUON,21PRAM,21PRAM-MUOY,21PRAM-PII,21PRAM-BEI"),
    (0x19f9, "21PRAM-BUON,21DAP,21DAP-MUOY,21DAP-PII,21DAP-BEI,21DAP-BUON,21DAP-PRAM"),
    (0x1a00, "00BUGINESE LETTER KA,20GA,20NGA,20NGKA,20PA,20BA,20MA,20MPA,20TA,20DA"),
    (0x1a0a, "20NA,20NRA,20CA,20JA,20NYA,20NYCA,20YA,20RA,20LA,20VA,20SA,20A,20HA"),
    (0x1a17, "10VOWEL SIGN I,30U,30E,30O,30AE"),
    (0x1a1e, "10PALLAWA,10END OF SECTION,00TAI THAM LETTER HIGH KA,40KHA,40KXA"),
    (0x1a23, "30LOW KA,40KXA,40KHA,30NGA,30HIGH CA,40CHA,30LOW CA,40SA,40CHA,30NYA"),
    (0x1a2d, "30RATA,30HIGH RATHA,30DA,30LOW RATHA,30RANA,30HIGH TA,40THA,30LOW TA"),
    (0x1a35, "40THA,30NA,30BA,30HIGH PA,40PHA,40FA,30LOW PA,40FA,40PHA,30MA,30LOW YA"),
    (0x1a40, "31HIGH,30RA,30RUE,30LA,30LUE,30WA,30HIGH SHA,40SSA,40SA,40HA,30LLA,30A"),
    (0x1a4c, "30LOW HA,30I,30II,30U,30UU,30EE,30OO,30LAE,30GREAT SA"),
    (0x1a55, "20CONSONANT SIGN MEDIAL RA,50LA,40LA TANG LAI,21SIGN MAI KANG"),
    (0x1a59, "20CONSONANT SIGN FINAL NGA,40LOW PA,42HIGH RATHA OR,40MA,40BA,40SA"),
    (0x1a60, "20SIGN SAKOT,20VOWEL SIGN A,40MAI SAT,40AA,41TALL,40I,40II,40UE,40UUE"),
    (0x1a69, "40U,40UU,40O,40OA BELOW,40OY,40E,40AE,40OO,40AI,41THAM,40OA ABOVE"),
    (0x1a74, "20SIGN MAI KANG,30TONE-1,30TONE-2,30KHUEN TONE-3,40TONE-4,40TONE-5"),
    (0x1a7a, "30RA HAAM,30MAI SAM,30KHUEN-LUE KARAN"),
    (0x1a7f, "20COMBINING CRYPTOGRAMMIC DOT,20HORA DIGIT ZERO,40ONE,40TWO,40THREE"),
    (0x1a84, "40FOUR,40FIVE,40SIX,40SEVEN,40EIGHT,40NINE"),
    (0x1a90, "20THAM DIGIT ZERO,40ONE,40TWO,40THREE,40FOUR,40FIVE,40SIX,40SEVEN"),
    (0x1a98, "40EIGHT,40NINE"),
    (0x1aa0, "20SIGN WIANG,30WIANGWAAK,30SAWAN,30KEOW,30HOY,30DOKMAI"),
    (0x1aa6, "30REVERSED ROTATED RANA,30MAI YAMOK,30KAAN,30KAANKUU,30SATKAAN"),
    (0x1aab, "30SATKAANKUU,30HANG,30CAANG"),
    (0x1ab0, "00COMBINING DOUBLED CIRCUMFLEX ACCENT,10DIAERESIS-RING,10INFINITY"),
    (0x1ab3, "10DOWNWARDS ARROW,10TRIPLE DOT,10X-X BELOW,11WIGGLY LINE,11OPEN MARK"),
    (0x1ab8, "13DOUBLE,11LIGHT CENTRALIZATION STROKE,13STRONG,10PARENTHESES ABOVE"),
    (0x1abc, "12DOUBLE,10PARENTHESES BELOW,20OVERLAY,10LATIN SMALL LETTER W BELOW"),
    (0x1ac0, "42TURNED,10LEFT PARENTHESIS ABOVE LEFT,10RIGHT PARENTHESIS ABOVE RIGHT"),
    (0x1ac3, "10LEFT PARENTHESIS BELOW LEFT,10RIGHT PARENTHESIS BELOW RIGHT"),
    (0x1ac5, "10SQUARE BRACKETS ABOVE,11NUMBER SIGN,11INVERTED DOUBLE ARCH"),
    (0x1ac8, "11PLUS SIGN,13DOUBLE,40BELOW,10TRIPLE ACUTE ACCENT"),
    (0x1acc, "10LATIN SMALL LETTER INSULAR G,50R,50T"),
    (0x1b00, "00BALINESE SIGN ULU RICEM,30CANDRA,20CECEK,20SURANG,20BISAH"),
    (0x1b05, "10LETTER AKARA,30TEDUNG,20IKARA,30TEDUNG,20UKARA,30TEDUNG,20RA REPA"),
    (0x1b0c, "40TEDUNG,20LA LENGA,40TEDUNG,20EKARA,20AIKARA,20OKARA,30TEDUNG,20KA"),
    (0x1b14, "30MAHAPRANA,20GA,30GORA,20NGA,20CA,30LACA,20JA,30JERA,20NYA,20TA LATIK"),
    (0x1b1e, "30MURDA MAHAPRANA,20DA MURDA ALPAPRANA,40MAHAPRANA,20NA RAMBAT,20TA"),
    (0x1b23, "30TAWA,20DA,30MADU,20NA,20PA,30KAPAL,20BA,30KEMBANG,20MA,20YA,20RA,20LA"),
    (0x1b2f, "20WA,20SA SAGA,30SAPA,30,20HA,10SIGN REREKAN,10VOWEL SIGN TEDUNG,30ULU"),
    (0x1b37, "40SARI,30SUKU,40ILUT,30RA REPA,50TEDUNG,30LA LENGA,50TEDUNG,30TALING"),
    (0x1b3f, "40REPA,40TEDUNG,41REPA,30PEPET,40TEDUNG,10ADEG ADEG,10LETTER KAF SASAK"),
    (0x1b46, "21KHOT,21TZIR,21EF,21VE,21ZAL,21ASYURA,20ARCHAIC JNYA"),
    (0x1b50, "10DIGIT ZERO,20ONE,20TWO,20THREE,20FOUR,20FIVE,20SIX,20SEVEN,20EIGHT"),
    (0x1b59, "20NINE,10PANTI,10PAMADA,10WINDU,10CARIK PAMUNGKAH,20SIKI,20PAREREN"),
    (0x1b60, "10PAMENENG,10MUSICAL SYMBOL DONG,30DENG,30DUNG,30DANG,40SURANG,30DING"),
    (0x1b67, "30DAENG,30DEUNG,30DAING,30DANG GEDE,30COMBINING TEGEH,40ENDEP,40KEMPUL"),
    (0x1b6e, "40KEMPLI,40JEGOGAN,41KEMPUL WITH,42KEMPLI,40BENDE,40GONG"),
    (0x1b74, "30RIGHT-HAND OPEN DUG,50DAG,40CLOSED TUK,50TAK,30LEFT-HAND OPEN PANG"),
    (0x1b79, "50PUNG,40CLOSED PLAK,50PLUK,40OPEN PING,10PANTI LANTANG,11PAMADA"),
    (0x1b80, "00SUNDANESE SIGN PANYECEK,20PANGLAYAR,20PANGWISAD,10LETTER A,20I,20U"),
    (0x1b86, "20AE,20O,20E,20EU,20KA,20QA,20GA,20NGA,20CA,20JA,20ZA,20NYA,20TA,20DA"),
    (0x1b94, "20NA,20PA,20FA,20VA,20BA,20MA,20YA,20RA,20LA,20WA,20SA,20XA,20HA"),
    (0x1ba1, "10CONSONANT SIGN PAMINGKAL,30PANYAKRA,30PANYIKU,10VOWEL SIGN PANGHULU"),
    (0x1ba5, "30PANYUKU,30PANAELAENG,30PANOLONG,30PAMEPET,30PANEULEUNG,10SIGN PAMAAEH"),
    (0x1bab, "20VIRAMA,10CONSONANT SIGN PASANGAN MA,40WA,10LETTER KHA,20SYA"),
    (0x1bb0, "10DIGIT ZERO,20ONE,20TWO,20THREE,20FOUR,20FIVE,20SIX,20SEVEN,20EIGHT"),
    (0x1bb9, "20NINE,10AVAGRAHA,10LETTER REU,20LEU,20BHA,20FINAL K,30M"),
    (0x1bc0, "00BATAK LETTER A,21SIMALUNGUN,20HA,21SIMALUNGUN,21MANDAILING,20BA"),
    (0x1bc6, "21KARO,20PA,21SIMALUNGUN,20NA,21MANDAILING,20WA,21SIMALUNGUN,21PAKPAK"),
    (0x1bce, "20GA,21SIMALUNGUN,20JA,20DA,20RA,21SIMALUNGUN,20MA,21SIMALUNGUN"),
    (0x1bd6, "20SOUTHERN TA,21NORTHERN,20SA,21SIMALUNGUN,21MANDAILING,20YA"),
    (0x1bdc, "21SIMALUNGUN,20NGA,20LA,21SIMALUNGUN,20NYA,20CA,20NDA,20MBA,20I,20U"),
    (0x1be6, "10SIGN TOMPI,10VOWEL SIGN E,31PAKPAK,30EE,30I,31KARO,30O,31KARO,30U"),
    (0x1bef, "40FOR SIMALUNGUN SA,10CONSONANT SIGN NG,30H,10PANGOLAT,10PANONGONAN"),
    (0x1bfc, "10SYMBOL BINDU NA METEK,30PINARBORAS,30JUDUL,30PANGOLAT"),
    (0x1c00, "00LEPCHA LETTER KA,20KLA,20KHA,20GA,20GLA,20NGA,20CA,20CHA,20JA,20NYA"),
    (0x1c0a, "20TA,20THA,20DA,20NA,20PA,20PLA,20PHA,20FA,20FLA,20BA,20BLA,20MA,20MLA"),
    (0x1c17, "20TSA,20TSHA,20DZA,20YA,20RA,20LA,20HA,20HLA,20VA,20SA,20SHA,20WA,20A"),
    (0x1c24, "10SUBJOINED LETTER YA,30RA,10VOWEL SIGN AA,30I,30O,30OO,30U,30UU,30E"),
    (0x1c2d, "10CONSONANT SIGN K,30M,30L,30N,30P,30R,30T,30NYIN-DO,30KANG,10SIGN RAN"),
    (0x1c37, "20NUKTA"),
    (0x1c3b, "10PUNCTUATION TA-ROL,21NYET THYOOM,20CER-WA,21TSHOOK,30,10DIGIT ZERO"),
    (0x1c41, "20ONE,20TWO,20THREE,20FOUR,20FIVE,20SIX,20SEVEN,20EIGHT,20NINE"),
    (0x1c4d, "10LETTER TTA,20TTHA,20DDA,00OL CHIKI DIGIT ZERO,30ONE,30TWO,30THREE"),
    (0x1c54, "30FOUR,30FIVE,30SIX,30SEVEN,30EIGHT,30NINE,20LETTER LA,30AT,30AG,30ANG"),
    (0x1c5e, "30AL,30LAA,30AAK,30AAJ,30AAM,30AAW,30LI,30IS,30IH,30INY,30IR,30LU,30UC"),
    (0x1c6b, "30UD,30UNN,30UY,30LE,30EP,30EDD,30EN,30ERR,30LO,30OTT,30OB,30OV,30OH"),
    (0x1c78, "20MU TTUDDAG,20GAAHLAA TTUDDAAG,21MU-GAAHLAA,20RELAA,20PHAARKAA,20AHAD"),
    (0x1c7e, "20PUNCTUATION MUCAAD,31DOUBLE,00CYRILLIC SMALL LETTER ROUNDED VE"),
    (0x1c81, "30LONG-LEGGED DE,30NARROW O,30WIDE ES,30TALL TE,31THREE-LEGGED"),
    (0x1c86, "30TALL HARD SIGN,40YAT,30UNBLENDED UK"),
    (0x1c90, "00GEORGIAN MTAVRULI CAPITAL LETTER AN,40BAN,40GAN,40DON,40EN,40VIN"),
    (0x1c96, "40ZEN,40TAN,40IN,40KAN,40LAS,40MAN,40NAR,40ON,40PAR,40ZHAR,40RAE,40SAN"),
    (0x1ca2, "40TAR,40UN,40PHAR,40KHAR,40GHAN,40QAR,40SHIN,40CHIN,40CAN,40JIL,40CIL"),
    (0x1cad, "40CHAR,40XAN,40JHAN,40HAE,40HE,40HIE,40WE,40HAR,40HOE,40FI,40YN,40ELIFI"),
    (0x1cb9, "40TURNED GAN,40AIN"),
    (0x1cbd, "40AEN,40HARD SIGN,41LABIAL,00SUNDANESE PUNCTUATION BINDU SURYA"),
    (0x1cc1, "30PANGLONG,30PURNAMA,30CAKRA,30LEU SATANGA,31KA,31DA,31BA"),
    (0x1cd0, "00VEDIC TONE KARSHANA,20SHARA,20PRENKHA,10SIGN NIHSHVASA"),
    (0x1cd4, "20YAJURVEDIC MIDLINE SVARITA,11TONE YAJURVEDIC AGGRAVATED INDEPENDENT"),
    (0x1cd6, "32,32KATHAKA,20CANDRA BELOW"),
    (0x1cd9, "20YAJURVEDIC KATHAKA INDEPENDENT SVARITA SCHROEDER,20DOUBLE SVARITA"),
    (0x1cdb, "21TRIPLE,20KATHAKA ANUDATTA,20DOT BELOW,21TWO DOTS,22THREE"),
    (0x1ce0, "20RIGVEDIC KASHMIRI INDEPENDENT SVARITA,22ATHARVAVEDIC,11SIGN VISARGA"),
    (0x1ce3, "30UDATTA,22REVERSED,20VISARGA ANUDATTA,22REVERSED"),
    (0x1ce7, "20VISARGA UDATTA WITH TAIL,32ANUDATTA,20ANUSVARA ANTARGOMUKHA"),
    (0x1cea, "30BAHIRGOMUKHA,30VAMAGOMUKHA,40WITH TAIL,20TIRYAK"),
    (0x1cee, "20HEXIFORM LONG ANUSVARA,22,22RTHANG,20ANUSVARA UBHAYATO MUKHA"),
    (0x1cf2, "20ARDHAVISARGA,21ROTATED,10TONE CANDRA ABOVE,10SIGN JIHVAMULIYA"),
    (0x1cf6, "20UPADHMANIYA,20ATIKRAMA,10TONE RING ABOVE,22DOUBLE"),
    (0x1cfa, "10SIGN DOUBLE ANUSVARA ANTARGOMUKHA")]

/-- The packed names of phonetic letters. -/
def phoneticNames : List (Nat × String) :=
  [
    (0x1d00, "00LATIN LETTER SMALL CAPITAL A,40AE,11SMALL LETTER TURNED"),
    (0x1d03, "10LETTER SMALL CAPITAL BARRED B,40C,40D,40ETH,40E"),
    (0x1d08, "11SMALL LETTER TURNED OPEN,40I,10LETTER SMALL CAPITAL J,40K"),
    (0x1d0c, "40L WITH STROKE,40M,40REVERSED N,40O,41OPEN,11SMALL LETTER SIDEWAYS"),
    (0x1d12, "41OPEN,40O WITH STROKE,30TURNED OE,10LETTER SMALL CAPITAL OU"),
    (0x1d16, "10SMALL LETTER TOP HALF O,32BOTTOM,10LETTER SMALL CAPITAL P"),
    (0x1d19, "40REVERSED R,41TURNED,40T,40U,11SMALL LETTER SIDEWAYS,41DIAERESIZED"),
    (0x1d1f, "40TURNED M,10LETTER SMALL CAPITAL V,40W,40Z,40EZH"),
    (0x1d24, "20VOICED LARYNGEAL SPIRANT,20AIN,00GREEK LETTER SMALL CAPITAL GAMMA"),
    (0x1d27, "40LAMDA,40PI,40RHO,40PSI,00CYRILLIC LETTER SMALL CAPITAL EL"),
    (0x1d2c, "00MODIFIER LETTER CAPITAL A,30AE,30B,31BARRED,30D,30E,31REVERSED,30G"),
    (0x1d34, "30H,30I,30J,30K,30L,30M,30N,31REVERSED,30O,30OU,30P,30R,30T,30U,30W"),
    (0x1d43, "20SMALL A,31TURNED,30ALPHA,30TURNED AE,30B,30D,30E,30SCHWA,30OPEN E"),
    (0x1d4c, "32TURNED,30G,30TURNED I,30K,30M,30ENG,30O,31OPEN,31TOP HALF,32BOTTOM"),
    (0x1d56, "30P,30T,30U,31SIDEWAYS,30TURNED M,30V,30AIN,30BETA,30GREEK GAMMA"),
    (0x1d5f, "30DELTA,30GREEK PHI,30CHI,00LATIN SUBSCRIPT SMALL LETTER I,40R,40U,40V"),
    (0x1d66, "00GREEK SUBSCRIPT SMALL LETTER BETA,40GAMMA,40RHO,40PHI,40CHI"),
    (0x1d6b, "00LATIN SMALL LETTER UE,30B WITH MIDDLE TILDE,33D,33F,33M,33N,33P,33R"),
    (0x1d73, "52FISHHOOK AND,32S WITH,33T,33Z,30TURNED G"),
    (0x1d78, "00MODIFIER LETTER CYRILLIC EN,00LATIN SMALL LETTER INSULAR G"),
    (0x1d7a, "30TH WITH STRIKETHROUGH,20CAPITAL LETTER I WITH STROKE,22LETTER IOTA"),
    (0x1d7d, "32P,22CAPITAL LETTER U,22LETTER UPSILON,30B WITH PALATAL HOOK,33D,33F"),
    (0x1d83, "33G,33K,33L,33M,33N,33P,33R,33S,33ESH,33V,33X,33Z,31A WITH RETROFLEX"),
    (0x1d90, "33ALPHA,30D WITH HOOK AND TAIL,30E WITH RETROFLEX HOOK,34OPEN"),
    (0x1d94, "35REVERSED,33SCHWA,33I,33OPEN O,33ESH,33U,33EZH"),
    (0x1d9b, "00MODIFIER LETTER SMALL TURNED ALPHA,30C,40WITH CURL,30ETH"),
    (0x1d9f, "30REVERSED OPEN E,30F,30DOTLESS J WITH STROKE,30SCRIPT G,30TURNED H"),
    (0x1da4, "30I WITH STROKE,30IOTA,30CAPITAL I,50WITH STROKE,30J WITH CROSSED-TAIL"),
    (0x1da9, "30L WITH RETROFLEX HOOK,51PALATAL,30CAPITAL L,30M WITH HOOK"),
    (0x1dad, "30TURNED M WITH LONG LEG,30N WITH LEFT HOOK,51RETROFLEX,30CAPITAL N"),
    (0x1db1, "30BARRED O,30PHI,30S WITH HOOK,30ESH,30T WITH PALATAL HOOK,30U BAR"),
    (0x1db7, "30UPSILON,30CAPITAL U,30V WITH HOOK,30TURNED V,30Z"),
    (0x1dbc, "40WITH RETROFLEX HOOK,50CURL,30EZH,30THETA"),
    (0x1dc0, "00COMBINING DOTTED GRAVE ACCENT,21ACUTE,10SNAKE BELOW,10SUSPENSION MARK"),
    (0x1dc4, "10MACRON-ACUTE,10GRAVE-MACRON,10MACRON-GRAVE,10ACUTE-MACRON"),
    (0x1dc8, "10GRAVE-ACUTE-GRAVE,10ACUTE-GRAVE-ACUTE,10LATIN SMALL LETTER R BELOW"),
    (0x1dcb, "10BREVE-MACRON,10MACRON-BREVE,10DOUBLE CIRCUMFLEX ABOVE,11OGONEK"),
    (0x1dcf, "10ZIGZAG BELOW,11IS,10UR ABOVE,11US"),
    (0x1dd3, "11LATIN SMALL LETTER FLATTENED OPEN A,40AE,40AO,40AV,40C CEDILLA"),
    (0x1dd8, "40INSULAR D,40ETH,40G,21LETTER SMALL CAPITAL,20SMALL LETTER K,40L"),
    (0x1dde, "21LETTER SMALL CAPITAL,50M,20SMALL LETTER N,21LETTER SMALL CAPITAL,50R"),
    (0x1de3, "20SMALL LETTER R ROTUNDA,40S,41LONG,40Z,40ALPHA,40B,40BETA,40SCHWA,40F"),
    (0x1dec, "40L WITH DOUBLE MIDDLE TILDE,40O WITH LIGHT CENTRALIZATION STROKE,40P"),
    (0x1def, "40ESH,40U WITH LIGHT CENTRALIZATION STROKE,40W,40A WITH DIAERESIS,42O"),
    (0x1df4, "42U,10UP TACK ABOVE,10KAVYKA ABOVE RIGHT,30LEFT,12DOT"),
    (0x1df9, "10WIDE INVERTED BRIDGE BELOW,10DOT BELOW LEFT,10DELETION MARK"),
    (0x1dfc, "10DOUBLE INVERTED BREVE BELOW,11ALMOST EQUAL TO,10LEFT ARROWHEAD ABOVE"),
    (0x1dff, "10RIGHT ARROWHEAD AND DOWN ARROWHEAD BELOW")]

/-- The packed names of Glagolitic, Coptic, Tifinagh and of further punctuation. -/
def supplementaryNames : List (Nat × String) :=
  [
    (0x2c00, "00GLAGOLITIC CAPITAL LETTER AZU,30BUKY,30VEDE,30GLAGOLI,30DOBRO,30YESTU"),
    (0x2c06, "30ZHIVETE,30DZELO,30ZEMLJA,30IZHE,31INITIAL,30I,30DJERVI,30KAKO"),
    (0x2c0e, "30LJUDIJE,30MYSLITE,30NASHI,30ONU,30POKOJI,30RITSI,30SLOVO,30TVRIDO"),
    (0x2c16, "30UKU,30FRITU,30HERU,30OTU,30PE,30SHTA,30TSI,30CHRIVI,30SHA,30YERU"),
    (0x2c20, "30YERI,30YATI,30SPIDERY HA,30YU,30SMALL YUS,50WITH TAIL,30YO"),
    (0x2c27, "30IOTATED SMALL YUS,31BIG,32IOTATED,30FITA,30IZHITSA,30SHTAPIC"),
    (0x2c2d, "30TROKUTASTI A,30LATINATE MYSLITE,30CAUDATE CHRIVI,10SMALL LETTER AZU"),
    (0x2c31, "30BUKY,30VEDE,30GLAGOLI,30DOBRO,30YESTU,30ZHIVETE,30DZELO,30ZEMLJA"),
    (0x2c39, "30IZHE,31INITIAL,30I,30DJERVI,30KAKO,30LJUDIJE,30MYSLITE,30NASHI,30ONU"),
    (0x2c42, "30POKOJI,30RITSI,30SLOVO,30TVRIDO,30UKU,30FRITU,30HERU,30OTU,30PE"),
    (0x2c4b, "30SHTA,30TSI,30CHRIVI,30SHA,30YERU,30YERI,30YATI,30SPIDERY HA,30YU"),
    (0x2c54, "30SMALL YUS,50WITH TAIL,30YO,30IOTATED SMALL YUS,31BIG,32IOTATED,30FITA"),
    (0x2c5b, "30IZHITSA,30SHTAPIC,30TROKUTASTI A,30LATINATE MYSLITE,30CAUDATE CHRIVI"),
    (0x2c60, "00LATIN CAPITAL LETTER L WITH DOUBLE BAR,15SMALL"),
    (0x2c62, "10CAPITAL LETTER L WITH MIDDLE TILDE,30P WITH STROKE,30R WITH TAIL"),
    (0x2c65, "10SMALL LETTER A WITH STROKE,31T WITH DIAGONAL"),
    (0x2c67, "10CAPITAL LETTER H WITH DESCENDER,14SMALL,12CAPITAL LETTER K,14SMALL"),
    (0x2c6b, "12CAPITAL LETTER Z,14SMALL,10CAPITAL LETTER ALPHA,30M WITH HOOK"),
    (0x2c6f, "30TURNED A,40ALPHA,10SMALL LETTER V WITH RIGHT HOOK"),
    (0x2c72, "11CAPITAL LETTER W WITH,14SMALL,30V WITH CURL,10CAPITAL LETTER HALF H"),
    (0x2c76, "13SMALL,30TAILLESS PHI,30E WITH NOTCH,30TURNED R WITH TAIL"),
    (0x2c7a, "30O WITH LOW RING INSIDE,10LETTER SMALL CAPITAL TURNED E"),
    (0x2c7c, "10SUBSCRIPT SMALL LETTER J,00MODIFIER LETTER CAPITAL V"),
    (0x2c7e, "00LATIN CAPITAL LETTER S WITH SWASH TAIL,33Z"),
    (0x2c80, "00COPTIC CAPITAL LETTER ALFA,12SMALL,10CAPITAL LETTER VIDA,12SMALL"),
    (0x2c84, "10CAPITAL LETTER GAMMA,12SMALL,10CAPITAL LETTER DALDA,12SMALL"),
    (0x2c88, "10CAPITAL LETTER EIE,12SMALL,10CAPITAL LETTER SOU,12SMALL"),
    (0x2c8c, "10CAPITAL LETTER ZATA,12SMALL,10CAPITAL LETTER HATE,12SMALL"),
    (0x2c90, "10CAPITAL LETTER THETHE,12SMALL,10CAPITAL LETTER IAUDA,12SMALL"),
    (0x2c94, "10CAPITAL LETTER KAPA,12SMALL,10CAPITAL LETTER LAULA,12SMALL"),
    (0x2c98, "10CAPITAL LETTER MI,12SMALL,10CAPITAL LETTER NI,12SMALL"),
    (0x2c9c, "10CAPITAL LETTER KSI,12SMALL,10CAPITAL LETTER O,12SMALL"),
    (0x2ca0, "10CAPITAL LETTER PI,12SMALL,10CAPITAL LETTER RO,12SMALL"),
    (0x2ca4, "10CAPITAL LETTER SIMA,12SMALL,10CAPITAL LETTER TAU,12SMALL"),
    (0x2ca8, "10CAPITAL LETTER UA,12SMALL,10CAPITAL LETTER FI,12SMALL"),
    (0x2cac, "10CAPITAL LETTER KHI,12SMALL,10CAPITAL LETTER PSI,12SMALL"),
    (0x2cb0, "10CAPITAL LETTER OOU,12SMALL,10CAPITAL LETTER DIALECT-P ALEF,13SMALL"),
    (0x2cb4, "10CAPITAL LETTER OLD COPTIC AIN,14SMALL"),
    (0x2cb6, "10CAPITAL LETTER CRYPTOGRAMMIC EIE,13SMALL"),
    (0x2cb8, "10CAPITAL LETTER DIALECT-P KAPA,13SMALL,10CAPITAL LETTER DIALECT-P NI"),
    (0x2cbb, "13SMALL,11CAPITAL LETTER CRYPTOGRAMMIC,13SMALL"),
    (0x2cbe, "10CAPITAL LETTER OLD COPTIC OOU,14SMALL,10CAPITAL LETTER SAMPI,12SMALL"),
    (0x2cc2, "10CAPITAL LETTER CROSSED SHEI,13SMALL,11CAPITAL LETTER OLD COPTIC"),
    (0x2cc5, "14SMALL,10CAPITAL LETTER OLD COPTIC ESH,14SMALL"),
    (0x2cc8, "10CAPITAL LETTER AKHMIMIC KHEI,13SMALL,10CAPITAL LETTER DIALECT-P HORI"),
    (0x2ccb, "13SMALL,11CAPITAL LETTER OLD COPTIC,14SMALL"),
    (0x2cce, "10CAPITAL LETTER OLD COPTIC HA,14SMALL,11CAPITAL LETTER L-SHAPED"),
    (0x2cd1, "13SMALL,10CAPITAL LETTER OLD COPTIC HEI,14SMALL"),
    (0x2cd4, "10CAPITAL LETTER OLD COPTIC HAT,14SMALL"),
    (0x2cd6, "10CAPITAL LETTER OLD COPTIC GANGIA,14SMALL"),
    (0x2cd8, "10CAPITAL LETTER OLD COPTIC DJA,14SMALL"),
    (0x2cda, "10CAPITAL LETTER OLD COPTIC SHIMA,14SMALL,11CAPITAL LETTER OLD NUBIAN"),
    (0x2cdd, "14SMALL,10CAPITAL LETTER OLD NUBIAN NGI,14SMALL"),
    (0x2ce0, "10CAPITAL LETTER OLD NUBIAN NYI,14SMALL,10CAPITAL LETTER OLD NUBIAN WAU"),
    (0x2ce3, "14SMALL,10SYMBOL KAI,20MI RO,21PI,20STAUROS,20TAU RO,21KHI,20SHIMA SIMA"),
    (0x2ceb, "10CAPITAL LETTER CRYPTOGRAMMIC SHEI,13SMALL"),
    (0x2ced, "10CAPITAL LETTER CRYPTOGRAMMIC GANGIA,13SMALL,10COMBINING NI ABOVE"),
    (0x2cf0, "20SPIRITUS ASPER,30LENIS,10CAPITAL LETTER BOHAIRIC KHEI,13SMALL"),
    (0x2cf9, "10OLD NUBIAN FULL STOP,30DIRECT QUESTION MARK,32INDIRECT"),
    (0x2cfc, "30VERSE DIVIDER,10FRACTION ONE HALF,10FULL STOP,10MORPHOLOGICAL DIVIDER"),
    (0x2d00, "00GEORGIAN SMALL LETTER AN,30BAN,30GAN,30DON,30EN,30VIN,30ZEN,30TAN"),
    (0x2d08, "30IN,30KAN,30LAS,30MAN,30NAR,30ON,30PAR,30ZHAR,30RAE,30SAN,30TAR,30UN"),
    (0x2d14, "30PHAR,30KHAR,30GHAN,30QAR,30SHIN,30CHIN,30CAN,30JIL,30CIL,30CHAR,30XAN"),
    (0x2d1f, "30JHAN,30HAE,30HE,30HIE,30WE,30HAR,30HOE"),
    (0x2d27, "30YN"),
    (0x2d2d, "30AEN"),
    (0x2d30, "00TIFINAGH LETTER YA,20YAB,20YABH,20YAG,20YAGHH,20BERBER ACADEMY YAJ,21"),
    (0x2d37, "20YAD,20YADH,20YADD,20YADDH,20YEY,20YAF,20YAK,21TUAREG,20YAKHH,20YAH"),
    (0x2d41, "21BERBER ACADEMY,21TUAREG,20YAHH,20YAA,20YAKH,21TUAREG,20YAQ,21TUAREG"),
    (0x2d49, "20YI,20YAZH,21AHAGGAR,21TUAREG,20YAL,20YAM,20YAN,20TUAREG YAGN,30YANG"),
    (0x2d52, "20YAP,20YU,20YAR,20YARR,20YAGH,21TUAREG,21AYER,20YAS,20YASS,20YASH"),
    (0x2d5c, "20YAT,20YATH,20YACH,20YATT,20YAV,20YAW,20YAY,20YAZ,21TAWELLEMET,20YAZZ"),
    (0x2d66, "20YE,20YO"),
    (0x2d6f, "10MODIFIER LETTER LABIALIZATION MARK,11SEPARATOR"),
    (0x2d7f, "10CONSONANT JOINER,00ETHIOPIC SYLLABLE LOA,20MOA,20ROA,20SOA,20SHOA"),
    (0x2d85, "20BOA,20TOA,20COA,20NOA,20NYOA,20GLOTTAL OA,20ZOA,20DOA,20DDOA,20JOA"),
    (0x2d8f, "20THOA,20CHOA,20PHOA,20POA,20GGWA,20GGWI,20GGWEE,20GGWE"),
    (0x2da0, "20SSA,20SSU,20SSI,20SSAA,20SSEE,20SSE,20SSO"),
    (0x2da8, "20CCA,20CCU,20CCI,20CCAA,20CCEE,20CCE,20CCO"),
    (0x2db0, "20ZZA,20ZZU,20ZZI,20ZZAA,20ZZEE,20ZZE,20ZZO"),
    (0x2db8, "20CCHA,20CCHU,20CCHI,20CCHAA,20CCHEE,20CCHE,20CCHO"),
    (0x2dc0, "20QYA,20QYU,20QYI,20QYAA,20QYEE,20QYE,20QYO"),
    (0x2dc8, "20KYA,20KYU,20KYI,20KYAA,20KYEE,20KYE,20KYO"),
    (0x2dd0, "20XYA,20XYU,20XYI,20XYAA,20XYEE,20XYE,20XYO"),
    (0x2dd8, "20GYA,20GYU,20GYI,20GYAA,20GYEE,20GYE,20GYO"),
    (0x2de0, "00COMBINING CYRILLIC LETTER BE,30VE,30GHE,30DE,30ZHE,30ZE,30KA,30EL"),
    (0x2de8, "30EM,30EN,30O,30PE,30ER,30ES,30TE,30HA,30TSE,30CHE,30SHA,30SHCHA,30FITA"),
    (0x2df5, "30ES-TE,30A,30IE,30DJERV,30MONOGRAPH UK,30YAT,30YU,30IOTIFIED A"),
    (0x2dfd, "30LITTLE YUS,31BIG,32IOTIFIED,00RIGHT ANGLE SUBSTITUTION MARKER"),
    (0x2e01, "22DOTTED,00LEFT SUBSTITUTION BRACKET,02RIGHT,02LEFT DOTTED,03RIGHT"),
    (0x2e06, "00RAISED INTERPOLATION MARKER,12DOTTED,01DOTTED TRANSPOSITION"),
    (0x2e09, "00LEFT TRANSPOSITION BRACKET,02RIGHT,00RAISED SQUARE"),
    (0x2e0c, "00LEFT RAISED OMISSION BRACKET,03RIGHT,00EDITORIAL CORONIS"),
    (0x2e0f, "00PARAGRAPHOS,01FORKED,02REVERSED,00HYPODIASTOLE,00DOTTED OBELOS"),
    (0x2e14, "00DOWNWARDS ANCORA,01UPWARDS,00DOTTED RIGHT-POINTING ANGLE"),
    (0x2e17, "00DOUBLE OBLIQUE HYPHEN,00INVERTED INTERROBANG,00PALM BRANCH"),
    (0x2e1a, "00HYPHEN WITH DIAERESIS,00TILDE WITH RING ABOVE"),
    (0x2e1c, "00LEFT LOW PARAPHRASE BRACKET,03RIGHT,00TILDE WITH DOT ABOVE,30BELOW"),
    (0x2e20, "00LEFT VERTICAL BAR WITH QUILL,04RIGHT,00TOP LEFT HALF BRACKET,12RIGHT"),
    (0x2e24, "02BOTTOM LEFT,12RIGHT,01LEFT SIDEWAYS U,03RIGHT"),
    (0x2e28, "00LEFT DOUBLE PARENTHESIS,02RIGHT,00TWO DOTS OVER ONE DOT PUNCTUATION"),
    (0x2e2b, "01ONE DOT OVER TWO DOTS,01SQUARED FOUR DOT,00FIVE DOT MARK"),
    (0x2e2e, "01REVERSED QUESTION,00VERTICAL TILDE,00RING POINT"),
    (0x2e31, "00WORD SEPARATOR MIDDLE DOT,00TURNED COMMA,00RAISED DOT,10COMMA"),
    (0x2e35, "00TURNED SEMICOLON,00DAGGER WITH LEFT GUARD,21RIGHT,00TURNED DAGGER"),
    (0x2e39, "00TOP HALF SECTION SIGN,00TWO-EM DASH,01THREE-EM"),
    (0x2e3c, "00STENOGRAPHIC FULL STOP,00VERTICAL SIX DOTS,00WIGGLY VERTICAL LINE"),
    (0x2e3f, "00CAPITULUM,00DOUBLE HYPHEN,00REVERSED COMMA"),
    (0x2e42, "00DOUBLE LOW-REVERSED-9 QUOTATION MARK,00DASH WITH LEFT UPTURN"),
    (0x2e44, "00DOUBLE SUSPENSION MARK,00INVERTED LOW KAVYKA,30WITH KAVYKA ABOVE"),
    (0x2e47, "00LOW KAVYKA,20WITH DOT,00DOUBLE STACKED COMMA,00DOTTED SOLIDUS"),
    (0x2e4b, "00TRIPLE DAGGER,00MEDIEVAL COMMA,00PARAGRAPHUS MARK,01PUNCTUS ELEVATUS"),
    (0x2e4f, "00CORNISH VERSE DIVIDER,00CROSS PATTY WITH RIGHT CROSSBAR,31LEFT"),
    (0x2e52, "00TIRONIAN SIGN CAPITAL ET,00MEDIEVAL EXCLAMATION MARK,11QUESTION"),
    (0x2e55, "00LEFT SQUARE BRACKET WITH STROKE,04RIGHT"),
    (0x2e57, "01LEFT SQUARE BRACKET WITH DOUBLE,05RIGHT,00TOP HALF LEFT PARENTHESIS"),
    (0x2e5a, "21RIGHT,01BOTTOM HALF LEFT,21RIGHT,00OBLIQUE HYPHEN")]

/-- The packed names of Yi syllables. -/
def yiNames : List (Nat × String) :=
  [
    (0xa000, "00YI SYLLABLE IT,20IX,20I,20IP,20IET,20IEX,20IE,20IEP,20AT,20AX,20A"),
    (0xa00b, "20AP,20UOX,20UO,20UOP,20OT,20OX,20O,20OP,20EX,20E,20WU,20BIT,20BIX,20BI"),
    (0xa019, "20BIP,20BIET,20BIEX,20BIE,20BIEP,20BAT,20BAX,20BA,20BAP,20BUOX,20BUO"),
    (0xa024, "20BUOP,20BOT,20BOX,20BO,20BOP,20BEX,20BE,20BEP,20BUT,20BUX,20BU,20BUP"),
    (0xa030, "20BURX,20BUR,20BYT,20BYX,20BY,20BYP,20BYRX,20BYR,20PIT,20PIX,20PI,20PIP"),
    (0xa03c, "20PIEX,20PIE,20PIEP,20PAT,20PAX,20PA,20PAP,20PUOX,20PUO,20PUOP,20POT"),
    (0xa047, "20POX,20PO,20POP,20PUT,20PUX,20PU,20PUP,20PURX,20PUR,20PYT,20PYX,20PY"),
    (0xa053, "20PYP,20PYRX,20PYR,20BBIT,20BBIX,20BBI,20BBIP,20BBIET,20BBIEX,20BBIE"),
    (0xa05d, "20BBIEP,20BBAT,20BBAX,20BBA,20BBAP,20BBUOX,20BBUO,20BBUOP,20BBOT,20BBOX"),
    (0xa067, "20BBO,20BBOP,20BBEX,20BBE,20BBEP,20BBUT,20BBUX,20BBU,20BBUP,20BBURX"),
    (0xa071, "20BBUR,20BBYT,20BBYX,20BBY,20BBYP,20NBIT,20NBIX,20NBI,20NBIP,20NBIEX"),
    (0xa07b, "20NBIE,20NBIEP,20NBAT,20NBAX,20NBA,20NBAP,20NBOT,20NBOX,20NBO,20NBOP"),
    (0xa085, "20NBUT,20NBUX,20NBU,20NBUP,20NBURX,20NBUR,20NBYT,20NBYX,20NBY,20NBYP"),
    (0xa08f, "20NBYRX,20NBYR,20HMIT,20HMIX,20HMI,20HMIP,20HMIEX,20HMIE,20HMIEP,20HMAT"),
    (0xa099, "20HMAX,20HMA,20HMAP,20HMUOX,20HMUO,20HMUOP,20HMOT,20HMOX,20HMO,20HMOP"),
    (0xa0a3, "20HMUT,20HMUX,20HMU,20HMUP,20HMURX,20HMUR,20HMYX,20HMY,20HMYP,20HMYRX"),
    (0xa0ad, "20HMYR,20MIT,20MIX,20MI,20MIP,20MIEX,20MIE,20MIEP,20MAT,20MAX,20MA"),
    (0xa0b8, "20MAP,20MUOT,20MUOX,20MUO,20MUOP,20MOT,20MOX,20MO,20MOP,20MEX,20ME"),
    (0xa0c3, "20MUT,20MUX,20MU,20MUP,20MURX,20MUR,20MYT,20MYX,20MY,20MYP,20FIT,20FIX"),
    (0xa0cf, "20FI,20FIP,20FAT,20FAX,20FA,20FAP,20FOX,20FO,20FOP,20FUT,20FUX,20FU"),
    (0xa0db, "20FUP,20FURX,20FUR,20FYT,20FYX,20FY,20FYP,20VIT,20VIX,20VI,20VIP,20VIET"),
    (0xa0e7, "20VIEX,20VIE,20VIEP,20VAT,20VAX,20VA,20VAP,20VOT,20VOX,20VO,20VOP,20VEX"),
    (0xa0f3, "20VEP,20VUT,20VUX,20VU,20VUP,20VURX,20VUR,20VYT,20VYX,20VY,20VYP,20VYRX"),
    (0xa0ff, "20VYR,20DIT,20DIX,20DI,20DIP,20DIEX,20DIE,20DIEP,20DAT,20DAX,20DA,20DAP"),
    (0xa10b, "20DUOX,20DUO,20DOT,20DOX,20DO,20DOP,20DEX,20DE,20DEP,20DUT,20DUX,20DU"),
    (0xa117, "20DUP,20DURX,20DUR,20TIT,20TIX,20TI,20TIP,20TIEX,20TIE,20TIEP,20TAT"),
    (0xa122, "20TAX,20TA,20TAP,20TUOT,20TUOX,20TUO,20TUOP,20TOT,20TOX,20TO,20TOP"),
    (0xa12d, "20TEX,20TE,20TEP,20TUT,20TUX,20TU,20TUP,20TURX,20TUR,20DDIT,20DDIX"),
    (0xa138, "20DDI,20DDIP,20DDIEX,20DDIE,20DDIEP,20DDAT,20DDAX,20DDA,20DDAP,20DDUOX"),
    (0xa142, "20DDUO,20DDUOP,20DDOT,20DDOX,20DDO,20DDOP,20DDEX,20DDE,20DDEP,20DDUT"),
    (0xa14c, "20DDUX,20DDU,20DDUP,20DDURX,20DDUR,20NDIT,20NDIX,20NDI,20NDIP,20NDIEX"),
    (0xa156, "20NDIE,20NDAT,20NDAX,20NDA,20NDAP,20NDOT,20NDOX,20NDO,20NDOP,20NDEX"),
    (0xa160, "20NDE,20NDEP,20NDUT,20NDUX,20NDU,20NDUP,20NDURX,20NDUR,20HNIT,20HNIX"),
    (0xa16a, "20HNI,20HNIP,20HNIET,20HNIEX,20HNIE,20HNIEP,20HNAT,20HNAX,20HNA,20HNAP"),
    (0xa174, "20HNUOX,20HNUO,20HNOT,20HNOX,20HNOP,20HNEX,20HNE,20HNEP,20HNUT,20NIT"),
    (0xa17e, "20NIX,20NI,20NIP,20NIEX,20NIE,20NIEP,20NAX,20NA,20NAP,20NUOX,20NUO"),
    (0xa189, "20NUOP,20NOT,20NOX,20NO,20NOP,20NEX,20NE,20NEP,20NUT,20NUX,20NU,20NUP"),
    (0xa195, "20NURX,20NUR,20HLIT,20HLIX,20HLI,20HLIP,20HLIEX,20HLIE,20HLIEP,20HLAT"),
    (0xa19f, "20HLAX,20HLA,20HLAP,20HLUOX,20HLUO,20HLUOP,20HLOX,20HLO,20HLOP,20HLEX"),
    (0xa1a9, "20HLE,20HLEP,20HLUT,20HLUX,20HLU,20HLUP,20HLURX,20HLUR,20HLYT,20HLYX"),
    (0xa1b3, "20HLY,20HLYP,20HLYRX,20HLYR,20LIT,20LIX,20LI,20LIP,20LIET,20LIEX,20LIE"),
    (0xa1be, "20LIEP,20LAT,20LAX,20LA,20LAP,20LUOT,20LUOX,20LUO,20LUOP,20LOT,20LOX"),
    (0xa1c9, "20LO,20LOP,20LEX,20LE,20LEP,20LUT,20LUX,20LU,20LUP,20LURX,20LUR,20LYT"),
    (0xa1d5, "20LYX,20LY,20LYP,20LYRX,20LYR,20GIT,20GIX,20GI,20GIP,20GIET,20GIEX"),
    (0xa1e0, "20GIE,20GIEP,20GAT,20GAX,20GA,20GAP,20GUOT,20GUOX,20GUO,20GUOP,20GOT"),
    (0xa1eb, "20GOX,20GO,20GOP,20GET,20GEX,20GE,20GEP,20GUT,20GUX,20GU,20GUP,20GURX"),
    (0xa1f7, "20GUR,20KIT,20KIX,20KI,20KIP,20KIEX,20KIE,20KIEP,20KAT,20KAX,20KA,20KAP"),
    (0xa203, "20KUOX,20KUO,20KUOP,20KOT,20KOX,20KO,20KOP,20KET,20KEX,20KE,20KEP,20KUT"),
    (0xa20f, "20KUX,20KU,20KUP,20KURX,20KUR,20GGIT,20GGIX,20GGI,20GGIEX,20GGIE"),
    (0xa219, "20GGIEP,20GGAT,20GGAX,20GGA,20GGAP,20GGUOT,20GGUOX,20GGUO,20GGUOP"),
    (0xa222, "20GGOT,20GGOX,20GGO,20GGOP,20GGET,20GGEX,20GGE,20GGEP,20GGUT,20GGUX"),
    (0xa22c, "20GGU,20GGUP,20GGURX,20GGUR,20MGIEX,20MGIE,20MGAT,20MGAX,20MGA,20MGAP"),
    (0xa236, "20MGUOX,20MGUO,20MGUOP,20MGOT,20MGOX,20MGO,20MGOP,20MGEX,20MGE,20MGEP"),
    (0xa240, "20MGUT,20MGUX,20MGU,20MGUP,20MGURX,20MGUR,20HXIT,20HXIX,20HXI,20HXIP"),
    (0xa24a, "20HXIET,20HXIEX,20HXIE,20HXIEP,20HXAT,20HXAX,20HXA,20HXAP,20HXUOT"),
    (0xa253, "20HXUOX,20HXUO,20HXUOP,20HXOT,20HXOX,20HXO,20HXOP,20HXEX,20HXE,20HXEP"),
    (0xa25d, "20NGIEX,20NGIE,20NGIEP,20NGAT,20NGAX,20NGA,20NGAP,20NGUOT,20NGUOX"),
    (0xa266, "20NGUO,20NGOT,20NGOX,20NGO,20NGOP,20NGEX,20NGE,20NGEP,20HIT,20HIEX"),
    (0xa270, "20HIE,20HAT,20HAX,20HA,20HAP,20HUOT,20HUOX,20HUO,20HUOP,20HOT,20HOX"),
    (0xa27b, "20HO,20HOP,20HEX,20HE,20HEP,20WAT,20WAX,20WA,20WAP,20WUOX,20WUO,20WUOP"),
    (0xa287, "20WOX,20WO,20WOP,20WEX,20WE,20WEP,20ZIT,20ZIX,20ZI,20ZIP,20ZIEX,20ZIE"),
    (0xa293, "20ZIEP,20ZAT,20ZAX,20ZA,20ZAP,20ZUOX,20ZUO,20ZUOP,20ZOT,20ZOX,20ZO"),
    (0xa29e, "20ZOP,20ZEX,20ZE,20ZEP,20ZUT,20ZUX,20ZU,20ZUP,20ZURX,20ZUR,20ZYT,20ZYX"),
    (0xa2aa, "20ZY,20ZYP,20ZYRX,20ZYR,20CIT,20CIX,20CI,20CIP,20CIET,20CIEX,20CIE"),
    (0xa2b5, "20CIEP,20CAT,20CAX,20CA,20CAP,20CUOX,20CUO,20CUOP,20COT,20COX,20CO"),
    (0xa2c0, "20COP,20CEX,20CE,20CEP,20CUT,20CUX,20CU,20CUP,20CURX,20CUR,20CYT,20CYX"),
    (0xa2cc, "20CY,20CYP,20CYRX,20CYR,20ZZIT,20ZZIX,20ZZI,20ZZIP,20ZZIET,20ZZIEX"),
    (0xa2d6, "20ZZIE,20ZZIEP,20ZZAT,20ZZAX,20ZZA,20ZZAP,20ZZOX,20ZZO,20ZZOP,20ZZEX"),
    (0xa2e0, "20ZZE,20ZZEP,20ZZUX,20ZZU,20ZZUP,20ZZURX,20ZZUR,20ZZYT,20ZZYX,20ZZY"),
    (0xa2ea, "20ZZYP,20ZZYRX,20ZZYR,20NZIT,20NZIX,20NZI,20NZIP,20NZIEX,20NZIE,20NZIEP"),
    (0xa2f4, "20NZAT,20NZAX,20NZA,20NZAP,20NZUOX,20NZUO,20NZOX,20NZOP,20NZEX,20NZE"),
    (0xa2fe, "20NZUX,20NZU,20NZUP,20NZURX,20NZUR,20NZYT,20NZYX,20NZY,20NZYP,20NZYRX"),
    (0xa308, "20NZYR,20SIT,20SIX,20SI,20SIP,20SIEX,20SIE,20SIEP,20SAT,20SAX,20SA"),
    (0xa313, "20SAP,20SUOX,20SUO,20SUOP,20SOT,20SOX,20SO,20SOP,20SEX,20SE,20SEP,20SUT"),
    (0xa31f, "20SUX,20SU,20SUP,20SURX,20SUR,20SYT,20SYX,20SY,20SYP,20SYRX,20SYR"),
    (0xa32a, "20SSIT,20SSIX,20SSI,20SSIP,20SSIEX,20SSIE,20SSIEP,20SSAT,20SSAX,20SSA"),
    (0xa334, "20SSAP,20SSOT,20SSOX,20SSO,20SSOP,20SSEX,20SSE,20SSEP,20SSUT,20SSUX"),
    (0xa33e, "20SSU,20SSUP,20SSYT,20SSYX,20SSY,20SSYP,20SSYRX,20SSYR,20ZHAT,20ZHAX"),
    (0xa348, "20ZHA,20ZHAP,20ZHUOX,20ZHUO,20ZHUOP,20ZHOT,20ZHOX,20ZHO,20ZHOP,20ZHET"),
    (0xa352, "20ZHEX,20ZHE,20ZHEP,20ZHUT,20ZHUX,20ZHU,20ZHUP,20ZHURX,20ZHUR,20ZHYT"),
    (0xa35c, "20ZHYX,20ZHY,20ZHYP,20ZHYRX,20ZHYR,20CHAT,20CHAX,20CHA,20CHAP,20CHUOT"),
    (0xa366, "20CHUOX,20CHUO,20CHUOP,20CHOT,20CHOX,20CHO,20CHOP,20CHET,20CHEX,20CHE"),
    (0xa370, "20CHEP,20CHUX,20CHU,20CHUP,20CHURX,20CHUR,20CHYT,20CHYX,20CHY,20CHYP"),
    (0xa37a, "20CHYRX,20CHYR,20RRAX,20RRA,20RRUOX,20RRUO,20RROT,20RROX,20RRO,20RROP"),
    (0xa384, "20RRET,20RREX,20RRE,20RREP,20RRUT,20RRUX,20RRU,20RRUP,20RRURX,20RRUR"),
    (0xa38e, "20RRYT,20RRYX,20RRY,20RRYP,20RRYRX,20RRYR,20NRAT,20NRAX,20NRA,20NRAP"),
    (0xa398, "20NROX,20NRO,20NROP,20NRET,20NREX,20NRE,20NREP,20NRUT,20NRUX,20NRU"),
    (0xa3a2, "20NRUP,20NRURX,20NRUR,20NRYT,20NRYX,20NRY,20NRYP,20NRYRX,20NRYR,20SHAT"),
    (0xa3ac, "20SHAX,20SHA,20SHAP,20SHUOX,20SHUO,20SHUOP,20SHOT,20SHOX,20SHO,20SHOP"),
    (0xa3b6, "20SHET,20SHEX,20SHE,20SHEP,20SHUT,20SHUX,20SHU,20SHUP,20SHURX,20SHUR"),
    (0xa3c0, "20SHYT,20SHYX,20SHY,20SHYP,20SHYRX,20SHYR,20RAT,20RAX,20RA,20RAP,20RUOX"),
    (0xa3cb, "20RUO,20RUOP,20ROT,20ROX,20RO,20ROP,20REX,20RE,20REP,20RUT,20RUX,20RU"),
    (0xa3d7, "20RUP,20RURX,20RUR,20RYT,20RYX,20RY,20RYP,20RYRX,20RYR,20JIT,20JIX,20JI"),
    (0xa3e3, "20JIP,20JIET,20JIEX,20JIE,20JIEP,20JUOT,20JUOX,20JUO,20JUOP,20JOT,20JOX"),
    (0xa3ee, "20JO,20JOP,20JUT,20JUX,20JU,20JUP,20JURX,20JUR,20JYT,20JYX,20JY,20JYP"),
    (0xa3fa, "20JYRX,20JYR,20QIT,20QIX,20QI,20QIP,20QIET,20QIEX,20QIE,20QIEP,20QUOT"),
    (0xa405, "20QUOX,20QUO,20QUOP,20QOT,20QOX,20QO,20QOP,20QUT,20QUX,20QU,20QUP"),
    (0xa410, "20QURX,20QUR,20QYT,20QYX,20QY,20QYP,20QYRX,20QYR,20JJIT,20JJIX,20JJI"),
    (0xa41b, "20JJIP,20JJIET,20JJIEX,20JJIE,20JJIEP,20JJUOX,20JJUO,20JJUOP,20JJOT"),
    (0xa424, "20JJOX,20JJO,20JJOP,20JJUT,20JJUX,20JJU,20JJUP,20JJURX,20JJUR,20JJYT"),
    (0xa42e, "20JJYX,20JJY,20JJYP,20NJIT,20NJIX,20NJI,20NJIP,20NJIET,20NJIEX,20NJIE"),
    (0xa438, "20NJIEP,20NJUOX,20NJUO,20NJOT,20NJOX,20NJO,20NJOP,20NJUX,20NJU,20NJUP"),
    (0xa442, "20NJURX,20NJUR,20NJYT,20NJYX,20NJY,20NJYP,20NJYRX,20NJYR,20NYIT,20NYIX"),
    (0xa44c, "20NYI,20NYIP,20NYIET,20NYIEX,20NYIE,20NYIEP,20NYUOX,20NYUO,20NYUOP"),
    (0xa455, "20NYOT,20NYOX,20NYO,20NYOP,20NYUT,20NYUX,20NYU,20NYUP,20XIT,20XIX,20XI"),
    (0xa460, "20XIP,20XIET,20XIEX,20XIE,20XIEP,20XUOX,20XUO,20XOT,20XOX,20XO,20XOP"),
    (0xa46b, "20XYT,20XYX,20XY,20XYP,20XYRX,20XYR,20YIT,20YIX,20YI,20YIP,20YIET"),
    (0xa476, "20YIEX,20YIE,20YIEP,20YUOT,20YUOX,20YUO,20YUOP,20YOT,20YOX,20YO,20YOP"),
    (0xa481, "20YUT,20YUX,20YU,20YUP,20YURX,20YUR,20YYT,20YYX,20YY,20YYP,20YYRX,20YYR"),
    (0xa490, "10RADICAL QOT,20LI,20KIT,20NYIP,20CYP,20SSI,20GGOP,20GEP,20MI,20HXIT"),
    (0xa49a, "20LYR,20BBUT,20MOP,20YO,20PUT,20HXUO,20TAT,20GA,20ZUP,20CYT,20DDUR"),
    (0xa4a5, "20BUR,20GGUO,20NYOP,20TU,20OP,20JJUT,20ZOT,20PYT,20HMO,20YIT,20VUR"),
    (0xa4b0, "20SHY,20VEP,20ZA,20JO,20NZUP,20JJY,20GOT,20JJIE,20WO,20DU,20SHUR,20LIE"),
    (0xa4bc, "20CY,20CUOP,20CIP,20HXOP,20SHAT,20ZUR,20SHOP,20CHE,20ZZIET,20NBIE,20KE")]

/-- The packed names of Vai and of the scripts after it. -/
def planeEndNames : List (Nat × String) :=
  [
    (0xa4d0, "00LISU LETTER BA,20PA,20PHA,20DA,20TA,20THA,20GA,20KA,20KHA,20JA,20CA"),
    (0xa4db, "20CHA,20DZA,20TSA,20TSHA,20MA,20NA,20LA,20SA,20ZHA,20ZA,20NGA,20HA,20XA"),
    (0xa4e8, "20HHA,20FA,20WA,20SHA,20YA,20GHA,20A,20AE,20E,20EU,20I,20O,20U,20UE"),
    (0xa4f6, "20UH,20OE,20TONE MYA TI,30NA PO,30MYA CYA,40BO,40NA,40JEU"),
    (0xa4fe, "10PUNCTUATION COMMA,20FULL STOP,00VAI SYLLABLE EE,20EEN,20HEE,20WEE"),
    (0xa504, "20WEEN,20PEE,20BHEE,20BEE,20MBEE,20KPEE,20MGBEE,20GBEE,20FEE,20VEE"),
    (0xa50e, "20TEE,20THEE,20DHEE,20DHHEE,20LEE,20REE,20DEE,20NDEE,20SEE,20SHEE,20ZEE"),
    (0xa519, "20ZHEE,20CEE,20JEE,20NJEE,20YEE,20KEE,20NGGEE,20GEE,20MEE,20NEE,20NYEE"),
    (0xa524, "20I,20IN,20HI,20HIN,20WI,20WIN,20PI,20BHI,20BI,20MBI,20KPI,20MGBI,20GBI"),
    (0xa531, "20FI,20VI,20TI,20THI,20DHI,20DHHI,20LI,20RI,20DI,20NDI,20SI,20SHI,20ZI"),
    (0xa53e, "20ZHI,20CI,20JI,20NJI,20YI,20KI,20NGGI,20GI,20MI,20NI,20NYI,20A,20AN"),
    (0xa54b, "20NGAN,20HA,20HAN,20WA,20WAN,20PA,20BHA,20BA,20MBA,20KPA,20KPAN,20MGBA"),
    (0xa557, "20GBA,20FA,20VA,20TA,20THA,20DHA,20DHHA,20LA,20RA,20DA,20NDA,20SA,20SHA"),
    (0xa564, "20ZA,20ZHA,20CA,20JA,20NJA,20YA,20KA,20KAN,20NGGA,20GA,20MA,20NA,20NYA"),
    (0xa571, "20OO,20OON,20HOO,20WOO,20WOON,20POO,20BHOO,20BOO,20MBOO,20KPOO,20MGBOO"),
    (0xa57c, "20GBOO,20FOO,20VOO,20TOO,20THOO,20DHOO,20DHHOO,20LOO,20ROO,20DOO,20NDOO"),
    (0xa587, "20SOO,20SHOO,20ZOO,20ZHOO,20COO,20JOO,20NJOO,20YOO,20KOO,20NGGOO,20GOO"),
    (0xa592, "20MOO,20NOO,20NYOO,20U,20UN,20HU,20HUN,20WU,20WUN,20PU,20BHU,20BU,20MBU"),
    (0xa59f, "20KPU,20MGBU,20GBU,20FU,20VU,20TU,20THU,20DHU,20DHHU,20LU,20RU,20DU"),
    (0xa5ab, "20NDU,20SU,20SHU,20ZU,20ZHU,20CU,20JU,20NJU,20YU,20KU,20NGGU,20GU,20MU"),
    (0xa5b8, "20NU,20NYU,20O,20ON,20NGON,20HO,20HON,20WO,20WON,20PO,20BHO,20BO,20MBO"),
    (0xa5c5, "20KPO,20MGBO,20GBO,20GBON,20FO,20VO,20TO,20THO,20DHO,20DHHO,20LO,20RO"),
    (0xa5d1, "20DO,20NDO,20SO,20SHO,20ZO,20ZHO,20CO,20JO,20NJO,20YO,20KO,20NGGO,20GO"),
    (0xa5de, "20MO,20NO,20NYO,20E,20EN,20NGEN,20HE,20HEN,20WE,20WEN,20PE,20BHE,20BE"),
    (0xa5eb, "20MBE,20KPE,20KPEN,20MGBE,20GBE,20GBEN,20FE,20VE,20TE,20THE,20DHE"),
    (0xa5f6, "20DHHE,20LE,20RE,20DE,20NDE,20SE,20SHE,20ZE,20ZHE,20CE,20JE,20NJE,20YE"),
    (0xa603, "20KE,20NGGE,20NGGEN,20GE,20GEN,20ME,20NE,20NYE,20NG,20LENGTHENER"),
    (0xa60d, "10COMMA,10FULL STOP,10QUESTION MARK,10SYLLABLE NDOLE FA,30KA,30SOO"),
    (0xa613, "10SYMBOL FEENG,20KEENG,20TING,20NII,20BANG,20FAA,20TAA,20DANG,20DOONG"),
    (0xa61c, "20KUNG,20TONG,20DO-O,20JONG,10DIGIT ZERO,20ONE,20TWO,20THREE,20FOUR"),
    (0xa625, "20FIVE,20SIX,20SEVEN,20EIGHT,20NINE,10SYLLABLE NDOLE MA,30DO"),
    (0xa640, "00CYRILLIC CAPITAL LETTER ZEMLYA,12SMALL,10CAPITAL LETTER DZELO,12SMALL"),
    (0xa644, "10CAPITAL LETTER REVERSED DZE,13SMALL,10CAPITAL LETTER IOTA,12SMALL"),
    (0xa648, "10CAPITAL LETTER DJERV,12SMALL,10CAPITAL LETTER MONOGRAPH UK,13SMALL"),
    (0xa64c, "10CAPITAL LETTER BROAD OMEGA,13SMALL,10CAPITAL LETTER NEUTRAL YER"),
    (0xa64f, "13SMALL,11CAPITAL LETTER YERU WITH BACK,15SMALL"),
    (0xa652, "10CAPITAL LETTER IOTIFIED YAT,13SMALL,10CAPITAL LETTER REVERSED YU"),
    (0xa655, "13SMALL,10CAPITAL LETTER IOTIFIED A,13SMALL"),
    (0xa658, "10CAPITAL LETTER CLOSED LITTLE YUS,14SMALL,11CAPITAL LETTER BLENDED"),
    (0xa65b, "13SMALL,11CAPITAL LETTER IOTIFIED CLOSED LITTLE,15SMALL"),
    (0xa65e, "10CAPITAL LETTER YN,12SMALL,10CAPITAL LETTER REVERSED TSE,13SMALL"),
    (0xa662, "10CAPITAL LETTER SOFT DE,13SMALL,10CAPITAL LETTER SOFT EL,13SMALL"),
    (0xa666, "10CAPITAL LETTER SOFT EM,13SMALL,10CAPITAL LETTER MONOCULAR O,13SMALL"),
    (0xa66a, "11CAPITAL LETTER BINOCULAR,13SMALL,11CAPITAL LETTER DOUBLE MONOCULAR"),
    (0xa66d, "14SMALL,11LETTER MULTIOCULAR,00COMBINING CYRILLIC VZMET"),
    (0xa670, "20TEN MILLIONS SIGN,22HUNDRED,22THOUSAND,00SLAVONIC ASTERISK"),
    (0xa674, "00COMBINING CYRILLIC LETTER UKRAINIAN IE,30I,30YI,30U,30HARD SIGN"),
    (0xa679, "30YERU,30SOFT SIGN,30OMEGA,20KAVYKA,20PAYEROK,00CYRILLIC KAVYKA"),
    (0xa67f, "10PAYEROK,10CAPITAL LETTER DWE,12SMALL,10CAPITAL LETTER DZWE,12SMALL"),
    (0xa684, "10CAPITAL LETTER ZHWE,12SMALL,10CAPITAL LETTER CCHE,12SMALL"),
    (0xa688, "10CAPITAL LETTER DZZE,12SMALL,10CAPITAL LETTER TE WITH MIDDLE HOOK"),
    (0xa68b, "15SMALL,10CAPITAL LETTER TWE,12SMALL,10CAPITAL LETTER TSWE,12SMALL"),
    (0xa690, "10CAPITAL LETTER TSSE,12SMALL,10CAPITAL LETTER TCHE,12SMALL"),
    (0xa694, "10CAPITAL LETTER HWE,12SMALL,10CAPITAL LETTER SHWE,12SMALL"),
    (0xa698, "10CAPITAL LETTER DOUBLE O,13SMALL,11CAPITAL LETTER CROSSED,13SMALL"),
    (0xa69c, "00MODIFIER LETTER CYRILLIC HARD SIGN,31SOFT"),
    (0xa69e, "00COMBINING CYRILLIC LETTER EF,30IOTIFIED E,00BAMUM LETTER A,20KA,20U"),
    (0xa6a3, "20KU,20EE,20REE,20TAE,20O,20NYI,20I,20LA,20PA,20RII,20RIEE,20LEEEE"),
    (0xa6af, "20MEEEE,20TAA,20NDAA,20NJAEM,20M,20SUU,20MU,20SHII,20SI,20SHEUX,20SEUX"),
    (0xa6ba, "20KYEE,20KET,20NUAE,20NU,20NJUAE,20YOQ,20SHU,20YUQ,20YA,20NSHA,20KEUX"),
    (0xa6c5, "20PEUX,20NJEE,20NTEE,20PUE,20WUE,20PEE,20FEE,20RU,20LU,20MI,20NI,20REUX"),
    (0xa6d1, "20RAE,20KEN,20NGKWAEN,20NGGA,20NGA,20SHO,20PUAE,20FU,20FOM,20WA,20NA"),
    (0xa6dc, "20LI,20PI,20LOQ,20KO,20MBEN,20REN,20MEN,20MA,20TI,20KI,20MO,20MBAA"),
    (0xa6e8, "20TET,20KPA,20TEN,20NTUU,20SAMBA,20FAAMAE,20KOVUU,20KOGHOM"),
    (0xa6f0, "10COMBINING MARK KOQNDON,30TUKWENTIS,10NJAEMLI,10FULL STOP,10COLON"),
    (0xa6f5, "10COMMA,10SEMICOLON,10QUESTION MARK"),
    (0xa700, "00MODIFIER LETTER CHINESE TONE YIN PING,41YANG,40YIN SHANG,41YANG"),
    (0xa704, "40YIN QU,41YANG,40YIN RU,41YANG,20EXTRA-HIGH DOTTED TONE BAR,23HIGH"),
    (0xa70a, "23MID,23LOW,23EXTRA-LOW,22EXTRA-HIGH DOTTED LEFT-STEM,24HIGH,24MID"),
    (0xa710, "24LOW,24EXTRA-LOW,23EXTRA-HIGH,23HIGH,23MID,23LOW,23EXTRA-LOW"),
    (0xa717, "21DOT VERTICAL,30SLASH,30HORIZONTAL BAR,20LOWER RIGHT CORNER ANGLE"),
    (0xa71b, "20RAISED UP ARROW,31DOWN,30EXCLAMATION MARK,32INVERTED,23LOW"),
    (0xa720, "20STRESS AND HIGH TONE,41LOW,00LATIN CAPITAL LETTER EGYPTOLOGICAL ALEF"),
    (0xa723, "13SMALL,10CAPITAL LETTER EGYPTOLOGICAL AIN,13SMALL"),
    (0xa726, "10CAPITAL LETTER HENG,12SMALL,10CAPITAL LETTER TZ,12SMALL"),
    (0xa72a, "10CAPITAL LETTER TRESILLO,12SMALL,10CAPITAL LETTER CUATRILLO,12SMALL"),
    (0xa72e, "10CAPITAL LETTER CUATRILLO WITH COMMA,14SMALL,10LETTER SMALL CAPITAL F"),
    (0xa731, "40S,10CAPITAL LETTER AA,12SMALL,10CAPITAL LETTER AO,12SMALL"),
    (0xa736, "10CAPITAL LETTER AU,12SMALL,10CAPITAL LETTER AV,12SMALL"),
    (0xa73a, "10CAPITAL LETTER AV WITH HORIZONTAL BAR,15SMALL,10CAPITAL LETTER AY"),
    (0xa73d, "12SMALL,10CAPITAL LETTER REVERSED C WITH DOT,15SMALL"),
    (0xa740, "10CAPITAL LETTER K WITH STROKE,14SMALL,11CAPITAL LETTER K WITH DIAGONAL"),
    (0xa743, "15SMALL,12CAPITAL LETTER K WITH STROKE AND,17SMALL"),
    (0xa746, "10CAPITAL LETTER BROKEN L,13SMALL,10CAPITAL LETTER L WITH HIGH STROKE"),
    (0xa749, "15SMALL,10CAPITAL LETTER O WITH LONG STROKE OVERLAY,16SMALL"),
    (0xa74c, "10CAPITAL LETTER O WITH LOOP,14SMALL,10CAPITAL LETTER OO,12SMALL"),
    (0xa750, "10CAPITAL LETTER P WITH STROKE THROUGH DESCENDER,16SMALL"),
    (0xa752, "10CAPITAL LETTER P WITH FLOURISH,14SMALL"),
    (0xa754, "10CAPITAL LETTER P WITH SQUIRREL TAIL,15SMALL"),
    (0xa756, "10CAPITAL LETTER Q WITH STROKE THROUGH DESCENDER,16SMALL"),
    (0xa758, "10CAPITAL LETTER Q WITH DIAGONAL STROKE,15SMALL"),
    (0xa75a, "10CAPITAL LETTER R ROTUNDA,13SMALL,11CAPITAL LETTER RUM,13SMALL"),
    (0xa75e, "10CAPITAL LETTER V WITH DIAGONAL STROKE,15SMALL,10CAPITAL LETTER VY"),
    (0xa761, "12SMALL,10CAPITAL LETTER VISIGOTHIC Z,13SMALL"),
    (0xa764, "10CAPITAL LETTER THORN WITH STROKE,14SMALL"),
    (0xa766, "10CAPITAL LETTER THORN WITH STROKE THROUGH DESCENDER,16SMALL"),
    (0xa768, "10CAPITAL LETTER VEND,12SMALL,10CAPITAL LETTER ET,12SMALL"),
    (0xa76c, "10CAPITAL LETTER IS,12SMALL,10CAPITAL LETTER CON,12SMALL"),
    (0xa770, "00MODIFIER LETTER US,00LATIN SMALL LETTER DUM,30LUM,30MUM,30NUM,30RUM"),
    (0xa776, "11LETTER SMALL CAPITAL,10SMALL LETTER TUM,30UM"),
    (0xa779, "10CAPITAL LETTER INSULAR D,13SMALL,10CAPITAL LETTER INSULAR F,13SMALL"),
    (0xa77d, "10CAPITAL LETTER INSULAR G,32TURNED,14SMALL,10CAPITAL LETTER TURNED L"),
    (0xa781, "13SMALL,10CAPITAL LETTER INSULAR R,13SMALL,10CAPITAL LETTER INSULAR S"),
    (0xa785, "13SMALL,10CAPITAL LETTER INSULAR T,13SMALL"),
    (0xa788, "00MODIFIER LETTER LOW CIRCUMFLEX ACCENT,20COLON,20SHORT EQUALS SIGN"),
    (0xa78b, "00LATIN CAPITAL LETTER SALTILLO,12SMALL,10CAPITAL LETTER TURNED H"),
    (0xa78e, "10SMALL LETTER L WITH RETROFLEX HOOK AND BELT,10LETTER SINOLOGICAL DOT"),
    (0xa790, "10CAPITAL LETTER N WITH DESCENDER,14SMALL,10CAPITAL LETTER C WITH BAR"),
    (0xa793, "14SMALL,50PALATAL HOOK,33H,10CAPITAL LETTER B WITH FLOURISH,14SMALL"),
    (0xa798, "10CAPITAL LETTER F WITH STROKE,14SMALL,10CAPITAL LETTER VOLAPUK AE"),
    (0xa79b, "13SMALL,10CAPITAL LETTER VOLAPUK OE,13SMALL,10CAPITAL LETTER VOLAPUK UE"),
    (0xa79f, "13SMALL,10CAPITAL LETTER G WITH OBLIQUE STROKE,15SMALL"),
    (0xa7a2, "13CAPITAL LETTER K,15SMALL,13CAPITAL LETTER N,15SMALL"),
    (0xa7a6, "13CAPITAL LETTER R,15SMALL,13CAPITAL LETTER S,15SMALL"),
    (0xa7aa, "10CAPITAL LETTER H WITH HOOK,30REVERSED OPEN E,30SCRIPT G,30L WITH BELT"),
    (0xa7ae, "30SMALL CAPITAL I,10LETTER SMALL CAPITAL Q,10CAPITAL LETTER TURNED K"),
    (0xa7b1, "40T,30J WITH CROSSED-TAIL,30CHI,30BETA,12SMALL,10CAPITAL LETTER OMEGA"),
    (0xa7b7, "12SMALL,10CAPITAL LETTER U WITH STROKE,14SMALL"),
    (0xa7ba, "10CAPITAL LETTER GLOTTAL A,13SMALL,10CAPITAL LETTER GLOTTAL I,13SMALL"),
    (0xa7be, "10CAPITAL LETTER GLOTTAL U,13SMALL,10CAPITAL LETTER OLD POLISH O"),
    (0xa7c1, "14SMALL,10CAPITAL LETTER ANGLICANA W,13SMALL"),
    (0xa7c4, "10CAPITAL LETTER C WITH PALATAL HOOK,31S WITH,31Z WITH PALATAL"),
    (0xa7c7, "30D WITH SHORT STROKE OVERLAY,16SMALL,14CAPITAL LETTER S,16SMALL"),
    (0xa7d0, "10CAPITAL LETTER CLOSED INSULAR G,14SMALL"),
    (0xa7d3, "30DOUBLE THORN"),
    (0xa7d5, "40WYNN,10CAPITAL LETTER MIDDLE SCOTS S,14SMALL,11CAPITAL LETTER SIGMOID"),
    (0xa7d9, "13SMALL"),
    (0xa7f2, "00MODIFIER LETTER CAPITAL C,30F,30Q"),
    (0xa7f5, "00LATIN CAPITAL LETTER REVERSED HALF H,14SMALL"),
    (0xa7f7, "10EPIGRAPHIC LETTER SIDEWAYS I,00MODIFIER LETTER CAPITAL H WITH STROKE"),
    (0xa7f9, "20SMALL LIGATURE OE,00LATIN LETTER SMALL CAPITAL TURNED M"),
    (0xa7fb, "10EPIGRAPHIC LETTER REVERSED F,40P,30INVERTED M,30I LONGA,30ARCHAIC M"),
    (0xa800, "00SYLOTI NAGRI LETTER A,30I,20SIGN DVISVARA,20LETTER U,30E,30O"),
    (0xa806, "20SIGN HASANTA,20LETTER KO,30KHO,30GO,30GHO,20SIGN ANUSVARA,20LETTER CO"),
    (0xa80d, "30CHO,30JO,30JHO,30TTO,30TTHO,30DDO,30DDHO,30TO,30THO,30DO,30DHO,30NO"),
    (0xa819, "30PO,30PHO,30BO,30BHO,30MO,30RO,30LO,30RRO,30SO,30HO,20VOWEL SIGN A,40I"),
    (0xa825, "40U,40E,40OO,20POETRY MARK-1,30MARK-2,30MARK-3,30MARK-4"),
    (0xa82c, "20SIGN ALTERNATE HASANTA"),
    (0xa830, "00NORTH INDIC FRACTION ONE QUARTER,40HALF,30THREE QUARTERS"),
    (0xa833, "30ONE SIXTEENTH,40EIGHTH,30THREE SIXTEENTHS,20QUARTER MARK"),
    (0xa837, "21PLACEHOLDER,21RUPEE,21QUANTITY"),
    (0xa840, "00PHAGS-PA LETTER KA,20KHA,20GA,20NGA,20CA,20CHA,20JA,20NYA,20TA,20THA"),
    (0xa84a, "20DA,20NA,20PA,20PHA,20BA,20MA,20TSA,20TSHA,20DZA,20WA,20ZHA,20ZA"),
    (0xa856, "20SMALL A,20YA,20RA,20LA,20SHA,20SA,20HA,20A,20I,20U,20E,20O,20QA,20XA"),
    (0xa864, "20FA,20GGA,20EE,10SUBJOINED LETTER WA,30YA,10LETTER TTA,20TTHA,20DDA"),
    (0xa86c, "20NNA,20ALTERNATE YA,20VOICELESS SHA,20VOICED HA,20ASPIRATED FA"),
    (0xa871, "10SUBJOINED LETTER RA,12SUPERFIXED,10LETTER CANDRABINDU"),
    (0xa874, "10SINGLE HEAD MARK,12DOUBLE,10MARK SHAD,21DOUBLE"),
    (0xa880, "00SAURASHTRA SIGN ANUSVARA,20VISARGA,10LETTER A,20AA,20I,20II,20U,20UU"),
    (0xa888, "20VOCALIC R,30RR,30L,30LL,20E,20EE,20AI,20O,20OO,20AU,20KA,20KHA,20GA"),
    (0xa895, "20GHA,20NGA,20CA,20CHA,20JA,20JHA,20NYA,20TTA,20TTHA,20DDA,20DDHA,20NNA"),
    (0xa8a1, "20TA,20THA,20DA,20DHA,20NA,20PA,20PHA,20BA,20BHA,20MA,20YA,20RA,20LA"),
    (0xa8ae, "20VA,20SHA,20SSA,20SA,20HA,20LLA,10CONSONANT SIGN HAARU,10VOWEL SIGN AA"),
    (0xa8b6, "30I,30II,30U,30UU,30VOCALIC R,40RR,40L,40LL,30E,30EE,30AI,30O,30OO,30AU"),
    (0xa8c4, "10SIGN VIRAMA,20CANDRABINDU"),
    (0xa8ce, "10DANDA,11DOUBLE,10DIGIT ZERO,20ONE,20TWO,20THREE,20FOUR,20FIVE,20SIX"),
    (0xa8d7, "20SEVEN,20EIGHT,20NINE"),
    (0xa8e0, "00COMBINING DEVANAGARI DIGIT ZERO,30ONE,30TWO,30THREE,30FOUR,30FIVE"),
    (0xa8e6, "30SIX,30SEVEN,30EIGHT,30NINE,20LETTER A,30U,30KA,30NA,30PA,30RA,30VI"),
    (0xa8f1, "20SIGN AVAGRAHA,00DEVANAGARI SIGN SPACING CANDRABINDU"),
    (0xa8f3, "20CANDRABINDU VIRAMA,22DOUBLE,20CANDRABINDU TWO,30THREE,30AVAGRAHA"),
    (0xa8f8, "20PUSHPIKA,10GAP FILLER,10CARET,10HEADSTROKE,10SIGN SIDDHAM,10JAIN OM"),
    (0xa8fe, "10LETTER AY,11VOWEL SIGN,00KAYAH LI DIGIT ZERO,30ONE,30TWO,30THREE"),
    (0xa904, "30FOUR,30FIVE,30SIX,30SEVEN,30EIGHT,30NINE,20LETTER KA,30KHA,30GA,30NGA"),
    (0xa90e, "30SA,30SHA,30ZA,30NYA,30TA,30HTA,30NA,30PA,30PHA,30MA,30DA,30BA,30RA"),
    (0xa91b, "30YA,30LA,30WA,30THA,30HA,30VA,30CA,30A,30OE,30I,30OO,20VOWEL UE,30E"),
    (0xa928, "30U,30EE,30O,20TONE PLOPHU,30CALYA,40PLOPHU,20SIGN CWI,30SHYA"),
    (0xa930, "00REJANG LETTER KA,20GA,20NGA,20TA,20DA,20NA,20PA,20BA,20MA,20CA,20JA"),
    (0xa93b, "20NYA,20SA,20RA,20LA,20YA,20WA,20HA,20MBA,20NGGA,20NDA,20NYJA,20A"),
    (0xa947, "10VOWEL SIGN I,30U,30E,30AI,30O,30AU,30EU,30EA,10CONSONANT SIGN NG,30N"),
    (0xa951, "30R,30H,10VIRAMA"),
    (0xa95f, "10SECTION MARK,00HANGUL CHOSEONG TIKEUT-MIEUM,20TIKEUT-PIEUP"),
    (0xa962, "20TIKEUT-SIOS,20TIKEUT-CIEUC,20RIEUL-KIYEOK,20RIEUL-SSANGKIYEOK"),
    (0xa966, "20RIEUL-TIKEUT,20RIEUL-SSANGTIKEUT,20RIEUL-MIEUM,20RIEUL-PIEUP"),
    (0xa96a, "20RIEUL-SSANGPIEUP,20RIEUL-KAPYEOUNPIEUP,20RIEUL-SIOS,20RIEUL-CIEUC"),
    (0xa96e, "20RIEUL-KHIEUKH,20MIEUM-KIYEOK,20MIEUM-TIKEUT,20MIEUM-SIOS"),
    (0xa972, "20PIEUP-SIOS-THIEUTH,20PIEUP-KHIEUKH,20PIEUP-HIEUH,20SSANGSIOS-PIEUP"),
    (0xa976, "20IEUNG-RIEUL,20IEUNG-HIEUH,20SSANGCIEUC-HIEUH,20SSANGTHIEUTH"),
    (0xa97a, "20PHIEUPH-HIEUH,20HIEUH-SIOS,20SSANGYEORINHIEUH"),
    (0xa980, "00JAVANESE SIGN PANYANGGA,20CECAK,20LAYAR,20WIGNYAN,10LETTER A,20I KAWI"),
    (0xa986, "30,20II,20U,20PA CEREK,20NGA LELET,40RASWADI,20E,20AI,20O,20KA,30SASAK"),
    (0xa991, "30MURDA,20GA,30MURDA,20NGA,20CA,30MURDA,20JA,20NYA MURDA,20JA MAHAPRANA"),
    (0xa99a, "20NYA,20TTA,30MAHAPRANA,20DDA,30MAHAPRANA,20NA MURDA,20TA,30MURDA,20DA"),
    (0xa9a3, "30MAHAPRANA,20NA,20PA,30MURDA,20BA,30MURDA,20MA,20YA,20RA,30AGUNG,20LA"),
    (0xa9ae, "20WA,20SA MURDA,30MAHAPRANA,30,20HA,10SIGN CECAK TELU"),
    (0xa9b4, "10VOWEL SIGN TARUNG,30TOLONG,30WULU,40MELIK,30SUKU,40MENDUT,30TALING"),
    (0xa9bb, "30DIRGA MURE,30PEPET,10CONSONANT SIGN KERET,30PENGKAL,30CAKRA,10PANGKON"),
    (0xa9c1, "10LEFT RERENGGAN,11RIGHT,10PADA ANDAP,20MADYA,20LUHUR,20WINDU,20PANGKAT"),
    (0xa9c8, "20LINGSA,20LUNGSI,20ADEG,30ADEG,20PISELEH,12TURNED"),
    (0xa9cf, "10PANGRANGKEP,10DIGIT ZERO,20ONE,20TWO,20THREE,20FOUR,20FIVE,20SIX"),
    (0xa9d7, "20SEVEN,20EIGHT,20NINE"),
    (0xa9de, "10PADA TIRTA TUMETES,20ISEN-ISEN,00MYANMAR LETTER SHAN GHA,30CHA,30JHA"),
    (0xa9e3, "30NNA,30BHA,10SIGN SHAN SAW,10MODIFIER LETTER SHAN REDUPLICATION"),
    (0xa9e7, "10LETTER TAI LAING NYA,40FA,40GA,40GHA,40JA,40JHA,40DDA,40DDHA,40NNA"),
    (0xa9f0, "10TAI LAING DIGIT ZERO,40ONE,40TWO,40THREE,40FOUR,40FIVE,40SIX,40SEVEN"),
    (0xa9f8, "40EIGHT,40NINE,10LETTER TAI LAING LLA,40DA,40DHA,40BA,40BHA"),
    (0xaa00, "00CHAM LETTER A,20I,20U,20E,20AI,20O,20KA,20KHA,20GA,20GHA,20NGUE,20NGA"),
    (0xaa0c, "20CHA,20CHHA,20JA,20JHA,20NHUE,20NHA,20NHJA,20TA,20THA,20DA,20DHA,20NUE"),
    (0xaa18, "20NA,20DDA,20PA,20PPA,20PHA,20BA,20BHA,20MUE,20MA,20BBA,20YA,20RA,20LA"),
    (0xaa25, "20VA,20SSA,20SA,20HA,10VOWEL SIGN AA,30I,30II,30EI,30U,30OE,30O,30AI"),
    (0xaa31, "30AU,30UE,10CONSONANT SIGN YA,30RA,30LA,30WA"),
    (0xaa40, "10LETTER FINAL K,30G,30NG,12CONSONANT SIGN,10LETTER FINAL CH,30T,30N"),
    (0xaa47, "30P,30Y,30R,30L,30SS,10CONSONANT SIGN FINAL M,40H"),
    (0xaa50, "10DIGIT ZERO,20ONE,20TWO,20THREE,20FOUR,20FIVE,20SIX,20SEVEN,20EIGHT"),
    (0xaa59, "20NINE"),
    (0xaa5c, "10PUNCTUATION SPIRAL,20DANDA,21DOUBLE,21TRIPLE"),
    (0xaa60, "00MYANMAR LETTER KHAMTI GA,30CA,30CHA,30JA,30JHA,30NYA,30TTA,30TTHA"),
    (0xaa68, "30DDA,30DDHA,30DHA,30NA,30SA,30HA,30HHA,30FA"),
    (0xaa70, "10MODIFIER LETTER KHAMTI REDUPLICATION,10LETTER KHAMTI XA,30ZA,30RA"),
    (0xaa74, "10LOGOGRAM KHAMTI OAY,30QN,30HM,10SYMBOL AITON EXCLAMATION,30ONE,30TWO"),
    (0xaa7a, "10LETTER AITON RA,10SIGN PAO KAREN TONE,20TAI LAING TONE-2,40TONE-5"),
    (0xaa7e, "10LETTER SHWE PALAUNG CHA,40SHA,00TAI VIET LETTER LOW KO,31HIGH"),
    (0xaa82, "30LOW KHO,31HIGH,30LOW KHHO,31HIGH,30LOW GO,31HIGH,30LOW NGO,31HIGH"),
    (0xaa8a, "30LOW CO,31HIGH,30LOW CHO,31HIGH,30LOW SO,31HIGH,30LOW NYO,31HIGH"),
    (0xaa92, "30LOW DO,31HIGH,30LOW TO,31HIGH,30LOW THO,31HIGH,30LOW NO,31HIGH"),
    (0xaa9a, "30LOW BO,31HIGH,30LOW PO,31HIGH,30LOW PHO,31HIGH,30LOW FO,31HIGH"),
    (0xaaa2, "30LOW MO,31HIGH,30LOW YO,31HIGH,30LOW RO,31HIGH,30LOW LO,31HIGH"),
    (0xaaaa, "30LOW VO,31HIGH,30LOW HO,31HIGH,30LOW O,31HIGH,20MAI KANG,20VOWEL AA"),
    (0xaab2, "30I,30UE,30U,30E,30O,20MAI KHIT,20VOWEL IA,30UEA,30UA,30AUE,30AY,30AN"),
    (0xaabe, "30AM,20TONE MAI EK,40NUENG,40THO,40SONG"),
    (0xaadb, "20SYMBOL KON,30NUENG,30SAM,30HO HOI,30KOI KOI,00MEETEI MAYEK LETTER E"),
    (0xaae1, "30O,30CHA,30NYA,30TTA,30TTHA,30DDA,30DDHA,30NNA,30SHA,30SSA"),
    (0xaaeb, "20VOWEL SIGN II,40UU,40AAI,40AU,40AAU,20CHEIKHAN,20AHANG KHUDAM,20ANJI"),
    (0xaaf3, "20SYLLABLE REPETITION MARK,22WORD,20VOWEL SIGN VISARGA,20VIRAMA"),
    (0xab01, "00ETHIOPIC SYLLABLE TTHU,20TTHI,20TTHAA,20TTHEE,20TTHE,20TTHO"),
    (0xab09, "20DDHU,20DDHI,20DDHAA,20DDHEE,20DDHE,20DDHO"),
    (0xab11, "20DZU,20DZI,20DZAA,20DZEE,20DZE,20DZO"),
    (0xab20, "20CCHHA,20CCHHU,20CCHHI,20CCHHAA,20CCHHEE,20CCHHE,20CCHHO"),
    (0xab28, "20BBA,20BBU,20BBI,20BBAA,20BBEE,20BBE,20BBO"),
    (0xab30, "00LATIN SMALL LETTER BARRED ALPHA,30A REVERSED-SCHWA,30BLACKLETTER E"),
    (0xab33, "31BARRED,30E WITH FLOURISH,30LENIS F,30SCRIPT G WITH CROSSED-TAIL"),
    (0xab37, "30L WITH INVERTED LAZY S,50DOUBLE MIDDLE TILDE,50MIDDLE RING"),
    (0xab3a, "30M WITH CROSSED-TAIL,32N,32ENG,30BLACKLETTER O,50WITH STROKE,33OPEN"),
    (0xab40, "30INVERTED OE,30TURNED OE WITH STROKE,61HORIZONTAL,40O OPEN-O"),
    (0xab44, "60WITH STROKE,30STIRRUP R,10LETTER SMALL CAPITAL R WITH RIGHT LEG"),
    (0xab47, "10SMALL LETTER R WITHOUT HANDLE,30DOUBLE R,30R WITH CROSSED-TAIL"),
    (0xab4a, "33DOUBLE,30SCRIPT R,50WITH RING,30BASELINE ESH,30U WITH SHORT RIGHT LEG"),
    (0xab4f, "44BAR,30UI,31TURNED,30U WITH LEFT HOOK,30CHI,40WITH LOW RIGHT RING"),
    (0xab55, "60LEFT SERIF,30X WITH LOW RIGHT RING,50LONG LEFT LEG"),
    (0xab58, "80AND LOW RIGHT RING,80WITH SERIF,30Y WITH SHORT RIGHT LEG"),
    (0xab5b, "00MODIFIER BREVE WITH INVERTED BREVE,10LETTER SMALL HENG"),
    (0xab5d, "30L WITH INVERTED LAZY S,50MIDDLE TILDE,30U WITH LEFT HOOK"),
    (0xab60, "00LATIN SMALL LETTER SAKHA YAT,30IOTIFIED E,30OPEN OE,30UO"),
    (0xab64, "30INVERTED ALPHA,00GREEK LETTER SMALL CAPITAL OMEGA"),
    (0xab66, "00LATIN SMALL LETTER DZ DIGRAPH WITH RETROFLEX HOOK,34TS"),
    (0xab68, "30TURNED R WITH MIDDLE TILDE,00MODIFIER LETTER SMALL TURNED W"),
    (0xab6a, "20LEFT TACK,21RIGHT"),
    (0xab70, "00CHEROKEE SMALL LETTER A,30E,30I,30O,30U,30V,30GA,30KA,30GE,30GI,30GO"),
    (0xab7b, "30GU,30GV,30HA,30HE,30HI,30HO,30HU,30HV,30LA,30LE,30LI,30LO,30LU,30LV"),
    (0xab89, "30MA,30ME,30MI,30MO,30MU,30NA,30HNA,30NAH,30NE,30NI,30NO,30NU,30NV"),
    (0xab96, "30QUA,30QUE,30QUI,30QUO,30QUU,30QUV,30SA,30S,30SE,30SI,30SO,30SU,30SV"),
    (0xaba3, "30DA,30TA,30DE,30TE,30DI,30TI,30DO,30DU,30DV,30DLA,30TLA,30TLE,30TLI"),
    (0xabb0, "30TLO,30TLU,30TLV,30TSA,30TSE,30TSI,30TSO,30TSU,30TSV,30WA,30WE,30WI"),
    (0xabbc, "30WO,30WU,30WV,30YA,00MEETEI MAYEK LETTER KOK,30SAM,30LAI,30MIT,30PA"),
    (0xabc5, "30NA,30CHIL,30TIL,30KHOU,30NGOU,30THOU,30WAI,30YANG,30HUK,30UN,30I"),
    (0xabd0, "30PHAM,30ATIYA,30GOK,30JHAM,30RAI,30BA,30JIL,30DIL,30GHOU,30DHOU,30BHAM"),
    (0xabdb, "30KOK LONSUM,31LAI,31MIT,31PA,31NA,31TIL,31NGOU,31I,20VOWEL SIGN ONAP"),
    (0xabe4, "40INAP,40ANAP,40YENAP,40SOUNAP,40UNAP,40CHEINAP,40NUNG,20CHEIKHEI"),
    (0xabec, "20LUM IYEK,21APUN"),
    (0xabf0, "20DIGIT ZERO,30ONE,30TWO,30THREE,30FOUR,30FIVE,30SIX,30SEVEN,30EIGHT"),
    (0xabf9, "30NINE"),
    (0xd7b0, "00HANGUL JUNGSEONG O-YEO,20O-O-I,20YO-A,20YO-AE,20YO-EO,20U-YEO,20U-I-I"),
    (0xd7b7, "20YU-AE,20YU-O,20EU-A,20EU-EO,20EU-E,20EU-O,20I-YA-O,20I-YAE,20I-YEO"),
    (0xd7c0, "20I-YE,20I-O-I,20I-YO,20I-YU,20I-I,20ARAEA-A,20ARAEA-E"),
    (0xd7cb, "10JONGSEONG NIEUN-RIEUL,20NIEUN-CHIEUCH,20SSANGTIKEUT"),
    (0xd7ce, "20SSANGTIKEUT-PIEUP,20TIKEUT-PIEUP,20TIKEUT-SIOS,20TIKEUT-SIOS-KIYEOK"),
    (0xd7d2, "20TIKEUT-CIEUC,20TIKEUT-CHIEUCH,20TIKEUT-THIEUTH,20RIEUL-SSANGKIYEOK"),
    (0xd7d6, "20RIEUL-KIYEOK-HIEUH,20SSANGRIEUL-KHIEUKH,20RIEUL-MIEUM-HIEUH"),
    (0xd7d9, "20RIEUL-PIEUP-TIKEUT,20RIEUL-PIEUP-PHIEUPH,20RIEUL-YESIEUNG"),
    (0xd7dc, "20RIEUL-YEORINHIEUH-HIEUH,20KAPYEOUNRIEUL,20MIEUM-NIEUN"),
    (0xd7df, "20MIEUM-SSANGNIEUN,20SSANGMIEUM,20MIEUM-PIEUP-SIOS,20MIEUM-CIEUC"),
    (0xd7e3, "20PIEUP-TIKEUT,20PIEUP-RIEUL-PHIEUPH,20PIEUP-MIEUM,20SSANGPIEUP"),
    (0xd7e7, "20PIEUP-SIOS-TIKEUT,20PIEUP-CIEUC,20PIEUP-CHIEUCH,20SIOS-MIEUM"),
    (0xd7eb, "20SIOS-KAPYEOUNPIEUP,20SSANGSIOS-KIYEOK,20SSANGSIOS-TIKEUT"),
    (0xd7ee, "20SIOS-PANSIOS,20SIOS-CIEUC,20SIOS-CHIEUCH,20SIOS-THIEUTH,20SIOS-HIEUH"),
    (0xd7f3, "20PANSIOS-PIEUP,20PANSIOS-KAPYEOUNPIEUP,20YESIEUNG-MIEUM"),
    (0xd7f6, "20YESIEUNG-HIEUH,20CIEUC-PIEUP,20CIEUC-SSANGPIEUP,20SSANGCIEUC"),
    (0xd7fa, "20PHIEUPH-SIOS,20PHIEUPH-THIEUTH")]

/-- The packed names of forms of Arabic letters. -/
def arabicFormNames : List (Nat × String) :=
  [
    (0xfb50, "00ARABIC LETTER ALEF WASLA ISOLATED FORM,41FINAL,21BEEH ISOLATED"),
    (0xfb53, "31FINAL,31INITIAL,31MEDIAL,21PEH ISOLATED,31FINAL,31INITIAL,31MEDIAL"),
    (0xfb5a, "21BEHEH ISOLATED,31FINAL,31INITIAL,31MEDIAL,21TTEHEH ISOLATED,31FINAL"),
    (0xfb60, "31INITIAL,31MEDIAL,21TEHEH ISOLATED,31FINAL,31INITIAL,31MEDIAL"),
    (0xfb66, "21TTEH ISOLATED,31FINAL,31INITIAL,31MEDIAL,21VEH ISOLATED,31FINAL"),
    (0xfb6c, "31INITIAL,31MEDIAL,21PEHEH ISOLATED,31FINAL,31INITIAL,31MEDIAL"),
    (0xfb72, "21DYEH ISOLATED,31FINAL,31INITIAL,31MEDIAL,21NYEH ISOLATED,31FINAL"),
    (0xfb78, "31INITIAL,31MEDIAL,21TCHEH ISOLATED,31FINAL,31INITIAL,31MEDIAL"),
    (0xfb7e, "21TCHEHEH ISOLATED,31FINAL,31INITIAL,31MEDIAL,21DDAHAL ISOLATED,31FINAL"),
    (0xfb84, "21DAHAL ISOLATED,31FINAL,21DUL ISOLATED,31FINAL,21DDAL ISOLATED,31FINAL"),
    (0xfb8a, "21JEH ISOLATED,31FINAL,21RREH ISOLATED,31FINAL,21KEHEH ISOLATED,31FINAL"),
    (0xfb90, "31INITIAL,31MEDIAL,21GAF ISOLATED,31FINAL,31INITIAL,31MEDIAL"),
    (0xfb96, "21GUEH ISOLATED,31FINAL,31INITIAL,31MEDIAL,21NGOEH ISOLATED,31FINAL"),
    (0xfb9c, "31INITIAL,31MEDIAL,21NOON GHUNNA ISOLATED,41FINAL,21RNOON ISOLATED"),
    (0xfba1, "31FINAL,31INITIAL,31MEDIAL,21HEH WITH YEH ABOVE ISOLATED,61FINAL"),
    (0xfba6, "31GOAL ISOLATED,41FINAL,41INITIAL,41MEDIAL,31DOACHASHMEE ISOLATED"),
    (0xfbab, "41FINAL,41INITIAL,41MEDIAL,21YEH BARREE ISOLATED,41FINAL"),
    (0xfbb0, "41WITH HAMZA ABOVE ISOLATED,71FINAL,10SYMBOL DOT ABOVE,30BELOW"),
    (0xfbb4, "20TWO DOTS ABOVE,40BELOW,20THREE DOTS ABOVE,40BELOW"),
    (0xfbb8, "40POINTING DOWNWARDS ABOVE,60BELOW,20FOUR DOTS ABOVE,40BELOW"),
    (0xfbbc, "21DOUBLE VERTICAL BAR,20TWO DOTS VERTICALLY ABOVE,50BELOW,20RING"),
    (0xfbc0, "20SMALL TAH ABOVE,40BELOW,20WASLA ABOVE"),
    (0xfbd3, "10LETTER NG ISOLATED FORM,31FINAL,31INITIAL,31MEDIAL,21U ISOLATED"),
    (0xfbd8, "31FINAL,21OE ISOLATED,31FINAL,21YU ISOLATED,31FINAL"),
    (0xfbdd, "21U WITH HAMZA ABOVE ISOLATED,22VE,31FINAL,21KIRGHIZ OE ISOLATED"),
    (0xfbe1, "41FINAL,31YU ISOLATED,41FINAL,21E ISOLATED,31FINAL,31INITIAL,31MEDIAL"),
    (0xfbe8, "21UIGHUR KAZAKH KIRGHIZ ALEF MAKSURA INITIAL,71MEDIAL"),
    (0xfbea, "11LIGATURE YEH WITH HAMZA ABOVE WITH ALEF ISOLATED,81FINAL"),
    (0xfbec, "71AE ISOLATED,81FINAL,71WAW ISOLATED,81FINAL,71U ISOLATED,81FINAL"),
    (0xfbf2, "71OE ISOLATED,81FINAL,71YU ISOLATED,81FINAL,71E ISOLATED,81FINAL"),
    (0xfbf8, "81INITIAL"),
    (0xfbf9, "21UIGHUR KIRGHIZ YEH WITH HAMZA ABOVE WITH ALEF MAKSURA ISOLATED"),
    (0xfbfa, "91ALEF MAKSURA FINAL,91ALEF MAKSURA INITIAL,11LETTER FARSI YEH ISOLATED"),
    (0xfbfd, "41FINAL,41INITIAL,41MEDIAL"),
    (0xfc00, "11LIGATURE YEH WITH HAMZA ABOVE WITH JEEM ISOLATED,72HAH,72MEEM"),
    (0xfc03, "72ALEF MAKSURA,72YEH,22BEH WITH JEEM,42HAH,42KHAH,42MEEM,42ALEF MAKSURA"),
    (0xfc0a, "42YEH,22TEH WITH JEEM,42HAH,42KHAH,42MEEM,42ALEF MAKSURA,42YEH"),
    (0xfc11, "22THEH WITH JEEM,42MEEM,42ALEF MAKSURA,42YEH,22JEEM WITH HAH,42MEEM"),
    (0xfc17, "22HAH WITH JEEM,42MEEM,22KHAH WITH JEEM,42HAH,42MEEM,22SEEN WITH JEEM"),
    (0xfc1d, "42HAH,42KHAH,42MEEM,22SAD WITH HAH,42MEEM,22DAD WITH JEEM,42HAH,42KHAH"),
    (0xfc25, "42MEEM,22TAH WITH HAH,42MEEM,24ZAH,22AIN WITH JEEM,42MEEM"),
    (0xfc2b, "22GHAIN WITH JEEM,42MEEM,22FEH WITH JEEM,42HAH,42KHAH,42MEEM"),
    (0xfc31, "42ALEF MAKSURA,42YEH,22QAF WITH HAH,42MEEM,42ALEF MAKSURA,42YEH"),
    (0xfc37, "22KAF WITH ALEF,42JEEM,42HAH,42KHAH,42LAM,42MEEM,42ALEF MAKSURA,42YEH"),
    (0xfc3f, "22LAM WITH JEEM,42HAH,42KHAH,42MEEM,42ALEF MAKSURA,42YEH"),
    (0xfc45, "22MEEM WITH JEEM,42HAH,42KHAH,42MEEM,42ALEF MAKSURA,42YEH"),
    (0xfc4b, "22NOON WITH JEEM,42HAH,42KHAH,42MEEM,42ALEF MAKSURA,42YEH"),
    (0xfc51, "22HEH WITH JEEM,42MEEM,42ALEF MAKSURA,42YEH,22YEH WITH JEEM,42HAH"),
    (0xfc57, "42KHAH,42MEEM,42ALEF MAKSURA,42YEH,22THAL WITH SUPERSCRIPT ALEF,25REH"),
    (0xfc5d, "25ALEF MAKSURA,22SHADDA WITH DAMMATAN,42KASRATAN,42FATHA,42DAMMA"),
    (0xfc62, "42KASRA,42SUPERSCRIPT ALEF,21YEH WITH HAMZA ABOVE WITH REH FINAL,72ZAIN"),
    (0xfc66, "72MEEM,72NOON,72ALEF MAKSURA,72YEH,22BEH WITH REH,42ZAIN,42MEEM,42NOON"),
    (0xfc6e, "42ALEF MAKSURA,42YEH,22TEH WITH REH,42ZAIN,42MEEM,42NOON,42ALEF MAKSURA"),
    (0xfc75, "42YEH,22THEH WITH REH,42ZAIN,42MEEM,42NOON,42ALEF MAKSURA,42YEH"),
    (0xfc7c, "22FEH WITH ALEF MAKSURA,42YEH,22QAF WITH ALEF MAKSURA,42YEH"),
    (0xfc80, "22KAF WITH ALEF,42LAM,42MEEM,42ALEF MAKSURA,42YEH,22LAM WITH MEEM"),
    (0xfc86, "42ALEF MAKSURA,42YEH,22MEEM WITH ALEF,42MEEM,22NOON WITH REH,42ZAIN"),
    (0xfc8c, "42MEEM,42NOON,42ALEF MAKSURA,42YEH,22ALEF MAKSURA WITH SUPERSCRIPT ALEF"),
    (0xfc91, "22YEH WITH REH,42ZAIN,42MEEM,42NOON,42ALEF MAKSURA,42YEH"),
    (0xfc97, "41HAMZA ABOVE WITH JEEM INITIAL,72HAH,72KHAH,72MEEM,72HEH"),
    (0xfc9c, "22BEH WITH JEEM,42HAH,42KHAH,42MEEM,42HEH,22TEH WITH JEEM,42HAH,42KHAH"),
    (0xfca4, "42MEEM,42HEH,22THEH WITH MEEM,22JEEM WITH HAH,42MEEM,22HAH WITH JEEM"),
    (0xfcaa, "42MEEM,22KHAH WITH JEEM,42MEEM,22SEEN WITH JEEM,42HAH,42KHAH,42MEEM"),
    (0xfcb1, "22SAD WITH HAH,42KHAH,42MEEM,22DAD WITH JEEM,42HAH,42KHAH,42MEEM"),
    (0xfcb8, "22TAH WITH HAH,22ZAH WITH MEEM,22AIN WITH JEEM,42MEEM,22GHAIN WITH JEEM"),
    (0xfcbd, "42MEEM,22FEH WITH JEEM,42HAH,42KHAH,42MEEM,22QAF WITH HAH,42MEEM"),
    (0xfcc4, "22KAF WITH JEEM,42HAH,42KHAH,42LAM,42MEEM,22LAM WITH JEEM,42HAH,42KHAH"),
    (0xfccc, "42MEEM,42HEH,22MEEM WITH JEEM,42HAH,42KHAH,42MEEM,22NOON WITH JEEM"),
    (0xfcd3, "42HAH,42KHAH,42MEEM,42HEH,22HEH WITH JEEM,42MEEM,42SUPERSCRIPT ALEF"),
    (0xfcda, "22YEH WITH JEEM,42HAH,42KHAH,42MEEM,42HEH"),
    (0xfcdf, "41HAMZA ABOVE WITH MEEM MEDIAL,72HEH,22BEH WITH MEEM,42HEH"),
    (0xfce3, "22TEH WITH MEEM,42HEH,22THEH WITH MEEM,42HEH,22SEEN WITH MEEM,42HEH"),
    (0xfce9, "22SHEEN WITH MEEM,42HEH,22KAF WITH LAM,42MEEM,24LAM,24NOON,42HEH"),
    (0xfcf0, "22YEH WITH MEEM,42HEH,22SHADDA WITH FATHA,42DAMMA,42KASRA"),
    (0xfcf5, "21TAH WITH ALEF MAKSURA ISOLATED,42YEH,22AIN WITH ALEF MAKSURA,42YEH"),
    (0xfcf9, "22GHAIN WITH ALEF MAKSURA,42YEH,22SEEN WITH ALEF MAKSURA,42YEH"),
    (0xfcfd, "22SHEEN WITH ALEF MAKSURA,42YEH,22HAH WITH ALEF MAKSURA,42YEH"),
    (0xfd01, "22JEEM WITH ALEF MAKSURA,42YEH,22KHAH WITH ALEF MAKSURA,42YEH"),
    (0xfd05, "22SAD WITH ALEF MAKSURA,42YEH,22DAD WITH ALEF MAKSURA,42YEH"),
    (0xfd09, "22SHEEN WITH JEEM,42HAH,42KHAH,42MEEM,42REH,24SEEN,24SAD,24DAD"),
    (0xfd11, "21TAH WITH ALEF MAKSURA FINAL,42YEH,22AIN WITH ALEF MAKSURA,42YEH"),
    (0xfd15, "22GHAIN WITH ALEF MAKSURA,42YEH,22SEEN WITH ALEF MAKSURA,42YEH"),
    (0xfd19, "22SHEEN WITH ALEF MAKSURA,42YEH,22HAH WITH ALEF MAKSURA,42YEH"),
    (0xfd1d, "22JEEM WITH ALEF MAKSURA,42YEH,22KHAH WITH ALEF MAKSURA,42YEH"),
    (0xfd21, "22SAD WITH ALEF MAKSURA,42YEH,22DAD WITH ALEF MAKSURA,42YEH"),
    (0xfd25, "22SHEEN WITH JEEM,42HAH,42KHAH,42MEEM,42REH,24SEEN,24SAD,24DAD"),
    (0xfd2d, "21SHEEN WITH JEEM INITIAL,42HAH,42KHAH,42MEEM,22SEEN WITH HEH,24SHEEN"),
    (0xfd33, "22TAH WITH MEEM,21SEEN WITH JEEM MEDIAL,42HAH,42KHAH,22SHEEN WITH JEEM"),
    (0xfd38, "42HAH,42KHAH,22TAH WITH MEEM,24ZAH,21ALEF WITH FATHATAN FINAL"),
    (0xfd3d, "51ISOLATED,00ORNATE LEFT PARENTHESIS,11RIGHT"),
    (0xfd40, "00ARABIC LIGATURE RAHIMAHU ALLAAH,20RADI ALLAAHU ANH,40ANHAA,40ANHUM"),
    (0xfd44, "40ANHUMAA,40ANHUNNA,20SALLALLAAHU ALAYHI WA-AALIH,20ALAYHI AS-SALAAM"),
    (0xfd48, "21ALAYHIM,21ALAYHIMAA,20ALAYHI AS-SALAATU WAS-SALAAM,20QUDDISA SIRRAH"),
    (0xfd4c, "20SALLALLAHU ALAYHI WAAALIHEE WA-SALLAM,20ALAYHAA AS-SALAAM"),
    (0xfd4e, "20TABAARAKA WA-TAAALAA,20RAHIMAHUM ALLAAH"),
    (0xfd50, "20TEH WITH JEEM WITH MEEM INITIAL FORM,41HAH WITH JEEM FINAL,71INITIAL"),
    (0xfd53, "62MEEM,44KHAH,42MEEM WITH JEEM,62HAH,62KHAH"),
    (0xfd58, "21JEEM WITH MEEM WITH HAH FINAL,71INITIAL"),
    (0xfd5a, "21HAH WITH MEEM WITH YEH FINAL,62ALEF MAKSURA"),
    (0xfd5c, "21SEEN WITH HAH WITH JEEM INITIAL,42JEEM WITH HAH,61ALEF MAKSURA FINAL"),
    (0xfd5f, "42MEEM WITH HAH,71INITIAL,62JEEM,61MEEM FINAL,71INITIAL"),
    (0xfd64, "21SAD WITH HAH WITH HAH FINAL,71INITIAL,41MEEM WITH MEEM FINAL"),
    (0xfd67, "24SHEEN WITH HAH,71INITIAL,41JEEM WITH YEH FINAL,42MEEM WITH KHAH"),
    (0xfd6b, "71INITIAL,61MEEM FINAL,71INITIAL,21DAD WITH HAH WITH ALEF MAKSURA FINAL"),
    (0xfd6f, "42KHAH WITH MEEM,71INITIAL,21TAH WITH MEEM WITH HAH FINAL,71INITIAL"),
    (0xfd73, "62MEEM,61YEH FINAL,22AIN WITH JEEM WITH MEEM,44MEEM,71INITIAL"),
    (0xfd78, "61ALEF MAKSURA FINAL,22GHAIN WITH MEEM WITH MEEM,62YEH,62ALEF MAKSURA"),
    (0xfd7c, "22FEH WITH KHAH WITH MEEM,71INITIAL,21QAF WITH MEEM WITH HAH FINAL"),
    (0xfd7f, "62MEEM,24LAM WITH HAH,62YEH,62ALEF MAKSURA,41JEEM WITH JEEM INITIAL"),
    (0xfd84, "71FINAL,42KHAH WITH MEEM,71INITIAL,41MEEM WITH HAH FINAL,71INITIAL"),
    (0xfd89, "22MEEM WITH HAH WITH JEEM,62MEEM,61YEH FINAL,41JEEM WITH HAH INITIAL"),
    (0xfd8d, "62MEEM,42KHAH WITH JEEM,62MEEM"),
    (0xfd92, "42JEEM WITH KHAH,22HEH WITH MEEM WITH JEEM,62MEEM,24NOON WITH HAH"),
    (0xfd96, "61ALEF MAKSURA FINAL,42JEEM WITH MEEM,71INITIAL,61ALEF MAKSURA FINAL"),
    (0xfd9a, "42MEEM WITH YEH,62ALEF MAKSURA,22YEH WITH MEEM WITH MEEM,71INITIAL"),
    (0xfd9e, "21BEH WITH KHAH WITH YEH FINAL,24TEH WITH JEEM,62ALEF MAKSURA"),
    (0xfda1, "42KHAH WITH YEH,62ALEF MAKSURA,42MEEM WITH YEH,62ALEF MAKSURA"),
    (0xfda5, "22JEEM WITH MEEM WITH YEH,42HAH WITH ALEF MAKSURA,45MEEM"),
    (0xfda8, "25SEEN WITH KHAH,22SAD WITH HAH WITH YEH,26SHEEN,26DAD,24LAM WITH JEEM"),
    (0xfdad, "44MEEM,24YEH WITH HAH,44JEEM,44MEEM,26MEEM,26QAF,24NOON WITH HAH"),
    (0xfdb4, "21QAF WITH MEEM WITH HAH INITIAL,22LAM WITH HAH WITH MEEM"),
    (0xfdb6, "21AIN WITH MEEM WITH YEH FINAL,26KAF,21NOON WITH JEEM WITH HAH INITIAL"),
    (0xfdb9, "21MEEM WITH KHAH WITH YEH FINAL,21LAM WITH JEEM WITH MEEM INITIAL"),
    (0xfdbb, "21KAF WITH MEEM WITH MEEM FINAL,24LAM WITH JEEM"),
    (0xfdbd, "22NOON WITH JEEM WITH HAH,22JEEM WITH HAH WITH YEH,24HAH WITH JEEM"),
    (0xfdc0, "26MEEM,24FEH WITH MEEM,24BEH WITH HAH,21KAF WITH MEEM WITH MEEM INITIAL"),
    (0xfdc4, "24AIN WITH JEEM,24SAD WITH MEEM,21SEEN WITH KHAH WITH YEH FINAL"),
    (0xfdc7, "24NOON WITH JEEM"),
    (0xfdcf, "20SALAAMUHU ALAYNAA"),
    (0xfdf0, "20SALLA USED AS KORANIC STOP SIGN ISOLATED FORM,27QALA,22ALLAH,22AKBAR"),
    (0xfdf4, "22MOHAMMAD,22SALAM,22RASOUL,22ALAYHE,22WASALLAM,22SALLA"),
    (0xfdfa, "20SALLALLAHOU ALAYHE WASALLAM,20JALLAJALALOUHOU,00RIAL SIGN"),
    (0xfdfd, "00ARABIC LIGATURE BISMILLAH AR-RAHMAN AR-RAHEEM,20SUBHAANAHU WA TAAALAA"),
    (0xfdff, "20AZZA WA JALL"),
    (0xfe70, "10FATHATAN ISOLATED FORM,10TATWEEL WITH FATHATAN ABOVE"),
    (0xfe72, "10DAMMATAN ISOLATED FORM,10TAIL FRAGMENT,10KASRATAN ISOLATED FORM"),
    (0xfe76, "12FATHA,21MEDIAL,11DAMMA ISOLATED,21MEDIAL,11KASRA ISOLATED,21MEDIAL"),
    (0xfe7c, "11SHADDA ISOLATED,21MEDIAL,11SUKUN ISOLATED,21MEDIAL"),
    (0xfe80, "11LETTER HAMZA ISOLATED,22ALEF WITH MADDA ABOVE,61FINAL"),
    (0xfe83, "41HAMZA ABOVE ISOLATED,61FINAL,21WAW WITH HAMZA ABOVE ISOLATED,61FINAL"),
    (0xfe87, "21ALEF WITH HAMZA BELOW ISOLATED,61FINAL"),
    (0xfe89, "21YEH WITH HAMZA ABOVE ISOLATED,61FINAL,61INITIAL,61MEDIAL"),
    (0xfe8d, "21ALEF ISOLATED,31FINAL,21BEH ISOLATED,31FINAL,31INITIAL,31MEDIAL"),
    (0xfe93, "21TEH MARBUTA ISOLATED,41FINAL,31ISOLATED,31FINAL,31INITIAL,31MEDIAL"),
    (0xfe99, "21THEH ISOLATED,31FINAL,31INITIAL,31MEDIAL,21JEEM ISOLATED,31FINAL"),
    (0xfe9f, "31INITIAL,31MEDIAL,21HAH ISOLATED,31FINAL,31INITIAL,31MEDIAL"),
    (0xfea5, "21KHAH ISOLATED,31FINAL,31INITIAL,31MEDIAL,21DAL ISOLATED,31FINAL"),
    (0xfeab, "21THAL ISOLATED,31FINAL,21REH ISOLATED,31FINAL,21ZAIN ISOLATED,31FINAL"),
    (0xfeb1, "21SEEN ISOLATED,31FINAL,31INITIAL,31MEDIAL,21SHEEN ISOLATED,31FINAL"),
    (0xfeb7, "31INITIAL,31MEDIAL,21SAD ISOLATED,31FINAL,31INITIAL,31MEDIAL"),
    (0xfebd, "21DAD ISOLATED,31FINAL,31INITIAL,31MEDIAL,21TAH ISOLATED,31FINAL"),
    (0xfec3, "31INITIAL,31MEDIAL,21ZAH ISOLATED,31FINAL,31INITIAL,31MEDIAL"),
    (0xfec9, "21AIN ISOLATED,31FINAL,31INITIAL,31MEDIAL,21GHAIN ISOLATED,31FINAL"),
    (0xfecf, "31INITIAL,31MEDIAL,21FEH ISOLATED,31FINAL,31INITIAL,31MEDIAL"),
    (0xfed5, "21QAF ISOLATED,31FINAL,31INITIAL,31MEDIAL,21KAF ISOLATED,31FINAL"),
    (0xfedb, "31INITIAL,31MEDIAL,21LAM ISOLATED,31FINAL,31INITIAL,31MEDIAL"),
    (0xfee1, "21MEEM ISOLATED,31FINAL,31INITIAL,31MEDIAL,21NOON ISOLATED,31FINAL"),
    (0xfee7, "31INITIAL,31MEDIAL,21HEH ISOLATED,31FINAL,31INITIAL,31MEDIAL"),
    (0xfeed, "21WAW ISOLATED,31FINAL,21ALEF MAKSURA ISOLATED,41FINAL,21YEH ISOLATED"),
    (0xfef2, "31FINAL,31INITIAL,31MEDIAL"),
    (0xfef5, "11LIGATURE LAM WITH ALEF WITH MADDA ABOVE ISOLATED,81FINAL"),
    (0xfef7, "61HAMZA ABOVE ISOLATED,81FINAL,71BELOW ISOLATED,81FINAL,51ISOLATED"),
    (0xfefc, "51FINAL")]

end Text
end KindExpr
