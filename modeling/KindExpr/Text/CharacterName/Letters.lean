/-!
# Names of letters

The names of the characters of alphabets and syllabaries.

Each entry is the first code point of a run and the names of the run, packed as
`unpackName` reads them.
-/

namespace KindExpr
namespace Text

/-- The packed names of letters and of the signs that go with them. -/
def letterNames : List (Nat × String) :=
  [
    (0x20, "00SPACE,00EXCLAMATION MARK,01QUOTATION,00NUMBER SIGN,01DOLLAR,01PERCENT"),
    (0x26, "00AMPERSAND,00APOSTROPHE,00LEFT PARENTHESIS,01RIGHT,00ASTERISK"),
    (0x2b, "00PLUS SIGN,00COMMA,00HYPHEN-MINUS,00FULL STOP,00SOLIDUS,00DIGIT ZERO"),
    (0x31, "10ONE,10TWO,10THREE,10FOUR,10FIVE,10SIX,10SEVEN,10EIGHT,10NINE,00COLON"),
    (0x3b, "00SEMICOLON,00LESS-THAN SIGN,01EQUALS,01GREATER-THAN,00QUESTION MARK"),
    (0x40, "00COMMERCIAL AT,00LATIN CAPITAL LETTER A,30B,30C,30D,30E,30F,30G,30H,30I"),
    (0x4a, "30J,30K,30L,30M,30N,30O,30P,30Q,30R,30S,30T,30U,30V,30W,30X,30Y,30Z"),
    (0x5b, "00LEFT SQUARE BRACKET,00REVERSE SOLIDUS,00RIGHT SQUARE BRACKET"),
    (0x5e, "00CIRCUMFLEX ACCENT,00LOW LINE,00GRAVE ACCENT,00LATIN SMALL LETTER A,30B"),
    (0x63, "30C,30D,30E,30F,30G,30H,30I,30J,30K,30L,30M,30N,30O,30P,30Q,30R,30S,30T"),
    (0x75, "30U,30V,30W,30X,30Y,30Z,00LEFT CURLY BRACKET,00VERTICAL LINE"),
    (0x7d, "00RIGHT CURLY BRACKET,00TILDE"),
    (0xa0, "00NO-BREAK SPACE,00INVERTED EXCLAMATION MARK,00CENT SIGN,01POUND"),
    (0xa4, "01CURRENCY,01YEN,00BROKEN BAR,00SECTION SIGN,00DIAERESIS,00COPYRIGHT SIGN"),
    (0xaa, "00FEMININE ORDINAL INDICATOR,00LEFT-POINTING DOUBLE ANGLE QUOTATION MARK"),
    (0xac, "00NOT SIGN,00SOFT HYPHEN,00REGISTERED SIGN,00MACRON,00DEGREE SIGN"),
    (0xb1, "01PLUS-MINUS,00SUPERSCRIPT TWO,10THREE,00ACUTE ACCENT,00MICRO SIGN"),
    (0xb6, "01PILCROW,00MIDDLE DOT,00CEDILLA,00SUPERSCRIPT ONE"),
    (0xba, "00MASCULINE ORDINAL INDICATOR"),
    (0xbb, "00RIGHT-POINTING DOUBLE ANGLE QUOTATION MARK"),
    (0xbc, "00VULGAR FRACTION ONE QUARTER,30HALF,20THREE QUARTERS"),
    (0xbf, "00INVERTED QUESTION MARK,00LATIN CAPITAL LETTER A WITH GRAVE,50ACUTE"),
    (0xc2, "50CIRCUMFLEX,50TILDE,50DIAERESIS,50RING ABOVE,30AE,30C WITH CEDILLA"),
    (0xc8, "30E WITH GRAVE,50ACUTE,50CIRCUMFLEX,50DIAERESIS,30I WITH GRAVE,50ACUTE"),
    (0xce, "50CIRCUMFLEX,50DIAERESIS,30ETH,30N WITH TILDE,30O WITH GRAVE,50ACUTE"),
    (0xd4, "50CIRCUMFLEX,50TILDE,50DIAERESIS,00MULTIPLICATION SIGN"),
    (0xd8, "00LATIN CAPITAL LETTER O WITH STROKE,30U WITH GRAVE,50ACUTE,50CIRCUMFLEX"),
    (0xdc, "50DIAERESIS,30Y WITH ACUTE,30THORN,10SMALL LETTER SHARP S,30A WITH GRAVE"),
    (0xe1, "50ACUTE,50CIRCUMFLEX,50TILDE,50DIAERESIS,50RING ABOVE,30AE"),
    (0xe7, "30C WITH CEDILLA,30E WITH GRAVE,50ACUTE,50CIRCUMFLEX,50DIAERESIS"),
    (0xec, "30I WITH GRAVE,50ACUTE,50CIRCUMFLEX,50DIAERESIS,30ETH,30N WITH TILDE"),
    (0xf2, "30O WITH GRAVE,50ACUTE,50CIRCUMFLEX,50TILDE,50DIAERESIS,00DIVISION SIGN"),
    (0xf8, "00LATIN SMALL LETTER O WITH STROKE,30U WITH GRAVE,50ACUTE,50CIRCUMFLEX"),
    (0xfc, "50DIAERESIS,30Y WITH ACUTE,30THORN,30Y WITH DIAERESIS"),
    (0x100, "10CAPITAL LETTER A WITH MACRON,14SMALL,10CAPITAL LETTER A WITH BREVE"),
    (0x103, "14SMALL,10CAPITAL LETTER A WITH OGONEK,14SMALL"),
    (0x106, "10CAPITAL LETTER C WITH ACUTE,14SMALL,10CAPITAL LETTER C WITH CIRCUMFLEX"),
    (0x109, "14SMALL,10CAPITAL LETTER C WITH DOT ABOVE,15SMALL"),
    (0x10c, "10CAPITAL LETTER C WITH CARON,14SMALL,12CAPITAL LETTER D,14SMALL"),
    (0x110, "10CAPITAL LETTER D WITH STROKE,14SMALL,10CAPITAL LETTER E WITH MACRON"),
    (0x113, "14SMALL,10CAPITAL LETTER E WITH BREVE,14SMALL"),
    (0x116, "10CAPITAL LETTER E WITH DOT ABOVE,15SMALL,10CAPITAL LETTER E WITH OGONEK"),
    (0x119, "14SMALL,10CAPITAL LETTER E WITH CARON,14SMALL"),
    (0x11c, "10CAPITAL LETTER G WITH CIRCUMFLEX,14SMALL,10CAPITAL LETTER G WITH BREVE"),
    (0x11f, "14SMALL,10CAPITAL LETTER G WITH DOT ABOVE,15SMALL"),
    (0x122, "10CAPITAL LETTER G WITH CEDILLA,14SMALL"),
    (0x124, "10CAPITAL LETTER H WITH CIRCUMFLEX,14SMALL"),
    (0x126, "10CAPITAL LETTER H WITH STROKE,14SMALL,10CAPITAL LETTER I WITH TILDE"),
    (0x129, "14SMALL,10CAPITAL LETTER I WITH MACRON,14SMALL"),
    (0x12c, "10CAPITAL LETTER I WITH BREVE,14SMALL,10CAPITAL LETTER I WITH OGONEK"),
    (0x12f, "14SMALL,10CAPITAL LETTER I WITH DOT ABOVE,10SMALL LETTER DOTLESS I"),
    (0x132, "10CAPITAL LIGATURE IJ,12SMALL,10CAPITAL LETTER J WITH CIRCUMFLEX,14SMALL"),
    (0x136, "10CAPITAL LETTER K WITH CEDILLA,14SMALL,30KRA"),
    (0x139, "10CAPITAL LETTER L WITH ACUTE,14SMALL,10CAPITAL LETTER L WITH CEDILLA"),
    (0x13c, "14SMALL,10CAPITAL LETTER L WITH CARON,14SMALL"),
    (0x13f, "10CAPITAL LETTER L WITH MIDDLE DOT,15SMALL"),
    (0x141, "10CAPITAL LETTER L WITH STROKE,14SMALL,10CAPITAL LETTER N WITH ACUTE"),
    (0x144, "14SMALL,10CAPITAL LETTER N WITH CEDILLA,14SMALL"),
    (0x147, "10CAPITAL LETTER N WITH CARON,14SMALL,40PRECEDED BY APOSTROPHE"),
    (0x14a, "10CAPITAL LETTER ENG,12SMALL,10CAPITAL LETTER O WITH MACRON,14SMALL"),
    (0x14e, "10CAPITAL LETTER O WITH BREVE,14SMALL"),
    (0x150, "10CAPITAL LETTER O WITH DOUBLE ACUTE,15SMALL,10CAPITAL LIGATURE OE"),
    (0x153, "12SMALL,10CAPITAL LETTER R WITH ACUTE,14SMALL"),
    (0x156, "10CAPITAL LETTER R WITH CEDILLA,14SMALL,10CAPITAL LETTER R WITH CARON"),
    (0x159, "14SMALL,10CAPITAL LETTER S WITH ACUTE,14SMALL"),
    (0x15c, "10CAPITAL LETTER S WITH CIRCUMFLEX,14SMALL"),
    (0x15e, "10CAPITAL LETTER S WITH CEDILLA,14SMALL,10CAPITAL LETTER S WITH CARON"),
    (0x161, "14SMALL,10CAPITAL LETTER T WITH CEDILLA,14SMALL"),
    (0x164, "10CAPITAL LETTER T WITH CARON,14SMALL,10CAPITAL LETTER T WITH STROKE"),
    (0x167, "14SMALL,10CAPITAL LETTER U WITH TILDE,14SMALL"),
    (0x16a, "10CAPITAL LETTER U WITH MACRON,14SMALL,10CAPITAL LETTER U WITH BREVE"),
    (0x16d, "14SMALL,10CAPITAL LETTER U WITH RING ABOVE,15SMALL"),
    (0x170, "10CAPITAL LETTER U WITH DOUBLE ACUTE,15SMALL"),
    (0x172, "10CAPITAL LETTER U WITH OGONEK,14SMALL"),
    (0x174, "10CAPITAL LETTER W WITH CIRCUMFLEX,14SMALL,12CAPITAL LETTER Y,14SMALL"),
    (0x178, "10CAPITAL LETTER Y WITH DIAERESIS,30Z WITH ACUTE,14SMALL"),
    (0x17b, "10CAPITAL LETTER Z WITH DOT ABOVE,15SMALL,10CAPITAL LETTER Z WITH CARON"),
    (0x17e, "14SMALL,30LONG S,30B WITH STROKE,10CAPITAL LETTER B WITH HOOK,50TOPBAR"),
    (0x183, "14SMALL,10CAPITAL LETTER TONE SIX,13SMALL,10CAPITAL LETTER OPEN O"),
    (0x187, "30C WITH HOOK,14SMALL,10CAPITAL LETTER AFRICAN D,30D WITH HOOK,50TOPBAR"),
    (0x18c, "14SMALL,30TURNED DELTA,10CAPITAL LETTER REVERSED E,30SCHWA,30OPEN E"),
    (0x191, "30F WITH HOOK,14SMALL,12CAPITAL LETTER G,30GAMMA,10SMALL LETTER HV"),
    (0x196, "10CAPITAL LETTER IOTA,30I WITH STROKE,30K WITH HOOK,14SMALL,30L WITH BAR"),
    (0x19b, "30LAMBDA WITH STROKE,10CAPITAL LETTER TURNED M,30N WITH LEFT HOOK"),
    (0x19e, "10SMALL LETTER N WITH LONG RIGHT LEG"),
    (0x19f, "10CAPITAL LETTER O WITH MIDDLE TILDE,50HORN,14SMALL,10CAPITAL LETTER OI"),
    (0x1a3, "12SMALL,10CAPITAL LETTER P WITH HOOK,14SMALL,10LETTER YR"),
    (0x1a7, "10CAPITAL LETTER TONE TWO,13SMALL,10CAPITAL LETTER ESH"),
    (0x1aa, "10LETTER REVERSED ESH LOOP,10SMALL LETTER T WITH PALATAL HOOK"),
    (0x1ac, "11CAPITAL LETTER T WITH,14SMALL,11CAPITAL LETTER T WITH RETROFLEX"),
    (0x1af, "30U WITH HORN,14SMALL,10CAPITAL LETTER UPSILON,30V WITH HOOK,32Y,14SMALL"),
    (0x1b5, "10CAPITAL LETTER Z WITH STROKE,14SMALL,10CAPITAL LETTER EZH,40REVERSED"),
    (0x1b9, "13SMALL,40WITH TAIL,10LETTER TWO WITH STROKE,10CAPITAL LETTER TONE FIVE"),
    (0x1bd, "13SMALL,10LETTER INVERTED GLOTTAL STOP WITH STROKE,20WYNN,20DENTAL CLICK"),
    (0x1c1, "21LATERAL,21ALVEOLAR,21RETROFLEX,10CAPITAL LETTER DZ WITH CARON"),
    (0x1c5, "32D WITH SMALL LETTER Z,12SMALL LETTER DZ,10CAPITAL LETTER LJ"),
    (0x1c8, "30L WITH SMALL LETTER J,10SMALL LETTER LJ,10CAPITAL LETTER NJ"),
    (0x1cb, "30N WITH SMALL LETTER J,10SMALL LETTER NJ,10CAPITAL LETTER A WITH CARON"),
    (0x1ce, "14SMALL,12CAPITAL LETTER I,14SMALL,12CAPITAL LETTER O,14SMALL"),
    (0x1d3, "12CAPITAL LETTER U,14SMALL,10CAPITAL LETTER U WITH DIAERESIS AND MACRON"),
    (0x1d6, "16SMALL,10CAPITAL LETTER U WITH DIAERESIS AND ACUTE,16SMALL"),
    (0x1d9, "10CAPITAL LETTER U WITH DIAERESIS AND CARON,16SMALL"),
    (0x1db, "10CAPITAL LETTER U WITH DIAERESIS AND GRAVE,16SMALL,30TURNED E"),
    (0x1de, "10CAPITAL LETTER A WITH DIAERESIS AND MACRON,16SMALL"),
    (0x1e0, "12CAPITAL LETTER A WITH DOT ABOVE,17SMALL,11CAPITAL LETTER AE WITH"),
    (0x1e3, "14SMALL,10CAPITAL LETTER G WITH STROKE,14SMALL"),
    (0x1e6, "10CAPITAL LETTER G WITH CARON,14SMALL,12CAPITAL LETTER K,14SMALL"),
    (0x1ea, "10CAPITAL LETTER O WITH OGONEK,14SMALL"),
    (0x1ec, "10CAPITAL LETTER O WITH OGONEK AND MACRON,16SMALL"),
    (0x1ee, "10CAPITAL LETTER EZH WITH CARON,14SMALL,32J,10CAPITAL LETTER DZ"),
    (0x1f2, "30D WITH SMALL LETTER Z,10SMALL LETTER DZ,10CAPITAL LETTER G WITH ACUTE"),
    (0x1f5, "14SMALL,10CAPITAL LETTER HWAIR,30WYNN,30N WITH GRAVE,14SMALL"),
    (0x1fa, "10CAPITAL LETTER A WITH RING ABOVE AND ACUTE,17SMALL"),
    (0x1fc, "11CAPITAL LETTER AE WITH,14SMALL,11CAPITAL LETTER O WITH STROKE AND"),
    (0x1ff, "16SMALL,10CAPITAL LETTER A WITH DOUBLE GRAVE,15SMALL"),
    (0x202, "10CAPITAL LETTER A WITH INVERTED BREVE,15SMALL"),
    (0x204, "10CAPITAL LETTER E WITH DOUBLE GRAVE,15SMALL"),
    (0x206, "10CAPITAL LETTER E WITH INVERTED BREVE,15SMALL"),
    (0x208, "10CAPITAL LETTER I WITH DOUBLE GRAVE,15SMALL"),
    (0x20a, "10CAPITAL LETTER I WITH INVERTED BREVE,15SMALL"),
    (0x20c, "10CAPITAL LETTER O WITH DOUBLE GRAVE,15SMALL"),
    (0x20e, "10CAPITAL LETTER O WITH INVERTED BREVE,15SMALL"),
    (0x210, "10CAPITAL LETTER R WITH DOUBLE GRAVE,15SMALL"),
    (0x212, "10CAPITAL LETTER R WITH INVERTED BREVE,15SMALL"),
    (0x214, "10CAPITAL LETTER U WITH DOUBLE GRAVE,15SMALL"),
    (0x216, "10CAPITAL LETTER U WITH INVERTED BREVE,15SMALL"),
    (0x218, "10CAPITAL LETTER S WITH COMMA BELOW,15SMALL,13CAPITAL LETTER T,15SMALL"),
    (0x21c, "10CAPITAL LETTER YOGH,12SMALL,10CAPITAL LETTER H WITH CARON,14SMALL"),
    (0x220, "10CAPITAL LETTER N WITH LONG RIGHT LEG,10SMALL LETTER D WITH CURL"),
    (0x222, "10CAPITAL LETTER OU,12SMALL,10CAPITAL LETTER Z WITH HOOK,14SMALL"),
    (0x226, "10CAPITAL LETTER A WITH DOT ABOVE,15SMALL"),
    (0x228, "10CAPITAL LETTER E WITH CEDILLA,14SMALL"),
    (0x22a, "10CAPITAL LETTER O WITH DIAERESIS AND MACRON,16SMALL"),
    (0x22c, "12CAPITAL LETTER O WITH TILDE,16SMALL,10CAPITAL LETTER O WITH DOT ABOVE"),
    (0x22f, "15SMALL,10CAPITAL LETTER O WITH DOT ABOVE AND MACRON,17SMALL"),
    (0x232, "11CAPITAL LETTER Y WITH,14SMALL,30L WITH CURL,32N,32T,30DOTLESS J"),
    (0x238, "30DB DIGRAPH,31QP,10CAPITAL LETTER A WITH STROKE,32C,14SMALL"),
    (0x23d, "10CAPITAL LETTER L WITH BAR,30T WITH DIAGONAL STROKE"),
    (0x23f, "10SMALL LETTER S WITH SWASH TAIL,33Z,10CAPITAL LETTER GLOTTAL STOP"),
    (0x242, "13SMALL,10CAPITAL LETTER B WITH STROKE,30U BAR,30TURNED V"),
    (0x246, "30E WITH STROKE,14SMALL,12CAPITAL LETTER J,14SMALL"),
    (0x24a, "10CAPITAL LETTER SMALL Q WITH HOOK TAIL,14SMALL LETTER"),
    (0x24c, "10CAPITAL LETTER R WITH STROKE,14SMALL,12CAPITAL LETTER Y,14SMALL"),
    (0x250, "30TURNED A,30ALPHA,31TURNED,30B WITH HOOK,30OPEN O,30C WITH CURL"),
    (0x256, "30D WITH TAIL,50HOOK,30REVERSED E,30SCHWA,40WITH HOOK,30OPEN E"),
    (0x25c, "32REVERSED,60WITH HOOK,30CLOSED REVERSED OPEN E,30DOTLESS J WITH STROKE"),
    (0x260, "30G WITH HOOK,30SCRIPT G,11LETTER SMALL CAPITAL,10SMALL LETTER GAMMA"),
    (0x264, "30RAMS HORN,30TURNED H,30H WITH HOOK,32HENG,30I WITH STROKE,30IOTA"),
    (0x26a, "10LETTER SMALL CAPITAL I,10SMALL LETTER L WITH MIDDLE TILDE,50BELT"),
    (0x26d, "50RETROFLEX HOOK,30LEZH,30TURNED M,50WITH LONG LEG,30M WITH HOOK"),
    (0x272, "31N WITH LEFT,51RETROFLEX,10LETTER SMALL CAPITAL N"),
    (0x275, "10SMALL LETTER BARRED O,10LETTER SMALL CAPITAL OE"),
    (0x277, "10SMALL LETTER CLOSED OMEGA,30PHI,30TURNED R,50WITH LONG LEG,60HOOK"),
    (0x27c, "30R WITH LONG LEG,50TAIL,50FISHHOOK,33REVERSED,10LETTER SMALL CAPITAL R"),
    (0x281, "41INVERTED,10SMALL LETTER S WITH HOOK,30ESH"),
    (0x284, "30DOTLESS J WITH STROKE AND HOOK,30SQUAT REVERSED ESH,30ESH WITH CURL"),
    (0x287, "30TURNED T,30T WITH RETROFLEX HOOK,30U BAR,30UPSILON,30V WITH HOOK"),
    (0x28c, "30TURNED V,40W,40Y,11LETTER SMALL CAPITAL"),
    (0x290, "10SMALL LETTER Z WITH RETROFLEX HOOK,50CURL,30EZH,40WITH CURL"),
    (0x294, "10LETTER GLOTTAL STOP,20PHARYNGEAL VOICED FRICATIVE"),
    (0x296, "20INVERTED GLOTTAL STOP,20STRETCHED C,20BILABIAL CLICK,20SMALL CAPITAL B"),
    (0x29a, "10SMALL LETTER CLOSED OPEN E,10LETTER SMALL CAPITAL G WITH HOOK,40H"),
    (0x29d, "10SMALL LETTER J WITH CROSSED-TAIL,30TURNED K,10LETTER SMALL CAPITAL L"),
    (0x2a0, "10SMALL LETTER Q WITH HOOK,10LETTER GLOTTAL STOP WITH STROKE,24REVERSED"),
    (0x2a3, "10SMALL LETTER DZ DIGRAPH,31DEZH,30DZ DIGRAPH WITH CURL,30TS DIGRAPH"),
    (0x2a7, "31TESH,30TC DIGRAPH WITH CURL,30FENG DIGRAPH,31LS,31LZ"),
    (0x2ac, "10LETTER BILABIAL PERCUSSIVE,21BIDENTAL"),
    (0x2ae, "10SMALL LETTER TURNED H WITH FISHHOOK,70AND TAIL"),
    (0x2b0, "00MODIFIER LETTER SMALL H,40WITH HOOK,30J,30R,31TURNED,50WITH HOOK"),
    (0x2b6, "30CAPITAL INVERTED R,30W,30Y,20PRIME,21DOUBLE,20TURNED COMMA"),
    (0x2bc, "20APOSTROPHE,20REVERSED COMMA,20RIGHT HALF RING,22LEFT,20GLOTTAL STOP"),
    (0x2c1, "22REVERSED,20LEFT ARROWHEAD,21RIGHT,21UP,21DOWN,20CIRCUMFLEX ACCENT"),
    (0x2c7, "00CARON,00MODIFIER LETTER VERTICAL LINE,20MACRON,20ACUTE ACCENT,21GRAVE"),
    (0x2cc, "20LOW VERTICAL LINE,30MACRON,30GRAVE ACCENT,31ACUTE,20TRIANGULAR COLON"),
    (0x2d1, "22HALF,20CENTRED RIGHT HALF RING,32LEFT,20UP TACK,21DOWN,20PLUS SIGN"),
    (0x2d7, "21MINUS,00BREVE,00DOT ABOVE,01RING,00OGONEK,00SMALL TILDE"),
    (0x2dd, "00DOUBLE ACUTE ACCENT,00MODIFIER LETTER RHOTIC HOOK,20CROSS ACCENT"),
    (0x2e0, "20SMALL GAMMA,30L,30S,30X,30REVERSED GLOTTAL STOP,20EXTRA-HIGH TONE BAR"),
    (0x2e6, "22HIGH,22MID,22LOW,22EXTRA-LOW,20YIN DEPARTING TONE MARK,23YANG"),
    (0x2ec, "20VOICING,20UNASPIRATED,20DOUBLE APOSTROPHE,20LOW DOWN ARROWHEAD,31UP"),
    (0x2f1, "31LEFT,31RIGHT,30RING,20MIDDLE GRAVE ACCENT,32DOUBLE,41ACUTE,20LOW TILDE"),
    (0x2f8, "20RAISED COLON,20BEGIN HIGH TONE,22END,21BEGIN LOW,22END,20SHELF,21OPEN"),
    (0x2ff, "20LOW LEFT ARROW,00COMBINING GRAVE ACCENT,11ACUTE,11CIRCUMFLEX,10TILDE"),
    (0x304, "10MACRON,10OVERLINE,10BREVE,10DOT ABOVE,10DIAERESIS,10HOOK ABOVE,11RING"),
    (0x30b, "10DOUBLE ACUTE ACCENT,10CARON,10VERTICAL LINE ABOVE,13DOUBLE"),
    (0x30f, "20GRAVE ACCENT,10CANDRABINDU,10INVERTED BREVE,10TURNED COMMA ABOVE,12"),
    (0x314, "12REVERSED,10COMMA ABOVE RIGHT,10GRAVE ACCENT BELOW,12ACUTE,11LEFT TACK"),
    (0x319, "12RIGHT,10LEFT ANGLE ABOVE,10HORN,10LEFT HALF RING BELOW,11UP TACK"),
    (0x31e, "12DOWN,11PLUS SIGN,12MINUS,11PALATALIZED HOOK,12RETROFLEX,11DOT"),
    (0x324, "11DIAERESIS,11RING,11COMMA,10CEDILLA,10OGONEK,10VERTICAL LINE BELOW"),
    (0x32a, "11BRIDGE,11INVERTED DOUBLE ARCH,11CARON,11CIRCUMFLEX ACCENT,11BREVE"),
    (0x32f, "12INVERTED,11TILDE,11MACRON,10LOW LINE,12DOUBLE,10TILDE OVERLAY"),
    (0x335, "11SHORT STROKE,12LONG,11SHORT SOLIDUS,12LONG,10RIGHT HALF RING BELOW"),
    (0x33a, "11INVERTED BRIDGE,11SQUARE,11SEAGULL,10X ABOVE,10VERTICAL TILDE"),
    (0x33f, "10DOUBLE OVERLINE,10GRAVE TONE MARK,12ACUTE,10GREEK PERISPOMENI"),
    (0x343, "20KORONIS,20DIALYTIKA TONOS,20YPOGEGRAMMENI,10BRIDGE ABOVE"),
    (0x347, "10EQUALS SIGN BELOW,11DOUBLE VERTICAL LINE,11LEFT ANGLE"),
    (0x34a, "10NOT TILDE ABOVE,11HOMOTHETIC,11ALMOST EQUAL TO"),
    (0x34d, "10LEFT RIGHT ARROW BELOW,12UPWARDS,10GRAPHEME JOINER"),
    (0x350, "10RIGHT ARROWHEAD ABOVE,11LEFT HALF RING,10FERMATA,10X BELOW"),
    (0x354, "11LEFT ARROWHEAD,12RIGHT,32AND UP,20HALF RING ABOVE,10DOT ABOVE RIGHT"),
    (0x359, "10ASTERISK BELOW,11DOUBLE RING,10ZIGZAG ABOVE,10DOUBLE BREVE BELOW,30"),
    (0x35e, "20MACRON,30BELOW,20TILDE,20INVERTED BREVE,20RIGHTWARDS ARROW BELOW"),
    (0x363, "10LATIN SMALL LETTER A,40E,40I,40O,40U,40C,40D,40H,40M,40R,40T,40V,40X"),
    (0x370, "00GREEK CAPITAL LETTER HETA,12SMALL,10CAPITAL LETTER ARCHAIC SAMPI"),
    (0x373, "13SMALL,10NUMERAL SIGN,12LOWER,10CAPITAL LETTER PAMPHYLIAN DIGAMMA"),
    (0x377, "13SMALL"),
    (0x37a, "10YPOGEGRAMMENI,10SMALL REVERSED LUNATE SIGMA SYMBOL,23DOTTED,24REVERSED"),
    (0x37e, "10QUESTION MARK,10CAPITAL LETTER YOT"),
    (0x384, "10TONOS,11DIALYTIKA,11CAPITAL LETTER ALPHA WITH,10ANO TELEIA"),
    (0x388, "10CAPITAL LETTER EPSILON WITH TONOS,32ETA,32IOTA"),
    (0x38c, "32OMICRON"),
    (0x38e, "32UPSILON,32OMEGA,11SMALL LETTER IOTA WITH DIALYTIKA AND"),
    (0x391, "10CAPITAL LETTER ALPHA,30BETA,30GAMMA,30DELTA,30EPSILON,30ZETA,30ETA"),
    (0x398, "30THETA,30IOTA,30KAPPA,30LAMDA,30MU,30NU,30XI,30OMICRON,30PI,30RHO"),
    (0x3a3, "30SIGMA,30TAU,30UPSILON,30PHI,30CHI,30PSI,30OMEGA,30IOTA WITH DIALYTIKA"),
    (0x3ab, "32UPSILON,10SMALL LETTER ALPHA WITH TONOS,32EPSILON,32ETA,32IOTA"),
    (0x3b0, "31UPSILON WITH DIALYTIKA AND,30ALPHA,30BETA,30GAMMA,30DELTA,30EPSILON"),
    (0x3b6, "30ZETA,30ETA,30THETA,30IOTA,30KAPPA,30LAMDA,30MU,30NU,30XI,30OMICRON"),
    (0x3c0, "30PI,30RHO,30FINAL SIGMA,31,30TAU,30UPSILON,30PHI,30CHI,30PSI,30OMEGA"),
    (0x3ca, "30IOTA WITH DIALYTIKA,32UPSILON,30OMICRON WITH TONOS,32UPSILON,32OMEGA"),
    (0x3cf, "10CAPITAL KAI SYMBOL,11BETA,11THETA,11UPSILON WITH HOOK,32ACUTE AND"),
    (0x3d4, "33DIAERESIS,11PHI,11PI,11KAI,10LETTER ARCHAIC KOPPA,13SMALL"),
    (0x3da, "10LETTER STIGMA,12SMALL,10LETTER DIGAMMA,12SMALL,10LETTER KOPPA,12SMALL"),
    (0x3e0, "10LETTER SAMPI,12SMALL,00COPTIC CAPITAL LETTER SHEI,12SMALL"),
    (0x3e4, "10CAPITAL LETTER FEI,12SMALL,10CAPITAL LETTER KHEI,12SMALL"),
    (0x3e8, "10CAPITAL LETTER HORI,12SMALL,10CAPITAL LETTER GANGIA,12SMALL"),
    (0x3ec, "10CAPITAL LETTER SHIMA,12SMALL,10CAPITAL LETTER DEI,12SMALL"),
    (0x3f0, "00GREEK KAPPA SYMBOL,11RHO,11LUNATE SIGMA,10LETTER YOT"),
    (0x3f4, "10CAPITAL THETA SYMBOL,11LUNATE EPSILON,13REVERSED,10CAPITAL LETTER SHO"),
    (0x3f8, "12SMALL,10CAPITAL LUNATE SIGMA SYMBOL,20LETTER SAN,12SMALL"),
    (0x3fc, "10RHO WITH STROKE SYMBOL,11CAPITAL REVERSED LUNATE SIGMA,23DOTTED"),
    (0x3ff, "24REVERSED,00CYRILLIC CAPITAL LETTER IE WITH GRAVE,30IO,30DJE,30GJE"),
    (0x404, "30UKRAINIAN IE,30DZE,30BYELORUSSIAN-UKRAINIAN I,30YI,30JE,30LJE,30NJE"),
    (0x40b, "30TSHE,30KJE,30I WITH GRAVE,30SHORT U,30DZHE,30A,30BE,30VE,30GHE,30DE"),
    (0x415, "30IE,30ZHE,30ZE,30I,31SHORT,30KA,30EL,30EM,30EN,30O,30PE,30ER,30ES,30TE"),
    (0x423, "30U,30EF,30HA,30TSE,30CHE,30SHA,30SHCHA,30HARD SIGN,30YERU,30SOFT SIGN"),
    (0x42d, "30E,30YU,30YA,10SMALL LETTER A,30BE,30VE,30GHE,30DE,30IE,30ZHE,30ZE,30I"),
    (0x439, "31SHORT,30KA,30EL,30EM,30EN,30O,30PE,30ER,30ES,30TE,30U,30EF,30HA,30TSE"),
    (0x447, "30CHE,30SHA,30SHCHA,30HARD SIGN,30YERU,30SOFT SIGN,30E,30YU,30YA"),
    (0x450, "30IE WITH GRAVE,30IO,30DJE,30GJE,30UKRAINIAN IE,30DZE"),
    (0x456, "30BYELORUSSIAN-UKRAINIAN I,30YI,30JE,30LJE,30NJE,30TSHE,30KJE"),
    (0x45d, "30I WITH GRAVE,30SHORT U,30DZHE,10CAPITAL LETTER OMEGA,12SMALL"),
    (0x462, "10CAPITAL LETTER YAT,12SMALL,10CAPITAL LETTER IOTIFIED E,13SMALL"),
    (0x466, "10CAPITAL LETTER LITTLE YUS,13SMALL,12CAPITAL LETTER IOTIFIED,14SMALL"),
    (0x46a, "11CAPITAL LETTER BIG,13SMALL,12CAPITAL LETTER IOTIFIED,14SMALL"),
    (0x46e, "10CAPITAL LETTER KSI,12SMALL,10CAPITAL LETTER PSI,12SMALL"),
    (0x472, "10CAPITAL LETTER FITA,12SMALL,10CAPITAL LETTER IZHITSA,12SMALL"),
    (0x476, "10CAPITAL LETTER IZHITSA WITH DOUBLE GRAVE ACCENT,16SMALL"),
    (0x478, "10CAPITAL LETTER UK,12SMALL,10CAPITAL LETTER ROUND OMEGA,13SMALL"),
    (0x47c, "10CAPITAL LETTER OMEGA WITH TITLO,14SMALL,10CAPITAL LETTER OT,12SMALL"),
    (0x480, "10CAPITAL LETTER KOPPA,12SMALL,10THOUSANDS SIGN"),
    (0x483, "00COMBINING CYRILLIC TITLO,20PALATALIZATION,20DASIA PNEUMATA,21PSILI"),
    (0x487, "20POKRYTIE,20HUNDRED THOUSANDS SIGN,21MILLIONS"),
    (0x48a, "00CYRILLIC CAPITAL LETTER SHORT I WITH TAIL,15SMALL"),
    (0x48c, "10CAPITAL LETTER SEMISOFT SIGN,13SMALL,10CAPITAL LETTER ER WITH TICK"),
    (0x48f, "14SMALL,10CAPITAL LETTER GHE WITH UPTURN,14SMALL"),
    (0x492, "10CAPITAL LETTER GHE WITH STROKE,14SMALL"),
    (0x494, "10CAPITAL LETTER GHE WITH MIDDLE HOOK,15SMALL"),
    (0x496, "10CAPITAL LETTER ZHE WITH DESCENDER,14SMALL,12CAPITAL LETTER ZE,14SMALL"),
    (0x49a, "12CAPITAL LETTER KA,14SMALL,10CAPITAL LETTER KA WITH VERTICAL STROKE"),
    (0x49d, "15SMALL,11CAPITAL LETTER KA WITH,14SMALL,10CAPITAL LETTER BASHKIR KA"),
    (0x4a1, "13SMALL,10CAPITAL LETTER EN WITH DESCENDER,14SMALL"),
    (0x4a4, "10CAPITAL LIGATURE EN GHE,13SMALL,10CAPITAL LETTER PE WITH MIDDLE HOOK"),
    (0x4a7, "15SMALL,10CAPITAL LETTER ABKHASIAN HA,13SMALL"),
    (0x4aa, "10CAPITAL LETTER ES WITH DESCENDER,14SMALL,12CAPITAL LETTER TE,14SMALL"),
    (0x4ae, "10CAPITAL LETTER STRAIGHT U,13SMALL"),
    (0x4b0, "10CAPITAL LETTER STRAIGHT U WITH STROKE,15SMALL"),
    (0x4b2, "10CAPITAL LETTER HA WITH DESCENDER,14SMALL,10CAPITAL LIGATURE TE TSE"),
    (0x4b5, "13SMALL,10CAPITAL LETTER CHE WITH DESCENDER,14SMALL"),
    (0x4b8, "10CAPITAL LETTER CHE WITH VERTICAL STROKE,15SMALL,10CAPITAL LETTER SHHA"),
    (0x4bb, "12SMALL,10CAPITAL LETTER ABKHASIAN CHE,13SMALL"),
    (0x4be, "10CAPITAL LETTER ABKHASIAN CHE WITH DESCENDER,15SMALL,10LETTER PALOCHKA"),
    (0x4c1, "10CAPITAL LETTER ZHE WITH BREVE,14SMALL,10CAPITAL LETTER KA WITH HOOK"),
    (0x4c4, "14SMALL,10CAPITAL LETTER EL WITH TAIL,14SMALL"),
    (0x4c7, "10CAPITAL LETTER EN WITH HOOK,14SMALL,10CAPITAL LETTER EN WITH TAIL"),
    (0x4ca, "14SMALL,10CAPITAL LETTER KHAKASSIAN CHE,13SMALL"),
    (0x4cd, "10CAPITAL LETTER EM WITH TAIL,14SMALL,30PALOCHKA"),
    (0x4d0, "10CAPITAL LETTER A WITH BREVE,14SMALL,10CAPITAL LETTER A WITH DIAERESIS"),
    (0x4d3, "14SMALL,10CAPITAL LIGATURE A IE,13SMALL,10CAPITAL LETTER IE WITH BREVE"),
    (0x4d7, "14SMALL,10CAPITAL LETTER SCHWA,12SMALL"),
    (0x4da, "10CAPITAL LETTER SCHWA WITH DIAERESIS,14SMALL,12CAPITAL LETTER ZHE"),
    (0x4dd, "14SMALL,12CAPITAL LETTER ZE,14SMALL,10CAPITAL LETTER ABKHASIAN DZE"),
    (0x4e1, "13SMALL,10CAPITAL LETTER I WITH MACRON,14SMALL"),
    (0x4e4, "10CAPITAL LETTER I WITH DIAERESIS,14SMALL,12CAPITAL LETTER O,14SMALL"),
    (0x4e8, "10CAPITAL LETTER BARRED O,13SMALL"),
    (0x4ea, "10CAPITAL LETTER BARRED O WITH DIAERESIS,15SMALL,12CAPITAL LETTER E"),
    (0x4ed, "14SMALL,10CAPITAL LETTER U WITH MACRON,14SMALL"),
    (0x4f0, "10CAPITAL LETTER U WITH DIAERESIS,14SMALL"),
    (0x4f2, "10CAPITAL LETTER U WITH DOUBLE ACUTE,15SMALL"),
    (0x4f4, "10CAPITAL LETTER CHE WITH DIAERESIS,14SMALL"),
    (0x4f6, "10CAPITAL LETTER GHE WITH DESCENDER,14SMALL"),
    (0x4f8, "10CAPITAL LETTER YERU WITH DIAERESIS,14SMALL"),
    (0x4fa, "10CAPITAL LETTER GHE WITH STROKE AND HOOK,16SMALL"),
    (0x4fc, "11CAPITAL LETTER HA WITH,14SMALL,10CAPITAL LETTER HA WITH STROKE,14SMALL"),
    (0x500, "10CAPITAL LETTER KOMI DE,13SMALL,10CAPITAL LETTER KOMI DJE,13SMALL"),
    (0x504, "10CAPITAL LETTER KOMI ZJE,13SMALL,10CAPITAL LETTER KOMI DZJE,13SMALL"),
    (0x508, "10CAPITAL LETTER KOMI LJE,13SMALL,10CAPITAL LETTER KOMI NJE,13SMALL"),
    (0x50c, "10CAPITAL LETTER KOMI SJE,13SMALL,10CAPITAL LETTER KOMI TJE,13SMALL"),
    (0x510, "10CAPITAL LETTER REVERSED ZE,13SMALL,10CAPITAL LETTER EL WITH HOOK"),
    (0x513, "14SMALL,10CAPITAL LETTER LHA,12SMALL,10CAPITAL LETTER RHA,12SMALL"),
    (0x518, "10CAPITAL LETTER YAE,12SMALL,10CAPITAL LETTER QA,12SMALL"),
    (0x51c, "10CAPITAL LETTER WE,12SMALL,10CAPITAL LETTER ALEUT KA,13SMALL"),
    (0x520, "10CAPITAL LETTER EL WITH MIDDLE HOOK,15SMALL,13CAPITAL LETTER EN,15SMALL"),
    (0x524, "10CAPITAL LETTER PE WITH DESCENDER,14SMALL,12CAPITAL LETTER SHHA,14SMALL"),
    (0x528, "10CAPITAL LETTER EN WITH LEFT HOOK,15SMALL,10CAPITAL LETTER DZZHE"),
    (0x52b, "12SMALL,10CAPITAL LETTER DCHE,12SMALL,10CAPITAL LETTER EL WITH DESCENDER"),
    (0x52f, "14SMALL"),
    (0x531, "00ARMENIAN CAPITAL LETTER AYB,30BEN,30GIM,30DA,30ECH,30ZA,30EH,30ET,30TO"),
    (0x53a, "30ZHE,30INI,30LIWN,30XEH,30CA,30KEN,30HO,30JA,30GHAD,30CHEH,30MEN,30YI"),
    (0x546, "30NOW,30SHA,30VO,30CHA,30PEH,30JHEH,30RA,30SEH,30VEW,30TIWN,30REH,30CO"),
    (0x552, "30YIWN,30PIWR,30KEH,30OH,30FEH"),
    (0x559, "10MODIFIER LETTER LEFT HALF RING,10APOSTROPHE,10EMPHASIS MARK"),
    (0x55c, "11EXCLAMATION,10COMMA,10QUESTION MARK,11ABBREVIATION"),
    (0x560, "10SMALL LETTER TURNED AYB,31,30BEN,30GIM,30DA,30ECH,30ZA,30EH,30ET,30TO"),
    (0x56a, "30ZHE,30INI,30LIWN,30XEH,30CA,30KEN,30HO,30JA,30GHAD,30CHEH,30MEN,30YI"),
    (0x576, "30NOW,30SHA,30VO,30CHA,30PEH,30JHEH,30RA,30SEH,30VEW,30TIWN,30REH,30CO"),
    (0x582, "30YIWN,30PIWR,30KEH,30OH,30FEH,20LIGATURE ECH YIWN"),
    (0x588, "20LETTER YI WITH STROKE,10FULL STOP,10HYPHEN"),
    (0x58d, "00RIGHT-FACING ARMENIAN ETERNITY SIGN,03LEFT-FACING,01ARMENIAN DRAM"),
    (0x591, "00HEBREW ACCENT ETNAHTA,20SEGOL,20SHALSHELET,20ZAQEF QATAN,30GADOL"),
    (0x596, "20TIPEHA,20REVIA,20ZARQA,20PASHTA,20YETIV,20TEVIR,20GERESH,30MUQDAM"),
    (0x59e, "20GERSHAYIM,20QARNEY PARA,20TELISHA GEDOLA,20PAZER,20ATNAH HAFUKH"),
    (0x5a3, "20MUNAH,20MAHAPAKH,20MERKHA,30KEFULA,20DARGA,20QADMA,20TELISHA QETANA"),
    (0x5aa, "20YERAH BEN YOMO,20OLE,20ILUY,20DEHI,20ZINOR,10MARK MASORA CIRCLE"),
    (0x5b0, "10POINT SHEVA,20HATAF SEGOL,30PATAH,30QAMATS,20HIRIQ,20TSERE,20SEGOL"),
    (0x5b7, "20PATAH,20QAMATS,20HOLAM,30HASER FOR VAV,20QUBUTS,20DAGESH OR MAPIQ"),
    (0x5bd, "20METEG,10PUNCTUATION MAQAF,10POINT RAFE,10PUNCTUATION PASEQ"),
    (0x5c1, "10POINT SHIN DOT,21SIN,10PUNCTUATION SOF PASUQ,10MARK UPPER DOT,21LOWER"),
    (0x5c6, "10PUNCTUATION NUN HAFUKHA,10POINT QAMATS QATAN"),
    (0x5d0, "10LETTER ALEF,20BET,20GIMEL,20DALET,20HE,20VAV,20ZAYIN,20HET,20TET,20YOD"),
    (0x5da, "20FINAL KAF,21,20LAMED,20FINAL MEM,21,20FINAL NUN,21,20SAMEKH,20AYIN"),
    (0x5e3, "20FINAL PE,21,20FINAL TSADI,21,20QOF,20RESH,20SHIN,20TAV"),
    (0x5ef, "10YOD TRIANGLE,10LIGATURE YIDDISH DOUBLE VAV,30VAV YOD,31DOUBLE"),
    (0x5f3, "10PUNCTUATION GERESH,20GERSHAYIM"),
    (0x600, "00ARABIC NUMBER SIGN,10SIGN SANAH,10FOOTNOTE MARKER,10SIGN SAFHA"),
    (0x604, "20SAMVAT,10NUMBER MARK ABOVE,00ARABIC-INDIC CUBE ROOT,11FOURTH"),
    (0x608, "00ARABIC RAY,00ARABIC-INDIC PER MILLE SIGN,21TEN THOUSAND,01AFGHANI"),
    (0x60c, "00ARABIC COMMA,10DATE SEPARATOR,10POETIC VERSE SIGN,10SIGN MISRA"),
    (0x610, "20SALLALLAHOU ALAYHE WASSALLAM,20ALAYHE ASSALLAM,20RAHMATULLAH ALAYHE"),
    (0x613, "20RADI ALLAHOU ANHU,20TAKHALLUS,10SMALL HIGH TAH"),
    (0x616, "30LIGATURE ALEF WITH LAM WITH YEH,30ZAIN,20FATHA,20DAMMA,20KASRA"),
    (0x61b, "10SEMICOLON,10LETTER MARK,11END OF TEXT,11TRIPLE DOT PUNCTUATION"),
    (0x61f, "11QUESTION,10LETTER KASHMIRI YEH,20HAMZA,20ALEF WITH MADDA ABOVE,41HAMZA"),
    (0x624, "23WAW,20ALEF WITH HAMZA BELOW,20YEH WITH HAMZA ABOVE,20ALEF,20BEH"),
    (0x629, "20TEH MARBUTA,30,20THEH,20JEEM,20HAH,20KHAH,20DAL,20THAL,20REH,20ZAIN"),
    (0x633, "20SEEN,20SHEEN,20SAD,20DAD,20TAH,20ZAH,20AIN,20GHAIN"),
    (0x63b, "20KEHEH WITH TWO DOTS ABOVE,40THREE DOTS BELOW"),
    (0x63d, "20FARSI YEH WITH INVERTED V,50TWO DOTS ABOVE,52THREE,10TATWEEL"),
    (0x641, "10LETTER FEH,20QAF,20KAF,20LAM,20MEEM,20NOON,20HEH,20WAW,20ALEF MAKSURA"),
    (0x64a, "20YEH,10FATHATAN,10DAMMATAN,10KASRATAN,10FATHA,10DAMMA,10KASRA,10SHADDA"),
    (0x652, "10SUKUN,10MADDAH ABOVE,11HAMZA,20BELOW,10SUBSCRIPT ALEF,10INVERTED DAMMA"),
    (0x658, "10MARK NOON GHUNNA,10ZWARAKAY,10VOWEL SIGN SMALL V ABOVE,33INVERTED"),
    (0x65c, "30DOT BELOW,10REVERSED DAMMA,10FATHA WITH TWO DOTS,10WAVY HAMZA BELOW"),
    (0x660, "00ARABIC-INDIC DIGIT ZERO,20ONE,20TWO,20THREE,20FOUR,20FIVE,20SIX"),
    (0x667, "20SEVEN,20EIGHT,20NINE,00ARABIC PERCENT SIGN,10DECIMAL SEPARATOR"),
    (0x66c, "11THOUSANDS,10FIVE POINTED STAR,10LETTER DOTLESS BEH,30QAF"),
    (0x670, "20SUPERSCRIPT ALEF,20ALEF WASLA,30WITH WAVY HAMZA ABOVE,60BELOW"),
    (0x674, "20HIGH HAMZA,40ALEF,40WAW,20U WITH HAMZA ABOVE,20HIGH HAMZA YEH,20TTEH"),
    (0x67a, "20TTEHEH,20BEEH,20TEH WITH RING,40THREE DOTS ABOVE DOWNWARDS,20PEH"),
    (0x67f, "20TEHEH,20BEHEH,20HAH WITH HAMZA ABOVE,41TWO DOTS VERTICAL,20NYEH,20DYEH"),
    (0x685, "20HAH WITH THREE DOTS ABOVE,20TCHEH,20TCHEHEH,20DDAL,20DAL WITH RING"),
    (0x68a, "40DOT BELOW,60AND SMALL TAH,20DAHAL,20DDAHAL,20DUL"),
    (0x68f, "20DAL WITH THREE DOTS ABOVE DOWNWARDS,40FOUR DOTS ABOVE,20RREH"),
    (0x692, "20REH WITH SMALL V,40RING,40DOT BELOW,41SMALL V"),
    (0x696, "40DOT BELOW AND DOT ABOVE,41TWO DOTS,20JEH,20REH WITH FOUR DOTS ABOVE"),
    (0x69a, "21SEEN WITH DOT BELOW AND DOT,40THREE DOTS BELOW,70AND THREE DOTS ABOVE"),
    (0x69d, "20SAD WITH TWO DOTS BELOW,40THREE DOTS ABOVE,24TAH,24AIN,20DOTLESS FEH"),
    (0x6a2, "20FEH WITH DOT MOVED BELOW,51,20VEH,20FEH WITH THREE DOTS BELOW,20PEHEH"),
    (0x6a7, "20QAF WITH DOT ABOVE,41THREE DOTS,20KEHEH,20SWASH KAF,20KAF WITH RING"),
    (0x6ac, "40DOT ABOVE,20NG,20KAF WITH THREE DOTS BELOW,20GAF,30WITH RING,20NGOEH"),
    (0x6b2, "20GAF WITH TWO DOTS BELOW,20GUEH,20GAF WITH THREE DOTS ABOVE"),
    (0x6b5, "20LAM WITH SMALL V,40DOT ABOVE,41THREE DOTS,60BELOW,21NOON WITH DOT"),
    (0x6ba, "30GHUNNA,20RNOON,20NOON WITH RING,40THREE DOTS ABOVE,20HEH DOACHASHMEE"),
    (0x6bf, "20TCHEH WITH DOT ABOVE,21HEH WITH YEH,30GOAL,40WITH HAMZA ABOVE"),
    (0x6c3, "20TEH MARBUTA GOAL,20WAW WITH RING,20KIRGHIZ OE,21,20U,20YU,21KIRGHIZ"),
    (0x6ca, "20WAW WITH TWO DOTS ABOVE,20VE,20FARSI YEH,20YEH WITH TAIL,40SMALL V"),
    (0x6cf, "20WAW WITH DOT ABOVE,20E,20YEH WITH THREE DOTS BELOW,30BARREE"),
    (0x6d3, "40WITH HAMZA ABOVE,10FULL STOP,10LETTER AE"),
    (0x6d6, "10SMALL HIGH LIGATURE SAD WITH LAM WITH ALEF MAKSURA,45QAF"),
    (0x6d8, "30MEEM INITIAL FORM,30LAM ALEF,30JEEM,30THREE DOTS,30SEEN,10END OF AYAH"),
    (0x6de, "10START OF RUB EL HIZB,10SMALL HIGH ROUNDED ZERO,31UPRIGHT RECTANGULAR"),
    (0x6e1, "30DOTLESS HEAD OF KHAH,30MEEM ISOLATED FORM,20LOW SEEN,20HIGH MADDA"),
    (0x6e5, "20WAW,20YEH,21HIGH,30NOON,10PLACE OF SAJDAH,10EMPTY CENTRE LOW STOP"),
    (0x6eb, "31HIGH,10ROUNDED HIGH STOP WITH FILLED CENTRE,10SMALL LOW MEEM"),
    (0x6ee, "10LETTER DAL WITH INVERTED V,23REH,00EXTENDED ARABIC-INDIC DIGIT ZERO"),
    (0x6f1, "30ONE,30TWO,30THREE,30FOUR,30FIVE,30SIX,30SEVEN,30EIGHT,30NINE"),
    (0x6fa, "00ARABIC LETTER SHEEN WITH DOT BELOW,23DAD,23GHAIN"),
    (0x6fd, "10SIGN SINDHI AMPERSAND,30POSTPOSITION MEN,10LETTER HEH WITH INVERTED V"),
    (0x900, "00DEVANAGARI SIGN INVERTED CANDRABINDU,21,20ANUSVARA,20VISARGA"),
    (0x904, "10LETTER SHORT A,21,20AA,20I,20II,20U,20UU,20VOCALIC R,30L,20CANDRA E"),
    (0x90e, "21SHORT,21,20AI,20CANDRA O,21SHORT,21,20AU,20KA,20KHA,20GA,20GHA,20NGA"),
    (0x91a, "20CA,20CHA,20JA,20JHA,20NYA,20TTA,20TTHA,20DDA,20DDHA,20NNA,20TA,20THA"),
    (0x926, "20DA,20DHA,20NA,20NNNA,20PA,20PHA,20BA,20BHA,20MA,20YA,20RA,20RRA,20LA"),
    (0x933, "20LLA,20LLLA,20VA,20SHA,20SSA,20SA,20HA,10VOWEL SIGN OE,30OOE"),
    (0x93c, "10SIGN NUKTA,20AVAGRAHA,10VOWEL SIGN AA,30I,30II,30U,30UU,30VOCALIC R"),
    (0x944, "40RR,30CANDRA E,31SHORT,31,30AI,30CANDRA O,31SHORT,31,30AU,10SIGN VIRAMA"),
    (0x94e, "10VOWEL SIGN PRISHTHAMATRA E,30AW,10OM,10STRESS SIGN UDATTA,30ANUDATTA"),
    (0x953, "10GRAVE ACCENT,11ACUTE,10VOWEL SIGN CANDRA LONG E,30UE,30UUE,10LETTER QA"),
    (0x959, "20KHHA,20GHHA,20ZA,20DDDHA,20RHA,20FA,20YYA,20VOCALIC RR,30LL"),
    (0x962, "10VOWEL SIGN VOCALIC L,40LL,10DANDA,11DOUBLE,10DIGIT ZERO,20ONE,20TWO"),
    (0x969, "20THREE,20FOUR,20FIVE,20SIX,20SEVEN,20EIGHT,20NINE,10ABBREVIATION SIGN"),
    (0x971, "10SIGN HIGH SPACING DOT,10LETTER CANDRA A,20OE,20OOE,20AW,20UE,20UUE"),
    (0x978, "20MARWARI DDA,20ZHA,20HEAVY YA,20GGA,20JJA,20GLOTTAL STOP,20DDDA,20BBA"),
    (0xe01, "00THAI CHARACTER KO KAI,20KHO KHAI,30KHUAT,30KHWAI,30KHON,30RAKHANG"),
    (0xe07, "20NGO NGU,20CHO CHAN,30CHING,30CHANG,20SO SO,20CHO CHOE,20YO YING"),
    (0xe0e, "20DO CHADA,20TO PATAK,20THO THAN,30NANGMONTHO,30PHUTHAO,20NO NEN"),
    (0xe14, "20DO DEK,20TO TAO,20THO THUNG,30THAHAN,30THONG,20NO NU,20BO BAIMAI"),
    (0xe1b, "20PO PLA,20PHO PHUNG,20FO FA,20PHO PHAN,20FO FAN,20PHO SAMPHAO,20MO MA"),
    (0xe22, "20YO YAK,20RO RUA,20RU,20LO LING,20LU,20WO WAEN,20SO SALA,30RUSI,30SUA"),
    (0xe2b, "20HO HIP,20LO CHULA,20O ANG,20HO NOKHUK,20PAIYANNOI,20SARA A"),
    (0xe31, "20MAI HAN-AKAT,20SARA AA,30AM,30I,30II,30UE,30UEE,30U,30UU,20PHINTHU"),
    (0xe3f, "10CURRENCY SYMBOL BAHT,10CHARACTER SARA E,30AE,30O,30AI MAIMUAN"),
    (0xe44, "40MAIMALAI,20LAKKHANGYAO,20MAIYAMOK,20MAITAIKHU,20MAI EK,30THO,30TRI"),
    (0xe4b, "30CHATTAWA,20THANTHAKHAT,20NIKHAHIT,20YAMAKKAN,20FONGMAN,10DIGIT ZERO"),
    (0xe51, "20ONE,20TWO,20THREE,20FOUR,20FIVE,20SIX,20SEVEN,20EIGHT,20NINE"),
    (0xe5a, "10CHARACTER ANGKHANKHU,20KHOMUT"),
    (0x10a0, "00GEORGIAN CAPITAL LETTER AN,30BAN,30GAN,30DON,30EN,30VIN,30ZEN,30TAN"),
    (0x10a8, "30IN,30KAN,30LAS,30MAN,30NAR,30ON,30PAR,30ZHAR,30RAE,30SAN,30TAR,30UN"),
    (0x10b4, "30PHAR,30KHAR,30GHAN,30QAR,30SHIN,30CHIN,30CAN,30JIL,30CIL,30CHAR,30XAN"),
    (0x10bf, "30JHAN,30HAE,30HE,30HIE,30WE,30HAR,30HOE"),
    (0x10c7, "30YN"),
    (0x10cd, "30AEN"),
    (0x10d0, "10LETTER AN,20BAN,20GAN,20DON,20EN,20VIN,20ZEN,20TAN,20IN,20KAN,20LAS"),
    (0x10db, "20MAN,20NAR,20ON,20PAR,20ZHAR,20RAE,20SAN,20TAR,20UN,20PHAR,20KHAR"),
    (0x10e6, "20GHAN,20QAR,20SHIN,20CHIN,20CAN,20JIL,20CIL,20CHAR,20XAN,20JHAN,20HAE"),
    (0x10f1, "20HE,20HIE,20WE,20HAR,20HOE,20FI,20YN,20ELIFI,20TURNED GAN,20AIN"),
    (0x10fb, "10PARAGRAPH SEPARATOR,00MODIFIER LETTER GEORGIAN NAR"),
    (0x10fd, "00GEORGIAN LETTER AEN,20HARD SIGN,21LABIAL"),
    (0x1e00, "00LATIN CAPITAL LETTER A WITH RING BELOW,15SMALL"),
    (0x1e02, "10CAPITAL LETTER B WITH DOT ABOVE,15SMALL"),
    (0x1e04, "10CAPITAL LETTER B WITH DOT BELOW,15SMALL,11CAPITAL LETTER B WITH LINE"),
    (0x1e07, "15SMALL,10CAPITAL LETTER C WITH CEDILLA AND ACUTE,16SMALL"),
    (0x1e0a, "10CAPITAL LETTER D WITH DOT ABOVE,15SMALL"),
    (0x1e0c, "10CAPITAL LETTER D WITH DOT BELOW,15SMALL,11CAPITAL LETTER D WITH LINE"),
    (0x1e0f, "15SMALL,10CAPITAL LETTER D WITH CEDILLA,14SMALL"),
    (0x1e12, "10CAPITAL LETTER D WITH CIRCUMFLEX BELOW,15SMALL"),
    (0x1e14, "10CAPITAL LETTER E WITH MACRON AND GRAVE,16SMALL"),
    (0x1e16, "10CAPITAL LETTER E WITH MACRON AND ACUTE,16SMALL"),
    (0x1e18, "10CAPITAL LETTER E WITH CIRCUMFLEX BELOW,15SMALL"),
    (0x1e1a, "11CAPITAL LETTER E WITH TILDE,15SMALL"),
    (0x1e1c, "10CAPITAL LETTER E WITH CEDILLA AND BREVE,16SMALL"),
    (0x1e1e, "10CAPITAL LETTER F WITH DOT ABOVE,15SMALL"),
    (0x1e20, "10CAPITAL LETTER G WITH MACRON,14SMALL"),
    (0x1e22, "10CAPITAL LETTER H WITH DOT ABOVE,15SMALL"),
    (0x1e24, "10CAPITAL LETTER H WITH DOT BELOW,15SMALL"),
    (0x1e26, "10CAPITAL LETTER H WITH DIAERESIS,14SMALL"),
    (0x1e28, "10CAPITAL LETTER H WITH CEDILLA,14SMALL"),
    (0x1e2a, "10CAPITAL LETTER H WITH BREVE BELOW,15SMALL"),
    (0x1e2c, "11CAPITAL LETTER I WITH TILDE,15SMALL"),
    (0x1e2e, "10CAPITAL LETTER I WITH DIAERESIS AND ACUTE,16SMALL"),
    (0x1e30, "11CAPITAL LETTER K WITH,14SMALL,10CAPITAL LETTER K WITH DOT BELOW"),
    (0x1e33, "15SMALL,11CAPITAL LETTER K WITH LINE,15SMALL"),
    (0x1e36, "11CAPITAL LETTER L WITH DOT,15SMALL"),
    (0x1e38, "10CAPITAL LETTER L WITH DOT BELOW AND MACRON,17SMALL"),
    (0x1e3a, "10CAPITAL LETTER L WITH LINE BELOW,15SMALL"),
    (0x1e3c, "11CAPITAL LETTER L WITH CIRCUMFLEX,15SMALL"),
    (0x1e3e, "10CAPITAL LETTER M WITH ACUTE,14SMALL,10CAPITAL LETTER M WITH DOT ABOVE"),
    (0x1e41, "15SMALL,10CAPITAL LETTER M WITH DOT BELOW,15SMALL"),
    (0x1e44, "10CAPITAL LETTER N WITH DOT ABOVE,15SMALL"),
    (0x1e46, "10CAPITAL LETTER N WITH DOT BELOW,15SMALL,11CAPITAL LETTER N WITH LINE"),
    (0x1e49, "15SMALL,11CAPITAL LETTER N WITH CIRCUMFLEX,15SMALL"),
    (0x1e4c, "10CAPITAL LETTER O WITH TILDE AND ACUTE,16SMALL"),
    (0x1e4e, "10CAPITAL LETTER O WITH TILDE AND DIAERESIS,16SMALL"),
    (0x1e50, "10CAPITAL LETTER O WITH MACRON AND GRAVE,16SMALL"),
    (0x1e52, "10CAPITAL LETTER O WITH MACRON AND ACUTE,16SMALL"),
    (0x1e54, "11CAPITAL LETTER P WITH,14SMALL,10CAPITAL LETTER P WITH DOT ABOVE"),
    (0x1e57, "15SMALL,13CAPITAL LETTER R,15SMALL,10CAPITAL LETTER R WITH DOT BELOW"),
    (0x1e5b, "15SMALL,10CAPITAL LETTER R WITH DOT BELOW AND MACRON,17SMALL"),
    (0x1e5e, "10CAPITAL LETTER R WITH LINE BELOW,15SMALL"),
    (0x1e60, "10CAPITAL LETTER S WITH DOT ABOVE,15SMALL"),
    (0x1e62, "10CAPITAL LETTER S WITH DOT BELOW,15SMALL"),
    (0x1e64, "10CAPITAL LETTER S WITH ACUTE AND DOT ABOVE,17SMALL"),
    (0x1e66, "13CAPITAL LETTER S WITH CARON,17SMALL,13CAPITAL LETTER S WITH DOT BELOW"),
    (0x1e69, "18SMALL,12CAPITAL LETTER T WITH,15SMALL"),
    (0x1e6c, "10CAPITAL LETTER T WITH DOT BELOW,15SMALL,11CAPITAL LETTER T WITH LINE"),
    (0x1e6f, "15SMALL,11CAPITAL LETTER T WITH CIRCUMFLEX,15SMALL"),
    (0x1e72, "11CAPITAL LETTER U WITH DIAERESIS,15SMALL,11CAPITAL LETTER U WITH TILDE"),
    (0x1e75, "15SMALL,11CAPITAL LETTER U WITH CIRCUMFLEX,15SMALL"),
    (0x1e78, "10CAPITAL LETTER U WITH TILDE AND ACUTE,16SMALL"),
    (0x1e7a, "10CAPITAL LETTER U WITH MACRON AND DIAERESIS,16SMALL"),
    (0x1e7c, "10CAPITAL LETTER V WITH TILDE,14SMALL,10CAPITAL LETTER V WITH DOT BELOW"),
    (0x1e7f, "15SMALL,10CAPITAL LETTER W WITH GRAVE,14SMALL"),
    (0x1e82, "10CAPITAL LETTER W WITH ACUTE,14SMALL,10CAPITAL LETTER W WITH DIAERESIS"),
    (0x1e85, "14SMALL,10CAPITAL LETTER W WITH DOT ABOVE,15SMALL"),
    (0x1e88, "10CAPITAL LETTER W WITH DOT BELOW,15SMALL"),
    (0x1e8a, "10CAPITAL LETTER X WITH DOT ABOVE,15SMALL"),
    (0x1e8c, "10CAPITAL LETTER X WITH DIAERESIS,14SMALL"),
    (0x1e8e, "10CAPITAL LETTER Y WITH DOT ABOVE,15SMALL"),
    (0x1e90, "10CAPITAL LETTER Z WITH CIRCUMFLEX,14SMALL"),
    (0x1e92, "10CAPITAL LETTER Z WITH DOT BELOW,15SMALL,11CAPITAL LETTER Z WITH LINE"),
    (0x1e95, "15SMALL,33H,30T WITH DIAERESIS,30W WITH RING ABOVE,33Y"),
    (0x1e9a, "30A WITH RIGHT HALF RING,30LONG S WITH DOT ABOVE,60DIAGONAL STROKE"),
    (0x1e9d, "61HIGH,10CAPITAL LETTER SHARP S,10SMALL LETTER DELTA"),
    (0x1ea0, "10CAPITAL LETTER A WITH DOT BELOW,15SMALL"),
    (0x1ea2, "10CAPITAL LETTER A WITH HOOK ABOVE,15SMALL"),
    (0x1ea4, "10CAPITAL LETTER A WITH CIRCUMFLEX AND ACUTE,16SMALL"),
    (0x1ea6, "10CAPITAL LETTER A WITH CIRCUMFLEX AND GRAVE,16SMALL"),
    (0x1ea8, "10CAPITAL LETTER A WITH CIRCUMFLEX AND HOOK ABOVE,17SMALL"),
    (0x1eaa, "10CAPITAL LETTER A WITH CIRCUMFLEX AND TILDE,16SMALL"),
    (0x1eac, "10CAPITAL LETTER A WITH CIRCUMFLEX AND DOT BELOW,17SMALL"),
    (0x1eae, "10CAPITAL LETTER A WITH BREVE AND ACUTE,16SMALL"),
    (0x1eb0, "10CAPITAL LETTER A WITH BREVE AND GRAVE,16SMALL"),
    (0x1eb2, "10CAPITAL LETTER A WITH BREVE AND HOOK ABOVE,17SMALL"),
    (0x1eb4, "10CAPITAL LETTER A WITH BREVE AND TILDE,16SMALL"),
    (0x1eb6, "10CAPITAL LETTER A WITH BREVE AND DOT BELOW,17SMALL"),
    (0x1eb8, "12CAPITAL LETTER E WITH,15SMALL,10CAPITAL LETTER E WITH HOOK ABOVE"),
    (0x1ebb, "15SMALL,10CAPITAL LETTER E WITH TILDE,14SMALL"),
    (0x1ebe, "10CAPITAL LETTER E WITH CIRCUMFLEX AND ACUTE,16SMALL"),
    (0x1ec0, "10CAPITAL LETTER E WITH CIRCUMFLEX AND GRAVE,16SMALL"),
    (0x1ec2, "10CAPITAL LETTER E WITH CIRCUMFLEX AND HOOK ABOVE,17SMALL"),
    (0x1ec4, "10CAPITAL LETTER E WITH CIRCUMFLEX AND TILDE,16SMALL"),
    (0x1ec6, "10CAPITAL LETTER E WITH CIRCUMFLEX AND DOT BELOW,17SMALL"),
    (0x1ec8, "10CAPITAL LETTER I WITH HOOK ABOVE,15SMALL"),
    (0x1eca, "10CAPITAL LETTER I WITH DOT BELOW,15SMALL,13CAPITAL LETTER O,15SMALL"),
    (0x1ece, "10CAPITAL LETTER O WITH HOOK ABOVE,15SMALL"),
    (0x1ed0, "10CAPITAL LETTER O WITH CIRCUMFLEX AND ACUTE,16SMALL"),
    (0x1ed2, "10CAPITAL LETTER O WITH CIRCUMFLEX AND GRAVE,16SMALL"),
    (0x1ed4, "10CAPITAL LETTER O WITH CIRCUMFLEX AND HOOK ABOVE,17SMALL"),
    (0x1ed6, "10CAPITAL LETTER O WITH CIRCUMFLEX AND TILDE,16SMALL"),
    (0x1ed8, "10CAPITAL LETTER O WITH CIRCUMFLEX AND DOT BELOW,17SMALL"),
    (0x1eda, "10CAPITAL LETTER O WITH HORN AND ACUTE,16SMALL"),
    (0x1edc, "10CAPITAL LETTER O WITH HORN AND GRAVE,16SMALL"),
    (0x1ede, "10CAPITAL LETTER O WITH HORN AND HOOK ABOVE,17SMALL"),
    (0x1ee0, "10CAPITAL LETTER O WITH HORN AND TILDE,16SMALL"),
    (0x1ee2, "10CAPITAL LETTER O WITH HORN AND DOT BELOW,17SMALL"),
    (0x1ee4, "12CAPITAL LETTER U WITH,15SMALL,10CAPITAL LETTER U WITH HOOK ABOVE"),
    (0x1ee7, "15SMALL,10CAPITAL LETTER U WITH HORN AND ACUTE,16SMALL"),
    (0x1eea, "10CAPITAL LETTER U WITH HORN AND GRAVE,16SMALL"),
    (0x1eec, "10CAPITAL LETTER U WITH HORN AND HOOK ABOVE,17SMALL"),
    (0x1eee, "10CAPITAL LETTER U WITH HORN AND TILDE,16SMALL"),
    (0x1ef0, "10CAPITAL LETTER U WITH HORN AND DOT BELOW,17SMALL"),
    (0x1ef2, "10CAPITAL LETTER Y WITH GRAVE,14SMALL,10CAPITAL LETTER Y WITH DOT BELOW"),
    (0x1ef5, "15SMALL,10CAPITAL LETTER Y WITH HOOK ABOVE,15SMALL"),
    (0x1ef8, "10CAPITAL LETTER Y WITH TILDE,14SMALL,10CAPITAL LETTER MIDDLE-WELSH LL"),
    (0x1efb, "13SMALL,10CAPITAL LETTER MIDDLE-WELSH V,13SMALL"),
    (0x1efe, "10CAPITAL LETTER Y WITH LOOP,14SMALL"),
    (0x1f00, "00GREEK SMALL LETTER ALPHA WITH PSILI,50DASIA,50PSILI AND VARIA,52DASIA"),
    (0x1f04, "50PSILI AND OXIA,52DASIA,50PSILI AND PERISPOMENI,52DASIA"),
    (0x1f08, "10CAPITAL LETTER ALPHA WITH PSILI,50DASIA,50PSILI AND VARIA,52DASIA"),
    (0x1f0c, "50PSILI AND OXIA,52DASIA,50PSILI AND PERISPOMENI,52DASIA"),
    (0x1f10, "10SMALL LETTER EPSILON WITH PSILI,50DASIA,50PSILI AND VARIA,52DASIA"),
    (0x1f14, "50PSILI AND OXIA,52DASIA"),
    (0x1f18, "10CAPITAL LETTER EPSILON WITH PSILI,50DASIA,50PSILI AND VARIA,52DASIA"),
    (0x1f1c, "50PSILI AND OXIA,52DASIA"),
    (0x1f20, "10SMALL LETTER ETA WITH PSILI,50DASIA,50PSILI AND VARIA,52DASIA"),
    (0x1f24, "50PSILI AND OXIA,52DASIA,50PSILI AND PERISPOMENI,52DASIA"),
    (0x1f28, "10CAPITAL LETTER ETA WITH PSILI,50DASIA,50PSILI AND VARIA,52DASIA"),
    (0x1f2c, "50PSILI AND OXIA,52DASIA,50PSILI AND PERISPOMENI,52DASIA"),
    (0x1f30, "10SMALL LETTER IOTA WITH PSILI,50DASIA,50PSILI AND VARIA,52DASIA"),
    (0x1f34, "50PSILI AND OXIA,52DASIA,50PSILI AND PERISPOMENI,52DASIA"),
    (0x1f38, "10CAPITAL LETTER IOTA WITH PSILI,50DASIA,50PSILI AND VARIA,52DASIA"),
    (0x1f3c, "50PSILI AND OXIA,52DASIA,50PSILI AND PERISPOMENI,52DASIA"),
    (0x1f40, "10SMALL LETTER OMICRON WITH PSILI,50DASIA,50PSILI AND VARIA,52DASIA"),
    (0x1f44, "50PSILI AND OXIA,52DASIA"),
    (0x1f48, "10CAPITAL LETTER OMICRON WITH PSILI,50DASIA,50PSILI AND VARIA,52DASIA"),
    (0x1f4c, "50PSILI AND OXIA,52DASIA"),
    (0x1f50, "10SMALL LETTER UPSILON WITH PSILI,50DASIA,50PSILI AND VARIA,52DASIA"),
    (0x1f54, "50PSILI AND OXIA,52DASIA,50PSILI AND PERISPOMENI,52DASIA"),
    (0x1f59, "10CAPITAL LETTER UPSILON WITH DASIA"),
    (0x1f5b, "60AND VARIA"),
    (0x1f5d, "70OXIA"),
    (0x1f5f, "70PERISPOMENI,10SMALL LETTER OMEGA WITH PSILI,50DASIA,50PSILI AND VARIA"),
    (0x1f63, "52DASIA,50PSILI AND OXIA,52DASIA,50PSILI AND PERISPOMENI,52DASIA"),
    (0x1f68, "10CAPITAL LETTER OMEGA WITH PSILI,50DASIA,50PSILI AND VARIA,52DASIA"),
    (0x1f6c, "50PSILI AND OXIA,52DASIA,50PSILI AND PERISPOMENI,52DASIA"),
    (0x1f70, "10SMALL LETTER ALPHA WITH VARIA,50OXIA,30EPSILON WITH VARIA,50OXIA"),
    (0x1f74, "30ETA WITH VARIA,50OXIA,30IOTA WITH VARIA,50OXIA,30OMICRON WITH VARIA"),
    (0x1f79, "50OXIA,30UPSILON WITH VARIA,50OXIA,30OMEGA WITH VARIA,50OXIA"),
    (0x1f80, "30ALPHA WITH PSILI AND YPOGEGRAMMENI,52DASIA,52PSILI AND VARIA,54DASIA"),
    (0x1f84, "52PSILI AND OXIA,54DASIA,52PSILI AND PERISPOMENI,54DASIA"),
    (0x1f88, "10CAPITAL LETTER ALPHA WITH PSILI AND PROSGEGRAMMENI,52DASIA"),
    (0x1f8a, "52PSILI AND VARIA,54DASIA,52PSILI AND OXIA,54DASIA"),
    (0x1f8e, "52PSILI AND PERISPOMENI,54DASIA"),
    (0x1f90, "10SMALL LETTER ETA WITH PSILI AND YPOGEGRAMMENI,52DASIA"),
    (0x1f92, "52PSILI AND VARIA,54DASIA,52PSILI AND OXIA,54DASIA"),
    (0x1f96, "52PSILI AND PERISPOMENI,54DASIA"),
    (0x1f98, "10CAPITAL LETTER ETA WITH PSILI AND PROSGEGRAMMENI,52DASIA"),
    (0x1f9a, "52PSILI AND VARIA,54DASIA,52PSILI AND OXIA,54DASIA"),
    (0x1f9e, "52PSILI AND PERISPOMENI,54DASIA"),
    (0x1fa0, "10SMALL LETTER OMEGA WITH PSILI AND YPOGEGRAMMENI,52DASIA"),
    (0x1fa2, "52PSILI AND VARIA,54DASIA,52PSILI AND OXIA,54DASIA"),
    (0x1fa6, "52PSILI AND PERISPOMENI,54DASIA"),
    (0x1fa8, "10CAPITAL LETTER OMEGA WITH PSILI AND PROSGEGRAMMENI,52DASIA"),
    (0x1faa, "52PSILI AND VARIA,54DASIA,52PSILI AND OXIA,54DASIA"),
    (0x1fae, "52PSILI AND PERISPOMENI,54DASIA,10SMALL LETTER ALPHA WITH VRACHY"),
    (0x1fb1, "50MACRON,50VARIA AND YPOGEGRAMMENI,51,51OXIA AND"),
    (0x1fb6, "50PERISPOMENI,60AND YPOGEGRAMMENI,10CAPITAL LETTER ALPHA WITH VRACHY"),
    (0x1fb9, "50MACRON,50VARIA,50OXIA,50PROSGEGRAMMENI,10KORONIS,10PROSGEGRAMMENI"),
    (0x1fbf, "10PSILI,10PERISPOMENI,11DIALYTIKA AND"),
    (0x1fc2, "10SMALL LETTER ETA WITH VARIA AND YPOGEGRAMMENI,51,51OXIA AND"),
    (0x1fc6, "50PERISPOMENI,60AND YPOGEGRAMMENI,10CAPITAL LETTER EPSILON WITH VARIA"),
    (0x1fc9, "50OXIA,30ETA WITH VARIA,50OXIA,50PROSGEGRAMMENI,10PSILI AND VARIA"),
    (0x1fce, "30OXIA,30PERISPOMENI,10SMALL LETTER IOTA WITH VRACHY,50MACRON"),
    (0x1fd2, "50DIALYTIKA AND VARIA,70OXIA"),
    (0x1fd6, "50PERISPOMENI,51DIALYTIKA AND,10CAPITAL LETTER IOTA WITH VRACHY"),
    (0x1fd9, "50MACRON,50VARIA,50OXIA"),
    (0x1fdd, "10DASIA AND VARIA,30OXIA,30PERISPOMENI"),
    (0x1fe0, "10SMALL LETTER UPSILON WITH VRACHY,50MACRON,50DIALYTIKA AND VARIA"),
    (0x1fe3, "70OXIA,30RHO WITH PSILI,50DASIA,30UPSILON WITH PERISPOMENI"),
    (0x1fe7, "51DIALYTIKA AND,10CAPITAL LETTER UPSILON WITH VRACHY,50MACRON,50VARIA"),
    (0x1feb, "50OXIA,30RHO WITH DASIA,10DIALYTIKA AND VARIA,30OXIA,10VARIA"),
    (0x1ff2, "10SMALL LETTER OMEGA WITH VARIA AND YPOGEGRAMMENI,51,51OXIA AND"),
    (0x1ff6, "50PERISPOMENI,60AND YPOGEGRAMMENI,10CAPITAL LETTER OMICRON WITH VARIA"),
    (0x1ff9, "50OXIA,30OMEGA WITH VARIA,50OXIA,50PROSGEGRAMMENI,10OXIA,10DASIA"),
    (0x3000, "00IDEOGRAPHIC SPACE,10COMMA,10FULL STOP,00DITTO MARK"),
    (0x3004, "00JAPANESE INDUSTRIAL STANDARD SYMBOL,00IDEOGRAPHIC ITERATION MARK"),
    (0x3006, "11CLOSING,10NUMBER ZERO,00LEFT ANGLE BRACKET,02RIGHT,02LEFT DOUBLE"),
    (0x300b, "03RIGHT,01LEFT CORNER,02RIGHT,02LEFT WHITE,03RIGHT"),
    (0x3010, "01LEFT BLACK LENTICULAR,03RIGHT,00POSTAL MARK,01GETA"),
    (0x3014, "00LEFT TORTOISE SHELL BRACKET,03RIGHT,01LEFT WHITE LENTICULAR,03RIGHT"),
    (0x3018, "01LEFT WHITE TORTOISE SHELL,04RIGHT,01LEFT WHITE SQUARE,03RIGHT"),
    (0x301c, "00WAVE DASH,00REVERSED DOUBLE PRIME QUOTATION MARK,04,04LOW"),
    (0x3020, "00POSTAL MARK FACE,00HANGZHOU NUMERAL ONE,20TWO,20THREE,20FOUR,20FIVE"),
    (0x3026, "20SIX,20SEVEN,20EIGHT,20NINE,00IDEOGRAPHIC LEVEL TONE MARK,12RISING"),
    (0x302c, "12DEPARTING,12ENTERING,02HANGUL SINGLE DOT,13DOUBLE,00WAVY DASH"),
    (0x3031, "00VERTICAL KANA REPEAT MARK,31WITH VOICED SOUND,30MARK UPPER HALF"),
    (0x3034, "33WITH VOICED SOUND,31MARK LOWER,00CIRCLED POSTAL MARK"),
    (0x3037, "00IDEOGRAPHIC TELEGRAPH LINE FEED SEPARATOR SYMBOL"),
    (0x3038, "00HANGZHOU NUMERAL TEN,20TWENTY,20THIRTY"),
    (0x303b, "00VERTICAL IDEOGRAPHIC ITERATION MARK,01MASU,01PART ALTERNATION"),
    (0x303e, "00IDEOGRAPHIC VARIATION INDICATOR,10HALF FILL SPACE"),
    (0x3041, "00HIRAGANA LETTER SMALL A,21,20SMALL I,21,20SMALL U,21,20SMALL E,21"),
    (0x3049, "20SMALL O,21,20KA,20GA,20KI,20GI,20KU,20GU,20KE,20GE,20KO,20GO,20SA"),
    (0x3056, "20ZA,20SI,20ZI,20SU,20ZU,20SE,20ZE,20SO,20ZO,20TA,20DA,20TI,20DI"),
    (0x3063, "20SMALL TU,21,20DU,20TE,20DE,20TO,20DO,20NA,20NI,20NU,20NE,20NO,20HA"),
    (0x3070, "20BA,20PA,20HI,20BI,20PI,20HU,20BU,20PU,20HE,20BE,20PE,20HO,20BO,20PO"),
    (0x307e, "20MA,20MI,20MU,20ME,20MO,20SMALL YA,21,20SMALL YU,21,20SMALL YO,21,20RA"),
    (0x308a, "20RI,20RU,20RE,20RO,20SMALL WA,21,20WI,20WE,20WO,20N,20VU,20SMALL KA"),
    (0x3096, "30KE"),
    (0x3099, "00COMBINING KATAKANA-HIRAGANA VOICED SOUND MARK,22SEMI-VOICED"),
    (0x309b, "02KATAKANA-HIRAGANA VOICED,12SEMI-VOICED,01HIRAGANA ITERATION,12VOICED"),
    (0x309f, "10DIGRAPH YORI,00KATAKANA-HIRAGANA DOUBLE HYPHEN"),
    (0x30a1, "00KATAKANA LETTER SMALL A,21,20SMALL I,21,20SMALL U,21,20SMALL E,21"),
    (0x30a9, "20SMALL O,21,20KA,20GA,20KI,20GI,20KU,20GU,20KE,20GE,20KO,20GO,20SA"),
    (0x30b6, "20ZA,20SI,20ZI,20SU,20ZU,20SE,20ZE,20SO,20ZO,20TA,20DA,20TI,20DI"),
    (0x30c3, "20SMALL TU,21,20DU,20TE,20DE,20TO,20DO,20NA,20NI,20NU,20NE,20NO,20HA"),
    (0x30d0, "20BA,20PA,20HI,20BI,20PI,20HU,20BU,20PU,20HE,20BE,20PE,20HO,20BO,20PO"),
    (0x30de, "20MA,20MI,20MU,20ME,20MO,20SMALL YA,21,20SMALL YU,21,20SMALL YO,21,20RA"),
    (0x30ea, "20RI,20RU,20RE,20RO,20SMALL WA,21,20WI,20WE,20WO,20N,20VU,20SMALL KA"),
    (0x30f6, "30KE,20VA,20VI,20VE,20VO,10MIDDLE DOT"),
    (0x30fc, "00KATAKANA-HIRAGANA PROLONGED SOUND MARK,01KATAKANA ITERATION,12VOICED"),
    (0x30ff, "10DIGRAPH KOTO"),
    (0xfb00, "00LATIN SMALL LIGATURE FF,30FI,30FL,30FFI,30FFL,30LONG S T,30ST"),
    (0xfb13, "00ARMENIAN SMALL LIGATURE MEN NOW,40ECH,40INI,30VEW NOW,30MEN XEH"),
    (0xfb1d, "00HEBREW LETTER YOD WITH HIRIQ,10POINT JUDEO-SPANISH VARIKA"),
    (0xfb1f, "10LIGATURE YIDDISH YOD YOD PATAH,10LETTER ALTERNATIVE AYIN,20WIDE ALEF"),
    (0xfb22, "30DALET,30HE,30KAF,30LAMED,30FINAL MEM,30RESH,30TAV"),
    (0xfb29, "20ALTERNATIVE PLUS SIGN,20SHIN WITH SHIN DOT,41SIN,41DAGESH AND SHIN"),
    (0xfb2d, "61SIN,20ALEF WITH PATAH,40QAMATS,40MAPIQ,20BET WITH DAGESH,22GIMEL"),
    (0xfb33, "22DALET,20HE WITH MAPIQ,20VAV WITH DAGESH,22ZAYIN"),
    (0xfb38, "22TET,22YOD,22FINAL KAF,23,22LAMED"),
    (0xfb3e, "22MEM"),
    (0xfb40, "22NUN,22SAMEKH"),
    (0xfb43, "22FINAL PE,23"),
    (0xfb46, "22TSADI,22QOF,22RESH,22SHIN,22TAV,20VAV WITH HOLAM,20BET WITH RAFE"),
    (0xfb4d, "22KAF,22PE,10LIGATURE ALEF LAMED"),
    (0xfe20, "00COMBINING LIGATURE LEFT HALF,21RIGHT,11DOUBLE TILDE LEFT,31RIGHT"),
    (0xfe24, "11MACRON LEFT,21RIGHT,10CONJOINING MACRON,10LIGATURE LEFT HALF BELOW"),
    (0xfe28, "22RIGHT,12TILDE LEFT,22RIGHT,12MACRON LEFT,22RIGHT,11CONJOINING MACRON"),
    (0xfe2e, "10CYRILLIC TITLO LEFT HALF,31RIGHT"),
    (0xff01, "00FULLWIDTH EXCLAMATION MARK,11QUOTATION,10NUMBER SIGN,11DOLLAR"),
    (0xff05, "11PERCENT,10AMPERSAND,10APOSTROPHE,10LEFT PARENTHESIS,11RIGHT"),
    (0xff0a, "10ASTERISK,10PLUS SIGN,10COMMA,10HYPHEN-MINUS,10FULL STOP,10SOLIDUS"),
    (0xff10, "10DIGIT ZERO,20ONE,20TWO,20THREE,20FOUR,20FIVE,20SIX,20SEVEN,20EIGHT"),
    (0xff19, "20NINE,10COLON,10SEMICOLON,10LESS-THAN SIGN,11EQUALS,11GREATER-THAN"),
    (0xff1f, "10QUESTION MARK,10COMMERCIAL AT,10LATIN CAPITAL LETTER A,40B,40C,40D"),
    (0xff25, "40E,40F,40G,40H,40I,40J,40K,40L,40M,40N,40O,40P,40Q,40R,40S,40T,40U,40V"),
    (0xff37, "40W,40X,40Y,40Z,10LEFT SQUARE BRACKET,10REVERSE SOLIDUS"),
    (0xff3d, "10RIGHT SQUARE BRACKET,10CIRCUMFLEX ACCENT,10LOW LINE,10GRAVE ACCENT"),
    (0xff41, "10LATIN SMALL LETTER A,40B,40C,40D,40E,40F,40G,40H,40I,40J,40K,40L,40M"),
    (0xff4e, "40N,40O,40P,40Q,40R,40S,40T,40U,40V,40W,40X,40Y,40Z"),
    (0xff5b, "10LEFT CURLY BRACKET,10VERTICAL LINE,10RIGHT CURLY BRACKET,10TILDE"),
    (0xff5f, "10LEFT WHITE PARENTHESIS,12RIGHT,00HALFWIDTH IDEOGRAPHIC FULL STOP"),
    (0xff62, "10LEFT CORNER BRACKET,12RIGHT,10IDEOGRAPHIC COMMA,10KATAKANA MIDDLE DOT"),
    (0xff66, "20LETTER WO,30SMALL A,40I,40U,40E,40O,40YA,40YU,40YO,40TU"),
    (0xff70, "10KATAKANA-HIRAGANA PROLONGED SOUND MARK,10KATAKANA LETTER A,30I,30U"),
    (0xff74, "30E,30O,30KA,30KI,30KU,30KE,30KO,30SA,30SI,30SU,30SE,30SO,30TA,30TI"),
    (0xff82, "30TU,30TE,30TO,30NA,30NI,30NU,30NE,30NO,30HA,30HI,30HU,30HE,30HO,30MA"),
    (0xff90, "30MI,30MU,30ME,30MO,30YA,30YU,30YO,30RA,30RI,30RU,30RE,30RO,30WA,30N"),
    (0xff9e, "20VOICED SOUND MARK,22SEMI-VOICED,10HANGUL FILLER,20LETTER KIYEOK"),
    (0xffa2, "30SSANGKIYEOK,30KIYEOK-SIOS,30NIEUN,30NIEUN-CIEUC,30NIEUN-HIEUH"),
    (0xffa7, "30TIKEUT,30SSANGTIKEUT,30RIEUL,30RIEUL-KIYEOK,30RIEUL-MIEUM"),
    (0xffac, "30RIEUL-PIEUP,30RIEUL-SIOS,30RIEUL-THIEUTH,30RIEUL-PHIEUPH"),
    (0xffb0, "30RIEUL-HIEUH,30MIEUM,30PIEUP,30SSANGPIEUP,30PIEUP-SIOS,30SIOS"),
    (0xffb6, "30SSANGSIOS,30IEUNG,30CIEUC,30SSANGCIEUC,30CHIEUCH,30KHIEUKH,30THIEUTH"),
    (0xffbd, "30PHIEUPH,30HIEUH"),
    (0xffc2, "30A,30AE,30YA,30YAE,30EO,30E"),
    (0xffca, "30YEO,30YE,30O,30WA,30WAE,30OE"),
    (0xffd2, "30YO,30U,30WEO,30WE,30WI,30YU"),
    (0xffda, "30EU,30YI,30I"),
    (0xffe0, "00FULLWIDTH CENT SIGN,11POUND,11NOT,10MACRON,10BROKEN BAR,10YEN SIGN"),
    (0xffe6, "11WON"),
    (0xffe8, "00HALFWIDTH FORMS LIGHT VERTICAL,10LEFTWARDS ARROW,11UPWARDS"),
    (0xffeb, "11RIGHTWARDS,11DOWNWARDS,10BLACK SQUARE,10WHITE CIRCLE")]

end Text
end KindExpr
