/-!
# Names of symbols

The names of punctuation, of the symbols of mathematics and technology, and of the
letters that are mathematical symbols.

Each entry is the first code point of a run and the names of the run, packed as
`unpackName` reads them.
-/

namespace KindExpr
namespace Text

/-- The packed names of punctuation and symbols. -/
def symbolNames : List (Nat × String) :=
  [
    (0x2000, "00EN QUAD,01EM,00EN SPACE,01EM,01THREE-PER-EM,01FOUR-PER-EM"),
    (0x2006, "01SIX-PER-EM,01FIGURE,01PUNCTUATION,01THIN,01HAIR,01ZERO WIDTH"),
    (0x200c, "20NON-JOINER,20JOINER,00LEFT-TO-RIGHT MARK,01RIGHT-TO-LEFT,00HYPHEN"),
    (0x2011, "01NON-BREAKING,00FIGURE DASH,01EN,01EM,00HORIZONTAL BAR"),
    (0x2016, "00DOUBLE VERTICAL LINE,11LOW,00LEFT SINGLE QUOTATION MARK,03RIGHT"),
    (0x201a, "02SINGLE LOW-9,12HIGH-REVERSED-9,02LEFT DOUBLE,03RIGHT,02DOUBLE LOW-9"),
    (0x201f, "12HIGH-REVERSED-9,00DAGGER,01DOUBLE,00BULLET,01TRIANGULAR"),
    (0x2024, "00ONE DOT LEADER,02TWO,00HORIZONTAL ELLIPSIS,00HYPHENATION POINT"),
    (0x2028, "00LINE SEPARATOR,01PARAGRAPH,00LEFT-TO-RIGHT EMBEDDING,01RIGHT-TO-LEFT"),
    (0x202c, "00POP DIRECTIONAL FORMATTING,00LEFT-TO-RIGHT OVERRIDE,01RIGHT-TO-LEFT"),
    (0x202f, "00NARROW NO-BREAK SPACE,00PER MILLE SIGN,11TEN THOUSAND,00PRIME"),
    (0x2033, "01DOUBLE,01TRIPLE,01REVERSED,11DOUBLE,11TRIPLE,00CARET"),
    (0x2039, "00SINGLE LEFT-POINTING ANGLE QUOTATION MARK,13RIGHT-POINTING"),
    (0x203b, "01REFERENCE,01DOUBLE EXCLAMATION,00INTERROBANG,00OVERLINE,00UNDERTIE"),
    (0x2040, "00CHARACTER TIE,00CARET INSERTION POINT,00ASTERISM,00HYPHEN BULLET"),
    (0x2044, "00FRACTION SLASH,00LEFT SQUARE BRACKET WITH QUILL,04RIGHT"),
    (0x2047, "00DOUBLE QUESTION MARK,01QUESTION EXCLAMATION,01EXCLAMATION QUESTION"),
    (0x204a, "00TIRONIAN SIGN ET,00REVERSED PILCROW SIGN,00BLACK LEFTWARDS BULLET"),
    (0x204d, "11RIGHTWARDS,00LOW ASTERISK,00REVERSED SEMICOLON,00CLOSE UP"),
    (0x2051, "00TWO ASTERISKS ALIGNED VERTICALLY,00COMMERCIAL MINUS SIGN,00SWUNG DASH"),
    (0x2054, "00INVERTED UNDERTIE,00FLOWER PUNCTUATION MARK,00THREE DOT PUNCTUATION"),
    (0x2057, "00QUADRUPLE PRIME,00FOUR DOT PUNCTUATION,02FIVE,02TWO,00FOUR DOT MARK"),
    (0x205c, "00DOTTED CROSS,00TRICOLON,00VERTICAL FOUR DOTS"),
    (0x205f, "00MEDIUM MATHEMATICAL SPACE,00WORD JOINER,00FUNCTION APPLICATION"),
    (0x2062, "00INVISIBLE TIMES,10SEPARATOR,10PLUS"),
    (0x2066, "00LEFT-TO-RIGHT ISOLATE,01RIGHT-TO-LEFT,01FIRST STRONG"),
    (0x2069, "01POP DIRECTIONAL,00INHIBIT SYMMETRIC SWAPPING,02ACTIVATE"),
    (0x206c, "00INHIBIT ARABIC FORM SHAPING,03ACTIVATE,00NATIONAL DIGIT SHAPES"),
    (0x206f, "02NOMINAL,00SUPERSCRIPT ZERO,10LATIN SMALL LETTER I"),
    (0x2074, "10FOUR,10FIVE,10SIX,10SEVEN,10EIGHT,10NINE,10PLUS SIGN,10MINUS"),
    (0x207c, "10EQUALS SIGN,10LEFT PARENTHESIS,11RIGHT,10LATIN SMALL LETTER N"),
    (0x2080, "00SUBSCRIPT ZERO,10ONE,10TWO,10THREE,10FOUR,10FIVE,10SIX,10SEVEN"),
    (0x2088, "10EIGHT,10NINE,10PLUS SIGN,10MINUS,10EQUALS SIGN,10LEFT PARENTHESIS"),
    (0x208e, "11RIGHT"),
    (0x2090, "00LATIN SUBSCRIPT SMALL LETTER A,40E,40O,40X,40SCHWA,40H,40K,40L,40M"),
    (0x2099, "40N,40P,40S,40T"),
    (0x20a0, "00EURO-CURRENCY SIGN,01COLON,01CRUZEIRO,01FRENCH FRANC,01LIRA,01MILL"),
    (0x20a6, "01NAIRA,01PESETA,01RUPEE,01WON,01NEW SHEQEL,01DONG,01EURO,01KIP"),
    (0x20ae, "01TUGRIK,01DRACHMA,01GERMAN PENNY,01PESO,01GUARANI,01AUSTRAL,01HRYVNIA"),
    (0x20b5, "01CEDI,01LIVRE TOURNOIS,01SPESMILO,01TENGE,01INDIAN RUPEE"),
    (0x20ba, "01TURKISH LIRA,01NORDIC MARK,01MANAT,01RUBLE,01LARI,01BITCOIN,01SOM"),
    (0x20d0, "00COMBINING LEFT HARPOON ABOVE,12RIGHT,10LONG VERTICAL LINE OVERLAY"),
    (0x20d3, "13SHORT,10ANTICLOCKWISE ARROW ABOVE,12CLOCKWISE,12LEFT,12RIGHT"),
    (0x20d8, "10RING OVERLAY,12CLOCKWISE,12ANTICLOCKWISE,10THREE DOTS ABOVE,12FOUR"),
    (0x20dd, "10ENCLOSING CIRCLE,20SQUARE,20DIAMOND,20CIRCLE BACKSLASH"),
    (0x20e1, "10LEFT RIGHT ARROW ABOVE,10ENCLOSING SCREEN,20KEYCAP"),
    (0x20e4, "20UPWARD POINTING TRIANGLE,10REVERSE SOLIDUS OVERLAY"),
    (0x20e6, "11DOUBLE VERTICAL STROKE,10ANNUITY SYMBOL,10TRIPLE UNDERDOT"),
    (0x20e9, "10WIDE BRIDGE ABOVE,10LEFTWARDS ARROW OVERLAY,11LONG DOUBLE SOLIDUS"),
    (0x20ec, "10RIGHTWARDS HARPOON WITH BARB DOWNWARDS,14LEFTWARDS,10LEFT ARROW BELOW"),
    (0x20ef, "12RIGHT,10ASTERISK ABOVE"),
    (0x2100, "00ACCOUNT OF,00ADDRESSED TO THE SUBJECT,00DOUBLE-STRUCK CAPITAL C"),
    (0x2103, "00DEGREE CELSIUS,00CENTRE LINE SYMBOL,00CARE OF,00CADA UNA"),
    (0x2107, "00EULER CONSTANT,00SCRUPLE,00DEGREE FAHRENHEIT,00SCRIPT SMALL G"),
    (0x210b, "10CAPITAL H,02BLACK-LETTER,02DOUBLE-STRUCK,00PLANCK CONSTANT"),
    (0x210f, "20OVER TWO PI,00SCRIPT CAPITAL I,02BLACK-LETTER,00SCRIPT CAPITAL L"),
    (0x2113, "11SMALL,00L B BAR SYMBOL,00DOUBLE-STRUCK CAPITAL N,00NUMERO SIGN"),
    (0x2117, "00SOUND RECORDING COPYRIGHT,00SCRIPT CAPITAL P,02DOUBLE-STRUCK,20Q"),
    (0x211b, "00SCRIPT CAPITAL R,02BLACK-LETTER,02DOUBLE-STRUCK,00PRESCRIPTION TAKE"),
    (0x211f, "00RESPONSE,00SERVICE MARK,00TELEPHONE SIGN,01TRADE MARK,00VERSICLE"),
    (0x2124, "00DOUBLE-STRUCK CAPITAL Z,00OUNCE SIGN,01OHM,02INVERTED"),
    (0x2128, "00BLACK-LETTER CAPITAL Z,00TURNED GREEK SMALL LETTER IOTA,00KELVIN SIGN"),
    (0x212b, "01ANGSTROM,00SCRIPT CAPITAL B,00BLACK-LETTER CAPITAL C"),
    (0x212e, "00ESTIMATED SYMBOL,00SCRIPT SMALL E,11CAPITAL,20F,02TURNED"),
    (0x2133, "00SCRIPT CAPITAL M,10SMALL O,00ALEF SYMBOL,01BET,01GIMEL,01DALET"),
    (0x2139, "00INFORMATION SOURCE,00ROTATED CAPITAL Q,00FACSIMILE SIGN"),
    (0x213c, "00DOUBLE-STRUCK SMALL PI,20GAMMA,11CAPITAL,20PI,10N-ARY SUMMATION"),
    (0x2141, "00TURNED SANS-SERIF CAPITAL G,30L,03REVERSED"),
    (0x2144, "00TURNED SANS-SERIF CAPITAL Y,00DOUBLE-STRUCK ITALIC CAPITAL D,21SMALL"),
    (0x2147, "30E,30I,30J,00PROPERTY LINE,00TURNED AMPERSAND,00PER SIGN"),
    (0x214d, "00AKTIESELSKAB,00TURNED SMALL F,00SYMBOL FOR SAMARITAN SOURCE"),
    (0x2150, "00VULGAR FRACTION ONE SEVENTH,30NINTH,30TENTH,30THIRD,20TWO THIRDS"),
    (0x2155, "20ONE FIFTH,20TWO FIFTHS,21THREE,21FOUR,20ONE SIXTH,20FIVE SIXTHS"),
    (0x215b, "20ONE EIGHTH,20THREE EIGHTHS,21FIVE,21SEVEN,00FRACTION NUMERATOR ONE"),
    (0x2160, "01ROMAN NUMERAL,20TWO,20THREE,20FOUR,20FIVE,20SIX,20SEVEN,20EIGHT"),
    (0x2168, "20NINE,20TEN,20ELEVEN,20TWELVE,20FIFTY,20ONE HUNDRED,21FIVE"),
    (0x216f, "20ONE THOUSAND,00SMALL ROMAN NUMERAL ONE,30TWO,30THREE,30FOUR,30FIVE"),
    (0x2175, "30SIX,30SEVEN,30EIGHT,30NINE,30TEN,30ELEVEN,30TWELVE,30FIFTY"),
    (0x217d, "30ONE HUNDRED,31FIVE,30ONE THOUSAND,00ROMAN NUMERAL ONE THOUSAND C D"),
    (0x2181, "20FIVE THOUSAND,21TEN,20REVERSED ONE HUNDRED"),
    (0x2184, "00LATIN SMALL LETTER REVERSED C,00ROMAN NUMERAL SIX LATE FORM"),
    (0x2186, "21FIFTY EARLY,30THOUSAND,21ONE HUNDRED,00VULGAR FRACTION ZERO THIRDS"),
    (0x218a, "00TURNED DIGIT TWO,20THREE"),
    (0x2190, "00LEFTWARDS ARROW,01UPWARDS,01RIGHTWARDS,01DOWNWARDS,01LEFT RIGHT"),
    (0x2195, "01UP DOWN,01NORTH WEST,11EAST,02SOUTH,11WEST"),
    (0x219a, "00LEFTWARDS ARROW WITH STROKE,03RIGHTWARDS,00LEFTWARDS WAVE ARROW"),
    (0x219d, "02RIGHTWARDS,01LEFTWARDS TWO HEADED,03UPWARDS,03RIGHTWARDS,03DOWNWARDS"),
    (0x21a2, "00LEFTWARDS ARROW WITH TAIL,03RIGHTWARDS,00LEFTWARDS ARROW FROM BAR"),
    (0x21a5, "03UPWARDS,03RIGHTWARDS,03DOWNWARDS,00UP DOWN ARROW WITH BASE"),
    (0x21a9, "00LEFTWARDS ARROW WITH HOOK,03RIGHTWARDS,00LEFTWARDS ARROW WITH LOOP"),
    (0x21ac, "03RIGHTWARDS,00LEFT RIGHT WAVE ARROW,20ARROW WITH STROKE"),
    (0x21af, "00DOWNWARDS ZIGZAG ARROW,00UPWARDS ARROW WITH TIP LEFTWARDS"),
    (0x21b1, "40RIGHTWARDS,00DOWNWARDS ARROW WITH TIP LEFTWARDS,40RIGHTWARDS"),
    (0x21b4, "00RIGHTWARDS ARROW WITH CORNER DOWNWARDS"),
    (0x21b5, "00DOWNWARDS ARROW WITH CORNER LEFTWARDS"),
    (0x21b6, "00ANTICLOCKWISE TOP SEMICIRCLE ARROW,03CLOCKWISE"),
    (0x21b8, "00NORTH WEST ARROW TO LONG BAR"),
    (0x21b9, "01LEFTWARDS ARROW TO BAR OVER RIGHTWARDS ARROW TO"),
    (0x21ba, "00ANTICLOCKWISE OPEN CIRCLE ARROW,03CLOCKWISE"),
    (0x21bc, "00LEFTWARDS HARPOON WITH BARB UPWARDS,40DOWNWARDS"),
    (0x21be, "00UPWARDS HARPOON WITH BARB RIGHTWARDS,40LEFTWARDS"),
    (0x21c0, "00RIGHTWARDS HARPOON WITH BARB UPWARDS,40DOWNWARDS"),
    (0x21c2, "00DOWNWARDS HARPOON WITH BARB RIGHTWARDS,40LEFTWARDS"),
    (0x21c4, "00RIGHTWARDS ARROW OVER LEFTWARDS ARROW"),
    (0x21c5, "01UPWARDS ARROW LEFTWARDS OF DOWNWARDS"),
    (0x21c6, "01LEFTWARDS ARROW OVER RIGHTWARDS,10PAIRED ARROWS,02UPWARDS"),
    (0x21c9, "02RIGHTWARDS,02DOWNWARDS,00LEFTWARDS HARPOON OVER RIGHTWARDS HARPOON"),
    (0x21cc, "01RIGHTWARDS HARPOON OVER LEFTWARDS"),
    (0x21cd, "00LEFTWARDS DOUBLE ARROW WITH STROKE,04LEFT RIGHT,04RIGHTWARDS"),
    (0x21d0, "00LEFTWARDS DOUBLE ARROW,02UPWARDS,02RIGHTWARDS,02DOWNWARDS"),
    (0x21d4, "02LEFT RIGHT,02UP DOWN,02NORTH WEST,12EAST,03SOUTH,12WEST"),
    (0x21da, "01LEFTWARDS TRIPLE,02RIGHTWARDS,01LEFTWARDS SQUIGGLE,02RIGHTWARDS"),
    (0x21de, "00UPWARDS ARROW WITH DOUBLE STROKE,04DOWNWARDS,00LEFTWARDS DASHED ARROW"),
    (0x21e1, "02UPWARDS,02RIGHTWARDS,02DOWNWARDS,00LEFTWARDS ARROW TO BAR"),
    (0x21e5, "03RIGHTWARDS,00LEFTWARDS WHITE ARROW,02UPWARDS,02RIGHTWARDS,02DOWNWARDS"),
    (0x21ea, "00UPWARDS WHITE ARROW FROM BAR,30ON PEDESTAL,50WITH HORIZONTAL BAR"),
    (0x21ed, "61VERTICAL,20DOUBLE ARROW,40ON PEDESTAL"),
    (0x21f0, "00RIGHTWARDS WHITE ARROW FROM WALL,00NORTH WEST ARROW TO CORNER"),
    (0x21f2, "03SOUTH EAST,00UP DOWN WHITE ARROW,00RIGHT ARROW WITH SMALL CIRCLE"),
    (0x21f5, "00DOWNWARDS ARROW LEFTWARDS OF UPWARDS ARROW,00THREE RIGHTWARDS ARROWS"),
    (0x21f7, "00LEFTWARDS ARROW WITH VERTICAL STROKE,04RIGHTWARDS,04LEFT RIGHT"),
    (0x21fa, "02LEFTWARDS ARROW WITH DOUBLE,05RIGHTWARDS,05LEFT RIGHT"),
    (0x21fd, "00LEFTWARDS OPEN-HEADED ARROW,02RIGHTWARDS,02LEFT RIGHT,00FOR ALL"),
    (0x2201, "00COMPLEMENT,00PARTIAL DIFFERENTIAL,00THERE EXISTS,10DOES NOT EXIST"),
    (0x2205, "00EMPTY SET,00INCREMENT,00NABLA,00ELEMENT OF,02NOT AN,02SMALL"),
    (0x220b, "00CONTAINS AS MEMBER,02DOES NOT CONTAIN,02SMALL CONTAINS,00END OF PROOF"),
    (0x220f, "00N-ARY PRODUCT,10COPRODUCT,10SUMMATION,00MINUS SIGN,01MINUS-OR-PLUS"),
    (0x2214, "00DOT PLUS,00DIVISION SLASH,00SET MINUS,00ASTERISK OPERATOR,01RING"),
    (0x2219, "01BULLET,00SQUARE ROOT,01CUBE,01FOURTH,00PROPORTIONAL TO,00INFINITY"),
    (0x221f, "00RIGHT ANGLE,01,01MEASURED,01SPHERICAL,00DIVIDES,00DOES NOT DIVIDE"),
    (0x2225, "00PARALLEL TO,02NOT,00LOGICAL AND,10OR,00INTERSECTION,00UNION"),
    (0x222b, "00INTEGRAL,01DOUBLE,01TRIPLE,01CONTOUR,01SURFACE,01VOLUME,01CLOCKWISE"),
    (0x2232, "11CONTOUR,02ANTICLOCKWISE,00THEREFORE,00BECAUSE,00RATIO,00PROPORTION"),
    (0x2238, "00DOT MINUS,00EXCESS,00GEOMETRIC PROPORTION,00HOMOTHETIC"),
    (0x223c, "00TILDE OPERATOR,00REVERSED TILDE,00INVERTED LAZY S,00SINE WAVE"),
    (0x2240, "00WREATH PRODUCT,00NOT TILDE,01MINUS,00ASYMPTOTICALLY EQUAL TO,03NOT"),
    (0x2245, "02APPROXIMATELY,12BUT NOT ACTUALLY,03NEITHER APPROXIMATELY NOR,02ALMOST"),
    (0x2249, "03NOT,02ALMOST EQUAL OR,00TRIPLE TILDE,00ALL EQUAL TO,01EQUIVALENT"),
    (0x224e, "02GEOMETRICALLY,00DIFFERENCE BETWEEN,00APPROACHES THE LIMIT"),
    (0x2251, "00GEOMETRICALLY EQUAL TO,00APPROXIMATELY EQUAL TO OR THE IMAGE OF"),
    (0x2253, "00IMAGE OF OR APPROXIMATELY EQUAL TO,00COLON EQUALS,00EQUALS COLON"),
    (0x2256, "00RING IN EQUAL TO,12,01CORRESPONDS,00ESTIMATES,00EQUIANGULAR TO"),
    (0x225b, "00STAR EQUALS,00DELTA EQUAL TO,00EQUAL TO BY DEFINITION,00MEASURED BY"),
    (0x225f, "00QUESTIONED EQUAL TO,02NOT,01IDENTICAL,02NOT,01STRICTLY EQUIVALENT"),
    (0x2264, "01LESS-THAN OR EQUAL,03GREATER-THAN,02LESS-THAN OVER,03GREATER-THAN"),
    (0x2268, "02LESS-THAN BUT NOT,04GREATER-THAN,00MUCH LESS-THAN,10GREATER-THAN"),
    (0x226c, "00BETWEEN,00NOT EQUIVALENT TO,10LESS-THAN,10GREATER-THAN"),
    (0x2270, "00NEITHER LESS-THAN NOR EQUAL TO,13GREATER-THAN"),
    (0x2272, "01LESS-THAN OR EQUIVALENT,03GREATER-THAN,02NEITHER LESS-THAN NOR"),
    (0x2275, "13GREATER-THAN,00LESS-THAN OR GREATER-THAN,00GREATER-THAN OR LESS-THAN"),
    (0x2278, "00NEITHER LESS-THAN NOR GREATER-THAN,10GREATER-THAN NOR LESS-THAN"),
    (0x227a, "00PRECEDES,00SUCCEEDS,00PRECEDES OR EQUAL TO,03SUCCEEDS"),
    (0x227e, "01PRECEDES OR EQUIVALENT,03SUCCEEDS,00DOES NOT PRECEDE,20SUCCEED"),
    (0x2282, "00SUBSET OF,01SUPERSET,01NOT A SUBSET,21SUPERSET"),
    (0x2286, "00SUBSET OF OR EQUAL TO,04SUPERSET,02NEITHER A SUBSET OF NOR,24SUPERSET"),
    (0x228a, "02SUBSET OF WITH NOT,05SUPERSET,00MULTISET,10MULTIPLICATION,10UNION"),
    (0x228f, "00SQUARE IMAGE OF,11ORIGINAL,10IMAGE OF OR EQUAL TO,14ORIGINAL,10CAP"),
    (0x2294, "10CUP,00CIRCLED PLUS,10MINUS,10TIMES,10DIVISION SLASH,10DOT OPERATOR"),
    (0x229a, "11RING,11ASTERISK,10EQUALS,10DASH,00SQUARED PLUS,10MINUS,10TIMES"),
    (0x22a1, "10DOT OPERATOR,00RIGHT TACK,01LEFT,01DOWN,01UP,00ASSERTION,00MODELS"),
    (0x22a8, "00TRUE,00FORCES,00TRIPLE VERTICAL BAR RIGHT TURNSTILE"),
    (0x22ab, "02DOUBLE VERTICAL BAR DOUBLE,00DOES NOT PROVE,00NOT TRUE"),
    (0x22ae, "00DOES NOT FORCE,00NEGATED DOUBLE VERTICAL BAR DOUBLE RIGHT TURNSTILE"),
    (0x22b0, "00PRECEDES UNDER RELATION,02SUCCEEDS,00NORMAL SUBGROUP OF"),
    (0x22b3, "00CONTAINS AS NORMAL SUBGROUP,00NORMAL SUBGROUP OF OR EQUAL TO"),
    (0x22b5, "03CONTAINS AS NORMAL SUBGROUP,00ORIGINAL OF,01IMAGE,00MULTIMAP"),
    (0x22b9, "00HERMITIAN CONJUGATE MATRIX,00INTERCALATE,00XOR,00NAND,00NOR"),
    (0x22be, "00RIGHT ANGLE WITH ARC,10TRIANGLE,00N-ARY LOGICAL AND,20OR"),
    (0x22c2, "10INTERSECTION,10UNION,00DIAMOND OPERATOR,01DOT,01STAR,00DIVISION TIMES"),
    (0x22c8, "00BOWTIE,00LEFT NORMAL FACTOR SEMIDIRECT PRODUCT,04RIGHT,02LEFT,02RIGHT"),
    (0x22cd, "00REVERSED TILDE EQUALS,00CURLY LOGICAL OR,20AND,00DOUBLE SUBSET"),
    (0x22d1, "10SUPERSET,10INTERSECTION,10UNION,00PITCHFORK,00EQUAL AND PARALLEL TO"),
    (0x22d6, "00LESS-THAN WITH DOT,02GREATER-THAN,00VERY MUCH LESS-THAN"),
    (0x22d9, "20GREATER-THAN,01LESS-THAN EQUAL TO OR"),
    (0x22db, "00GREATER-THAN EQUAL TO OR LESS-THAN,04,30GREATER-THAN,30PRECEDES"),
    (0x22df, "30SUCCEEDS,00DOES NOT PRECEDE OR EQUAL,22SUCCEED"),
    (0x22e2, "00NOT SQUARE IMAGE OF OR EQUAL TO,24ORIGINAL,02SQUARE IMAGE OF OR NOT"),
    (0x22e5, "15ORIGINAL,01LESS-THAN BUT NOT EQUIVALENT,04GREATER-THAN,04PRECEDES"),
    (0x22e9, "04SUCCEEDS,00NOT NORMAL SUBGROUP OF"),
    (0x22eb, "00DOES NOT CONTAIN AS NORMAL SUBGROUP"),
    (0x22ec, "00NOT NORMAL SUBGROUP OF OR EQUAL TO"),
    (0x22ed, "00DOES NOT CONTAIN AS NORMAL SUBGROUP OR EQUAL,00VERTICAL ELLIPSIS"),
    (0x22ef, "01MIDLINE HORIZONTAL,01UP RIGHT DIAGONAL,03DOWN"),
    (0x22f2, "00ELEMENT OF WITH LONG HORIZONTAL STROKE,32VERTICAL BAR AT END OF"),
    (0x22f4, "09SMALL ELEMENT,00ELEMENT OF WITH DOT ABOVE,30OVERBAR,04SMALL"),
    (0x22f8, "00ELEMENT OF WITH UNDERBAR,30TWO HORIZONTAL STROKES"),
    (0x22fa, "00CONTAINS WITH LONG HORIZONTAL STROKE,22VERTICAL BAR AT END OF,09SMALL"),
    (0x22fd, "00CONTAINS WITH OVERBAR,03SMALL,00Z NOTATION BAG MEMBERSHIP"),
    (0x2300, "00DIAMETER SIGN,00ELECTRIC ARROW,00HOUSE,00UP ARROWHEAD,01DOWN"),
    (0x2305, "00PROJECTIVE,00PERSPECTIVE,00WAVY LINE,00LEFT CEILING,01RIGHT"),
    (0x230a, "00LEFT FLOOR,01RIGHT,00BOTTOM RIGHT CROP,11LEFT,01TOP RIGHT,11LEFT"),
    (0x2310, "00REVERSED NOT SIGN,00SQUARE LOZENGE,00ARC,00SEGMENT,00SECTOR"),
    (0x2315, "00TELEPHONE RECORDER,00POSITION INDICATOR,00VIEWDATA SQUARE"),
    (0x2318, "00PLACE OF INTEREST SIGN,01TURNED NOT,00WATCH,00HOURGLASS"),
    (0x231c, "00TOP LEFT CORNER,11RIGHT,01BOTTOM LEFT,11RIGHT,00TOP HALF INTEGRAL"),
    (0x2321, "02BOTTOM,00FROWN,00SMILE,00UP ARROWHEAD BETWEEN TWO HORIZONTAL BARS"),
    (0x2325, "00OPTION KEY,00ERASE TO THE RIGHT,00X IN A RECTANGLE BOX,00KEYBOARD"),
    (0x2329, "00LEFT-POINTING ANGLE BRACKET,02RIGHT-POINTING,00ERASE TO THE LEFT"),
    (0x232c, "00BENZENE RING,00CYLINDRICITY,00ALL AROUND-PROFILE,00SYMMETRY"),
    (0x2330, "00TOTAL RUNOUT,00DIMENSION ORIGIN,00CONICAL TAPER,00SLOPE,00COUNTERBORE"),
    (0x2335, "00COUNTERSINK,00APL FUNCTIONAL SYMBOL I-BEAM,30SQUISH QUAD,30QUAD EQUAL"),
    (0x2339, "40DIVIDE,40DIAMOND,40JOT,40CIRCLE,30CIRCLE STILE,40JOT,30SLASH BAR"),
    (0x2340, "31BACKSLASH,30QUAD SLASH,40BACKSLASH,40LESS-THAN,40GREATER-THAN"),
    (0x2345, "30LEFTWARDS VANE,31RIGHTWARDS,30QUAD LEFTWARDS ARROW,41RIGHTWARDS"),
    (0x2349, "30CIRCLE BACKSLASH,30DOWN TACK UNDERBAR,30DELTA STILE,30QUAD DOWN CARET"),
    (0x234d, "40DELTA,30DOWN TACK JOT,30UPWARDS VANE,30QUAD UPWARDS ARROW"),
    (0x2351, "30UP TACK OVERBAR,30DEL STILE,30QUAD UP CARET,40DEL,30UP TACK JOT"),
    (0x2356, "30DOWNWARDS VANE,30QUAD DOWNWARDS ARROW,30QUOTE UNDERBAR,31DELTA"),
    (0x235a, "31DIAMOND,31JOT,31CIRCLE,30UP SHOE JOT,30QUOTE QUAD,30CIRCLE STAR"),
    (0x2360, "30QUAD COLON,30UP TACK DIAERESIS,31DEL,31STAR,31JOT,31CIRCLE"),
    (0x2366, "30DOWN SHOE STILE,32LEFT,30TILDE DIAERESIS,31GREATER-THAN,30COMMA BAR"),
    (0x236b, "30DEL TILDE,30ZILDE,30STILE TILDE,30SEMICOLON UNDERBAR,30QUAD NOT EQUAL"),
    (0x2370, "40QUESTION,30DOWN CARET TILDE,32UP,30IOTA,30RHO,30OMEGA"),
    (0x2376, "30ALPHA UNDERBAR,31EPSILON,31IOTA,31OMEGA,30ALPHA,00NOT CHECK MARK"),
    (0x237c, "00RIGHT ANGLE WITH DOWNWARDS ZIGZAG ARROW,00SHOULDERED OPEN BOX"),
    (0x237e, "00BELL SYMBOL,00VERTICAL LINE WITH MIDDLE DOT,00INSERTION SYMBOL"),
    (0x2381, "01CONTINUOUS UNDERLINE,02DISCONTINUOUS,01EMPHASIS,01COMPOSITION"),
    (0x2385, "00WHITE SQUARE WITH CENTRE VERTICAL LINE,00ENTER SYMBOL"),
    (0x2387, "01ALTERNATIVE KEY,01HELM,00CIRCLED HORIZONTAL BAR WITH NOTCH"),
    (0x238a, "10TRIANGLE DOWN,00BROKEN CIRCLE WITH NORTHWEST ARROW,00UNDO SYMBOL"),
    (0x238d, "01MONOSTABLE,01HYSTERESIS,01OPEN-CIRCUIT-OUTPUT H-TYPE,11L-TYPE"),
    (0x2391, "01PASSIVE-PULL-DOWN-OUTPUT,01PASSIVE-PULL-UP-OUTPUT"),
    (0x2393, "00DIRECT CURRENT SYMBOL FORM TWO,00SOFTWARE-FUNCTION SYMBOL"),
    (0x2395, "00APL FUNCTIONAL SYMBOL QUAD,00DECIMAL SEPARATOR KEY SYMBOL"),
    (0x2397, "00PREVIOUS PAGE,01NEXT,00PRINT SCREEN SYMBOL,02CLEAR"),
    (0x239b, "00LEFT PARENTHESIS UPPER HOOK,20EXTENSION,20LOWER HOOK"),
    (0x239e, "01RIGHT PARENTHESIS UPPER,20EXTENSION,20LOWER HOOK"),
    (0x23a1, "00LEFT SQUARE BRACKET UPPER CORNER,30EXTENSION,30LOWER CORNER"),
    (0x23a4, "01RIGHT SQUARE BRACKET UPPER,30EXTENSION,30LOWER CORNER"),
    (0x23a7, "00LEFT CURLY BRACKET UPPER HOOK,30MIDDLE PIECE,30LOWER HOOK"),
    (0x23aa, "00CURLY BRACKET EXTENSION,00RIGHT CURLY BRACKET UPPER HOOK"),
    (0x23ac, "30MIDDLE PIECE,30LOWER HOOK,00INTEGRAL EXTENSION,01HORIZONTAL LINE"),
    (0x23b0, "00UPPER LEFT OR LOWER RIGHT CURLY BRACKET SECTION,13RIGHT OR LOWER LEFT"),
    (0x23b2, "00SUMMATION TOP,10BOTTOM,00TOP SQUARE BRACKET,02BOTTOM,32OVER TOP"),
    (0x23b7, "00RADICAL SYMBOL BOTTOM,00LEFT VERTICAL BOX LINE,03RIGHT"),
    (0x23ba, "00HORIZONTAL SCAN LINE-1,20LINE-3,20LINE-7,20LINE-9"),
    (0x23be, "00DENTISTRY SYMBOL LIGHT VERTICAL AND TOP RIGHT,51BOTTOM,40WITH CIRCLE"),
    (0x23c1, "32DOWN AND HORIZONTAL,34UP,30VERTICAL WITH TRIANGLE"),
    (0x23c4, "32DOWN AND HORIZONTAL,34UP,30VERTICAL AND WAVE"),
    (0x23c7, "31DOWN AND HORIZONTAL WITH,34UP,30DOWN AND HORIZONTAL,32UP"),
    (0x23cb, "30VERTICAL AND TOP LEFT,51BOTTOM,00SQUARE FOOT,00RETURN SYMBOL,01EJECT"),
    (0x23d0, "00VERTICAL LINE EXTENSION,00METRICAL BREVE,10LONG OVER SHORT"),
    (0x23d3, "10SHORT OVER LONG,10LONG OVER TWO SHORTS,10TWO SHORTS OVER LONG"),
    (0x23d6, "30JOINED,10TRISEME,10TETRASEME,10PENTASEME,00EARTH GROUND,00FUSE"),
    (0x23dc, "00TOP PARENTHESIS,01BOTTOM,00TOP CURLY BRACKET,02BOTTOM"),
    (0x23e0, "01TOP TORTOISE SHELL,03BOTTOM,00WHITE TRAPEZIUM"),
    (0x23e3, "00BENZENE RING WITH CIRCLE,00STRAIGHTNESS,00FLATNESS,00AC CURRENT"),
    (0x23e7, "00ELECTRICAL INTERSECTION,00DECIMAL EXPONENT SYMBOL"),
    (0x23e9, "00BLACK RIGHT-POINTING DOUBLE TRIANGLE,12LEFT-POINTING,12UP-POINTING"),
    (0x23ec, "12DOWN-POINTING,10RIGHT-POINTING DOUBLE TRIANGLE WITH VERTICAL BAR"),
    (0x23ee, "15LEFT-POINTING,12RIGHT-POINTING TRIANGLE WITH DOUBLE,00ALARM CLOCK"),
    (0x23f1, "00STOPWATCH,00TIMER CLOCK,00HOURGLASS WITH FLOWING SAND"),
    (0x23f4, "00BLACK MEDIUM LEFT-POINTING TRIANGLE,21RIGHT-POINTING,21UP-POINTING"),
    (0x23f7, "21DOWN-POINTING,00DOUBLE VERTICAL BAR,00BLACK SQUARE FOR STOP"),
    (0x23fa, "10CIRCLE FOR RECORD,00POWER SYMBOL,11ON-OFF,11ON,11SLEEP,01OBSERVER EYE"),
    (0x2400, "00SYMBOL FOR NULL,20START OF HEADING,40TEXT,22END,40TRANSMISSION"),
    (0x2405, "20ENQUIRY,20ACKNOWLEDGE,20BELL,20BACKSPACE,20HORIZONTAL TABULATION"),
    (0x240a, "20LINE FEED,20VERTICAL TABULATION,20FORM FEED,20CARRIAGE RETURN"),
    (0x240e, "20SHIFT OUT,30IN,20DATA LINK ESCAPE,20DEVICE CONTROL ONE,40TWO,40THREE"),
    (0x2414, "40FOUR,20NEGATIVE ACKNOWLEDGE,20SYNCHRONOUS IDLE"),
    (0x2417, "20END OF TRANSMISSION BLOCK,20CANCEL,20END OF MEDIUM,20SUBSTITUTE"),
    (0x241b, "20ESCAPE,20FILE SEPARATOR,21GROUP,21RECORD,21UNIT,20SPACE,20DELETE"),
    (0x2422, "00BLANK SYMBOL,00OPEN BOX,00SYMBOL FOR NEWLINE,20DELETE FORM TWO"),
    (0x2426, "22SUBSTITUTE"),
    (0x2440, "00OCR HOOK,10CHAIR,10FORK,11INVERTED,10BELT BUCKLE,10BOW TIE"),
    (0x2446, "10BRANCH BANK IDENTIFICATION,10AMOUNT OF CHECK,10DASH"),
    (0x2449, "10CUSTOMER ACCOUNT NUMBER,10DOUBLE BACKSLASH"),
    (0x2460, "00CIRCLED DIGIT ONE,20TWO,20THREE,20FOUR,20FIVE,20SIX,20SEVEN,20EIGHT"),
    (0x2468, "20NINE,10NUMBER TEN,20ELEVEN,20TWELVE,20THIRTEEN,20FOURTEEN,20FIFTEEN"),
    (0x246f, "20SIXTEEN,20SEVENTEEN,20EIGHTEEN,20NINETEEN,20TWENTY"),
    (0x2474, "00PARENTHESIZED DIGIT ONE,20TWO,20THREE,20FOUR,20FIVE,20SIX,20SEVEN"),
    (0x247b, "20EIGHT,20NINE,10NUMBER TEN,20ELEVEN,20TWELVE,20THIRTEEN,20FOURTEEN"),
    (0x2482, "20FIFTEEN,20SIXTEEN,20SEVENTEEN,20EIGHTEEN,20NINETEEN,20TWENTY"),
    (0x2488, "00DIGIT ONE FULL STOP,12TWO,12THREE,12FOUR,12FIVE,12SIX,12SEVEN,12EIGHT"),
    (0x2490, "12NINE,02NUMBER TEN,12ELEVEN,12TWELVE,12THIRTEEN,12FOURTEEN,12FIFTEEN"),
    (0x2497, "12SIXTEEN,12SEVENTEEN,12EIGHTEEN,12NINETEEN,12TWENTY"),
    (0x249c, "00PARENTHESIZED LATIN SMALL LETTER A,40B,40C,40D,40E,40F,40G,40H,40I"),
    (0x24a5, "40J,40K,40L,40M,40N,40O,40P,40Q,40R,40S,40T,40U,40V,40W,40X,40Y,40Z"),
    (0x24b6, "00CIRCLED LATIN CAPITAL LETTER A,40B,40C,40D,40E,40F,40G,40H,40I,40J"),
    (0x24c0, "40K,40L,40M,40N,40O,40P,40Q,40R,40S,40T,40U,40V,40W,40X,40Y,40Z"),
    (0x24d0, "20SMALL LETTER A,40B,40C,40D,40E,40F,40G,40H,40I,40J,40K,40L,40M,40N"),
    (0x24de, "40O,40P,40Q,40R,40S,40T,40U,40V,40W,40X,40Y,40Z,10DIGIT ZERO"),
    (0x24eb, "00NEGATIVE CIRCLED NUMBER ELEVEN,30TWELVE,30THIRTEEN,30FOURTEEN"),
    (0x24ef, "30FIFTEEN,30SIXTEEN,30SEVENTEEN,30EIGHTEEN,30NINETEEN,30TWENTY"),
    (0x24f5, "00DOUBLE CIRCLED DIGIT ONE,30TWO,30THREE,30FOUR,30FIVE,30SIX,30SEVEN"),
    (0x24fc, "30EIGHT,30NINE,20NUMBER TEN,00NEGATIVE CIRCLED DIGIT ZERO"),
    (0x2500, "00BOX DRAWINGS LIGHT HORIZONTAL,21HEAVY,20LIGHT VERTICAL,21HEAVY"),
    (0x2504, "20LIGHT TRIPLE DASH HORIZONTAL,23HEAVY,20LIGHT TRIPLE DASH VERTICAL"),
    (0x2507, "23HEAVY,20LIGHT QUADRUPLE DASH HORIZONTAL,23HEAVY"),
    (0x250a, "20LIGHT QUADRUPLE DASH VERTICAL,23HEAVY,20LIGHT DOWN AND RIGHT"),
    (0x250d, "20DOWN LIGHT AND RIGHT HEAVY,30HEAVY AND RIGHT LIGHT"),
    (0x250f, "20HEAVY DOWN AND RIGHT,20LIGHT DOWN AND LEFT"),
    (0x2511, "20DOWN LIGHT AND LEFT HEAVY,30HEAVY AND LEFT LIGHT"),
    (0x2513, "20HEAVY DOWN AND LEFT,20LIGHT UP AND RIGHT,20UP LIGHT AND RIGHT HEAVY"),
    (0x2516, "30HEAVY AND RIGHT LIGHT,20HEAVY UP AND RIGHT,20LIGHT UP AND LEFT"),
    (0x2519, "20UP LIGHT AND LEFT HEAVY,30HEAVY AND LEFT LIGHT,20HEAVY UP AND LEFT"),
    (0x251c, "20LIGHT VERTICAL AND RIGHT,20VERTICAL LIGHT AND RIGHT HEAVY"),
    (0x251e, "20UP HEAVY AND RIGHT DOWN LIGHT,21DOWN HEAVY AND RIGHT UP"),
    (0x2520, "21VERTICAL HEAVY AND RIGHT,20DOWN LIGHT AND RIGHT UP HEAVY"),
    (0x2522, "21UP LIGHT AND RIGHT DOWN,20HEAVY VERTICAL AND RIGHT"),
    (0x2524, "20LIGHT VERTICAL AND LEFT,20VERTICAL LIGHT AND LEFT HEAVY"),
    (0x2526, "20UP HEAVY AND LEFT DOWN LIGHT,21DOWN HEAVY AND LEFT UP"),
    (0x2528, "21VERTICAL HEAVY AND LEFT,20DOWN LIGHT AND LEFT UP HEAVY"),
    (0x252a, "21UP LIGHT AND LEFT DOWN,20HEAVY VERTICAL AND LEFT"),
    (0x252c, "20LIGHT DOWN AND HORIZONTAL,20LEFT HEAVY AND RIGHT DOWN LIGHT"),
    (0x252e, "22RIGHT HEAVY AND LEFT,20DOWN LIGHT AND HORIZONTAL HEAVY"),
    (0x2530, "30HEAVY AND HORIZONTAL LIGHT,20RIGHT LIGHT AND LEFT DOWN HEAVY"),
    (0x2532, "22LEFT LIGHT AND RIGHT,20HEAVY DOWN AND HORIZONTAL,22LIGHT UP"),
    (0x2535, "20LEFT HEAVY AND RIGHT UP LIGHT,22RIGHT HEAVY AND LEFT"),
    (0x2537, "20UP LIGHT AND HORIZONTAL HEAVY,30HEAVY AND HORIZONTAL LIGHT"),
    (0x2539, "20RIGHT LIGHT AND LEFT UP HEAVY,22LEFT LIGHT AND RIGHT"),
    (0x253b, "20HEAVY UP AND HORIZONTAL,22LIGHT VERTICAL"),
    (0x253d, "20LEFT HEAVY AND RIGHT VERTICAL LIGHT,22RIGHT HEAVY AND LEFT"),
    (0x253f, "20VERTICAL LIGHT AND HORIZONTAL HEAVY"),
    (0x2540, "20UP HEAVY AND DOWN HORIZONTAL LIGHT,22DOWN HEAVY AND UP"),
    (0x2542, "22VERTICAL HEAVY AND,21LEFT UP HEAVY AND RIGHT DOWN"),
    (0x2544, "22RIGHT UP HEAVY AND LEFT,21LEFT DOWN HEAVY AND RIGHT UP"),
    (0x2546, "22RIGHT DOWN HEAVY AND LEFT,20DOWN LIGHT AND UP HORIZONTAL HEAVY"),
    (0x2548, "22UP LIGHT AND DOWN,21RIGHT LIGHT AND LEFT VERTICAL"),
    (0x254a, "22LEFT LIGHT AND RIGHT,20HEAVY VERTICAL AND HORIZONTAL"),
    (0x254c, "21LIGHT DOUBLE DASH,23HEAVY,20LIGHT DOUBLE DASH VERTICAL,23HEAVY"),
    (0x2550, "20DOUBLE HORIZONTAL,30VERTICAL,20DOWN SINGLE AND RIGHT DOUBLE"),
    (0x2553, "30DOUBLE AND RIGHT SINGLE,20DOUBLE DOWN AND RIGHT"),
    (0x2555, "20DOWN SINGLE AND LEFT DOUBLE,30DOUBLE AND LEFT SINGLE"),
    (0x2557, "20DOUBLE DOWN AND LEFT,20UP SINGLE AND RIGHT DOUBLE"),
    (0x2559, "30DOUBLE AND RIGHT SINGLE,20DOUBLE UP AND RIGHT"),
    (0x255b, "20UP SINGLE AND LEFT DOUBLE,30DOUBLE AND LEFT SINGLE"),
    (0x255d, "20DOUBLE UP AND LEFT,20VERTICAL SINGLE AND RIGHT DOUBLE"),
    (0x255f, "30DOUBLE AND RIGHT SINGLE,20DOUBLE VERTICAL AND RIGHT"),
    (0x2561, "20VERTICAL SINGLE AND LEFT DOUBLE,30DOUBLE AND LEFT SINGLE"),
    (0x2563, "20DOUBLE VERTICAL AND LEFT,20DOWN SINGLE AND HORIZONTAL DOUBLE"),
    (0x2565, "30DOUBLE AND HORIZONTAL SINGLE,20DOUBLE DOWN AND HORIZONTAL"),
    (0x2567, "20UP SINGLE AND HORIZONTAL DOUBLE,30DOUBLE AND HORIZONTAL SINGLE"),
    (0x2569, "20DOUBLE UP AND HORIZONTAL,20VERTICAL SINGLE AND HORIZONTAL DOUBLE"),
    (0x256b, "30DOUBLE AND HORIZONTAL SINGLE,20DOUBLE VERTICAL AND HORIZONTAL"),
    (0x256d, "20LIGHT ARC DOWN AND RIGHT,60LEFT,42UP,60RIGHT"),
    (0x2571, "30DIAGONAL UPPER RIGHT TO LOWER LEFT,50LEFT TO LOWER RIGHT,40CROSS"),
    (0x2574, "30LEFT,30UP,30RIGHT,30DOWN,20HEAVY LEFT,30UP,30RIGHT,30DOWN"),
    (0x257c, "20LIGHT LEFT AND HEAVY RIGHT,30UP AND HEAVY DOWN"),
    (0x257e, "20HEAVY LEFT AND LIGHT RIGHT,30UP AND LIGHT DOWN,00UPPER HALF BLOCK"),
    (0x2581, "01LOWER ONE EIGHTH,21QUARTER,11THREE EIGHTHS,11HALF,11FIVE EIGHTHS"),
    (0x2586, "11THREE QUARTERS,11SEVEN EIGHTHS,01FULL,01LEFT SEVEN EIGHTHS"),
    (0x258a, "11THREE QUARTERS,11FIVE EIGHTHS,11HALF,11THREE EIGHTHS,11ONE QUARTER"),
    (0x258f, "21EIGHTH,01RIGHT HALF,00LIGHT SHADE,01MEDIUM,01DARK"),
    (0x2594, "00UPPER ONE EIGHTH BLOCK,03RIGHT,00QUADRANT LOWER LEFT,20RIGHT"),
    (0x2598, "10UPPER LEFT,30AND LOWER LEFT AND LOWER RIGHT,51"),
    (0x259b, "40UPPER RIGHT AND LOWER LEFT,80RIGHT,21,30AND LOWER LEFT"),
    (0x259f, "60AND LOWER RIGHT,00BLACK SQUARE,01WHITE,20WITH ROUNDED CORNERS"),
    (0x25a3, "20CONTAINING BLACK SMALL SQUARE,00SQUARE WITH HORIZONTAL FILL"),
    (0x25a5, "21VERTICAL,21ORTHOGONAL CROSSHATCH,21UPPER LEFT TO LOWER RIGHT"),
    (0x25a8, "31RIGHT TO LOWER LEFT,21DIAGONAL CROSSHATCH,00BLACK SMALL SQUARE"),
    (0x25ab, "02WHITE,00BLACK RECTANGLE,01WHITE,01BLACK VERTICAL,02WHITE"),
    (0x25b0, "00BLACK PARALLELOGRAM,01WHITE,00BLACK UP-POINTING TRIANGLE,02WHITE"),
    (0x25b4, "01BLACK UP-POINTING SMALL,03WHITE,01BLACK RIGHT-POINTING,02WHITE"),
    (0x25b8, "01BLACK RIGHT-POINTING SMALL,03WHITE,00BLACK RIGHT-POINTING POINTER"),
    (0x25bb, "02WHITE,00BLACK DOWN-POINTING TRIANGLE,02WHITE"),
    (0x25be, "01BLACK DOWN-POINTING SMALL,03WHITE,01BLACK LEFT-POINTING,02WHITE"),
    (0x25c2, "01BLACK LEFT-POINTING SMALL,03WHITE,00BLACK LEFT-POINTING POINTER"),
    (0x25c5, "02WHITE,00BLACK DIAMOND,01WHITE,21CONTAINING BLACK SMALL,00FISHEYE"),
    (0x25ca, "00LOZENGE,00WHITE CIRCLE,01DOTTED,00CIRCLE WITH VERTICAL FILL"),
    (0x25ce, "00BULLSEYE,00BLACK CIRCLE,00CIRCLE WITH LEFT HALF BLACK,22RIGHT,22LOWER"),
    (0x25d3, "22UPPER,31RIGHT QUADRANT,22ALL BUT UPPER LEFT,00LEFT HALF BLACK CIRCLE"),
    (0x25d7, "03RIGHT,00INVERSE BULLET,10WHITE CIRCLE,03UPPER HALF,04LOWER"),
    (0x25dc, "00UPPER LEFT QUADRANT CIRCULAR ARC,13RIGHT,04LOWER,13LEFT"),
    (0x25e0, "00UPPER HALF CIRCLE,02LOWER,00BLACK LOWER RIGHT TRIANGLE,21LEFT,12UPPER"),
    (0x25e5, "21RIGHT,00WHITE BULLET,00SQUARE WITH LEFT HALF BLACK,22RIGHT"),
    (0x25e9, "22UPPER LEFT DIAGONAL,23LOWER RIGHT"),
    (0x25eb, "00WHITE SQUARE WITH VERTICAL BISECTING LINE"),
    (0x25ec, "10UP-POINTING TRIANGLE WITH DOT"),
    (0x25ed, "00UP-POINTING TRIANGLE WITH LEFT HALF BLACK,32RIGHT,00LARGE CIRCLE"),
    (0x25f0, "00WHITE SQUARE WITH UPPER LEFT QUADRANT,32LOWER,41RIGHT,32UPPER"),
    (0x25f4, "11CIRCLE WITH UPPER LEFT,32LOWER,41RIGHT,32UPPER,00UPPER LEFT TRIANGLE"),
    (0x25f9, "11RIGHT,01LOWER LEFT,00WHITE MEDIUM SQUARE,02BLACK,01WHITE MEDIUM SMALL"),
    (0x25fe, "03BLACK,00LOWER RIGHT TRIANGLE,00BLACK SUN WITH RAYS,00CLOUD,00UMBRELLA"),
    (0x2603, "00SNOWMAN,00COMET,00BLACK STAR,01WHITE,00LIGHTNING,00THUNDERSTORM,00SUN"),
    (0x260a, "00ASCENDING NODE,01DESCENDING,00CONJUNCTION,00OPPOSITION"),
    (0x260e, "00BLACK TELEPHONE,01WHITE,00BALLOT BOX,20WITH CHECK,30X,00SALTIRE"),
    (0x2614, "00UMBRELLA WITH RAIN DROPS,00HOT BEVERAGE,00WHITE SHOGI PIECE,02BLACK"),
    (0x2618, "00SHAMROCK,00REVERSED ROTATED FLORAL HEART BULLET"),
    (0x261a, "00BLACK LEFT POINTING INDEX,12RIGHT,02WHITE LEFT,12UP,12RIGHT,12DOWN"),
    (0x2620, "00SKULL AND CROSSBONES,00CAUTION SIGN,01RADIOACTIVE,01BIOHAZARD"),
    (0x2624, "00CADUCEUS,00ANKH,00ORTHODOX CROSS,00CHI RHO,00CROSS OF LORRAINE"),
    (0x2629, "20JERUSALEM,00STAR AND CRESCENT,00FARSI SYMBOL,00ADI SHAKTI"),
    (0x262d, "00HAMMER AND SICKLE,00PEACE SYMBOL,00YIN YANG,00TRIGRAM FOR HEAVEN"),
    (0x2631, "20LAKE,20FIRE,20THUNDER,20WIND,20WATER,20MOUNTAIN,20EARTH"),
    (0x2638, "00WHEEL OF DHARMA,00WHITE FROWNING FACE,11SMILING,02BLACK"),
    (0x263c, "00WHITE SUN WITH RAYS,00FIRST QUARTER MOON,02LAST,00MERCURY"),
    (0x2640, "00FEMALE SIGN,00EARTH,00MALE SIGN,00JUPITER,00SATURN,00URANUS,00NEPTUNE"),
    (0x2647, "00PLUTO,00ARIES,00TAURUS,00GEMINI,00CANCER,00LEO,00VIRGO,00LIBRA"),
    (0x264f, "00SCORPIUS,00SAGITTARIUS,00CAPRICORN,00AQUARIUS,00PISCES"),
    (0x2654, "00WHITE CHESS KING,20QUEEN,20ROOK,20BISHOP,20KNIGHT,20PAWN"),
    (0x265a, "00BLACK CHESS KING,20QUEEN,20ROOK,20BISHOP,20KNIGHT,20PAWN,10SPADE SUIT"),
    (0x2661, "01WHITE HEART,11DIAMOND,01BLACK CLUB,01WHITE SPADE,01BLACK HEART"),
    (0x2666, "11DIAMOND,01WHITE CLUB,00HOT SPRINGS,00QUARTER NOTE,01EIGHTH"),
    (0x266b, "00BEAMED EIGHTH NOTES,11SIXTEENTH,00MUSIC FLAT SIGN,11NATURAL,11SHARP"),
    (0x2670, "00WEST SYRIAC CROSS,02EAST,00UNIVERSAL RECYCLING SYMBOL"),
    (0x2673, "00RECYCLING SYMBOL FOR TYPE-1 PLASTICS,31TYPE-2,31TYPE-3,31TYPE-4"),
    (0x2677, "31TYPE-5,31TYPE-6,31TYPE-7,30GENERIC MATERIALS"),
    (0x267b, "00BLACK UNIVERSAL RECYCLING SYMBOL,01RECYCLED PAPER"),
    (0x267d, "02PARTIALLY-RECYCLED,00PERMANENT PAPER SIGN,00WHEELCHAIR SYMBOL"),
    (0x2680, "00DIE FACE-1,10FACE-2,10FACE-3,10FACE-4,10FACE-5,10FACE-6"),
    (0x2686, "00WHITE CIRCLE WITH DOT RIGHT,30TWO DOTS"),
    (0x2688, "00BLACK CIRCLE WITH WHITE DOT RIGHT,30TWO WHITE DOTS"),
    (0x268a, "00MONOGRAM FOR YANG,20YIN,00DIGRAM FOR GREATER YANG,20LESSER YIN,30YANG"),
    (0x268f, "20GREATER YIN,00WHITE FLAG,01BLACK,00HAMMER AND PICK,00ANCHOR"),
    (0x2694, "00CROSSED SWORDS,00STAFF OF AESCULAPIUS,00SCALES,00ALEMBIC,00FLOWER"),
    (0x2699, "00GEAR,00STAFF OF HERMES,00ATOM SYMBOL,00FLEUR-DE-LIS"),
    (0x269d, "00OUTLINED WHITE STAR,00THREE LINES CONVERGING RIGHT,30LEFT"),
    (0x26a0, "00WARNING SIGN,01HIGH VOLTAGE,01DOUBLED FEMALE,11MALE"),
    (0x26a4, "02INTERLOCKED FEMALE AND,01MALE AND FEMALE,11WITH STROKE"),
    (0x26a7, "31AND MALE AND FEMALE,01VERTICAL MALE WITH STROKE,04HORIZONTAL"),
    (0x26aa, "00MEDIUM WHITE CIRCLE,11BLACK,11SMALL WHITE,00MARRIAGE SYMBOL,01DIVORCE"),
    (0x26af, "01UNMARRIED PARTNERSHIP,00COFFIN,00FUNERAL URN,00NEUTER,00CERES"),
    (0x26b4, "00PALLAS,00JUNO,00VESTA,00CHIRON,00BLACK MOON LILITH,00SEXTILE"),
    (0x26ba, "00SEMISEXTILE,00QUINCUNX,00SESQUIQUADRATE,00SOCCER BALL,00BASEBALL"),
    (0x26bf, "00SQUARED KEY,00WHITE DRAUGHTS MAN,20KING,00BLACK DRAUGHTS MAN,20KING"),
    (0x26c4, "00SNOWMAN WITHOUT SNOW,00SUN BEHIND CLOUD,00RAIN,00BLACK SNOWMAN"),
    (0x26c8, "00THUNDER CLOUD AND RAIN,00TURNED WHITE SHOGI PIECE,12BLACK"),
    (0x26cb, "00WHITE DIAMOND IN SQUARE,00CROSSING LANES,00DISABLED CAR,00OPHIUCHUS"),
    (0x26cf, "00PICK,00CAR SLIDING,00HELMET WITH WHITE CROSS,00CIRCLED CROSSING LANES"),
    (0x26d3, "00CHAINS,00NO ENTRY,00ALTERNATE ONE-WAY LEFT WAY TRAFFIC"),
    (0x26d6, "03BLACK TWO-WAY,04WHITE,00BLACK LEFT LANE MERGE,03WHITE"),
    (0x26da, "00DRIVE SLOW SIGN,00HEAVY WHITE DOWN-POINTING TRIANGLE"),
    (0x26dc, "00LEFT CLOSED ENTRY,00SQUARED SALTIRE"),
    (0x26de, "00FALLING DIAGONAL IN WHITE CIRCLE IN BLACK SQUARE,00BLACK TRUCK"),
    (0x26e0, "00RESTRICTED LEFT ENTRY-1,20ENTRY-2,00ASTRONOMICAL SYMBOL FOR URANUS"),
    (0x26e3, "00HEAVY CIRCLE WITH STROKE AND TWO DOTS ABOVE,00PENTAGRAM"),
    (0x26e5, "01RIGHT-HANDED INTERLACED,02LEFT-HANDED,01INVERTED"),
    (0x26e8, "00BLACK CROSS ON SHIELD,00SHINTO SHRINE,00CHURCH,00CASTLE"),
    (0x26ec, "00HISTORIC SITE,00GEAR WITHOUT HUB,10WITH HANDLES"),
    (0x26ef, "00MAP SYMBOL FOR LIGHTHOUSE,00MOUNTAIN,00UMBRELLA ON GROUND,00FOUNTAIN"),
    (0x26f3, "00FLAG IN HOLE,00FERRY,00SAILBOAT,00SQUARE FOUR CORNERS,00SKIER"),
    (0x26f8, "00ICE SKATE,00PERSON WITH BALL,00TENT,00JAPANESE BANK SYMBOL"),
    (0x26fc, "01HEADSTONE GRAVEYARD,00FUEL PUMP,00CUP ON BLACK SQUARE"),
    (0x26ff, "00WHITE FLAG WITH HORIZONTAL MIDDLE BLACK STRIPE"),
    (0x2700, "00BLACK SAFETY SCISSORS,01UPPER BLADE,01BLACK,01LOWER BLADE,01WHITE"),
    (0x2705, "10HEAVY CHECK MARK,00TELEPHONE LOCATION SIGN,00TAPE DRIVE,00AIRPLANE"),
    (0x2709, "00ENVELOPE,00RAISED FIST,10HAND,01VICTORY,01WRITING"),
    (0x270e, "00LOWER RIGHT PENCIL,01,01UPPER RIGHT,00WHITE NIB,01BLACK,00CHECK MARK"),
    (0x2714, "02HEAVY,00MULTIPLICATION X,02HEAVY,01BALLOT,02HEAVY"),
    (0x2719, "00OUTLINED GREEK CROSS,02HEAVY,01OPEN CENTRE,03HEAVY,01LATIN"),
    (0x271e, "02SHADOWED WHITE,02OUTLINED,01MALTESE,00STAR OF DAVID"),
    (0x2722, "00FOUR TEARDROP-SPOKED ASTERISK,11BALLOON-SPOKED,03HEAVY"),
    (0x2725, "01FOUR CLUB-SPOKED,00BLACK FOUR POINTED STAR,03WHITE,00SPARKLES"),
    (0x2729, "00STRESS OUTLINED WHITE STAR,02CIRCLED,01OPEN CENTRE BLACK"),
    (0x272c, "01BLACK CENTRE WHITE,01OUTLINED BLACK,03HEAVY,01PINWHEEL"),
    (0x2730, "01SHADOWED WHITE,00HEAVY ASTERISK,01OPEN CENTRE,01EIGHT SPOKED"),
    (0x2734, "10POINTED BLACK STAR,21PINWHEEL,01SIX POINTED BLACK"),
    (0x2737, "02EIGHT POINTED RECTILINEAR,05HEAVY,02TWELVE POINTED"),
    (0x273a, "00SIXTEEN POINTED ASTERISK,01TEARDROP-SPOKED,02OPEN CENTRE,02HEAVY"),
    (0x273e, "00SIX PETALLED BLACK AND WHITE FLORETTE,01BLACK,01WHITE"),
    (0x2741, "01EIGHT PETALLED OUTLINED BLACK"),
    (0x2742, "00CIRCLED OPEN CENTRE EIGHT POINTED STAR"),
    (0x2743, "00HEAVY TEARDROP-SPOKED PINWHEEL ASTERISK,00SNOWFLAKE"),
    (0x2745, "01TIGHT TRIFOLIATE,01HEAVY CHEVRON,00SPARKLE,01HEAVY"),
    (0x2749, "00BALLOON-SPOKED ASTERISK,01EIGHT TEARDROP-SPOKED PROPELLER,04HEAVY"),
    (0x274c, "00CROSS MARK,00SHADOWED WHITE CIRCLE,00NEGATIVE SQUARED CROSS MARK"),
    (0x274f, "00LOWER RIGHT DROP-SHADOWED WHITE SQUARE,04UPPER,02LOWER RIGHT SHADOWED"),
    (0x2752, "04UPPER,00BLACK QUESTION MARK ORNAMENT,03WHITE,12EXCLAMATION"),
    (0x2756, "00BLACK DIAMOND MINUS WHITE X,00HEAVY EXCLAMATION MARK SYMBOL"),
    (0x2758, "00LIGHT VERTICAL BAR,02MEDIUM,02HEAVY"),
    (0x275b, "10SINGLE TURNED COMMA QUOTATION MARK ORNAMENT,24,14DOUBLE TURNED,24"),
    (0x275f, "14LOW SINGLE,24DOUBLE,01CURVED STEM PARAGRAPH SIGN"),
    (0x2762, "01HEAVY EXCLAMATION MARK,13HEART,10BLACK HEART"),
    (0x2765, "00ROTATED HEAVY BLACK HEART BULLET,00FLORAL HEART"),
    (0x2767, "00ROTATED FLORAL HEART BULLET,00MEDIUM LEFT PARENTHESIS ORNAMENT"),
    (0x2769, "12RIGHT,12FLATTENED LEFT,22RIGHT,11LEFT-POINTING ANGLE BRACKET"),
    (0x276d, "13RIGHT-POINTING,01HEAVY LEFT-POINTING ANGLE QUOTATION MARK"),
    (0x276f, "14RIGHT-POINTING,11LEFT-POINTING ANGLE BRACKET,13RIGHT-POINTING"),
    (0x2772, "02LIGHT LEFT TORTOISE SHELL,14RIGHT,02MEDIUM LEFT CURLY,13RIGHT"),
    (0x2776, "00DINGBAT NEGATIVE CIRCLED DIGIT ONE,40TWO,40THREE,40FOUR,40FIVE,40SIX"),
    (0x277c, "40SEVEN,40EIGHT,40NINE,30NUMBER TEN,10CIRCLED SANS-SERIF DIGIT ONE"),
    (0x2781, "40TWO,40THREE,40FOUR,40FIVE,40SIX,40SEVEN,40EIGHT,40NINE,30NUMBER TEN"),
    (0x278a, "10NEGATIVE CIRCLED SANS-SERIF DIGIT ONE,50TWO,50THREE,50FOUR,50FIVE"),
    (0x278f, "50SIX,50SEVEN,50EIGHT,50NINE,40NUMBER TEN"),
    (0x2794, "00HEAVY WIDE-HEADED RIGHTWARDS ARROW,10PLUS SIGN,11MINUS,11DIVISION"),
    (0x2798, "10SOUTH EAST ARROW,11RIGHTWARDS,11NORTH EAST"),
    (0x279b, "01DRAFTING POINT RIGHTWARDS,02HEAVY ROUND-TIPPED,02TRIANGLE-HEADED"),
    (0x279e, "03HEAVY,03DASHED,04HEAVY,02BLACK"),
    (0x27a2, "00THREE-D TOP-LIGHTED RIGHTWARDS ARROWHEAD,12BOTTOM-LIGHTED,02BLACK"),
    (0x27a5, "00HEAVY BLACK CURVED DOWNWARDS AND RIGHTWARDS ARROW,33UPWARDS"),
    (0x27a7, "02SQUAT BLACK,03HEAVY CONCAVE-POINTED,02RIGHT-SHADED WHITE"),
    (0x27aa, "03LEFT-SHADED,03BACK-TILTED SHADOWED,04FRONT-TILTED"),
    (0x27ad, "03HEAVY LOWER RIGHT-SHADOWED,14UPPER,04NOTCHED LOWER,00CURLY LOOP"),
    (0x27b1, "00NOTCHED UPPER RIGHT-SHADOWED WHITE RIGHTWARDS ARROW,03CIRCLED HEAVY"),
    (0x27b3, "02WHITE-FEATHERED,01BLACK-FEATHERED SOUTH EAST,11RIGHTWARDS"),
    (0x27b6, "11NORTH EAST,02HEAVY BLACK-FEATHERED SOUTH,21RIGHTWARDS,21NORTH EAST"),
    (0x27ba, "01TEARDROP-BARBED RIGHTWARDS,02HEAVY TEARDROP-SHANKED,02WEDGE-TAILED"),
    (0x27bd, "03HEAVY,02OPEN-OUTLINED,00DOUBLE CURLY LOOP,00THREE DIMENSIONAL ANGLE"),
    (0x27c1, "00WHITE TRIANGLE CONTAINING SMALL WHITE TRIANGLE,00PERPENDICULAR"),
    (0x27c3, "00OPEN SUBSET,10SUPERSET,00LEFT S-SHAPED BAG DELIMITER,03RIGHT"),
    (0x27c7, "00OR WITH DOT INSIDE,00REVERSE SOLIDUS PRECEDING SUBSET"),
    (0x27c9, "00SUPERSET PRECEDING SOLIDUS,00VERTICAL BAR WITH HORIZONTAL STROKE"),
    (0x27cb, "00MATHEMATICAL RISING DIAGONAL,00LONG DIVISION"),
    (0x27cd, "00MATHEMATICAL FALLING DIAGONAL,00SQUARED LOGICAL AND,20OR"),
    (0x27d0, "00WHITE DIAMOND WITH CENTRED DOT,01AND WITH"),
    (0x27d2, "00ELEMENT OF OPENING UPWARDS,00LOWER RIGHT CORNER WITH DOT,03UPPER LEFT"),
    (0x27d5, "00LEFT OUTER JOIN,02RIGHT,02FULL,00LARGE UP TACK,11DOWN"),
    (0x27da, "00LEFT AND RIGHT DOUBLE TURNSTILE,30TACK,10MULTIMAP,00LONG RIGHT TACK"),
    (0x27de, "11LEFT,00UP TACK WITH CIRCLE ABOVE,00LOZENGE DIVIDED BY HORIZONTAL RULE"),
    (0x27e1, "00WHITE CONCAVE-SIDED DIAMOND,30WITH LEFTWARDS TICK,41RIGHTWARDS"),
    (0x27e4, "11SQUARE WITH LEFTWARDS,31RIGHTWARDS"),
    (0x27e6, "00MATHEMATICAL LEFT WHITE SQUARE BRACKET,13RIGHT,11LEFT ANGLE,12RIGHT"),
    (0x27ea, "12LEFT DOUBLE,13RIGHT,11LEFT WHITE TORTOISE SHELL,14RIGHT"),
    (0x27ee, "10LEFT FLATTENED PARENTHESIS,12RIGHT,00UPWARDS QUADRUPLE ARROW"),
    (0x27f1, "02DOWNWARDS,01ANTICLOCKWISE GAPPED CIRCLE,03CLOCKWISE"),
    (0x27f4, "00RIGHT ARROW WITH CIRCLED PLUS,00LONG LEFTWARDS ARROW,11RIGHTWARDS"),
    (0x27f7, "11LEFT RIGHT,11LEFTWARDS DOUBLE,12RIGHTWARDS,12LEFT RIGHT"),
    (0x27fb, "10LEFTWARDS ARROW FROM BAR,13RIGHTWARDS,13LEFTWARDS DOUBLE,14RIGHTWARDS"),
    (0x27ff, "20SQUIGGLE ARROW,00BRAILLE PATTERN BLANK,20DOTS-1,20DOTS-2,20DOTS-12"),
    (0x2804, "20DOTS-3,20DOTS-13,20DOTS-23,20DOTS-123,20DOTS-4,20DOTS-14,20DOTS-24"),
    (0x280b, "20DOTS-124,20DOTS-34,20DOTS-134,20DOTS-234,20DOTS-1234,20DOTS-5"),
    (0x2811, "20DOTS-15,20DOTS-25,20DOTS-125,20DOTS-35,20DOTS-135,20DOTS-235"),
    (0x2817, "20DOTS-1235,20DOTS-45,20DOTS-145,20DOTS-245,20DOTS-1245,20DOTS-345"),
    (0x281d, "20DOTS-1345,20DOTS-2345,20DOTS-12345,20DOTS-6,20DOTS-16,20DOTS-26"),
    (0x2823, "20DOTS-126,20DOTS-36,20DOTS-136,20DOTS-236,20DOTS-1236,20DOTS-46"),
    (0x2829, "20DOTS-146,20DOTS-246,20DOTS-1246,20DOTS-346,20DOTS-1346,20DOTS-2346"),
    (0x282f, "20DOTS-12346,20DOTS-56,20DOTS-156,20DOTS-256,20DOTS-1256,20DOTS-356"),
    (0x2835, "20DOTS-1356,20DOTS-2356,20DOTS-12356,20DOTS-456,20DOTS-1456,20DOTS-2456"),
    (0x283b, "20DOTS-12456,20DOTS-3456,20DOTS-13456,20DOTS-23456,20DOTS-123456"),
    (0x2840, "20DOTS-7,20DOTS-17,20DOTS-27,20DOTS-127,20DOTS-37,20DOTS-137,20DOTS-237"),
    (0x2847, "20DOTS-1237,20DOTS-47,20DOTS-147,20DOTS-247,20DOTS-1247,20DOTS-347"),
    (0x284d, "20DOTS-1347,20DOTS-2347,20DOTS-12347,20DOTS-57,20DOTS-157,20DOTS-257"),
    (0x2853, "20DOTS-1257,20DOTS-357,20DOTS-1357,20DOTS-2357,20DOTS-12357,20DOTS-457"),
    (0x2859, "20DOTS-1457,20DOTS-2457,20DOTS-12457,20DOTS-3457,20DOTS-13457"),
    (0x285e, "20DOTS-23457,20DOTS-123457,20DOTS-67,20DOTS-167,20DOTS-267,20DOTS-1267"),
    (0x2864, "20DOTS-367,20DOTS-1367,20DOTS-2367,20DOTS-12367,20DOTS-467,20DOTS-1467"),
    (0x286a, "20DOTS-2467,20DOTS-12467,20DOTS-3467,20DOTS-13467,20DOTS-23467"),
    (0x286f, "20DOTS-123467,20DOTS-567,20DOTS-1567,20DOTS-2567,20DOTS-12567"),
    (0x2874, "20DOTS-3567,20DOTS-13567,20DOTS-23567,20DOTS-123567,20DOTS-4567"),
    (0x2879, "20DOTS-14567,20DOTS-24567,20DOTS-124567,20DOTS-34567,20DOTS-134567"),
    (0x287e, "20DOTS-234567,20DOTS-1234567,20DOTS-8,20DOTS-18,20DOTS-28,20DOTS-128"),
    (0x2884, "20DOTS-38,20DOTS-138,20DOTS-238,20DOTS-1238,20DOTS-48,20DOTS-148"),
    (0x288a, "20DOTS-248,20DOTS-1248,20DOTS-348,20DOTS-1348,20DOTS-2348,20DOTS-12348"),
    (0x2890, "20DOTS-58,20DOTS-158,20DOTS-258,20DOTS-1258,20DOTS-358,20DOTS-1358"),
    (0x2896, "20DOTS-2358,20DOTS-12358,20DOTS-458,20DOTS-1458,20DOTS-2458"),
    (0x289b, "20DOTS-12458,20DOTS-3458,20DOTS-13458,20DOTS-23458,20DOTS-123458"),
    (0x28a0, "20DOTS-68,20DOTS-168,20DOTS-268,20DOTS-1268,20DOTS-368,20DOTS-1368"),
    (0x28a6, "20DOTS-2368,20DOTS-12368,20DOTS-468,20DOTS-1468,20DOTS-2468"),
    (0x28ab, "20DOTS-12468,20DOTS-3468,20DOTS-13468,20DOTS-23468,20DOTS-123468"),
    (0x28b0, "20DOTS-568,20DOTS-1568,20DOTS-2568,20DOTS-12568,20DOTS-3568"),
    (0x28b5, "20DOTS-13568,20DOTS-23568,20DOTS-123568,20DOTS-4568,20DOTS-14568"),
    (0x28ba, "20DOTS-24568,20DOTS-124568,20DOTS-34568,20DOTS-134568,20DOTS-234568"),
    (0x28bf, "20DOTS-1234568,20DOTS-78,20DOTS-178,20DOTS-278,20DOTS-1278,20DOTS-378"),
    (0x28c5, "20DOTS-1378,20DOTS-2378,20DOTS-12378,20DOTS-478,20DOTS-1478,20DOTS-2478"),
    (0x28cb, "20DOTS-12478,20DOTS-3478,20DOTS-13478,20DOTS-23478,20DOTS-123478"),
    (0x28d0, "20DOTS-578,20DOTS-1578,20DOTS-2578,20DOTS-12578,20DOTS-3578"),
    (0x28d5, "20DOTS-13578,20DOTS-23578,20DOTS-123578,20DOTS-4578,20DOTS-14578"),
    (0x28da, "20DOTS-24578,20DOTS-124578,20DOTS-34578,20DOTS-134578,20DOTS-234578"),
    (0x28df, "20DOTS-1234578,20DOTS-678,20DOTS-1678,20DOTS-2678,20DOTS-12678"),
    (0x28e4, "20DOTS-3678,20DOTS-13678,20DOTS-23678,20DOTS-123678,20DOTS-4678"),
    (0x28e9, "20DOTS-14678,20DOTS-24678,20DOTS-124678,20DOTS-34678,20DOTS-134678"),
    (0x28ee, "20DOTS-234678,20DOTS-1234678,20DOTS-5678,20DOTS-15678,20DOTS-25678"),
    (0x28f3, "20DOTS-125678,20DOTS-35678,20DOTS-135678,20DOTS-235678,20DOTS-1235678"),
    (0x28f8, "20DOTS-45678,20DOTS-145678,20DOTS-245678,20DOTS-1245678,20DOTS-345678"),
    (0x28fd, "20DOTS-1345678,20DOTS-2345678,20DOTS-12345678"),
    (0x2900, "00RIGHTWARDS TWO-HEADED ARROW WITH VERTICAL STROKE,42DOUBLE"),
    (0x2902, "02LEFTWARDS DOUBLE ARROW WITH,05RIGHTWARDS,05LEFT RIGHT"),
    (0x2905, "00RIGHTWARDS TWO-HEADED ARROW FROM BAR,03LEFTWARDS DOUBLE,04RIGHTWARDS"),
    (0x2908, "00DOWNWARDS ARROW WITH HORIZONTAL STROKE,04UPWARDS,10TRIPLE ARROW"),
    (0x290b, "02DOWNWARDS,01LEFTWARDS DOUBLE DASH,03RIGHTWARDS,02LEFTWARDS TRIPLE"),
    (0x290f, "03RIGHTWARDS,13TWO-HEADED,10ARROW WITH DOTTED STEM"),
    (0x2912, "00UPWARDS ARROW TO BAR,03DOWNWARDS"),
    (0x2914, "00RIGHTWARDS ARROW WITH TAIL WITH VERTICAL STROKE,52DOUBLE"),
    (0x2916, "10TWO-HEADED ARROW WITH TAIL,50WITH VERTICAL STROKE,62DOUBLE"),
    (0x2919, "00LEFTWARDS ARROW-TAIL,01RIGHTWARDS,01LEFTWARDS DOUBLE,02RIGHTWARDS"),
    (0x291d, "00LEFTWARDS ARROW TO BLACK DIAMOND,04RIGHTWARDS"),
    (0x291f, "03LEFTWARDS ARROW FROM BAR,06RIGHTWARDS"),
    (0x2921, "00NORTH WEST AND SOUTH EAST ARROW,11EAST AND SOUTH WEST"),
    (0x2923, "10WEST ARROW WITH HOOK,13EAST,04SOUTH,13WEST"),
    (0x2927, "00NORTH WEST ARROW AND NORTH EAST ARROW,12EAST ARROW AND SOUTH"),
    (0x2929, "01SOUTH EAST ARROW AND SOUTH WEST,12WEST ARROW AND NORTH"),
    (0x292b, "00RISING DIAGONAL CROSSING FALLING DIAGONAL"),
    (0x292c, "01FALLING DIAGONAL CROSSING RISING"),
    (0x292d, "00SOUTH EAST ARROW CROSSING NORTH EAST ARROW"),
    (0x292e, "02NORTH EAST ARROW CROSSING SOUTH,02FALLING DIAGONAL CROSSING NORTH"),
    (0x2930, "02RISING DIAGONAL CROSSING SOUTH,01NORTH EAST ARROW CROSSING NORTH WEST"),
    (0x2932, "11WEST ARROW CROSSING NORTH EAST,00WAVE ARROW POINTING DIRECTLY RIGHT"),
    (0x2934, "00ARROW POINTING RIGHTWARDS THEN CURVING UPWARDS,50DOWNWARDS"),
    (0x2936, "20DOWNWARDS THEN CURVING LEFTWARDS,50RIGHTWARDS"),
    (0x2938, "00RIGHT-SIDE ARC CLOCKWISE ARROW,01LEFT-SIDE ARC ANTICLOCKWISE,03TOP"),
    (0x293b, "03BOTTOM,00TOP ARC CLOCKWISE ARROW WITH MINUS"),
    (0x293d, "20ANTICLOCKWISE ARROW WITH PLUS"),
    (0x293e, "00LOWER RIGHT SEMICIRCULAR CLOCKWISE ARROW"),
    (0x293f, "11LEFT SEMICIRCULAR ANTICLOCKWISE,01ANTICLOCKWISE CLOSED CIRCLE"),
    (0x2941, "03CLOCKWISE,01RIGHTWARDS ARROW ABOVE SHORT LEFTWARDS"),
    (0x2943, "01LEFTWARDS ARROW ABOVE SHORT RIGHTWARDS"),
    (0x2944, "01SHORT RIGHTWARDS ARROW ABOVE LEFTWARDS"),
    (0x2945, "00RIGHTWARDS ARROW WITH PLUS BELOW,04LEFTWARDS"),
    (0x2947, "00RIGHTWARDS ARROW THROUGH X,00LEFT RIGHT ARROW THROUGH SMALL CIRCLE"),
    (0x2949, "02UPWARDS TWO-HEADED ARROW FROM,00LEFT BARB UP RIGHT BARB DOWN HARPOON"),
    (0x294b, "21DOWN RIGHT BARB UP,01UP BARB RIGHT DOWN BARB LEFT"),
    (0x294d, "21LEFT DOWN BARB RIGHT,01LEFT BARB UP RIGHT BARB UP"),
    (0x294f, "01UP BARB RIGHT DOWN BARB RIGHT,01LEFT BARB DOWN RIGHT BARB DOWN"),
    (0x2951, "01UP BARB LEFT DOWN BARB LEFT,00LEFTWARDS HARPOON WITH BARB UP TO BAR"),
    (0x2953, "06RIGHTWARDS,02UPWARDS HARPOON WITH BARB RIGHT,06DOWNWARDS"),
    (0x2956, "02LEFTWARDS HARPOON WITH BARB DOWN,06RIGHTWARDS"),
    (0x2958, "02UPWARDS HARPOON WITH BARB LEFT,06DOWNWARDS"),
    (0x295a, "01LEFTWARDS HARPOON WITH BARB UP FROM,06RIGHTWARDS"),
    (0x295c, "02UPWARDS HARPOON WITH BARB RIGHT,06DOWNWARDS"),
    (0x295e, "02LEFTWARDS HARPOON WITH BARB DOWN,06RIGHTWARDS"),
    (0x2960, "02UPWARDS HARPOON WITH BARB LEFT,06DOWNWARDS"),
    (0x2962, "00LEFTWARDS HARPOON WITH BARB UP ABOVE LEFTWARDS HARPOON WITH BARB DOWN"),
    (0x2963, "00UPWARDS HARPOON WITH BARB LEFT BESIDE UPWARDS HARPOON WITH BARB RIGHT"),
    (0x2964, "00RIGHTWARDS HARPOON WITH BARB UP ABOVE RIGHTWARDS HARPOON WITH BARB DOWN"),
    (0x2965, "00DOWNWARDS HARPOON WITH BARB LEFT BESIDE DOWNWARDS HARPOON WITH BARB RIGHT"),
    (0x2966, "00LEFTWARDS HARPOON WITH BARB UP ABOVE RIGHTWARDS HARPOON WITH BARB UP"),
    (0x2967, "40DOWN ABOVE RIGHTWARDS HARPOON WITH BARB DOWN"),
    (0x2968, "00RIGHTWARDS HARPOON WITH BARB UP ABOVE LEFTWARDS HARPOON WITH BARB UP"),
    (0x2969, "40DOWN ABOVE LEFTWARDS HARPOON WITH BARB DOWN"),
    (0x296a, "00LEFTWARDS HARPOON WITH BARB UP ABOVE LONG DASH,42DOWN BELOW"),
    (0x296c, "02RIGHTWARDS HARPOON WITH BARB UP ABOVE,42DOWN BELOW"),
    (0x296e, "00UPWARDS HARPOON WITH BARB LEFT BESIDE DOWNWARDS HARPOON WITH BARB RIGHT"),
    (0x296f, "04DOWNWARDS HARPOON WITH BARB LEFT BESIDE UPWARDS"),
    (0x2970, "00RIGHT DOUBLE ARROW WITH ROUNDED HEAD"),
    (0x2971, "00EQUALS SIGN ABOVE RIGHTWARDS ARROW,03TILDE OPERATOR"),
    (0x2973, "00LEFTWARDS ARROW ABOVE TILDE OPERATOR,04RIGHTWARDS,30ALMOST EQUAL TO"),
    (0x2976, "00LESS-THAN ABOVE LEFTWARDS ARROW,00LEFTWARDS ARROW THROUGH LESS-THAN"),
    (0x2978, "00GREATER-THAN ABOVE RIGHTWARDS ARROW,03SUBSET"),
    (0x297a, "00LEFTWARDS ARROW THROUGH SUBSET,00SUPERSET ABOVE LEFTWARDS ARROW"),
    (0x297c, "00LEFT FISH TAIL,02RIGHT,02UP,02DOWN,00TRIPLE VERTICAL BAR DELIMITER"),
    (0x2981, "00Z NOTATION SPOT,20TYPE COLON,00LEFT WHITE CURLY BRACKET,03RIGHT"),
    (0x2985, "00LEFT WHITE PARENTHESIS,02RIGHT,00Z NOTATION LEFT IMAGE BRACKET"),
    (0x2988, "22RIGHT,21LEFT BINDING,22RIGHT,00LEFT SQUARE BRACKET WITH UNDERBAR"),
    (0x298c, "04RIGHT,00LEFT SQUARE BRACKET WITH TICK IN TOP CORNER"),
    (0x298e, "01RIGHT SQUARE BRACKET WITH TICK IN BOTTOM,07LEFT"),
    (0x2990, "01RIGHT SQUARE BRACKET WITH TICK IN TOP,00LEFT ANGLE BRACKET WITH DOT"),
    (0x2992, "04RIGHT,00LEFT ARC LESS-THAN BRACKET,01RIGHT ARC GREATER-THAN"),
    (0x2995, "03DOUBLE LEFT,11RIGHT ARC LESS-THAN,01LEFT BLACK TORTOISE SHELL,04RIGHT"),
    (0x2999, "00DOTTED FENCE,00VERTICAL ZIGZAG LINE,00MEASURED ANGLE OPENING LEFT"),
    (0x299c, "00RIGHT ANGLE VARIANT WITH SQUARE,00MEASURED RIGHT ANGLE WITH DOT"),
    (0x299e, "00ANGLE WITH S INSIDE,00ACUTE ANGLE,00SPHERICAL ANGLE OPENING LEFT,30UP"),
    (0x29a2, "00TURNED ANGLE,01REVERSED,00ANGLE WITH UNDERBAR,03REVERSED"),
    (0x29a6, "00OBLIQUE ANGLE OPENING UP,30DOWN"),
    (0x29a8, "00MEASURED ANGLE WITH OPEN ARM ENDING IN ARROW POINTING UP AND RIGHT"),
    (0x29a9, "90UP AND LEFT,90DOWN AND RIGHT,90DOWN AND LEFT,90RIGHT AND UP,92LEFT"),
    (0x29ae, "90RIGHT AND DOWN,92LEFT,00REVERSED EMPTY SET,00EMPTY SET WITH OVERBAR"),
    (0x29b2, "30SMALL CIRCLE ABOVE,31RIGHT ARROW,32LEFT,00CIRCLE WITH HORIZONTAL BAR"),
    (0x29b6, "01CIRCLED VERTICAL,10PARALLEL,10REVERSE SOLIDUS,10PERPENDICULAR"),
    (0x29ba, "00CIRCLE DIVIDED BY HORIZONTAL BAR AND TOP HALF DIVIDED BY VERTICAL BAR"),
    (0x29bb, "10WITH SUPERIMPOSED X,00CIRCLED ANTICLOCKWISE-ROTATED DIVISION SIGN"),
    (0x29bd, "00UP ARROW THROUGH CIRCLE,00CIRCLED WHITE BULLET,11,10LESS-THAN"),
    (0x29c1, "10GREATER-THAN,00CIRCLE WITH SMALL CIRCLE TO THE RIGHT"),
    (0x29c3, "23TWO HORIZONTAL STROKES,00SQUARED RISING DIAGONAL SLASH,12FALLING"),
    (0x29c6, "10ASTERISK,10SMALL CIRCLE,10SQUARE,00TWO JOINED SQUARES"),
    (0x29ca, "00TRIANGLE WITH DOT ABOVE,20UNDERBAR,00S IN TRIANGLE"),
    (0x29cd, "00TRIANGLE WITH SERIFS AT BOTTOM,00RIGHT TRIANGLE ABOVE LEFT TRIANGLE"),
    (0x29cf, "00LEFT TRIANGLE BESIDE VERTICAL BAR"),
    (0x29d0, "00VERTICAL BAR BESIDE RIGHT TRIANGLE,00BOWTIE WITH LEFT HALF BLACK"),
    (0x29d2, "22RIGHT,00BLACK BOWTIE,00TIMES WITH LEFT HALF BLACK,22RIGHT"),
    (0x29d6, "00WHITE HOURGLASS,01BLACK,00LEFT WIGGLY FENCE,02RIGHT,02LEFT DOUBLE"),
    (0x29db, "03RIGHT,00INCOMPLETE INFINITY,01TIE OVER"),
    (0x29de, "00INFINITY NEGATED WITH VERTICAL BAR,00DOUBLE-ENDED MULTIMAP"),
    (0x29e0, "00SQUARE WITH CONTOURED OUTLINE,00INCREASES AS,00SHUFFLE PRODUCT"),
    (0x29e3, "00EQUALS SIGN AND SLANTED PARALLEL,50WITH TILDE ABOVE"),
    (0x29e5, "00IDENTICAL TO AND SLANTED PARALLEL,00GLEICH STARK,00THERMODYNAMIC"),
    (0x29e8, "00DOWN-POINTING TRIANGLE WITH LEFT HALF BLACK,32RIGHT"),
    (0x29ea, "00BLACK DIAMOND WITH DOWN ARROW,10LOZENGE"),
    (0x29ec, "00WHITE CIRCLE WITH DOWN ARROW,04BLACK,00ERROR-BARRED WHITE SQUARE"),
    (0x29ef, "11BLACK,10WHITE DIAMOND,11BLACK,10WHITE CIRCLE,11BLACK,00RULE-DELAYED"),
    (0x29f5, "00REVERSE SOLIDUS OPERATOR,00SOLIDUS WITH OVERBAR"),
    (0x29f7, "00REVERSE SOLIDUS WITH HORIZONTAL STROKE,00BIG SOLIDUS,11REVERSE"),
    (0x29fa, "00DOUBLE PLUS,01TRIPLE,00LEFT-POINTING CURVED ANGLE BRACKET"),
    (0x29fd, "03RIGHT-POINTING,00TINY,00MINY,00N-ARY CIRCLED DOT OPERATOR,21PLUS"),
    (0x2a02, "21TIMES,10UNION OPERATOR WITH DOT,40PLUS,10SQUARE INTERSECTION OPERATOR"),
    (0x2a06, "21UNION,01TWO LOGICAL AND,21OR,01N-ARY TIMES,00MODULO TWO SUM"),
    (0x2a0b, "00SUMMATION WITH INTEGRAL,00QUADRUPLE INTEGRAL OPERATOR"),
    (0x2a0d, "00FINITE PART INTEGRAL,00INTEGRAL WITH DOUBLE STROKE"),
    (0x2a0f, "10AVERAGE WITH SLASH,00CIRCULATION FUNCTION,00ANTICLOCKWISE INTEGRATION"),
    (0x2a12, "00LINE INTEGRATION WITH RECTANGULAR PATH AROUND POLE,33SEMICIRCULAR"),
    (0x2a14, "21NOT INCLUDING THE,00INTEGRAL AROUND A POINT OPERATOR"),
    (0x2a16, "01QUATERNION INTEGRAL,00INTEGRAL WITH LEFTWARDS ARROW WITH HOOK"),
    (0x2a18, "20TIMES SIGN,20INTERSECTION,20UNION,20OVERBAR,20UNDERBAR,00JOIN"),
    (0x2a1e, "00LARGE LEFT TRIANGLE OPERATOR,00Z NOTATION SCHEMA COMPOSITION,30PIPING"),
    (0x2a21, "30PROJECTION,00PLUS SIGN WITH SMALL CIRCLE ABOVE,31CIRCUMFLEX ACCENT"),
    (0x2a24, "31TILDE,30DOT BELOW,31TILDE,30SUBSCRIPT TWO,30BLACK TRIANGLE"),
    (0x2a29, "00MINUS SIGN WITH COMMA ABOVE,30DOT BELOW,30FALLING DOTS,31RISING"),
    (0x2a2d, "00PLUS SIGN IN LEFT HALF CIRCLE,32RIGHT,00VECTOR OR CROSS PRODUCT"),
    (0x2a30, "00MULTIPLICATION SIGN WITH DOT ABOVE,30UNDERBAR"),
    (0x2a32, "00SEMIDIRECT PRODUCT WITH BOTTOM CLOSED,00SMASH PRODUCT"),
    (0x2a34, "00MULTIPLICATION SIGN IN LEFT HALF CIRCLE,32RIGHT"),
    (0x2a36, "00CIRCLED MULTIPLICATION SIGN WITH CIRCUMFLEX ACCENT"),
    (0x2a37, "00MULTIPLICATION SIGN IN DOUBLE CIRCLE,00CIRCLED DIVISION SIGN"),
    (0x2a39, "00PLUS SIGN IN TRIANGLE,03MINUS,03MULTIPLICATION,00INTERIOR PRODUCT"),
    (0x2a3d, "02RIGHTHAND,00Z NOTATION RELATIONAL COMPOSITION"),
    (0x2a3f, "00AMALGAMATION OR COPRODUCT,00INTERSECTION WITH DOT"),
    (0x2a41, "00UNION WITH MINUS SIGN,20OVERBAR,02INTERSECTION,20LOGICAL AND"),
    (0x2a45, "00UNION WITH LOGICAL OR,10ABOVE INTERSECTION,00INTERSECTION ABOVE UNION"),
    (0x2a48, "00UNION ABOVE BAR ABOVE INTERSECTION"),
    (0x2a49, "00INTERSECTION ABOVE BAR ABOVE UNION,01UNION BESIDE AND JOINED WITH"),
    (0x2a4b, "00INTERSECTION BESIDE AND JOINED WITH INTERSECTION"),
    (0x2a4c, "00CLOSED UNION WITH SERIFS,12INTERSECTION,00DOUBLE SQUARE INTERSECTION"),
    (0x2a4f, "20UNION,00CLOSED UNION WITH SERIFS AND SMASH PRODUCT"),
    (0x2a51, "00LOGICAL AND WITH DOT ABOVE,13OR,00DOUBLE LOGICAL AND,20OR"),
    (0x2a55, "00TWO INTERSECTING LOGICAL AND,30OR,01SLOPING LARGE,20AND"),
    (0x2a59, "01LOGICAL OR OVERLAPPING LOGICAL,10AND WITH MIDDLE STEM,13OR"),
    (0x2a5c, "10AND WITH HORIZONTAL DASH,13OR,10AND WITH DOUBLE OVERBAR,30UNDERBAR"),
    (0x2a60, "31DOUBLE,01SMALL VEE WITH,00LOGICAL OR WITH DOUBLE OVERBAR,40UNDERBAR"),
    (0x2a64, "00Z NOTATION DOMAIN ANTIRESTRICTION,21RANGE"),
    (0x2a66, "00EQUALS SIGN WITH DOT BELOW,00IDENTICAL WITH DOT ABOVE"),
    (0x2a68, "00TRIPLE HORIZONTAL BAR WITH DOUBLE VERTICAL STROKE,42TRIPLE"),
    (0x2a6a, "00TILDE OPERATOR WITH DOT ABOVE,30RISING DOTS,00SIMILAR MINUS SIMILAR"),
    (0x2a6d, "00CONGRUENT WITH DOT ABOVE,00EQUALS WITH ASTERISK"),
    (0x2a6f, "00ALMOST EQUAL TO WITH CIRCUMFLEX ACCENT"),
    (0x2a70, "00APPROXIMATELY EQUAL OR EQUAL TO,00EQUALS SIGN ABOVE PLUS SIGN"),
    (0x2a72, "01PLUS SIGN ABOVE EQUALS,00EQUALS SIGN ABOVE TILDE OPERATOR"),
    (0x2a74, "00DOUBLE COLON EQUAL,00TWO CONSECUTIVE EQUALS SIGNS,03THREE"),
    (0x2a77, "00EQUALS SIGN WITH TWO DOTS ABOVE AND TWO DOTS BELOW"),
    (0x2a78, "00EQUIVALENT WITH FOUR DOTS ABOVE,00LESS-THAN WITH CIRCLE INSIDE"),
    (0x2a7a, "03GREATER-THAN,00LESS-THAN WITH QUESTION MARK ABOVE,04GREATER-THAN"),
    (0x2a7d, "00LESS-THAN OR SLANTED EQUAL TO,04GREATER-THAN"),
    (0x2a7f, "00LESS-THAN OR SLANTED EQUAL TO WITH DOT INSIDE,07GREATER-THAN"),
    (0x2a81, "00LESS-THAN OR SLANTED EQUAL TO WITH DOT ABOVE,07GREATER-THAN"),
    (0x2a83, "00LESS-THAN OR SLANTED EQUAL TO WITH DOT ABOVE RIGHT"),
    (0x2a84, "00GREATER-THAN OR SLANTED EQUAL TO WITH DOT ABOVE LEFT"),
    (0x2a85, "00LESS-THAN OR APPROXIMATE,02GREATER-THAN"),
    (0x2a87, "00LESS-THAN AND SINGLE-LINE NOT EQUAL TO,05GREATER-THAN"),
    (0x2a89, "00LESS-THAN AND NOT APPROXIMATE,03GREATER-THAN"),
    (0x2a8b, "00LESS-THAN ABOVE DOUBLE-LINE EQUAL ABOVE GREATER-THAN"),
    (0x2a8c, "00GREATER-THAN ABOVE DOUBLE-LINE EQUAL ABOVE LESS-THAN"),
    (0x2a8d, "00LESS-THAN ABOVE SIMILAR OR EQUAL,04GREATER-THAN"),
    (0x2a8f, "00LESS-THAN ABOVE SIMILAR ABOVE GREATER-THAN"),
    (0x2a90, "00GREATER-THAN ABOVE SIMILAR ABOVE LESS-THAN"),
    (0x2a91, "00LESS-THAN ABOVE GREATER-THAN ABOVE DOUBLE-LINE EQUAL"),
    (0x2a92, "03GREATER-THAN ABOVE LESS-THAN"),
    (0x2a93, "01LESS-THAN ABOVE SLANTED EQUAL ABOVE GREATER-THAN ABOVE SLANTED"),
    (0x2a94, "03GREATER-THAN ABOVE SLANTED EQUAL ABOVE LESS-THAN"),
    (0x2a95, "00SLANTED EQUAL TO OR LESS-THAN,40GREATER-THAN"),
    (0x2a97, "40LESS-THAN WITH DOT INSIDE,43GREATER-THAN"),
    (0x2a99, "00DOUBLE-LINE EQUAL TO OR LESS-THAN,40GREATER-THAN"),
    (0x2a9b, "10SLANTED EQUAL TO OR LESS-THAN,50GREATER-THAN,00SIMILAR OR LESS-THAN"),
    (0x2a9e, "20GREATER-THAN,10ABOVE LESS-THAN ABOVE EQUALS SIGN,23GREATER-THAN"),
    (0x2aa1, "00DOUBLE NESTED LESS-THAN,20GREATER-THAN,20LESS-THAN WITH UNDERBAR"),
    (0x2aa4, "00GREATER-THAN OVERLAPPING LESS-THAN,11BESIDE"),
    (0x2aa6, "00LESS-THAN CLOSED BY CURVE,03GREATER-THAN"),
    (0x2aa8, "00LESS-THAN CLOSED BY CURVE ABOVE SLANTED EQUAL,06GREATER-THAN"),
    (0x2aaa, "00SMALLER THAN,01LARGER,00SMALLER THAN OR EQUAL TO,04LARGER"),
    (0x2aae, "00EQUALS SIGN WITH BUMPY ABOVE,00PRECEDES ABOVE SINGLE-LINE EQUALS SIGN"),
    (0x2ab0, "04SUCCEEDS,00PRECEDES ABOVE SINGLE-LINE NOT EQUAL TO,05SUCCEEDS"),
    (0x2ab3, "00PRECEDES ABOVE EQUALS SIGN,03SUCCEEDS,00PRECEDES ABOVE NOT EQUAL TO"),
    (0x2ab6, "04SUCCEEDS,02PRECEDES ABOVE ALMOST,04SUCCEEDS,03PRECEDES ABOVE NOT"),
    (0x2aba, "05SUCCEEDS,00DOUBLE PRECEDES,10SUCCEEDS,00SUBSET WITH DOT,02SUPERSET"),
    (0x2abf, "00SUBSET WITH PLUS SIGN BELOW,04SUPERSET,02SUBSET WITH MULTIPLICATION"),
    (0x2ac2, "04SUPERSET,00SUBSET OF OR EQUAL TO WITH DOT ABOVE,07SUPERSET"),
    (0x2ac5, "00SUBSET OF ABOVE EQUALS SIGN,04SUPERSET"),
    (0x2ac7, "00SUBSET OF ABOVE TILDE OPERATOR,04SUPERSET"),
    (0x2ac9, "00SUBSET OF ABOVE ALMOST EQUAL TO,05SUPERSET,02SUBSET OF ABOVE NOT"),
    (0x2acc, "05SUPERSET,00SQUARE LEFT OPEN BOX OPERATOR,13RIGHT,00CLOSED SUBSET"),
    (0x2ad0, "10SUPERSET,10SUBSET OR EQUAL TO,13SUPERSET,00SUBSET ABOVE SUPERSET"),
    (0x2ad4, "00SUPERSET ABOVE SUBSET,02SUBSET,00SUPERSET ABOVE SUPERSET"),
    (0x2ad7, "10BESIDE SUBSET,21AND JOINED BY DASH WITH"),
    (0x2ad9, "00ELEMENT OF OPENING DOWNWARDS,00PITCHFORK WITH TEE TOP"),
    (0x2adb, "00TRANSVERSAL INTERSECTION,00FORKING,00NONFORKING,00SHORT LEFT TACK"),
    (0x2adf, "11DOWN,11UP,00PERPENDICULAR WITH S"),
    (0x2ae2, "00VERTICAL BAR TRIPLE RIGHT TURNSTILE,01DOUBLE VERTICAL BAR LEFT"),
    (0x2ae4, "02VERTICAL BAR DOUBLE,05DOUBLE"),
    (0x2ae6, "00LONG DASH FROM LEFT MEMBER OF DOUBLE VERTICAL"),
    (0x2ae7, "00SHORT DOWN TACK WITH OVERBAR,10UP TACK WITH UNDERBAR"),
    (0x2ae9, "30ABOVE SHORT DOWN TACK,02DOUBLE,11UP,10STROKE NOT SIGN,04REVERSED"),
    (0x2aee, "00DOES NOT DIVIDE WITH REVERSED NEGATION SLASH"),
    (0x2aef, "00VERTICAL LINE WITH CIRCLE ABOVE,40BELOW,03DOWN TACK"),
    (0x2af2, "00PARALLEL WITH HORIZONTAL STROKE,20TILDE OPERATOR"),
    (0x2af4, "00TRIPLE VERTICAL BAR BINARY RELATION,30WITH HORIZONTAL STROKE"),
    (0x2af6, "10COLON OPERATOR,10NESTED LESS-THAN,20GREATER-THAN"),
    (0x2af9, "00DOUBLE-LINE SLANTED LESS-THAN OR EQUAL TO,23GREATER-THAN"),
    (0x2afb, "00TRIPLE SOLIDUS BINARY RELATION,00LARGE TRIPLE VERTICAL BAR OPERATOR"),
    (0x2afd, "01DOUBLE SOLIDUS,00WHITE VERTICAL BAR,03N-ARY,00NORTH EAST WHITE ARROW"),
    (0x2b01, "12WEST,02SOUTH EAST,12WEST,02LEFT RIGHT,01LEFTWARDS BLACK,02UPWARDS"),
    (0x2b07, "02DOWNWARDS,02NORTH EAST,12WEST,02SOUTH EAST,12WEST,02LEFT RIGHT"),
    (0x2b0d, "02UP DOWN,00RIGHTWARDS ARROW WITH TIP DOWNWARDS,40UPWARDS"),
    (0x2b10, "00LEFTWARDS ARROW WITH TIP DOWNWARDS,40UPWARDS"),
    (0x2b12, "00SQUARE WITH TOP HALF BLACK,22BOTTOM,22UPPER RIGHT DIAGONAL"),
    (0x2b15, "23LOWER LEFT,02DIAMOND WITH LEFT,22RIGHT,22TOP,22BOTTOM,00DOTTED SQUARE"),
    (0x2b1b, "01BLACK LARGE,02WHITE,01BLACK VERY SMALL,03WHITE,00BLACK PENTAGON"),
    (0x2b20, "01WHITE,10HEXAGON,01BLACK,02HORIZONTAL,00BLACK LARGE CIRCLE"),
    (0x2b25, "10MEDIUM DIAMOND,02WHITE,00BLACK MEDIUM LOZENGE,02WHITE"),
    (0x2b29, "00BLACK SMALL DIAMOND,20LOZENGE,02WHITE,00BLACK HORIZONTAL ELLIPSE"),
    (0x2b2d, "02WHITE,01BLACK VERTICAL,02WHITE,00LEFT ARROW WITH SMALL CIRCLE"),
    (0x2b31, "00THREE LEFTWARDS ARROWS,00LEFT ARROW WITH CIRCLED PLUS"),
    (0x2b33, "00LONG LEFTWARDS SQUIGGLE ARROW"),
    (0x2b34, "00LEFTWARDS TWO-HEADED ARROW WITH VERTICAL STROKE,42DOUBLE,30FROM BAR"),
    (0x2b37, "20TRIPLE DASH ARROW,10ARROW WITH DOTTED STEM"),
    (0x2b39, "30TAIL WITH VERTICAL STROKE,52DOUBLE,10TWO-HEADED ARROW WITH TAIL"),
    (0x2b3c, "50WITH VERTICAL STROKE,62DOUBLE,10ARROW THROUGH X"),
    (0x2b3f, "00WAVE ARROW POINTING DIRECTLY LEFT,00EQUALS SIGN ABOVE LEFTWARDS ARROW"),
    (0x2b41, "03REVERSE TILDE OPERATOR"),
    (0x2b42, "00LEFTWARDS ARROW ABOVE REVERSE ALMOST EQUAL TO"),
    (0x2b43, "00RIGHTWARDS ARROW THROUGH GREATER-THAN,30SUPERSET"),
    (0x2b45, "00LEFTWARDS QUADRUPLE ARROW,02RIGHTWARDS"),
    (0x2b47, "01REVERSE TILDE OPERATOR ABOVE RIGHTWARDS"),
    (0x2b48, "00RIGHTWARDS ARROW ABOVE REVERSE ALMOST EQUAL TO"),
    (0x2b49, "00TILDE OPERATOR ABOVE LEFTWARDS ARROW"),
    (0x2b4a, "00LEFTWARDS ARROW ABOVE ALMOST EQUAL TO,30REVERSE TILDE OPERATOR"),
    (0x2b4c, "05RIGHTWARDS,00DOWNWARDS TRIANGLE-HEADED ZIGZAG ARROW"),
    (0x2b4e, "01SHORT SLANTED NORTH,11BACKSLANTED SOUTH,00WHITE MEDIUM STAR"),
    (0x2b51, "01BLACK SMALL,02WHITE,00BLACK RIGHT-POINTING PENTAGON,02WHITE"),
    (0x2b55, "00HEAVY LARGE CIRCLE,10OVAL WITH OVAL INSIDE,11CIRCLE WITH CIRCLE,20"),
    (0x2b59, "10CIRCLED SALTIRE,00SLANTED NORTH ARROW WITH HOOKED HEAD"),
    (0x2b5b, "00BACKSLANTED SOUTH ARROW WITH HOOKED TAIL"),
    (0x2b5c, "01SLANTED NORTH ARROW WITH HORIZONTAL,04BACKSLANTED SOUTH"),
    (0x2b5e, "00BENT ARROW POINTING DOWNWARDS THEN NORTH EAST,07SHORT"),
    (0x2b60, "00LEFTWARDS TRIANGLE-HEADED ARROW,02UPWARDS,02RIGHTWARDS,02DOWNWARDS"),
    (0x2b64, "02LEFT RIGHT,02UP DOWN,02NORTH WEST,12EAST,03SOUTH,12WEST"),
    (0x2b6a, "01LEFTWARDS TRIANGLE-HEADED DASHED,03UPWARDS,03RIGHTWARDS,03DOWNWARDS"),
    (0x2b6e, "01CLOCKWISE TRIANGLE-HEADED OPEN CIRCLE,04ANTICLOCKWISE"),
    (0x2b70, "00LEFTWARDS TRIANGLE-HEADED ARROW TO BAR,04UPWARDS,04RIGHTWARDS"),
    (0x2b73, "04DOWNWARDS"),
    (0x2b76, "04NORTH WEST,14EAST,05SOUTH,14WEST"),
    (0x2b7a, "00LEFTWARDS TRIANGLE-HEADED ARROW WITH DOUBLE HORIZONTAL STROKE"),
    (0x2b7b, "06UPWARDS,06RIGHTWARDS,06DOWNWARDS,00HORIZONTAL TAB KEY,02VERTICAL"),
    (0x2b80, "00LEFTWARDS TRIANGLE-HEADED ARROW OVER RIGHTWARDS TRIANGLE-HEADED ARROW"),
    (0x2b81, "02UPWARDS TRIANGLE-HEADED ARROW LEFTWARDS OF DOWNWARDS"),
    (0x2b82, "02RIGHTWARDS TRIANGLE-HEADED ARROW OVER LEFTWARDS"),
    (0x2b83, "02DOWNWARDS TRIANGLE-HEADED ARROW LEFTWARDS OF UPWARDS"),
    (0x2b84, "00LEFTWARDS TRIANGLE-HEADED PAIRED ARROWS,03UPWARDS,03RIGHTWARDS"),
    (0x2b87, "03DOWNWARDS,00LEFTWARDS BLACK CIRCLED WHITE ARROW,04UPWARDS"),
    (0x2b8a, "04RIGHTWARDS,04DOWNWARDS,01ANTICLOCKWISE TRIANGLE-HEADED RIGHT U-SHAPED"),
    (0x2b8d, "22BOTTOM,22LEFT,22TOP,00RETURN LEFT,10RIGHT,00NEWLINE LEFT,10RIGHT"),
    (0x2b94, "00FOUR CORNER ARROWS CIRCLING ANTICLOCKWISE,00RIGHTWARDS BLACK ARROW"),
    (0x2b97, "00SYMBOL FOR TYPE A ELECTRONICS"),
    (0x2b98, "00THREE-D TOP-LIGHTED LEFTWARDS EQUILATERAL ARROWHEAD"),
    (0x2b99, "12RIGHT-LIGHTED UPWARDS,12TOP-LIGHTED RIGHTWARDS"),
    (0x2b9b, "12LEFT-LIGHTED DOWNWARDS,02BLACK LEFTWARDS,12UPWARDS,12RIGHTWARDS"),
    (0x2b9f, "12DOWNWARDS,00DOWNWARDS TRIANGLE-HEADED ARROW WITH LONG TIP LEFTWARDS"),
    (0x2ba1, "60RIGHTWARDS,00UPWARDS TRIANGLE-HEADED ARROW WITH LONG TIP LEFTWARDS"),
    (0x2ba3, "60RIGHTWARDS,00LEFTWARDS TRIANGLE-HEADED ARROW WITH LONG TIP UPWARDS"),
    (0x2ba5, "06RIGHTWARDS,00LEFTWARDS TRIANGLE-HEADED ARROW WITH LONG TIP DOWNWARDS"),
    (0x2ba7, "06RIGHTWARDS,00BLACK CURVED DOWNWARDS AND LEFTWARDS ARROW,41RIGHTWARDS"),
    (0x2baa, "21UPWARDS AND LEFTWARDS,41RIGHTWARDS,21LEFTWARDS AND UPWARDS"),
    (0x2bad, "23RIGHTWARDS,21LEFTWARDS AND DOWNWARDS,23RIGHTWARDS"),
    (0x2bb0, "00RIBBON ARROW DOWN LEFT,30RIGHT,20UP LEFT,30RIGHT,20LEFT UP,21RIGHT"),
    (0x2bb6, "20LEFT DOWN,21RIGHT,00UPWARDS WHITE ARROW FROM BAR WITH HORIZONTAL BAR"),
    (0x2bb9, "00UP ARROWHEAD IN A RECTANGLE BOX,00OVERLAPPING WHITE SQUARES"),
    (0x2bbb, "21AND BLACK,12,00BALLOT BOX WITH LIGHT X,01CIRCLED,11BOLD"),
    (0x2bc0, "00BLACK SQUARE CENTRED,11DIAMOND,00TURNED BLACK PENTAGON"),
    (0x2bc3, "00HORIZONTAL BLACK OCTAGON,02,10MEDIUM UP-POINTING TRIANGLE CENTRED"),
    (0x2bc6, "22DOWN-POINTING,22LEFT-POINTING,22RIGHT-POINTING,00NEPTUNE FORM TWO"),
    (0x2bca, "00TOP HALF BLACK CIRCLE,03BOTTOM,00LIGHT FOUR POINTED BLACK CUSP"),
    (0x2bcd, "05ROTATED,01WHITE FOUR POINTED,04ROTATED,00SQUARE POSITION INDICATOR"),
    (0x2bd1, "00UNCERTAINTY SIGN,00GROUP MARK,00PLUTO FORM TWO,20THREE,20FOUR,20FIVE"),
    (0x2bd7, "00TRANSPLUTO,00PROSERPINA,00ASTRAEA,00HYGIEA,00PHOLUS,00NESSUS"),
    (0x2bdd, "00WHITE MOON SELENA,00BLACK DIAMOND ON CROSS,00TRUE LIGHT MOON ARTA"),
    (0x2be0, "00CUPIDO,00HADES,00ZEUS,00KRONOS,00APOLLON,00ADMETOS,00VULCANUS"),
    (0x2be7, "00POSEIDON,00LEFT HALF BLACK STAR,03RIGHT,00STAR WITH LEFT HALF BLACK"),
    (0x2beb, "22RIGHT,00LEFTWARDS TWO-HEADED ARROW WITH TRIANGLE ARROWHEADS,05UPWARDS"),
    (0x2bee, "05RIGHTWARDS,05DOWNWARDS,00ERIS FORM ONE,20TWO,00SEDNA"),
    (0x2bf3, "00RUSSIAN ASTROLOGICAL SYMBOL VIGINTILE,30NOVILE,30QUINTILE,30BINOVILE"),
    (0x2bf7, "30SENTAGON,30TREDECILE,00EQUALS SIGN WITH INFINITY BELOW"),
    (0x2bfa, "00UNITED SYMBOL,01SEPARATED,01DOUBLED,01PASSED,00REVERSED RIGHT ANGLE"),
    (0x2bff, "00HELLSCHREIBER PAUSE SYMBOL"),
    (0xfe00, "00VARIATION SELECTOR-1,10SELECTOR-2,10SELECTOR-3,10SELECTOR-4"),
    (0xfe04, "10SELECTOR-5,10SELECTOR-6,10SELECTOR-7,10SELECTOR-8,10SELECTOR-9"),
    (0xfe09, "10SELECTOR-10,10SELECTOR-11,10SELECTOR-12,10SELECTOR-13,10SELECTOR-14"),
    (0xfe0e, "10SELECTOR-15,10SELECTOR-16,00PRESENTATION FORM FOR VERTICAL COMMA"),
    (0xfe11, "41IDEOGRAPHIC,50FULL STOP,40COLON,40SEMICOLON,40EXCLAMATION MARK"),
    (0xfe16, "41QUESTION,40LEFT WHITE LENTICULAR BRACKET"),
    (0xfe18, "40RIGHT WHITE LENTICULAR BRAKCET,40HORIZONTAL ELLIPSIS"),
    (0xfe30, "40TWO DOT LEADER,40EM DASH,41EN,40LOW LINE,42WAVY,40LEFT PARENTHESIS"),
    (0xfe36, "41RIGHT,40LEFT CURLY BRACKET,42RIGHT,41LEFT TORTOISE SHELL,43RIGHT"),
    (0xfe3b, "41LEFT BLACK LENTICULAR,43RIGHT,41LEFT DOUBLE ANGLE,43RIGHT,42LEFT"),
    (0xfe40, "42RIGHT,41LEFT CORNER,42RIGHT,42LEFT WHITE,43RIGHT,00SESAME DOT,02WHITE"),
    (0xfe47, "00PRESENTATION FORM FOR VERTICAL LEFT SQUARE BRACKET,42RIGHT"),
    (0xfe49, "00DASHED OVERLINE,01CENTRELINE,01WAVY,02DOUBLE,00DASHED LOW LINE"),
    (0xfe4e, "02CENTRELINE,02WAVY,00SMALL COMMA,11IDEOGRAPHIC,10FULL STOP"),
    (0xfe54, "10SEMICOLON,10COLON,10QUESTION MARK,11EXCLAMATION,10EM DASH"),
    (0xfe59, "10LEFT PARENTHESIS,11RIGHT,10LEFT CURLY BRACKET,12RIGHT"),
    (0xfe5d, "11LEFT TORTOISE SHELL,13RIGHT,10NUMBER SIGN,10AMPERSAND,10ASTERISK"),
    (0xfe62, "10PLUS SIGN,10HYPHEN-MINUS,10LESS-THAN SIGN,11GREATER-THAN,11EQUALS"),
    (0xfe68, "10REVERSE SOLIDUS,10DOLLAR SIGN,11PERCENT,10COMMERCIAL AT"),
    (0xfeff, "00ZERO WIDTH NO-BREAK SPACE"),
    (0xfff9, "00INTERLINEAR ANNOTATION ANCHOR,20SEPARATOR,20TERMINATOR"),
    (0xfffc, "00OBJECT REPLACEMENT CHARACTER,02"),
    (0x1d400, "00MATHEMATICAL BOLD CAPITAL A,30B,30C,30D,30E,30F,30G,30H,30I,30J,30K"),
    (0x1d40b, "30L,30M,30N,30O,30P,30Q,30R,30S,30T,30U,30V,30W,30X,30Y,30Z,20SMALL A"),
    (0x1d41b, "30B,30C,30D,30E,30F,30G,30H,30I,30J,30K,30L,30M,30N,30O,30P,30Q,30R"),
    (0x1d42c, "30S,30T,30U,30V,30W,30X,30Y,30Z,10ITALIC CAPITAL A,30B,30C,30D,30E,30F"),
    (0x1d43a, "30G,30H,30I,30J,30K,30L,30M,30N,30O,30P,30Q,30R,30S,30T,30U,30V,30W"),
    (0x1d44b, "30X,30Y,30Z,20SMALL A,30B,30C,30D,30E,30F,30G"),
    (0x1d456, "30I,30J,30K,30L,30M,30N,30O,30P,30Q,30R,30S,30T,30U,30V,30W,30X,30Y"),
    (0x1d467, "30Z,10BOLD ITALIC CAPITAL A,40B,40C,40D,40E,40F,40G,40H,40I,40J,40K"),
    (0x1d473, "40L,40M,40N,40O,40P,40Q,40R,40S,40T,40U,40V,40W,40X,40Y,40Z,30SMALL A"),
    (0x1d483, "40B,40C,40D,40E,40F,40G,40H,40I,40J,40K,40L,40M,40N,40O,40P,40Q,40R"),
    (0x1d494, "40S,40T,40U,40V,40W,40X,40Y,40Z,10SCRIPT CAPITAL A"),
    (0x1d49e, "30C,30D"),
    (0x1d4a2, "30G"),
    (0x1d4a5, "30J,30K"),
    (0x1d4a9, "30N,30O,30P,30Q"),
    (0x1d4ae, "30S,30T,30U,30V,30W,30X,30Y,30Z,20SMALL A,30B,30C,30D"),
    (0x1d4bb, "30F"),
    (0x1d4bd, "30H,30I,30J,30K,30L,30M,30N"),
    (0x1d4c5, "30P,30Q,30R,30S,30T,30U,30V,30W,30X,30Y,30Z,10BOLD SCRIPT CAPITAL A"),
    (0x1d4d1, "40B,40C,40D,40E,40F,40G,40H,40I,40J,40K,40L,40M,40N,40O,40P,40Q,40R"),
    (0x1d4e2, "40S,40T,40U,40V,40W,40X,40Y,40Z,30SMALL A,40B,40C,40D,40E,40F,40G,40H"),
    (0x1d4f2, "40I,40J,40K,40L,40M,40N,40O,40P,40Q,40R,40S,40T,40U,40V,40W,40X,40Y"),
    (0x1d503, "40Z,10FRAKTUR CAPITAL A,30B"),
    (0x1d507, "30D,30E,30F,30G"),
    (0x1d50d, "30J,30K,30L,30M,30N,30O,30P,30Q"),
    (0x1d516, "30S,30T,30U,30V,30W,30X,30Y"),
    (0x1d51e, "20SMALL A,30B,30C,30D,30E,30F,30G,30H,30I,30J,30K,30L,30M,30N,30O,30P"),
    (0x1d52e, "30Q,30R,30S,30T,30U,30V,30W,30X,30Y,30Z,10DOUBLE-STRUCK CAPITAL A,30B"),
    (0x1d53b, "30D,30E,30F,30G"),
    (0x1d540, "30I,30J,30K,30L,30M"),
    (0x1d546, "30O"),
    (0x1d54a, "30S,30T,30U,30V,30W,30X,30Y"),
    (0x1d552, "20SMALL A,30B,30C,30D,30E,30F,30G,30H,30I,30J,30K,30L,30M,30N,30O,30P"),
    (0x1d562, "30Q,30R,30S,30T,30U,30V,30W,30X,30Y,30Z,10BOLD FRAKTUR CAPITAL A,40B"),
    (0x1d56e, "40C,40D,40E,40F,40G,40H,40I,40J,40K,40L,40M,40N,40O,40P,40Q,40R,40S"),
    (0x1d57f, "40T,40U,40V,40W,40X,40Y,40Z,30SMALL A,40B,40C,40D,40E,40F,40G,40H,40I"),
    (0x1d58f, "40J,40K,40L,40M,40N,40O,40P,40Q,40R,40S,40T,40U,40V,40W,40X,40Y,40Z"),
    (0x1d5a0, "10SANS-SERIF CAPITAL A,30B,30C,30D,30E,30F,30G,30H,30I,30J,30K,30L,30M"),
    (0x1d5ad, "30N,30O,30P,30Q,30R,30S,30T,30U,30V,30W,30X,30Y,30Z,20SMALL A,30B,30C"),
    (0x1d5bd, "30D,30E,30F,30G,30H,30I,30J,30K,30L,30M,30N,30O,30P,30Q,30R,30S,30T"),
    (0x1d5ce, "30U,30V,30W,30X,30Y,30Z,20BOLD CAPITAL A,40B,40C,40D,40E,40F,40G,40H"),
    (0x1d5dc, "40I,40J,40K,40L,40M,40N,40O,40P,40Q,40R,40S,40T,40U,40V,40W,40X,40Y"),
    (0x1d5ed, "40Z,30SMALL A,40B,40C,40D,40E,40F,40G,40H,40I,40J,40K,40L,40M,40N,40O"),
    (0x1d5fd, "40P,40Q,40R,40S,40T,40U,40V,40W,40X,40Y,40Z,20ITALIC CAPITAL A,40B,40C"),
    (0x1d60b, "40D,40E,40F,40G,40H,40I,40J,40K,40L,40M,40N,40O,40P,40Q,40R,40S,40T"),
    (0x1d61c, "40U,40V,40W,40X,40Y,40Z,30SMALL A,40B,40C,40D,40E,40F,40G,40H,40I,40J"),
    (0x1d62c, "40K,40L,40M,40N,40O,40P,40Q,40R,40S,40T,40U,40V,40W,40X,40Y,40Z"),
    (0x1d63c, "20BOLD ITALIC CAPITAL A,50B,50C,50D,50E,50F,50G,50H,50I,50J,50K,50L"),
    (0x1d648, "50M,50N,50O,50P,50Q,50R,50S,50T,50U,50V,50W,50X,50Y,50Z,40SMALL A,50B"),
    (0x1d658, "50C,50D,50E,50F,50G,50H,50I,50J,50K,50L,50M,50N,50O,50P,50Q,50R,50S"),
    (0x1d669, "50T,50U,50V,50W,50X,50Y,50Z,10MONOSPACE CAPITAL A,30B,30C,30D,30E,30F"),
    (0x1d676, "30G,30H,30I,30J,30K,30L,30M,30N,30O,30P,30Q,30R,30S,30T,30U,30V,30W"),
    (0x1d687, "30X,30Y,30Z,20SMALL A,30B,30C,30D,30E,30F,30G,30H,30I,30J,30K,30L,30M"),
    (0x1d697, "30N,30O,30P,30Q,30R,30S,30T,30U,30V,30W,30X,30Y,30Z"),
    (0x1d6a4, "10ITALIC SMALL DOTLESS I,40J"),
    (0x1d6a8, "10BOLD CAPITAL ALPHA,30BETA,30GAMMA,30DELTA,30EPSILON,30ZETA,30ETA"),
    (0x1d6af, "30THETA,30IOTA,30KAPPA,30LAMDA,30MU,30NU,30XI,30OMICRON,30PI,30RHO"),
    (0x1d6b9, "30THETA SYMBOL,30SIGMA,30TAU,30UPSILON,30PHI,30CHI,30PSI,30OMEGA"),
    (0x1d6c1, "20NABLA,20SMALL ALPHA,30BETA,30GAMMA,30DELTA,30EPSILON,30ZETA,30ETA"),
    (0x1d6c9, "30THETA,30IOTA,30KAPPA,30LAMDA,30MU,30NU,30XI,30OMICRON,30PI,30RHO"),
    (0x1d6d3, "30FINAL SIGMA,31,30TAU,30UPSILON,30PHI,30CHI,30PSI,30OMEGA"),
    (0x1d6db, "20PARTIAL DIFFERENTIAL,20EPSILON SYMBOL,21THETA,21KAPPA,21PHI,21RHO"),
    (0x1d6e1, "21PI,10ITALIC CAPITAL ALPHA,30BETA,30GAMMA,30DELTA,30EPSILON,30ZETA"),
    (0x1d6e8, "30ETA,30THETA,30IOTA,30KAPPA,30LAMDA,30MU,30NU,30XI,30OMICRON,30PI"),
    (0x1d6f2, "30RHO,30THETA SYMBOL,30SIGMA,30TAU,30UPSILON,30PHI,30CHI,30PSI,30OMEGA"),
    (0x1d6fb, "20NABLA,20SMALL ALPHA,30BETA,30GAMMA,30DELTA,30EPSILON,30ZETA,30ETA"),
    (0x1d703, "30THETA,30IOTA,30KAPPA,30LAMDA,30MU,30NU,30XI,30OMICRON,30PI,30RHO"),
    (0x1d70d, "30FINAL SIGMA,31,30TAU,30UPSILON,30PHI,30CHI,30PSI,30OMEGA"),
    (0x1d715, "20PARTIAL DIFFERENTIAL,20EPSILON SYMBOL,21THETA,21KAPPA,21PHI,21RHO"),
    (0x1d71b, "21PI,10BOLD ITALIC CAPITAL ALPHA,40BETA,40GAMMA,40DELTA,40EPSILON"),
    (0x1d721, "40ZETA,40ETA,40THETA,40IOTA,40KAPPA,40LAMDA,40MU,40NU,40XI,40OMICRON"),
    (0x1d72b, "40PI,40RHO,40THETA SYMBOL,40SIGMA,40TAU,40UPSILON,40PHI,40CHI,40PSI"),
    (0x1d734, "40OMEGA,30NABLA,30SMALL ALPHA,40BETA,40GAMMA,40DELTA,40EPSILON,40ZETA"),
    (0x1d73c, "40ETA,40THETA,40IOTA,40KAPPA,40LAMDA,40MU,40NU,40XI,40OMICRON,40PI"),
    (0x1d746, "40RHO,40FINAL SIGMA,41,40TAU,40UPSILON,40PHI,40CHI,40PSI,40OMEGA"),
    (0x1d74f, "30PARTIAL DIFFERENTIAL,30EPSILON SYMBOL,31THETA,31KAPPA,31PHI,31RHO"),
    (0x1d755, "31PI,10SANS-SERIF BOLD CAPITAL ALPHA,40BETA,40GAMMA,40DELTA,40EPSILON"),
    (0x1d75b, "40ZETA,40ETA,40THETA,40IOTA,40KAPPA,40LAMDA,40MU,40NU,40XI,40OMICRON"),
    (0x1d765, "40PI,40RHO,40THETA SYMBOL,40SIGMA,40TAU,40UPSILON,40PHI,40CHI,40PSI"),
    (0x1d76e, "40OMEGA,30NABLA,30SMALL ALPHA,40BETA,40GAMMA,40DELTA,40EPSILON,40ZETA"),
    (0x1d776, "40ETA,40THETA,40IOTA,40KAPPA,40LAMDA,40MU,40NU,40XI,40OMICRON,40PI"),
    (0x1d780, "40RHO,40FINAL SIGMA,41,40TAU,40UPSILON,40PHI,40CHI,40PSI,40OMEGA"),
    (0x1d789, "30PARTIAL DIFFERENTIAL,30EPSILON SYMBOL,31THETA,31KAPPA,31PHI,31RHO"),
    (0x1d78f, "31PI,30ITALIC CAPITAL ALPHA,50BETA,50GAMMA,50DELTA,50EPSILON,50ZETA"),
    (0x1d796, "50ETA,50THETA,50IOTA,50KAPPA,50LAMDA,50MU,50NU,50XI,50OMICRON,50PI"),
    (0x1d7a0, "50RHO,50THETA SYMBOL,50SIGMA,50TAU,50UPSILON,50PHI,50CHI,50PSI,50OMEGA"),
    (0x1d7a9, "40NABLA,40SMALL ALPHA,50BETA,50GAMMA,50DELTA,50EPSILON,50ZETA,50ETA"),
    (0x1d7b1, "50THETA,50IOTA,50KAPPA,50LAMDA,50MU,50NU,50XI,50OMICRON,50PI,50RHO"),
    (0x1d7bb, "50FINAL SIGMA,51,50TAU,50UPSILON,50PHI,50CHI,50PSI,50OMEGA"),
    (0x1d7c3, "40PARTIAL DIFFERENTIAL,40EPSILON SYMBOL,41THETA,41KAPPA,41PHI,41RHO"),
    (0x1d7c9, "41PI,10BOLD CAPITAL DIGAMMA,21SMALL"),
    (0x1d7ce, "20DIGIT ZERO,30ONE,30TWO,30THREE,30FOUR,30FIVE,30SIX,30SEVEN,30EIGHT"),
    (0x1d7d7, "30NINE,10DOUBLE-STRUCK DIGIT ZERO,30ONE,30TWO,30THREE,30FOUR,30FIVE"),
    (0x1d7de, "30SIX,30SEVEN,30EIGHT,30NINE,10SANS-SERIF DIGIT ZERO,30ONE,30TWO"),
    (0x1d7e5, "30THREE,30FOUR,30FIVE,30SIX,30SEVEN,30EIGHT,30NINE,20BOLD DIGIT ZERO"),
    (0x1d7ed, "40ONE,40TWO,40THREE,40FOUR,40FIVE,40SIX,40SEVEN,40EIGHT,40NINE"),
    (0x1d7f6, "10MONOSPACE DIGIT ZERO,30ONE,30TWO,30THREE,30FOUR,30FIVE,30SIX,30SEVEN"),
    (0x1d7fe, "30EIGHT,30NINE")]

end Text
end KindExpr
