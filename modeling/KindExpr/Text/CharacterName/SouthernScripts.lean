/-!
# Names of letters of southern Asia

The names of the characters of the scripts of western, southern and
south-eastern Asia that are in use.

Each entry is the first code point of a run and the names of the run, packed as
`unpackName` reads them.
-/

namespace KindExpr
namespace Text

/-- The packed names of Syriac, Thaana, Nko and their neighbours. -/
def westernScriptNames : List (Nat × String) :=
  [
    (0x700, "00SYRIAC END OF PARAGRAPH,10SUPRALINEAR FULL STOP,12SUBLINEAR"),
    (0x703, "10SUPRALINEAR COLON,11SUBLINEAR,11HORIZONTAL,10COLON SKEWED LEFT,30RIGHT"),
    (0x708, "10SUPRALINEAR COLON SKEWED LEFT,10SUBLINEAR COLON SKEWED RIGHT"),
    (0x70a, "10CONTRACTION,10HARKLEAN OBELUS,20METOBELUS,20ASTERISCUS"),
    (0x70f, "10ABBREVIATION MARK,10LETTER ALAPH,21SUPERSCRIPT,20BETH,20GAMAL"),
    (0x714, "30GARSHUNI,20DALATH,20DOTLESS DALATH RISH,20HE,20WAW,20ZAIN,20HETH"),
    (0x71b, "20TETH,30GARSHUNI,20YUDH,30HE,20KAPH,20LAMADH,20MIM,20NUN,20SEMKATH"),
    (0x724, "21FINAL,20E,20PE,21REVERSED,20SADHE,20QAPH,20RISH,20SHIN,20TAW"),
    (0x72d, "20PERSIAN BHETH,30GHAMAL,30DHALATH,10PTHAHA ABOVE,20BELOW,20DOTTED"),
    (0x733, "10ZQAPHA ABOVE,20BELOW,20DOTTED,10RBASA ABOVE,20BELOW"),
    (0x738, "10DOTTED ZLAMA HORIZONTAL,30ANGULAR,10HBASA ABOVE,20BELOW"),
    (0x73c, "10HBASA-ESASA DOTTED,10ESASA ABOVE,20BELOW,10RWAHA,10FEMININE DOT"),
    (0x741, "10QUSHSHAYA,10RUKKAKHA,10TWO VERTICAL DOTS ABOVE,40BELOW"),
    (0x745, "10THREE DOTS ABOVE,30BELOW,10OBLIQUE LINE ABOVE,30BELOW,10MUSIC"),
    (0x74a, "10BARREKH"),
    (0x74d, "10LETTER SOGDIAN ZHAIN,30KHAPH,30FE"),
    (0x750, "00ARABIC LETTER BEH WITH THREE DOTS HORIZONTALLY BELOW"),
    (0x751, "40DOT BELOW AND THREE DOTS ABOVE,40THREE DOTS POINTING UPWARDS BELOW"),
    (0x753, "90AND TWO DOTS ABOVE,41TWO DOTS BELOW AND DOT,40INVERTED SMALL V BELOW"),
    (0x756, "40SMALL V,20HAH WITH TWO DOTS ABOVE,40THREE DOTS POINTING UPWARDS BELOW"),
    (0x759, "20DAL WITH TWO DOTS VERTICALLY BELOW AND SMALL TAH"),
    (0x75a, "40INVERTED SMALL V BELOW,20REH WITH STROKE,20SEEN WITH FOUR DOTS ABOVE"),
    (0x75d, "22AIN WITH TWO,41THREE DOTS POINTING DOWNWARDS,41TWO DOTS VERTICALLY"),
    (0x760, "20FEH WITH TWO DOTS BELOW,41THREE DOTS POINTING UPWARDS"),
    (0x762, "20KEHEH WITH DOT ABOVE,41THREE DOTS,60POINTING UPWARDS BELOW"),
    (0x765, "20MEEM WITH DOT ABOVE,50BELOW,21NOON WITH TWO DOTS,40SMALL TAH,50V"),
    (0x76a, "20LAM WITH BAR,20REH WITH TWO DOTS VERTICALLY ABOVE,41HAMZA"),
    (0x76d, "21SEEN WITH TWO DOTS VERTICALLY,20HAH WITH SMALL ARABIC LETTER TAH BELOW"),
    (0x76f, "80AND TWO DOTS,28SEEN,28REH,20HAH WITH SMALL ARABIC LETTER TAH ABOVE"),
    (0x773, "21ALEF WITH EXTENDED ARABIC-INDIC DIGIT TWO,71THREE"),
    (0x775, "21FARSI YEH WITH EXTENDED ARABIC-INDIC DIGIT TWO,81THREE,80FOUR BELOW"),
    (0x778, "20WAW WITH EXTENDED ARABIC-INDIC DIGIT TWO ABOVE,71THREE"),
    (0x77a, "21YEH BARREE WITH EXTENDED ARABIC-INDIC DIGIT TWO,81THREE"),
    (0x77c, "20HAH WITH EXTENDED ARABIC-INDIC DIGIT FOUR BELOW"),
    (0x77d, "20SEEN WITH EXTENDED ARABIC-INDIC DIGIT FOUR ABOVE,40INVERTED V"),
    (0x77f, "20KAF WITH TWO DOTS ABOVE,00THAANA LETTER HAA,20SHAVIYANI,20NOONU,20RAA"),
    (0x784, "20BAA,20LHAVIYANI,20KAAFU,20ALIFU,20VAAVU,20MEEMU,20FAAFU,20DHAALU"),
    (0x78c, "20THAA,20LAAMU,20GAAFU,20GNAVIYANI,20SEENU,20DAVIYANI,20ZAVIYANI"),
    (0x793, "20TAVIYANI,20YAA,20PAVIYANI,20JAVIYANI,20CHAVIYANI,20TTAA,20HHAA,20KHAA"),
    (0x79b, "20THAALU,20ZAA,20SHEENU,20SAADHU,20DAADHU,20TO,20ZO,20AINU,20GHAINU"),
    (0x7a4, "20QAAFU,20WAAVU,10ABAFILI,10AABAAFILI,10IBIFILI,10EEBEEFILI,10UBUFILI"),
    (0x7ab, "10OOBOOFILI,10EBEFILI,10EYBEYFILI,10OBOFILI,10OABOAFILI,10SUKUN"),
    (0x7b1, "10LETTER NAA"),
    (0x7c0, "00NKO DIGIT ZERO,20ONE,20TWO,20THREE,20FOUR,20FIVE,20SIX,20SEVEN,20EIGHT"),
    (0x7c9, "20NINE,10LETTER A,20EE,20I,20E,20U,20OO,20O,20DAGBASINNA,20N,20BA,20PA"),
    (0x7d5, "20TA,20JA,20CHA,20DA,20RA,20RRA,20SA,20GBA,20FA,20KA,20LA,20NA WOLOSO"),
    (0x7e1, "20MA,20NYA,20NA,20HA,20WA,20YA,20NYA WOLOSO,20JONA JA,30CHA,30RA"),
    (0x7eb, "10COMBINING SHORT HIGH TONE,31LOW,31RISING,21LONG DESCENDING,31HIGH"),
    (0x7f0, "31LOW,31RISING,20NASALIZATION MARK,20DOUBLE DOT ABOVE"),
    (0x7f4, "10HIGH TONE APOSTROPHE,12LOW,10SYMBOL OO DENNEN,20GBAKURUNEN,10COMMA"),
    (0x7f9, "10EXCLAMATION MARK,10LAJANYALAN"),
    (0x7fd, "10DANTAYALAN,10DOROME SIGN,11TAMAN,00SAMARITAN LETTER ALAF,20BIT,20GAMAN"),
    (0x803, "20DALAT,20IY,20BAA,20ZEN,20IT,20TIT,20YUT,20KAAF,20LABAT,20MIM,20NUN"),
    (0x80e, "20SINGAAT,20IN,20FI,20TSAADIY,20QUF,20RISH,20SHAN,20TAAF,10MARK IN"),
    (0x817, "20IN-ALAF,20OCCLUSION,20DAGESH,10MODIFIER LETTER EPENTHETIC YUT,12MARK"),
    (0x81c, "10VOWEL SIGN LONG E,31,30OVERLONG AA,31LONG,31,30OVERLONG A,31LONG,31"),
    (0x824, "11MODIFIER LETTER SHORT,12VOWEL SIGN,30LONG U,31,10MODIFIER LETTER I"),
    (0x829, "11VOWEL SIGN LONG,31,30O,30SUKUN,10MARK NEQUDAA"),
    (0x830, "11PUNCTUATION,20AFSAAQ,20ANGED,20BAU,20ATMAAU,20SHIYYAALAA"),
    (0x836, "10ABBREVIATION MARK,10PUNCTUATION MELODIC QITSA,20ZIQAA,20QITSA,20ZAEF"),
    (0x83b, "20TURU,20ARKAANU,20SOF MASHFAAT,20ANNAAU"),
    (0x840, "00MANDAIC LETTER HALQA,20AB,20AG,20AD,20AH,20USHENNA,20AZ,20IT,20ATT"),
    (0x849, "20AKSA,20AK,20AL,20AM,20AN,20AS,20IN,20AP,20ASZ,20AQ,20AR,20ASH,20AT"),
    (0x856, "20DUSHENNA,20KAD,20AIN,10AFFRICATION MARK,11VOCALIZATION,11GEMINATION"),
    (0x85e, "10PUNCTUATION"),
    (0x860, "00SYRIAC LETTER MALAYALAM NGA,30JA,30NYA,30TTA,30NNA,30NNNA,30BHA,30RA"),
    (0x868, "30LLA,30LLLA,30SSA"),
    (0x870, "00ARABIC LETTER ALEF WITH ATTACHED FATHA,51TOP RIGHT"),
    (0x872, "40RIGHT MIDDLE STROKE,42LEFT,40ATTACHED KASRA,51BOTTOM RIGHT"),
    (0x876, "50ROUND DOT ABOVE,50RIGHT ROUND DOT,52LEFT,50ROUND DOT BELOW,40DOT ABOVE"),
    (0x87b, "42ATTACHED TOP RIGHT FATHA AND,43RIGHT MIDDLE STROKE"),
    (0x87d, "43ATTACHED BOTTOM RIGHT KASRA,50TOP RIGHT FATHA AND LEFT RING"),
    (0x87f, "43RIGHT MIDDLE STROKE,43ATTACHED BOTTOM RIGHT KASRA,50RIGHT HAMZA,51LEFT"),
    (0x883, "11TATWEEL WITH OVERSTRUCK,40WAW,30TWO DOTS BELOW,10LETTER THIN YEH"),
    (0x887, "10BASELINE ROUND DOT,12RAISED,10LETTER NOON WITH INVERTED SMALL V"),
    (0x88a, "20HAH WITH INVERTED SMALL V BELOW,21TAH WITH DOT,41THREE DOTS"),
    (0x88d, "21KEHEH WITH TWO DOTS VERTICALLY,10VERTICAL TAIL"),
    (0x890, "10POUND MARK ABOVE,12PIASTRE"),
    (0x898, "10SMALL HIGH WORD AL-JUZ,20LOW WORD ISHMAAM,40IMAALA,40TASHEEL"),
    (0x89c, "10MADDA WAAJIB,10SUPERSCRIPT ALEF MOKHASSAS,10DOUBLED MADDA"),
    (0x89f, "11HALF MADDA OVER,10LETTER BEH WITH SMALL V BELOW,40HAMZA ABOVE"),
    (0x8a2, "21JEEM WITH TWO DOTS,24TAH,22FEH WITH DOT BELOW AND THREE"),
    (0x8a5, "20QAF WITH DOT BELOW,20LAM WITH DOUBLE BAR,20MEEM WITH THREE DOTS ABOVE"),
    (0x8a8, "21YEH WITH TWO DOTS BELOW AND HAMZA,81DOT,20REH WITH LOOP"),
    (0x8ab, "20WAW WITH DOT WITHIN,20ROHINGYA YEH,20LOW ALEF"),
    (0x8ae, "20DAL WITH THREE DOTS BELOW,24SAD,20GAF WITH INVERTED STROKE"),
    (0x8b1, "20STRAIGHT WAW,20ZAIN WITH INVERTED V ABOVE,20AIN WITH THREE DOTS BELOW"),
    (0x8b4, "21KAF WITH DOT,20QAF WITH DOT BELOW AND NO DOTS ABOVE"),
    (0x8b6, "21BEH WITH SMALL MEEM,24PEH,21TEH WITH SMALL TEH,21REH WITH SMALL NOON"),
    (0x8ba, "23YEH WITH TWO DOTS BELOW AND,20AFRICAN FEH,30QAF,30NOON"),
    (0x8be, "20PEH WITH SMALL V,23TEH,23TTEH,23TCHEH,23KEHEH"),
    (0x8c3, "20GHAIN WITH THREE DOTS ABOVE,24AFRICAN QAF,24JEEM,60BELOW"),
    (0x8c7, "20LAM WITH SMALL ARABIC LETTER TAH ABOVE,20GRAF,10SMALL FARSI YEH,22HIGH"),
    (0x8cb, "30YEH BARREE WITH TWO DOTS BELOW,30WORD SAH,30ZAH"),
    (0x8ce, "10LARGE ROUND DOT ABOVE,40BELOW,11SUKUN,11LARGE CIRCLE"),
    (0x8d2, "22ROUND DOT INSIDE,10SMALL LOW WAW,20HIGH WORD AR-RUB,30SAD,30AIN,30QAF"),
    (0x8d8, "30NOON WITH KASRA,23LOW,20HIGH WORD ATH-THALATHA,40AS-SAJDA,40AN-NISF"),
    (0x8dd, "40SAKTA,40QIF,40WAQFA,30FOOTNOTE MARKER,30SIGN SAFHA"),
    (0x8e2, "10DISPUTED END OF AYAH,10TURNED DAMMA BELOW,10CURLY FATHA,20DAMMA"),
    (0x8e6, "20KASRA,20FATHATAN,20DAMMATAN,20KASRATAN,10TONE ONE DOT ABOVE,21TWO DOTS"),
    (0x8ec, "21LOOP,20ONE DOT BELOW,21TWO DOTS,21LOOP,10OPEN FATHATAN,20DAMMATAN"),
    (0x8f2, "20KASRATAN,10SMALL HIGH WAW,10FATHA WITH RING,30DOT ABOVE"),
    (0x8f6, "10KASRA WITH DOT BELOW,10LEFT ARROWHEAD ABOVE,12RIGHT"),
    (0x8f9, "10LEFT ARROWHEAD BELOW,12RIGHT,10DOUBLE RIGHT ARROWHEAD ABOVE,50WITH DOT"),
    (0x8fd, "15,12DAMMA,10MARK SIDEWAYS NOON GHUNNA")]

/-- The packed names of the scripts of India. -/
def indicScriptNames : List (Nat × String) :=
  [
    (0x980, "00BENGALI ANJI,10SIGN CANDRABINDU,20ANUSVARA,20VISARGA"),
    (0x985, "10LETTER A,20AA,20I,20II,20U,20UU,20VOCALIC R,30L"),
    (0x98f, "20E,20AI"),
    (0x993, "20O,20AU,20KA,20KHA,20GA,20GHA,20NGA,20CA,20CHA,20JA,20JHA,20NYA,20TTA"),
    (0x9a0, "20TTHA,20DDA,20DDHA,20NNA,20TA,20THA,20DA,20DHA,20NA"),
    (0x9aa, "20PA,20PHA,20BA,20BHA,20MA,20YA,20RA"),
    (0x9b2, "20LA"),
    (0x9b6, "20SHA,20SSA,20SA,20HA"),
    (0x9bc, "10SIGN NUKTA,20AVAGRAHA,10VOWEL SIGN AA,30I,30II,30U,30UU,30VOCALIC R"),
    (0x9c4, "40RR"),
    (0x9c7, "30E,30AI"),
    (0x9cb, "30O,30AU,10SIGN VIRAMA,10LETTER KHANDA TA"),
    (0x9d7, "10AU LENGTH MARK"),
    (0x9dc, "10LETTER RRA,20RHA"),
    (0x9df, "20YYA,20VOCALIC RR,30LL,10VOWEL SIGN VOCALIC L,40LL"),
    (0x9e6, "10DIGIT ZERO,20ONE,20TWO,20THREE,20FOUR,20FIVE,20SIX,20SEVEN,20EIGHT"),
    (0x9ef, "20NINE,10LETTER RA WITH MIDDLE DIAGONAL,41LOWER,10RUPEE MARK,20SIGN"),
    (0x9f4, "10CURRENCY NUMERATOR ONE,30TWO,30THREE,30FOUR"),
    (0x9f8, "30ONE LESS THAN THE DENOMINATOR,20DENOMINATOR SIXTEEN,10ISSHAR"),
    (0x9fb, "10GANDA MARK,10LETTER VEDIC ANUSVARA,10ABBREVIATION SIGN,10SANDHI MARK"),
    (0xa01, "00GURMUKHI SIGN ADAK BINDI,21,20VISARGA"),
    (0xa05, "10LETTER A,20AA,20I,20II,20U,20UU"),
    (0xa0f, "20EE,20AI"),
    (0xa13, "20OO,20AU,20KA,20KHA,20GA,20GHA,20NGA,20CA,20CHA,20JA,20JHA,20NYA,20TTA"),
    (0xa20, "20TTHA,20DDA,20DDHA,20NNA,20TA,20THA,20DA,20DHA,20NA"),
    (0xa2a, "20PA,20PHA,20BA,20BHA,20MA,20YA,20RA"),
    (0xa32, "20LA,20LLA"),
    (0xa35, "20VA,20SHA"),
    (0xa38, "20SA,20HA"),
    (0xa3c, "10SIGN NUKTA"),
    (0xa3e, "10VOWEL SIGN AA,30I,30II,30U,30UU"),
    (0xa47, "30EE,30AI"),
    (0xa4b, "30OO,30AU,10SIGN VIRAMA"),
    (0xa51, "20UDAAT"),
    (0xa59, "10LETTER KHHA,20GHHA,20ZA,20RRA"),
    (0xa5e, "20FA"),
    (0xa66, "10DIGIT ZERO,20ONE,20TWO,20THREE,20FOUR,20FIVE,20SIX,20SEVEN,20EIGHT"),
    (0xa6f, "20NINE,10TIPPI,10ADDAK,10IRI,10URA,10EK ONKAR,10SIGN YAKASH"),
    (0xa76, "10ABBREVIATION SIGN"),
    (0xa81, "00GUJARATI SIGN CANDRABINDU,20ANUSVARA,20VISARGA"),
    (0xa85, "10LETTER A,20AA,20I,20II,20U,20UU,20VOCALIC R,30L,10VOWEL CANDRA E"),
    (0xa8f, "11LETTER,20AI,10VOWEL CANDRA O"),
    (0xa93, "11LETTER,20AU,20KA,20KHA,20GA,20GHA,20NGA,20CA,20CHA,20JA,20JHA,20NYA"),
    (0xa9f, "20TTA,20TTHA,20DDA,20DDHA,20NNA,20TA,20THA,20DA,20DHA,20NA"),
    (0xaaa, "20PA,20PHA,20BA,20BHA,20MA,20YA,20RA"),
    (0xab2, "20LA,20LLA"),
    (0xab5, "20VA,20SHA,20SSA,20SA,20HA"),
    (0xabc, "10SIGN NUKTA,20AVAGRAHA,10VOWEL SIGN AA,30I,30II,30U,30UU,30VOCALIC R"),
    (0xac4, "40RR,30CANDRA E"),
    (0xac7, "31,30AI,30CANDRA O"),
    (0xacb, "31,30AU,10SIGN VIRAMA"),
    (0xad0, "10OM"),
    (0xae0, "10LETTER VOCALIC RR,30LL,10VOWEL SIGN VOCALIC L,40LL"),
    (0xae6, "10DIGIT ZERO,20ONE,20TWO,20THREE,20FOUR,20FIVE,20SIX,20SEVEN,20EIGHT"),
    (0xaef, "20NINE,10ABBREVIATION SIGN,11RUPEE"),
    (0xaf9, "10LETTER ZHA,10SIGN SUKUN,20SHADDA,20MADDAH,20THREE-DOT NUKTA ABOVE"),
    (0xafe, "22CIRCLE,22TWO-CIRCLE"),
    (0xb01, "00ORIYA SIGN CANDRABINDU,20ANUSVARA,20VISARGA"),
    (0xb05, "10LETTER A,20AA,20I,20II,20U,20UU,20VOCALIC R,30L"),
    (0xb0f, "20E,20AI"),
    (0xb13, "20O,20AU,20KA,20KHA,20GA,20GHA,20NGA,20CA,20CHA,20JA,20JHA,20NYA,20TTA"),
    (0xb20, "20TTHA,20DDA,20DDHA,20NNA,20TA,20THA,20DA,20DHA,20NA"),
    (0xb2a, "20PA,20PHA,20BA,20BHA,20MA,20YA,20RA"),
    (0xb32, "20LA,20LLA"),
    (0xb35, "20VA,20SHA,20SSA,20SA,20HA"),
    (0xb3c, "10SIGN NUKTA,20AVAGRAHA,10VOWEL SIGN AA,30I,30II,30U,30UU,30VOCALIC R"),
    (0xb44, "40RR"),
    (0xb47, "30E,30AI"),
    (0xb4b, "30O,30AU,10SIGN VIRAMA"),
    (0xb55, "20OVERLINE,10AI LENGTH MARK,12AU"),
    (0xb5c, "10LETTER RRA,20RHA"),
    (0xb5f, "20YYA,20VOCALIC RR,30LL,10VOWEL SIGN VOCALIC L,40LL"),
    (0xb66, "10DIGIT ZERO,20ONE,20TWO,20THREE,20FOUR,20FIVE,20SIX,20SEVEN,20EIGHT"),
    (0xb6f, "20NINE,10ISSHAR,10LETTER WA,10FRACTION ONE QUARTER,30HALF"),
    (0xb74, "20THREE QUARTERS,20ONE SIXTEENTH,30EIGHTH,20THREE SIXTEENTHS"),
    (0xb82, "00TAMIL SIGN ANUSVARA,20VISARGA"),
    (0xb85, "10LETTER A,20AA,20I,20II,20U,20UU"),
    (0xb8e, "20E,20EE,20AI"),
    (0xb92, "20O,20OO,20AU,20KA"),
    (0xb99, "20NGA,20CA"),
    (0xb9c, "20JA"),
    (0xb9e, "20NYA,20TTA"),
    (0xba3, "20NNA,20TA"),
    (0xba8, "20NA,20NNNA,20PA"),
    (0xbae, "20MA,20YA,20RA,20RRA,20LA,20LLA,20LLLA,20VA,20SHA,20SSA,20SA,20HA"),
    (0xbbe, "10VOWEL SIGN AA,30I,30II,30U,30UU"),
    (0xbc6, "30E,30EE,30AI"),
    (0xbca, "30O,30OO,30AU,10SIGN VIRAMA"),
    (0xbd0, "10OM"),
    (0xbd7, "10AU LENGTH MARK"),
    (0xbe6, "10DIGIT ZERO,20ONE,20TWO,20THREE,20FOUR,20FIVE,20SIX,20SEVEN,20EIGHT"),
    (0xbef, "20NINE,10NUMBER TEN,20ONE HUNDRED,30THOUSAND,10DAY SIGN,11MONTH,11YEAR"),
    (0xbf6, "11DEBIT,11CREDIT,11AS ABOVE,11RUPEE,11NUMBER"),
    (0xc00, "00TELUGU SIGN COMBINING CANDRABINDU ABOVE,20CANDRABINDU,20ANUSVARA"),
    (0xc03, "20VISARGA,20COMBINING ANUSVARA ABOVE,10LETTER A,20AA,20I,20II,20U,20UU"),
    (0xc0b, "20VOCALIC R,30L"),
    (0xc0e, "20E,20EE,20AI"),
    (0xc12, "20O,20OO,20AU,20KA,20KHA,20GA,20GHA,20NGA,20CA,20CHA,20JA,20JHA,20NYA"),
    (0xc1f, "20TTA,20TTHA,20DDA,20DDHA,20NNA,20TA,20THA,20DA,20DHA,20NA"),
    (0xc2a, "20PA,20PHA,20BA,20BHA,20MA,20YA,20RA,20RRA,20LA,20LLA,20LLLA,20VA,20SHA"),
    (0xc37, "20SSA,20SA,20HA"),
    (0xc3c, "10SIGN NUKTA,20AVAGRAHA,10VOWEL SIGN AA,30I,30II,30U,30UU,30VOCALIC R"),
    (0xc44, "40RR"),
    (0xc46, "30E,30EE,30AI"),
    (0xc4a, "30O,30OO,30AU,10SIGN VIRAMA"),
    (0xc55, "10LENGTH MARK,12AI"),
    (0xc58, "10LETTER TSA,20DZA,20RRRA"),
    (0xc5d, "20NAKAARA POLLU"),
    (0xc60, "20VOCALIC RR,30LL,10VOWEL SIGN VOCALIC L,40LL"),
    (0xc66, "10DIGIT ZERO,20ONE,20TWO,20THREE,20FOUR,20FIVE,20SIX,20SEVEN,20EIGHT"),
    (0xc6f, "20NINE"),
    (0xc77, "10SIGN SIDDHAM,10FRACTION DIGIT ZERO FOR ODD POWERS OF FOUR,35ONE,35TWO"),
    (0xc7b, "35THREE,33ONE FOR EVEN,35TWO,35THREE,10SIGN TUUMU"),
    (0xc80, "00KANNADA SIGN SPACING CANDRABINDU,21,20ANUSVARA,20VISARGA,20SIDDHAM"),
    (0xc85, "10LETTER A,20AA,20I,20II,20U,20UU,20VOCALIC R,30L"),
    (0xc8e, "20E,20EE,20AI"),
    (0xc92, "20O,20OO,20AU,20KA,20KHA,20GA,20GHA,20NGA,20CA,20CHA,20JA,20JHA,20NYA"),
    (0xc9f, "20TTA,20TTHA,20DDA,20DDHA,20NNA,20TA,20THA,20DA,20DHA,20NA"),
    (0xcaa, "20PA,20PHA,20BA,20BHA,20MA,20YA,20RA,20RRA,20LA,20LLA"),
    (0xcb5, "20VA,20SHA,20SSA,20SA,20HA"),
    (0xcbc, "10SIGN NUKTA,20AVAGRAHA,10VOWEL SIGN AA,30I,30II,30U,30UU,30VOCALIC R"),
    (0xcc4, "40RR"),
    (0xcc6, "30E,30EE,30AI"),
    (0xcca, "30O,30OO,30AU,10SIGN VIRAMA"),
    (0xcd5, "10LENGTH MARK,12AI"),
    (0xcdd, "10LETTER NAKAARA POLLU,20FA"),
    (0xce0, "20VOCALIC RR,30LL,10VOWEL SIGN VOCALIC L,40LL"),
    (0xce6, "10DIGIT ZERO,20ONE,20TWO,20THREE,20FOUR,20FIVE,20SIX,20SEVEN,20EIGHT"),
    (0xcef, "20NINE"),
    (0xcf1, "10SIGN JIHVAMULIYA,20UPADHMANIYA"),
    (0xd00, "00MALAYALAM SIGN COMBINING ANUSVARA ABOVE,20CANDRABINDU,20ANUSVARA"),
    (0xd03, "20VISARGA,10LETTER VEDIC ANUSVARA,20A,20AA,20I,20II,20U,20UU,20VOCALIC R"),
    (0xd0c, "30L"),
    (0xd0e, "20E,20EE,20AI"),
    (0xd12, "20O,20OO,20AU,20KA,20KHA,20GA,20GHA,20NGA,20CA,20CHA,20JA,20JHA,20NYA"),
    (0xd1f, "20TTA,20TTHA,20DDA,20DDHA,20NNA,20TA,20THA,20DA,20DHA,20NA,20NNNA,20PA"),
    (0xd2b, "20PHA,20BA,20BHA,20MA,20YA,20RA,20RRA,20LA,20LLA,20LLLA,20VA,20SHA,20SSA"),
    (0xd38, "20SA,20HA,20TTTA,10SIGN VERTICAL BAR VIRAMA,21CIRCULAR,20AVAGRAHA"),
    (0xd3e, "10VOWEL SIGN AA,30I,30II,30U,30UU,30VOCALIC R,40RR"),
    (0xd46, "30E,30EE,30AI"),
    (0xd4a, "30O,30OO,30AU,10SIGN VIRAMA,10LETTER DOT REPH,10SIGN PARA"),
    (0xd54, "10LETTER CHILLU M,30Y,30LLL,10AU LENGTH MARK"),
    (0xd58, "10FRACTION ONE ONE-HUNDRED-AND-SIXTIETH,30FORTIETH,20THREE EIGHTIETHS"),
    (0xd5b, "20ONE TWENTIETH,30TENTH,20THREE TWENTIETHS,20ONE FIFTH"),
    (0xd5f, "10LETTER ARCHAIC II,20VOCALIC RR,30LL,10VOWEL SIGN VOCALIC L,40LL"),
    (0xd66, "10DIGIT ZERO,20ONE,20TWO,20THREE,20FOUR,20FIVE,20SIX,20SEVEN,20EIGHT"),
    (0xd6f, "20NINE,10NUMBER TEN,20ONE HUNDRED,30THOUSAND,10FRACTION ONE QUARTER"),
    (0xd74, "30HALF,20THREE QUARTERS,20ONE SIXTEENTH,30EIGHTH,20THREE SIXTEENTHS"),
    (0xd79, "10DATE MARK,10LETTER CHILLU NN,30N,30RR,30L,30LL,30K"),
    (0xd81, "00SINHALA SIGN CANDRABINDU,20ANUSVARAYA,20VISARGAYA"),
    (0xd85, "10LETTER AYANNA,20AAYANNA,20AEYANNA,20AEEYANNA,20IYANNA,20IIYANNA"),
    (0xd8b, "20UYANNA,20UUYANNA,20IRUYANNA,20IRUUYANNA,20ILUYANNA,20ILUUYANNA"),
    (0xd91, "20EYANNA,20EEYANNA,20AIYANNA,20OYANNA,20OOYANNA,20AUYANNA"),
    (0xd9a, "20ALPAPRAANA KAYANNA,21MAHAAPRAANA,20ALPAPRAANA GAYANNA,21MAHAAPRAANA"),
    (0xd9e, "20KANTAJA NAASIKYAYA,20SANYAKA GAYANNA,20ALPAPRAANA CAYANNA"),
    (0xda1, "21MAHAAPRAANA,20ALPAPRAANA JAYANNA,21MAHAAPRAANA,20TAALUJA NAASIKYAYA"),
    (0xda5, "30SANYOOGA NAAKSIKYAYA,20SANYAKA JAYANNA,20ALPAPRAANA TTAYANNA"),
    (0xda8, "21MAHAAPRAANA,20ALPAPRAANA DDAYANNA,21MAHAAPRAANA,20MUURDHAJA NAYANNA"),
    (0xdac, "20SANYAKA DDAYANNA,20ALPAPRAANA TAYANNA,21MAHAAPRAANA"),
    (0xdaf, "20ALPAPRAANA DAYANNA,21MAHAAPRAANA,20DANTAJA NAYANNA"),
    (0xdb3, "20SANYAKA DAYANNA,20ALPAPRAANA PAYANNA,21MAHAAPRAANA"),
    (0xdb6, "20ALPAPRAANA BAYANNA,21MAHAAPRAANA,20MAYANNA,20AMBA BAYANNA,20YAYANNA"),
    (0xdbb, "20RAYANNA"),
    (0xdbd, "20DANTAJA LAYANNA"),
    (0xdc0, "20VAYANNA,20TAALUJA SAYANNA,21MUURDHAJA,21DANTAJA,20HAYANNA"),
    (0xdc5, "20MUURDHAJA LAYANNA,20FAYANNA"),
    (0xdca, "10SIGN AL-LAKUNA"),
    (0xdcf, "10VOWEL SIGN AELA-PILLA,30KETTI AEDA-PILLA,31DIGA,30KETTI IS-PILLA"),
    (0xdd3, "31DIGA,30KETTI PAA-PILLA"),
    (0xdd6, "31DIGA"),
    (0xdd8, "30GAETTA-PILLA,30KOMBUVA,31DIGA,30KOMBU DEKA,30KOMBUVA HAA AELA-PILLA"),
    (0xddd, "51DIGA,50GAYANUKITTA,31"),
    (0xde6, "10LITH DIGIT ZERO,30ONE,30TWO,30THREE,30FOUR,30FIVE,30SIX,30SEVEN"),
    (0xdee, "30EIGHT,30NINE"),
    (0xdf2, "10VOWEL SIGN DIGA GAETTA-PILLA,40GAYANUKITTA,10PUNCTUATION KUNDDALIYA")]

/-- The packed names of Lao, Tibetan and Burmese. -/
def monsoonScriptNames : List (Nat × String) :=
  [
    (0xe81, "00LAO LETTER KO,20KHO SUNG"),
    (0xe84, "30TAM"),
    (0xe86, "20PALI GHA,20NGO,20CO,20PALI CHA,20SO TAM"),
    (0xe8c, "20PALI JHA,20NYO,20PALI NYA,30TTA,30TTHA,30DDA,30DDHA,30NNA,20DO,20TO"),
    (0xe96, "20THO SUNG,30TAM,20PALI DHA,20NO,20BO,20PO,20PHO SUNG,20FO TAM,21PHO"),
    (0xe9f, "20FO SUNG,20PALI BHA,20MO,20YO,20LO LING"),
    (0xea5, "30LOOT"),
    (0xea7, "20WO,20SANSKRIT SHA,30SSA,20SO SUNG,21HO,20PALI LLA,20O,20HO TAM"),
    (0xeaf, "10ELLIPSIS,10VOWEL SIGN A,30MAI KAN,30AA,30AM,30I,30II,30Y,30YY,30U,30UU"),
    (0xeba, "10SIGN PALI VIRAMA,10VOWEL SIGN MAI KON,10SEMIVOWEL SIGN LO,30NYO"),
    (0xec0, "10VOWEL SIGN E,30EI,30O,30AY,30AI"),
    (0xec6, "10KO LA"),
    (0xec8, "10TONE MAI EK,30THO,30TI,30CATAWA,10CANCELLATION MARK,10NIGGAHITA"),
    (0xed0, "10DIGIT ZERO,20ONE,20TWO,20THREE,20FOUR,20FIVE,20SIX,20SEVEN,20EIGHT"),
    (0xed9, "20NINE"),
    (0xedc, "10HO NO,20MO,10LETTER KHMU GO,30NYO"),
    (0xf00, "00TIBETAN SYLLABLE OM,10MARK GTER YIG MGO TRUNCATED A,50-UM RNAM BCAD MA"),
    (0xf03, "61GTER TSHEG,21INITIAL YIG MGO MDUN,21CLOSING YIG MGO SGAB"),
    (0xf06, "21CARET YIG MGO PHUR SHAD,22YIG MGO TSHEG,20SBRUL SHAD,20BSKUR YIG MGO"),
    (0xf0a, "22BKA- SHOG,20INTERSYLLABIC TSHEG,20DELIMITER TSHEG BSTAR,20SHAD,21NYIS"),
    (0xf0f, "21TSHEG,22NYIS,21RIN CHEN SPUNGS,21RGYA GRAM"),
    (0xf13, "20CARET -DZUD RTAGS ME LONG CAN,20GTER TSHEG,10LOGOTYPE SIGN CHAD RTAGS"),
    (0xf16, "31LHAG,11ASTROLOGICAL SIGN SGRA GCAN -CHAR,30-KHYUD PA,30SDONG TSHUGS"),
    (0xf1a, "10SIGN RDEL DKAR GCIG,40GNYIS,40GSUM,30NAG GCIG,40GNYIS,30DKAR RDEL NAG"),
    (0xf20, "10DIGIT ZERO,20ONE,20TWO,20THREE,20FOUR,20FIVE,20SIX,20SEVEN,20EIGHT"),
    (0xf29, "20NINE,20HALF ONE,30TWO,30THREE,30FOUR,30FIVE,30SIX,30SEVEN,30EIGHT"),
    (0xf32, "30NINE,30ZERO,10MARK BSDUS RTAGS,20NGAS BZUNG NYI ZLA"),
    (0xf36, "20CARET -DZUD RTAGS BZHI MIG CAN,20NGAS BZUNG SGOR RTAGS,20CHE MGO"),
    (0xf39, "20TSA -PHRU,20GUG RTAGS GYON,40GYAS,20ANG KHANG GYON,40GYAS"),
    (0xf3e, "10SIGN YAR TSHES,21MAR,10LETTER KA,20KHA,20GA,20GHA,20NGA,20CA,20CHA"),
    (0xf47, "20JA"),
    (0xf49, "20NYA,20TTA,20TTHA,20DDA,20DDHA,20NNA,20TA,20THA,20DA,20DHA,20NA,20PA"),
    (0xf55, "20PHA,20BA,20BHA,20MA,20TSA,20TSHA,20DZA,20DZHA,20WA,20ZHA,20ZA,20-A"),
    (0xf61, "20YA,20RA,20LA,20SHA,20SSA,20SA,20HA,20A,20KSSA,20FIXED-FORM RA,20KKA"),
    (0xf6c, "20RRA"),
    (0xf71, "10VOWEL SIGN AA,30I,30II,30U,30UU,30VOCALIC R,40RR,40L,40LL,30E,30EE,30O"),
    (0xf7d, "30OO,10SIGN RJES SU NGA RO,20RNAM BCAD,10VOWEL SIGN REVERSED I,40II"),
    (0xf82, "10SIGN NYI ZLA NAA DA,20SNA LDAN,10MARK HALANTA,20PALUTA"),
    (0xf86, "10SIGN LCI RTAGS,21YANG,20LCE TSA CAN,21MCHU,20GRU CAN RGYINGS,31MED"),
    (0xf8c, "20INVERTED MCHU CAN,11SUBJOINED SIGN LCE TSA,31MCHU,32INVERTED"),
    (0xf90, "20LETTER KA,30KHA,30GA,30GHA,30NGA,30CA,30CHA,30JA"),
    (0xf99, "30NYA,30TTA,30TTHA,30DDA,30DDHA,30NNA,30TA,30THA,30DA,30DHA,30NA,30PA"),
    (0xfa5, "30PHA,30BA,30BHA,30MA,30TSA,30TSHA,30DZA,30DZHA,30WA,30ZHA,30ZA,30-A"),
    (0xfb1, "30YA,30RA,30LA,30SHA,30SSA,30SA,30HA,30A,30KSSA,30FIXED-FORM WA,40YA"),
    (0xfbc, "40RA"),
    (0xfbe, "10KU RU KHA,40BZHI MIG CAN,10CANTILLATION SIGN HEAVY BEAT,31LIGHT"),
    (0xfc2, "30CANG TE-U,30SBUB -CHAL,10SYMBOL DRIL BU,20RDO RJE,20PADMA GDAN"),
    (0xfc7, "20RDO RJE RGYA GRAM,20PHUR PA,20NOR BU,40NYIS -KHYIL,41GSUM,41BZHI"),
    (0xfce, "10SIGN RDEL NAG RDEL DKAR,40GSUM,10MARK BSKA- SHOG GI MGO RGYAN"),
    (0xfd1, "23MNYAM YIG,20NYIS TSHEG,20INITIAL BRDA RNYING YIG MGO MDUN MA"),
    (0xfd4, "21CLOSING BRDA RNYING YIG MGO SGAB,00RIGHT-FACING SVASTI SIGN"),
    (0xfd6, "02LEFT-FACING,00RIGHT-FACING SVASTI SIGN WITH DOTS,04LEFT-FACING"),
    (0xfd9, "00TIBETAN MARK LEADING MCHAN RTAGS,22TRAILING"),
    (0x1000, "00MYANMAR LETTER KA,20KHA,20GA,20GHA,20NGA,20CA,20CHA,20JA,20JHA,20NYA"),
    (0x100a, "20NNYA,20TTA,20TTHA,20DDA,20DDHA,20NNA,20TA,20THA,20DA,20DHA,20NA,20PA"),
    (0x1016, "20PHA,20BA,20BHA,20MA,20YA,20RA,20LA,20WA,20SA,20HA,20LLA,20A,21SHAN"),
    (0x1023, "20I,20II,20U,20UU,20E,21MON,20O,20AU,10VOWEL SIGN TALL AA,31,30I,30II"),
    (0x102f, "30U,30UU,30E,30AI,30MON II,40O,30E ABOVE,10SIGN ANUSVARA,20DOT BELOW"),
    (0x1038, "20VISARGA,20VIRAMA,20ASAT,10CONSONANT SIGN MEDIAL YA,40RA,40WA,40HA"),
    (0x103f, "10LETTER GREAT SA,10DIGIT ZERO,20ONE,20TWO,20THREE,20FOUR,20FIVE,20SIX"),
    (0x1047, "20SEVEN,20EIGHT,20NINE,10SIGN LITTLE SECTION,21,10SYMBOL LOCATIVE"),
    (0x104d, "20COMPLETED,20AFOREMENTIONED,20GENITIVE,10LETTER SHA,20SSA,20VOCALIC R"),
    (0x1053, "30RR,30L,30LL,10VOWEL SIGN VOCALIC R,40RR,40L,40LL,10LETTER MON NGA"),
    (0x105b, "30JHA,30BBA,30BBE,10CONSONANT SIGN MON MEDIAL NA,50MA,50LA"),
    (0x1061, "10LETTER SGAW KAREN SHA,10VOWEL SIGN SGAW KAREN EU"),
    (0x1063, "10TONE MARK SGAW KAREN HATHI,50KE PHO,10LETTER WESTERN PWO KAREN THA"),
    (0x1066, "50PWA,10VOWEL SIGN WESTERN PWO KAREN EU,60UE"),
    (0x1069, "10SIGN WESTERN PWO KAREN TONE-1,50TONE-2,50TONE-3,50TONE-4,50TONE-5"),
    (0x106e, "10LETTER EASTERN PWO KAREN NNA,50YWA,50GHWA,10VOWEL SIGN GEBA KAREN I"),
    (0x1072, "30KAYAH OE,40U,40EE,10LETTER SHAN KA,30KHA,30GA,30CA,30ZA,30NYA,30DA"),
    (0x107c, "30NA,30PHA,30FA,30BA,30THA,30HA,10CONSONANT SIGN SHAN MEDIAL WA"),
    (0x1083, "10VOWEL SIGN SHAN AA,40E,50ABOVE,40FINAL Y,10SIGN SHAN TONE-2,30TONE-3"),
    (0x1089, "30TONE-5,30TONE-6,30COUNCIL TONE-2,40TONE-3,40EMPHATIC TONE"),
    (0x108e, "10LETTER RUMAI PALAUNG FA,10SIGN RUMAI PALAUNG TONE-5,10SHAN DIGIT ZERO"),
    (0x1091, "30ONE,30TWO,30THREE,30FOUR,30FIVE,30SIX,30SEVEN,30EIGHT,30NINE"),
    (0x109a, "10SIGN KHAMTI TONE-1,30TONE-3,10VOWEL SIGN AITON A,40AI"),
    (0x109e, "10SYMBOL SHAN ONE,30EXCLAMATION")]

end Text
end KindExpr
