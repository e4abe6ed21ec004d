/-!
# Names of signs of notations

The names of the signs that write down music, movements and counts, and of
the pictures of old computers.

Each entry is the first code point of a run and the names of the run, packed as
`unpackName` reads them.
-/

namespace KindExpr
namespace Text

/-- The packed names of musical signs. -/
def musicNames : List (Nat × String) :=
  [
    (0x1cf00, "00ZNAMENNY COMBINING MARK GORAZDO NIZKO S KRYZHEM ON LEFT,35,32TSATA"),
    (0x1cf03, "32GORAZDO NIZKO,33,32SREDNE,32MALO POVYSHE,33,32VYSOKO"),
    (0x1cf09, "32MALO POVYSHE S KHOKHLOM,35,34VYSOKO"),
    (0x1cf0c, "30GORAZDO NIZKO S KRYZHEM ON RIGHT,35,32TSATA,32GORAZDO NIZKO,33"),
    (0x1cf11, "32SREDNE,32MALO POVYSHE,33,32VYSOKO,32MALO POVYSHE S KHOKHLOM,35"),
    (0x1cf17, "34VYSOKO,30TSATA S KRYZHEM,32MALO POVYSHE,30STRANNO MALO POVYSHE"),
    (0x1cf1b, "30POVYSHE S KRYZHEM,40STRANNO,30VYSOKO S KRYZHEM"),
    (0x1cf1e, "30MALO POVYSHE STRANNO,30GORAZDO VYSOKO,30ZELO,30ON,30RAVNO,30TIKHAYA"),
    (0x1cf24, "30BORZAYA,30UDARKA,30PODVERTKA,30LOMKA,30KUPNAYA,30KACHKA,30ZEVOK"),
    (0x1cf2b, "30SKOBA,30RAZSEKA,30KRYZH ON LEFT"),
    (0x1cf30, "20TONAL RANGE MARK MRACHNO,50SVETLO,50TRESVETLO,20MARK ZADERZHKA"),
    (0x1cf34, "31DEMESTVENNY,30OTSECHKA,30PODCHASHIE,40WITH VERTICAL STROKE,30CHASHKA"),
    (0x1cf39, "40POLNAYA,30OBLACHKO,30SOROCHYA NOZHKA,30TOCHKA,30DVOETOCHIE"),
    (0x1cf3e, "20ATTACHING VERTICAL OMET,21MARK CURVED,30KRYZH"),
    (0x1cf41, "20LOWER TONAL RANGE INDICATOR,10PRIZNAK MODIFIER LEVEL-2,30LEVEL-3"),
    (0x1cf44, "30DIRECTION FLIP,30KRYZH,30ROG"),
    (0x1cf50, "10NEUME KRYUK,30TIKHY,20PARAKLIT,20DVA V CHELNU,20KLYUCH,20ZANOZHEK"),
    (0x1cf56, "20STOPITSA,30S OCHKOM,20PEREVODKA,30NEPOSTOYANNAYA"),
    (0x1cf5a, "20STOPITSA WITH SOROCHYA NOZHKA,20CHELYUSTKA,20PALKA,20ZAPYATAYA"),
    (0x1cf5e, "20GOLUBCHIK BORZY,30TIKHY,30MRACHNY,30SVETLY,30TRESVETLY"),
    (0x1cf63, "20VRAKHIYA PROSTAYA,30MRACHNAYA,30SVETLAYA,30TRESVETLAYA"),
    (0x1cf67, "30KLYUCHEVAYA PROSTAYA,40MRACHNAYA,40SVETLAYA,40TRESVETLAYA"),
    (0x1cf6b, "20DOUBLE ZAPYATAYA,20REVERSED CHELYUSTKA,20DERBITSA,20KHAMILO"),
    (0x1cf6f, "20CHASHKA,20PODCHASHIE,20SKAMEYTSA MRACHNAYA,30SVETLAYA,30TRESVETLAYA"),
    (0x1cf74, "30TIKHAYA,20DEMESTVENNY KLYUCH,20SKAMEYTSA KLYUCHEVAYA SVETLAYA"),
    (0x1cf77, "30KLYUCHENEPOSTOYANNAYA,30KLYUCHEVAYA TIKHAYA,30DVOECHELNAYA PROSTAYA"),
    (0x1cf7a, "40SVETLAYA,40NEPOSTOYANNAYA,40KLYUCHEVAYA,20SLOZHITIE,30S ZAPYATOY"),
    (0x1cf7f, "30ZAKRYTOE,30S KRYZHEM,20KRYZH,20ROG,20FITA,20KOBYLA,20ZMEYTSA"),
    (0x1cf86, "20STATYA,30S ZAPYATOY,40KRYZHEM,41ZAPYATOY I,40KRYZHEM I ZAPYATOY"),
    (0x1cf8b, "30ZAKRYTAYA,40S ZAPYATOY,30S ROGOM,40DVUMYA ZAPYATYMI"),
    (0x1cf8f, "40ZAPYATOY I PODCHASHIEM,20POLKULIZMY,20STATYA NEPOSTOYANNAYA"),
    (0x1cf92, "20STRELA PROSTAYA,30MRACHNOTIKHAYA,30KRYZHEVAYA,30POLUPOVODNAYA"),
    (0x1cf96, "30POVODNAYA,30NEPOSTOYANNAYA,30KLYUCHEPOVODNAYA"),
    (0x1cf99, "30KLYUCHENEPOSTOYANNAYA,30TIKHAYA PUTNAYA,30DVOECHELNAYA"),
    (0x1cf9c, "30DVOECHELNOKRYZHEVAYA,30DVOECHELNOPOVODNAYA"),
    (0x1cf9e, "30DVOECHELNAYA KLYUCHEVAYA,31DVOECHELNOPOVODNAYA"),
    (0x1cfa0, "30GROMNAYA WITH SINGLE ZAPYATAYA,33GROMOPOVODNAYA,30GROMNAYA"),
    (0x1cfa3, "30GROMOPOVODNAYA,40WITH DOUBLE ZAPYATAYA,30GROMOKRYZHEVAYA,40POVODNAYA"),
    (0x1cfa7, "20MECHIK,30POVODNY,30KLYUCHEVOY,30KLYUCHEPOVODNY,30KLYUCHENEPOSTOYANNY"),
    (0x1cfac, "20STRELA TRYASOGLASNAYA,30TRYASOPOVODNAYA,30TRYASOSTRELNAYA,20OSOKA"),
    (0x1cfb0, "30SVETLAYA,30TRESVETLAYA,30KRYUKOVAYA SVETLAYA,31KLYUCHEVAYA"),
    (0x1cfb4, "40NEPOSTOYANNAYA,20STRELA KRYUKOVAYA,40POVODNAYA"),
    (0x1cfb7, "40GROMNAYA WITH SINGLE ZAPYATAYA,43GROMOPOVODNAYA,40GROMNAYA"),
    (0x1cfba, "40GROMOPOVODNAYA,50WITH DOUBLE ZAPYATAYA,40GROMOKRYZHEVAYA,50POVODNAYA"),
    (0x1cfbe, "40TRYASKA,20KUFISMA,20OBLAKO,20DUDA,20NEMKA,20PAUK"),
    (0x1d000, "00BYZANTINE MUSICAL SYMBOL PSILI,30DASEIA,30PERISPOMENI"),
    (0x1d003, "30OXEIA EKFONITIKON,40DIPLI,30VAREIA EKFONITIKON,40DIPLI,30KATHISTI"),
    (0x1d008, "30SYRMATIKI,30PARAKLITIKI,30YPOKRISIS,40DIPLI,30KREMASTI"),
    (0x1d00d, "30APESO EKFONITIKON,31EXO,30TELEIA,30KENTIMATA,30APOSTROFOS,40DIPLI"),
    (0x1d013, "30SYNEVMA,30THITA,30OLIGON ARCHAION,31GORGON,30PSILON,30CHAMILON"),
    (0x1d019, "30VATHY,30ISON ARCHAION,31KENTIMA,31KENTIMATA,30SAXIMATA,30PARICHON"),
    (0x1d01f, "30STAVROS APODEXIA,30OXEIAI ARCHAION,31VAREIAI,31APODERMA,30APOTHEMA"),
    (0x1d024, "30KLASMA,30REVMA,30PIASMA ARCHAION,30TINAGMA,30ANATRICHISMA,30SEISMA"),
    (0x1d02a, "30SYNAGMA ARCHAION,40META STAVROU,30OYRANISMA ARCHAION,30THEMA,30LEMOI"),
    (0x1d02f, "30DYO,30TRIA,30TESSERA,30KRATIMATA,30APESO EXO NEO,30FTHORA ARCHAION"),
    (0x1d035, "30IMIFTHORA,30TROMIKON ARCHAION,30KATAVA TROMIKON,30PELASTON"),
    (0x1d039, "30PSIFISTON,30KONTEVMA,30CHOREVMA ARCHAION,30RAPISMA"),
    (0x1d03d, "30PARAKALESMA ARCHAION,31PARAKLITIKI,30ICHADIN,30NANA,30PETASMA"),
    (0x1d042, "30KONTEVMA ALLO,31TROMIKON,30STRAGGISMATA,30GRONTHISMATA,30ISON NEO"),
    (0x1d047, "31OLIGON,31OXEIA,30PETASTI,30KOUFISMA,30PETASTOKOUFISMA"),
    (0x1d04c, "30KRATIMOKOUFISMA,30PELASTON NEO,30KENTIMATA NEO ANO,32KENTIMA"),
    (0x1d050, "30YPSILI,30APOSTROFOS NEO,31APOSTROFOI SYNDESMOS,30YPORROI"),
    (0x1d054, "30KRATIMOYPORROON,30ELAFRON,30CHAMILI,30MIKRON ISON,30VAREIA NEO"),
    (0x1d059, "31PIASMA,31PSIFISTON,30OMALON,30ANTIKENOMA,30LYGISMA,30PARAKLITIKI NEO"),
    (0x1d05f, "31PARAKALESMA,30ETERON PARAKALESMA,30KYLISMA,30ANTIKENOKYLISMA"),
    (0x1d063, "30TROMIKON NEO,30EKSTREPTON,30SYNAGMA NEO,30SYRMA,30CHOREVMA NEO"),
    (0x1d068, "30EPEGERMA,30SEISMA NEO,30XIRON KLASMA,30TROMIKOPSIFISTON"),
    (0x1d06c, "30PSIFISTOLYGISMA,30TROMIKOLYGISMA,30TROMIKOPARAKALESMA"),
    (0x1d06f, "30PSIFISTOPARAKALESMA,30TROMIKOSYNAGMA,30PSIFISTOSYNAGMA"),
    (0x1d072, "30GORGOSYNTHETON,30ARGOSYNTHETON,31ETERON,30OYRANISMA NEO"),
    (0x1d076, "30THEMATISMOS ESO,40EXO,30THEMA APLOUN,30THES KAI APOTHES,30KATAVASMA"),
    (0x1d07b, "30ENDOFONON,30YFEN KATO,40ANO,30STAVROS,30KLASMA ANO,30DIPLI ARCHAION"),
    (0x1d081, "31KRATIMA,40ALLO,40NEO,31APODERMA,30APLI,30DIPLI,30TRIPLI,30TETRAPLI"),
    (0x1d089, "30KORONIS,30LEIMMA ENOS CHRONOU,40DYO CHRONON,41TRION,41TESSARON"),
    (0x1d08e, "40IMISEOS CHRONOU,30GORGON NEO ANO,40PARESTIGMENON ARISTERA,50DEXIA"),
    (0x1d092, "30DIGORGON,40PARESTIGMENON ARISTERA KATO,60ANO,50DEXIA,30TRIGORGON"),
    (0x1d097, "30ARGON,30IMIDIARGON,30DIARGON,30AGOGI POLI ARGI,40ARGOTERI,40ARGI"),
    (0x1d09d, "40METRIA,40MESI,40GORGI,40GORGOTERI,40POLI GORGI"),
    (0x1d0a2, "30MARTYRIA PROTOS ICHOS,42ALLI,41DEYTEROS,42ALLI,41TRITOS,40TRIFONIAS"),
    (0x1d0a8, "40TETARTOS ICHOS,51LEGETOS,42,41PLAGIOS,30ISAKIA TELOUS ICHIMATOS"),
    (0x1d0ad, "32APOSTROFOI,30FANEROSIS TETRAFONIAS,40MONOFONIAS,40DIFONIAS"),
    (0x1d0b1, "30MARTYRIA VARYS ICHOS,41PROTOVARYS,41PLAGIOS TETARTOS"),
    (0x1d0b4, "30GORTHMIKON N APLOUN,50DIPLOUN,30ENARXIS KAI FTHORA VOU,30IMIFONON"),
    (0x1d0b8, "30IMIFTHORON,30FTHORA ARCHAION DEYTEROU ICHOU,40DIATONIKI PA,50NANA"),
    (0x1d0bc, "40NAOS ICHOS,40DIATONIKI DI,41SKLIRON DIATONON,40DIATONIKI KE,50ZO"),
    (0x1d0c1, "50NI KATO,60ANO,40MALAKON CHROMA DIFONIAS,60MONOFONIAS"),
    (0x1d0c5, "30FHTORA SKLIRON CHROMA VASIS,30FTHORA SKLIRON CHROMA SYNAFI,40NENANO"),
    (0x1d0c8, "30CHROA ZYGOS,40KLITON,40SPATHI,30FTHORA I YFESIS TETARTIMORION"),
    (0x1d0cc, "40ENARMONIOS ANTIFONIA,30YFESIS TRITIMORION,31DIESIS,40TETARTIMORION"),
    (0x1d0d0, "40APLI DYO DODEKATA,41MONOGRAMMOS TESSERA,41DIGRAMMOS EX"),
    (0x1d0d3, "41TRIGRAMMOS OKTO,31YFESIS APLI DYO,41MONOGRAMMOS TESSERA"),
    (0x1d0d6, "41DIGRAMMOS EX,41TRIGRAMMOS OKTO,30GENIKI DIESIS,40YFESIS"),
    (0x1d0da, "30DIASTOLI APLI MIKRI,50MEGALI,40DIPLI,40THESEOS,31SIMANSIS,50DISIMOU"),
    (0x1d0e0, "50TRISIMOU,50TETRASIMOU,40ARSEOS,50DISIMOU,50TRISIMOU,50TETRASIMOU"),
    (0x1d0e6, "30DIGRAMMA GG,30DIFTOGGOS OU,30STIGMA,30ARKTIKO PA,40VOU,40GA,40DI"),
    (0x1d0ed, "40KE,40ZO,40NI,30KENTIMATA NEO MESO,32KENTIMA,30KENTIMATA NEO KATO"),
    (0x1d0f3, "32KENTIMA,31KLASMA,31GORGON NEO"),
    (0x1d100, "00MUSICAL SYMBOL SINGLE BARLINE,21DOUBLE,21FINAL,22REVERSE,21DASHED"),
    (0x1d105, "21SHORT,20LEFT REPEAT SIGN,22RIGHT,20REPEAT DOTS,20DAL SEGNO,20DA CAPO"),
    (0x1d10b, "20SEGNO,20CODA,20REPEATED FIGURE-1,30FIGURE-2,30FIGURE-3,20FERMATA"),
    (0x1d111, "30BELOW,20BREATH MARK,20CAESURA,20BRACE,20BRACKET,20ONE-LINE STAFF"),
    (0x1d117, "21TWO-LINE,21THREE-LINE,21FOUR-LINE,21FIVE-LINE,21SIX-LINE"),
    (0x1d11c, "20SIX-STRING FRETBOARD,21FOUR-STRING,20G CLEF,40OTTAVA ALTA,50BASSA"),
    (0x1d121, "20C CLEF,21F,40OTTAVA ALTA,50BASSA,20DRUM CLEF-1,30CLEF-2"),
    (0x1d129, "20MULTIPLE MEASURE REST,20DOUBLE SHARP,30FLAT,20FLAT UP,30DOWN"),
    (0x1d12e, "20NATURAL UP,30DOWN,20SHARP UP,30DOWN,20QUARTER TONE SHARP,40FLAT"),
    (0x1d134, "20COMMON TIME,21CUT,20OTTAVA ALTA,30BASSA,20QUINDICESIMA ALTA,30BASSA"),
    (0x1d13a, "20MULTI REST,21WHOLE,21HALF,21QUARTER,21EIGHTH,21SIXTEENTH"),
    (0x1d140, "21THIRTY-SECOND,21SIXTY-FOURTH,21ONE HUNDRED TWENTY-EIGHTH"),
    (0x1d143, "20X NOTEHEAD,21PLUS,21CIRCLE X,20SQUARE NOTEHEAD WHITE,40BLACK"),
    (0x1d148, "20TRIANGLE NOTEHEAD UP WHITE,50BLACK,40LEFT WHITE,50BLACK"),
    (0x1d14c, "40RIGHT WHITE,50BLACK,40DOWN WHITE,50BLACK,40UP RIGHT WHITE,60BLACK"),
    (0x1d152, "20MOON NOTEHEAD WHITE,40BLACK,20TRIANGLE-ROUND NOTEHEAD DOWN WHITE"),
    (0x1d155, "50BLACK,20PARENTHESIS NOTEHEAD,21VOID,20NOTEHEAD BLACK,20NULL NOTEHEAD"),
    (0x1d15a, "20CLUSTER NOTEHEAD WHITE,40BLACK,20BREVE,20WHOLE NOTE,21HALF,21QUARTER"),
    (0x1d160, "21EIGHTH,21SIXTEENTH,21THIRTY-SECOND,21SIXTY-FOURTH"),
    (0x1d164, "21ONE HUNDRED TWENTY-EIGHTH,20COMBINING STEM,31SPRECHGESANG"),
    (0x1d167, "30TREMOLO-1,30TREMOLO-2,30TREMOLO-3,20FINGERED TREMOLO-1,30TREMOLO-2"),
    (0x1d16c, "30TREMOLO-3,20COMBINING AUGMENTATION DOT,30FLAG-1,30FLAG-2,30FLAG-3"),
    (0x1d171, "30FLAG-4,30FLAG-5,20BEGIN BEAM,21END,20BEGIN TIE,21END,20BEGIN SLUR"),
    (0x1d178, "21END,20BEGIN PHRASE,21END,20COMBINING ACCENT,30STACCATO,30TENUTO"),
    (0x1d17e, "30STACCATISSIMO,30MARCATO,30MARCATO-STACCATO,30ACCENT-STACCATO,30LOURE"),
    (0x1d183, "20ARPEGGIATO UP,30DOWN,20COMBINING DOIT,30RIP,30FLIP,30SMEAR,30BEND"),
    (0x1d18a, "30DOUBLE TONGUE,31TRIPLE,20RINFORZANDO,20SUBITO,20Z,20PIANO,20MEZZO"),
    (0x1d191, "20FORTE,20CRESCENDO,20DECRESCENDO,20GRACE NOTE SLASH,41NO,20TR,20TURN"),
    (0x1d198, "21INVERTED,20TURN SLASH,30UP,20ORNAMENT STROKE-1,30STROKE-2,30STROKE-3"),
    (0x1d19e, "30STROKE-4,30STROKE-5,30STROKE-6,30STROKE-7,30STROKE-8,30STROKE-9"),
    (0x1d1a4, "30STROKE-10,30STROKE-11,20HAUPTSTIMME,20NEBENSTIMME,20END OF STIMME"),
    (0x1d1a9, "20DEGREE SLASH,20COMBINING DOWN BOW,31UP,30HARMONIC,30SNAP PIZZICATO"),
    (0x1d1ae, "20PEDAL MARK,31UP,21HALF PEDAL,20GLISSANDO UP,30DOWN"),
    (0x1d1b3, "20WITH FINGERNAILS,20DAMP,30ALL,20MAXIMA,20LONGA,20BREVIS"),
    (0x1d1b9, "20SEMIBREVIS WHITE,30BLACK,20MINIMA,30BLACK,20SEMIMINIMA WHITE,30BLACK"),
    (0x1d1bf, "20FUSA WHITE,30BLACK,20LONGA PERFECTA REST,31IMPERFECTA,21BREVIS"),
    (0x1d1c4, "21SEMIBREVIS,21MINIMA,21SEMIMINIMA"),
    (0x1d1c7, "20TEMPUS PERFECTUM CUM PROLATIONE PERFECTA,60IMPERFECTA"),
    (0x1d1c9, "60PERFECTA DIMINUTION-1,30IMPERFECTUM CUM PROLATIONE PERFECTA"),
    (0x1d1cb, "60IMPERFECTA,70DIMINUTION-1,70DIMINUTION-2,70DIMINUTION-3,20CROIX"),
    (0x1d1d0, "20GREGORIAN C CLEF,31F,20SQUARE B,20VIRGA,20PODATUS,20CLIVIS"),
    (0x1d1d6, "20SCANDICUS,20CLIMACUS,20TORCULUS,20PORRECTUS,30FLEXUS,21SCANDICUS"),
    (0x1d1dc, "20TORCULUS RESUPINUS,20PES SUBPUNCTIS,20KIEVAN C CLEF,30END OF PIECE"),
    (0x1d1e0, "30FINAL NOTE,30RECITATIVE MARK,30WHOLE NOTE,31HALF"),
    (0x1d1e4, "30QUARTER NOTE STEM DOWN,60UP,30EIGHTH NOTE STEM DOWN,60UP,30FLAT SIGN"),
    (0x1d1e9, "20SORI,20KORON"),
    (0x1d200, "00GREEK VOCAL NOTATION SYMBOL-1,30SYMBOL-2,30SYMBOL-3,30SYMBOL-4"),
    (0x1d204, "30SYMBOL-5,30SYMBOL-6,30SYMBOL-7,30SYMBOL-8,30SYMBOL-9,30SYMBOL-10"),
    (0x1d20a, "30SYMBOL-11,30SYMBOL-12,30SYMBOL-13,30SYMBOL-14,30SYMBOL-15"),
    (0x1d20f, "30SYMBOL-16,30SYMBOL-17,30SYMBOL-18,30SYMBOL-19,30SYMBOL-20"),
    (0x1d214, "30SYMBOL-21,30SYMBOL-22,30SYMBOL-23,30SYMBOL-24,30SYMBOL-50"),
    (0x1d219, "30SYMBOL-51,30SYMBOL-52,30SYMBOL-53,30SYMBOL-54"),
    (0x1d21d, "10INSTRUMENTAL NOTATION SYMBOL-1,30SYMBOL-2,30SYMBOL-4,30SYMBOL-5"),
    (0x1d221, "30SYMBOL-7,30SYMBOL-8,30SYMBOL-11,30SYMBOL-12,30SYMBOL-13,30SYMBOL-14"),
    (0x1d227, "30SYMBOL-17,30SYMBOL-18,30SYMBOL-19,30SYMBOL-23,30SYMBOL-24"),
    (0x1d22c, "30SYMBOL-25,30SYMBOL-26,30SYMBOL-27,30SYMBOL-29,30SYMBOL-30"),
    (0x1d231, "30SYMBOL-32,30SYMBOL-36,30SYMBOL-37,30SYMBOL-38,30SYMBOL-39"),
    (0x1d236, "30SYMBOL-40,30SYMBOL-42,30SYMBOL-43,30SYMBOL-45,30SYMBOL-47"),
    (0x1d23b, "30SYMBOL-48,30SYMBOL-49,30SYMBOL-50,30SYMBOL-51,30SYMBOL-52"),
    (0x1d240, "30SYMBOL-53,30SYMBOL-54,00COMBINING GREEK MUSICAL TRISEME,30TETRASEME"),
    (0x1d244, "30PENTASEME,00GREEK MUSICAL LEIMMA"),
    (0x1d2e0, "00MAYAN NUMERAL ZERO,20ONE,20TWO,20THREE,20FOUR,20FIVE,20SIX,20SEVEN"),
    (0x1d2e8, "20EIGHT,20NINE,20TEN,20ELEVEN,20TWELVE,20THIRTEEN,20FOURTEEN,20FIFTEEN"),
    (0x1d2f0, "20SIXTEEN,20SEVENTEEN,20EIGHTEEN,20NINETEEN"),
    (0x1d300, "00MONOGRAM FOR EARTH,01DIGRAM FOR HEAVENLY,21HUMAN,20EARTHLY HEAVEN"),
    (0x1d304, "30HUMAN,20EARTH,00TETRAGRAM FOR CENTRE,20FULL CIRCLE,20MIRED,20BARRIER"),
    (0x1d30a, "20KEEPING SMALL,20CONTRARIETY,20ASCENT,20OPPOSITION,20BRANCHING OUT"),
    (0x1d30f, "20DEFECTIVENESS OR DISTORTION,20DIVERGENCE,20YOUTHFULNESS,20INCREASE"),
    (0x1d313, "20PENETRATION,20REACH,20CONTACT,20HOLDING BACK,20WAITING,20FOLLOWING"),
    (0x1d319, "20ADVANCE,20RELEASE,20RESISTANCE,20EASE,20JOY,20CONTENTION,20ENDEAVOUR"),
    (0x1d320, "20DUTIES,20CHANGE,20DECISIVENESS,20BOLD RESOLUTION,20PACKING,20LEGION"),
    (0x1d326, "20CLOSENESS,20KINSHIP,20GATHERING,20STRENGTH,20PURITY,20FULLNESS"),
    (0x1d32c, "20RESIDENCE,20LAW OR MODEL,20RESPONSE,20GOING TO MEET,20ENCOUNTERS"),
    (0x1d331, "20STOVE,20GREATNESS,20ENLARGEMENT,20PATTERN,20RITUAL,20FLIGHT"),
    (0x1d337, "20VASTNESS OR WASTING,20CONSTANCY,20MEASURE,20ETERNITY,20UNITY"),
    (0x1d33c, "20DIMINISHMENT,20CLOSED MOUTH,20GUARDEDNESS,20GATHERING IN,20MASSING"),
    (0x1d341, "20ACCUMULATION,20EMBELLISHMENT,20DOUBT,20WATCH,20SINKING,20INNER"),
    (0x1d347, "20DEPARTURE,20DARKENING,20DIMMING,20EXHAUSTION,20SEVERANCE,20STOPPAGE"),
    (0x1d34d, "20HARDNESS,20COMPLETION,20CLOSURE,20FAILURE,20AGGRAVATION,20COMPLIANCE"),
    (0x1d353, "20ON THE VERGE,20DIFFICULTIES,20LABOURING,20FOSTERING"),
    (0x1d360, "00COUNTING ROD UNIT DIGIT ONE,40TWO,40THREE,40FOUR,40FIVE,40SIX"),
    (0x1d366, "40SEVEN,40EIGHT,40NINE,20TENS DIGIT ONE,40TWO,40THREE,40FOUR,40FIVE"),
    (0x1d36e, "40SIX,40SEVEN,40EIGHT,40NINE,00IDEOGRAPHIC TALLY MARK ONE,30TWO"),
    (0x1d374, "30THREE,30FOUR,30FIVE,00TALLY MARK ONE,20FIVE")]

/-- The packed names of the signs of sign languages. -/
def movementNames : List (Nat × String) :=
  [
    (0x1d800, "00SIGNWRITING HAND-FIST INDEX,11HAND-CIRCLE,11HAND-CUP,11HAND-OVAL"),
    (0x1d804, "11HAND-HINGE,11HAND-ANGLE,10HAND-FIST INDEX BENT,12HAND-CIRCLE"),
    (0x1d808, "12HAND-FIST THUMB UNDER,20INDEX RAISED KNUCKLE,30CUPPED,30HINGED,40LOW"),
    (0x1d80d, "10HAND-CIRCLE INDEX HINGE,10HAND-FIST INDEX MIDDLE,12HAND-CIRCLE"),
    (0x1d810, "10HAND-FIST INDEX MIDDLE BENT,40RAISED KNUCKLES,40HINGED,32UP"),
    (0x1d814, "30HINGED MIDDLE UP,30MIDDLE CONJOINED,50INDEX BENT,51MIDDLE,50CUPPED"),
    (0x1d819, "50HINGED,40CROSSED,13HAND-CIRCLE,10HAND-FIST MIDDLE BENT OVER INDEX"),
    (0x1d81d, "20INDEX BENT OVER MIDDLE,30MIDDLE THUMB,13HAND-CIRCLE"),
    (0x1d820, "10HAND-FIST INDEX MIDDLE STRAIGHT THUMB BENT,40BENT THUMB STRAIGHT"),
    (0x1d822, "40THUMB BENT,40HINGED SPREAD THUMB SIDE,32UP MIDDLE HINGED,70CONJOINED"),
    (0x1d826, "30HINGED MIDDLE UP THUMB SIDE,30MIDDLE UP SPREAD THUMB FORWARD"),
    (0x1d828, "40THUMB CUPPED,50CIRCLED,50HOOKED,50HINGED"),
    (0x1d82c, "20THUMB BETWEEN INDEX MIDDLE STRAIGHT"),
    (0x1d82d, "20INDEX MIDDLE CONJOINED THUMB SIDE,70CONJOINED,70BENT"),
    (0x1d830, "20MIDDLE THUMB HOOKED INDEX UP,21INDEX THUMB HOOKED MIDDLE"),
    (0x1d832, "30MIDDLE CONJOINED HINGED THUMB SIDE,42CROSSED"),
    (0x1d834, "40CONJOINED THUMB FORWARD,52CUPPED,20MIDDLE THUMB CUPPED INDEX UP"),
    (0x1d837, "21INDEX THUMB CUPPED MIDDLE,21MIDDLE THUMB CIRCLED INDEX,60HINGED"),
    (0x1d83a, "20INDEX THUMB ANGLED OUT MIDDLE UP,52IN,42CIRCLED"),
    (0x1d83d, "30MIDDLE THUMB CONJOINED HINGED,50ANGLED OUT,60"),
    (0x1d840, "20MIDDLE THUMB ANGLED OUT INDEX UP,70CROSSED,50INDEX UP"),
    (0x1d843, "20INDEX THUMB HOOKED MIDDLE HINGED,10HAND-FLAT FOUR FINGERS,40BENT"),
    (0x1d846, "40HINGED,40CONJOINED,50SPLIT,10HAND-CLAW FOUR FINGERS CONJOINED"),
    (0x1d84a, "10HAND-FIST FOUR FINGERS CONJOINED BENT"),
    (0x1d84b, "10HAND-HINGE FOUR FINGERS CONJOINED,10HAND-FLAT FIVE FINGERS SPREAD"),
    (0x1d84d, "23HEEL,20FIVE FINGERS SPREAD FOUR BENT,25HEEL,21FIVE FINGERS SPREAD"),
    (0x1d851, "24HEEL,20FIVE FINGERS SPREAD THUMB FORWARD"),
    (0x1d853, "10HAND-CUP FIVE FINGERS SPREAD,50OPEN,14HAND-HINGE"),
    (0x1d856, "10HAND-OVAL FIVE FINGERS SPREAD,10HAND-FLAT FIVE FINGERS SPREAD HINGED"),
    (0x1d858, "60THUMB SIDE,60NO THUMB,20,20BETWEEN PALM FACINGS,20HEEL,20THUMB SIDE"),
    (0x1d85e, "22HEEL,20THUMB BENT,30FORWARD,20SPLIT INDEX THUMB SIDE,30CENTRE"),
    (0x1d863, "40THUMB SIDE,60BENT,30LITTLE,10HAND-CLAW,20THUMB SIDE,20NO THUMB"),
    (0x1d869, "20THUMB FORWARD,10HAND-HOOK CURLICUE,20,10HAND-CUP OPEN,20"),
    (0x1d86e, "20OPEN THUMB SIDE,22,20OPEN NO THUMB,22,20OPEN THUMB FORWARD,22"),
    (0x1d874, "10HAND-CURLICUE OPEN,20,10HAND-CIRCLE,10HAND-OVAL,20THUMB SIDE"),
    (0x1d879, "20NO THUMB,20THUMB FORWARD,10HAND-HINGE OPEN,30THUMB FORWARD,20"),
    (0x1d87e, "20SMALL,20OPEN THUMB SIDE,22,20OPEN NO THUMB,22"),
    (0x1d883, "20THUMB SIDE TOUCHING INDEX,30BETWEEN MIDDLE RING,10HAND-ANGLE"),
    (0x1d886, "10HAND-FIST INDEX MIDDLE RING,13HAND-CIRCLE,13HAND-HINGE,13HAND-ANGLE"),
    (0x1d88a, "10HAND-HINGE LITTLE,10HAND-FIST INDEX MIDDLE RING BENT,50CONJOINED"),
    (0x1d88d, "14HAND-HINGE,10HAND-FIST LITTLE DOWN,40RIPPLE STRAIGHT,50CURVED"),
    (0x1d891, "40OTHERS CIRCLED,30UP,22THUMB UNDER,12HAND-CIRCLE,12HAND-OVAL"),
    (0x1d896, "12HAND-ANGLE,10HAND-FIST LITTLE RAISED KNUCKLE,30BENT,30TOUCHES THUMB"),
    (0x1d89a, "31,12HAND-HINGE,11HAND-FIST LITTLE INDEX,13HAND-HINGE"),
    (0x1d89e, "10HAND-ANGLE LITTLE INDEX THUMB INDEX THUMB OUT,70"),
    (0x1d8a0, "10HAND-FIST LITTLE INDEX,12HAND-CIRCLE,12HAND-HINGE,12HAND-ANGLE"),
    (0x1d8a4, "10HAND-FIST INDEX MIDDLE LITTLE,13HAND-CIRCLE,13HAND-HINGE,20RING"),
    (0x1d8a8, "10HAND-ANGLE INDEX MIDDLE LITTLE,11HAND-FIST INDEX MIDDLE CROSS"),
    (0x1d8aa, "14HAND-CIRCLE,10HAND-FIST RING DOWN"),
    (0x1d8ac, "10HAND-HINGE RING DOWN INDEX THUMB HOOK MIDDLE"),
    (0x1d8ad, "10HAND-ANGLE RING DOWN MIDDLE THUMB INDEX CROSS,10HAND-FIST RING UP"),
    (0x1d8af, "30RAISED KNUCKLE,30LITTLE,12HAND-CIRCLE,12HAND-OVAL,12HAND-ANGLE"),
    (0x1d8b4, "10HAND-FIST RING MIDDLE,40CONJOINED,40RAISED KNUCKLES,30INDEX,30THUMB"),
    (0x1d8b9, "12HAND-HOOK,10HAND-FIST INDEX RING LITTLE,13HAND-CIRCLE"),
    (0x1d8bc, "10HAND-CURLICUE INDEX RING LITTLE ON,10HAND-HOOK INDEX RING LITTLE OUT"),
    (0x1d8be, "50IN,50UNDER,10HAND-CUP INDEX RING LITTLE,13HAND-HINGE"),
    (0x1d8c2, "10HAND-ANGLE INDEX RING LITTLE OUT,50,10HAND-FIST MIDDLE DOWN"),
    (0x1d8c5, "10HAND-HINGE MIDDLE,10HAND-FIST MIDDLE UP,12HAND-CIRCLE"),
    (0x1d8c8, "10HAND-FIST MIDDLE RAISED KNUCKLE,30UP THUMB SIDE"),
    (0x1d8ca, "10HAND-HOOK MIDDLE THUMB,10HAND-FIST MIDDLE THUMB LITTLE,31,31RING"),
    (0x1d8ce, "13HAND-CIRCLE,10HAND-CURLICUE MIDDLE RING LITTLE ON"),
    (0x1d8d0, "10HAND-CUP MIDDLE RING LITTLE,13HAND-HINGE"),
    (0x1d8d2, "10HAND-ANGLE MIDDLE RING LITTLE OUT,50IN,50"),
    (0x1d8d5, "10HAND-CIRCLE MIDDLE RING LITTLE BENT"),
    (0x1d8d6, "10HAND-CLAW MIDDLE RING LITTLE CONJOINED,60SIDE"),
    (0x1d8d8, "10HAND-HOOK MIDDLE RING LITTLE CONJOINED OUT,60IN,60"),
    (0x1d8db, "10HAND-HINGE INDEX HINGED,10HAND-FIST INDEX THUMB SIDE,13HAND-HINGE"),
    (0x1d8de, "10HAND-FIST INDEX THUMB SIDE THUMB DIAGONAL,60CONJOINED,60BENT,51INDEX"),
    (0x1d8e2, "51BOTH,50INDEX HINGE,40FORWARD INDEX STRAIGHT,60BENT,40HOOK,40CURLICUE"),
    (0x1d8e8, "40CURVE THUMB INSIDE,15HAND-CLAW"),
    (0x1d8ea, "10HAND-FIST INDEX THUMB CURVE THUMB UNDER,40CIRCLE"),
    (0x1d8ec, "10HAND-CUP INDEX THUMB,40OPEN,13HAND-HINGE,40LARGE,40,40SMALL"),
    (0x1d8f2, "10HAND-ANGLE INDEX THUMB OUT,40IN,40,11HAND-FIST,30HEEL"),
    (0x1d8f7, "30SIDE DIAGONAL,40CONJOINED,40BENT,30FORWARD,30BETWEEN INDEX MIDDLE"),
    (0x1d8fc, "40MIDDLE RING,40RING LITTLE,30UNDER TWO FINGERS,32OVER,31UNDER THREE"),
    (0x1d901, "41FOUR,30OVER FOUR RAISED KNUCKLES,20,20HEEL,10TOUCH SINGLE,20MULTIPLE"),
    (0x1d907, "20BETWEEN,10GRASP SINGLE,20MULTIPLE,20BETWEEN,10STRIKE SINGLE"),
    (0x1d90c, "20MULTIPLE,20BETWEEN,10BRUSH SINGLE,20MULTIPLE,20BETWEEN,10RUB SINGLE"),
    (0x1d912, "20MULTIPLE,20BETWEEN,10SURFACE SYMBOLS,20BETWEEN"),
    (0x1d916, "10SQUEEZE LARGE SINGLE,21SMALL,20LARGE MULTIPLE,21SMALL,20SEQUENTIAL"),
    (0x1d91b, "10FLICK LARGE SINGLE,21SMALL,20LARGE MULTIPLE,21SMALL,20SEQUENTIAL"),
    (0x1d920, "10SQUEEZE FLICK ALTERNATING,10MOVEMENT-HINGE UP DOWN LARGE,40SMALL"),
    (0x1d923, "30SEQUENTIAL,21DOWN,20UP DOWN ALTERNATING LARGE,50SMALL"),
    (0x1d927, "20SIDE TO SIDE SCISSORS,10MOVEMENT-WALLPLANE FINGER CONTACT"),
    (0x1d929, "12MOVEMENT-FLOORPLANE,10MOVEMENT-WALLPLANE SINGLE STRAIGHT SMALL"),
    (0x1d92b, "40MEDIUM,40LARGE,40LARGEST,30WRIST FLEX,20DOUBLE STRAIGHT,30WRIST FLEX"),
    (0x1d931, "30ALTERNATING,40WRIST FLEX,20CROSS,20TRIPLE STRAIGHT MOVEMENT"),
    (0x1d935, "30WRIST FLEX,30ALTERNATING,40WRIST FLEX,20BEND SMALL,30MEDIUM,30LARGE"),
    (0x1d93b, "20CORNER SMALL,30MEDIUM,30LARGE,30ROTATION,20CHECK SMALL,30MEDIUM"),
    (0x1d941, "30LARGE,20BOX SMALL,30MEDIUM,30LARGE,20ZIGZAG SMALL,30MEDIUM,30LARGE"),
    (0x1d948, "20PEAKS SMALL,30MEDIUM,30LARGE"),
    (0x1d94b, "10TRAVEL-WALLPLANE ROTATION-WALLPLANE SINGLE,30DOUBLE,30ALTERNATING"),
    (0x1d94e, "20ROTATION-FLOORPLANE SINGLE,30DOUBLE,30ALTERNATING,20SHAKING"),
    (0x1d952, "20ARM SPIRAL SINGLE,40DOUBLE,40TRIPLE,10MOVEMENT-DIAGONAL AWAY SMALL"),
    (0x1d956, "30MEDIUM,30LARGE,30LARGEST,20TOWARDS SMALL,30MEDIUM,30LARGE,30LARGEST"),
    (0x1d95d, "20BETWEEN AWAY SMALL,40MEDIUM,40LARGE,40LARGEST,30TOWARDS SMALL"),
    (0x1d962, "40MEDIUM,40LARGE,40LARGEST,10MOVEMENT-FLOORPLANE SINGLE STRAIGHT SMALL"),
    (0x1d966, "40MEDIUM,40LARGE,40LARGEST,30WRIST FLEX,20DOUBLE STRAIGHT,30WRIST FLEX"),
    (0x1d96c, "30ALTERNATING,40WRIST FLEX,20CROSS,20TRIPLE STRAIGHT MOVEMENT"),
    (0x1d970, "30WRIST FLEX,30ALTERNATING MOVEMENT,40WRIST FLEX,20BEND,20CORNER SMALL"),
    (0x1d975, "30MEDIUM,30LARGE,20CHECK,20BOX SMALL,30MEDIUM,30LARGE,20ZIGZAG SMALL"),
    (0x1d97c, "30MEDIUM,30LARGE,20PEAKS SMALL,30MEDIUM,30LARGE"),
    (0x1d981, "10TRAVEL-FLOORPLANE ROTATION-FLOORPLANE SINGLE,30DOUBLE,30ALTERNATING"),
    (0x1d984, "20ROTATION-WALLPLANE SINGLE,30DOUBLE,30ALTERNATING,20SHAKING"),
    (0x1d988, "10MOVEMENT-WALLPLANE CURVE QUARTER SMALL,40MEDIUM,40LARGE,40LARGEST"),
    (0x1d98c, "30HALF-CIRCLE SMALL,40MEDIUM,40LARGE,40LARGEST"),
    (0x1d990, "30THREE-QUARTER CIRCLE SMALL,50MEDIUM,20HUMP SMALL,30MEDIUM,30LARGE"),
    (0x1d995, "20LOOP SMALL,30MEDIUM,30LARGE,30SMALL DOUBLE,20WAVE CURVE DOUBLE SMALL"),
    (0x1d99a, "50MEDIUM,50LARGE,40TRIPLE SMALL,50MEDIUM,50LARGE,20CURVE THEN STRAIGHT"),
    (0x1d9a0, "20CURVED CROSS SMALL,40MEDIUM,10ROTATION-WALLPLANE SINGLE,20DOUBLE"),
    (0x1d9a4, "20ALTERNATE,10MOVEMENT-WALLPLANE SHAKING,20CURVE HITTING FRONT WALL"),
    (0x1d9a7, "23HUMP,23LOOP,23WAVE,13ROTATION-WALLPLANE SINGLE,23DOUBLE"),
    (0x1d9ac, "23ALTERNATING,10MOVEMENT-WALLPLANE CURVE HITTING CHEST,22HUMP,22LOOP"),
    (0x1d9b0, "22WAVE,12ROTATION-WALLPLANE SINGLE,22DOUBLE,22ALTERNATING"),
    (0x1d9b4, "10MOVEMENT-WALLPLANE WAVE DIAGONAL PATH SMALL,50MEDIUM,50LARGE"),
    (0x1d9b7, "10MOVEMENT-FLOORPLANE CURVE HITTING CEILING SMALL,50LARGE"),
    (0x1d9b9, "20HUMP HITTING CEILING SMALL DOUBLE,51LARGE,50SMALL TRIPLE,51LARGE"),
    (0x1d9bd, "20LOOP HITTING CEILING SMALL SINGLE,51LARGE,50SMALL DOUBLE,51LARGE"),
    (0x1d9c1, "20WAVE HITTING CEILING SMALL,50LARGE"),
    (0x1d9c3, "10ROTATION-FLOORPLANE SINGLE HITTING CEILING,22DOUBLE,22ALTERNATING"),
    (0x1d9c6, "10MOVEMENT-FLOORPLANE CURVE HITTING FLOOR SMALL,50LARGE"),
    (0x1d9c8, "20HUMP HITTING FLOOR SMALL DOUBLE,51LARGE,50TRIPLE SMALL TRIPLE"),
    (0x1d9cb, "61LARGE,20LOOP HITTING FLOOR SMALL SINGLE,51LARGE,50SMALL DOUBLE"),
    (0x1d9cf, "51LARGE,20WAVE HITTING FLOOR SMALL,50LARGE"),
    (0x1d9d2, "10ROTATION-FLOORPLANE SINGLE HITTING FLOOR,22DOUBLE,22ALTERNATING"),
    (0x1d9d5, "10MOVEMENT-FLOORPLANE CURVE SMALL,30MEDIUM,30LARGE,30LARGEST"),
    (0x1d9d9, "30COMBINED,20HUMP SMALL,21LOOP,20WAVE SNAKE,30SMALL,30LARGE"),
    (0x1d9df, "10ROTATION-FLOORPLANE SINGLE,20DOUBLE,20ALTERNATING"),
    (0x1d9e2, "10MOVEMENT-FLOORPLANE SHAKING PARALLEL"),
    (0x1d9e3, "10MOVEMENT-WALLPLANE ARM CIRCLE SMALL SINGLE,41MEDIUM,40SMALL DOUBLE"),
    (0x1d9e6, "41MEDIUM,10MOVEMENT-FLOORPLANE ARM CIRCLE HITTING WALL SMALL SINGLE"),
    (0x1d9e8, "61MEDIUM,61LARGE,60SMALL DOUBLE,61MEDIUM,61LARGE"),
    (0x1d9ed, "10MOVEMENT-WALLPLANE WRIST CIRCLE FRONT SINGLE,50DOUBLE"),
    (0x1d9ef, "10MOVEMENT-FLOORPLANE WRIST CIRCLE HITTING WALL SINGLE,60DOUBLE"),
    (0x1d9f1, "10MOVEMENT-WALLPLANE FINGER CIRCLES SINGLE,40DOUBLE"),
    (0x1d9f3, "10MOVEMENT-FLOORPLANE FINGER CIRCLES HITTING WALL SINGLE,60DOUBLE"),
    (0x1d9f5, "10DYNAMIC ARROWHEAD SMALL,30LARGE,20FAST,20SLOW,20TENSE,20RELAXED"),
    (0x1d9fb, "20SIMULTANEOUS,30ALTERNATING,20EVERY OTHER TIME,20GRADUAL,10HEAD,20RIM"),
    (0x1da01, "20MOVEMENT-WALLPLANE STRAIGHT,30TILT,20MOVEMENT-FLOORPLANE STRAIGHT"),
    (0x1da04, "20MOVEMENT-WALLPLANE CURVE,21MOVEMENT-FLOORPLANE,20MOVEMENT CIRCLE"),
    (0x1da07, "10FACE DIRECTION POSITION NOSE FORWARD TILTING,50UP OR DOWN,80TILTING"),
    (0x1da0a, "10EYEBROWS STRAIGHT UP,30NEUTRAL,30DOWN,11DREAMY EYEBROWS NEUTRAL"),
    (0x1da0e, "30DOWN NEUTRAL,31UP,30NEUTRAL UP,10FOREHEAD NEUTRAL,20CONTACT"),
    (0x1da13, "20WRINKLED,10EYES OPEN,20SQUEEZED,20CLOSED,10EYE BLINK SINGLE"),
    (0x1da18, "30MULTIPLE,10EYES HALF OPEN,21WIDE,20HALF CLOSED,20WIDENING MOVEMENT"),
    (0x1da1d, "10EYE WINK,10EYELASHES UP,20DOWN,20FLUTTERING"),
    (0x1da21, "10EYEGAZE-WALLPLANE STRAIGHT,30DOUBLE,30ALTERNATING"),
    (0x1da24, "10EYEGAZE-FLOORPLANE STRAIGHT,30DOUBLE,30ALTERNATING"),
    (0x1da27, "10EYEGAZE-WALLPLANE CURVED,11EYEGAZE-FLOORPLANE"),
    (0x1da29, "10EYEGAZE-WALLPLANE CIRCLING,10CHEEKS PUFFED,20NEUTRAL,20SUCKED"),
    (0x1da2d, "10TENSE CHEEKS HIGH,30MIDDLE,30LOW,10EARS,10NOSE NEUTRAL,20CONTACT"),
    (0x1da33, "20WRINKLES,20WIGGLES,10AIR BLOWING OUT,20SUCKING IN"),
    (0x1da37, "20BLOW SMALL ROTATIONS,22SUCK,10BREATH INHALE,20EXHALE"),
    (0x1da3b, "10MOUTH CLOSED NEUTRAL,30FORWARD,30CONTACT,20SMILE,30WRINKLED,30OPEN"),
    (0x1da41, "20FROWN,30WRINKLED,30OPEN,20OPEN CIRCLE,30FORWARD,30WRINKLED,30OVAL"),
    (0x1da48, "40WRINKLED,40YAWN,30RECTANGLE,40WRINKLED,40YAWN,20KISS,30FORWARD"),
    (0x1da4f, "30WRINKLED,20TENSE,30FORWARD,30SUCKED,10LIPS PRESSED TOGETHER"),
    (0x1da54, "10LIP LOWER OVER UPPER,20UPPER OVER LOWER,10MOUTH CORNERS"),
    (0x1da57, "20WRINKLES SINGLE,30DOUBLE,10TONGUE STICKING OUT FAR,20LICKING LIPS"),
    (0x1da5b, "21TIP BETWEEN,30TOUCHING INSIDE MOUTH,20INSIDE MOUTH RELAXED"),
    (0x1da5e, "20MOVES AGAINST CHEEK,20CENTRE STICKING OUT,30INSIDE MOUTH,10TEETH"),
    (0x1da62, "20MOVEMENT,20ON TONGUE,40MOVEMENT,30LIPS,40MOVEMENT,20BITE LIPS"),
    (0x1da68, "10MOVEMENT-WALLPLANE JAW,11MOVEMENT-FLOORPLANE,10NECK,10HAIR"),
    (0x1da6c, "10EXCITEMENT,10SHOULDER HIP SPINE,30POSITIONS"),
    (0x1da6f, "10WALLPLANE SHOULDER HIP MOVE,13FLOORPLANE"),
    (0x1da71, "10SHOULDER TILTING FROM WAIST,10TORSO-WALLPLANE STRAIGHT STRETCH"),
    (0x1da73, "20CURVED BEND,10TORSO-FLOORPLANE TWISTING"),
    (0x1da75, "10UPPER BODY TILTING FROM HIP JOINTS,10LIMB COMBINATION,20LENGTH-1"),
    (0x1da78, "20LENGTH-2,20LENGTH-3,20LENGTH-4,20LENGTH-5,20LENGTH-6,20LENGTH-7"),
    (0x1da7e, "10FINGER,10LOCATION-WALLPLANE SPACE,11LOCATION-FLOORPLANE"),
    (0x1da81, "10LOCATION HEIGHT,20WIDTH,20DEPTH,20HEAD NECK,20TORSO,20LIMBS DIGITS"),
    (0x1da87, "10COMMA,10FULL STOP,10SEMICOLON,10COLON,10PARENTHESIS"),
    (0x1da9b, "10FILL MODIFIER-2,20MODIFIER-3,20MODIFIER-4,20MODIFIER-5,20MODIFIER-6"),
    (0x1daa1, "10ROTATION MODIFIER-2,20MODIFIER-3,20MODIFIER-4,20MODIFIER-5"),
    (0x1daa5, "20MODIFIER-6,20MODIFIER-7,20MODIFIER-8,20MODIFIER-9,20MODIFIER-10"),
    (0x1daaa, "20MODIFIER-11,20MODIFIER-12,20MODIFIER-13,20MODIFIER-14,20MODIFIER-15"),
    (0x1daaf, "20MODIFIER-16"),
    (0x1df00, "00LATIN SMALL LETTER FENG DIGRAPH WITH TRILL,30REVERSED SCRIPT G"),
    (0x1df02, "11LETTER SMALL CAPITAL TURNED,10SMALL LETTER REVERSED K"),
    (0x1df04, "10LETTER SMALL CAPITAL L WITH BELT"),
    (0x1df05, "10SMALL LETTER LEZH WITH RETROFLEX HOOK,30TURNED Y WITH BELT"),
    (0x1df07, "30REVERSED ENG,30TURNED R WITH LONG LEG AND RETROFLEX HOOK"),
    (0x1df09, "33T WITH HOOK,12LETTER RETROFLEX CLICK WITH"),
    (0x1df0b, "10SMALL LETTER ESH WITH DOUBLE BAR,70AND CURL,31TURNED T WITH"),
    (0x1df0e, "12LETTER INVERTED GLOTTAL STOP,22STRETCHED C,20SMALL CAPITAL TURNED K"),
    (0x1df11, "10SMALL LETTER L WITH FISHHOOK,30DEZH DIGRAPH WITH PALATAL HOOK"),
    (0x1df13, "32L WITH BELT AND,32ENG WITH,33TURNED R,32R WITH FISHHOOK AND"),
    (0x1df17, "32TESH DIGRAPH WITH,33EZH,31DEZH DIGRAPH WITH RETROFLEX"),
    (0x1df1a, "32I WITH STROKE AND,32O WITH,33TESH DIGRAPH,33C,30S WITH CURL")]

/-- The packed names of the letters and numbers after them. -/
def countNames : List (Nat × String) :=
  [
    (0x1e000, "00COMBINING GLAGOLITIC LETTER AZU,30BUKY,30VEDE,30GLAGOLI,30DOBRO"),
    (0x1e005, "30YESTU,30ZHIVETE"),
    (0x1e008, "30ZEMLJA,30IZHE,31INITIAL,30I,30DJERVI,30KAKO,30LJUDIJE,30MYSLITE"),
    (0x1e010, "30NASHI,30ONU,30POKOJI,30RITSI,30SLOVO,30TVRIDO,30UKU,30FRITU,30HERU"),
    (0x1e01b, "30SHTA,30TSI,30CHRIVI,30SHA,30YERU,30YERI,30YATI"),
    (0x1e023, "30YU,30SMALL YUS"),
    (0x1e026, "30YO,30IOTATED SMALL YUS,31BIG,32IOTATED,30FITA"),
    (0x1e100, "00NYIAKENG PUACHUE HMONG LETTER MA,40TSA,40NTA,40TA,40HA,40NA,40XA"),
    (0x1e107, "40NKA,40CA,40LA,40SA,40ZA,40NCA,40NTSA,40KA,40DA,40NYA,40NRA,40VA"),
    (0x1e113, "40NTXA,40TXA,40FA,40RA,40QA,40YA,40NQA,40PA,40XYA,40NPA,40DLA,40NPLA"),
    (0x1e11f, "40HAH,40MLA,40PLA,40GA,40RRA,40A,40AA,40I,40U,40O,40OO,40E,40EE,40W"),
    (0x1e130, "30TONE-B,30TONE-M,30TONE-J,30TONE-V,30TONE-S,30TONE-G,30TONE-D"),
    (0x1e137, "30SIGN FOR PERSON,50THING,50LOCATION,50ANIMAL,50INVERTEBRATE,40XW XW"),
    (0x1e13d, "30SYLLABLE LENGTHENER"),
    (0x1e140, "30DIGIT ZERO,40ONE,40TWO,40THREE,40FOUR,40FIVE,40SIX,40SEVEN,40EIGHT"),
    (0x1e149, "40NINE"),
    (0x1e14e, "30LOGOGRAM NYAJ,30CIRCLED CA"),
    (0x1e290, "00TOTO LETTER PA,20BA,20TA,20DA,20KA,20GA,20MA,20NA,20NGA,20SA,20CHA"),
    (0x1e29b, "20YA,20WA,20JA,20HA,20RA,20LA,20I,21BREATHY,20IU,21BREATHY,20U,20E"),
    (0x1e2a7, "21BREATHY,20EO,21BREATHY,20O,20AE,21BREATHY,20A,10SIGN RISING TONE"),
    (0x1e2c0, "00WANCHO LETTER AA,20A,20BA,20CA,20DA,20GA,20YA,20PHA,20LA,20NA,20PA"),
    (0x1e2cb, "20TA,20THA,20FA,20SA,20SHA,20JA,20ZA,20WA,20VA,20KA,20O,20AU,20RA,20MA"),
    (0x1e2d9, "20KHA,20HA,20E,20I,20NGA,20U,20LLHA,20TSA,20TRA,20ONG,20AANG,20ANG"),
    (0x1e2e5, "20ING,20ON,20EN,20AAN,20NYA,20UEN,20YIH,10TONE TUP,20TUPNI,20KOI"),
    (0x1e2ef, "20KOINI,10DIGIT ZERO,20ONE,20TWO,20THREE,20FOUR,20FIVE,20SIX,20SEVEN"),
    (0x1e2f8, "20EIGHT,20NINE"),
    (0x1e2ff, "10NGUN SIGN"),
    (0x1e7e0, "00ETHIOPIC SYLLABLE HHYA,20HHYU,20HHYI,20HHYAA,20HHYEE,20HHYE,20HHYO"),
    (0x1e7e8, "20GURAGE HHWA,20HHWI,20HHWEE,20HHWE"),
    (0x1e7ed, "20GURAGE MWI,30MWEE"),
    (0x1e7f0, "30QWI,30QWEE,30QWE,30BWI,30BWEE,30KWI,30KWEE,30KWE,30GWI,30GWEE,30GWE"),
    (0x1e7fb, "30FWI,30FWEE,30PWI,30PWEE"),
    (0x1e800, "00MENDE KIKAKUI SYLLABLE M001 KI,30M002 KA,30M003 KU,30M065 KEE"),
    (0x1e804, "30M095 KE,30M076 KOO,30M048 KO,30M179 KUA,30M004 WI,30M005 WA"),
    (0x1e80a, "30M006 WU,30M126 WEE,30M118 WE,30M114 WOO,30M045 WO,30M194 WUI"),
    (0x1e810, "30M143 WEI,30M061 WVI,30M049 WVA,30M139 WVE,30M007 MIN,30M008 MAN"),
    (0x1e816, "30M009 MUN,30M059 MEN,30M094 MON,30M154 MUAN,30M189 MUEN,30M010 BI"),
    (0x1e81c, "30M011 BA,30M012 BU,30M150 BEE,30M097 BE,30M103 BOO,30M138 BO,30M013 I"),
    (0x1e823, "30M014 A,30M015 U,30M163 EE,30M100 E,30M165 OO,30M147 O,30M137 EI"),
    (0x1e82a, "30M131 IN,31M135,30M195 AN,30M178 EN,30M019 SI,30M020 SA,30M021 SU"),
    (0x1e831, "30M162 SEE,30M116 SE,30M136 SOO,30M079 SO,30M196 SIA,30M025 LI"),
    (0x1e837, "30M026 LA,30M027 LU,30M084 LEE,30M073 LE,30M054 LOO,30M153 LO"),
    (0x1e83d, "30M110 LONG LE,30M016 DI,30M017 DA,30M018 DU,30M089 DEE,30M180 DOO"),
    (0x1e843, "30M181 DO,30M022 TI,30M023 TA,30M024 TU,30M091 TEE,30M055 TE"),
    (0x1e849, "30M104 TOO,30M069 TO,30M028 JI,30M029 JA,30M030 JU,30M157 JEE"),
    (0x1e84f, "30M113 JE,30M160 JOO,30M063 JO,31M175 LONG,30M031 YI,30M032 YA"),
    (0x1e855, "30M033 YU,30M109 YEE,30M080 YE,30M141 YOO,30M121 YO,30M034 FI"),
    (0x1e85b, "30M035 FA,30M036 FU,30M078 FEE,30M075 FE,30M133 FOO,30M088 FO"),
    (0x1e861, "30M197 FUA,30M101 FAN,30M037 NIN,30M038 NAN,30M039 NUN,30M117 NEN"),
    (0x1e867, "30M169 NON,30M176 HI,30M041 HA,30M186 HU,30M040 HEE,30M096 HE"),
    (0x1e86d, "30M042 HOO,30M140 HO,30M083 HEEI,30M128 HOOU,30M053 HIN,30M130 HAN"),
    (0x1e873, "30M087 HUN,30M052 HEN,30M193 HON,30M046 HUAN,30M090 NGGI,30M043 NGGA"),
    (0x1e879, "30M082 NGGU,30M115 NGGEE,30M146 NGGE,30M156 NGGOO,30M120 NGGO"),
    (0x1e87e, "30M159 NGGAA,30M127 NGGUA,30M086 LONG NGGE,30M106 LONG NGGOO"),
    (0x1e882, "30M183 LONG NGGO,30M155 GI,30M111 GA,30M168 GU,30M190 GEE,30M166 GUEI"),
    (0x1e888, "30M167 GUAN,30M184 NGEN,30M057 NGON,30M177 NGUAN,30M068 PI,30M099 PA"),
    (0x1e88e, "30M050 PU,30M081 PEE,30M051 PE,30M102 POO,30M066 PO,30M145 MBI"),
    (0x1e894, "30M062 MBA,30M122 MBU,30M047 MBEE,31M188,30M072 MBE,30M172 MBOO"),
    (0x1e89a, "30M174 MBO,30M187 MBUU,30M161 LONG MBE,30M105 LONG MBOO"),
    (0x1e89e, "30M142 LONG MBO,30M132 KPI,30M092 KPA,30M074 KPU,30M044 KPEE"),
    (0x1e8a3, "30M108 KPE,30M112 KPOO,30M158 KPO,30M124 GBI,30M056 GBA,30M148 GBU"),
    (0x1e8a9, "30M093 GBEE,30M107 GBE,30M071 GBOO,30M070 GBO,30M171 RA,30M123 NDI"),
    (0x1e8af, "30M129 NDA,30M125 NDU,30M191 NDEE,30M119 NDE,30M067 NDOO,30M064 NDO"),
    (0x1e8b5, "30M152 NJA,30M192 NJU,30M149 NJEE,30M134 NJOO,30M182 VI,30M185 VA"),
    (0x1e8bb, "30M151 VU,30M173 VEE,30M085 VE,30M144 VOO,30M077 VO,30M164 NYIN"),
    (0x1e8c1, "30M058 NYAN,30M170 NYUN,30M098 NYEN,30M060 NYON"),
    (0x1e8c7, "20DIGIT ONE,30TWO,30THREE,30FOUR,30FIVE,30SIX,30SEVEN,30EIGHT,30NINE"),
    (0x1e8d0, "20COMBINING NUMBER TEENS,40TENS,40HUNDREDS,40THOUSANDS,41TEN,41HUNDRED"),
    (0x1e8d6, "40MILLIONS"),
    (0x1e900, "00ADLAM CAPITAL LETTER ALIF,30DAALI,30LAAM,30MIIM,30BA,30SINNYIIYHE"),
    (0x1e906, "30PE,30BHE,30RA,30E,30FA,30I,30O,30DHA,30YHE,30WAW,30NUN,30KAF,30YA"),
    (0x1e913, "30U,30JIIM,30CHI,30HA,30QAAF,30GA,30NYA,30TU,30NHA,30VA,30KHA,30GBE"),
    (0x1e91f, "30ZAL,30KPO,30SHA,10SMALL LETTER ALIF,30DAALI,30LAAM,30MIIM,30BA"),
    (0x1e927, "30SINNYIIYHE,30PE,30BHE,30RA,30E,30FA,30I,30O,30DHA,30YHE,30WAW,30NUN"),
    (0x1e933, "30KAF,30YA,30U,30JIIM,30CHI,30HA,30QAAF,30GA,30NYA,30TU,30NHA,30VA"),
    (0x1e93f, "30KHA,30GBE,30ZAL,30KPO,30SHA,10ALIF LENGTHENER,11VOWEL"),
    (0x1e946, "10GEMINATION MARK,10HAMZA,10CONSONANT MODIFIER,12GEMINATE,10NUKTA"),
    (0x1e94b, "10NASALIZATION MARK"),
    (0x1e950, "10DIGIT ZERO,20ONE,20TWO,20THREE,20FOUR,20FIVE,20SIX,20SEVEN,20EIGHT"),
    (0x1e959, "20NINE"),
    (0x1e95e, "10INITIAL EXCLAMATION MARK,21QUESTION"),
    (0x1ec71, "00INDIC SIYAQ NUMBER ONE,30TWO,30THREE,30FOUR,30FIVE,30SIX,30SEVEN"),
    (0x1ec78, "30EIGHT,30NINE,30TEN,30TWENTY,30THIRTY,30FORTY,30FIFTY,30SIXTY"),
    (0x1ec80, "30SEVENTY,30EIGHTY,30NINETY,30ONE HUNDRED,31TWO,31THREE,31FOUR,31FIVE"),
    (0x1ec88, "31SIX,31SEVEN,31EIGHT,31NINE,30ONE THOUSAND,31TWO,31THREE,31FOUR"),
    (0x1ec90, "31FIVE,31SIX,31SEVEN,31EIGHT,31NINE,31TEN,31TWENTY,31THIRTY,31FORTY"),
    (0x1ec99, "31FIFTY,31SIXTY,31SEVENTY,31EIGHTY,31NINETY,30LAKH,30LAKHAN"),
    (0x1eca0, "20LAKH MARK,20NUMBER KAROR,30KARORAN,30PREFIXED ONE,40TWO,40THREE"),
    (0x1eca6, "40FOUR,40FIVE,40SIX,40SEVEN,40EIGHT,40NINE,20PLACEHOLDER"),
    (0x1ecad, "20FRACTION ONE QUARTER,40HALF,30THREE QUARTERS,20RUPEE MARK"),
    (0x1ecb1, "20NUMBER ALTERNATE ONE,40TWO,40TEN THOUSAND,20ALTERNATE LAKH MARK"),
    (0x1ed01, "00OTTOMAN SIYAQ NUMBER ONE,30TWO,30THREE,30FOUR,30FIVE,30SIX,30SEVEN"),
    (0x1ed08, "30EIGHT,30NINE,30TEN,30TWENTY,30THIRTY,30FORTY,30FIFTY,30SIXTY"),
    (0x1ed10, "30SEVENTY,30EIGHTY,30NINETY,30ONE HUNDRED,31TWO,31THREE,31FOUR,31FIVE"),
    (0x1ed18, "31SIX,31SEVEN,31EIGHT,31NINE,30ONE THOUSAND,31TWO,31THREE,31FOUR"),
    (0x1ed20, "31FIVE,31SIX,31SEVEN,31EIGHT,31NINE,31TEN,31TWENTY,31THIRTY,31FORTY"),
    (0x1ed29, "31FIFTY,31SIXTY,31SEVENTY,31EIGHTY,31NINETY,20MARRATAN"),
    (0x1ed2f, "20ALTERNATE NUMBER TWO,40THREE,40FOUR,40FIVE,40SIX,40SEVEN,40EIGHT"),
    (0x1ed36, "40NINE,40TEN,40FOUR HUNDRED,41SIX,40TWO THOUSAND,41TEN"),
    (0x1ed3c, "20FRACTION ONE HALF,40SIXTH"),
    (0x1ee00, "00ARABIC MATHEMATICAL ALEF,20BEH,20JEEM,20DAL"),
    (0x1ee05, "20WAW,20ZAIN,20HAH,20TAH,20YEH,20KAF,20LAM,20MEEM,20NOON,20SEEN,20AIN"),
    (0x1ee10, "20FEH,20SAD,20QAF,20REH,20SHEEN,20TEH,20THEH,20KHAH,20THAL,20DAD,20ZAH"),
    (0x1ee1b, "20GHAIN,20DOTLESS BEH,30NOON,30FEH,30QAF"),
    (0x1ee21, "20INITIAL BEH,30JEEM"),
    (0x1ee24, "30HEH"),
    (0x1ee27, "30HAH"),
    (0x1ee29, "30YEH,30KAF,30LAM,30MEEM,30NOON,30SEEN,30AIN,30FEH,30SAD,30QAF"),
    (0x1ee34, "30SHEEN,30TEH,30THEH,30KHAH"),
    (0x1ee39, "30DAD"),
    (0x1ee3b, "30GHAIN"),
    (0x1ee42, "20TAILED JEEM"),
    (0x1ee47, "30HAH"),
    (0x1ee49, "30YEH"),
    (0x1ee4b, "30LAM"),
    (0x1ee4d, "30NOON,30SEEN,30AIN"),
    (0x1ee51, "30SAD,30QAF"),
    (0x1ee54, "30SHEEN"),
    (0x1ee57, "30KHAH"),
    (0x1ee59, "30DAD"),
    (0x1ee5b, "30GHAIN"),
    (0x1ee5d, "30DOTLESS NOON"),
    (0x1ee5f, "40QAF"),
    (0x1ee61, "20STRETCHED BEH,30JEEM"),
    (0x1ee64, "30HEH"),
    (0x1ee67, "30HAH,30TAH,30YEH,30KAF"),
    (0x1ee6c, "30MEEM,30NOON,30SEEN,30AIN,30FEH,30SAD,30QAF"),
    (0x1ee74, "30SHEEN,30TEH,30THEH,30KHAH"),
    (0x1ee79, "30DAD,30ZAH,30GHAIN,30DOTLESS BEH"),
    (0x1ee7e, "40FEH"),
    (0x1ee80, "20LOOPED ALEF,30BEH,30JEEM,30DAL,30HEH,30WAW,30ZAIN,30HAH,30TAH,30YEH"),
    (0x1ee8b, "30LAM,30MEEM,30NOON,30SEEN,30AIN,30FEH,30SAD,30QAF,30REH,30SHEEN,30TEH"),
    (0x1ee96, "30THEH,30KHAH,30THAL,30DAD,30ZAH,30GHAIN"),
    (0x1eea1, "20DOUBLE-STRUCK BEH,30JEEM,30DAL"),
    (0x1eea5, "30WAW,30ZAIN,30HAH,30TAH,30YEH"),
    (0x1eeab, "30LAM,30MEEM,30NOON,30SEEN,30AIN,30FEH,30SAD,30QAF,30REH,30SHEEN,30TEH"),
    (0x1eeb6, "30THEH,30KHAH,30THAL,30DAD,30ZAH,30GHAIN"),
    (0x1eef0, "20OPERATOR MEEM WITH HAH WITH TATWEEL,30HAH WITH DAL")]

/-- The packed names of the pictures of old computers. -/
def computerNames : List (Nat × String) :=
  [
    (0x1fb00, "00BLOCK SEXTANT-1,10SEXTANT-2,10SEXTANT-12,10SEXTANT-3,10SEXTANT-13"),
    (0x1fb05, "10SEXTANT-23,10SEXTANT-123,10SEXTANT-4,10SEXTANT-14,10SEXTANT-24"),
    (0x1fb0a, "10SEXTANT-124,10SEXTANT-34,10SEXTANT-134,10SEXTANT-234,10SEXTANT-1234"),
    (0x1fb0f, "10SEXTANT-5,10SEXTANT-15,10SEXTANT-25,10SEXTANT-125,10SEXTANT-35"),
    (0x1fb14, "10SEXTANT-235,10SEXTANT-1235,10SEXTANT-45,10SEXTANT-145,10SEXTANT-245"),
    (0x1fb19, "10SEXTANT-1245,10SEXTANT-345,10SEXTANT-1345,10SEXTANT-2345"),
    (0x1fb1d, "10SEXTANT-12345,10SEXTANT-6,10SEXTANT-16,10SEXTANT-26,10SEXTANT-126"),
    (0x1fb22, "10SEXTANT-36,10SEXTANT-136,10SEXTANT-236,10SEXTANT-1236,10SEXTANT-46"),
    (0x1fb27, "10SEXTANT-146,10SEXTANT-1246,10SEXTANT-346,10SEXTANT-1346"),
    (0x1fb2b, "10SEXTANT-2346,10SEXTANT-12346,10SEXTANT-56,10SEXTANT-156"),
    (0x1fb2f, "10SEXTANT-256,10SEXTANT-1256,10SEXTANT-356,10SEXTANT-1356"),
    (0x1fb33, "10SEXTANT-2356,10SEXTANT-12356,10SEXTANT-456,10SEXTANT-1456"),
    (0x1fb37, "10SEXTANT-2456,10SEXTANT-12456,10SEXTANT-3456,10SEXTANT-13456"),
    (0x1fb3b, "10SEXTANT-23456"),
    (0x1fb3c, "00LOWER LEFT BLOCK DIAGONAL LOWER MIDDLE LEFT TO LOWER CENTRE,90RIGHT"),
    (0x1fb3e, "40UPPER MIDDLE LEFT TO LOWER CENTRE,90RIGHT,50LEFT TO LOWER CENTRE"),
    (0x1fb41, "11RIGHT BLOCK DIAGONAL UPPER MIDDLE LEFT TO UPPER,90RIGHT"),
    (0x1fb43, "40LOWER MIDDLE LEFT TO UPPER CENTRE,90RIGHT,50LEFT TO UPPER CENTRE"),
    (0x1fb46, "50MIDDLE LEFT TO UPPER MIDDLE RIGHT,52CENTRE TO LOWER,54LEFT"),
    (0x1fb49, "52CENTRE TO UPPER,54LEFT,51CENTRE TO UPPER"),
    (0x1fb4c, "11LEFT BLOCK DIAGONAL UPPER CENTRE TO UPPER MIDDLE,54LEFT"),
    (0x1fb4e, "52CENTRE TO LOWER,54LEFT,51CENTRE TO LOWER"),
    (0x1fb51, "51MIDDLE LEFT TO LOWER MIDDLE"),
    (0x1fb52, "00UPPER RIGHT BLOCK DIAGONAL LOWER MIDDLE LEFT TO LOWER CENTRE,90RIGHT"),
    (0x1fb54, "40UPPER MIDDLE LEFT TO LOWER CENTRE,90RIGHT,50LEFT TO LOWER CENTRE"),
    (0x1fb57, "11LEFT BLOCK DIAGONAL UPPER MIDDLE LEFT TO UPPER,90RIGHT"),
    (0x1fb59, "40LOWER MIDDLE LEFT TO UPPER CENTRE,90RIGHT,50LEFT TO UPPER CENTRE"),
    (0x1fb5c, "50MIDDLE LEFT TO UPPER MIDDLE RIGHT,52CENTRE TO LOWER,54LEFT"),
    (0x1fb5f, "52CENTRE TO UPPER,54LEFT,51CENTRE TO UPPER"),
    (0x1fb62, "11RIGHT BLOCK DIAGONAL UPPER CENTRE TO UPPER MIDDLE,54LEFT"),
    (0x1fb64, "52CENTRE TO LOWER,54LEFT,51CENTRE TO LOWER"),
    (0x1fb67, "51MIDDLE LEFT TO LOWER MIDDLE"),
    (0x1fb68, "10AND RIGHT AND LOWER TRIANGULAR THREE QUARTERS BLOCK"),
    (0x1fb69, "04LEFT AND LOWER AND RIGHT,04UPPER AND LEFT AND LOWER"),
    (0x1fb6b, "04LEFT AND UPPER AND RIGHT,11TRIANGULAR ONE QUARTER,04UPPER,04RIGHT"),
    (0x1fb6f, "04LOWER,00VERTICAL ONE EIGHTH BLOCK-2,30BLOCK-3,30BLOCK-4,30BLOCK-5"),
    (0x1fb74, "30BLOCK-6,30BLOCK-7,00HORIZONTAL ONE EIGHTH BLOCK-2,30BLOCK-3"),
    (0x1fb78, "30BLOCK-4,30BLOCK-5,30BLOCK-6,30BLOCK-7"),
    (0x1fb7c, "00LEFT AND LOWER ONE EIGHTH BLOCK,23UPPER,05RIGHT,23LOWER,05UPPER"),
    (0x1fb81, "00HORIZONTAL ONE EIGHTH BLOCK-1358,00UPPER ONE QUARTER BLOCK"),
    (0x1fb83, "11THREE EIGHTHS,12FIVE,11THREE QUARTERS,11SEVEN EIGHTHS"),
    (0x1fb87, "01RIGHT ONE QUARTER,11THREE EIGHTHS,12FIVE,11THREE QUARTERS"),
    (0x1fb8b, "11SEVEN EIGHTHS,00LEFT HALF MEDIUM SHADE,03RIGHT,03UPPER,03LOWER"),
    (0x1fb90, "02INVERSE,03UPPER HALF BLOCK AND LOWER HALF"),
    (0x1fb92, "20INVERSE MEDIUM SHADE AND LOWER HALF BLOCK"),
    (0x1fb94, "02LEFT HALF INVERSE MEDIUM SHADE AND RIGHT,00CHECKER BOARD FILL"),
    (0x1fb96, "03INVERSE,01HEAVY HORIZONTAL,01UPPER LEFT TO LOWER RIGHT"),
    (0x1fb99, "11RIGHT TO LOWER LEFT,10AND LOWER TRIANGULAR HALF BLOCK"),
    (0x1fb9b, "03LEFT AND RIGHT,00UPPER LEFT TRIANGULAR MEDIUM SHADE,13RIGHT,04LOWER"),
    (0x1fb9f, "13LEFT,00BOX DRAWINGS LIGHT DIAGONAL UPPER CENTRE TO MIDDLE LEFT"),
    (0x1fba1, "80RIGHT,40MIDDLE LEFT TO LOWER CENTRE,53RIGHT"),
    (0x1fba4, "43UPPER CENTRE TO MIDDLE LEFT,83RIGHT"),
    (0x1fba6, "40MIDDLE LEFT TO LOWER CENTRE TO MIDDLE RIGHT,74UPPER"),
    (0x1fba8, "40UPPER CENTRE TO MIDDLE LEFT AND MIDDLE RIGHT TO LOWER CENTRE"),
    (0x1fba9, "83RIGHT AND MIDDLE LEFT,90TO LOWER CENTRE TO MIDDLE LEFT"),
    (0x1fbab, "80LEFT TO LOWER CENTRE TO MIDDLE RIGHT"),
    (0x1fbac, "40MIDDLE LEFT TO UPPER CENTRE TO MIDDLE RIGHT TO LOWER CENTRE"),
    (0x1fbad, "53RIGHT TO UPPER CENTRE TO MIDDLE LEFT,40DIAMOND"),
    (0x1fbaf, "30HORIZONTAL WITH VERTICAL STROKE,00ARROWHEAD-SHAPED POINTER"),
    (0x1fbb1, "00INVERSE CHECK MARK,00LEFT HALF RUNNING MAN,03RIGHT"),
    (0x1fbb4, "00INVERSE DOWNWARDS ARROW WITH TIP LEFTWARDS"),
    (0x1fbb5, "00LEFTWARDS ARROW AND UPPER AND LOWER ONE EIGHTH BLOCK,08RIGHTWARDS"),
    (0x1fbb7, "03DOWNWARDS ARROW AND RIGHT,06UPWARDS,00LEFT HALF FOLDER,02RIGHT"),
    (0x1fbbb, "00VOIDED GREEK CROSS,00RIGHT OPEN SQUARED DOT"),
    (0x1fbbd, "00NEGATIVE DIAGONAL CROSS,20MIDDLE RIGHT TO LOWER CENTRE,20DIAMOND"),
    (0x1fbc0, "00WHITE HEAVY SALTIRE WITH ROUNDED CORNERS"),
    (0x1fbc1, "00LEFT THIRD WHITE RIGHT POINTING INDEX,05MIDDLE,05RIGHT"),
    (0x1fbc4, "00NEGATIVE SQUARED QUESTION MARK,00STICK FIGURE,20WITH ARMS RAISED"),
    (0x1fbc7, "20LEANING LEFT,30RIGHT,20WITH DRESS,00WHITE UP-POINTING CHEVRON"),
    (0x1fbf0, "00SEGMENTED DIGIT ZERO,20ONE,20TWO,20THREE,20FOUR,20FIVE,20SIX,20SEVEN"),
    (0x1fbf8, "20EIGHT,20NINE")]

/-- The packed names of tags. -/
def tagNames : List (Nat × String) :=
  [
    (0xe0001, "00LANGUAGE TAG"),
    (0xe0020, "00TAG SPACE,10EXCLAMATION MARK,11QUOTATION,10NUMBER SIGN,11DOLLAR"),
    (0xe0025, "11PERCENT,10AMPERSAND,10APOSTROPHE,10LEFT PARENTHESIS,11RIGHT"),
    (0xe002a, "10ASTERISK,10PLUS SIGN,10COMMA,10HYPHEN-MINUS,10FULL STOP,10SOLIDUS"),
    (0xe0030, "10DIGIT ZERO,20ONE,20TWO,20THREE,20FOUR,20FIVE,20SIX,20SEVEN,20EIGHT"),
    (0xe0039, "20NINE,10COLON,10SEMICOLON,10LESS-THAN SIGN,11EQUALS,11GREATER-THAN"),
    (0xe003f, "10QUESTION MARK,10COMMERCIAL AT,10LATIN CAPITAL LETTER A,40B,40C,40D"),
    (0xe0045, "40E,40F,40G,40H,40I,40J,40K,40L,40M,40N,40O,40P,40Q,40R,40S,40T,40U"),
    (0xe0056, "40V,40W,40X,40Y,40Z,10LEFT SQUARE BRACKET,10REVERSE SOLIDUS"),
    (0xe005d, "10RIGHT SQUARE BRACKET,10CIRCUMFLEX ACCENT,10LOW LINE,10GRAVE ACCENT"),
    (0xe0061, "10LATIN SMALL LETTER A,40B,40C,40D,40E,40F,40G,40H,40I,40J,40K,40L,40M"),
    (0xe006e, "40N,40O,40P,40Q,40R,40S,40T,40U,40V,40W,40X,40Y,40Z"),
    (0xe007b, "10LEFT CURLY BRACKET,10VERTICAL LINE,10RIGHT CURLY BRACKET,10TILDE"),
    (0xe007f, "00CANCEL TAG")]

end Text
end KindExpr
