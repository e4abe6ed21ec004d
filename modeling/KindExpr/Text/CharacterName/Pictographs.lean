/-!
# Names of pictographs

The names of pictures, of the tiles and cards of games, and of enclosed letters.

Each entry is the first code point of a run and the names of the run, packed as
`unpackName` reads them.
-/

namespace KindExpr
namespace Text

/-- The packed names of pictographs. -/
def pictographNames : List (Nat × String) :=
  [
    (0x1f000, "00MAHJONG TILE EAST WIND,21SOUTH,21WEST,21NORTH,20RED DRAGON,21GREEN"),
    (0x1f006, "21WHITE,20ONE OF CHARACTERS,22TWO,22THREE,22FOUR,22FIVE,22SIX,22SEVEN"),
    (0x1f00e, "22EIGHT,22NINE,20ONE OF BAMBOOS,22TWO,22THREE,22FOUR,22FIVE,22SIX"),
    (0x1f016, "22SEVEN,22EIGHT,22NINE,20ONE OF CIRCLES,22TWO,22THREE,22FOUR,22FIVE"),
    (0x1f01e, "22SIX,22SEVEN,22EIGHT,22NINE,20PLUM,20ORCHID,20BAMBOO,20CHRYSANTHEMUM"),
    (0x1f026, "20SPRING,20SUMMER,20AUTUMN,20WINTER,20JOKER,20BACK"),
    (0x1f030, "01DOMINO TILE HORIZONTAL,20HORIZONTAL-00-00,20HORIZONTAL-00-01"),
    (0x1f033, "20HORIZONTAL-00-02,20HORIZONTAL-00-03,20HORIZONTAL-00-04"),
    (0x1f036, "20HORIZONTAL-00-05,20HORIZONTAL-00-06,20HORIZONTAL-01-00"),
    (0x1f039, "20HORIZONTAL-01-01,20HORIZONTAL-01-02,20HORIZONTAL-01-03"),
    (0x1f03c, "20HORIZONTAL-01-04,20HORIZONTAL-01-05,20HORIZONTAL-01-06"),
    (0x1f03f, "20HORIZONTAL-02-00,20HORIZONTAL-02-01,20HORIZONTAL-02-02"),
    (0x1f042, "20HORIZONTAL-02-03,20HORIZONTAL-02-04,20HORIZONTAL-02-05"),
    (0x1f045, "20HORIZONTAL-02-06,20HORIZONTAL-03-00,20HORIZONTAL-03-01"),
    (0x1f048, "20HORIZONTAL-03-02,20HORIZONTAL-03-03,20HORIZONTAL-03-04"),
    (0x1f04b, "20HORIZONTAL-03-05,20HORIZONTAL-03-06,20HORIZONTAL-04-00"),
    (0x1f04e, "20HORIZONTAL-04-01,20HORIZONTAL-04-02,20HORIZONTAL-04-03"),
    (0x1f051, "20HORIZONTAL-04-04,20HORIZONTAL-04-05,20HORIZONTAL-04-06"),
    (0x1f054, "20HORIZONTAL-05-00,20HORIZONTAL-05-01,20HORIZONTAL-05-02"),
    (0x1f057, "20HORIZONTAL-05-03,20HORIZONTAL-05-04,20HORIZONTAL-05-05"),
    (0x1f05a, "20HORIZONTAL-05-06,20HORIZONTAL-06-00,20HORIZONTAL-06-01"),
    (0x1f05d, "20HORIZONTAL-06-02,20HORIZONTAL-06-03,20HORIZONTAL-06-04"),
    (0x1f060, "20HORIZONTAL-06-05,20HORIZONTAL-06-06,20VERTICAL BACK,20VERTICAL-00-00"),
    (0x1f064, "20VERTICAL-00-01,20VERTICAL-00-02,20VERTICAL-00-03,20VERTICAL-00-04"),
    (0x1f068, "20VERTICAL-00-05,20VERTICAL-00-06,20VERTICAL-01-00,20VERTICAL-01-01"),
    (0x1f06c, "20VERTICAL-01-02,20VERTICAL-01-03,20VERTICAL-01-04,20VERTICAL-01-05"),
    (0x1f070, "20VERTICAL-01-06,20VERTICAL-02-00,20VERTICAL-02-01,20VERTICAL-02-02"),
    (0x1f074, "20VERTICAL-02-03,20VERTICAL-02-04,20VERTICAL-02-05,20VERTICAL-02-06"),
    (0x1f078, "20VERTICAL-03-00,20VERTICAL-03-01,20VERTICAL-03-02,20VERTICAL-03-03"),
    (0x1f07c, "20VERTICAL-03-04,20VERTICAL-03-05,20VERTICAL-03-06,20VERTICAL-04-00"),
    (0x1f080, "20VERTICAL-04-01,20VERTICAL-04-02,20VERTICAL-04-03,20VERTICAL-04-04"),
    (0x1f084, "20VERTICAL-04-05,20VERTICAL-04-06,20VERTICAL-05-00,20VERTICAL-05-01"),
    (0x1f088, "20VERTICAL-05-02,20VERTICAL-05-03,20VERTICAL-05-04,20VERTICAL-05-05"),
    (0x1f08c, "20VERTICAL-05-06,20VERTICAL-06-00,20VERTICAL-06-01,20VERTICAL-06-02"),
    (0x1f090, "20VERTICAL-06-03,20VERTICAL-06-04,20VERTICAL-06-05,20VERTICAL-06-06"),
    (0x1f0a0, "00PLAYING CARD BACK,20ACE OF SPADES,22TWO,22THREE,22FOUR,22FIVE,22SIX"),
    (0x1f0a7, "22SEVEN,22EIGHT,22NINE,22TEN,22JACK,22KNIGHT,22QUEEN,22KING"),
    (0x1f0b1, "20ACE OF HEARTS,22TWO,22THREE,22FOUR,22FIVE,22SIX,22SEVEN,22EIGHT"),
    (0x1f0b9, "22NINE,22TEN,22JACK,22KNIGHT,22QUEEN,22KING,20RED JOKER"),
    (0x1f0c1, "20ACE OF DIAMONDS,22TWO,22THREE,22FOUR,22FIVE,22SIX,22SEVEN,22EIGHT"),
    (0x1f0c9, "22NINE,22TEN,22JACK,22KNIGHT,22QUEEN,22KING,20BLACK JOKER"),
    (0x1f0d1, "20ACE OF CLUBS,22TWO,22THREE,22FOUR,22FIVE,22SIX,22SEVEN,22EIGHT"),
    (0x1f0d9, "22NINE,22TEN,22JACK,22KNIGHT,22QUEEN,22KING,20WHITE JOKER,20FOOL"),
    (0x1f0e1, "20TRUMP-1,20TRUMP-2,20TRUMP-3,20TRUMP-4,20TRUMP-5,20TRUMP-6,20TRUMP-7"),
    (0x1f0e8, "20TRUMP-8,20TRUMP-9,20TRUMP-10,20TRUMP-11,20TRUMP-12,20TRUMP-13"),
    (0x1f0ee, "20TRUMP-14,20TRUMP-15,20TRUMP-16,20TRUMP-17,20TRUMP-18,20TRUMP-19"),
    (0x1f0f4, "20TRUMP-20,20TRUMP-21"),
    (0x1f100, "00DIGIT ZERO FULL STOP,20COMMA,11ONE,11TWO,11THREE,11FOUR,11FIVE,11SIX"),
    (0x1f108, "11SEVEN,11EIGHT,11NINE,00DINGBAT CIRCLED SANS-SERIF DIGIT ZERO"),
    (0x1f10c, "14NEGATIVE,00CIRCLED ZERO WITH SLASH,10ANTICLOCKWISE ARROW"),
    (0x1f10f, "10DOLLAR SIGN WITH OVERLAID BACKSLASH"),
    (0x1f110, "00PARENTHESIZED LATIN CAPITAL LETTER A,40B,40C,40D,40E,40F,40G,40H,40I"),
    (0x1f119, "40J,40K,40L,40M,40N,40O,40P,40Q,40R,40S,40T,40U,40V,40W,40X,40Y,40Z"),
    (0x1f12a, "00TORTOISE SHELL BRACKETED LATIN CAPITAL LETTER S"),
    (0x1f12b, "00CIRCLED ITALIC LATIN CAPITAL LETTER C,50R,10CD,10WZ"),
    (0x1f12f, "00COPYLEFT SYMBOL,00SQUARED LATIN CAPITAL LETTER A,40B,40C,40D,40E,40F"),
    (0x1f136, "40G,40H,40I,40J,40K,40L,40M,40N,40O,40P,40Q,40R,40S,40T,40U,40V,40W"),
    (0x1f147, "40X,40Y,40Z,10HV,10MV,10SD,10SS,10PPV,10WC"),
    (0x1f150, "00NEGATIVE CIRCLED LATIN CAPITAL LETTER A,50B,50C,50D,50E,50F,50G,50H"),
    (0x1f158, "50I,50J,50K,50L,50M,50N,50O,50P,50Q,50R,50S,50T,50U,50V,50W,50X,50Y"),
    (0x1f169, "50Z,00RAISED MC SIGN,11MD,11MR,00CIRCLED CC"),
    (0x1f16e, "10C WITH OVERLAID BACKSLASH,10HUMAN FIGURE"),
    (0x1f170, "00NEGATIVE SQUARED LATIN CAPITAL LETTER A,50B,50C,50D,50E,50F,50G,50H"),
    (0x1f178, "50I,50J,50K,50L,50M,50N,50O,50P,50Q,50R,50S,50T,50U,50V,50W,50X,50Y"),
    (0x1f189, "50Z,00CROSSED NEGATIVE SQUARED LATIN CAPITAL LETTER P"),
    (0x1f18b, "00NEGATIVE SQUARED IC,20PA,20SA,20AB,20WC,00SQUARE DJ,00SQUARED CL"),
    (0x1f192, "10COOL,10FREE,10ID,10NEW,10NG,10OK,10SOS,10UP WITH EXCLAMATION MARK"),
    (0x1f19a, "10VS,10THREE D,10SECOND SCREEN,10TWO K,11FOUR,11EIGHT,10FIVE POINT ONE"),
    (0x1f1a1, "12SEVEN,10TWENTY-TWO POINT TWO,10SIXTY P,11ONE HUNDRED TWENTY"),
    (0x1f1a5, "10LATIN SMALL LETTER D,10HC,10HDR,10HI-RES,10LOSSLESS,10SHV,10UHD"),
    (0x1f1ac, "10VOD,00MASK WORK SYMBOL"),
    (0x1f1e6, "00REGIONAL INDICATOR SYMBOL LETTER A,40B,40C,40D,40E,40F,40G,40H,40I"),
    (0x1f1ef, "40J,40K,40L,40M,40N,40O,40P,40Q,40R,40S,40T,40U,40V,40W,40X,40Y,40Z"),
    (0x1f200, "00SQUARE HIRAGANA HOKA,00SQUARED KATAKANA KOKO,20SA"),
    (0x1f210, "10CJK UNIFIED IDEOGRAPH-624B,30IDEOGRAPH-5B57,30IDEOGRAPH-53CC"),
    (0x1f213, "10KATAKANA DE,10CJK UNIFIED IDEOGRAPH-4E8C,30IDEOGRAPH-591A"),
    (0x1f216, "30IDEOGRAPH-89E3,30IDEOGRAPH-5929,30IDEOGRAPH-4EA4,30IDEOGRAPH-6620"),
    (0x1f21a, "30IDEOGRAPH-7121,30IDEOGRAPH-6599,30IDEOGRAPH-524D,30IDEOGRAPH-5F8C"),
    (0x1f21e, "30IDEOGRAPH-518D,30IDEOGRAPH-65B0,30IDEOGRAPH-521D,30IDEOGRAPH-7D42"),
    (0x1f222, "30IDEOGRAPH-751F,30IDEOGRAPH-8CA9,30IDEOGRAPH-58F0,30IDEOGRAPH-5439"),
    (0x1f226, "30IDEOGRAPH-6F14,30IDEOGRAPH-6295,30IDEOGRAPH-6355,30IDEOGRAPH-4E00"),
    (0x1f22a, "30IDEOGRAPH-4E09,30IDEOGRAPH-904A,30IDEOGRAPH-5DE6,30IDEOGRAPH-4E2D"),
    (0x1f22e, "30IDEOGRAPH-53F3,30IDEOGRAPH-6307,30IDEOGRAPH-8D70,30IDEOGRAPH-6253"),
    (0x1f232, "30IDEOGRAPH-7981,30IDEOGRAPH-7A7A,30IDEOGRAPH-5408,30IDEOGRAPH-6E80"),
    (0x1f236, "30IDEOGRAPH-6709,30IDEOGRAPH-6708,30IDEOGRAPH-7533,30IDEOGRAPH-5272"),
    (0x1f23a, "30IDEOGRAPH-55B6,30IDEOGRAPH-914D"),
    (0x1f240, "00TORTOISE SHELL BRACKETED CJK UNIFIED IDEOGRAPH-672C,50IDEOGRAPH-4E09"),
    (0x1f242, "50IDEOGRAPH-4E8C,50IDEOGRAPH-5B89,50IDEOGRAPH-70B9,50IDEOGRAPH-6253"),
    (0x1f246, "50IDEOGRAPH-76D7,50IDEOGRAPH-52DD,50IDEOGRAPH-6557"),
    (0x1f250, "00CIRCLED IDEOGRAPH ADVANTAGE,20ACCEPT"),
    (0x1f260, "00ROUNDED SYMBOL FOR FU,30LU,30SHOU,30XI,30SHUANGXI,30CAI"),
    (0x1f300, "00CYCLONE,00FOGGY,00CLOSED UMBRELLA,00NIGHT WITH STARS"),
    (0x1f304, "00SUNRISE OVER MOUNTAINS,10,00CITYSCAPE AT DUSK"),
    (0x1f307, "00SUNSET OVER BUILDINGS,00RAINBOW,00BRIDGE AT NIGHT,00WATER WAVE"),
    (0x1f30b, "00VOLCANO,00MILKY WAY,00EARTH GLOBE EUROPE-AFRICA,20AMERICAS"),
    (0x1f30f, "20ASIA-AUSTRALIA,00GLOBE WITH MERIDIANS,00NEW MOON SYMBOL"),
    (0x1f312, "02WAXING CRESCENT,02FIRST QUARTER,02WAXING GIBBOUS,02FULL"),
    (0x1f316, "02WANING GIBBOUS,02LAST QUARTER,02WANING CRESCENT,00CRESCENT MOON"),
    (0x1f31a, "00NEW MOON WITH FACE,03FIRST QUARTER,04LAST,03FULL,02SUN"),
    (0x1f31f, "00GLOWING STAR,01SHOOTING,00THERMOMETER,00BLACK DROPLET,00WHITE SUN"),
    (0x1f324, "20WITH SMALL CLOUD,21BEHIND,40WITH RAIN,03,20SNOW,20LIGHTNING"),
    (0x1f32a, "20TORNADO,00FOG,00WIND BLOWING FACE,00HOT DOG,00TACO,00BURRITO"),
    (0x1f330, "00CHESTNUT,00SEEDLING,00EVERGREEN TREE,01DECIDUOUS,01PALM,00CACTUS"),
    (0x1f336, "00HOT PEPPER,00TULIP,00CHERRY BLOSSOM,00ROSE,00HIBISCUS,00SUNFLOWER"),
    (0x1f33c, "00BLOSSOM,00EAR OF MAIZE,20RICE,00HERB,00FOUR LEAF CLOVER,00MAPLE LEAF"),
    (0x1f342, "01FALLEN,00LEAF FLUTTERING IN WIND,00MUSHROOM,00TOMATO,00AUBERGINE"),
    (0x1f347, "00GRAPES,00MELON,00WATERMELON,00TANGERINE,00LEMON,00BANANA,00PINEAPPLE"),
    (0x1f34e, "00RED APPLE,01GREEN,00PEAR,00PEACH,00CHERRIES,00STRAWBERRY,00HAMBURGER"),
    (0x1f355, "00SLICE OF PIZZA,00MEAT ON BONE,00POULTRY LEG,00RICE CRACKER,10BALL"),
    (0x1f35a, "00COOKED RICE,01CURRY AND,00STEAMING BOWL,00SPAGHETTI,00BREAD"),
    (0x1f35f, "00FRENCH FRIES,00ROASTED SWEET POTATO,00DANGO,00ODEN,00SUSHI"),
    (0x1f364, "00FRIED SHRIMP,00FISH CAKE WITH SWIRL DESIGN,00SOFT ICE CREAM"),
    (0x1f367, "00SHAVED ICE,00ICE CREAM,00DOUGHNUT,00COOKIE,00CHOCOLATE BAR,00CANDY"),
    (0x1f36d, "00LOLLIPOP,00CUSTARD,00HONEY POT,00SHORTCAKE,00BENTO BOX,00POT OF FOOD"),
    (0x1f373, "00COOKING,00FORK AND KNIFE,00TEACUP WITHOUT HANDLE"),
    (0x1f376, "00SAKE BOTTLE AND CUP,00WINE GLASS,01COCKTAIL,00TROPICAL DRINK"),
    (0x1f37a, "00BEER MUG,00CLINKING BEER MUGS,00BABY BOTTLE"),
    (0x1f37d, "00FORK AND KNIFE WITH PLATE,00BOTTLE WITH POPPING CORK,00POPCORN"),
    (0x1f380, "00RIBBON,00WRAPPED PRESENT,00BIRTHDAY CAKE,00JACK-O-LANTERN"),
    (0x1f384, "00CHRISTMAS TREE,00FATHER CHRISTMAS,00FIREWORKS,00FIREWORK SPARKLER"),
    (0x1f388, "00BALLOON,00PARTY POPPER,00CONFETTI BALL,00TANABATA TREE"),
    (0x1f38c, "00CROSSED FLAGS,00PINE DECORATION,00JAPANESE DOLLS,00CARP STREAMER"),
    (0x1f390, "00WIND CHIME,00MOON VIEWING CEREMONY,00SCHOOL SATCHEL,00GRADUATION CAP"),
    (0x1f394, "00HEART WITH TIP ON THE LEFT,00BOUQUET OF FLOWERS,00MILITARY MEDAL"),
    (0x1f397, "00REMINDER RIBBON,00MUSICAL KEYBOARD WITH JACKS,00STUDIO MICROPHONE"),
    (0x1f39a, "00LEVEL SLIDER,00CONTROL KNOBS,00BEAMED ASCENDING MUSICAL NOTES"),
    (0x1f39d, "12DESCENDING,00FILM FRAMES,00ADMISSION TICKETS,00CAROUSEL HORSE"),
    (0x1f3a1, "00FERRIS WHEEL,00ROLLER COASTER,00FISHING POLE AND FISH,00MICROPHONE"),
    (0x1f3a5, "00MOVIE CAMERA,00CINEMA,00HEADPHONE,00ARTIST PALETTE,00TOP HAT"),
    (0x1f3aa, "00CIRCUS TENT,00TICKET,00CLAPPER BOARD,00PERFORMING ARTS,00VIDEO GAME"),
    (0x1f3af, "00DIRECT HIT,00SLOT MACHINE,00BILLIARDS,00GAME DIE,00BOWLING"),
    (0x1f3b4, "00FLOWER PLAYING CARDS,00MUSICAL NOTE,00MULTIPLE MUSICAL NOTES"),
    (0x1f3b7, "00SAXOPHONE,00GUITAR,00MUSICAL KEYBOARD,00TRUMPET,00VIOLIN"),
    (0x1f3bc, "00MUSICAL SCORE,00RUNNING SHIRT WITH SASH,00TENNIS RACQUET AND BALL"),
    (0x1f3bf, "00SKI AND SKI BOOT,00BASKETBALL AND HOOP,00CHEQUERED FLAG"),
    (0x1f3c2, "00SNOWBOARDER,00RUNNER,00SURFER,00SPORTS MEDAL,00TROPHY,00HORSE RACING"),
    (0x1f3c8, "00AMERICAN FOOTBALL,01RUGBY,00SWIMMER,00WEIGHT LIFTER,00GOLFER"),
    (0x1f3cd, "00RACING MOTORCYCLE,10CAR,00CRICKET BAT AND BALL,00VOLLEYBALL"),
    (0x1f3d1, "00FIELD HOCKEY STICK AND BALL,00ICE HOCKEY STICK AND PUCK"),
    (0x1f3d3, "00TABLE TENNIS PADDLE AND BALL,00SNOW CAPPED MOUNTAIN,00CAMPING"),
    (0x1f3d6, "00BEACH WITH UMBRELLA,00BUILDING CONSTRUCTION,00HOUSE BUILDINGS"),
    (0x1f3d9, "00CITYSCAPE,00DERELICT HOUSE BUILDING,01CLASSICAL,00DESERT,10ISLAND"),
    (0x1f3de, "00NATIONAL PARK,00STADIUM,00HOUSE BUILDING,10WITH GARDEN"),
    (0x1f3e2, "00OFFICE BUILDING,00JAPANESE POST OFFICE,02EUROPEAN,00HOSPITAL,00BANK"),
    (0x1f3e7, "00AUTOMATED TELLER MACHINE,00HOTEL,01LOVE,00CONVENIENCE STORE,00SCHOOL"),
    (0x1f3ec, "00DEPARTMENT STORE,00FACTORY,00IZAKAYA LANTERN,00JAPANESE CASTLE"),
    (0x1f3f0, "01EUROPEAN,00WHITE PENNANT,01BLACK,00WAVING WHITE FLAG,11BLACK"),
    (0x1f3f5, "00ROSETTE,01BLACK,00LABEL,00BADMINTON RACQUET AND SHUTTLECOCK"),
    (0x1f3f9, "00BOW AND ARROW,00AMPHORA,00EMOJI MODIFIER FITZPATRICK TYPE-1-2"),
    (0x1f3fc, "30TYPE-3,30TYPE-4,30TYPE-5,30TYPE-6,00RAT,00MOUSE,00OX,00WATER BUFFALO"),
    (0x1f404, "00COW,00TIGER,00LEOPARD,00RABBIT,00CAT,00DRAGON,00CROCODILE,00WHALE"),
    (0x1f40c, "00SNAIL,00SNAKE,00HORSE,00RAM,00GOAT,00SHEEP,00MONKEY,00ROOSTER"),
    (0x1f414, "00CHICKEN,00DOG,00PIG,00BOAR,00ELEPHANT,00OCTOPUS,00SPIRAL SHELL,00BUG"),
    (0x1f41c, "00ANT,00HONEYBEE,00LADY BEETLE,00FISH,01TROPICAL,00BLOWFISH,00TURTLE"),
    (0x1f423, "00HATCHING CHICK,01BABY,02FRONT-FACING,00BIRD,00PENGUIN,00KOALA"),
    (0x1f429, "00POODLE,00DROMEDARY CAMEL,01BACTRIAN,00DOLPHIN,00MOUSE FACE,01COW"),
    (0x1f42f, "01TIGER,01RABBIT,01CAT,01DRAGON,00SPOUTING WHALE,00HORSE FACE,01MONKEY"),
    (0x1f436, "01DOG,01PIG,01FROG,01HAMSTER,01WOLF,01BEAR,01PANDA,00PIG NOSE"),
    (0x1f43e, "00PAW PRINTS,00CHIPMUNK,00EYES,00EYE,00EAR,00NOSE,00MOUTH,00TONGUE"),
    (0x1f446, "00WHITE UP POINTING BACKHAND INDEX,13DOWN,13LEFT,13RIGHT"),
    (0x1f44a, "00FISTED HAND SIGN,02WAVING,02OK,01THUMBS UP,11DOWN,01CLAPPING HANDS"),
    (0x1f450, "02OPEN,00CROWN,00WOMANS HAT,00EYEGLASSES,00NECKTIE,00T-SHIRT,00JEANS"),
    (0x1f457, "00DRESS,00KIMONO,00BIKINI,00WOMANS CLOTHES,00PURSE,00HANDBAG,00POUCH"),
    (0x1f45e, "00MANS SHOE,01ATHLETIC,01HIGH-HEELED,00WOMANS SANDAL,10BOOTS"),
    (0x1f463, "00FOOTPRINTS,00BUST IN SILHOUETTE,02BUSTS,00BOY,00GIRL,00MAN,00WOMAN"),
    (0x1f46a, "00FAMILY,00MAN AND WOMAN HOLDING HANDS,02TWO MEN,12WOMEN"),
    (0x1f46e, "00POLICE OFFICER,00WOMAN WITH BUNNY EARS,00BRIDE WITH VEIL"),
    (0x1f471, "00PERSON WITH BLOND HAIR,00MAN WITH GUA PI MAO,20TURBAN,00OLDER MAN"),
    (0x1f475, "10WOMAN,00BABY,00CONSTRUCTION WORKER,00PRINCESS,00JAPANESE OGRE"),
    (0x1f47a, "10GOBLIN,00GHOST,00BABY ANGEL,00EXTRATERRESTRIAL ALIEN,00ALIEN MONSTER"),
    (0x1f47f, "00IMP,00SKULL,00INFORMATION DESK PERSON,00GUARDSMAN,00DANCER"),
    (0x1f484, "00LIPSTICK,00NAIL POLISH,00FACE MASSAGE,00HAIRCUT,00BARBER POLE"),
    (0x1f489, "00SYRINGE,00PILL,00KISS MARK,00LOVE LETTER,00RING,00GEM STONE,00KISS"),
    (0x1f490, "00BOUQUET,00COUPLE WITH HEART,00WEDDING,00BEATING HEART,01BROKEN"),
    (0x1f495, "00TWO HEARTS,00SPARKLING HEART,01GROWING,00HEART WITH ARROW"),
    (0x1f499, "00BLUE HEART,01GREEN,01YELLOW,01PURPLE,00HEART WITH RIBBON"),
    (0x1f49e, "00REVOLVING HEARTS,00HEART DECORATION"),
    (0x1f4a0, "00DIAMOND SHAPE WITH A DOT INSIDE,00ELECTRIC LIGHT BULB,00ANGER SYMBOL"),
    (0x1f4a3, "00BOMB,00SLEEPING SYMBOL,01COLLISION,01SPLASHING SWEAT,00DROPLET"),
    (0x1f4a8, "00DASH SYMBOL,00PILE OF POO,00FLEXED BICEPS,00DIZZY SYMBOL"),
    (0x1f4ac, "00SPEECH BALLOON,01THOUGHT,00WHITE FLOWER,00HUNDRED POINTS SYMBOL"),
    (0x1f4b0, "00MONEY BAG,00CURRENCY EXCHANGE,00HEAVY DOLLAR SIGN,00CREDIT CARD"),
    (0x1f4b4, "00BANKNOTE WITH YEN SIGN,21DOLLAR,21EURO,21POUND,00MONEY WITH WINGS"),
    (0x1f4b9, "00CHART WITH UPWARDS TREND AND YEN SIGN,00SEAT,00PERSONAL COMPUTER"),
    (0x1f4bc, "00BRIEFCASE,00MINIDISC,00FLOPPY DISK,00OPTICAL DISC,00DVD"),
    (0x1f4c1, "00FILE FOLDER,02OPEN,00PAGE WITH CURL,10FACING UP,00CALENDAR"),
    (0x1f4c6, "01TEAR-OFF,00CARD INDEX,00CHART WITH UPWARDS TREND,21DOWNWARDS"),
    (0x1f4ca, "00BAR CHART,00CLIPBOARD,00PUSHPIN,01ROUND,00PAPERCLIP,00STRAIGHT RULER"),
    (0x1f4d0, "01TRIANGULAR,00BOOKMARK TABS,00LEDGER,00NOTEBOOK"),
    (0x1f4d4, "10WITH DECORATIVE COVER,00CLOSED BOOK,01OPEN,01GREEN,01BLUE,01ORANGE"),
    (0x1f4da, "00BOOKS,00NAME BADGE,00SCROLL,00MEMO,00TELEPHONE RECEIVER,00PAGER"),
    (0x1f4e0, "00FAX MACHINE,00SATELLITE ANTENNA,00PUBLIC ADDRESS LOUDSPEAKER"),
    (0x1f4e3, "00CHEERING MEGAPHONE,00OUTBOX TRAY,01INBOX,00PACKAGE,00E-MAIL SYMBOL"),
    (0x1f4e8, "00INCOMING ENVELOPE,00ENVELOPE WITH DOWNWARDS ARROW ABOVE"),
    (0x1f4ea, "00CLOSED MAILBOX WITH LOWERED FLAG,31RAISED,04OPEN,31LOWERED,00POSTBOX"),
    (0x1f4ef, "00POSTAL HORN,00NEWSPAPER,00MOBILE PHONE"),
    (0x1f4f2, "20WITH RIGHTWARDS ARROW AT LEFT,00VIBRATION MODE,00MOBILE PHONE OFF"),
    (0x1f4f5, "00NO MOBILE PHONES,00ANTENNA WITH BARS,00CAMERA,10WITH FLASH"),
    (0x1f4f9, "00VIDEO CAMERA,00TELEVISION,00RADIO,00VIDEOCASSETTE,00FILM PROJECTOR"),
    (0x1f4fe, "00PORTABLE STEREO,00PRAYER BEADS,00TWISTED RIGHTWARDS ARROWS"),
    (0x1f501, "01CLOCKWISE RIGHTWARDS AND LEFTWARDS OPEN CIRCLE"),
    (0x1f502, "70WITH CIRCLED ONE OVERLAY,10DOWNWARDS AND UPWARDS OPEN CIRCLE ARROWS"),
    (0x1f504, "06ANTICLOCKWISE,00LOW BRIGHTNESS SYMBOL,02HIGH"),
    (0x1f507, "00SPEAKER WITH CANCELLATION STROKE,10,10WITH ONE SOUND WAVE"),
    (0x1f50a, "20THREE SOUND WAVES,00BATTERY,00ELECTRIC PLUG"),
    (0x1f50d, "00LEFT-POINTING MAGNIFYING GLASS,02RIGHT-POINTING,00LOCK WITH INK PEN"),
    (0x1f510, "00CLOSED LOCK WITH KEY,01,00LOCK,01OPEN,00BELL"),
    (0x1f515, "10WITH CANCELLATION STROKE,00BOOKMARK,00LINK SYMBOL,00RADIO BUTTON"),
    (0x1f519, "00BACK WITH LEFTWARDS ARROW ABOVE,04END"),
    (0x1f51b, "02ON WITH EXCLAMATION MARK WITH LEFT RIGHT,02SOON WITH RIGHTWARDS"),
    (0x1f51d, "02TOP WITH UPWARDS,00NO ONE UNDER EIGHTEEN SYMBOL,00KEYCAP TEN"),
    (0x1f520, "00INPUT SYMBOL FOR LATIN CAPITAL LETTERS,41SMALL,30NUMBERS,30SYMBOLS"),
    (0x1f524, "30LATIN LETTERS,00FIRE,00ELECTRIC TORCH,00WRENCH,00HAMMER"),
    (0x1f529, "00NUT AND BOLT,00HOCHO,00PISTOL,00MICROSCOPE,00TELESCOPE"),
    (0x1f52e, "00CRYSTAL BALL,00SIX POINTED STAR WITH MIDDLE DOT"),
    (0x1f530, "00JAPANESE SYMBOL FOR BEGINNER,00TRIDENT EMBLEM,00BLACK SQUARE BUTTON"),
    (0x1f533, "02WHITE,00LARGE RED CIRCLE,11BLUE,10ORANGE DIAMOND,11BLUE"),
    (0x1f538, "01SMALL ORANGE,11BLUE,00UP-POINTING RED TRIANGLE,02DOWN-POINTING"),
    (0x1f53c, "02UP-POINTING SMALL,03DOWN-POINTING"),
    (0x1f53e, "00LOWER RIGHT SHADOWED WHITE CIRCLE,04UPPER,00CIRCLED CROSS POMMEE"),
    (0x1f541, "00CROSS POMMEE WITH HALF-CIRCLE BELOW,20"),
    (0x1f543, "00NOTCHED LEFT SEMICIRCLE WITH THREE DOTS,14RIGHT"),
    (0x1f545, "00SYMBOL FOR MARKS CHAPTER,00WHITE LATIN CROSS,02HEAVY,01CELTIC"),
    (0x1f549, "00OM SYMBOL,00DOVE OF PEACE,00KAABA,00MOSQUE,00SYNAGOGUE"),
    (0x1f54e, "00MENORAH WITH NINE BRANCHES,00BOWL OF HYGIEIA,00CLOCK FACE ONE OCLOCK"),
    (0x1f551, "21TWO,21THREE,21FOUR,21FIVE,21SIX,21SEVEN,21EIGHT,21NINE,21TEN"),
    (0x1f55a, "21ELEVEN,21TWELVE,20ONE-THIRTY,20TWO-THIRTY,20THREE-THIRTY"),
    (0x1f55f, "20FOUR-THIRTY,20FIVE-THIRTY,20SIX-THIRTY,20SEVEN-THIRTY,20EIGHT-THIRTY"),
    (0x1f564, "20NINE-THIRTY,20TEN-THIRTY,20ELEVEN-THIRTY,20TWELVE-THIRTY"),
    (0x1f568, "00RIGHT SPEAKER,20WITH ONE SOUND WAVE,30THREE SOUND WAVES,00BULLHORN"),
    (0x1f56c, "10WITH SOUND WAVES,00RINGING BELL,00BOOK,00CANDLE,00MANTELPIECE CLOCK"),
    (0x1f571, "00BLACK SKULL AND CROSSBONES,00NO PIRACY,00HOLE"),
    (0x1f574, "00MAN IN BUSINESS SUIT LEVITATING,00SLEUTH OR SPY,00DARK SUNGLASSES"),
    (0x1f577, "00SPIDER,10WEB,00JOYSTICK,00MAN DANCING,00LEFT HAND TELEPHONE RECEIVER"),
    (0x1f57c, "00TELEPHONE RECEIVER WITH PAGE,00RIGHT HAND TELEPHONE RECEIVER"),
    (0x1f57e, "00WHITE TOUCHTONE TELEPHONE,02BLACK,00TELEPHONE ON TOP OF MODEM"),
    (0x1f581, "00CLAMSHELL MOBILE PHONE,00BACK OF ENVELOPE,01STAMPED"),
    (0x1f584, "00ENVELOPE WITH LIGHTNING,00FLYING ENVELOPE,01PEN OVER STAMPED"),
    (0x1f587, "00LINKED PAPERCLIPS,00BLACK PUSHPIN,00LOWER LEFT PENCIL"),
    (0x1f58a, "20BALLPOINT PEN,21FOUNTAIN,20PAINTBRUSH,20CRAYON,00LEFT WRITING HAND"),
    (0x1f58f, "00TURNED OK HAND SIGN,00RAISED HAND WITH FINGERS SPLAYED,05REVERSED"),
    (0x1f592, "10THUMBS UP SIGN,21DOWN,10VICTORY HAND"),
    (0x1f595, "10HAND WITH MIDDLE FINGER EXTENDED"),
    (0x1f596, "00RAISED HAND WITH PART BETWEEN MIDDLE AND RING FINGERS"),
    (0x1f597, "00WHITE DOWN POINTING LEFT HAND INDEX,01SIDEWAYS WHITE LEFT POINTING"),
    (0x1f599, "22RIGHT,12BLACK LEFT,22RIGHT,01BLACK LEFT POINTING BACKHAND,13RIGHT"),
    (0x1f59e, "01SIDEWAYS WHITE UP POINTING,22DOWN,12BLACK UP,22DOWN"),
    (0x1f5a2, "01BLACK UP POINTING BACKHAND,13DOWN,10HEART,00DESKTOP COMPUTER"),
    (0x1f5a6, "00KEYBOARD AND MOUSE,00THREE NETWORKED COMPUTERS,00PRINTER"),
    (0x1f5a9, "00POCKET CALCULATOR,00BLACK HARD SHELL FLOPPY DISK,04WHITE,03SOFT"),
    (0x1f5ad, "00TAPE CARTRIDGE,00WIRED KEYBOARD,00ONE BUTTON MOUSE,02TWO,02THREE"),
    (0x1f5b2, "00TRACKBALL,00OLD PERSONAL COMPUTER,00HARD DISK,00SCREEN"),
    (0x1f5b6, "00PRINTER ICON,01FAX,01OPTICAL DISC,00DOCUMENT WITH TEXT,30AND PICTURE"),
    (0x1f5bb, "21,02FRAME,20TILES,20AN X,00BLACK FOLDER,01,01OPEN"),
    (0x1f5c2, "00CARD INDEX DIVIDERS,10FILE BOX,00FILE CABINET,00EMPTY NOTE,20PAGE"),
    (0x1f5c7, "20PAD,00NOTE,10PAGE,10PAD,00EMPTY DOCUMENT,10PAGE,10PAGES,00DOCUMENT"),
    (0x1f5cf, "00PAGE,00PAGES,00WASTEBASKET,00SPIRAL NOTE PAD,11CALENDAR"),
    (0x1f5d4, "00DESKTOP WINDOW,00MINIMIZE,00MAXIMIZE,00OVERLAP"),
    (0x1f5d8, "00CLOCKWISE RIGHT AND LEFT SEMICIRCLE ARROWS,00CANCELLATION X"),
    (0x1f5da, "00INCREASE FONT SIZE SYMBOL,03DECREASE,00COMPRESSION,00OLD KEY"),
    (0x1f5de, "00ROLLED-UP NEWSPAPER,00PAGE WITH CIRCLED TEXT,00STOCK CHART"),
    (0x1f5e1, "00DAGGER KNIFE,00LIPS,00SPEAKING HEAD IN SILHOUETTE,00THREE RAYS ABOVE"),
    (0x1f5e5, "20BELOW,20LEFT,20RIGHT,00LEFT SPEECH BUBBLE,02RIGHT"),
    (0x1f5ea, "00TWO SPEECH BUBBLES,02THREE,00LEFT THOUGHT BUBBLE,02RIGHT"),
    (0x1f5ee, "01LEFT ANGER,02RIGHT,01MOOD,02LIGHTNING,20,00BALLOT BOX WITH BALLOT"),
    (0x1f5f4, "10SCRIPT X,12BOX WITH,12BOLD,13BOX WITH,00LIGHT CHECK MARK"),
    (0x1f5f9, "00BALLOT BOX WITH BOLD CHECK,00WORLD MAP,00MOUNT FUJI,00TOKYO TOWER"),
    (0x1f5fd, "00STATUE OF LIBERTY,00SILHOUETTE OF JAPAN,00MOYAI,00GRINNING FACE"),
    (0x1f601, "20WITH SMILING EYES,00FACE WITH TEARS OF JOY"),
    (0x1f603, "00SMILING FACE WITH OPEN MOUTH,50AND SMILING EYES,60COLD SWEAT"),
    (0x1f606, "60TIGHTLY-CLOSED EYES,30HALO,30HORNS,00WINKING FACE"),
    (0x1f60a, "00SMILING FACE WITH SMILING EYES,00FACE SAVOURING DELICIOUS FOOD"),
    (0x1f60c, "00RELIEVED FACE,00SMILING FACE WITH HEART-SHAPED EYES,30SUNGLASSES"),
    (0x1f60f, "00SMIRKING FACE,01NEUTRAL,01EXPRESSIONLESS,01UNAMUSED"),
    (0x1f613, "00FACE WITH COLD SWEAT,00PENSIVE FACE,01CONFUSED,01CONFOUNDED"),
    (0x1f617, "01KISSING,00FACE THROWING A KISS,00KISSING FACE WITH SMILING EYES"),
    (0x1f61a, "31CLOSED,00FACE WITH STUCK-OUT TONGUE,40AND WINKING EYE"),
    (0x1f61d, "50TIGHTLY-CLOSED EYES,00DISAPPOINTED FACE,01WORRIED,01ANGRY,01POUTING"),
    (0x1f622, "01CRYING,01PERSEVERING,00FACE WITH LOOK OF TRIUMPH"),
    (0x1f625, "00DISAPPOINTED BUT RELIEVED FACE,00FROWNING FACE WITH OPEN MOUTH"),
    (0x1f627, "00ANGUISHED FACE,01FEARFUL,01WEARY,01SLEEPY,01TIRED,01GRIMACING"),
    (0x1f62d, "01LOUDLY CRYING,00FACE WITH OPEN MOUTH,00HUSHED FACE"),
    (0x1f630, "00FACE WITH OPEN MOUTH AND COLD SWEAT,10SCREAMING IN FEAR"),
    (0x1f632, "00ASTONISHED FACE,01FLUSHED,01SLEEPING,01DIZZY,00FACE WITHOUT MOUTH"),
    (0x1f637, "10WITH MEDICAL MASK,00GRINNING CAT FACE WITH SMILING EYES"),
    (0x1f639, "00CAT FACE WITH TEARS OF JOY,00SMILING CAT FACE WITH OPEN MOUTH"),
    (0x1f63b, "40HEART-SHAPED EYES,00CAT FACE WITH WRY SMILE"),
    (0x1f63d, "00KISSING CAT FACE WITH CLOSED EYES,00POUTING CAT FACE,02CRYING"),
    (0x1f640, "02WEARY,01SLIGHTLY FROWNING,11SMILING,01UPSIDE-DOWN"),
    (0x1f644, "00FACE WITH ROLLING EYES,20NO GOOD GESTURE,21OK,00PERSON BOWING DEEPLY"),
    (0x1f648, "00SEE-NO-EVIL MONKEY,01HEAR-NO-EVIL,01SPEAK-NO-EVIL"),
    (0x1f64b, "00HAPPY PERSON RAISING ONE HAND"),
    (0x1f64c, "00PERSON RAISING BOTH HANDS IN CELEBRATION,10FROWNING"),
    (0x1f64e, "10WITH POUTING FACE,20FOLDED HANDS,00NORTH WEST POINTING LEAF,03SOUTH"),
    (0x1f652, "02NORTH EAST,03SOUTH,02TURNED NORTH WEST,13SOUTH,12NORTH EAST,13SOUTH"),
    (0x1f658, "01NORTH WEST POINTING VINE,04SOUTH,03NORTH EAST,04SOUTH"),
    (0x1f65c, "03HEAVY NORTH WEST,14SOUTH,13NORTH EAST,14SOUTH"),
    (0x1f660, "00NORTH WEST POINTING BUD,03SOUTH,02NORTH EAST,03SOUTH"),
    (0x1f664, "02HEAVY NORTH WEST,13SOUTH,12NORTH EAST,13SOUTH"),
    (0x1f668, "00HOLLOW QUILT SQUARE ORNAMENT,40IN BLACK SQUARE"),
    (0x1f66a, "00SOLID QUILT SQUARE ORNAMENT,40IN BLACK SQUARE,00LEFTWARDS ROCKET"),
    (0x1f66d, "01UPWARDS,01RIGHTWARDS,01DOWNWARDS,00SCRIPT LIGATURE ET ORNAMENT"),
    (0x1f671, "04HEAVY,02LIGATURE OPEN,04HEAVY,11AMPERSAND,02SWASH"),
    (0x1f676, "01SANS-SERIF HEAVY DOUBLE TURNED COMMA QUOTATION MARK,34,25LOW"),
    (0x1f679, "01HEAVY INTERROBANG,02SANS-SERIF,03HEAVY,00VERY HEAVY SOLIDUS"),
    (0x1f67d, "21REVERSE,00CHECKER BOARD,02REVERSE,00ROCKET,00HELICOPTER"),
    (0x1f682, "00STEAM LOCOMOTIVE,00RAILWAY CAR,00HIGH-SPEED TRAIN,20WITH BULLET NOSE"),
    (0x1f686, "00TRAIN,00METRO,00LIGHT RAIL,00STATION,00TRAM,10CAR,00BUS,01ONCOMING"),
    (0x1f68e, "00TROLLEYBUS,00BUS STOP,00MINIBUS,00AMBULANCE,00FIRE ENGINE"),
    (0x1f693, "00POLICE CAR,02ONCOMING,00TAXI,01ONCOMING,00AUTOMOBILE,01ONCOMING"),
    (0x1f699, "00RECREATIONAL VEHICLE,00DELIVERY TRUCK,00ARTICULATED LORRY,00TRACTOR"),
    (0x1f69d, "00MONORAIL,00MOUNTAIN RAILWAY,01SUSPENSION,00MOUNTAIN CABLEWAY"),
    (0x1f6a1, "00AERIAL TRAMWAY,00SHIP,00ROWBOAT,00SPEEDBOAT"),
    (0x1f6a5, "00HORIZONTAL TRAFFIC LIGHT,02VERTICAL,00CONSTRUCTION SIGN"),
    (0x1f6a8, "00POLICE CARS REVOLVING LIGHT,00TRIANGULAR FLAG ON POST,00DOOR"),
    (0x1f6ab, "00NO ENTRY SIGN,00SMOKING SYMBOL,02NO,01PUT LITTER IN ITS PLACE"),
    (0x1f6af, "01DO NOT LITTER,01POTABLE WATER,02NON-POTABLE,00BICYCLE,00NO BICYCLES"),
    (0x1f6b4, "00BICYCLIST,01MOUNTAIN,00PEDESTRIAN,00NO PEDESTRIANS"),
    (0x1f6b8, "00CHILDREN CROSSING,00MENS SYMBOL,01WOMENS,00RESTROOM,00BABY SYMBOL"),
    (0x1f6bd, "00TOILET,00WATER CLOSET,00SHOWER,00BATH,00BATHTUB,00PASSPORT CONTROL"),
    (0x1f6c3, "00CUSTOMS,00BAGGAGE CLAIM,00LEFT LUGGAGE"),
    (0x1f6c6, "00TRIANGLE WITH ROUNDED CORNERS,00PROHIBITED SIGN"),
    (0x1f6c8, "00CIRCLED INFORMATION SOURCE,00BOYS SYMBOL,01GIRLS,00COUCH AND LAMP"),
    (0x1f6cc, "00SLEEPING ACCOMMODATION,00SHOPPING BAGS,00BELLHOP BELL,00BED"),
    (0x1f6d0, "00PLACE OF WORSHIP,00OCTAGONAL SIGN,00SHOPPING TROLLEY,00STUPA"),
    (0x1f6d4, "00PAGODA,00HINDU TEMPLE,00HUT,00ELEVATOR"),
    (0x1f6dd, "00PLAYGROUND SLIDE,00WHEEL,00RING BUOY,00HAMMER AND WRENCH,00SHIELD"),
    (0x1f6e2, "00OIL DRUM,00MOTORWAY,00RAILWAY TRACK,00MOTOR BOAT"),
    (0x1f6e6, "00UP-POINTING MILITARY AIRPLANE,11,11SMALL,02,01NORTHEAST-POINTING"),
    (0x1f6eb, "00AIRPLANE DEPARTURE,10ARRIVING"),
    (0x1f6f0, "00SATELLITE,00ONCOMING FIRE ENGINE,00DIESEL LOCOMOTIVE"),
    (0x1f6f3, "00PASSENGER SHIP,00SCOOTER,01MOTOR,00CANOE,00SLED,00FLYING SAUCER"),
    (0x1f6f9, "00SKATEBOARD,00AUTO RICKSHAW,00PICKUP TRUCK,00ROLLER SKATE"),
    (0x1f700, "00ALCHEMICAL SYMBOL FOR QUINTESSENCE,30AIR,30FIRE,30EARTH,30WATER"),
    (0x1f705, "30AQUAFORTIS,30AQUA REGIA,40REGIA-2,40VITAE,40VITAE-2,30VINEGAR"),
    (0x1f70b, "30VINEGAR-2,30VINEGAR-3,30SULFUR,31PHILOSOPHERS,31BLACK"),
    (0x1f710, "30MERCURY SUBLIMATE,40SUBLIMATE-2,40SUBLIMATE-3,30CINNABAR,30SALT"),
    (0x1f715, "30NITRE,30VITRIOL,30VITRIOL-2,30ROCK SALT,40SALT-2,30GOLD,30SILVER"),
    (0x1f71c, "30IRON ORE,40ORE-2,30CROCUS OF IRON,32REGULUS,30COPPER ORE"),
    (0x1f721, "31IRON-COPPER,30SUBLIMATE OF COPPER,32CROCUS,50COPPER-2"),
    (0x1f725, "30COPPER ANTIMONIATE,32SALT OF,30SUBLIMATE OF SALT OF COPPER"),
    (0x1f728, "30VERDIGRIS,30TIN ORE,31LEAD,31ANTIMONY,30SUBLIMATE OF ANTIMONY,32SALT"),
    (0x1f72e, "33SUBLIMATE OF,32VINEGAR,32REGULUS,50ANTIMONY-2,40,30REGULUS-2"),
    (0x1f734, "30REGULUS-3,30REGULUS-4,30ALKALI,30ALKALI-2,30MARCASITE,30SAL-AMMONIAC"),
    (0x1f73a, "30ARSENIC,30REALGAR,30REALGAR-2,30AURIPIGMENT,30BISMUTH ORE,30TARTAR"),
    (0x1f740, "30TARTAR-2,30QUICK LIME,30BORAX,30BORAX-2,30BORAX-3,30ALUM,30OIL"),
    (0x1f747, "30SPIRIT,30TINCTURE,30GUM,30WAX,30POWDER,30CALX,30TUTTY"),
    (0x1f74e, "30CAPUT MORTUUM,30SCEPTER OF JOVE,30CADUCEUS,30TRIDENT,31STARRED"),
    (0x1f753, "30LODESTONE,30SOAP,30URINE,30HORSE DUNG,30ASHES,31POT,30BRICK"),
    (0x1f75a, "31POWDERED,30AMALGAM,30STRATUM SUPER STRATUM,50STRATUM-2,30SUBLIMATION"),
    (0x1f75f, "30PRECIPITATE,30DISTILL,30DISSOLVE,30DISSOLVE-2,30PURIFY"),
    (0x1f764, "30PUTREFACTION,30CRUCIBLE,30CRUCIBLE-2,30CRUCIBLE-3,30CRUCIBLE-4"),
    (0x1f769, "30CRUCIBLE-5,30ALEMBIC,30BATH OF MARY,50VAPOURS,30RETORT,30HOUR"),
    (0x1f76f, "30NIGHT,30DAY-NIGHT,30MONTH,30HALF DRAM,40OUNCE"),
    (0x1f780, "00BLACK LEFT-POINTING ISOSCELES RIGHT TRIANGLE,13UP-POINTING"),
    (0x1f782, "13RIGHT-POINTING,13DOWN-POINTING,10SLIGHTLY SMALL CIRCLE"),
    (0x1f785, "01MEDIUM BOLD WHITE,03,02HEAVY,03VERY,03EXTREMELY"),
    (0x1f78a, "01WHITE CIRCLE CONTAINING BLACK SMALL,00ROUND TARGET"),
    (0x1f78c, "00BLACK TINY SQUARE,11SLIGHTLY SMALL,01LIGHT WHITE,02MEDIUM,02BOLD"),
    (0x1f791, "02HEAVY,03VERY,03EXTREMELY,01WHITE SQUARE CONTAINING BLACK VERY SMALL"),
    (0x1f795, "41MEDIUM,00SQUARE TARGET,00BLACK TINY DIAMOND,11VERY SMALL,12MEDIUM"),
    (0x1f79a, "02WHITE DIAMOND CONTAINING BLACK VERY,41MEDIUM,00DIAMOND TARGET"),
    (0x1f79d, "00BLACK TINY LOZENGE,11VERY SMALL,12MEDIUM"),
    (0x1f7a0, "02WHITE LOZENGE CONTAINING BLACK,00THIN GREEK CROSS,02LIGHT,02MEDIUM"),
    (0x1f7a4, "02BOLD,03VERY,12HEAVY,03EXTREMELY,00THIN SALTIRE,01LIGHT,01MEDIUM"),
    (0x1f7ab, "01BOLD,01HEAVY,02VERY,02EXTREMELY,00LIGHT FIVE SPOKED ASTERISK"),
    (0x1f7b0, "03MEDIUM,03BOLD,03HEAVY,04VERY,04EXTREMELY,02LIGHT SIX,03MEDIUM,03BOLD"),
    (0x1f7b8, "03HEAVY,04VERY,04EXTREMELY,02LIGHT EIGHT,03MEDIUM,03BOLD,03HEAVY"),
    (0x1f7bf, "04VERY,00LIGHT THREE POINTED BLACK STAR,04MEDIUM,04"),
    (0x1f7c3, "01MEDIUM THREE POINTED PINWHEEL,01LIGHT FOUR POINTED BLACK,04MEDIUM,04"),
    (0x1f7c7, "01MEDIUM FOUR POINTED PINWHEEL,04REVERSE LIGHT"),
    (0x1f7c9, "01LIGHT FIVE POINTED BLACK,04HEAVY,03MEDIUM SIX,04HEAVY"),
    (0x1f7cd, "01SIX POINTED PINWHEEL,01MEDIUM EIGHT POINTED BLACK,04HEAVY,05VERY"),
    (0x1f7d1, "01HEAVY EIGHT POINTED PINWHEEL,01LIGHT TWELVE POINTED BLACK,04HEAVY"),
    (0x1f7d4, "31PINWHEEL,00CIRCLED TRIANGLE,02NEGATIVE,00CIRCLED SQUARE,02NEGATIVE"),
    (0x1f7e0, "00LARGE ORANGE CIRCLE,11YELLOW,11GREEN,11PURPLE,11BROWN,10RED SQUARE"),
    (0x1f7e6, "11BLUE,11ORANGE,11YELLOW,11GREEN,11PURPLE,11BROWN"),
    (0x1f7f0, "00HEAVY EQUALS SIGN"),
    (0x1f800, "00LEFTWARDS ARROW WITH SMALL TRIANGLE ARROWHEAD,05UPWARDS,05RIGHTWARDS"),
    (0x1f803, "05DOWNWARDS,02LEFTWARDS ARROW WITH MEDIUM,05UPWARDS,05RIGHTWARDS"),
    (0x1f807, "05DOWNWARDS,02LEFTWARDS ARROW WITH LARGE,05UPWARDS,05RIGHTWARDS"),
    (0x1f80b, "05DOWNWARDS"),
    (0x1f810, "01LEFTWARDS ARROW WITH SMALL EQUILATERAL,05UPWARDS,05RIGHTWARDS"),
    (0x1f813, "05DOWNWARDS,02LEFTWARDS ARROW WITH,04UPWARDS,04RIGHTWARDS,04DOWNWARDS"),
    (0x1f818, "04HEAVY LEFTWARDS,14UPWARDS,14RIGHTWARDS,14DOWNWARDS"),
    (0x1f81c, "12LEFTWARDS ARROW WITH LARGE,15UPWARDS,15RIGHTWARDS,15DOWNWARDS"),
    (0x1f820, "00LEFTWARDS TRIANGLE-HEADED ARROW WITH NARROW SHAFT,05UPWARDS"),
    (0x1f822, "05RIGHTWARDS,05DOWNWARDS,01LEFTWARDS TRIANGLE-HEADED ARROW WITH MEDIUM"),
    (0x1f825, "05UPWARDS,05RIGHTWARDS,05DOWNWARDS"),
    (0x1f828, "01LEFTWARDS TRIANGLE-HEADED ARROW WITH BOLD,05UPWARDS,05RIGHTWARDS"),
    (0x1f82b, "05DOWNWARDS,01LEFTWARDS TRIANGLE-HEADED ARROW WITH HEAVY,05UPWARDS"),
    (0x1f82e, "05RIGHTWARDS,05DOWNWARDS,02LEFTWARDS TRIANGLE-HEADED ARROW WITH VERY"),
    (0x1f831, "06UPWARDS,06RIGHTWARDS,06DOWNWARDS,00LEFTWARDS FINGER-POST ARROW"),
    (0x1f835, "02UPWARDS,02RIGHTWARDS,02DOWNWARDS,01LEFTWARDS SQUARED,02UPWARDS"),
    (0x1f83a, "02RIGHTWARDS,02DOWNWARDS,01LEFTWARDS COMPRESSED,02UPWARDS,02RIGHTWARDS"),
    (0x1f83f, "02DOWNWARDS,02LEFTWARDS HEAVY,03UPWARDS,03RIGHTWARDS,03DOWNWARDS"),
    (0x1f844, "01LEFTWARDS HEAVY,02UPWARDS,02RIGHTWARDS,02DOWNWARDS"),
    (0x1f850, "01LEFTWARDS SANS-SERIF,02UPWARDS,02RIGHTWARDS,02DOWNWARDS,02NORTH WEST"),
    (0x1f855, "12EAST,03SOUTH,12WEST,02LEFT RIGHT,02UP DOWN"),
    (0x1f860, "01WIDE-HEADED LEFTWARDS LIGHT BARB,13UPWARDS,13RIGHTWARDS,13DOWNWARDS"),
    (0x1f864, "13NORTH WEST,23EAST,14SOUTH,23WEST,12LEFTWARDS,12UPWARDS,12RIGHTWARDS"),
    (0x1f86b, "12DOWNWARDS,12NORTH WEST,22EAST,13SOUTH,22WEST,12LEFTWARDS MEDIUM"),
    (0x1f871, "13UPWARDS,13RIGHTWARDS,13DOWNWARDS,13NORTH WEST,23EAST,14SOUTH,23WEST"),
    (0x1f878, "12LEFTWARDS HEAVY,13UPWARDS,13RIGHTWARDS,13DOWNWARDS,13NORTH WEST"),
    (0x1f87d, "23EAST,14SOUTH,23WEST,13LEFTWARDS VERY,14UPWARDS,14RIGHTWARDS"),
    (0x1f883, "14DOWNWARDS,14NORTH WEST,24EAST,15SOUTH,24WEST"),
    (0x1f890, "00LEFTWARDS TRIANGLE ARROWHEAD,02UPWARDS,02RIGHTWARDS,02DOWNWARDS"),
    (0x1f894, "02LEFTWARDS WHITE ARROW WITHIN,05UPWARDS,05RIGHTWARDS,05DOWNWARDS"),
    (0x1f898, "00LEFTWARDS ARROW WITH NOTCHED TAIL,04UPWARDS,04RIGHTWARDS,04DOWNWARDS"),
    (0x1f89c, "00HEAVY ARROW SHAFT WIDTH ONE,40TWO THIRDS,40ONE HALF,50THIRD"),
    (0x1f8a0, "00LEFTWARDS BOTTOM-SHADED WHITE ARROW,02RIGHTWARDS BOTTOM SHADED"),
    (0x1f8a2, "03LEFTWARDS TOP,04RIGHTWARDS,02LEFTWARDS LEFT-SHADED"),
    (0x1f8a5, "02RIGHTWARDS RIGHT-SHADED,03LEFTWARDS,02RIGHTWARDS LEFT-SHADED"),
    (0x1f8a8, "02LEFTWARDS BACK-TILTED SHADOWED,04RIGHTWARDS,03LEFTWARDS FRONT-TILTED"),
    (0x1f8ab, "04RIGHTWARDS,00WHITE ARROW SHAFT WIDTH ONE,40TWO THIRDS"),
    (0x1f8b0, "00ARROW POINTING UPWARDS THEN NORTH WEST"),
    (0x1f8b1, "21RIGHTWARDS THEN CURVING SOUTH"),
    (0x1f900, "00CIRCLED CROSS FORMEE WITH FOUR DOTS,41TWO,30"),
    (0x1f903, "00LEFT HALF CIRCLE WITH FOUR DOTS,41THREE,41TWO,40DOT,30"),
    (0x1f908, "00DOWNWARD FACING HOOK,21NOTCHED,20HOOK WITH DOT,23NOTCHED"),
    (0x1f90c, "00PINCHED FINGERS,00WHITE HEART,01BROWN,00PINCHING HAND"),
    (0x1f910, "00ZIPPER-MOUTH FACE,01MONEY-MOUTH,00FACE WITH THERMOMETER,00NERD FACE"),
    (0x1f914, "01THINKING,00FACE WITH HEAD-BANDAGE,00ROBOT FACE,01HUGGING"),
    (0x1f918, "00SIGN OF THE HORNS,00CALL ME HAND,01RAISED BACK OF,00LEFT-FACING FIST"),
    (0x1f91c, "01RIGHT-FACING,00HANDSHAKE"),
    (0x1f91e, "00HAND WITH INDEX AND MIDDLE FINGERS CROSSED,00I LOVE YOU HAND SIGN"),
    (0x1f920, "00FACE WITH COWBOY HAT,00CLOWN FACE,01NAUSEATED"),
    (0x1f923, "00ROLLING ON THE FLOOR LAUGHING,00DROOLING FACE,01LYING,00FACE PALM"),
    (0x1f927, "00SNEEZING FACE,00FACE WITH ONE EYEBROW RAISED"),
    (0x1f929, "00GRINNING FACE WITH STAR EYES,30ONE LARGE AND ONE SMALL EYE"),
    (0x1f92b, "00FACE WITH FINGER COVERING CLOSED LIPS"),
    (0x1f92c, "00SERIOUS FACE WITH SYMBOLS COVERING MOUTH"),
    (0x1f92d, "02SMILING FACE WITH SMILING EYES AND HAND"),
    (0x1f92e, "00FACE WITH OPEN MOUTH VOMITING,00SHOCKED FACE WITH EXPLODING HEAD"),
    (0x1f930, "00PREGNANT WOMAN,00BREAST-FEEDING,00PALMS UP TOGETHER,00SELFIE"),
    (0x1f934, "00PRINCE,00MAN IN TUXEDO,00MOTHER CHRISTMAS,00SHRUG"),
    (0x1f938, "00PERSON DOING CARTWHEEL,00JUGGLING,00FENCER,00MODERN PENTATHLON"),
    (0x1f93c, "00WRESTLERS,00WATER POLO,00HANDBALL,00DIVING MASK,00WILTED FLOWER"),
    (0x1f941, "00DRUM WITH DRUMSTICKS,00CLINKING GLASSES,00TUMBLER GLASS,00SPOON"),
    (0x1f945, "00GOAL NET,00RIFLE,00FIRST PLACE MEDAL,02SECOND,02THIRD,00BOXING GLOVE"),
    (0x1f94b, "00MARTIAL ARTS UNIFORM,00CURLING STONE,00LACROSSE STICK AND BALL"),
    (0x1f94e, "00SOFTBALL,00FLYING DISC,00CROISSANT,00AVOCADO,00CUCUMBER,00BACON"),
    (0x1f954, "00POTATO,00CARROT,00BAGUETTE BREAD,00GREEN SALAD,00SHALLOW PAN OF FOOD"),
    (0x1f959, "00STUFFED FLATBREAD,00EGG,00GLASS OF MILK,00PEANUTS,00KIWIFRUIT"),
    (0x1f95e, "00PANCAKES,00DUMPLING,00FORTUNE COOKIE,00TAKEOUT BOX,00CHOPSTICKS"),
    (0x1f963, "00BOWL WITH SPOON,00CUP WITH STRAW,00COCONUT,00BROCCOLI,00PIE"),
    (0x1f968, "00PRETZEL,00CUT OF MEAT,00SANDWICH,00CANNED FOOD,00LEAFY GREEN,00MANGO"),
    (0x1f96e, "00MOON CAKE,00BAGEL,00SMILING FACE WITH SMILING EYES AND THREE HEARTS"),
    (0x1f971, "00YAWNING FACE,00SMILING FACE WITH TEAR"),
    (0x1f973, "00FACE WITH PARTY HORN AND PARTY HAT,20UNEVEN EYES AND WAVY MOUTH"),
    (0x1f975, "00OVERHEATED FACE,01FREEZING,00NINJA,00DISGUISED FACE"),
    (0x1f979, "00FACE HOLDING BACK TEARS,10WITH PLEADING EYES,00SARI,00LAB COAT"),
    (0x1f97d, "00GOGGLES,00HIKING BOOT,00FLAT SHOE,00CRAB,00LION FACE,00SCORPION"),
    (0x1f983, "00TURKEY,00UNICORN FACE,00EAGLE,00DUCK,00BAT,00SHARK,00OWL,00FOX FACE"),
    (0x1f98b, "00BUTTERFLY,00DEER,00GORILLA,00LIZARD,00RHINOCEROS,00SHRIMP,00SQUID"),
    (0x1f992, "00GIRAFFE FACE,01ZEBRA,00HEDGEHOG,00SAUROPOD,00T-REX,00CRICKET"),
    (0x1f998, "00KANGAROO,00LLAMA,00PEACOCK,00HIPPOPOTAMUS,00PARROT,00RACCOON"),
    (0x1f99e, "00LOBSTER,00MOSQUITO,00MICROBE,00BADGER,00SWAN,00MAMMOTH,00DODO"),
    (0x1f9a5, "00SLOTH,00OTTER,00ORANGUTAN,00SKUNK,00FLAMINGO,00OYSTER,00BEAVER"),
    (0x1f9ac, "00BISON,00SEAL,00GUIDE DOG,00PROBING CANE,00EMOJI COMPONENT RED HAIR"),
    (0x1f9b1, "21CURLY,20BALD,20WHITE HAIR,00BONE,00LEG,00FOOT,00TOOTH,00SUPERHERO"),
    (0x1f9b9, "00SUPERVILLAIN,00SAFETY VEST,00EAR WITH HEARING AID"),
    (0x1f9bc, "00MOTORIZED WHEELCHAIR,01MANUAL,00MECHANICAL ARM,10LEG,00CHEESE WEDGE"),
    (0x1f9c1, "00CUPCAKE,00SALT SHAKER,00BEVERAGE BOX,00GARLIC,00ONION,00FALAFEL"),
    (0x1f9c7, "00WAFFLE,00BUTTER,00MATE DRINK,00ICE CUBE,00BUBBLE TEA,00TROLL"),
    (0x1f9cd, "00STANDING PERSON,01KNEELING,01DEAF,00FACE WITH MONOCLE,00ADULT"),
    (0x1f9d2, "00CHILD,00OLDER ADULT,00BEARDED PERSON,00PERSON WITH HEADSCARF"),
    (0x1f9d6, "10IN STEAMY ROOM,10CLIMBING,10IN LOTUS POSITION,00MAGE,00FAIRY"),
    (0x1f9db, "00VAMPIRE,00MERPERSON,00ELF,00GENIE,00ZOMBIE,00BRAIN,00ORANGE HEART"),
    (0x1f9e2, "00BILLED CAP,00SCARF,00GLOVES,00COAT,00SOCKS,00RED GIFT ENVELOPE"),
    (0x1f9e8, "00FIRECRACKER,00JIGSAW PUZZLE PIECE,00TEST TUBE,00PETRI DISH"),
    (0x1f9ec, "00DNA DOUBLE HELIX,00COMPASS,00ABACUS,00FIRE EXTINGUISHER,00TOOLBOX"),
    (0x1f9f1, "00BRICK,00MAGNET,00LUGGAGE,00LOTION BOTTLE,00SPOOL OF THREAD"),
    (0x1f9f6, "00BALL OF YARN,00SAFETY PIN,00TEDDY BEAR,00BROOM,00BASKET"),
    (0x1f9fb, "00ROLL OF PAPER,00BAR OF SOAP,00SPONGE,00RECEIPT,00NAZAR AMULET"),
    (0x1fa00, "00NEUTRAL CHESS KING,20QUEEN,20ROOK,20BISHOP,20KNIGHT,20PAWN"),
    (0x1fa06, "00WHITE CHESS KNIGHT ROTATED FORTY-FIVE DEGREES,05BLACK,05NEUTRAL"),
    (0x1fa09, "01WHITE CHESS KING ROTATED NINETY,23QUEEN,23ROOK,23BISHOP,23KNIGHT"),
    (0x1fa0e, "23PAWN,03BLACK CHESS KING,23QUEEN,23ROOK,23BISHOP,23KNIGHT,23PAWN"),
    (0x1fa15, "03NEUTRAL CHESS KING,23QUEEN,23ROOK,23BISHOP,23KNIGHT,23PAWN"),
    (0x1fa1b, "01WHITE CHESS KNIGHT ROTATED ONE HUNDRED THIRTY-FIVE,07BLACK,07NEUTRAL"),
    (0x1fa1e, "00WHITE CHESS TURNED KING,30QUEEN,30ROOK,30BISHOP,30KNIGHT,30PAWN"),
    (0x1fa24, "00BLACK CHESS TURNED KING,30QUEEN,30ROOK,30BISHOP,30KNIGHT,30PAWN"),
    (0x1fa2a, "00NEUTRAL CHESS TURNED KING,30QUEEN,30ROOK,30BISHOP,30KNIGHT,30PAWN"),
    (0x1fa30, "00WHITE CHESS KNIGHT ROTATED TWO HUNDRED TWENTY-FIVE DEGREES,07BLACK"),
    (0x1fa32, "07NEUTRAL,01WHITE CHESS KING ROTATED TWO HUNDRED SEVENTY,25QUEEN"),
    (0x1fa35, "25ROOK,25BISHOP,25KNIGHT,25PAWN,05BLACK CHESS KING,25QUEEN,25ROOK"),
    (0x1fa3c, "25BISHOP,25KNIGHT,25PAWN,05NEUTRAL CHESS KING,25QUEEN,25ROOK,25BISHOP"),
    (0x1fa43, "25KNIGHT,25PAWN,01WHITE CHESS KNIGHT ROTATED THREE HUNDRED FIFTEEN"),
    (0x1fa46, "07BLACK,07NEUTRAL,00WHITE CHESS EQUIHOPPER,02BLACK,02NEUTRAL"),
    (0x1fa4b, "00WHITE CHESS EQUIHOPPER ROTATED NINETY DEGREES,05BLACK,05NEUTRAL"),
    (0x1fa4e, "00WHITE CHESS KNIGHT-QUEEN,20KNIGHT-ROOK,20KNIGHT-BISHOP"),
    (0x1fa51, "00BLACK CHESS KNIGHT-QUEEN,20KNIGHT-ROOK,20KNIGHT-BISHOP"),
    (0x1fa60, "00XIANGQI RED GENERAL,20MANDARIN,20ELEPHANT,20HORSE,20CHARIOT,20CANNON"),
    (0x1fa66, "20SOLDIER,10BLACK GENERAL,20MANDARIN,20ELEPHANT,20HORSE,20CHARIOT"),
    (0x1fa6c, "20CANNON,20SOLDIER"),
    (0x1fa70, "00BALLET SHOES,00ONE-PIECE SWIMSUIT,00BRIEFS,00SHORTS,00THONG SANDAL"),
    (0x1fa78, "00DROP OF BLOOD,00ADHESIVE BANDAGE,00STETHOSCOPE,00X-RAY,00CRUTCH"),
    (0x1fa80, "00YO-YO,00KITE,00PARACHUTE,00BOOMERANG,00MAGIC WAND,00PINATA"),
    (0x1fa86, "00NESTING DOLLS"),
    (0x1fa90, "00RINGED PLANET,00CHAIR,00RAZOR,00AXE,00DIYA LAMP,00BANJO"),
    (0x1fa96, "00MILITARY HELMET,00ACCORDION,00LONG DRUM,00COIN,00CARPENTRY SAW"),
    (0x1fa9b, "00SCREWDRIVER,00LADDER,00HOOK,00MIRROR,00WINDOW,00PLUNGER"),
    (0x1faa1, "00SEWING NEEDLE,00KNOT,00BUCKET,00MOUSE TRAP,00TOOTHBRUSH,00HEADSTONE"),
    (0x1faa7, "00PLACARD,00ROCK,00MIRROR BALL,00IDENTIFICATION CARD,00LOW BATTERY"),
    (0x1faac, "00HAMSA"),
    (0x1fab0, "00FLY,00WORM,00BEETLE,00COCKROACH,00POTTED PLANT,00WOOD,00FEATHER"),
    (0x1fab7, "00LOTUS,00CORAL,00EMPTY NEST,00NEST WITH EGGS"),
    (0x1fac0, "00ANATOMICAL HEART,00LUNGS,00PEOPLE HUGGING,00PREGNANT MAN,10PERSON"),
    (0x1fac5, "00PERSON WITH CROWN"),
    (0x1fad0, "00BLUEBERRIES,00BELL PEPPER,00OLIVE,00FLATBREAD,00TAMALE,00FONDUE"),
    (0x1fad6, "00TEAPOT,00POURING LIQUID,00BEANS,00JAR"),
    (0x1fae0, "00MELTING FACE,01SALUTING,00FACE WITH OPEN EYES AND HAND OVER MOUTH"),
    (0x1fae3, "20PEEKING EYE,20DIAGONAL MOUTH,00DOTTED LINE FACE,00BITING LIP"),
    (0x1fae7, "00BUBBLES"),
    (0x1faf0, "00HAND WITH INDEX FINGER AND THUMB CROSSED,00RIGHTWARDS HAND"),
    (0x1faf2, "01LEFTWARDS,01PALM DOWN,11UP,00INDEX POINTING AT THE VIEWER"),
    (0x1faf6, "00HEART HANDS")]

end Text
end KindExpr
