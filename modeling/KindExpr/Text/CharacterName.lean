import KindExpr.Text.CharacterName.AncientScripts
import KindExpr.Text.CharacterName.Further
import KindExpr.Text.CharacterName.FurtherScripts
import KindExpr.Text.CharacterName.Ideographs
import KindExpr.Text.CharacterName.Letters
import KindExpr.Text.CharacterName.Notations
import KindExpr.Text.CharacterName.Pictographs
import KindExpr.Text.CharacterName.SouthernScripts
import KindExpr.Text.CharacterName.Symbols
import KindExpr.Text.Digit

/-!
# Names of characters

A character can be named instead of written. Most names are listed, in packs; some are
made of a number, and those of Hangul syllables of the letters of the syllable. Case
makes no difference except in the names of unified ideographs and of Hangul syllables.

All names are made of letters, digits, spaces and hyphens.
-/

namespace KindExpr
namespace Text

/-! ## Packed names -/

/-- A name in a pack: how many words it shares with the start and with the end of
the name before it, each as a digit, and the words between them. -/
def unpackName (previous : List String) (packed : List Char) : List String :=
  match packed with
  | first :: last :: middle =>
      let shared := digitsToNat 10 [first]
      let kept := digitsToNat 10 [last]
      let words := if middle.isEmpty then [] else (String.ofList middle).splitOn " "
      previous.take shared ++ words ++ previous.drop (previous.length - kept)
  | _ => previous

/-- Look for a name in the packed names of a run. Without success the last name of
the run is handed over. -/
def findInRun (target : List String) :
    Nat → List String → List String → Sum Nat (List String)
  | _, previous, [] => .inr previous
  | code, previous, packed :: rest =>
      let name := unpackName previous packed.toList
      if name = target then .inl code else findInRun target (code + 1) name rest

/-- Look for a name in packed names. -/
def findPacked? (target : List String) : List String → List (Nat × String) → Option Nat
  | _, [] => none
  | previous, (first, run) :: rest =>
      match findInRun target first previous (run.splitOn ",") with
      | .inl code => some code
      | .inr last => findPacked? target last rest

/-! ## Names that are made -/

/-- The number that some digits write in a base, if they write it with at
least so many digits and no zero in front beyond that, and with capitals
for digits that are letters. -/
def writtenNumber? (base width : Nat) (digits : List Char) : Option Nat :=
  let number := digitsToNat base (digits.map .char)
  let plain := (Nat.toDigits base number).map Char.toUpper
  let written := List.replicate (width - plain.length) '0' ++ plain
  if digits = written then some number else none

/-- The ranges of the ideographs that are named by their code points. -/
def ideographRanges : List (Nat × Nat) :=
  [(0x3400, 0x4dbf), (0x4e00, 0x9fff), (0x20000, 0x2a6df), (0x2a700, 0x2b738),
    (0x2b740, 0x2b81d), (0x2b820, 0x2cea1), (0x2ceb0, 0x2ebe0), (0x30000, 0x3134a)]

/-- The code point of an ideograph that is named by it. Four
or five digits stand for it. -/
def ideographCode? (name : String) : Option Nat :=
  let start := "CJK UNIFIED IDEOGRAPH-"
  let digits := name.toList.drop start.length
  let code := digitsToNat 16 (digits.map .char)
  let isNamed := name.toList.take start.length = start.toList &&
    (digits.length = 4 || digits.length = 5) &&
    digits.all fun c => isAsciiDigit c || ('A' ≤ c && c ≤ 'F')
  if isNamed && ideographRanges.any fun range => range.1 ≤ code &&
    code ≤ range.2 then some code
  else none

/-- Characters that are named by a number. -/
structure NumberedNames where
  /-- What stands in front of the number. -/
  start : String
  /-- The base of the number, and how many digits it has at least. -/
  base : Nat
  width : Nat
  /-- The number of the first of these characters. -/
  first : Nat
  /-- The code points of the first and the last one. -/
  codes : Nat × Nat

/-- The names with numbers. -/
def numberedNames : List NumberedNames :=
  [⟨"CJK COMPATIBILITY IDEOGRAPH-", 16, 4, 0xf900, (0xf900, 0xfa6d)⟩,
    ⟨"CJK COMPATIBILITY IDEOGRAPH-", 16, 4, 0xfa70, (0xfa70, 0xfad9)⟩,
    ⟨"CJK COMPATIBILITY IDEOGRAPH-", 16, 4, 0x2f800, (0x2f800, 0x2fa1d)⟩,
    ⟨"TANGUT COMPONENT-", 10, 3, 1, (0x18800, 0x18aff)⟩,
    ⟨"KHITAN SMALL SCRIPT CHARACTER-", 16, 4, 0x18b00, (0x18b00, 0x18cd5)⟩,
    ⟨"NUSHU CHARACTER-", 16, 4, 0x1b170, (0x1b170, 0x1b2fb)⟩,
    ⟨"VARIATION SELECTOR-", 10, 1, 17, (0xe0100, 0xe01ef)⟩,
    ⟨"VS", 10, 1, 1, (0xfe00, 0xfe0f)⟩, ⟨"VS", 10, 1, 17, (0xe0100, 0xe01ef)⟩]

/-- The code point of a character that is named by a number. -/
def numberedCode? (name : String) : Option Nat :=
  numberedNames.findSome? fun names =>
    if name.toList.take names.start.length = names.start.toList then
      match writtenNumber? names.base names.width
        (name.toList.drop names.start.length) with
      | some number =>
          let code := number - names.first + names.codes.1
          if names.first ≤ number && code ≤ names.codes.2 then some code else none
      | none => none
    else none

/-- The names of the first letters of Hangul syllables. -/
def syllableStarts : List String :=
  ["G", "GG", "N", "D", "DD", "R", "M", "B", "BB", "S", "SS", "", "J", "JJ", "C",
    "K", "T", "P",
    "H"]

/-- The names of the vowels of Hangul syllables. -/
def syllableVowels : List String :=
  ["A", "AE", "YA", "YAE", "EO", "E", "YEO", "YE", "O", "WA", "WAE", "OE", "YO", "U",
    "WEO", "WE",
    "WI", "YU", "EU", "YI", "I"]

/-- The names of the last letters of Hangul syllables. -/
def syllableEnds : List String :=
  ["", "G", "GG", "GS", "N", "NJ", "NH", "D", "L", "LG", "LM", "LB", "LS", "LT",
    "LP", "LH", "M",
    "B", "BS", "S", "SS", "NG", "J", "C", "K", "T", "P", "H"]

/-- The code point of a Hangul syllable. -/
def syllableCode? (name : String) : Option Nat :=
  let start := "HANGUL SYLLABLE "
  if name.toList.take start.length ≠ start.toList then none
  else
    let letters := String.ofList (name.toList.drop start.length)
    let found := syllableStarts.zipIdx.findSome? fun (first, i) =>
      syllableVowels.zipIdx.findSome? fun (vowel, j) =>
        syllableEnds.zipIdx.findSome? fun (last, k) =>
          if first ++ vowel ++ last = letters then some ((i * 21 + j) * 28 + k) else none
    found.map fun index => 0xac00 + index

/-! ## All names -/

/-- The packs of names. -/
def namePacks : List (List (Nat × String)) :=
  [letterNames, symbolNames, pictographNames, westernScriptNames, indicScriptNames,
    monsoonScriptNames, syllableScriptNames, islandScriptNames, phoneticNames,
    supplementaryNames, yiNames, planeEndNames, arabicFormNames, radicalNames,
    enclosedNames,
    linearNames, easternAlphabetNames, brahmiNames, cuneiformNames, hieroglyphNames,
    lateScriptNames, kanaSupplementNames, musicNames, movementNames, countNames,
    computerNames,
    tagNames]

/-- Whether a character can stand in a name. -/
def isNaming (c : Char) : Bool :=
  isAsciiLetter c || isAsciiDigit c || c = ' ' || c = '-'

/-- The number of the code point with a name of characters. A name with other
characters is not looked for. -/
def codeOfNaming? (name : String) : Option Nat :=
  let capital := name.map Char.toUpper
  let words := capital.splitOn " "
  if name.toList.all isNaming then
    (ideographCode? name).or <| (syllableCode? name).or <|
      (furtherNames.lookup capital).or <|
      (numberedCode? capital).or <| namePacks.findSome? (findPacked? words [])
  else none

/-- The number of the code point with a name. -/
def codeOfName? (name : Text) : Option Nat :=
  name.string?.bind codeOfNaming?

end Text
end KindExpr
