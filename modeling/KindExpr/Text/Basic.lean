/-!
# Texts

A text is a sequence of code points. A code point is a character or one of the
surrogates, which stand for no character: an escape can name one, so that a text
can hold it, but it has no encoding and so cannot be written to a stream.

A class of code points is a list of closed ranges. Every table of this folder is
such a list, and membership is one scan of it.
-/

namespace KindExpr

/-- A code point. -/
inductive Code where
  | char (c : Char)
  | surrogate (index : Fin 2048)
  deriving Repr, DecidableEq

namespace Code

instance : Inhabited Code := ⟨char default⟩

instance : Coe Char Code := ⟨char⟩

/-- The code of the first surrogate. -/
def firstSurrogate : Nat := 0xd800

/-- The number of a code point. -/
def toNat : Code → Nat
  | char c => c.toNat
  | surrogate index => firstSurrogate + index

/-- The code point of a number. A number beyond all code points is
that of the character zero. -/
def ofNat (number : Nat) : Code :=
  if isSurrogate : firstSurrogate ≤ number ∧ number < firstSurrogate + 2048 then
    surrogate ⟨number - firstSurrogate, by omega⟩
  else char (Char.ofNat number)

instance : LE Code := ⟨fun first second => first.toNat ≤ second.toNat⟩

instance (first second : Code) : Decidable (first ≤ second) :=
  inferInstanceAs (Decidable (first.toNat ≤ second.toNat))

/-- The character that a code point is, if it is one. -/
def char? : Code → Option Char
  | char c => some c
  | surrogate _ => none

/-- Write an ASCII capital small. -/
def lowerAscii : Code → Code
  | char c => c.toLower
  | surrogate index => surrogate index

/-- Write an ASCII letter as a capital. -/
def upperAscii : Code → Code
  | char c => c.toUpper
  | surrogate index => surrogate index

@[simp] theorem toNat_char (c : Char) : (char c).toNat = c.toNat := rfl

theorem le_def {first second : Code} : first ≤ second ↔ first.toNat ≤ second.toNat :=
  Iff.rfl

end Code

/-- A text. -/
@[ext]
structure Text where
  ofList ::
  /-- The code points of the text. -/
  toList : List Code
  deriving Repr, DecidableEq

namespace Text

instance : Inhabited Text := ⟨ofList []⟩

/-- The text of a string of characters. -/
def ofString (text : String) : Text :=
  ofList (text.toList.map Code.char)

instance : Coe String Text := ⟨ofString⟩

/-- The string that a text is, if all its code points are characters. -/
def string? (text : Text) : Option String :=
  (text.toList.mapM Code.char?).map String.ofList

instance : Append Text := ⟨fun first second => ofList (first.toList ++ second.toList)⟩

/-- The number of code points of a text. -/
def length (text : Text) : Nat :=
  text.toList.length

/-- Whether a text is empty. -/
def isEmpty (text : Text) : Bool :=
  text.toList.isEmpty

/-- A text of one code point. -/
def singleton (c : Code) : Text :=
  ofList [c]

/-- Add a code point to the end of a text. -/
def push (text : Text) (c : Code) : Text :=
  ofList (text.toList ++ [c])

/-- Texts one after another. -/
def join (texts : List Text) : Text :=
  ofList (texts.flatMap toList)

/-- Texts one after another with a text between any two. -/
def intercalate (separator : Text) (texts : List Text) : Text :=
  ofList (separator.toList.intercalate (texts.map toList))

/-- Whether a text starts with another. -/
def startsWith (text start : Text) : Bool :=
  start.toList.isPrefixOf text.toList

/-- Texts are ordered by their first different code points. -/
instance : LE Text :=
  ⟨fun first second =>
    second.toList.lex first.toList (fun c d => c.toNat < d.toNat) = false⟩

instance (first second : Text) : Decidable (first ≤ second) :=
  inferInstanceAs (Decidable
    (second.toList.lex first.toList (fun c d => c.toNat < d.toNat) = false))

@[simp] theorem ofList_toList (text : Text) : ofList text.toList = text := rfl

theorem toList_ofList (codes : List Code) : (ofList codes).toList = codes := rfl

theorem ofList_injective {first second : List Code}
    (equal : ofList first = ofList second) :
    first = second :=
  congrArg toList equal

theorem toList_inj {first second : Text} :
    first.toList = second.toList ↔ first = second :=
  Text.ext_iff.symm

@[simp] theorem toList_append (first second : Text) :
    (first ++ second).toList = first.toList ++ second.toList := rfl

@[simp] theorem ofList_append (first second : List Code) :
    ofList (first ++ second) = ofList first ++ ofList second := rfl

@[simp] theorem toList_push (text : Text) (c : Code) :
    (text.push c).toList = text.toList ++ [c] := rfl

@[simp] theorem toList_ofString (text : String) :
    (ofString text).toList = text.toList.map Code.char := rfl

@[simp] theorem ofString_inj {first second : String} :
    ofString first = ofString second ↔ first = second := by
  rw [← toList_inj, toList_ofString, toList_ofString,
    List.map_inj_right fun _ _ => Code.char.inj, String.toList_inj]

theorem ofString_append (first second : String) :
    ofString (first ++ second) = ofString first ++ ofString second :=
  Text.ext (by simp)

theorem mapM_char?_eq_some_iff {codes : List Code} {characters : List Char} :
    codes.mapM Code.char? = some characters ↔ codes = characters.map Code.char := by
  induction codes generalizing characters with
  | nil => cases characters <;> simp
  | cons code rest inductionHypothesis =>
      rw [List.mapM_cons]
      cases code with
      | surrogate index => cases characters <;> simp [Code.char?]
      | char c =>
          cases characters with
          | nil => simp [Code.char?, Option.bind_eq_some_iff]
          | cons first others =>
              simp only [Code.char?, Option.bind_eq_bind, Option.bind_some,
                Option.pure_def, Option.bind_eq_some_iff, inductionHypothesis]
              grind

/-- A text is a string if and only if it is the text of that string. -/
theorem string?_eq_some_iff {text : Text} {characters : String} :
    text.string? = some characters ↔ text = characters := by
  rw [string?, Option.map_eq_some_iff, ← toList_inj, toList_ofString]
  constructor
  · rintro ⟨own, isOwn, rfl⟩
    rw [String.toList_ofList]
    exact mapM_char?_eq_some_iff.mp isOwn
  · intro equal
    exact ⟨characters.toList, mapM_char?_eq_some_iff.mpr equal, String.ofList_toList⟩

@[simp] theorem string?_ofString (characters : String) :
    (ofString characters).string? = some characters :=
  string?_eq_some_iff.mpr rfl

theorem append_assoc (first second third : Text) :
    first ++ second ++ third = first ++ (second ++ third) :=
  Text.ext (List.append_assoc ..)

@[simp] theorem length_toList (text : Text) : text.toList.length = text.length := rfl

@[simp] theorem length_append (first second : Text) :
    (first ++ second).length = first.length + second.length :=
  List.length_append

@[simp] theorem empty_append (text : Text) : "" ++ text = text := rfl

@[simp] theorem append_empty (text : Text) : text ++ "" = text :=
  Text.ext (List.append_nil _)

theorem toList_eq_nil_iff {text : Text} : text.toList = [] ↔ text = "" := by
  rw [← toList_inj]
  rfl

@[simp] theorem isEmpty_iff {text : Text} : text.isEmpty = true ↔ text = "" := by
  rw [isEmpty, List.isEmpty_iff, toList_eq_nil_iff]

@[simp] theorem isEmpty_eq_false_iff {text : Text} :
    text.isEmpty = false ↔ text ≠ "" := by
  rw [← Bool.not_eq_true, isEmpty_iff]

/-- What is not dropped stays. -/
theorem mem_dropWhile {accepts : Code → Bool} {codes : List Code} {c : Code}
    (isThere : c ∈ codes) (notAccepted : accepts c = false) :
    c ∈ codes.dropWhile accepts := by
  induction codes with
  | nil => exact isThere
  | cons d rest inductionHypothesis =>
      rw [List.dropWhile_cons]
      split
      · rename_i isAccepted
        refine inductionHypothesis (List.mem_of_ne_of_mem ?_ isThere)
        rintro rfl
        rw [notAccepted] at isAccepted
        cases isAccepted
      · exact isThere

/-- Whether a code point lies in one of the closed ranges of a table. -/
def inRanges (table : List (Nat × Nat)) (code : Nat) : Bool :=
  table.any fun range => range.1 ≤ code && code ≤ range.2

@[simp] theorem inRanges_nil (code : Nat) : inRanges [] code = false := rfl

@[simp] theorem inRanges_cons
    (range : Nat × Nat)
    (table : List (Nat × Nat))
    (code : Nat) :
    inRanges (range :: table) code =
      ((range.1 ≤ code && code ≤ range.2) || inRanges table code) := rfl

/-- The blank code points: those of bidirectional class B, S or WS and the space
separators. They separate the tokens of an expression and surround numbers. -/
def blankRanges : List (Nat × Nat) :=
  [
    (0x9, 0xd), (0x1c, 0x20), (0x85, 0x85), (0xa0, 0xa0), (0x1680, 0x1680),
    (0x2000, 0x200a), (0x2028, 0x2029), (0x202f, 0x202f), (0x205f, 0x205f),
    (0x3000, 0x3000)]

/-- Whether a code point is blank. -/
def isBlank (c : Code) : Bool :=
  inRanges blankRanges c.toNat

/-- Drop blanks from both ends of a text. -/
def trim (text : List Code) : List Code :=
  ((text.dropWhile isBlank).reverse.dropWhile isBlank).reverse

end Text
end KindExpr
