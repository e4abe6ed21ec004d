import KindExpr.Number.Numeral
import KindExpr.Pattern.Cursor
import KindExpr.Pattern.Node
import KindExpr.Text.CharacterName
import KindExpr.Text.Identifier
import KindExpr.Text.Letter

/-!
# Reading a pattern

The reader turns the text of a pattern into a tree. It knows the groups that are
open or closed so far, because a reference may only name a closed group, and the
flags that the pattern sets for itself.

Alternatives and groups nest, and every level and every item takes a token, so
the length of the pattern bounds the recursion.
-/

namespace KindExpr
namespace Pattern

/-- What the reader knows while it reads. -/
structure ReaderState where
  cursor : Cursor
  /-- Whether the pattern is for text rather than for bytes. -/
  forText : Bool
  flags : Flags
  /-- The named groups with their numbers. -/
  names : List (Text × Nat)
  /-- The width of each group in order, unknown while the group is open. -/
  groups : List (Option Width)
  /-- Inside a look-behind, the number of the first group opened in it. -/
  lookBehind : Option Nat
  /-- The groups that conditions mention, each with the place of the first. -/
  conditions : List (Nat × Nat)

/-- A reading step: it may fail, and it changes what the reader knows. -/
abbrev Reader := StateT ReaderState (Except Failure)

namespace Reader

/-- The token ahead. -/
def peek : Reader (Option Token) :=
  return (← get).cursor.peek

/-- The place of the token ahead. -/
def position : Reader Nat :=
  return (← get).cursor.position

/-- Go to a cursor. -/
def goTo (cursor : Cursor) : Reader Unit :=
  modify fun state => { state with cursor := cursor }

/-- Move past the token ahead. -/
def advance : Reader Unit := do
  goTo (← (← get).cursor.advance)

/-- Take the token ahead. -/
def take : Reader (Option Token) := do
  let token ← peek
  advance
  return token

/-- Move past the token ahead if it is a given plain character. -/
def accept (c : Code) : Reader Bool := do
  if (← peek) = some (.plain c) then
    advance
    return true
  else return false

/-- Reject the pattern for a fault at a place. -/
def failAt (fault : Fault) (place : Nat) : Reader α :=
  throw (.malformed fault (some place))

/-- Reject the pattern for a fault a number of characters before the place. -/
def failBack (fault : Fault) (distance : Nat) : Reader α := do
  failAt fault ((← position) - distance)

/-- Take plain characters of a class, at most so many. -/
def takeWhile (accepts : Code → Bool) : Nat → Reader (List Code)
  | 0 => return []
  | bound + 1 => do
      match ← peek with
      | some (.plain c) =>
          if accepts c then
            advance
            return c :: (← takeWhile accepts bound)
          else return []
      | _ => return []

/-- Take a name that ends with a terminator. -/
def takeName (terminator : Code) (what : Text) : Reader (List Code) := do
  let (name, found, cursor) ← (← get).cursor.upTo terminator
  goTo cursor
  if found then
    if name.isEmpty then failBack (.missing what) 1
    return name
  else
    if name.isEmpty then failBack (.missing what) 0
    failBack (.unterminatedName terminator) name.length

/-- The number of the next group. -/
def groupCount : Reader Nat :=
  return (← get).groups.length + 1

/-- The width of a group that is closed. -/
def closedWidth? (number : Nat) : Reader (Option Width) :=
  return ((← get).groups[number - 1]?).join

/-- Inside a look-behind, a group must be closed and have been opened outside of it. -/
def checkLookBehind (number : Nat) : Reader Unit := do
  match (← get).lookBehind with
  | none => return
  | some first =>
      if (← closedWidth? number).isNone then failBack .openGroup 0
      if number ≥ first then failBack .lookBehindGroup 0

/-! ## Escapes -/

/-- The control characters with an escape letter. -/
def controlCode? : Code → Option Nat
  | .char 'a' => some 7
  | .char 'b' => some 8
  | .char 'f' => some 12
  | .char 'n' => some 10
  | .char 'r' => some 13
  | .char 't' => some 9
  | .char 'v' => some 11
  | .char '\\' => some 92
  | _ => none

/-- The character classes with an escape letter. -/
def category? : Code → Option SetItem
  | .char 'd' => some (.category .digit false)
  | .char 'D' => some (.category .digit true)
  | .char 's' => some (.category .space false)
  | .char 'S' => some (.category .space true)
  | .char 'w' => some (.category .word false)
  | .char 'W' => some (.category .word true)
  | _ => none

/-- The anchors with an escape letter. -/
def anchor? : Code → Option Anchor
  | .char 'A' => some .textStart
  | .char 'Z' => some .textEnd
  | .char 'b' => some .boundary
  | .char 'B' => some .notBoundary
  | _ => none

/-- Read a code point written with a fixed number of hexadecimal digits. -/
def readHexCode (letter : Code) (size : Nat) : Reader Nat := do
  let digits ← takeWhile Text.isHexDigit size
  let written := Text.ofList ('\\' :: letter :: digits)
  if digits.length ≠ size then failBack (.incompleteEscape written) written.length
  let code := Text.digitsToNat 16 digits
  if code > 0x10ffff then failBack (.badEscape written) written.length
  return code

/-- Read a code point written by its character name. -/
def readNamedCode : Reader Nat := do
  if !(← accept '\x7b') then failBack (.missing "\x7b") 0
  let name ← takeName '\x7d' "character name"
  match Text.codeOfName? (Text.ofList name) with
  | some code => return code
  | none => failBack (.unknownCharacterName (Text.ofList name)) (name.length + 4)

/-- Check the value of an octal escape. -/
def octalCode (digits : List Code) : Reader Nat := do
  let code := Text.digitsToNat 8 digits
  let written := Text.ofList ('\\' :: digits)
  if code > 0o377 then failBack (.octalOutOfRange written) written.length
  return code

/-- Read an escape that stands for one code point by a number or a
name, if the letter starts one. -/
def readNumberedCode? (letter : Code) : Reader (Option Nat) := do
  let forText := (← get).forText
  if letter = 'x' then return some (← readHexCode letter 2)
  else if letter = 'u' ∧ forText then return some (← readHexCode letter 4)
  else if letter = 'U' ∧ forText then return some (← readHexCode letter 8)
  else if letter = 'N' ∧ forText then return some (← readNamedCode)
  else return none

/-- A letter or digit without a meaning of its own may not be escaped. -/
def literalCode (letter : Code) : Reader Nat := do
  if Text.isAsciiLetter letter || Text.isAsciiDigit letter then
    failBack (.badEscape (Text.ofList ['\\', letter])) 2
  return letter.toNat

/-- The set item an escape stands for inside a character set. -/
def readSetEscape (letter : Code) : Reader SetItem := do
  if let some code := controlCode? letter then return .code code
  if let some item := category? letter then return item
  if let some code ← readNumberedCode? letter then return .code code
  if Text.isOctalDigit letter then
    let digits ← takeWhile Text.isOctalDigit 2
    return .code (← octalCode (letter :: digits))
  return .code (← literalCode letter)

/-- The tree a reference to a numbered group stands for. `size` is the length of
the reference as written. -/
def readReference (number size : Nat) : Reader Node := do
  if number < (← groupCount) then
    match ← closedWidth? number with
    | none => failBack .openGroup size
    | some width =>
        checkLookBehind number
        return .reference number width
  else failBack (.unknownGroup number) (size - 1)

/-- The tree an escape with a digit other than zero stands for: an octal escape
of three digits, or else a reference. -/
def readDigitEscape (first : Code) : Reader Node := do
  match ← takeWhile Text.isAsciiDigit 1 with
  | [second] =>
      if Text.isOctalDigit first && Text.isOctalDigit second then
        match ← takeWhile Text.isOctalDigit 1 with
        | [third] => return .code (← octalCode [first, second, third])
        | _ => readReference (Text.digitsToNat 10 [first, second]) 3
      else readReference (Text.digitsToNat 10 [first, second]) 3
  | _ => readReference (Text.digitsToNat 10 [first]) 2

/-- The tree an escape stands for outside of a character set. -/
def readEscape (letter : Code) : Reader Node := do
  if let some anchor := anchor? letter then return .anchor anchor
  if let some item := category? letter then return .set false [item]
  if let some code := controlCode? letter then return .code code
  if let some code ← readNumberedCode? letter then return .code code
  if letter = '0' then
    let digits ← takeWhile Text.isOctalDigit 2
    return .code (Text.digitsToNat 8 digits)
  if Text.isAsciiDigit letter then readDigitEscape letter
  else return .code (← literalCode letter)

/-! ## Character sets -/

/-- The set item a token stands for. -/
def readSetItem : Token → Reader SetItem
  | .plain c => return .code c.toNat
  | .escaped c => readSetEscape c

/-- The items of a character set up to its closing bracket. The first argument
bounds the number of items, `start` is the place of the opening bracket. -/
def readSetItems (start : Nat) : Nat → Bool → Reader (List SetItem)
  | 0, _ => failAt .unterminatedSet start
  | bound + 1, isFirst => do
      match ← take with
      | none => failAt .unterminatedSet start
      | some low =>
          if low = .plain ']' ∧ !isFirst then return []
          let item ← readSetItem low
          if ← accept '-' then
            match ← take with
            | none => failAt .unterminatedSet start
            | some high =>
                if high = .plain ']' then return [item, .code '-'.toNat]
                let other ← readSetItem high
                let size := low.chars.length + 1 + high.chars.length
                match item, other with
                | .code first, .code last =>
                    if last < first then failBack (.badRange low.text high.text) size
                    return .range first last :: (← readSetItems start bound false)
                | _, _ => failBack (.badRange low.text high.text) size
          else return item :: (← readSetItems start bound false)

/-- A character set after its opening bracket. -/
def readSet (bound start : Nat) : Reader Node := do
  let negated ← accept '^'
  let items ← readSetItems start bound true
  match items.eraseDups with
  | [.code code] => return if negated then .notCode code else .code code
  | distinct => return .set negated distinct

/-! ## Repetitions -/

/-- Repetition bounds must be below this number. -/
def maxRepetition : Nat := Nat.pow 2 32 - 1

/-- A bound of a repetition, when digits are written for it. -/
def readBound? (digits : List Code) : Reader (Option Nat) := do
  if digits.isEmpty then return none
  if digits.length > Numeral.maxDigits then throw (.tooManyDigits digits.length)
  let bound := Text.digitsToNat 10 digits
  if bound ≥ maxRepetition then throw .repetitionTooLarge
  return some bound

/-- The bounds of a repetition after its mark. Without a closing brace an
opening brace stands for itself, and the cursor stays behind it. -/
def readBounds (size : Nat) (mark : Code) : Reader (Option (Nat × Option Nat)) := do
  if mark = '?' then return some (0, some 1)
  if mark = '*' then return some (0, none)
  if mark = '+' then return some (1, none)
  let here := (← get).cursor
  if (← peek) = some (.plain '\x7d') then return none
  let low ← takeWhile Text.isAsciiDigit size
  let high ← do
    if ← accept ',' then takeWhile Text.isAsciiDigit size else pure low
  if !(← accept '\x7d') then
    goTo here
    return none
  let least := (← readBound? low).getD 0
  let most ← readBound? high
  match most with
  | some count =>
      if count < least then failAt .reversedBounds here.position
  | none => pure ()
  return some (least, most)

/-- A repetition of the last tree, whose mark is at a place. -/
def readRepetition
    (place : Nat)
    (bounds : Nat × Option Nat)
    (items : List Node) :
    Reader (List Node) := do
  match items with
  | [] => failAt .nothingToRepeat place
  | last :: earlier =>
      if last.isAnchor then failAt .nothingToRepeat place
      if last.isRepetition then failAt .repeatedRepeat place
      let greed ← do
        if ← accept '?' then pure Greed.lazy
        else if ← accept '+' then pure Greed.possessive
        else pure Greed.greedy
      let body := Node.ofList last.unpacked
      return .repetition greed bounds.1 bounds.2 body :: earlier

/-! ## Groups -/

/-- The names of groups are identifiers. -/
def checkGroupName (name : List Code) : Reader Unit := do
  if !Text.isIdentifier name then
    failBack (.badGroupName (Text.ofList name)) (name.length + 1)

/-- The number of a named group. -/
def groupNumber (name : List Code) : Reader Nat := do
  match (← get).names.lookup (Text.ofList name) with
  | some number => return number
  | none => failBack (.unknownGroupName (Text.ofList name)) (name.length + 1)

/-- A reference to a named group after its equals sign. -/
def readNamedReference : Reader Node := do
  let name ← takeName ')' "group name"
  checkGroupName name
  let number ← groupNumber name
  match ← closedWidth? number with
  | none => failBack .openGroup (name.length + 1)
  | some width =>
      checkLookBehind number
      return .reference number width

/-- Numbers of groups are below this one. -/
def maxGroups : Nat := Nat.pow 2 30 - 1

/-- The group a condition asks for, by name or by number. -/
def readCondition : Reader Nat := do
  let name ← takeName ')' "group name"
  let back := name.length + 1
  let number ← do
    if Text.isIdentifier name then groupNumber name
    else
      match Numeral.integer? name with
      | some (Int.ofNat number) =>
          if number = 0 then failBack .groupZero back
          if number ≥ maxGroups then failBack (.unknownGroup number) back
          let place := (← position) - back
          modify fun state =>
            if (state.conditions.lookup number).isSome then state
            else { state with conditions := state.conditions ++ [(number, place)] }
          pure number
      | _ => failBack (.badGroupName (Text.ofList name)) back
  checkLookBehind number
  return number

/-- Open a group and give its number. -/
def openGroup (name : Option (List Code)) : Reader Nat := do
  let number ← groupCount
  modify fun state => { state with groups := state.groups ++ [none] }
  match name with
  | none => pure ()
  | some chars =>
      let text := Text.ofList chars
      match (← get).names.lookup text with
      | some earlier =>
          failBack (.repeatedGroupName text number earlier) (chars.length + 1)
      | none => modify fun state => { state with names := (text, number) :: state.names }
  return number

/-- Close a group whose body has a width. -/
def closeGroup (number : Nat) (width : Width) : Reader Unit :=
  modify fun state => { state with groups := state.groups.set (number - 1) (some width) }

/-- A flag that chooses a classification must be the only one of its kind. -/
def checkClassification (flag added : Flags) : Reader Unit := do
  let chosen := flag.inter .classification
  if chosen ≠ .none ∧ added.inter .classification ≠ flag then
    failBack .incompatibleFlags 0

/-- The fault of a token where an inline flag or something else is expected. -/
def failFlag (token : Token) (expected : Text) : Reader α :=
  let isLetter :=
    match token with
    | .plain c => Text.isLetter c
    | .escaped _ => false
  failBack (.flagExpected isLetter expected) token.chars.length

/-- The flag a token stands for. -/
def flagOf? : Token → Option Flags
  | .plain c => Flags.ofLetter? c
  | .escaped _ => none

/-- Read the inline flags that are turned on, starting with one flag, and the
character that ends them. -/
def readAddedFlags : Nat → Code → Flags → Flags → Reader (Flags × Code)
  | 0, _, _, _ => failBack (.missing "-, : or )") 0
  | bound + 1, letter, flag, added => do
      if (← get).forText then
        if letter = 'L' then failBack .localeOfText 0
      else if letter = 'u' then failBack .unicodeOfBytes 0
      let added := added.union flag
      checkClassification flag added
      match ← take with
      | none => failBack (.missing "-, : or )") 0
      | some token =>
          match token with
          | .plain (.char ')') => return (added, ')')
          | .plain (.char '-') => return (added, '-')
          | .plain (.char ':') => return (added, ':')
          | _ =>
              match token, flagOf? token with
              | .plain next, some flag => readAddedFlags bound next flag added
              | _, _ => failFlag token "-, : or )"

/-- Read the inline flags that are turned off, starting with one flag. -/
def readRemovedFlags : Nat → Flags → Flags → Reader Flags
  | 0, _, _ => failBack (.missing ":") 0
  | bound + 1, flag, removed => do
      if flag.inter .classification ≠ .none then failBack .removedClassification 0
      let removed := removed.union flag
      match ← take with
      | none => failBack (.missing ":") 0
      | some token =>
          if token = .plain ':' then return removed
          match flagOf? token with
          | some flag => readRemovedFlags bound flag removed
          | none => failFlag token ":"

/-- The inline flags that are turned on, and the character after them. The first character
may be a minus sign, which turns on none. -/
def readAdditions (bound : Nat) (first : Code) : Reader (Flags × Code) :=
  match Flags.ofLetter? first with
  | some flag => readAddedFlags bound first flag .none
  | none => return (.none, '-')

/-- The inline flags that are turned off, if a minus sign comes after those turned on. -/
def readRemovals (bound : Nat) (last : Code) : Reader Flags := do
  if last = '-' then
    match ← take with
    | none => failBack (.missing "flag") 0
    | some token =>
        match flagOf? token with
        | some flag => readRemovedFlags bound flag .none
        | none => failFlag token "flag"
  else return .none

/-- Read inline flags after their first character: `none` when they hold for the
whole pattern, otherwise the flags a group adds and removes. -/
def readFlags (bound : Nat) (first : Code) : Reader (Option (Flags × Flags)) := do
  let (added, last) ← readAdditions bound first
  if last = ')' then
    modify fun state => { state with flags := state.flags.union added }
    return none
  if added.template then failBack .addedGlobalFlag 1
  let removed ← readRemovals bound last
  if removed.template then failBack .removedGlobalFlag 1
  if added.inter removed ≠ .none then failBack .contradictoryFlags 1
  return some (added, removed)

/-- What stands between the opening parenthesis of a group and its body. -/
inductive GroupHead where
  /-- A comment, which is no tree. -/
  | comment
  /-- Flags for the whole pattern, which are no tree. -/
  | globalFlags
  /-- A whole tree without a body. -/
  | whole (node : Node)
  /-- A look-ahead or look-behind. -/
  | look (behind negated : Bool)
  /-- A choice by whether a group has matched. -/
  | conditional (group : Nat)
  | atomic
  /-- A group that may have a number and change flags. -/
  | group (number : Option Nat) (added removed : Flags)

/-- The head of a group after the letter `P`. -/
def readNamedHead : Reader GroupHead := do
  if ← accept '<' then
    let name ← takeName '>' "group name"
    checkGroupName name
    return .group (some (← openGroup (some name))) .none .none
  else if ← accept '=' then return .whole (← readNamedReference)
  else
    match ← take with
    | none => failBack .unexpectedEnd 0
    | some token =>
        failBack (.unknownExtension ("P" ++ token.text)) (token.chars.length + 2)

/-- A comment up to its closing parenthesis. The opening one is at `start`. -/
def readComment (start : Nat) : Reader GroupHead := do
  let (_, found, cursor) ← (← get).cursor.upTo ')'
  goTo cursor
  if !found then failAt .unterminatedComment start
  return .comment

/-- The head of a look-behind after its angle bracket. -/
def readLookBehind : Reader GroupHead := do
  match ← take with
  | none => failBack .unexpectedEnd 0
  | some (.plain (.char '=')) => return .look true false
  | some (.plain (.char '!')) => return .look true true
  | some token =>
      failBack (.unknownExtension ("<" ++ token.text)) (token.chars.length + 2)

/-- The head of a group whose opening parenthesis is at `start`. -/
def readHead (bound start : Nat) : Reader GroupHead := do
  if !(← accept '?') then return .group (some (← openGroup none)) .none .none
  match ← take with
  | none => failBack .unexpectedEnd 0
  | some (.escaped c) => failBack (.unknownExtension (Token.escaped c).text) 3
  | some (.plain c) =>
      match c with
      | .char 'P' => readNamedHead
      | .char ':' => return .group none .none .none
      | .char '#' => readComment start
      | .char '=' => return .look false false
      | .char '!' => return .look false true
      | .char '<' => readLookBehind
      | .char '(' => return .conditional (← readCondition)
      | .char '>' => return .atomic
      | _ =>
          if (Flags.ofLetter? c).isSome ∨ c = '-' then
            match ← readFlags bound c with
            | none => return .globalFlags
            | some (added, removed) => return .group none added removed
          else failBack (.unknownExtension (Text.singleton c)) 2

/-- Whether a character is skipped in a verbose pattern. -/
def isSkipped (c : Code) : Bool :=
  c = ' ' || c = '\t' || c = '\n' || c = '\r' || c = '\x0b' || c = '\x0c'

/-! ## Parts and alternatives as trees -/

/-- The part that all of some alternatives start with, if it holds no other tree. -/
def commonStart? (alternatives : List (List Node)) : Option Node :=
  match alternatives with
  | (first :: _) :: _ =>
      if first.isLeaf && alternatives.all fun parts => parts.head? = some first then
        some first
      else none
  | _ => none

/-- Take the common start of some alternatives out of them. The first
argument bounds its length. -/
def splitStart : Nat → List (List Node) → List Node × List (List Node)
  | 0, alternatives => ([], alternatives)
  | bound + 1, alternatives =>
      match commonStart? alternatives with
      | none => ([], alternatives)
      | some first =>
          let (start, rest) := splitStart bound (alternatives.map List.tail)
          (first :: start, rest)

/-- The set items that an alternative stands for, if it is one character of a set. -/
def setItems? : List Node → Option (List SetItem)
  | [.code point] => some [.code point]
  | [.set false items] => some items
  | _ => none

/-- Alternatives as one tree. What they all start with comes first, and alternatives of
one character each make a set. -/
def joinAlternatives : List (List Node) → Node
  | [parts] => .ofList parts
  | alternatives =>
      let (start, rest) := splitStart ((alternatives.headD []).length + 1) alternatives
      let last : Node :=
        match rest.mapM setItems? with
        | some items => .set false items.flatten.eraseDups
        | none => .ofAlternatives (rest.map Node.ofList)
      .ofList (start ++ [last])

/-- The parts of a sequence, given in reverse order, with those
groups opened up that do nothing. -/
def unpack (items : List Node) : List Node :=
  items.foldl (fun parts node => node.unpacked ++ parts) []

/-! ## Parts of a sequence -/

/-- The closing parenthesis of the group that was opened at `start`. -/
def close (start : Nat) : Reader Unit := do
  if !(← accept ')') then failAt .unterminatedGroup start

/-- Note at the start of a look-behind which groups are opened outside of it, unless
that was done for one around it. -/
def enterLook (behind : Bool) : Reader Unit := do
  if behind && (← get).lookBehind.isNone then
    let count ← groupCount
    modify fun state => { state with lookBehind := some count }

/-- Close a group that may have a number. -/
def closeNumbered (number : Option Nat) (width : Width) : Reader Unit :=
  match number with
  | some group => closeGroup group width
  | none => return

/-- The second branch of a condition, if there is one. -/
def readOtherwise (branch : Reader (List Node)) : Reader Node := do
  if ← accept '|' then
    let otherwise := Node.ofList (← branch)
    if (← peek) = some (.plain '|') then failBack .thirdBranch 0
    return otherwise
  else return .empty

/-- One step of a sequence, from the items that were already read in reverse order:
whether the pattern is verbose after it, and the items so far. -/
abbrev Step := Bool × List Node

/-- The step at a parenthesis that was opened at `start`. The first arguments read
alternatives and a sequence inside of it. -/
def readOpened
    (alternatives : Bool → Reader (List (List Node)))
    (sequence : Bool → Reader (List Node))
    (bound : Nat)
    (verbose first : Bool)
    (items : List Node)
    (start : Nat) :
    Reader Step := do
  match ← readHead bound start with
  | .comment => return (verbose, items)
  | .globalFlags =>
      if !first || !items.isEmpty then failAt .lateGlobalFlags start
      return ((← get).flags.verbose, items)
  | .whole node => return (verbose, node :: items)
  | .look behind negated =>
      let outer := (← get).lookBehind
      enterLook behind
      let body := joinAlternatives (← alternatives verbose)
      modify fun state => { state with lookBehind := outer }
      close start
      return (verbose, .look behind negated body :: items)
  | .conditional group =>
      let yes := Node.ofList (← sequence verbose)
      let no ← readOtherwise (sequence verbose)
      close start
      return (verbose, .conditional group yes no :: items)
  | .atomic =>
      let body := joinAlternatives (← alternatives verbose)
      close start
      return (verbose, .atomic body :: items)
  | .group number added removed =>
      let inner := (verbose || added.verbose) && !removed.verbose
      let body := joinAlternatives (← alternatives inner)
      close start
      closeNumbered number body.width
      return (verbose, .group number added removed body :: items)

/-- Skip the rest of a line in a verbose pattern. -/
def skipLine : Reader Unit := do
  let (_, _, cursor) ← (← get).cursor.upTo '\n'
  goTo cursor

/-- The step at a mark of repetition. -/
def readMark
    (bound : Nat)
    (verbose : Bool)
    (items : List Node)
    (start : Nat)
    (mark : Code) :
    Reader Step := do
  match ← readBounds bound mark with
  | none => return (verbose, .code mark.toNat :: items)
  | some bounds => return (verbose, ← readRepetition start bounds items)

/-- The step at a plain character, which is at `start`. -/
def readPlain
    (alternatives : Bool → Reader (List (List Node)))
    (sequence : Bool → Reader (List Node))
    (bound : Nat)
    (verbose first : Bool)
    (items : List Node)
    (start : Nat)
    (c : Code) :
    Reader Step := do
  if verbose && isSkipped c then return (verbose, items)
  else if verbose && c = '#' then
    skipLine
    return (verbose, items)
  else
    match c with
    | .char '[' => return (verbose, (← readSet bound start) :: items)
    | .char '.' => return (verbose, .any :: items)
    | .char '^' => return (verbose, .anchor .lineStart :: items)
    | .char '$' => return (verbose, .anchor .lineEnd :: items)
    | .char '(' => readOpened alternatives sequence bound verbose first items start
    | _ =>
        if c = '*' ∨ c = '+' ∨ c = '?' ∨ c = '\x7b' then
          readMark bound verbose items start c
        else return (verbose, .code c.toNat :: items)

/-- One step of a sequence, or nothing at its end. -/
def readStep
    (alternatives : Bool → Reader (List (List Node)))
    (sequence : Bool → Reader (List Node))
    (bound : Nat)
    (verbose first : Bool)
    (items : List Node) :
    Reader (Option Step) := do
  match ← peek with
  | none => return none
  | some (.escaped c) =>
      advance
      return some (verbose, (← readEscape c) :: items)
  | some (.plain c) =>
      if c = '|' ∨ c = ')' then return none
      let start ← position
      advance
      return some (← readPlain alternatives sequence bound verbose first items start c)

/-! ## Sequences and alternatives -/

/-- The alternatives after one with given parts. Outside of all groups, they are read in
the mode that the pattern has set by then. The first argument reads alternatives. -/
def readFurther
    (alternatives : Bool → Reader (List (List Node)))
    (verbose top : Bool)
    (parts : List Node) :
    Reader (List (List Node)) := do
  if ← accept '|' then
    let flags := (← get).flags
    let further := if top then flags.verbose else verbose
    return parts :: (← alternatives further)
  else return [parts]

mutual

/-- Alternatives up to a closing parenthesis or the end, each as its parts. `top` says
that they are outside of all groups, `first` that nothing was read before them. -/
def readAlternatives : Nat → Bool → Bool → Bool → Reader (List (List Node))
  | 0, _, _, _ => return [[]]
  | bound + 1, verbose, top, first => do
      let parts ← readSequence bound verbose first []
      let alternatives := fun further => readAlternatives bound further top false
      readFurther alternatives verbose top parts

/-- The items of a sequence, after the items that were already read in reverse order. -/
def readSequence : Nat → Bool → Bool → List Node → Reader (List Node)
  | 0, _, _, items => return unpack items
  | bound + 1, verbose, first, items => do
      let alternatives := fun inner => readAlternatives bound inner false false
      let sequence := fun inner => readSequence bound inner false []
      match ← readStep alternatives sequence bound verbose first items with
      | none => return unpack items
      | some (verbose, items) => readSequence bound verbose first items

end

end Reader

/-- The flags of a pattern for text or bytes, completed by
the classification it uses. -/
def completeFlags (forText : Bool) (flags : Flags) : Except Failure Flags :=
  if forText then
    if !flags.ascii then .ok { flags with unicode := true }
    else if flags.unicode then .error .asciiAndUnicode
    else .ok flags
  else if flags.locale && flags.ascii then .error .asciiAndLocale
  else .ok flags

/-- The tree and the flags of a pattern, and the number of its groups. -/
structure Reading where
  tree : Node
  flags : Flags
  groups : Nat
  deriving Repr, DecidableEq

/-- The groups that conditions mention must be among so many. -/
def checkConditions (count : Nat) : List (Nat × Nat) → Except Failure Unit
  | [] => .ok ()
  | (number, place) :: rest =>
      if number > count then .error (.malformed (.unknownGroup number) (some place))
      else checkConditions count rest

/-- What a pattern comes to when its alternatives are read. -/
def ReaderState.finish (state : ReaderState) (alternatives : List (List Node)) :
    Except Failure Reading := do
  let tree := Reader.joinAlternatives alternatives
  let complete ← completeFlags state.forText state.flags
  if state.cursor.peek.isSome then
    throw (.malformed .unbalanced (some state.cursor.position))
  checkConditions state.groups.length state.conditions
  match tree.checkShape complete.template with
  | .error fault => throw (.malformed fault none)
  | .ok () =>
      if tree.isWithinReach then return ⟨tree, complete, state.groups.length⟩
      else throw .lookBehindOutOfReach

/-- The reader of a pattern at its start. -/
def ReaderState.initial (forText : Bool) (flags : Flags) (start : Cursor) :
    ReaderState where
  cursor := start
  forText := forText
  flags := flags
  names := []
  groups := []
  lookBehind := none
  conditions := []

/-- Read a whole pattern. -/
def read (forText : Bool) (source : List Code) (flags : Flags) :
    Except Failure Reading := do
  let start ← Cursor.at? source 0
  let bound := 2 * source.length + 4
  let (alternatives, state) ←
    (Reader.readAlternatives bound flags.verbose true true).run
      (.initial forText flags start)
  state.finish alternatives

end Pattern
end KindExpr
