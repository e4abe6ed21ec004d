import KindExpr.Pattern.Flags
import KindExpr.Pattern.Fault

/-!
# Pattern trees

What a pattern text is read into. Characters are code points, because a pattern
can name a code point that no text contains.

`Node.width` bounds the length of the matches of a tree. A look-behind needs one
length, which is checked by `Node.checkShape`, and a length below a limit, which is
checked by `Node.isWithinReach`.
-/

namespace KindExpr
namespace Pattern

/-- The classes of characters that have an escape letter. -/
inductive Category where
  | digit
  | space
  | word
  deriving Repr, DecidableEq

/-- One item of a character set. -/
inductive SetItem where
  | code (code : Nat)
  | range (low high : Nat)
  | category (category : Category) (negated : Bool)
  deriving Repr, DecidableEq

/-- The places in a text that match without taking a character. -/
inductive Anchor where
  | lineStart
  | lineEnd
  | textStart
  | textEnd
  | boundary
  | notBoundary
  deriving Repr, DecidableEq

/-- How a repetition chooses its count. -/
inductive Greed where
  | greedy
  | lazy
  | possessive
  deriving Repr, DecidableEq

/-- The shortest and the longest length of a match. -/
structure Width where
  low : Nat
  high : Nat
  deriving Repr, DecidableEq

/-- A pattern tree. -/
inductive Node where
  | empty
  /-- A part after those before it. -/
  | sequence (before last : Node)
  /-- An alternative and those after it. -/
  | branch (first others : Node)
  /-- The end of some alternatives. -/
  | dead
  | code (code : Nat)
  | notCode (code : Nat)
  | any
  | set (negated : Bool) (items : List SetItem)
  | anchor (anchor : Anchor)
  | group (number : Option Nat) (added removed : Flags) (body : Node)
  | atomic (body : Node)
  | repetition (greed : Greed) (least : Nat) (most : Option Nat) (body : Node)
  | look (behind negated : Bool) (body : Node)
  | reference (group : Nat) (width : Width)
  | conditional (group : Nat) (yes no : Node)
  deriving Repr, DecidableEq

namespace Width

/-- The shortest length counts up to this one. -/
def mostLow : Nat := Nat.pow 2 32 - 2

/-- Lengths count as unbounded from here on. -/
def unbounded : Nat := Nat.pow 2 32 - 1

/-- Cap both bounds. -/
def cap (width : Width) : Width :=
  ⟨min width.low mostLow, min width.high unbounded⟩

/-- The width of two parts that follow each other. -/
def add (left right : Width) : Width :=
  cap ⟨left.low + right.low, left.high + right.high⟩

/-- The width of two alternatives. -/
def join (left right : Width) : Width :=
  ⟨min left.low right.low, max left.high right.high⟩

/-- The width of a repetition. -/
def times (width : Width) (least : Nat) (most : Option Nat) : Width :=
  cap ⟨width.low * least, width.high * most.getD unbounded⟩

end Width

namespace Node

/-- Join a list of parts into one tree. -/
def ofList : List Node → Node
  | [] => empty
  | first :: rest => rest.foldl sequence first

/-- The parts of a tree that stand before some others. -/
def toListBefore : Node → List Node → List Node
  | empty, parts => parts
  | sequence before last, parts => before.toListBefore (last :: parts)
  | node, parts => node :: parts

/-- The parts that follow each other in a tree. -/
def toList (node : Node) : List Node :=
  node.toListBefore []

/-- Join a list of alternatives into one tree. -/
def ofAlternatives : List Node → Node
  | [] => dead
  | first :: others => branch first (ofAlternatives others)

/-- A group without a number and without flags is as good as what it holds. -/
def unpacked : Node → List Node
  | group none added removed body =>
      if added = .none ∧ removed = .none then body.toList
      else [group none added removed body]
  | node => [node]

/-- The lengths a match of a tree can have. -/
def width : Node → Width
  | empty => ⟨0, 0⟩
  | sequence before last => before.width.add last.width
  | branch first others => first.width.join others.width
  | dead => ⟨Width.mostLow, 0⟩
  | code _ => ⟨1, 1⟩
  | notCode _ => ⟨1, 1⟩
  | any => ⟨1, 1⟩
  | set _ _ => ⟨1, 1⟩
  | anchor _ => ⟨0, 0⟩
  | group _ _ _ body => body.width
  | atomic body => body.width
  | repetition _ least most body => body.width.times least most
  | look _ _ _ => ⟨0, 0⟩
  | reference _ width => width
  | conditional _ yes no => yes.width.join no.width

/-- The name of a kind of repetition in messages. -/
def Greed.operator : Greed → Text
  | .greedy => "MAX_REPEAT"
  | .lazy => "MIN_REPEAT"
  | .possessive => "POSSESSIVE_REPEAT"

/-- The lengths of look-behinds are below this one. -/
def maxLookBehind : Nat := Nat.pow 2 31

/-- Every look-behind in a tree has one length, and in template mode there is no
repetition. The first offender in reading order is reported. -/
def checkShape (template : Bool) : Node → Except Fault Unit
  | sequence before last => do
      before.checkShape template
      last.checkShape template
  | branch first others => do
      first.checkShape template
      others.checkShape template
  | group _ _ _ body => body.checkShape template
  | atomic body => body.checkShape template
  | repetition greed _ _ body =>
      if template then .error (.repeatInTemplate (Greed.operator greed))
      else body.checkShape template
  | look behind _ body => do
      if behind ∧ body.width.low ≠ body.width.high then .error .unboundedLookBehind
      body.checkShape template
  | conditional _ yes no => do
      yes.checkShape template
      no.checkShape template
  | _ => .ok ()

/-- Whether all look-behinds in a tree are short enough to be matched. -/
def isWithinReach : Node → Bool
  | sequence before last => before.isWithinReach && last.isWithinReach
  | branch first others => first.isWithinReach && others.isWithinReach
  | group _ _ _ body => body.isWithinReach
  | atomic body => body.isWithinReach
  | repetition _ _ _ body => body.isWithinReach
  | look behind _ body =>
      (!behind || body.width.low < maxLookBehind) && body.isWithinReach
  | conditional _ yes no => yes.isWithinReach && no.isWithinReach
  | _ => true

/-- Whether a tree is a place rather than something to repeat. -/
def isAnchor : Node → Bool
  | anchor _ => true
  | _ => false

/-- Whether a tree is a repetition. -/
def isRepetition : Node → Bool
  | repetition _ _ _ _ => true
  | _ => false

/-- Whether a tree holds no other tree. -/
def isLeaf : Node → Bool
  | code _ => true
  | notCode _ => true
  | any => true
  | set _ _ => true
  | anchor _ => true
  | reference _ _ => true
  | _ => false

/-- Whether a tree takes one character, whatever flags are changed around it. -/
def isUnit : Node → Bool
  | code _ => true
  | notCode _ => true
  | any => true
  | set _ _ => true
  | group none _ _ body => body.isUnit
  | _ => false

end Node
end Pattern
end KindExpr
