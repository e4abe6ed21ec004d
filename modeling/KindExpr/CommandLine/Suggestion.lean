import KindExpr.Text.Basic

/-!
# Suggestions for a misspelt word

Two words are alike when enough of their characters match in order: the longest
stretch they share, and what is shared on its left and on its right.
-/

namespace KindExpr
namespace Suggestion

/-- The number of characters that two texts share at their start. -/
def sharedStart : List Code → List Code → Nat
  | c :: left, other :: right => if c = other then sharedStart left right + 1 else 0
  | _, _ => 0

/-- A stretch that two texts share: where it starts in both, and its length. -/
structure Stretch where
  first : Nat
  second : Nat
  size : Nat
  deriving Repr

/-- The longest stretch that two texts share, the first one if there are several. -/
def longestStretch (left right : List Code) : Stretch :=
  let starts := (List.range left.length).flatMap fun first =>
    (List.range right.length).map fun second =>
      (⟨first, second, sharedStart (left.drop first) (right.drop second)⟩ : Stretch)
  starts.foldl (fun best stretch =>
    if stretch.size > best.size then stretch else best) ⟨0, 0, 0⟩

/-- The number of characters that two texts share in order. -/
def sharedCount : Nat → List Code → List Code → Nat
  | 0, _, _ => 0
  | fuel + 1, left, right =>
      let stretch := longestStretch left right
      if stretch.size = 0 then 0
      else
        sharedCount fuel (left.take stretch.first) (right.take stretch.second) +
          stretch.size +
          sharedCount fuel (left.drop (stretch.first + stretch.size))
            (right.drop (stretch.second + stretch.size))

/-- Whether two words are alike: six tenths of their characters are shared. -/
def isAlike (word known : Text) : Bool :=
  let shared := sharedCount (word.length + 1) known.toList word.toList
  20 * shared ≥ 6 * (word.length + known.length)

/-- The known words that are like a word. -/
def suggestions (word : Text) (known : List Text) : List Text :=
  known.filter (isAlike word)

end Suggestion
end KindExpr
