import KindExpr.Pattern.Fault

/-!
# Reading a pattern by tokens

A token is one character, or a backslash with the character after it. A cursor
always knows the token ahead of it, so a backslash that ends the pattern is
reported as soon as the cursor arrives before it.
-/

namespace KindExpr
namespace Pattern

/-- A character, plain or after a backslash. -/
inductive Token where
  | plain (c : Code)
  | escaped (c : Code)
  deriving Repr, DecidableEq

namespace Token

/-- The characters of a token. -/
def chars : Token → List Code
  | plain c => [c]
  | escaped c => ['\\', c]

/-- The text of a token. -/
def text (token : Token) : Text :=
  Text.ofList token.chars

end Token

/-- A place in a pattern: what is still to be read and how much was read. -/
structure Cursor where
  rest : List Code
  position : Nat
  deriving Repr, DecidableEq

namespace Cursor

/-- A cursor at a place, unless a lone backslash is all that is left there. -/
def at? (rest : List Code) (position : Nat) : Except Failure Cursor :=
  match rest with
  | [.char '\\'] => .error (.malformed .escapeAtEnd (some position))
  | _ => .ok ⟨rest, position⟩

/-- The token ahead. -/
def peek (cursor : Cursor) : Option Token :=
  match cursor.rest with
  | .char '\\' :: c :: _ => some (.escaped c)
  | c :: _ => some (.plain c)
  | [] => none

/-- Move past the token ahead. -/
def advance (cursor : Cursor) : Except Failure Cursor :=
  match cursor.rest with
  | .char '\\' :: _ :: rest => at? rest (cursor.position + 2)
  | _ :: rest => at? rest (cursor.position + 1)
  | [] => .ok cursor

/-- Collect the text up to a terminator: the text before it, whether the terminator was
found, and the place after it. The first argument bounds the number of tokens. -/
def collect (terminator : Code) :
    Nat → Cursor → Except Failure (List Code × Bool × Cursor)
  | 0, cursor => .ok ([], false, cursor)
  | bound + 1, cursor =>
      match cursor.peek with
      | none => .ok ([], false, cursor)
      | some token =>
          match cursor.advance with
          | .error failure => .error failure
          | .ok next =>
              if token = .plain terminator then .ok ([], true, next)
              else
                match collect terminator bound next with
                | .error failure => .error failure
                | .ok (text, found, last) => .ok (token.chars ++ text, found, last)

/-- Collect the text up to a terminator. -/
def upTo (terminator : Code) (cursor : Cursor) :
    Except Failure (List Code × Bool × Cursor) :=
  collect terminator (cursor.rest.length + 1) cursor

end Cursor
end Pattern
end KindExpr
