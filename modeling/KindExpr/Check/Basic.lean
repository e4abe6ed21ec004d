import KindExpr.Expr.Alternative
import KindExpr.Value.Alias

/-!
# Compiled checks

A check is what a list of alternatives compiles to: a tree of tests on the kind
of a value, of patterns for its text and of checks for its members.

`compileGroup` compiles a list of alternatives against an alias table.
-/

namespace KindExpr

/-- How the members of a container are reached. -/
inductive Shape where
  /-- Items by position. -/
  | array
  /-- Entries whose values are named by their key. -/
  | object
  /-- Entries whose values are named by their position. -/
  | map
  deriving Repr, DecidableEq

/-- The shape of the containers with a tag. -/
def Shape.ofTag? (tag : Text) : Option Shape :=
  if tag = Kind.array.tag then some .array
  else if tag = Kind.object.tag then some .object
  else if tag = Kind.map.tag then some .map
  else none

/-- A compiled check. -/
inductive Check where
  /-- At least one check passes. -/
  | any (checks : List Check)
  /-- The value has a kind with this tag or, when negated, any other kind. -/
  | kind (tag : Text) (negated : Bool)
  /-- The value is a text in which the pattern of a literal is found. -/
  | format (literal : Literal) (pattern : Pattern)
  /-- The value passes a check of its own, and so do all its members and, if
  there is a check for them, all its keys. -/
  | container (own : Check) (shape : Shape) (member : Check) (key : Option Check)
  deriving Repr

/-- The causes for which alternatives do not compile. -/
inductive CompileError where
  | emptyExpression
  | unknownType (name : Text)
  | negatedMembers (tag : Text)
  | negatedLiteral (literal : Literal)
  | noMembers (tag : Text)
  | keysOfArray
  | unknownFlag (letter : Code) (literal : Literal)
  | badPattern (literal : Literal) (failure : Pattern.Failure)
  | bytePattern
  deriving Repr, DecidableEq

namespace CompileError

/-- The message of an error. -/
def message : CompileError → Text
  | emptyExpression => "Cannot compile an empty type expression"
  | unknownType name => "Unknown type: " ++ name
  | negatedMembers tag => "Member lists cannot be combined with negation: !" ++ tag
  | negatedLiteral literal =>
      "Negation is not supported on regular expressions: !" ++ literal.source
  | noMembers tag => "Unsupported or invalid iterable: " ++ tag
  | keysOfArray => "Key constraints are not supported on array"
  | unknownFlag letter literal =>
      "Unsupported regex flag '" ++ Text.singleton letter ++ "' in " ++ literal.source
  | badPattern literal failure =>
      match failure with
      | .malformed fault position =>
          "Invalid regular expression " ++ literal.source ++ ": " ++
            fault.message literal.body.toList position
      | .repetitionTooLarge => "the repetition number is too large"
      | .tooManyDigits count => Numeral.tooManyDigits count
      | .lookBehindOutOfReach => "invalid SRE code"
      | .asciiAndUnicode => "ASCII and UNICODE flags are incompatible"
      | .asciiAndLocale => "ASCII and LOCALE flags are incompatible"
  | bytePattern => "Byte patterns cannot be used in type expressions"

end CompileError

/-- Compile a literal to its pattern. -/
def Literal.compile (literal : Literal) : Except CompileError Pattern :=
  match readFlags literal.flags.toList with
  | .error letter => .error (.unknownFlag letter literal)
  | .ok flags =>
      match Pattern.compile literal.body flags with
      | .ok pattern => .ok pattern
      | .error failure => .error (.badPattern literal failure)

namespace Check

/-- The check that passes when one of the checks in a list does. -/
def ofGroup : List Check → Check
  | [check] => check
  | checks => .any checks

/-- The tag of an alternative and its check without regard to members. -/
def compileOwn (aliases : AliasTable) (node : Alternative) :
    Except CompileError (Text × Check) :=
  match node.literal with
  | some literal =>
      if node.negated then .error (.negatedLiteral literal)
      else (literal.compile).map fun pattern => (Kind.string.tag, .format literal pattern)
  | none =>
      match aliases.resolve? node.name with
      | some tag => .ok (tag, .kind tag node.negated)
      | none => .error (.unknownType node.name)

/-- The check for the keys that some alternatives declare, if any does. -/
def compileKeys (aliases : AliasTable) (members : List Alternative) :
    Except CompileError (Option Check) :=
  let keys := (members.filter Alternative.hasKey).map Alternative.keyAlternative
  if keys.isEmpty then .ok none
  else
    (keys.mapM fun node => (compileOwn aliases node).map Prod.snd).map fun checks =>
      some (ofGroup checks)

/-- Put a check for members under a check for a container. -/
def withMembers (tag : Text) (own member : Check) (key : Option Check) :
    Except CompileError Check :=
  match Shape.ofTag? tag with
  | none => .error (.noMembers tag)
  | some .array =>
      if key.isSome then .error .keysOfArray else .ok (.container own .array member none)
  | some shape => .ok (.container own shape member key)

mutual

/-- Compile one alternative. -/
def compileAlternative (aliases : AliasTable) : Alternative → Except CompileError Check
  | ⟨name, negated, literal, members, key, keyLiteral, keyNegated⟩ => do
      let (tag, own) ←
        compileOwn aliases ⟨name, negated, literal, [], key, keyLiteral, keyNegated⟩
      match members with
      | [] => return own
      | first :: rest => do
          if negated then throw (.negatedMembers tag)
          if (Shape.ofTag? tag).isNone then throw (.noMembers tag)
          let check ← compileAlternative aliases first
          let checks ← compileEach aliases rest
          let key ← compileKeys aliases (first :: rest)
          withMembers tag own (ofGroup (check :: checks)) key

/-- Compile alternatives one after the other. -/
def compileEach (aliases : AliasTable) :
    List Alternative → Except CompileError (List Check)
  | [] => return []
  | node :: rest => do
      let check ← compileAlternative aliases node
      let checks ← compileEach aliases rest
      return check :: checks

end

/-- Compile a list of alternatives to one check. -/
def compileGroup (aliases : AliasTable) (alternatives : List Alternative) :
    Except CompileError Check :=
  if alternatives.isEmpty then .error .emptyExpression
  else (compileEach aliases alternatives).map ofGroup

end Check
end KindExpr
