import KindExpr.Expr.Literal

/-!
# The alternatives of a type expression

A type expression is a list of alternatives. An alternative names a type or holds
a literal, may be negated, may list the alternatives of its members, and may
constrain the key under which a member stands.

`Alternative.outline` describes an alternative by data with named fields, in which
fields without meaning are left out.
-/

namespace KindExpr

/-- Data made of truth values, texts, lists and records. -/
inductive Data where
  | boolean (value : Bool)
  | text (value : Text)
  | list (items : List Data)
  /-- Named fields in order. -/
  | record (fields : List (String × Data))
  deriving Repr

/-- One alternative of a type expression. -/
structure Alternative where
  /-- The type name as written; empty when there is a literal. -/
  name : Text
  /-- Whether everything but the type matches. -/
  negated : Bool
  literal : Option Literal
  /-- The alternatives for the members of a container. -/
  members : List Alternative
  /-- The type name of the key; empty when the key has a literal,
  absent when no key is declared. -/
  key : Option Text
  keyLiteral : Option Literal
  keyNegated : Bool
  deriving Repr

namespace Alternative

/-- The alternative nothing is known about. -/
def blank : Alternative := ⟨"", false, none, [], none, none, false⟩

instance : Inhabited Alternative := ⟨blank⟩

/-- Whether a type name or a literal is there. -/
def hasContent (alternative : Alternative) : Bool :=
  !alternative.name.isEmpty || alternative.literal.isSome

/-- Whether a key is declared. -/
def hasKey (alternative : Alternative) : Bool :=
  alternative.key.isSome

/-- The constraint on the key as an alternative of its own. -/
def keyAlternative (alternative : Alternative) : Alternative :=
  { blank with
    name := alternative.key.getD ""
    negated := alternative.keyNegated
    literal := alternative.keyLiteral }

mutual

/-- Whether two alternatives are equal in every part. -/
def same : Alternative → Alternative → Bool
  | ⟨name, negated, literal, members, key, keyLiteral, keyNegated⟩, other =>
      name = other.name && negated = other.negated && literal = other.literal &&
        sameAll members other.members && key = other.key &&
          keyLiteral = other.keyLiteral &&
        keyNegated = other.keyNegated

/-- Whether two lists of alternatives are equal. -/
def sameAll : List Alternative → List Alternative → Bool
  | [], [] => true
  | alternative :: rest, other :: others => same alternative other && sameAll rest others
  | _, _ => false

end

/-- What an alternative names: the literal as written, or else the type name. -/
def subject (alternative : Alternative) : Text :=
  match alternative.literal with
  | some literal => literal.source
  | none => alternative.name

mutual

/-- The named fields of an alternative. -/
def outline : Alternative → Data
  | ⟨name, negated, literal, members, key, keyLiteral, keyNegated⟩ =>
      let own : Alternative := ⟨name, negated, literal, [], key, keyLiteral, keyNegated⟩
      let negation := if negated then [("negate", Data.boolean true)] else []
      let content :=
        match literal with
        | some written => ("regex", Data.text written.source)
        | none => ("type", Data.text name)
      let keyFields :=
        if own.hasKey then
          ("key", Data.text own.keyAlternative.subject) ::
            (if keyNegated then [("keyNegate", Data.boolean true)] else [])
        else []
      let memberFields :=
        match members with
        | [] => []
        | first :: rest => [("members", Data.list (outline first :: outlineAll rest))]
      .record (negation ++ content :: keyFields ++ memberFields)

/-- The named fields of several alternatives. -/
def outlineAll : List Alternative → List Data
  | [] => []
  | alternative :: rest => outline alternative :: outlineAll rest

end

end Alternative
end KindExpr
