import KindExpr.Expr.Items

/-!
# Cache keys

A compiled check is remembered under the text of its expression and the placeholder
values. Texts and patterns are kept as what they are; a value that cannot stand for a
placeholder is kept as its type and how it is shown. A registered expression may be a
tuple of texts, which is kept as its items.
-/

namespace KindExpr

/-- What a placeholder value contributes to a key. -/
inductive PlaceholderKey where
  | text (value : Text)
  | pattern (source : Text) (flags : Pattern.Flags)
  | bytePattern (source : List UInt8) (flags : Pattern.Flags)
  | other (typeName shown : Text)
  deriving Repr, DecidableEq

/-- The key of a placeholder value. -/
def Value.placeholderKey (value : Value) : PlaceholderKey :=
  match value with
  | .text content => .text content
  | .derivedText content => .text content
  | .pattern compiled => .pattern compiled.source compiled.flags
  | .bytePattern compiled => .bytePattern compiled.source compiled.flags
  | _ => .other value.typeName value.display

/-- Whether a placeholder value can be part of a key: a value that is kept as it is
shown must be writable. -/
def Value.isKeyPart (value : Value) : Bool :=
  match value.placeholderKey with
  | .other _ _ => value.isWritable
  | _ => true

/-- The keys of some placeholder values, if all of them have one. -/
def PlaceholderKey.ofValues? (values : List Value) : Option (List PlaceholderKey) :=
  if values.all Value.isKeyPart then some (values.map Value.placeholderKey) else none

/-- An item of an expression that is no text. -/
inductive ItemKey where
  | text (value : Text)
  | bytes (content : List UInt8)
  deriving Repr, DecidableEq

/-- What an expression contributes to a key. Of the expressions that are no
texts only tuples are keys. -/
inductive ExpressionKey where
  | text (value : Text)
  | items (items : List ItemKey)
  deriving Repr, DecidableEq

/-- The key of an item that an expression can have. -/
def Value.itemKey (item : Value) : Except SourceFault ItemKey :=
  match item with
  | .text value => .ok (.text value)
  | .derivedText value => .ok (.text value)
  | .bytes .fixed content => .ok (.bytes content)
  | _ => .error (.noKey item.typePath)

/-- The key of an expression. -/
def Value.expressionKey (expression : Value) : Except SourceFault ExpressionKey :=
  match expression with
  | .text value => .ok (.text value)
  | .derivedText value => .ok (.text value)
  | .point x y => ([x, y].mapM Value.itemKey).map .items
  | _ =>
      match expression.container? with
      | some (.tuple items) => (items.mapM Value.itemKey).map .items
      | _ => .error (.noKey expression.typePath)

/-- The key of an expression with its placeholder values. -/
structure CacheKey where
  expression : ExpressionKey
  placeholders : List PlaceholderKey
  deriving Repr, DecidableEq

/-- The key of a text with some placeholder values, if there is one. -/
def CacheKey.of? (expression : Text) (placeholders : List Value) : Option CacheKey :=
  (PlaceholderKey.ofValues? placeholders).map (⟨.text expression, ·⟩)

/-- The key of a text without placeholders. -/
def CacheKey.ofText (expression : Text) : CacheKey :=
  ⟨.text expression, []⟩

end KindExpr
