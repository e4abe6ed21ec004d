import KindExpr.Yaml.Fault

/-!
# Tokens of YAML

A token is a mark of structure, a property of a node or a scalar, with the
place where it starts and where it stops. The structure that indentation
expresses has tokens of its own.
-/

namespace KindExpr
namespace Yaml

/-- What a line that starts with a percent sign says. -/
inductive Directive where
  /-- The version of the language, by its first number. -/
  | version (major : Nat)
  /-- A handle for the tags that start with some text. -/
  | handle (name address : Text)
  | other
  deriving Repr, DecidableEq

/-- What a token is. -/
inductive TokenKind where
  | directive (directive : Directive)
  | documentStart
  | documentEnd
  | streamEnd
  | blockSequenceStart
  | blockMappingStart
  | blockEnd
  | flowSequenceStart
  | flowSequenceEnd
  | flowMappingStart
  | flowMappingEnd
  | blockEntry
  | flowEntry
  | key
  | value
  | aliasOf (name : Text)
  | anchor (name : Text)
  | tag (handle : Option Text) (suffix : Text)
  /-- A scalar, plain or with quotation marks or a block indicator. -/
  | scalar (text : Text) (plain : Bool)
  deriving Repr, DecidableEq

/-- A token with its place. -/
structure Token where
  kind : TokenKind
  start : Mark
  stop : Mark
  deriving Repr

/-- The name of a kind of token in messages. -/
def TokenKind.display : TokenKind → Text
  | directive _ => "<directive>"
  | documentStart => "<document start>"
  | documentEnd => "<document end>"
  | streamEnd => "<stream end>"
  | blockSequenceStart => "<block sequence start>"
  | blockMappingStart => "<block mapping start>"
  | blockEnd => "<block end>"
  | flowSequenceStart => "["
  | flowSequenceEnd => "]"
  | flowMappingStart => "\x7b"
  | flowMappingEnd => "\x7d"
  | blockEntry => "-"
  | flowEntry => ","
  | key => "?"
  | value => ":"
  | aliasOf _ => "<alias>"
  | anchor _ => "<anchor>"
  | tag _ _ => "<tag>"
  | scalar _ _ => "<scalar>"

/-- The name of a token in messages. -/
def Token.display (token : Token) : Text :=
  token.kind.display

end Yaml
end KindExpr
