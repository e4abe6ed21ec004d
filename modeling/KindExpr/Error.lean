import KindExpr.Check.Run
import KindExpr.Expr.Items
import KindExpr.Preload.Basic
import KindExpr.Settings.Basic

/-!
# Errors

Everything that can go wrong when values are checked against type arguments, by cause.
-/

namespace KindExpr

/-- An error. -/
inductive Error where
  | parse (error : ParseError)
  | compile (error : CompileError)
  | run (fault : RunFault)
  | call (fault : CallFault)
  | preload (fault : PreloadFault)
  | settings (fault : SettingsFault)
  | source (fault : SourceFault)
  /-- The expression that is looked up has this type instead of being a text. -/
  | expressionType (typeName : Text)
  /-- A cache cannot hold this number of checks. -/
  | cacheSize (size : Int)
  /-- A value of this kind is no type argument. -/
  | typeArgument (kind : Text)
  /-- A type argument contains itself. -/
  | endless
  /-- The name of a value is shown so and is no name. -/
  | valueName (shown : Text)
  /-- A value shown so was given for a classified type argument. -/
  | unclassified (shown : Text)
  /-- A value that a message or a key would show has a number with too many digits. -/
  | unwritable
  /-- A value under a name was rejected with a message. -/
  | rejected (text name : Text)

/-- The message of an error. -/
def Error.message : Error → Text
  | parse error => error.message
  | compile error => error.message
  | run fault => fault.message
  | call fault => fault.message
  | preload fault => fault.message
  | settings fault => fault.message
  | source fault => fault.message
  | expressionType typeName => "Type expression must be a string, got " ++ typeName
  | cacheSize size => "Cache size must be positive or None, got " ++ toString size
  | typeArgument kind => "Invalid assertion type: " ++ kind
  | endless => "maximum recursion depth exceeded"
  | valueName shown => "Name must be a non-empty string, got " ++ shown
  | unclassified shown => "Unknown type spec: " ++ shown
  | unwritable => Numeral.tooLongToWrite
  | rejected text _ => text

/-- Whether an error is that of an expression: it is malformed or cannot be
compiled. A pattern can also be refused for its size or for flags that exclude each
other, which is no error of the expression. -/
def Error.isOfExpression : Error → Bool
  | parse error => error.fault ≠ .unwritableValue
  | compile (.badPattern _ (.malformed _ _)) => true
  | compile (.badPattern _ _) => false
  | compile _ => true
  | _ => false

/-- Whether a fault tells that a file cannot be read as a list of expressions. The
faults of some values in it do not tell that. -/
def PreloadFault.isReadFault : PreloadFault → Bool
  | file _ => false
  | yaml _ (.value .codeTooLarge) => false
  | yaml _ (.value .floatTooLarge) => false
  | yaml _ (.value .timestampOfMapping) => false
  | yaml _ (.value .endless) => false
  | yaml _ (.value .noDigits) => false
  | yaml _ (.value (.noBoolean _)) => false
  | yaml _ (.value .noTimestamp) => false
  | _ => true

end KindExpr
