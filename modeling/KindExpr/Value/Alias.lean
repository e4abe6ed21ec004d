import KindExpr.Value.Kind

/-!
# Names of kinds

A type expression names a kind by its tag or by a shorter alias. An alias table
maps names to tags; it may be any table, and the standard one is given here.
-/

namespace KindExpr

/-- A table of type names with the tags they stand for. -/
abbrev AliasTable := List (Text × Text)

namespace AliasTable

/-- The tag a name stands for. -/
def resolve? (table : AliasTable) (name : Text) : Option Text :=
  table.lookup name

/-- All kinds, by the order of their tags. -/
def kinds : List Kind :=
  [.array, .boolean, .buffer, .cls, .date, .error, .function, .generator, .inst, .map,
    .null, .number, .object, .regexp, .set, .string]

/-- The names of a kind besides its tag, in alphabetical order. -/
def shortNames : Kind → List Text
  | .array => ["a", "arr", "list"]
  | .boolean => ["b", "bool"]
  | .buffer => ["buf", "bytes"]
  | .cls => ["cls", "type"]
  | .date => ["d", "datetime"]
  | .error => ["e", "err", "exc"]
  | .function => ["f", "fn", "func"]
  | .generator => ["g", "gen"]
  | .inst => ["i", "inst"]
  | .map => ["m"]
  | .null => ["nil", "none"]
  | .number => ["float", "int", "n", "num"]
  | .object => ["dict", "o", "obj"]
  | .regexp => ["re", "regex"]
  | .set => []
  | .string => ["s", "str"]

/-- The standard table: every tag stands for itself, every short name for its kind. -/
def standard : AliasTable :=
  kinds.flatMap fun kind =>
    (kind.tag :: shortNames kind).map fun name => (name, kind.tag)

/-- A table in the order of tags, and of names under one tag. -/
def sorted (table : AliasTable) : AliasTable :=
  table.mergeSort fun left right =>
    !(right.2 ≤ left.2) || (left.2 = right.2 && left.1 ≤ right.1)

end AliasTable
end KindExpr
