import KindExpr.Number.Numeral
import KindExpr.Text.Encoded

/-!
# What can be wrong with a YAML text

A fault names the problem and its place, and often also what was being read and
where that began. Values that have the form of a number or a date without being
one are faults of their own.
-/

namespace KindExpr
namespace Yaml

/-- A place in a text: line and column, counted from zero. -/
structure Mark where
  line : Nat
  column : Nat
  deriving Repr, DecidableEq

/-- A place as it is written in messages. -/
def Mark.text (mark : Mark) (name : Text) : Text :=
  "  in \"" ++ name ++ "\", line " ++ toString (mark.line + 1) ++ ", column " ++
    toString (mark.column + 1)

/-- What was being read. -/
inductive Context where
  | nextToken
  | simpleKey
  | directive
  | anchor
  | aliasName
  | tag
  | tagName
  | directiveName
  | blockScalar
  | doubleQuoted
  | quoted
  | node
  | blockNode
  | flowNode
  | blockCollection
  | blockMapping
  | flowSequence
  | flowMapping
  | singleDocument
  | repeatedAnchor (name : Text)
  | mapping
  | orderedMap
  | pairs
  deriving Repr, DecidableEq

/-- The text of a context. -/
def Context.text : Context → Text
  | nextToken => "while scanning for the next token"
  | simpleKey => "while scanning a simple key"
  | directive => "while scanning a directive"
  | anchor => "while scanning an anchor"
  | aliasName => "while scanning an alias"
  | tag => "while scanning a tag"
  | tagName => "while parsing a tag"
  | directiveName => "while parsing a directive"
  | blockScalar => "while scanning a block scalar"
  | doubleQuoted => "while scanning a double-quoted scalar"
  | quoted => "while scanning a quoted scalar"
  | node => "while parsing a node"
  | blockNode => "while parsing a block node"
  | flowNode => "while parsing a flow node"
  | blockCollection => "while parsing a block collection"
  | blockMapping => "while parsing a block mapping"
  | flowSequence => "while parsing a flow sequence"
  | flowMapping => "while parsing a flow mapping"
  | singleDocument => "expected a single document in the stream"
  | repeatedAnchor name =>
      "found duplicate anchor " ++ Text.quote name ++ "; first occurrence"
  | mapping => "while constructing a mapping"
  | orderedMap => "while constructing an ordered map"
  | pairs => "while constructing pairs"

/-- What was found instead of what should be there. -/
inductive Problem where
  | noToken (c : Code)
  | noValueIndicator
  | sequenceHere
  | keyHere
  | valueHere
  | noName (c : Code)
  | noVersionPoint (c : Code)
  | noVersionEnd (c : Code)
  | noVersionDigit (c : Code)
  | noCharacter (expected found : Code)
  | noAddress (c : Code)
  | noAddressDigits (c : Code)
  | badAddress (bytes : List UInt8)
  | noLineEnd (c : Code)
  | zeroIndentation
  | noBlockIndicator (c : Code)
  | noEscapeDigits (count : Nat) (c : Code)
  | unknownEscape (c : Code)
  | endInScalar
  | documentInScalar
  | noDocumentStart (found : Text)
  | repeatedVersion
  | unknownVersion
  | repeatedHandle (handle : Text)
  | unknownHandle (handle : Text)
  | noContent (found : Text)
  | noBlockEnd (found : Text)
  | noFlowEntry (closing : Code) (found : Text)
  | unknownAlias (name : Text)
  | anotherDocument
  | secondAnchor
  | unknownTag (tag : Text)
  | recursiveNode
  | unhashableKey
  | wrongNode (expected found : Text)
  | noMergeItem (found : Text)
  | noMerge (found : Text)
  | noSequence (found : Text)
  | noPair (found : Text)
  | wrongPairSize (count : Nat)
  | notAscii (text : List Code)
  | badPadding
  | badSize (count : Nat)
  deriving Repr, DecidableEq

/-- The text of a problem. -/
def Problem.text : Problem → Text
  | noToken c => "found character " ++ shown c ++ " that cannot start any token"
  | noValueIndicator => "could not find expected ':'"
  | sequenceHere => "sequence entries are not allowed here"
  | keyHere => "mapping keys are not allowed here"
  | valueHere => "mapping values are not allowed here"
  | noName c => "expected alphabetic or numeric character, but found " ++ shown c
  | noVersionPoint c => "expected a digit or '.', but found " ++ shown c
  | noVersionEnd c => "expected a digit or ' ', but found " ++ shown c
  | noVersionDigit c => "expected a digit, but found " ++ shown c
  | noCharacter expected found =>
      "expected " ++ shown expected ++ ", but found " ++ shown found
  | noAddress c => "expected URI, but found " ++ shown c
  | noAddressDigits c =>
      "expected URI escape sequence of 2 hexadecimal numbers, but found " ++ shown c
  | badAddress bytes => Text.utf8Message bytes
  | noLineEnd c => "expected a comment or a line break, but found " ++ shown c
  | zeroIndentation => "expected indentation indicator in the range 1-9, but found 0"
  | noBlockIndicator c =>
      "expected chomping or indentation indicators, but found " ++ shown c
  | noEscapeDigits count c =>
      "expected escape sequence of " ++ toString count ++
        " hexadecimal numbers, but found " ++
        shown c
  | unknownEscape c => "found unknown escape character " ++ shown c
  | endInScalar => "found unexpected end of stream"
  | documentInScalar => "found unexpected document separator"
  | noDocumentStart found => "expected '<document start>', but found " ++ Text.quote found
  | repeatedVersion => "found duplicate YAML directive"
  | unknownVersion => "found incompatible YAML document (version 1.* is required)"
  | repeatedHandle handle => "duplicate tag handle " ++ Text.quote handle
  | unknownHandle handle => "found undefined tag handle " ++ Text.quote handle
  | noContent found => "expected the node content, but found " ++ Text.quote found
  | noBlockEnd found => "expected <block end>, but found " ++ Text.quote found
  | noFlowEntry closing found =>
      "expected ',' or " ++ shown closing ++ ", but got " ++ Text.quote found
  | unknownAlias name => "found undefined alias " ++ Text.quote name
  | anotherDocument => "but found another document"
  | secondAnchor => "second occurrence"
  | unknownTag tag => "could not determine a constructor for the tag " ++ Text.quote tag
  | recursiveNode => "found unconstructable recursive node"
  | unhashableKey => "found unhashable key"
  | wrongNode expected found => "expected a " ++ expected ++ " node, but found " ++ found
  | noMergeItem found => "expected a mapping for merging, but found " ++ found
  | noMerge found =>
      "expected a mapping or list of mappings for merging, but found " ++ found
  | noSequence found => "expected a sequence, but found " ++ found
  | noPair found => "expected a mapping of length 1, but found " ++ found
  | wrongPairSize count =>
      "expected a single mapping item, but found " ++ toString count ++ " items"
  | notAscii text =>
      "failed to convert base64 data into ascii: " ++ Text.asciiMessage text
  | badPadding => "failed to decode base64 data: Incorrect padding"
  | badSize count =>
      "failed to decode base64 data: Invalid base64-encoded string: " ++
        "number of data characters (" ++
        toString count ++ ") cannot be 1 more than a multiple of 4"
where
  /-- A character between quotation marks. -/
  shown (c : Code) : Text := Text.quote (Text.singleton c)

/-- A value that its tag does not allow. -/
inductive ValueFault where
  /-- A code point above the largest one. -/
  | noCharacter
  /-- A code point that does not fit into a machine word. -/
  | codeTooLarge
  /-- A number of no characters at all. -/
  | noDigits
  | tooManyDigits (count : Nat)
  | noInteger (base : Nat) (text : Text)
  | noFloat (text : Text)
  /-- An integer that is larger than every floating-point number. -/
  | floatTooLarge
  | noBoolean (text : Text)
  | noTimestamp
  /-- A mapping has the tag of a point in time. -/
  | timestampOfMapping
  /-- A mapping is its own plain value. -/
  | endless
  | yearRange (year : Nat)
  | monthRange
  | dayRange
  | hourRange
  | minuteRange
  | secondRange
  | offsetRange (minutes : Int)
  deriving Repr, DecidableEq

/-- The span of some minutes as it is shown. -/
def offsetText (minutes : Int) : String :=
  let days := minutes.fdiv 1440
  let seconds := (minutes.fmod 1440) * 60
  let parts :=
    (if days = 0 then [] else ["days=" ++ toString days]) ++
      (if seconds = 0 then [] else ["seconds=" ++ toString seconds])
  "datetime.timedelta(" ++ ", ".intercalate parts ++ ")"

/-- The text of a value fault. -/
def ValueFault.text : ValueFault → Text
  | noCharacter => "chr() arg not in range(0x110000)"
  | codeTooLarge => "Python int too large to convert to C int"
  | noDigits => "string index out of range"
  | tooManyDigits count => Numeral.tooManyDigits count
  | noInteger base text =>
      "invalid literal for int() with base " ++ toString base ++ ": " ++ Text.quote text
  | noFloat text => "could not convert string to float: " ++ Text.quote text
  | floatTooLarge => "int too large to convert to float"
  | noBoolean text => Text.quote text
  | noTimestamp => "'NoneType' object has no attribute 'groupdict'"
  | timestampOfMapping => "expected string or bytes-like object, got 'list'"
  | endless => "maximum recursion depth exceeded"
  | yearRange year => "year " ++ toString year ++ " is out of range"
  | monthRange => "month must be in 1..12"
  | dayRange => "day is out of range for month"
  | hourRange => "hour must be in 0..23"
  | minuteRange => "minute must be in 0..59"
  | secondRange => "second must be in 0..59"
  | offsetRange minutes =>
      "offset must be a timedelta strictly between -timedelta(hours=24) and " ++
        "timedelta(hours=24), not " ++ offsetText minutes ++ "."

/-- Why a text is no YAML document. -/
inductive Fault where
  /-- A character that no YAML text may hold, and its position. -/
  | forbidden (c : Code) (position : Nat)
  /-- A problem at a mark, within a context that began at a mark. -/
  | at (context : Option (Context × Option Mark)) (problem : Problem) (mark : Mark)
  /-- A value that its tag does not allow. -/
  | value (fault : ValueFault)
  deriving Repr, DecidableEq

/-- The message of a fault in a named text. -/
def Fault.message (name : Text) : Fault → Text
  | forbidden c position =>
      "unacceptable character #x" ++ Text.hexDigits 4 c.toNat ++
        ": special characters are not allowed\n  in \"" ++ name ++ "\", position " ++
        toString position
  | .at context problem mark =>
      let before :=
        match context with
        | none => []
        | some (reading, none) => [reading.text]
        | some (reading, some start) =>
            if start = mark then [reading.text] else [reading.text, start.text name]
      Text.intercalate "\n" (before ++ [problem.text, mark.text name])
  | value fault => fault.text

end Yaml
end KindExpr
