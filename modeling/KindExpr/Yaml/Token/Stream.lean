import KindExpr.Yaml.Token.Block
import KindExpr.Yaml.Token.Name
import KindExpr.Yaml.Token.Plain
import KindExpr.Yaml.Token.Quoted

/-!
# The tokens of a YAML text in order

A token stream gives one token after the other. A token that may turn out to be
the key of a mapping is held back until this is decided: the colon that makes it
one puts a key token, and perhaps the start of a mapping, in front of it.

A key without an indicator of its own stands on one line and is followed by a
colon within 1024 characters.
-/

namespace KindExpr
namespace Yaml

/-- A token that may be the start of a key. -/
structure KeyCandidate where
  /-- The number of tokens in front of it. -/
  position : Nat
  /-- Whether only a key can stand there. -/
  required : Bool
  index : Nat
  mark : Mark
  deriving Repr

/-- The tokens of a text from some point on. -/
structure TokenStream where
  input : Input
  /-- Whether the end of the text was reached. -/
  finished : Bool
  /-- The tokens that were read ahead. -/
  queue : List Token
  /-- The number of tokens that were taken. -/
  taken : Nat
  /-- How many brackets are open; negative when too many were closed. -/
  depth : Int
  /-- The indentation of the block around, with none outside of all blocks. -/
  indent : Int
  /-- The indentations of the blocks around that one, the innermost first. -/
  outer : List Int
  /-- Whether a key may start here. -/
  keyAllowed : Bool
  /-- The candidates for a key, one for each depth of brackets at most. -/
  candidates : List (Int × KeyCandidate)
  deriving Repr

/-- A step on a token stream that gives a result. -/
abbrev Streaming := ExceptT Fault (StateM TokenStream)

namespace TokenStream

/-- The tokens of a whole text. -/
def start (text : List Code) : TokenStream where
  input := .start text
  finished := false
  queue := []
  taken := 0
  depth := 0
  indent := -1
  outer := []
  keyAllowed := true
  candidates := []

/-- The number of tokens that are taken or read ahead. -/
def position (stream : TokenStream) : Nat :=
  stream.taken + stream.queue.length

/-- Whether brackets are open. -/
def inFlow (stream : TokenStream) : Bool :=
  stream.depth ≠ 0

/-- The place of the next character. -/
def mark (stream : TokenStream) : Mark :=
  stream.input.mark

/-- The column of the next character. -/
def column (stream : TokenStream) : Int :=
  Int.ofNat stream.input.column

/-- The candidate at the current depth. -/
def candidate? (stream : TokenStream) : Option KeyCandidate :=
  stream.candidates.lookup stream.depth

/-- Append a token. -/
def append (stream : TokenStream) (token : Token) : TokenStream :=
  { stream with queue := stream.queue ++ [token] }

/-- Append a token that takes no characters. -/
def appendMark (stream : TokenStream) (kind : TokenKind) : TokenStream :=
  stream.append ⟨kind, stream.mark, stream.mark⟩

/-- Insert a token in front of the one at a position. -/
def insert (stream : TokenStream) (position : Nat) (token : Token) : TokenStream :=
  let place := position - stream.taken
  { stream with queue := stream.queue.take place ++ token :: stream.queue.drop place }

/-- Forget the candidate at the current depth. -/
def dropCandidate (stream : TokenStream) : TokenStream :=
  { stream with
    candidates := stream.candidates.filter fun entry => entry.1 ≠ stream.depth }

/-- Say whether a key may start. -/
def allowKey (stream : TokenStream) (allowed : Bool) : TokenStream :=
  { stream with keyAllowed := allowed }

/-- Close the blocks that are indented deeper than a column. Between brackets
indentation has no meaning. -/
def closeBlocks (stream : TokenStream) (column : Int) : TokenStream :=
  if stream.inFlow then stream else
  let closed := stream.indent :: stream.outer
  let left := closed.dropWhile fun indent => indent > column
  let count := closed.length - left.length
  let token : Token := ⟨.blockEnd, stream.mark, stream.mark⟩
  { stream with
    queue := stream.queue ++ List.replicate count token
    indent := left.headD (-1)
    outer := left.tail }

/-- Open a block at a column that is deeper than the block around, and say
whether this was so. -/
def openBlock (stream : TokenStream) (column : Int) : Bool × TokenStream :=
  if stream.indent < column then
    (true, { stream with indent := column, outer := stream.indent :: stream.outer })
  else (false, stream)

end TokenStream

namespace Streaming

/-- Do a reading on the characters of the stream. -/
def read (reading : Reading α) : Streaming α := do
  let stream ← get
  let (result, input) := reading.run.run stream.input
  set { stream with input }
  match result with
  | .ok found => return found
  | .error fault => throw fault

/-- A problem at the next character. -/
def fail (context : Option (Context × Option Mark)) (problem : Problem) :
    Streaming α := do
  throw (.at context problem (← get).mark)

/-- A candidate that had to be a key is none. -/
def checkMissed (candidate : KeyCandidate) : Streaming Unit := do
  if candidate.required then
    fail (some (.simpleKey, some candidate.mark)) .noValueIndicator

/-- Forget the candidate at the current depth, which must not be a required one. -/
def dropCandidate : Streaming Unit := do
  if let some candidate := (← get).candidate? then checkMissed candidate
  modify TokenStream.dropCandidate

/-- Forget the candidates that are too far away. -/
def dropStale : Streaming Unit := do
  let stream ← get
  let isStale (candidate : KeyCandidate) : Bool :=
    candidate.mark.line ≠ stream.mark.line || stream.input.index > candidate.index + 1024
  for (_, candidate) in stream.candidates do
    if isStale candidate then checkMissed candidate
  set { stream with candidates := stream.candidates.filter fun entry => !isStale entry.2 }

/-- Note that the next token may be a key. -/
def saveCandidate : Streaming Unit := do
  if (← get).keyAllowed then
    dropCandidate
    let stream ← get
    let candidate : KeyCandidate :=
      { position := stream.position
        required := !stream.inFlow && stream.indent = stream.column
        index := stream.input.index
        mark := stream.mark }
    set { stream with candidates := stream.candidates ++ [(stream.depth, candidate)] }

/-- Append a token of some characters. -/
def appendToken (kind : TokenKind) (size : Nat) : Streaming Unit :=
  modify fun stream =>
    let input := stream.input.skip size
    { stream.append ⟨kind, stream.mark, input.mark⟩ with input }

/-- Append a token that a reading gives. -/
def appendReading (reading : Reading TokenKind) : Streaming Unit := do
  let start := (← get).mark
  let kind ← read reading
  modify fun stream => stream.append ⟨kind, start, stream.mark⟩

/-- Pass over spaces, comments and line breaks. After a line break outside of
brackets a key may start. -/
def skipBlanks : Streaming Unit := do
  let rec loop : Nat → TokenStream → TokenStream
    | 0, stream => stream
    | fuel + 1, stream =>
        let input := stream.input.skipSpaces.skipComment
        match input.takeBreak with
        | ([], _) => { stream with input }
        | (_, after) =>
            let keyAllowed := stream.keyAllowed || !stream.inFlow
            loop fuel { stream with input := after, keyAllowed }
  modify fun stream =>
    let input :=
      if stream.input.index = 0 && stream.input.next = .char '\ufeff' then
        stream.input.step
      else stream.input
    loop input.fuel { stream with input }

/-- The end of the text. -/
def streamEnd : Streaming Unit := do
  modify fun stream => stream.closeBlocks (-1)
  dropCandidate
  modify fun stream =>
    { stream.appendMark .streamEnd with
      keyAllowed := false, candidates := [], finished := true }

/-- A directive. -/
def directive : Streaming Unit := do
  modify fun stream => stream.closeBlocks (-1)
  dropCandidate
  modify fun stream => stream.allowKey false
  let start := (← get).mark
  let (found, stop) ← read Reading.directive
  modify fun stream => stream.append ⟨.directive found, start, stop⟩

/-- The start or the end of a document. -/
def documentMark (kind : TokenKind) : Streaming Unit := do
  modify fun stream => stream.closeBlocks (-1)
  dropCandidate
  modify fun stream => stream.allowKey false
  appendToken kind 3

/-- An opening bracket. -/
def openBracket (kind : TokenKind) : Streaming Unit := do
  saveCandidate
  modify fun stream => { stream with depth := stream.depth + 1, keyAllowed := true }
  appendToken kind 1

/-- A closing bracket. -/
def closeBracket (kind : TokenKind) : Streaming Unit := do
  dropCandidate
  modify fun stream => { stream with depth := stream.depth - 1, keyAllowed := false }
  appendToken kind 1

/-- A comma. -/
def flowEntry : Streaming Unit := do
  modify fun stream => stream.allowKey true
  dropCandidate
  appendToken .flowEntry 1

/-- Open a block with an indicator, which must be allowed there. -/
def indicatorBlock (kind : TokenKind) (problem : Problem) : Streaming Unit := do
  let stream ← get
  unless stream.inFlow do
    unless stream.keyAllowed do fail none problem
    let (opened, inner) := stream.openBlock stream.column
    set (if opened then inner.appendMark kind else inner)

/-- A dash. -/
def blockEntry : Streaming Unit := do
  indicatorBlock .blockSequenceStart .sequenceHere
  modify fun stream => stream.allowKey true
  dropCandidate
  appendToken .blockEntry 1

/-- A question mark. -/
def key : Streaming Unit := do
  indicatorBlock .blockMappingStart .keyHere
  modify fun stream => stream.allowKey (!stream.inFlow)
  dropCandidate
  appendToken .key 1

/-- A colon. It makes a key of the candidate at this depth. -/
def value : Streaming Unit := do
  match (← get).candidate? with
  | some candidate =>
      modify fun stream =>
        let insertHere (stream : TokenStream) (kind : TokenKind) : TokenStream :=
          stream.insert candidate.position ⟨kind, candidate.mark, candidate.mark⟩
        let stream := insertHere stream.dropCandidate .key
        let (opened, inner) :=
          if stream.inFlow then (false, stream)
          else stream.openBlock (Int.ofNat candidate.mark.column)
        (if opened then insertHere inner .blockMappingStart else inner).allowKey false
  | none =>
      indicatorBlock .blockMappingStart .valueHere
      modify fun stream => stream.allowKey (!stream.inFlow)
      dropCandidate
  appendToken .value 1

/-- A token that may be a key and after which none may start. -/
def keyLike (reading : Reading TokenKind) : Streaming Unit := do
  saveCandidate
  modify fun stream => stream.allowKey false
  appendReading reading

/-- A block scalar. -/
def blockScalar (folded : Bool) : Streaming Unit := do
  modify fun stream => stream.allowKey true
  dropCandidate
  let stream ← get
  let (text, stop) ← read (Reading.blockScalar folded stream.indent)
  modify fun after => after.append ⟨.scalar text false, stream.mark, stop⟩

/-- A plain scalar. After a line break a key may start again. -/
def plainScalar : Streaming Unit := do
  saveCandidate
  let stream ← get
  let (text, stop, broken) ← read (Reading.plainScalar stream.inFlow stream.indent)
  modify fun after =>
    (after.append ⟨.scalar text true, stream.mark, stop⟩).allowKey broken

/-- Whether a plain scalar can start with a character that another one follows. -/
def startsPlain (inFlow : Bool) (c following : Code) : Bool :=
  !(isBlankOrEnd c || ("-?:,[]\x7b\x7d#&*!|>'\"%@" : Text).toList.contains c ||
    c.toNat = 0x60) ||
    (!isBlankOrEnd following && (c = '-' || (!inFlow && (c = '?' || c = ':'))))

/-- Read one more token, or several when blocks end. -/
def readMore : Streaming Unit := do
  skipBlanks
  dropStale
  modify fun stream => stream.closeBlocks stream.column
  let stream ← get
  let input := stream.input
  let c := input.next
  let following := input.peek 1
  let atStart := input.column = 0
  let separate := isBlankOrEnd following
  if c = endChar then streamEnd
  else if c = '%' && atStart then directive
  else if c = '-' && atStart && input.atDocumentIndicator then documentMark .documentStart
  else if c = '.' && atStart && input.atDocumentIndicator then documentMark .documentEnd
  else if c = '[' then openBracket .flowSequenceStart
  else if c = '\x7b' then openBracket .flowMappingStart
  else if c = ']' then closeBracket .flowSequenceEnd
  else if c = '\x7d' then closeBracket .flowMappingEnd
  else if c = ',' then flowEntry
  else if c = '-' && separate then blockEntry
  else if c = '?' && (stream.inFlow || separate) then key
  else if c = ':' && (stream.inFlow || separate) then value
  else if c = '*' then keyLike (return .aliasOf (← Reading.anchorName .aliasName))
  else if c = '&' then keyLike (return .anchor (← Reading.anchorName .anchor))
  else if c = '!' then
    keyLike do
      let (handle, suffix) ← Reading.tag
      return .tag handle suffix
  else if c = '|' && !stream.inFlow then blockScalar false
  else if c = '>' && !stream.inFlow then blockScalar true
  else if c = '\'' then keyLike (return .scalar (← Reading.quotedScalar false) false)
  else if c = '"' then keyLike (return .scalar (← Reading.quotedScalar true) false)
  else if startsPlain stream.inFlow c following then plainScalar
  else fail (some (.nextToken, none)) (.noToken c)

/-- Whether it is open what the next token is. -/
def isUndecided (stream : TokenStream) : Bool :=
  !stream.finished &&
    (stream.queue.isEmpty ||
      stream.candidates.any fun entry => entry.2.position = stream.taken)

/-- Read tokens until the next one is decided. -/
def settle : Nat → Streaming Unit
  | 0 => return ()
  | fuel + 1 => do
      let stream ← get
      unless stream.finished || stream.queue.isEmpty do dropStale
      if isUndecided (← get) then
        readMore
        settle fuel

/-- The next token, which is left in the stream. -/
def peek : Streaming Token := do
  settle (← get).input.fuel
  let stream ← get
  return stream.queue.headD ⟨.streamEnd, stream.mark, stream.mark⟩

/-- Take the next token. -/
def take : Streaming Token := do
  let token ← peek
  modify fun stream =>
    { stream with queue := stream.queue.tail, taken := stream.taken + 1 }
  return token

end Streaming
end Yaml
end KindExpr
