import KindExpr.Yaml.Node.Plain

/-!
# The node of a document

`Document.ofText?` reads the one document of a text. Nodes are read as their tokens
come, so that the fault that is found is the first one in the text.
-/

namespace KindExpr
namespace Yaml

/-- The nodes that were read so far, by their numbers, and those that
have an anchor, by its name. -/
structure Draft where
  nodes : Array Node
  anchors : List (Text × NodeIndex)

/-- The tags that a handle stands for, by the handle. -/
abbrev Handles := List (Text × Text)

/-- The handles that every document has. -/
def standardHandles : Handles :=
  [("!", "!"), ("!!", Tag.domain)]

/-- The properties in front of the content of a node. -/
structure Properties where
  anchor : Option Text
  /-- The tag, with its handle. -/
  tag : Option (Option Text × Text)
  tagMark : Mark
  /-- The place where the properties start, if there are any. -/
  start : Option Mark
  deriving Repr

/-- A reading of nodes. -/
abbrev Composing := StateT Draft Streaming

namespace Composing

/-- The next token. -/
def peek : Composing Token := Streaming.peek

/-- Take the next token. -/
def take : Composing Token := Streaming.take

/-- A problem at a mark. -/
def fail (context : Option (Context × Option Mark)) (problem : Problem) (mark : Mark) :
    Composing α :=
  throw (.at context problem mark)

/-- A tag in front of an anchor or content. -/
def takeTag? : Composing (Option ((Option Text × Text) × Mark)) := do
  match (← peek).kind with
  | .tag handle suffix =>
      let token ← take
      return some ((handle, suffix), token.start)
  | _ => return none

/-- An anchor in front of a tag or content. -/
def takeAnchor? : Composing (Option (Text × Mark)) := do
  match (← peek).kind with
  | .anchor name =>
      let token ← take
      return some (name, token.start)
  | _ => return none

/-- An anchor and a tag, in either order. -/
def properties : Composing Properties := do
  match ← takeAnchor? with
  | some (name, start) =>
      match ← takeTag? with
      | some (tag, mark) => return ⟨some name, some tag, mark, some start⟩
      | none => return ⟨some name, none, start, some start⟩
  | none =>
      match ← takeTag? with
      | some (tag, mark) =>
          return ⟨(← takeAnchor?).map Prod.fst, some tag, mark, some mark⟩
      | none => return ⟨none, none, ⟨0, 0⟩, none⟩

/-- The name of a tag, with its handle replaced by what it stands for. -/
def tagName (handles : Handles) (found : Properties) : Composing (Option Text) := do
  match found.tag with
  | none => return none
  | some (none, suffix) => return some suffix
  | some (some handle, suffix) =>
      match handles.lookup handle with
      | some meaning => return some (meaning ++ suffix)
      | none => fail (some (.node, found.start)) (.unknownHandle handle) found.tagMark

/-- The tag of a name, or another one when no particular tag is named. -/
def tagOr (name : Option Text) (otherwise : Tag) : Tag :=
  match name with
  | none => otherwise
  | some name => if name = "!" then otherwise else .ofName name

/-- Check that an anchor is not in use. -/
def checkAnchor (anchor : Option Text) (start : Mark) : Composing Unit := do
  if let some name := anchor then
    let draft ← get
    if let some first := draft.anchors.lookup name then
      let place := (draft.nodes[first]?.getD default).start
      fail (some (.repeatedAnchor name, some place)) .secondAnchor start

/-- Give an anchor to a node. -/
def bind (anchor : Option Text) (node : NodeIndex) : Composing Unit := do
  if let some name := anchor then
    modify fun draft => { draft with anchors := (name, node) :: draft.anchors }

/-- Give the next number to a node. -/
def add (node : Node) : Composing NodeIndex := do
  let draft ← get
  set { draft with nodes := draft.nodes.push node }
  return draft.nodes.size

/-- A scalar without text. -/
def emptyScalar (mark : Mark) : Composing NodeIndex :=
  add ⟨.null, .scalar "", mark⟩

/-- Check that a block ends here, and take its end. -/
def blockEnd (context : Context) (start : Mark) : Composing Unit := do
  let token ← peek
  if token.kind ≠ .blockEnd then
    fail (some (context, some start)) (.noBlockEnd token.display) token.start
  let _ ← take

/-- Take the comma between two entries, or find that the collection should end. -/
def separator (context : Context) (closing : Code) (start : Mark) : Composing Unit := do
  let token ← peek
  if token.kind ≠ .flowEntry then
    fail (some (context, some start)) (.noFlowEntry closing token.display) token.start
  let _ ← take

/-- The tokens before which an entry of a block mapping is empty. -/
def endsBlockEntry (kind : TokenKind) : Bool :=
  kind = .key || kind = .value || kind = .blockEnd

mutual

/-- A node. In a block it may be a block itself, and as an entry of a mapping also
a sequence without an indentation of its own. -/
def node (handles : Handles) (block compact : Bool) : Nat → Composing NodeIndex
  | 0 => return 0
  | fuel + 1 => do
      let first ← peek
      match first.kind with
      | .aliasOf name =>
          let token ← take
          match (← get).anchors.lookup name with
          | some found => return found
          | none => fail none (.unknownAlias name) token.start
      | _ =>
          let found ← properties
          let name ← tagName handles found
          let token ← peek
          let start := found.start.getD token.start
          content handles block compact found.anchor name
            (found.start.isSome) start token fuel

/-- The content of a node after its properties. -/
def content (handles : Handles) (block compact : Bool) (anchor name : Option Text)
    (named : Bool) (start : Mark) (token : Token) : Nat → Composing NodeIndex
  | 0 => return 0
  | fuel + 1 => do
      let collection (otherwise : Tag) (empty : NodeContent)
        (read : Composing NodeContent) :
          Composing NodeIndex := do
        checkAnchor anchor start
        let opened : Node := ⟨tagOr name otherwise, empty, start⟩
        let index ← add opened
        bind anchor index
        let found ← read
        modify fun draft =>
          { draft with
            nodes := draft.nodes.setIfInBounds index { opened with content := found } }
        return index
      let sequence (read : Composing (List NodeIndex)) : Composing NodeIndex :=
        collection .sequence (.sequence []) (return .sequence (← read))
      let mapping (read : Composing (List (NodeIndex × NodeIndex))) :
        Composing NodeIndex :=
        collection .mapping (.mapping []) (return .mapping (← read))
      let scalar (text : Text) (plain : Bool) : Composing NodeIndex := do
        checkAnchor anchor start
        let implied := if plain || name.isSome then Plain.tagOf text.toList else .text
        let index ← add ⟨tagOr name implied, .scalar text, start⟩
        bind anchor index
        return index
      if compact && token.kind = .blockEntry then
        sequence (compactItems handles fuel)
      else
        match token.kind with
        | .scalar text plain =>
            let _ ← take
            scalar text plain
        | .flowSequenceStart => sequence do
            let opening ← take
            flowItems handles opening.start true fuel
        | .flowMappingStart => mapping do
            let opening ← take
            flowEntries handles opening.start true fuel
        | kind =>
            if block && kind = .blockSequenceStart then
              sequence do
                let opening ← take
                blockItems handles opening.start fuel
            else if block && kind = .blockMappingStart then
              mapping do
                let opening ← take
                blockEntries handles opening.start fuel
            else if named then scalar "" true
            else
              fail (some (if block then .blockNode else .flowNode, some start))
                (.noContent token.display) token.start

/-- The items of a block sequence. -/
def blockItems (handles : Handles) (start : Mark) : Nat → Composing (List NodeIndex)
  | 0 => return []
  | fuel + 1 => do
      if (← peek).kind = .blockEntry then
        let entry ← take
        let kind := (← peek).kind
        let item ←
          if kind = .blockEntry || kind = .blockEnd then emptyScalar entry.stop
          else node handles true false fuel
        return item :: (← blockItems handles start fuel)
      else
        blockEnd .blockCollection start
        return []

/-- The items of a sequence without an indentation of its own. -/
def compactItems (handles : Handles) : Nat → Composing (List NodeIndex)
  | 0 => return []
  | fuel + 1 => do
      if (← peek).kind = .blockEntry then
        let entry ← take
        let kind := (← peek).kind
        let item ←
          if kind = .blockEntry || endsBlockEntry kind then emptyScalar entry.stop
          else node handles true false fuel
        return item :: (← compactItems handles fuel)
      else return []

/-- The entries of a block mapping. -/
def blockEntries (handles : Handles) (start : Mark) :
    Nat → Composing (List (NodeIndex × NodeIndex))
  | 0 => return []
  | fuel + 1 => do
      if (← peek).kind = .key then
        let token ← take
        let key ←
          if endsBlockEntry (← peek).kind then emptyScalar token.stop
          else node handles true true fuel
        let next ← peek
        let value ←
          if next.kind = .value then do
            let colon ← take
            if endsBlockEntry (← peek).kind then emptyScalar colon.stop
            else node handles true true fuel
          else emptyScalar next.start
        return (key, value) :: (← blockEntries handles start fuel)
      else
        blockEnd .blockMapping start
        return []

/-- The items of a sequence in brackets, from the first or a later one on. -/
def flowItems (handles : Handles) (start : Mark) (isFirst : Bool) :
    Nat → Composing (List NodeIndex)
  | 0 => return []
  | fuel + 1 => do
      if (← peek).kind = .flowSequenceEnd then
        let _ ← take
        return []
      else
        unless isFirst do separator .flowSequence ']' start
        let token ← peek
        match token.kind with
        | .flowSequenceEnd =>
            let _ ← take
            return []
        | .key =>
            let pair ← flowPair handles fuel
            let item ← add ⟨.mapping, .mapping [pair], token.start⟩
            return item :: (← flowItems handles start false fuel)
        | _ =>
            let item ← node handles false false fuel
            return item :: (← flowItems handles start false fuel)

/-- A mapping of one entry in a sequence in brackets. -/
def flowPair (handles : Handles) : Nat → Composing (NodeIndex × NodeIndex)
  | 0 => return (0, 0)
  | fuel + 1 => do
      let token ← take
      let kind := (← peek).kind
      let key ←
        if kind = .value || kind = .flowEntry || kind = .flowSequenceEnd then
          emptyScalar token.stop
        else node handles false false fuel
      let next ← peek
      let value ←
        if next.kind = .value then do
          let colon ← take
          let kind := (← peek).kind
          if kind = .flowEntry || kind = .flowSequenceEnd then emptyScalar colon.stop
          else node handles false false fuel
        else emptyScalar next.start
      return (key, value)

/-- The entries of a mapping in braces, from the first or a later one on. -/
def flowEntries (handles : Handles) (start : Mark) (isFirst : Bool) :
    Nat → Composing (List (NodeIndex × NodeIndex))
  | 0 => return []
  | fuel + 1 => do
      if (← peek).kind = .flowMappingEnd then
        let _ ← take
        return []
      else
        unless isFirst do separator .flowMapping '\x7d' start
        let token ← peek
        match token.kind with
        | .flowMappingEnd =>
            let _ ← take
            return []
        | .key =>
            let entry ← flowEntry handles fuel
            return entry :: (← flowEntries handles start false fuel)
        | _ =>
            let key ← node handles false false fuel
            let value ← emptyScalar (← peek).start
            return (key, value) :: (← flowEntries handles start false fuel)

/-- An entry of a mapping in braces that has a key indicator or a colon. -/
def flowEntry (handles : Handles) : Nat → Composing (NodeIndex × NodeIndex)
  | 0 => return (0, 0)
  | fuel + 1 => do
      let token ← take
      let kind := (← peek).kind
      let key ←
        if kind = .value || kind = .flowEntry || kind = .flowMappingEnd then
          emptyScalar token.stop
        else node handles false false fuel
      let next ← peek
      let value ←
        if next.kind = .value then do
          let colon ← take
          let kind := (← peek).kind
          if kind = .flowEntry || kind = .flowMappingEnd then emptyScalar colon.stop
          else node handles false false fuel
        else emptyScalar next.start
      return (key, value)

end

/-- The handles that the directives of a document define. -/
def directives : Nat → Option Nat → Handles → Composing Handles
  | 0, _, handles => return handles
  | fuel + 1, version, handles => do
      match (← peek).kind with
      | .directive directive =>
          let token ← take
          match directive with
          | .version major =>
              if version.isSome then fail none .repeatedVersion token.start
              if major ≠ 1 then fail none .unknownVersion token.start
              directives fuel (some major) handles
          | .handle name meaning =>
              if (handles.lookup name).isSome then
                fail none (.repeatedHandle name) token.start
              directives fuel version (handles ++ [(name, meaning)])
          | .other => directives fuel version handles
      | _ => return handles

/-- Take all ends of documents that come next. -/
def documentEnds : Nat → Composing Unit
  | 0 => return ()
  | fuel + 1 => do
      if (← peek).kind = .documentEnd then
        let _ ← take
        documentEnds fuel

/-- The start of a document with its handles and its place,
unless the text ends before. -/
def documentStart (fuel : Nat) : Composing (Option (Handles × Mark)) := do
  documentEnds fuel
  let first ← peek
  if first.kind = .streamEnd then return none
  let handles ← directives fuel none []
  let token ← peek
  if token.kind ≠ .documentStart then
    fail none (.noDocumentStart token.display) token.start
  let _ ← take
  return some (handles ++ standardHandles, first.start)

/-- The content of a document that has an explicit start. -/
def explicitContent (handles : Handles) (fuel : Nat) : Composing NodeIndex := do
  let token ← peek
  match token.kind with
  | .directive _ => emptyScalar token.start
  | .documentStart => emptyScalar token.start
  | .documentEnd => emptyScalar token.start
  | .streamEnd => emptyScalar token.start
  | _ => node handles true false fuel

/-- The first document, unless the text has none. -/
def firstDocument? (fuel : Nat) : Composing (Option NodeIndex) := do
  let isExplicit :=
    match (← peek).kind with
    | .directive _ => true
    | .documentStart => true
    | .streamEnd => true
    | _ => false
  if isExplicit then
    match ← documentStart fuel with
    | none => return none
    | some (handles, _) => return some (← explicitContent handles fuel)
  else return some (← node standardHandles true false fuel)

/-- The only document, unless the text has none. -/
def onlyDocument? (fuel : Nat) : Composing (Option Document) := do
  match ← firstDocument? fuel with
  | none => return none
  | some root =>
      let draft ← get
      match ← documentStart fuel with
      | none => return some ⟨draft.nodes, root⟩
      | some (_, mark) =>
          let start := (draft.nodes[root]?.getD default).start
          fail (some (.singleDocument, some start)) .anotherDocument mark

end Composing

/-- Bring the line breaks of a text into one form. -/
def unifyBreaks : List Code → List Code
  | [] => []
  | .char '\r' :: .char '\n' :: rest => '\n' :: unifyBreaks rest
  | .char '\r' :: rest => '\n' :: unifyBreaks rest
  | c :: rest => c :: unifyBreaks rest

/-- How many characters of a text are looked at together. -/
def portionSize : Nat := 4096

/-- The first character of the portion that a position is in. The first
portion has twice the size. -/
def portionStart (position : Nat) : Nat :=
  if position < 2 * portionSize then 0 else position - position % portionSize

/-- Read the only document of some characters, and tell how many of them were read. -/
def Document.read (chars : List Code) : Except Fault (Option Document) × Nat :=
  let fuel := 16 * chars.length + 64
  let (result, stream) :=
    (((Composing.onlyDocument? fuel).run ⟨#[], []⟩).run).run (TokenStream.start chars)
  (result.map Prod.fst, stream.input.index)

/-- The only document of a text, unless the text has none. A forbidden character
is found when the reading comes to the portion that it is in; another fault
before that is found first. -/
def Document.ofText? (text : Text) : Except Fault (Option Document) :=
  let chars := unifyBreaks text.toList
  let allowed := chars.takeWhile isAllowed
  match chars[allowed.length]? with
  | none => (Document.read chars).1
  | some c =>
      let start := portionStart allowed.length
      let (result, count) := Document.read (allowed.take start ++ [c])
      if count < start then result else .error (.forbidden c allowed.length)

end Yaml
end KindExpr
