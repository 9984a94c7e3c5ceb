import LspEndpoint.Yaml.Layout
import LspEndpoint.Yaml.Scalar

/-!
The nodes of a document. Nodes are numbered, and a collection holds the numbers of its parts, so that an
alias is the number of the node that it stands for, which may still be read. Tokens are asked for one by
one: what is wrong with the text counts before what is wrong with a node only if it stands before the
last token that was needed.
-/
namespace LspEndpoint.Yaml

/-- The number of a node. -/
abbrev NodeId := Nat

inductive Content
  | scalar (t : Text)
  | sequence (items : List NodeId)
  | mapping (entries : List (NodeId × NodeId))
deriving DecidableEq

structure Node where
  tag : Tag
  content : Content
deriving DecidableEq

/-- The nodes of a document, and the one that holds all others. -/
structure Document where
  nodes : Array Node
  root : NodeId

/-- The text that is left, the nodes so far, those that anchors name, and what the handles of tags stand
for. -/
structure Source where
  layout : Layout
  nodes : Array Node
  anchors : List (Text × NodeId)
  handles : List (Text × Text)

abbrev Reader := StateT Source Parsed

namespace Reader

/-- The next token; none at the end. -/
def peek : Reader (Option Token) := do
  let s ← get
  let (t, layout) ← s.layout.front
  set { s with layout }
  return t

def skip : Reader Unit := modify fun s => { s with layout := s.layout.drop }

def isNext (ts : List (Option Token)) : Reader Bool := return ts.contains (← peek)

def expect (t : Token) : Reader Unit := do
  if (← peek) = some t then skip else throw .malformed

/-- Adds a node. -/
def add (n : Node) : Reader NodeId := do
  let s ← get
  set { s with nodes := s.nodes.push n }
  return s.nodes.size

/-- What a scalar that is left out stands for. -/
def empty : Reader NodeId := add ⟨Tag.ofPlain [], .scalar []⟩

/-- What comes next, nothing in front of any of the tokens. -/
def orEmpty (ts : List Token) (read : Reader NodeId) : Reader NodeId := do
  if ← isNext (ts.map some) then empty else read

/-- The value behind a key. -/
def valueOrEmpty (ts : List Token) (read : Reader NodeId) : Reader NodeId := do
  if ← isNext [some .value] then
    skip
    orEmpty ts read
  else empty

/-- The text of a tag, its handle replaced. -/
def tagText (name : TagName) : Reader Text := do
  match name.handle with
  | none => return name.suffix
  | some h =>
    match (← get).handles.lookup h with
    | some start => return start ++ name.suffix
    | none => throw .malformed

def anchor? : Reader (Option Text) := do
  match ← peek with
  | some (.anchor name) => do
    skip
    return some name
  | _ => return none

def tag? : Reader (Option TagName) := do
  match ← peek with
  | some (.tag name) => do
    skip
    return some name
  | _ => return none

/-- The anchor and the tag in front of a node, in either order. -/
def properties : Reader (Option Text × Option Text) := do
  let (anchor, tag) ← do
    match ← anchor? with
    | some a => pure (some a, ← tag?)
    | none =>
      match ← tag? with
      | some t => pure (← anchor?, some t)
      | none => pure (none, none)
  return (anchor, ← tag.mapM tagText)

def setAnchor (name : Option Text) (n : NodeId) : Reader Unit :=
  match name with
  | none => pure ()
  | some a => modify fun s => { s with anchors := (a, n) :: s.anchors }

/-- An anchor names one node. -/
def checkAnchor : Option Text → Reader Unit
  | none => pure ()
  | some a => do if ((← get).anchors.lookup a).isSome then throw .malformed

def aliased (name : Text) : Reader NodeId := do
  match (← get).anchors.lookup name with
  | some n => return n
  | none => throw .malformed

/-- Whether a tag leaves it to the node what it is. -/
def isOwn (tag : Option Text) : Bool := tag.all fun t => t = Text.ofString "!"

def scalarNode (anchor tag : Option Text) (isPlain : Bool) (t : Text) : Reader NodeId := do
  checkAnchor anchor
  let tag := match tag with
    | none => if isPlain then Tag.ofPlain t else .text
    | some name => if name = "!" then Tag.ofPlain t else .ofName name
  let n ← add ⟨tag, .scalar t⟩
  setAnchor anchor n
  return n

/-- A collection, which its anchor names as soon as it begins. -/
def collection (anchor tag : Option Text) (own : Tag) (read : Reader Content) : Reader NodeId := do
  checkAnchor anchor
  let tag := if isOwn tag then own else (tag.map Tag.ofName).getD own
  let n ← add ⟨tag, .sequence []⟩
  setAnchor anchor n
  let content ← read
  modify fun s => { s with nodes := s.nodes.setIfInBounds n ⟨tag, content⟩ }
  return n

end Reader

/-- Where a node stands: in a flow collection, in a block, or in an entry of a block mapping, where a
sequence need not be indented. -/
inductive Place
  | flow
  | block
  | entry
deriving DecidableEq

open Reader

mutual

def node (place : Place) : (bound : Nat) → Reader NodeId
  | 0 => throw .malformed
  | bound + 1 => do
    match ← peek with
    | some (.alias name) => do
      skip
      aliased name
    | _ => do
      let (anchor, tag) ← properties
      let next ← peek
      match next, place with
      | some .item, .entry =>
        collection anchor tag .sequence do return .sequence (← looseItems bound)
      | some (.scalar t isPlain), _ => do
        skip
        scalarNode anchor tag isPlain t
      | some .flowSequence, _ => do
        skip
        collection anchor tag .sequence do return .sequence (← flowItems true bound)
      | some .flowMapping, _ => do
        skip
        collection anchor tag .mapping do return .mapping (← flowEntries true bound)
      | _, _ =>
        if next = some .blockSequence && place ≠ .flow then do
          skip
          collection anchor tag .sequence do return .sequence (← blockItems bound)
        else if next = some .blockMapping && place ≠ .flow then do
          skip
          collection anchor tag .mapping do return .mapping (← blockEntries bound)
        else if anchor.isSome || tag.isSome then scalarNode anchor tag true []
        else throw .malformed

def blockItems : (bound : Nat) → Reader (List NodeId)
  | 0 => throw .malformed
  | bound + 1 => do
    if ← isNext [some .item] then
      skip
      let n ← orEmpty [.item, .blockEnd] (node .block bound)
      return n :: (← blockItems bound)
    else
      expect .blockEnd
      return []

/-- Items that are not indented, in an entry of a mapping. -/
def looseItems : (bound : Nat) → Reader (List NodeId)
  | 0 => throw .malformed
  | bound + 1 => do
    if ← isNext [some .item] then
      skip
      let n ← orEmpty [.item, .key, .value, .blockEnd] (node .block bound)
      return n :: (← looseItems bound)
    else return []

def blockEntries : (bound : Nat) → Reader (List (NodeId × NodeId))
  | 0 => throw .malformed
  | bound + 1 => do
    if ← isNext [some .key] then
      skip
      let k ← orEmpty [.key, .value, .blockEnd] (node .entry bound)
      let v ← valueOrEmpty [.key, .value, .blockEnd] (node .entry bound)
      return (k, v) :: (← blockEntries bound)
    else
      expect .blockEnd
      return []

/-- The items of a flow sequence; an entry among them is a mapping of its own. -/
def flowItems (isFirst : Bool) : (bound : Nat) → Reader (List NodeId)
  | 0 => throw .malformed
  | bound + 1 => do
    if !isFirst && !(← isNext [some .flowSequenceEnd]) then expect .comma
    match ← peek with
    | some .flowSequenceEnd => do
      skip
      return []
    | some .key => do
      let n ← collection none none .mapping do
        skip
        let k ← orEmpty [.value, .comma, .flowSequenceEnd] (node .flow bound)
        let v ← valueOrEmpty [.comma, .flowSequenceEnd] (node .flow bound)
        return .mapping [(k, v)]
      return n :: (← flowItems false bound)
    | _ => do
      let n ← node .flow bound
      return n :: (← flowItems false bound)

/-- The entries of a flow mapping; a key may stand alone. -/
def flowEntries (isFirst : Bool) : (bound : Nat) → Reader (List (NodeId × NodeId))
  | 0 => throw .malformed
  | bound + 1 => do
    if !isFirst && !(← isNext [some .flowMappingEnd]) then expect .comma
    match ← peek with
    | some .flowMappingEnd => do
      skip
      return []
    | some .key => do
      skip
      let k ← orEmpty [.value, .comma, .flowMappingEnd] (node .flow bound)
      let v ← valueOrEmpty [.comma, .flowMappingEnd] (node .flow bound)
      return (k, v) :: (← flowEntries false bound)
    | _ => do
      let k ← node .flow bound
      let v ← empty
      return (k, v) :: (← flowEntries false bound)

end

def defaultHandles : List (Text × Text) := [("!", "!"), ("!!", Tag.authority)]

/-- The directives in front of a document. Each handle is given once, and so is the version. -/
def directives (hasVersion : Bool) (handles : List (Text × Text)) :
    (bound : Nat) → Reader (List (Text × Text))
  | 0 => throw .malformed
  | bound + 1 => do
    match ← peek with
    | some (.directive d) => do
      skip
      match d with
      | .version major _ =>
        if hasVersion || major ≠ 1 then throw .malformed else directives true handles bound
      | .handle name start =>
        if (handles.lookup name).isSome then throw .malformed
        else directives hasVersion (handles ++ [(name, start)]) bound
      | .unknown => directives hasVersion handles bound
    | _ => return handles

/-- Passes over marks of the end of a document. -/
def documentEnds : (bound : Nat) → Reader Unit
  | 0 => throw .malformed
  | bound + 1 => do
    if ← isNext [some .documentEnd] then
      skip
      documentEnds bound

/-- A document behind its directives. -/
def explicitDocument (bound : Nat) : Reader NodeId := do
  let handles ← directives false [] bound
  modify fun s => { s with handles := handles ++ defaultHandles }
  expect .documentStart
  match ← peek with
  | none | some .documentStart | some .documentEnd | some (.directive _) => empty
  | _ => node .block bound

/-- Nothing may follow a document except marks of its end. What would start another one is read before
it is refused. -/
def endOfText (bound : Nat) : Reader Unit := do
  documentEnds bound
  if (← peek).isSome then
    let _ ← directives false [] bound
    let _ ← peek
    throw .malformed

/-- The one document of a text, if there is one. -/
def document? (bound : Nat) : Reader (Option NodeId) := do
  let next ← peek
  let n ← match next with
    | none => pure none
    | some .documentStart | some (.directive _) => some <$> explicitDocument bound
    | _ => some <$> node .block bound
  endOfText bound
  return n

/-- A bound on how often the nodes of a text of that length can call for each other. -/
def nodeBound (length : Nat) : Nat := 3 * length + 6

/-- The document that a text spells; none if it holds nothing. -/
def Document.ofText? (t : Text) : Parsed (Option Document) := do
  let (root?, s) ← (document? (nodeBound t.length)).run ⟨.start t, #[], [], defaultHandles⟩
  return root?.map fun root => ⟨s.nodes, root⟩

/-- How many characters a text is read by. The first two pieces are read together. -/
def pieceSize : Nat := 4096

/-- How many characters of a text are certain to be read before a character that it may not hold is
met; none if it holds no such character. -/
def readableLength? (t : Text) : Option Nat :=
  if t.all isAllowed then none
  else
    let index := (t.takeWhile isAllowed).length
    some (if index < 2 * pieceSize then 0 else index / pieceSize * pieceSize)

/-- The document that a text spells. A character that it may not hold is met only when its piece is
read, one character ahead of what is looked at; what is wrong before that counts first. -/
def Document.read? (t : Text) : Parsed (Option Document) :=
  match readableLength? t with
  | none => Document.ofText? t
  | some n => do
    if n ≠ 0 then let _ ← Document.ofText? (t.take (n - 1))
    throw .malformed

end LspEndpoint.Yaml
