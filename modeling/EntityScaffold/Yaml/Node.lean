import EntityScaffold.Text.CodePoint
import EntityScaffold.Yaml.Tag
import EntityScaffold.Yaml.Token

/-
From tokens to nodes. The nodes of a document are numbered in the order in which they begin, and a
collection holds the numbers of its parts. An alias gives the number of the node that its anchor
names, so that a node may have several places, one inside itself included.
-/

namespace EntityScaffold.Yaml

/-- What a node holds; the parts of a collection are given by number. -/
inductive NodeContent where
  | scalar (text : CodeText)
  | sequence (items : List Nat)
  | mapping (entries : List (Nat × Nat))
  deriving DecidableEq

structure Node where
  tag : Tag
  content : NodeContent
  deriving DecidableEq

namespace Node

/-- The state of reading: the tokens that remain with the fault behind them, the tag handles in
force, the anchors with the numbers of their nodes, and the nodes that have begun. -/
structure Reading where
  tokens : List Token
  fault : Option Fault := none
  handles : List (List Char × List Char)
  anchors : List (List Char × Nat) := []
  nodes : Array Node := #[]

abbrev Reader (α : Type) := StateT Reading (Except Fault) α

namespace Reader

def peek : Reader (Option Token) := do
  let reading ← get
  match reading.tokens, reading.fault with
  | token :: _, _ => return some token
  | [], none => return none
  | [], some fault => throw fault

def skip : Reader Unit := modify fun reading => { reading with tokens := reading.tokens.drop 1 }

/-- Is the next token one of those given? The end of the text is none of them. -/
def isAt (tokens : List Token) : Reader Bool := do
  match ← peek with
  | some token => return tokens.contains token
  | none => return false

def expect (token : Token) : Reader Unit := do
  if ← isAt [token] then skip else throw .malformed

def anchor? : Reader (Option (List Char)) := do
  match ← peek with
  | some (.anchor name) => do skip; return some name
  | _ => return none

def tag? : Reader (Option (Option (List Char) × List Char)) := do
  match ← peek with
  | some (.tag handle suffix) => do skip; return some (handle, suffix)
  | _ => return none

def properties : Reader (Option (List Char) × Option (Option (List Char) × List Char)) := do
  match ← anchor? with
  | some name => return (some name, ← tag?)
  | none =>
    match ← tag? with
    | some tag => return (← anchor?, some tag)
    | none => return (none, none)

/-- The full name of a tag; its handle has to be in force. -/
def fullTag : Option (Option (List Char) × List Char) → Reader (Option (List Char))
  | none => return none
  | some (none, suffix) => return some suffix
  | some (some handle, suffix) => do
    match (← get).handles.lookup handle with
    | some start => return some (start ++ suffix)
    | none => throw .malformed

/-- Begins a node, which an anchor may name. An anchor names one node of a document. -/
def begin? (anchor : Option (List Char)) (node : Node) : Reader Nat := do
  let reading ← get
  let number := reading.nodes.size
  match anchor with
  | none => set { reading with nodes := reading.nodes.push node }
  | some name =>
    if (reading.anchors.lookup name).isSome then throw .malformed
    else
      set { reading with
        nodes := reading.nodes.push node, anchors := (name, number) :: reading.anchors }
  return number

def complete (number : Nat) (node : Node) : Reader Nat := do
  modify fun reading => { reading with nodes := reading.nodes.setIfInBounds number node }
  return number

def aliased (name : List Char) : Reader Nat := do
  match (← get).anchors.lookup name with
  | some number => return number
  | none => throw .malformed

end Reader

open Reader

/-- The type of a collection: the one given, or the usual one. -/
def collectionTag (usual : Tag) : Option (List Char) → Tag
  | none => usual
  | some ['!'] => usual
  | some name => Tag.ofName name

/-- The type of a scalar. A tag that is a lone exclamation mark leaves the type to the spelling, in
quotes or not. -/
def scalarTag (isPlain : Bool) (content : CodeText) : Option (List Char) → Tag
  | some ['!'] => ofContent
  | some name => Tag.ofName name
  | none => if isPlain then ofContent else .text
where
  ofContent : Tag :=
    match content.toChars? with
    | some chars => Tag.ofSpelling chars
    | none => .text

/-- A node where nothing is written. -/
def empty : Reader Nat := begin? none ⟨.null, .scalar []⟩

/-- A sequence with the tag and the anchor that stand in front of it; `items` reads its parts. -/
def sequence (anchor tag : Option (List Char)) (items : Reader (List Nat)) : Reader Nat := do
  let tag := collectionTag .sequence tag
  let number ← begin? anchor ⟨tag, .sequence []⟩
  complete number ⟨tag, .sequence (← items)⟩

/-- A mapping with the tag and the anchor that stand in front of it; `entries` reads its parts. -/
def mapping (anchor tag : Option (List Char)) (entries : Reader (List (Nat × Nat))) :
    Reader Nat := do
  let tag := collectionTag .mapping tag
  let number ← begin? anchor ⟨tag, .mapping []⟩
  complete number ⟨tag, .mapping (← entries)⟩

def depthLimit : Nat := 490

mutual

/-- Reads a node with at most `depth` collections inside each other; `inBlock` allows block
collections, `indentless` a sequence whose entries are not indented more than the key above them. -/
def read : (fuel depth : Nat) → (inBlock indentless : Bool) → Reader Nat
  | 0, _, _, _ => throw .malformed
  | fuel + 1, depth, inBlock, indentless => do
    match ← peek with
    | some (.alias name) => do skip; aliased name
    | _ =>
      let (anchor, written) ← properties
      let tag ← fullTag written
      let next ← peek
      if indentless && next == some .blockEntry then
        sequence anchor tag (readIndentless fuel depth)
      else match next with
        | some (.scalar content isPlain) => do
          skip
          begin? anchor ⟨scalarTag isPlain content tag, .scalar content⟩
        | some .flowSequenceStart => do
          skip
          sequence anchor tag (readFlowItems fuel depth true)
        | some .flowMappingStart => do
          skip
          mapping anchor tag (readFlowEntries fuel depth true)
        | some .blockSequenceStart =>
          if inBlock then do
            skip
            sequence anchor tag (readBlockItems fuel depth)
          else throw .malformed
        | some .blockMappingStart =>
          if inBlock then do
            skip
            mapping anchor tag (readBlockEntries fuel depth)
          else throw .malformed
        | _ =>
          if anchor.isSome || written.isSome then
            begin? anchor ⟨scalarTag true [] tag, .scalar []⟩
          else throw .malformed

/-- Reads a part of a collection unless one of `ends` comes first, where nothing is written. -/
def readUnless : (fuel depth : Nat) → (inBlock indentless : Bool) → (ends : List Token) → Reader Nat
  | 0, _, _, _, _ => throw .malformed
  | _ + 1, 0, _, _, _ => throw .tooDeep
  | fuel + 1, depth + 1, inBlock, indentless, ends => do
    if ← isAt ends then empty else read fuel depth inBlock indentless

/-- Reads the value of a key, which may be missing together with its colon. -/
def readAfterColon : (fuel depth : Nat) → (inBlock : Bool) → (ends : List Token) → Reader Nat
  | 0, _, _, _ => throw .malformed
  | fuel + 1, depth, inBlock, ends => do
    if ← isAt [.value] then do
      skip
      readUnless fuel depth inBlock inBlock ends
    else empty

/-- Reads the entries of a block sequence up to its end. -/
def readBlockItems : (fuel depth : Nat) → Reader (List Nat)
  | 0, _ => throw .malformed
  | fuel + 1, depth => do
    if ← isAt [.blockEntry] then do
      skip
      let item ← readUnless fuel depth true false [.blockEntry, .blockEnd]
      return item :: (← readBlockItems fuel depth)
    else do
      expect .blockEnd
      return []

/-- Reads the entries of a sequence that has no indentation of its own. -/
def readIndentless : (fuel depth : Nat) → Reader (List Nat)
  | 0, _ => throw .malformed
  | fuel + 1, depth => do
    if ← isAt [.blockEntry] then do
      skip
      let item ← readUnless fuel depth true false [.blockEntry, .key, .value, .blockEnd]
      return item :: (← readIndentless fuel depth)
    else return []

/-- Reads the entries of a block mapping up to its end. -/
def readBlockEntries : (fuel depth : Nat) → Reader (List (Nat × Nat))
  | 0, _ => throw .malformed
  | fuel + 1, depth => do
    if ← isAt [.key] then do
      skip
      let key ← readUnless fuel depth true true [.key, .value, .blockEnd]
      let value ← readAfterColon fuel depth true [.key, .value, .blockEnd]
      return (key, value) :: (← readBlockEntries fuel depth)
    else do
      expect .blockEnd
      return []

/-- Reads the single entry of a mapping that is written inside a flow sequence, its key being
announced. -/
def readFlowPair : (fuel depth : Nat) → Reader (List (Nat × Nat))
  | 0, _ => throw .malformed
  | _ + 1, 0 => throw .tooDeep
  | fuel + 1, depth + 1 => do
    skip
    let ends : List Token := [.flowEntry, .flowSequenceEnd]
    let key ← readUnless fuel depth false false (.value :: ends)
    let value ← readAfterColon fuel depth false ends
    return [(key, value)]

/-- Reads the items of a flow sequence up to its end. A key with a colon is a mapping of one entry.
-/
def readFlowItems : (fuel depth : Nat) → (isFirst : Bool) → Reader (List Nat)
  | 0, _, _ => throw .malformed
  | fuel + 1, depth, isFirst => do
    if ← isAt [.flowSequenceEnd] then do
      skip
      return []
    else
      if !isFirst then expect .flowEntry
      if ← isAt [.key] then do
        let item ← mapping none none (readFlowPair fuel depth)
        return item :: (← readFlowItems fuel depth false)
      else if ← isAt [.flowSequenceEnd] then do
        skip
        return []
      else do
        let item ← readUnless fuel depth false false []
        return item :: (← readFlowItems fuel depth false)

/-- Reads the entries of a flow mapping up to its end. A node without a colon is a key. -/
def readFlowEntries : (fuel depth : Nat) → (isFirst : Bool) → Reader (List (Nat × Nat))
  | 0, _, _ => throw .malformed
  | fuel + 1, depth, isFirst => do
    if ← isAt [.flowMappingEnd] then do
      skip
      return []
    else
      if !isFirst then expect .flowEntry
      if ← isAt [.key] then do
        skip
        let ends : List Token := [.flowEntry, .flowMappingEnd]
        let key ← readUnless fuel depth false false (.value :: ends)
        let value ← readAfterColon fuel depth false ends
        return (key, value) :: (← readFlowEntries fuel depth false)
      else if ← isAt [.flowMappingEnd] then do
        skip
        return []
      else do
        let key ← readUnless fuel depth false false []
        let value ← empty
        return (key, value) :: (← readFlowEntries fuel depth false)

end

def usualHandles : List (List Char × List Char) :=
  [(['!'], ['!']), (['!', '!'], Tag.standardStart)]

/-- Reads the directives in front of a document: at most one version, which must be 1, and at most
one tag directive for each handle. The result tells whether there was any. -/
def readDirectives : (fuel : Nat) → (seenVersion : Bool) →
    (handles : List (List Char × List Char)) → Reader (List (List Char × List Char))
  | 0, _, _ => throw .malformed
  | fuel + 1, seenVersion, handles => do
    match ← peek with
    | some (.versionDirective major) => do
      skip
      if seenVersion || major ≠ 1 then throw .malformed
      readDirectives fuel true handles
    | some (.tagDirective handle start) => do
      skip
      if (handles.lookup handle).isSome then throw .malformed
      readDirectives fuel seenVersion ((handle, start) :: handles)
    | some .otherDirective => do
      skip
      readDirectives fuel seenVersion handles
    | _ => return handles

def skipDocumentEnds : (fuel : Nat) → Reader Unit
  | 0 => throw .malformed
  | fuel + 1 => do
    if ← isAt [.documentEnd] then do
      skip
      skipDocumentEnds fuel

/-- Does a directive or a mark of a document come next, or the end of the text? -/
def isAtBoundary (marks : List Token) : Reader Bool := do
  match ← peek with
  | none | some (.versionDirective _) | some (.tagDirective _ _) | some .otherDirective =>
    return true
  | some token => return marks.contains token

/-- Reads the directives of a document and the mark behind them. -/
def readDocumentStart (fuel : Nat) : Reader Unit := do
  let handles ← readDirectives fuel false []
  expect .documentStart
  modify fun reading => { reading with handles := handles ++ usualHandles }

/-- Reads the one document of a text: the number of its outermost node, none if the text is empty.
-/
def readDocument (fuel : Nat) : Reader (Option Nat) := do
  match ← peek with
  | none => return none
  | some _ =>
    let root ←
      if ← isAtBoundary [.documentStart] then do
        readDocumentStart fuel
        if ← isAtBoundary [.documentStart, .documentEnd] then empty
        else read fuel depthLimit true false
      else read fuel depthLimit true false
    skipDocumentEnds fuel
    match ← peek with
    | none => return some root
    | some _ => do
      readDocumentStart fuel
      throw .malformed

/-- The nodes of the one document of a text, and the number of the outermost one. -/
def ofTokens (stream : TokenStream) : Except Fault (Option Nat × Array Node) := do
  let reading : Reading :=
    { tokens := stream.tokens, fault := stream.fault, handles := usualHandles }
  let (root, last) ← (readDocument (4 * stream.tokens.length + 4)).run reading
  return (root, last.nodes)

end Node

end EntityScaffold.Yaml
