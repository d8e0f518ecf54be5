import EntityScaffold.Yaml.BlockScalar
import EntityScaffold.Yaml.PlainScalar
import EntityScaffold.Yaml.Property
import EntityScaffold.Yaml.QuotedScalar
import EntityScaffold.Yaml.Token

/-
From characters to tokens. A mapping key need not be announced: any node on one line may turn out to
be one when a colon follows. The scan therefore remembers, for each depth of flow collections, where
such a key would begin, and puts the missing tokens in front of it when the colon comes. Until a key
is complete or forgotten, the tokens from its place on are not settled.
-/

namespace EntityScaffold.Yaml

/-- A place where a key may have begun: the number of tokens before it, whether a colon has to
follow, and the place in the text. -/
structure PendingKey where
  tokensBefore : Nat
  isRequired : Bool
  index : Nat
  line : Nat
  column : Nat

/-- The state of a scan. `pending` has one entry for each depth of flow collections, the innermost
first; `tokens` are in reverse order. The outermost indentation is `-1`. -/
structure Scan where
  cursor : Cursor
  indent : Int
  outerIndents : List Int
  mayBeginKey : Bool
  pending : List (Option PendingKey)
  tokens : List Token
  tokenCount : Nat

namespace Scan

def start (source : List Char) : Scan :=
  ⟨Cursor.start source, -1, [], true, [none], [], 0⟩

def inFlow (scan : Scan) : Bool := 1 < scan.pending.length

def push (scan : Scan) (token : Token) : Scan :=
  { scan with tokens := token :: scan.tokens, tokenCount := scan.tokenCount + 1 }

/-- Puts a token behind the first `position` tokens. -/
def insertAt (scan : Scan) (position : Nat) (token : Token) : Scan :=
  let later := scan.tokens.take (scan.tokenCount - position)
  let earlier := scan.tokens.drop (scan.tokenCount - position)
  { scan with tokens := later ++ token :: earlier, tokenCount := scan.tokenCount + 1 }

/-- Ends the blocks that are indented more than `column`. Inside a flow collection indentation has
no meaning. -/
def closeBlocks (column : Int) (scan : Scan) : Scan :=
  if scan.inFlow then scan
  else
    let indents := scan.indent :: scan.outerIndents
    let closed := indents.takeWhile (column < ·)
    match indents.drop closed.length with
    | [] => scan
    | indent :: outer =>
      { scan with
        indent := indent
        outerIndents := outer
        tokens := List.replicate closed.length Token.blockEnd ++ scan.tokens
        tokenCount := scan.tokenCount + closed.length }

/-- Begins a block at `column` if that is deeper than the current one. -/
def openBlock (column : Nat) (scan : Scan) : Bool × Scan :=
  if scan.indent < column then
    (true, { scan with indent := column, outerIndents := scan.indent :: scan.outerIndents })
  else (false, scan)

/-- A key stays on one line and within 1024 characters. -/
def isStale (scan : Scan) (key : PendingKey) : Bool :=
  key.line ≠ scan.cursor.line || 1024 < scan.cursor.index - key.index

/-- Forgets the keys that can no longer be completed; one that is required must not be forgotten. -/
def dropStaleKeys (scan : Scan) : Except Fault Scan :=
  let isLost (entry : Option PendingKey) : Bool := match entry with
    | some key => scan.isStale key
    | none => false
  let isRequired (entry : Option PendingKey) : Bool := match entry with
    | some key => key.isRequired
    | none => false
  if scan.pending.any fun entry => isLost entry && isRequired entry then .error .malformed
  else .ok { scan with
    pending := scan.pending.map fun entry => if isLost entry then none else entry }

def dropKey (scan : Scan) : Except Fault Scan :=
  match scan.pending with
  | some key :: outer =>
    if key.isRequired then .error .malformed else .ok { scan with pending := none :: outer }
  | _ => .ok scan

/-- Remembers that a key may begin here. A node at the indentation of its block has to be one. -/
def noteKey (scan : Scan) : Except Fault Scan :=
  if scan.mayBeginKey then do
    let cleared ← scan.dropKey
    let key : PendingKey :=
      { tokensBefore := cleared.tokenCount
        isRequired := !cleared.inFlow && cleared.indent == cleared.cursor.column
        index := cleared.cursor.index
        line := cleared.cursor.line
        column := cleared.cursor.column }
    return { cleared with pending := some key :: cleared.pending.drop 1 }
  else .ok scan

/-- Moves to the next token, past spaces, comments and line ends. A line end allows a key to begin,
except inside a flow collection. -/
def skipToToken : (fuel : Nat) → Scan → Scan
  | 0, scan => scan
  | fuel + 1, scan =>
    let cursor := scan.cursor.skipSpaces.skipComment
    match cursor.takeBreak? with
    | none => { scan with cursor := cursor }
    | some (_, next) =>
      skipToToken fuel
        { scan with cursor := next, mayBeginKey := scan.mayBeginKey || !scan.inFlow }

def take (token : Token) (length : Nat) (scan : Scan) : Scan :=
  { scan.push token with cursor := scan.cursor.advance length }

/-- A token at the margin that ends all blocks. -/
def takeMargin (scan : Scan) (read : Cursor → Except Fault (Token × Cursor)) :
    Except Fault Scan := do
  let closed ← (scan.closeBlocks (-1)).dropKey
  let (token, next) ← read closed.cursor
  return { closed.push token with cursor := next, mayBeginKey := false }

def takeFlowStart (token : Token) (scan : Scan) : Except Fault Scan := do
  let noted ← scan.noteKey
  let opened := noted.take token 1
  return { opened with pending := none :: opened.pending, mayBeginKey := true }

def takeFlowEnd (token : Token) (scan : Scan) : Except Fault Scan := do
  let cleared ← scan.dropKey
  if !cleared.inFlow then throw .malformed
  let closed := cleared.take token 1
  return { closed with pending := closed.pending.drop 1, mayBeginKey := false }

def takeFlowEntry (scan : Scan) : Except Fault Scan := do
  let cleared ← scan.dropKey
  return { cleared.take .flowEntry 1 with mayBeginKey := true }

/-- An entry of a block sequence; the first one begins the sequence. -/
def takeBlockEntry (scan : Scan) : Except Fault Scan := do
  let opened ←
    if scan.inFlow then pure scan
    else if !scan.mayBeginKey then throw .malformed
    else
      let (isNew, opened) := scan.openBlock scan.cursor.column
      pure (if isNew then opened.push .blockSequenceStart else opened)
  let cleared ← opened.dropKey
  return { cleared.take .blockEntry 1 with mayBeginKey := true }

/-- A key that is announced; in a block the first one begins the mapping. -/
def takeKey (scan : Scan) : Except Fault Scan := do
  let opened ←
    if scan.inFlow then pure scan
    else if !scan.mayBeginKey then throw .malformed
    else
      let (isNew, opened) := scan.openBlock scan.cursor.column
      pure (if isNew then opened.push .blockMappingStart else opened)
  let cleared ← opened.dropKey
  return { cleared.take .key 1 with mayBeginKey := !cleared.inFlow }

/-- A colon: the value of the pending key, or of an announced or empty one. -/
def takeValue (scan : Scan) : Except Fault Scan :=
  match scan.pending with
  | some key :: outer =>
    let keyed := { scan.insertAt key.tokensBefore .key with pending := none :: outer }
    let (isNew, opened) := if scan.inFlow then (false, keyed) else keyed.openBlock key.column
    let begun := if isNew then opened.insertAt key.tokensBefore .blockMappingStart else opened
    .ok { begun.take .value 1 with mayBeginKey := false }
  | _ => do
    let opened ←
      if scan.inFlow then pure scan
      else if !scan.mayBeginKey then throw .malformed
      else
        let (isNew, opened) := scan.openBlock scan.cursor.column
        pure (if isNew then opened.push .blockMappingStart else opened)
    let cleared ← opened.dropKey
    return { cleared.take .value 1 with mayBeginKey := !cleared.inFlow }

/-- A token with which a key may begin. -/
def takeNode (scan : Scan) (read : Cursor → Except Fault (Token × Cursor)) : Except Fault Scan := do
  let noted ← scan.noteKey
  let (token, next) ← read noted.cursor
  return { noted.push token with cursor := next, mayBeginKey := false }

def takeQuoted (isDouble : Bool) (scan : Scan) : Except Fault Scan :=
  scan.takeNode fun cursor => do
    let (content, next) ← readQuoted isDouble cursor
    return (.scalar content false, next)

def takeBlockScalar (isFolded : Bool) (scan : Scan) : Except Fault Scan := do
  let cleared ← scan.dropKey
  let (content, next) ← readBlock isFolded cleared.indent cleared.cursor
  return { cleared.push (.scalar (CodeText.ofChars content) false) with
    cursor := next, mayBeginKey := true }

/-- A plain scalar; when its line ends behind it, a key may begin on the next one. -/
def takePlain (scan : Scan) : Except Fault Scan := do
  let noted ← scan.noteKey
  let (content, lineEnded, next) := readPlain noted.inFlow noted.indent noted.cursor
  return { noted.push (.scalar (CodeText.ofChars content) true) with
    cursor := next, mayBeginKey := lineEnded }

/-- The characters that begin no plain scalar. -/
def isIndicator (char : Char) : Bool :=
  isFlowPunctuation char ||
    ['-', '?', ':', '#', '&', '*', '!', '|', '>', '\x27', '\x22', '%', '@', '\x60'].contains char

/-- May a plain scalar begin here? Some indicators may begin one before a character that is no
blank. -/
def beginsPlain (scan : Scan) : Bool :=
  let char := scan.cursor.peek
  (!isWordEnd char && !isIndicator char) ||
    (!isWordEnd (scan.cursor.peek 1) &&
      (char == '-' || (!scan.inFlow && (char == '?' || char == ':'))))

def takeToken (scan : Scan) : Except Fault Scan :=
  let cursor := scan.cursor
  let char := cursor.peek
  let endsWord := isWordEnd (cursor.peek 1)
  if char == '%' && cursor.column = 0 then scan.takeMargin readDirective
  else if char == '-' && cursor.column = 0 && cursor.atDocumentMark then
    scan.takeMargin fun mark => .ok (.documentStart, mark.advance 3)
  else if char == '.' && cursor.column = 0 && cursor.atDocumentMark then
    scan.takeMargin fun mark => .ok (.documentEnd, mark.advance 3)
  else if char == '[' then scan.takeFlowStart .flowSequenceStart
  else if char == '\x7b' then scan.takeFlowStart .flowMappingStart
  else if char == ']' then scan.takeFlowEnd .flowSequenceEnd
  else if char == '\x7d' then scan.takeFlowEnd .flowMappingEnd
  else if char == ',' then scan.takeFlowEntry
  else if char == '-' && endsWord then scan.takeBlockEntry
  else if char == '?' && (scan.inFlow || endsWord) then scan.takeKey
  else if char == ':' && (scan.inFlow || endsWord) then scan.takeValue
  else if char == '*' then
    scan.takeNode fun mark => do
      let (name, next) ← readAnchorName mark
      return (.alias name, next)
  else if char == '&' then
    scan.takeNode fun mark => do
      let (name, next) ← readAnchorName mark
      return (.anchor name, next)
  else if char == '!' then scan.takeNode readTag
  else if char == '|' && !scan.inFlow then scan.takeBlockScalar false
  else if char == '>' && !scan.inFlow then scan.takeBlockScalar true
  else if char == '\x27' then scan.takeQuoted false
  else if char == '\x22' then scan.takeQuoted true
  else if scan.beginsPlain then scan.takePlain
  else .error .malformed

/-- The number of tokens that no pending key can come in front of. -/
def settledCount (scan : Scan) : Nat :=
  scan.pending.foldl
    (fun count entry => match entry with
      | some key => if scan.isStale key then count else min count key.tokensBefore
      | none => count)
    scan.tokenCount

/-- What a reader gets of the tokens when a fault stands behind them. -/
def stopAt (scan : Scan) (fault : Fault) : TokenStream :=
  ⟨(scan.tokens.drop (scan.tokenCount - scan.settledCount)).reverse, some fault⟩

/-- Moves to the next token and ends the blocks that end in front of it. -/
def align (scan : Scan) : Except Fault Scan := do
  let fresh ← (scan.skipToToken (scan.cursor.rest.length + 1)).dropStaleKeys
  return fresh.closeBlocks fresh.cursor.column

/-- Ends all blocks at the end of the text. -/
def finish (scan : Scan) : Except Fault (List Token) := do
  let closed ← (scan.closeBlocks (-1)).dropKey
  return closed.tokens.reverse

/-- Takes tokens to the end of the text, where all blocks end. -/
def run : (fuel : Nat) → Scan → TokenStream
  | 0, scan => scan.stopAt .malformed
  | fuel + 1, scan =>
    match scan.align with
    | .error fault => scan.stopAt fault
    | .ok aligned =>
      if aligned.cursor.atEnd then
        match aligned.finish with
        | .ok tokens => ⟨tokens, none⟩
        | .error fault => scan.stopAt fault
      else
        match aligned.takeToken with
        | .ok next => run fuel next
        | .error fault => scan.stopAt fault

end Scan

/-- Characters that a YAML text may contain. -/
def isAllowed (char : Char) : Bool :=
  let point := char.toNat
  point == 0x09 || point == 0x0A || point == 0x0D || (0x20 ≤ point && point ≤ 0x7E) ||
    point == 0x85 || (0xA0 ≤ point && point ≤ 0xD7FF) || (0xE000 ≤ point && point ≤ 0xFFFD) ||
    (0x10000 ≤ point && point ≤ 0x10FFFF)

/-- The tokens of a text. A byte order mark in front is skipped. -/
def Token.scan (source : List Char) : TokenStream :=
  if source.all isAllowed then
    let scan := Scan.start source
    let cursor := if scan.cursor.peek == '\uFEFF' then scan.cursor.step else scan.cursor
    { scan with cursor := cursor }.run (source.length + 2)
  else ⟨[], some .malformed⟩

end EntityScaffold.Yaml
