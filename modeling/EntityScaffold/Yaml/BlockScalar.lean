import EntityScaffold.Yaml.Cursor
import EntityScaffold.Yaml.Token

/-
Block scalars. A header tells whether the line ends behind the last line are kept, dropped or
reduced to one, and how far the lines are indented; without a number the first line that is not
empty shows it. A literal scalar keeps its line ends, a folded one joins adjacent lines that begin
with no blank.
-/

namespace EntityScaffold.Yaml

/-- What becomes of the line ends behind a block scalar. -/
inductive Chomping where
  | clip
  | strip
  | keep
  deriving DecidableEq, Repr

def readChomping (cursor : Cursor) : Chomping × Cursor :=
  if cursor.peek == '+' then (.keep, cursor.step)
  else if cursor.peek == '-' then (.strip, cursor.step)
  else (.clip, cursor)

/-- Reads a digit of the header; a zero is refused. -/
def readIncrement (cursor : Cursor) : Except Fault (Option Nat × Cursor) :=
  let char := cursor.peek
  if char == '0' then .error .malformed
  else if '1' ≤ char && char ≤ '9' then .ok (some (char.toNat - '0'.toNat), cursor.step)
  else .ok (none, cursor)

/-- Reads the two indicators of the header in either order. -/
def readHeader (cursor : Cursor) : Except Fault (Chomping × Option Nat × Cursor) := do
  let (chomping, increment, last) ←
    if cursor.peek == '+' || cursor.peek == '-' then do
      let (chomping, next) := readChomping cursor
      let (increment, last) ← readIncrement next
      pure (chomping, increment, last)
    else do
      let (increment, next) ← readIncrement cursor
      match increment with
      | none => pure (.clip, none, next)
      | some _ =>
        let (chomping, last) := readChomping next
        pure (chomping, increment, last)
  if isSpaceOrEnd last.peek then return (chomping, increment, last) else throw .malformed

/-- Moves past the rest of the header's line, which may hold a comment. -/
def skipHeaderLine (cursor : Cursor) : Except Fault Cursor :=
  let last := cursor.skipSpaces.skipComment
  if isLineEnd last.peek then
    match last.takeBreak? with
    | some (_, next) => .ok next
    | none => .ok last
  else .error .malformed

/-- Reads empty lines in front of the first line, with the largest column that spaces reach. -/
def leadingBreaks : (fuel : Nat) → (widest : Nat) → Cursor → List Char × Nat × Cursor
  | 0, widest, cursor => ([], widest, cursor)
  | fuel + 1, widest, cursor =>
    if cursor.peek == ' ' then
      let next := cursor.step
      leadingBreaks fuel (max widest next.column) next
    else match cursor.takeBreak? with
      | none => ([], widest, cursor)
      | some (lineEnd, next) =>
        let (breaks, reached, last) := leadingBreaks fuel widest next
        (lineEnd :: breaks, reached, last)

/-- Moves past at most the spaces of the indentation. -/
def skipIndent (indent : Nat) (cursor : Cursor) : Cursor :=
  cursor.advance (min (indent - cursor.column) (cursor.rest.takeWhile (· == ' ')).length)

/-- Reads empty lines between the lines of a block scalar. -/
def blockBreaks (indent : Nat) : (fuel : Nat) → Cursor → List Char × Cursor
  | 0, cursor => ([], cursor)
  | fuel + 1, cursor =>
    let next := skipIndent indent cursor
    match next.takeBreak? with
    | none => ([], next)
    | some (lineEnd, after) =>
      let (breaks, last) := blockBreaks indent fuel after
      (lineEnd :: breaks, last)

def isBlankChar (char : Char) : Bool := char == ' ' || char == '\t'

/-- Reads the lines of a block scalar, `before` standing in front of the first one. The result ends
with the line end of the last line and the empty lines behind it, both still apart. -/
def blockLines (isFolded : Bool) (indent : Nat) :
    (fuel : Nat) → (before : List Char) → Cursor → List Char × List Char × List Char × Cursor
  | 0, before, cursor => ([], [], before, cursor)
  | fuel + 1, before, cursor =>
    if cursor.column = indent && !cursor.atEnd then
      let beginsWithText := !isBlankChar cursor.peek
      let (line, lineLast) := cursor.takeWhile fun char => !isLineEnd char
      let (lineEnd, next) := match lineLast.takeBreak? with
        | some (char, next) => ([char], next)
        | none => ([], lineLast)
      let (breaks, after) := blockBreaks indent (next.rest.length + 1) next
      if after.column = indent && !after.atEnd then
        let joint :=
          if isFolded && lineEnd == ['\n'] && beginsWithText && !isBlankChar after.peek then
            if breaks.isEmpty then [' '] else []
          else lineEnd
        let (lines, lastEnd, lastBreaks, last) :=
          blockLines isFolded indent fuel (joint ++ breaks) after
        (before ++ line ++ lines, lastEnd, lastBreaks, last)
      else (before ++ line, lineEnd, breaks, after)
    else ([], [], before, cursor)

/-- Reads a block scalar from its indicator, in a block that is indented by `indent`. -/
def readBlock (isFolded : Bool) (indent : Int) (cursor : Cursor) :
    Except Fault (List Char × Cursor) := do
  let (chomping, increment, headerLast) ← readHeader cursor.step
  let first ← skipHeaderLine headerLast
  let least := max 1 (indent + 1).toNat
  let (breaks, width, start) := match increment with
    | some amount =>
      let width := least + amount - 1
      let (breaks, start) := blockBreaks width (first.rest.length + 1) first
      (breaks, width, start)
    | none =>
      let (breaks, widest, start) := leadingBreaks (first.rest.length + 1) 0 first
      (breaks, max least widest, start)
  let (lines, lastEnd, lastBreaks, last) :=
    blockLines isFolded width (start.rest.length + 1) breaks start
  let tail := match chomping with
    | .clip => lastEnd
    | .strip => []
    | .keep => lastEnd ++ lastBreaks
  return (lines ++ tail, last)

end EntityScaffold.Yaml
