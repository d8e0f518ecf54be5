import EntityScaffold.Decimal.Reading
import EntityScaffold.Text.CodePoint
import EntityScaffold.Yaml.PlainScalar
import EntityScaffold.Yaml.Token

/-
Scalars in quotes. In single quotes only the quote itself is written specially, twice. In double
quotes a backslash begins an escape; a backslash at the end of a line joins the line to the next
one. Line ends are folded as in plain scalars.
-/

namespace EntityScaffold.Yaml

/-- The characters that a letter after a backslash stands for. -/
def namedEscape? (char : Char) : Option Nat :=
  ([('0', 0x00), ('a', 0x07), ('b', 0x08), ('t', 0x09), ('\t', 0x09), ('n', 0x0A), ('v', 0x0B),
    ('f', 0x0C), ('r', 0x0D), ('e', 0x1B), (' ', 0x20), ('\x22', 0x22), ('\x5c', 0x5C), ('/', 0x2F),
    ('N', 0x85), ('_', 0xA0), ('L', 0x2028), ('P', 0x2029)] : List (Char × Nat)).lookup char

/-- The number of hexadecimal digits behind the letter of a numeric escape. -/
def numericEscape? (char : Char) : Option Nat :=
  if char = 'x' then some 2
  else if char = 'u' then some 4
  else if char = 'U' then some 8
  else none

def isHexDigit (char : Char) : Bool :=
  ('0' ≤ char && char ≤ '9') || ('A' ≤ char && char ≤ 'F') || ('a' ≤ char && char ≤ 'f')

/-- Characters that stand for themselves between quotes. -/
def isQuotedChar (char : Char) : Bool :=
  !(char == '\x27' || char == '\x22' || char == '\x5c' || isWordEnd char)

/-- Empty lines and the blanks in front of the next line. A document may not begin or end here. -/
def quotedBreaks : (fuel : Nat) → Cursor → Except Fault (List Char × Cursor)
  | 0, cursor => .ok ([], cursor)
  | fuel + 1, cursor =>
    if cursor.atDocumentMark then .error .malformed
    else
      let next := cursor.skipWhile fun char => char == ' ' || char == '\t'
      match next.takeBreak? with
      | none => .ok ([], next)
      | some (lineEnd, after) => do
        let (breaks, last) ← quotedBreaks fuel after
        return (lineEnd :: breaks, last)

def readEscape (cursor : Cursor) : Except Fault (CodeText × Cursor) :=
  match namedEscape? cursor.peek with
  | some point => .ok ([CodePoint.ofNat point], cursor.step)
  | none =>
    match numericEscape? cursor.peek with
    | some length =>
      let digits := cursor.step.rest.take length
      if digits.length = length && digits.all isHexDigit then
        let code := Decimal.natOfDigits 16 digits
        if code < 0x110000 then .ok ([CodePoint.ofNat code], cursor.advance (length + 1))
        else if code < 0x80000000 then .error .escapeRange
        else .error .escapeOverflow
      else .error .malformed
    | none =>
      match cursor.takeBreak? with
      | some (_, after) => do
        let (breaks, last) ← quotedBreaks (after.rest.length + 1) after
        return (CodeText.ofChars breaks, last)
      | none => .error .malformed

/-- Reads up to the next blank or the closing quote. -/
def quotedRun (isDouble : Bool) : (fuel : Nat) → Cursor → Except Fault (CodeText × Cursor)
  | 0, cursor => .ok ([], cursor)
  | fuel + 1, cursor => do
    let (run, next) := cursor.takeWhile isQuotedChar
    let head := CodeText.ofChars run
    let char := next.peek
    if !isDouble && char == '\x27' && next.peek 1 == '\x27' then
      let (tail, last) ← quotedRun isDouble fuel (next.advance 2)
      return (head ++ CodePoint.ofChar char :: tail, last)
    else if (isDouble && char == '\x27') || (!isDouble && (char == '\x22' || char == '\x5c')) then
      let (tail, last) ← quotedRun isDouble fuel next.step
      return (head ++ CodePoint.ofChar char :: tail, last)
    else if isDouble && char == '\x5c' then
      let (escape, after) ← readEscape next.step
      let (tail, last) ← quotedRun isDouble fuel after
      return (head ++ escape ++ tail, last)
    else return (head, next)

def quotedSpaces (cursor : Cursor) : Except Fault (List Char × Cursor) :=
  let (blanks, next) := cursor.takeWhile fun char => char == ' ' || char == '\t'
  if next.atEnd then .error .malformed
  else match next.takeBreak? with
    | none => .ok (blanks, next)
    | some (lineEnd, after) => do
      let (breaks, last) ← quotedBreaks (after.rest.length + 1) after
      return (foldBreaks lineEnd breaks, last)

/-- Reads runs and blanks up to the closing quote, and moves past it. -/
def quotedRuns (isDouble : Bool) : (fuel : Nat) → Cursor → Except Fault (CodeText × Cursor)
  | 0, _ => .error .malformed
  | fuel + 1, cursor => do
    let (run, next) ← quotedRun isDouble (cursor.rest.length + 1) cursor
    if next.peek == (if isDouble then '\x22' else '\x27') then return (run, next.step)
    else
      let (blanks, after) ← quotedSpaces next
      let (tail, last) ← quotedRuns isDouble fuel after
      return (run ++ CodeText.ofChars blanks ++ tail, last)

def readQuoted (isDouble : Bool) (cursor : Cursor) : Except Fault (CodeText × Cursor) :=
  quotedRuns isDouble (cursor.rest.length + 1) cursor.step

end EntityScaffold.Yaml
