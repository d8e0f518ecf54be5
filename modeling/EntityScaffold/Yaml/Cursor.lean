/-
A place in a YAML text: the characters that remain, how many have been read, and the line and column
of the next one, both counted from zero. A byte order mark takes no column. Beyond the end stands
the character NUL, which no YAML text contains.
-/

namespace EntityScaffold.Yaml

structure Cursor where
  rest : List Char
  index : Nat
  line : Nat
  column : Nat

def isBreak (char : Char) : Bool :=
  char == '\n' || char == '\r' || char == '\x85' || char == '\u2028' || char == '\u2029'

/-- Line ends, and the end of the text. -/
def isLineEnd (char : Char) : Bool := isBreak char || char == '\x00'

/-- Line ends, the end of the text and the space. -/
def isSpaceOrEnd (char : Char) : Bool := isLineEnd char || char == ' '

/-- Line ends, the end of the text, the space and the tab. -/
def isWordEnd (char : Char) : Bool := isSpaceOrEnd char || char == '\t'

/-- Letters and digits of ASCII, the dash and the underscore. -/
def isNameChar (char : Char) : Bool :=
  ('0' ≤ char && char ≤ '9') || ('A' ≤ char && char ≤ 'Z') || ('a' ≤ char && char ≤ 'z') ||
    char == '-' || char == '_'

namespace Cursor

def start (source : List Char) : Cursor := ⟨source, 0, 0, 0⟩

def peek (cursor : Cursor) (offset : Nat := 0) : Char := (cursor.rest.drop offset).headD '\x00'

def atEnd (cursor : Cursor) : Bool := cursor.rest.isEmpty

def step (cursor : Cursor) : Cursor :=
  match cursor.rest with
  | [] => cursor
  | char :: rest =>
    if isBreak char && !(char == '\r' && rest.headD '\x00' == '\n') then
      ⟨rest, cursor.index + 1, cursor.line + 1, 0⟩
    else if char == '\uFEFF' then ⟨rest, cursor.index + 1, cursor.line, cursor.column⟩
    else ⟨rest, cursor.index + 1, cursor.line, cursor.column + 1⟩

def advance (cursor : Cursor) : (count : Nat) → Cursor
  | 0 => cursor
  | count + 1 => cursor.step.advance count

/-- The longest run of characters that satisfy `keep`, and the place behind it. -/
def takeWhile (cursor : Cursor) (keep : Char → Bool) : List Char × Cursor :=
  let run := cursor.rest.takeWhile keep
  (run, cursor.advance run.length)

def skipWhile (cursor : Cursor) (keep : Char → Bool) : Cursor := (cursor.takeWhile keep).2

def skipSpaces (cursor : Cursor) : Cursor := cursor.skipWhile (· == ' ')

def skipLine (cursor : Cursor) : Cursor := cursor.skipWhile fun char => !isLineEnd char

def skipComment (cursor : Cursor) : Cursor :=
  if cursor.peek == '#' then cursor.skipLine else cursor

/-- Reads one line end. The two separators of Unicode stand for themselves, the others for a line
feed. -/
def takeBreak? (cursor : Cursor) : Option (Char × Cursor) :=
  match cursor.rest with
  | '\r' :: '\n' :: _ => some ('\n', cursor.advance 2)
  | char :: _ =>
    if char == '\u2028' || char == '\u2029' then some (char, cursor.step)
    else if isBreak char then some ('\n', cursor.step)
    else none
  | [] => none

/-- Does a line begin here that starts or ends a document? -/
def atDocumentMark (cursor : Cursor) : Bool :=
  (cursor.rest.take 3 == ['-', '-', '-'] || cursor.rest.take 3 == ['.', '.', '.']) &&
    isWordEnd (cursor.peek 3)

end Cursor

end EntityScaffold.Yaml
