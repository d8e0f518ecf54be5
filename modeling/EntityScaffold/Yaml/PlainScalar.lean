import EntityScaffold.Yaml.Cursor

/-
Scalars without quotes. Such a scalar ends before a colon that a blank follows, before a comment,
before the brackets and commas of a flow collection, and where a line is indented less than its
block. Between two of its lines a single line end becomes a space and each further one is kept.
-/

namespace EntityScaffold.Yaml

/-- The characters that end a plain scalar inside a flow collection. -/
def isFlowPunctuation (char : Char) : Bool :=
  char == ',' || char == '[' || char == ']' || char == '\x7b' || char == '\x7d'

/-- The characters of a plain scalar up to the next blank or the end of the scalar. -/
def plainRun (inFlow : Bool) : List Char → List Char
  | [] => []
  | char :: rest =>
    let next := rest.headD '\x00'
    if isWordEnd char || (char == ':' && (isWordEnd next || (inFlow && isFlowPunctuation next))) ||
        (inFlow && (isFlowPunctuation char || char == '?')) then []
    else char :: plainRun inFlow rest

/-- Line ends and spaces in front of the next line of a plain scalar; none if a document begins or
ends before it. -/
def plainBreaks : (fuel : Nat) → Cursor → Option (List Char) × Cursor
  | 0, cursor => (some [], cursor)
  | fuel + 1, cursor =>
    if cursor.peek == ' ' then plainBreaks fuel cursor.step
    else match cursor.takeBreak? with
      | none => (some [], cursor)
      | some (lineEnd, next) =>
        if next.atDocumentMark then (none, next)
        else
          let (breaks, last) := plainBreaks fuel next
          (breaks.map (lineEnd :: ·), last)

/-- What the space between two lines of a scalar becomes. -/
def foldBreaks (lineEnd : Char) (breaks : List Char) : List Char :=
  if lineEnd != '\n' then lineEnd :: breaks
  else if breaks.isEmpty then [' ']
  else breaks

/-- Reads the blanks behind a run of a plain scalar: what they become if the scalar goes on, whether
a line ended, and the place behind them. -/
def plainSpaces (cursor : Cursor) : List Char × Bool × Cursor :=
  let (spaces, next) := cursor.takeWhile (· == ' ')
  match next.takeBreak? with
  | none => (spaces, false, next)
  | some (lineEnd, after) =>
    if after.atDocumentMark then ([], true, after)
    else
      match plainBreaks after.rest.length after with
      | (none, last) => ([], true, last)
      | (some breaks, last) => (foldBreaks lineEnd breaks, true, last)

/-- Reads runs of a plain scalar, `spaces` standing in front of the first one. The result also tells
whether a line ended behind the scalar. -/
def plainRuns (inFlow : Bool) (indent : Int) :
    (fuel : Nat) → (spaces : List Char) → (lineEnded : Bool) → Cursor → List Char × Bool × Cursor
  | 0, _, lineEnded, cursor => ([], lineEnded, cursor)
  | fuel + 1, spaces, lineEnded, cursor =>
    let run := plainRun inFlow cursor.rest
    if cursor.peek == '#' || run.isEmpty then ([], lineEnded, cursor)
    else
      let (blanks, ended, next) := plainSpaces (cursor.advance run.length)
      if blanks.isEmpty || next.peek == '#' || (!inFlow && (next.column : Int) < indent) then
        (spaces ++ run, ended, next)
      else
        let (more, lastEnded, last) := plainRuns inFlow indent fuel blanks ended next
        (spaces ++ run ++ more, lastEnded, last)

/-- Reads a plain scalar in a block that is indented by `indent`. -/
def readPlain (inFlow : Bool) (indent : Int) (cursor : Cursor) : List Char × Bool × Cursor :=
  plainRuns inFlow (indent + 1) cursor.rest.length [] false cursor

end EntityScaffold.Yaml
