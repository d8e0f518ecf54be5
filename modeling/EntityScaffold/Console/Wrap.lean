import EntityScaffold.Console.Cells

/-
Word wrapping. A line is broken in front of a word that does not fit; the blanks behind a word
belong to it and may stick out. A word that is wider than a whole line is folded over several lines,
or left to be cut.
-/

namespace EntityScaffold.Console

/-- The words of a line, each with the blanks behind it; the first one has those in front of it too.
Blanks alone are no word. -/
def wordsOf (text : CodeText) : List CodeText :=
  let blanks := text.takeWhile CodePoint.isBlank
  let rest := text.dropWhile CodePoint.isBlank
  go blanks rest
where
  /-- The words of a text that begins with a word, `front` being put in front of it. -/
  go (front : CodeText) : CodeText → List CodeText
    | [] => []
    | point :: rest =>
      let word := rest.takeWhile fun next => !next.isBlank
      let behind := rest.dropWhile fun next => !next.isBlank
      let blanks := behind.takeWhile CodePoint.isBlank
      (front ++ point :: word ++ blanks) :: go [] (behind.dropWhile CodePoint.isBlank)
  termination_by text => text.length
  decreasing_by
    have first := (List.dropWhile_suffix (l := rest) fun next => !next.isBlank).length_le
    have second := (List.dropWhile_suffix (l := rest.dropWhile fun next => !next.isBlank)
      CodePoint.isBlank).length_le
    simp only [List.length_cons]
    omega

/-- Cuts clusters into pieces that fit, behind the start of a piece that takes some cells. A piece
without cells is dropped at the end. -/
def chopAfter (limit : Nat) (start : CodeText) (taken : Nat) : List Cluster → List CodeText
  | [] => if taken = 0 then [] else [start]
  | cluster :: rest =>
    if taken + cluster.cells ≤ limit then
      chopAfter limit (start ++ cluster.points) (taken + cluster.cells) rest
    else start :: chopAfter limit cluster.points cluster.cells rest

def chop (limit : Nat) (word : CodeText) : List CodeText := chopAfter limit [] 0 (clusters word)

/-- The lines so far, the last one first, and how many cells of the last one are taken. -/
structure Wrapping where
  lines : List CodeText := []
  current : CodeText := []
  taken : Nat := 0

namespace Wrapping

/-- A word behind the current line. -/
def extend (wrapping : Wrapping) (word : CodeText) (taken : Nat) : Wrapping :=
  { wrapping with current := wrapping.current ++ word, taken := taken }

/-- A word on a line of its own. The first word of all begins the first line. -/
def start (wrapping : Wrapping) (word : CodeText) : Wrapping :=
  if wrapping.lines.isEmpty && wrapping.current.isEmpty then wrapping.extend word (width word)
  else ⟨wrapping.current :: wrapping.lines, word, width word⟩

def add (folds : Bool) (limit : Nat) (wrapping : Wrapping) (word : CodeText) : Wrapping :=
  let needed := width (Text.trimEnd CodePoint.isBlank word)
  if wrapping.taken + needed ≤ limit then wrapping.extend word (wrapping.taken + width word)
  else if limit < needed then
    if folds then (chop limit word).foldl start wrapping else wrapping.start word
  else wrapping.start word

def finish (wrapping : Wrapping) : List CodeText := (wrapping.current :: wrapping.lines).reverse

end Wrapping

/-- The pieces of a line, without most of the blanks at their ends; blanks alone stay one piece. -/
def breakLine (folds : Bool) (limit : Nat) (line : CodeText) : List CodeText :=
  let pieces := match wordsOf line with
    | [] => [line]
    | words => (words.foldl (Wrapping.add folds limit) {}).finish
  pieces.map trimExcess
where
  /-- Drops blanks at the end of a line as far as it has more characters than the limit. -/
  trimExcess (line : CodeText) : CodeText :=
    let blanks := line.length - (Text.trimEnd CodePoint.isBlank line).length
    line.take (line.length - min blanks (line.length - limit))

def linesOf (text : CodeText) : List CodeText :=
  Text.splitWhere (· == CodePoint.ofChar '\n') text

/-- How a text is laid out: what happens to long words and long lines, and whether lines are broken.
-/
structure Layout where
  limit : Nat
  overflow : Overflow := .fold
  wraps : Bool := true

def layOut (layout : Layout) (text : CodeText) : List CodeText :=
  (linesOf text).flatMap fun line =>
    let line := expandTabs line
    if layout.wraps then breakLine (layout.overflow = .fold) layout.limit line else [line]

end EntityScaffold.Console
