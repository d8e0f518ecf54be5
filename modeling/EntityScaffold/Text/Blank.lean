/-
White space, in the sense of the Unicode class together with the four information separators, and
the removal of characters from the two ends of a text.
-/

namespace EntityScaffold.Text

/-- Does a code point lie in one of the ranges of a table? -/
def inRanges (table : List (Nat × Nat)) (point : Nat) : Bool :=
  table.any fun range => range.1 ≤ point && point ≤ range.2

/-- The pieces between the items that satisfy `separates`; there is one more than such items. -/
def splitWhere {α : Type} (separates : α → Bool) : List α → List (List α)
  | [] => [[]]
  | item :: rest =>
    if separates item then [] :: splitWhere separates rest
    else match splitWhere separates rest with
      | [] => [[item]]
      | piece :: pieces => (item :: piece) :: pieces

def blankRanges : List (Nat × Nat) :=
  [(0x09, 0x0D), (0x1C, 0x20), (0x85, 0x85), (0xA0, 0xA0), (0x1680, 0x1680), (0x2000, 0x200A),
   (0x2028, 0x2029), (0x202F, 0x202F), (0x205F, 0x205F), (0x3000, 0x3000)]

def isBlankPoint (point : Nat) : Bool := inRanges blankRanges point

def isBlank (char : Char) : Bool := isBlankPoint char.toNat

/-- The pieces between blanks, without empty ones. -/
def fieldsOf {α : Type} (blank : α → Bool) (items : List α) : List (List α) :=
  (splitWhere blank items).filter fun piece => !piece.isEmpty

/-- Removes the longest end whose items satisfy `drop`. -/
def trimEnd {α : Type} (drop : α → Bool) (items : List α) : List α :=
  (items.reverse.dropWhile drop).reverse

/-- Removes the longest start and the longest end whose items satisfy `drop`. -/
def trim {α : Type} (drop : α → Bool) (items : List α) : List α :=
  trimEnd drop (items.dropWhile drop)

/-- Puts `new` for each `old`. -/
def replaceChar (old new : Char) (chars : List Char) : List Char :=
  chars.map fun char => if char = old then new else char

/-- One `mark` for each run of characters that satisfy `separates`, `inRun` telling that the last
character was one of them. -/
def collapseRuns (separates : Char → Bool) (mark : Char) (inRun : Bool) : List Char → List Char
  | [] => []
  | char :: rest =>
    if separates char then
      if inRun then collapseRuns separates mark true rest
      else mark :: collapseRuns separates mark true rest
    else char :: collapseRuns separates mark false rest

/-- The pieces in one text, with `separator` between any two. -/
def joinWith {α : Type} (separator : List α) : List (List α) → List α
  | [] => []
  | [piece] => piece
  | piece :: pieces => piece ++ separator ++ joinWith separator pieces

end EntityScaffold.Text
