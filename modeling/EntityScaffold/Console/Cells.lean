import EntityScaffold.Text.CodePoint
import EntityScaffold.Text.WidthTable

/-
Text in terminal cells. Widths are counted in cells. A character that takes no cell belongs to the
one in front of it, a joiner takes the character behind it along, and a picture mark makes some
narrow characters wide; such a cluster is never divided. A text that is too wide is cut at a cell,
and half of a wide cluster becomes a space.
-/

namespace EntityScaffold.Console

/-- The number of cells that a character takes on its own. -/
def cells (point : CodePoint) : Nat :=
  if Text.inRanges Text.zeroWidthRanges point.value then 0
  else if Text.inRanges Text.wideRanges point.value then 2
  else 1

/-- Joins the character behind it to the one in front of it. -/
def joiner : CodePoint := CodePoint.ofChar '\u200D'

/-- Asks for the character in front of it as a picture. -/
def pictureMark : CodePoint := CodePoint.ofChar '\uFE0F'

/-- The cells that a picture mark adds behind a character. -/
def widening : Option CodePoint → Nat
  | none => 0
  | some point => if Text.inRanges Text.pictureRanges point.value then 1 else 0

/-- The number of cells that a text takes behind a character that a picture mark may widen. -/
def widthAfter (last : Option CodePoint) : CodeText → Nat
  | [] => 0
  | point :: rest =>
    if point = joiner then
      match rest with
      | [] => 0
      | _ :: rest => widthAfter last rest
    else if point = pictureMark then widening last + widthAfter none rest
    else if cells point = 0 then widthAfter last rest
    else cells point + widthAfter (some point) rest

def width (text : CodeText) : Nat := widthAfter none text

def spaces (count : Nat) : CodeText := List.replicate count ' '

/-- Characters that are not divided, and the cells that they take together. -/
structure Cluster where
  points : CodeText
  cells : Nat
  deriving DecidableEq

/-- The clusters of a text behind the start of one, whose last wide or narrow character a picture
mark may widen. -/
def clustersAfter (start : Cluster) (last : Option CodePoint) : CodeText → List Cluster
  | [] => [start]
  | point :: rest =>
    if point = joiner then
      match rest with
      | [] => [⟨start.points ++ [point], start.cells⟩]
      | next :: rest => clustersAfter ⟨start.points ++ [point, next], start.cells⟩ last rest
    else if point = pictureMark then
      clustersAfter ⟨start.points ++ [point], start.cells + widening last⟩ none rest
    else if cells point = 0 then clustersAfter ⟨start.points ++ [point], start.cells⟩ last rest
    else start :: clustersAfter ⟨[point], cells point⟩ (some point) rest

def clusters : CodeText → List Cluster
  | [] => []
  | point :: rest =>
    clustersAfter ⟨[point], cells point⟩ (if cells point = 0 then none else some point) rest

/-- The start of a text in a number of cells that it exceeds. -/
def takeCells (room : Nat) : List Cluster → CodeText
  | [] => []
  | cluster :: rest =>
    if room = 0 then []
    else if cluster.cells ≤ room then cluster.points ++ takeCells (room - cluster.cells) rest
    else [CodePoint.ofChar ' ']

/-- A text in exactly the given number of cells, cut or filled with spaces. -/
def fit (room : Nat) (text : CodeText) : CodeText :=
  if width text ≤ room then text ++ spaces (room - width text) else takeCells room (clusters text)

inductive Overflow where
  | fold
  | ellipsis
  deriving DecidableEq, Repr

def truncate (overflow : Overflow) (room : Nat) (text : CodeText) : CodeText :=
  if width text ≤ room then text
  else match overflow with
    | .fold => fit room text
    | .ellipsis => fit (room - 1) text ++ [CodePoint.ofChar '…']

def tabStop : Nat := 8

/-- Pieces of a line that stood between tabs, each tab filled up to the next stop, from a column on.
-/
def fillTabs (column : Nat) : List CodeText → CodeText
  | [] => []
  | [piece] => piece
  | piece :: pieces =>
    let tabbed := piece ++ [CodePoint.ofChar ' ']
    let reached := column + width tabbed
    let filled := (tabStop - reached % tabStop) % tabStop
    tabbed ++ spaces filled ++ fillTabs (reached + filled) pieces

def expandTabs (line : CodeText) : CodeText :=
  fillTabs 0 (Text.splitWhere (· == CodePoint.ofChar '\t') line)

/-- Control characters that are never printed: bell, backspace, vertical tab, form feed and carriage
return. -/
def isStripped (point : CodePoint) : Bool := [7, 8, 11, 12, 13].contains point.value

def strip (text : CodeText) : CodeText := text.filter fun point => !isStripped point

end EntityScaffold.Console
