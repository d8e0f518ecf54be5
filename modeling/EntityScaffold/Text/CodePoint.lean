import EntityScaffold.Text.Blank

/-
Text that need not be valid Unicode. An escape in a data file may name half of a surrogate pair;
such a half is a code point but not a character. Declared names and types are kept as lists of code
points until something needs them as strings.
-/

namespace EntityScaffold

/-- A code point, surrogates included. -/
structure CodePoint where
  value : Nat
  inRange : value < 0x110000
  deriving DecidableEq, Repr

namespace CodePoint

def ofChar (char : Char) : CodePoint :=
  ⟨char.toNat, by
    have valid := char.valid
    simp only [UInt32.isValidChar, Nat.isValidChar] at valid
    change char.val.toNat < 0x110000
    omega⟩

/-- The code point of a number; a number beyond the last one stands for the replacement character.
-/
def ofNat (value : Nat) : CodePoint :=
  if inRange : value < 0x110000 then ⟨value, inRange⟩ else ⟨0xFFFD, by decide⟩

def isSurrogate (point : CodePoint) : Bool :=
  0xD800 ≤ point.value && point.value ≤ 0xDFFF

/-- The character of a code point, unless it is a surrogate. -/
def toChar? (point : CodePoint) : Option Char :=
  if valid : Nat.isValidChar point.value then some ⟨point.value.toUInt32, by
    simp only [UInt32.isValidChar, Nat.toUInt32, UInt32.toNat_ofNat']
    have small : point.value % 2 ^ 32 = point.value := Nat.mod_eq_of_lt (by
      have := point.inRange
      omega)
    rw [small]
    exact valid⟩
  else none

def isBlank (point : CodePoint) : Bool := Text.isBlankPoint point.value

end CodePoint

instance : Coe Char CodePoint := ⟨CodePoint.ofChar⟩

/-- Text in which surrogates may stand alone. -/
abbrev CodeText := List CodePoint

namespace CodeText

def ofChars (chars : List Char) : CodeText := chars.map CodePoint.ofChar

def ofString (string : String) : CodeText := ofChars string.toList

/-- The characters of a text without surrogates. -/
def toChars? (text : CodeText) : Option (List Char) := text.mapM CodePoint.toChar?

/-- The string of a text without surrogates. -/
def toString? (text : CodeText) : Option String := text.toChars?.map String.ofList

/-- The characters of a text, with the replacement character for each surrogate. -/
def replacing (text : CodeText) : List Char := text.map fun point => point.toChar?.getD '\uFFFD'

/-- Changes the characters of a text; each run of characters between surrogates is changed alone. -/
def mapRuns (change : List Char → List Char) (text : CodeText) : CodeText :=
  go [] text
where
  /-- `before` holds the characters of the current run in reverse. -/
  go (before : List Char) : CodeText → CodeText
    | [] => ofChars (change before.reverse)
    | point :: rest =>
      match point.toChar? with
      | some char => go (char :: before) rest
      | none => ofChars (change before.reverse) ++ point :: go [] rest

/-- The points of a text that its replacing characters do not tell. -/
def hidden (text : CodeText) : CodeText :=
  text.filter fun point => point.toChar?.getD '\uFFFD' = '\uFFFD'

/-- Puts points in the places of the replacement characters, one after another. -/
def refill : CodeText → List Char → CodeText
  | _, [] => []
  | [], char :: rest => CodePoint.ofChar char :: refill [] rest
  | point :: points, char :: rest =>
    if char = '\uFFFD' then point :: refill points rest
    else CodePoint.ofChar char :: refill (point :: points) rest

/-- Changes the characters of a text, in which each surrogate counts as a replacement character. The
change has to leave these characters where they are among the others. -/
def mapWhole (change : List Char → List Char) (text : CodeText) : CodeText :=
  refill text.hidden (change text.replacing)

/-- The string of a text, with the replacement character for each surrogate. -/
def toStringReplacing (text : CodeText) : String :=
  String.ofList text.replacing

/-- The first run of surrogates in a text, with its position. -/
def surrogates? (text : CodeText) : Option (Nat × List CodePoint) :=
  let before := text.takeWhile fun point => !point.isSurrogate
  match (text.drop before.length).takeWhile CodePoint.isSurrogate with
  | [] => none
  | run => some (before.length, run)

/-- The octets that a surrogate would take. -/
def surrogateSize : Nat := 3

/-- The string of a text, with the replacement character for each octet of a surrogate. -/
def octetsReplaced (text : CodeText) : String :=
  String.ofList (text.flatMap fun point =>
    match point.toChar? with
    | some char => [char]
    | none => List.replicate surrogateSize '\uFFFD')

end CodeText

end EntityScaffold
