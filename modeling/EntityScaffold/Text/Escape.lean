import EntityScaffold.Decimal.Numeral
import EntityScaffold.Text.CharacterName
import EntityScaffold.Text.Utf8

/-
Escapes in quoted text. A letter behind a backslash names a character, or tells how many digits
behind it are the number of one; a backslash that means nothing stands for itself. What is read is
ASCII, so characters beyond it are written as escapes first.
-/

namespace EntityScaffold.Text

/-- Characters that are no escape: where they begin, how many they are, and why. -/
structure EscapeFault where
  start : Nat
  length : Nat
  reason : String
  deriving DecidableEq, Repr

namespace Escape

def backslash : Char := '\x5c'

/-- A character as an escape with a letter and a number of digits. -/
def numbered (letter : Char) (width : Nat) (char : Char) : List Char :=
  backslash :: letter :: Utf8.hexDigits width char.toNat

/-- A character in ASCII, in the shortest escape if it has to be one. -/
def shortForm (char : Char) : List Char :=
  let point := char.toNat
  if point < 0x80 then [char]
  else if point < 0x100 then numbered 'x' 2 char
  else if point < 0x10000 then numbered 'u' 4 char
  else numbered 'U' 8 char

/-- A text in ASCII, each other character in the longest escape. A backslash in front of one becomes
an escape as well, so that it means nothing. -/
def longForm : List Char → List Char
  | [] => []
  | [char] => if char.toNat < 0x80 then [char] else numbered 'U' 8 char
  | char :: next :: rest =>
    if char = backslash then
      if next.toNat < 0x80 then char :: next :: longForm rest
      else numbered 'u' 4 char ++ longForm (next :: rest)
    else if char.toNat < 0x80 then char :: longForm (next :: rest)
    else numbered 'U' 8 char ++ longForm (next :: rest)

/-- The character that a letter behind a backslash names. -/
def named? : Char → Option Nat
  | 'a' => some 7
  | 'b' => some 8
  | 't' => some 9
  | 'n' => some 10
  | 'v' => some 11
  | 'f' => some 12
  | 'r' => some 13
  | '\x5c' => some 0x5C
  | '\x27' => some 0x27
  | '\x22' => some 0x22
  | _ => none

/-- The number of hexadecimal digits behind a letter, and what is said when there are less. -/
def digitCount? : Char → Option (Nat × String)
  | 'x' => some (2, "truncated \\xXX escape")
  | 'u' => some (4, "truncated \\uXXXX escape")
  | 'U' => some (8, "truncated \\UXXXXXXXX escape")
  | _ => none

def isOctal (char : Char) : Bool := '0' ≤ char && char ≤ '7'

/-- Reads an escape that asks for a character by its name, from what stands behind the letter. Gives
the character and the length of the name. -/
def byName (start : Nat) (rest : List Char) : Except EscapeFault (Nat × Nat) :=
  let malformed (length : Nat) : EscapeFault := ⟨start, length, "malformed \\N character escape"⟩
  match rest with
  | '\x7b' :: rest =>
    let name := rest.takeWhile (· ≠ '\x7d')
    if name.isEmpty || name.length = rest.length then .error (malformed (3 + name.length))
    else match CharacterName.find? name with
      | some point => .ok (point, name.length)
      | none => .error ⟨start, 4 + name.length, "unknown Unicode character name"⟩
  | _ => .error (malformed 2)

/-- Reads the escapes of a text that begins at a position. The fuel is at least the length of the
text. -/
def decode (fuel : Nat) (start : Nat) (chars : List Char) : Except EscapeFault CodeText :=
  match fuel, chars with
  | 0, _ | _, [] => .ok []
  | fuel + 1, '\x5c' :: char :: rest =>
    match named? char, digitCount? char with
    | some point, _ => do return CodePoint.ofNat point :: (← decode fuel (start + 2) rest)
    | none, some (count, reason) => do
      let digits := (rest.take count).takeWhile (Decimal.isDigitOf 16)
      let length := digits.length + 2
      if digits.length < count then throw ⟨start, length, reason⟩
      let point := Decimal.natOfDigits 16 digits
      if 0x110000 ≤ point then throw ⟨start, length, "illegal Unicode character"⟩
      return CodePoint.ofNat point :: (← decode fuel (start + length) (rest.drop count))
    | none, none => do
      if char = '\n' then decode fuel (start + 2) rest
      else if isOctal char then
        let digits := ((char :: rest).take 3).takeWhile isOctal
        return CodePoint.ofNat (Decimal.natOfDigits 8 digits) ::
          (← decode fuel (start + digits.length + 1) ((char :: rest).drop digits.length))
      else if char = 'N' then
        let (point, length) ← byName start rest
        return CodePoint.ofNat point :: (← decode fuel (start + length + 4) (rest.drop (length + 2)))
      else return CodePoint.ofChar backslash :: CodePoint.ofChar char ::
        (← decode fuel (start + 2) rest)
  | fuel + 1, char :: rest => do
    return CodePoint.ofChar char :: (← decode fuel (start + 1) rest)

/-- The text that characters of ASCII between quotes stand for. -/
def read (chars : List Char) : Except EscapeFault CodeText := decode (chars.length + 1) 0 chars

end Escape

end EntityScaffold.Text
