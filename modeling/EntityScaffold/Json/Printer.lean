import EntityScaffold.Decimal.Shortest
import EntityScaffold.Json.Basic
import EntityScaffold.Text.Quoted

/-
Printing of JSON values. A text escapes the quote, the backslash, the control characters below the
space and surrogates that stand alone, and in ASCII also every other character. The compact form has
no blanks; the indented form of an object of scalars has one member on a line, two spaces deep.
-/

namespace EntityScaffold.Json

def escapeUnit (unit : Nat) : List Char := '\x5c' :: 'u' :: Text.Utf8.hexDigits 4 unit

def escapePoint (point : CodePoint) : List Char :=
  match point.toChar? with
  | none => escapeUnit point.value
  | some char =>
    if char = '\x22' then ['\x5c', '\x22']
    else if char = '\x5c' then ['\x5c', '\x5c']
    else if char = '\x08' then ['\x5c', 'b']
    else if char = '\x0c' then ['\x5c', 'f']
    else if char = '\n' then ['\x5c', 'n']
    else if char = '\r' then ['\x5c', 'r']
    else if char = '\t' then ['\x5c', 't']
    else if char.toNat < 0x20 then '\x5c' :: 'u' :: Text.Utf8.hexDigits 4 char.toNat
    else [char]

def printText (content : CodeText) : List Char :=
  '\x22' :: (content.flatMap escapePoint ++ ['\x22'])

/-- The written form of one code point inside a text that is kept to ASCII. -/
def asciiPoint (point : CodePoint) : List Char :=
  if point.value < 0x7F then escapePoint point
  else if point.value < 0x10000 then escapeUnit point.value
  else
    let offset := point.value - 0x10000
    escapeUnit (0xD800 + offset / 0x400) ++ escapeUnit (0xDC00 + offset % 0x400)

def printAsciiText (content : CodeText) : List Char :=
  '\x22' :: (content.flatMap asciiPoint ++ ['\x22'])

/-- The written form of a floating-point number; the three that are no decimal are words. -/
def printFloat (number : Float) : List Char :=
  if number.isNaN then "NaN".toList
  else if number.isInf then (if number < 0 then "-Infinity" else "Infinity").toList
  else Decimal.text number

mutual

/-- The form without blanks, texts being written by `writeText`. -/
def compactWith (writeText : CodeText → List Char) : Json → List Char
  | .null => "null".toList
  | .bool value => (if value then "true" else "false").toList
  | .int value => (toString value).toList
  | .float value => printFloat value
  | .text value => writeText value
  | .list items => '[' :: (compactItems writeText true items ++ [']'])
  | .object members => '\x7b' :: (compactMembers writeText true members ++ ['\x7d'])

def compactItems (writeText : CodeText → List Char) (isFirst : Bool) : List Json → List Char
  | [] => []
  | item :: rest =>
    (if isFirst then [] else [',']) ++ compactWith writeText item ++
      compactItems writeText false rest

def compactMembers (writeText : CodeText → List Char) (isFirst : Bool) :
    List (CodeText × Json) → List Char
  | [] => []
  | (name, item) :: rest =>
    (if isFirst then [] else [',']) ++ writeText name ++ ':' :: compactWith writeText item ++
      compactMembers writeText false rest

end

def compact (json : Json) : List Char := compactWith printText json

def compactAscii (json : Json) : List Char := compactWith printAsciiText json

/-- The lines of the members of an object, a comma after each but the last. -/
def memberLines : List (CodeText × Json) → List Char
  | [] => []
  | (name, item) :: rest =>
    ' ' :: ' ' :: (printText name ++ ':' :: ' ' :: compact item ++
      (if rest.isEmpty then ['\n'] else ',' :: '\n' :: memberLines rest))

/-- An object whose members are scalars, one to a line. -/
def indentedObject (members : List (CodeText × Json)) : List Char :=
  '\x7b' :: '\n' :: (memberLines members ++ ['\x7d'])

end EntityScaffold.Json
