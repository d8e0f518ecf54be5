import EntityScaffold.Text.CodePoint
import EntityScaffold.Text.Printable
import EntityScaffold.Text.Utf8

/-
Quoted text, as it appears in messages. The apostrophe encloses a text unless the text holds an
apostrophe and no double quote. The enclosing mark and the backslash are escaped, the tab and the
two line ends have names, and characters without a printed form are written by number, with two,
four or eight hexadecimal digits. Octets are quoted in the same way with the mark `b` in front.
-/

namespace EntityScaffold.Text

def apostrophe : Char := '\x27'

def doubleQuote : Char := '\x22'

def backslash : Char := '\x5c'

/-- The mark that encloses a text, given the code points of the text. -/
def enclosingMark (points : List Nat) : Char :=
  if points.contains apostrophe.toNat && !points.contains doubleQuote.toNat then doubleQuote
  else apostrophe

/-- The escapes that text and octets share. -/
def namedEscape (mark : Char) (point : Nat) : Option (List Char) :=
  if point = mark.toNat then some [backslash, mark]
  else if point = backslash.toNat then some [backslash, backslash]
  else if point = 0x09 then some [backslash, 't']
  else if point = 0x0A then some [backslash, 'n']
  else if point = 0x0D then some [backslash, 'r']
  else none

def quotedPoint (mark : Char) (point : Nat) : List Char :=
  match namedEscape mark point with
  | some escape => escape
  | none =>
    if isPrintablePoint point then [Char.ofNat point]
    else if point < 0x100 then backslash :: 'x' :: Utf8.hexDigits 2 point
    else if point < 0x10000 then backslash :: 'u' :: Utf8.hexDigits 4 point
    else backslash :: 'U' :: Utf8.hexDigits 8 point

def quotedPoints (points : List Nat) : List Char :=
  let mark := enclosingMark points
  mark :: (points.flatMap (quotedPoint mark) ++ [mark])

def quoted (string : String) : String :=
  String.ofList (quotedPoints (string.toList.map Char.toNat))

def quotedOctet (mark : Char) (octet : Nat) : List Char :=
  match namedEscape mark octet with
  | some escape => escape
  | none =>
    if 0x20 ≤ octet && octet < 0x7F then [Char.ofNat octet]
    else backslash :: 'x' :: Utf8.hexDigits 2 octet

def quotedOctets (octets : List UInt8) : List Char :=
  let points := octets.map UInt8.toNat
  let mark := enclosingMark points
  'b' :: mark :: (points.flatMap (quotedOctet mark) ++ [mark])

end EntityScaffold.Text
