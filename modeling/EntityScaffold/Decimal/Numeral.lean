import EntityScaffold.Decimal.Reading
import EntityScaffold.Text.Case
import EntityScaffold.Text.CodePoint
import EntityScaffold.Text.Digits

/-
Spellings of numbers. The decimal digits of every script count as digits. Blanks may stand around a
number and a sign in front of it; digits of the bases two, eight and sixteen may have a mark that
names their base.
-/

namespace EntityScaffold.Decimal

/-- The character of ASCII that a code point stands for in a number: its digit, a space for any
blank of Unicode, or a question mark, which no number contains. -/
def plainChar (point : CodePoint) : Char :=
  match point.toChar? with
  | none => '?'
  | some char =>
    if char.toNat < 0x7F then char
    else if Text.isBlank char then ' '
    else match Text.decimalValue? char with
      | some value => Char.ofNat ('0'.toNat + value)
      | none => '?'

def isNumberBlank (char : Char) : Bool :=
  char == ' ' || (0x09 ≤ char.toNat && char.toNat ≤ 0x0D)

/-- A sign in front of a number, and the rest; the sign tells whether the number is negative. -/
def splitSign (chars : List Char) : Bool × List Char :=
  match chars with
  | '-' :: rest => (true, rest)
  | '+' :: rest => (false, rest)
  | _ => (false, chars)

def baseMark? (base : Nat) : Option Char :=
  if base = 2 then some 'b'
  else if base = 8 then some 'o'
  else if base = 16 then some 'x'
  else none

/-- Digits without the mark of their base. -/
def dropBaseMark (base : Nat) (chars : List Char) : List Char :=
  match chars with
  | '0' :: letter :: rest => if some letter.toLower = baseMark? base then rest else chars
  | _ => chars

inductive NumeralFault where
  | malformed
  | tooLong (digits : Nat)
  deriving DecidableEq, Repr

/-- Reads an integer. Only bases that are no power of two have a limit on the number of digits. -/
def readInteger (base : Nat) (spelling : CodeText) : Except NumeralFault Int :=
  let (negative, unsigned) := splitSign ((spelling.map plainChar).dropWhile isNumberBlank)
  let body := dropBaseMark base unsigned
  let digits := body.takeWhile (isDigitOf base)
  if base = 10 && digitLimit < digits.length then .error (.tooLong digits.length)
  else if digits.isEmpty || !(body.drop digits.length).all isNumberBlank then .error .malformed
  else
    let size : Int := natOfDigits base digits
    .ok (if negative then -size else size)

/-- The exponent of a number, if the text is one. No text is the exponent zero. -/
def readExponent? (chars : List Char) : Option Int :=
  match chars with
  | [] => some 0
  | mark :: rest =>
    let (negative, digits) := splitSign rest
    if mark.toLower = 'e' && !digits.isEmpty && digits.all (isDigitOf 10) then
      let size : Int := natOfDigits 10 digits
      some (if negative then -size else size)
    else none

/-- Reads a floating-point number: digits with a point and an exponent, or a word for an infinity or
for a number that is none. -/
def readFloat? (spelling : CodeText) : Option Float :=
  let trimmed := Text.trim isNumberBlank (spelling.map plainChar)
  let (negative, body) := splitSign trimmed
  let signed (size : Float) : Float := if negative then -size else size
  let word := String.ofList (body.map Char.toLower)
  if word = "inf" || word = "infinity" then some (signed (1.0 / 0.0))
  else if word = "nan" then some (0.0 / 0.0)
  else
    let whole := body.takeWhile (isDigitOf 10)
    let afterWhole := body.drop whole.length
    let fraction := match afterWhole with
      | '.' :: rest => rest.takeWhile (isDigitOf 10)
      | _ => []
    let afterFraction := match afterWhole with
      | '.' :: rest => rest.drop fraction.length
      | _ => afterWhole
    if whole.isEmpty && fraction.isEmpty then none
    else (readExponent? afterFraction).map fun exponent =>
      signed (nearestFloat (whole ++ fraction) (exponent - fraction.length))

end EntityScaffold.Decimal
