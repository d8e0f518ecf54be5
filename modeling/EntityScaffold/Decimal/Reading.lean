/-
Numbers from their digits. Integers in any base up to sixteen, and the floating-point number nearest
to a decimal.
-/

namespace EntityScaffold.Decimal

/-- The value of a digit, letters standing for ten and more. -/
def digitValue? (char : Char) : Option Nat :=
  if '0' ≤ char && char ≤ '9' then some (char.toNat - '0'.toNat)
  else if 'a' ≤ char && char ≤ 'z' then some (char.toNat - 'a'.toNat + 10)
  else if 'A' ≤ char && char ≤ 'Z' then some (char.toNat - 'A'.toNat + 10)
  else none

def isDigitOf (base : Nat) (char : Char) : Bool :=
  match digitValue? char with
  | some value => value < base
  | none => false

/-- The number that digits of a base spell; other characters count as zero. -/
def natOfDigits (base : Nat) (digits : List Char) : Nat :=
  digits.foldl (fun value char => value * base + (digitValue? char).getD 0) 0

def digitLimit : Nat := 4300

/-- The floating-point number nearest to `digits * 10 ^ exponent`. A number whose order of magnitude
lies far outside the range of the format is infinite or zero without being computed. -/
def nearestFloat (digits : List Char) (exponent : Int) : Float :=
  let significand := natOfDigits 10 digits
  let size : Int := (Nat.toDigits 10 significand).length + exponent
  if significand = 0 || size < -400 then 0.0
  else if 400 < size then 1.0 / 0.0
  else if 0 ≤ exponent then Float.ofScientific significand false exponent.toNat
  else Float.ofScientific significand true (-exponent).toNat

end EntityScaffold.Decimal
