import EntityScaffold.Decimal.Double

/-
The shortest decimal text of a binary floating-point number. A number stands for the interval of
reals that round to it; the ends belong to the interval when the significand is even. The text uses
the fewest digits for which the decimal grid meets the interval, and of two such points the nearer.
Numbers from 10^-4 up to 10^16 are written positionally, the others with an exponent of at least two
digits.
-/

namespace EntityScaffold.Decimal

/-- A positive binary number `significand * 2 ^ exponent`. At a power of two the distance to the
number below is half the distance to the one above, unless the number is subnormal. -/
structure Binary where
  significand : Nat
  exponent : Int
  narrowBelow : Bool

/-- A decimal number `digits * 10 ^ exponent`. -/
structure Scaled where
  digits : Nat
  exponent : Int
  deriving DecidableEq, Repr

/-- `base ^ exponent` for an exponent above zero, and one otherwise. -/
def positivePower (base : Nat) (exponent : Int) : Nat := Nat.pow base exponent.toNat

/-- The multiples of `10 ^ grid` beside a number that lie in its interval, with their distance. All
quantities are compared in units of a quarter of the last binary place, over one denominator. -/
def candidatesOnGrid (number : Binary) (grid : Int) : List (Nat × Nat) :=
  let point := positivePower 10 grid * positivePower 2 (2 - number.exponent)
  let unit := positivePower 2 (number.exponent - 2) * positivePower 10 (-grid)
  let centre := 4 * number.significand * unit
  let low := (4 * number.significand - (if number.narrowBelow then 1 else 2)) * unit
  let high := (4 * number.significand + 2) * unit
  let inside (digits : Nat) : Bool :=
    let place := digits * point
    if number.significand % 2 = 0 then low ≤ place && place ≤ high
    else low < place && place < high
  let distance (digits : Nat) : Nat :=
    let place := digits * point
    (place - centre) + (centre - place)
  let below := centre / point
  ([below, below + 1].filter inside).map fun digits => (digits, distance digits)

/-- The nearer of at most two candidates; the even one of two equally near. -/
def nearest : List (Nat × Nat) → Option Nat
  | [] => none
  | [one] => some one.1
  | one :: two :: _ =>
    if one.2 < two.2 then some one.1
    else if two.2 < one.2 then some two.1
    else if one.1 % 2 = 0 then some one.1 else some two.1

/-- The number of decimal digits in front of the point; zero or less below one tenth. -/
def magnitude (number : Binary) : Int :=
  if 0 ≤ number.exponent then
    ((Nat.toDigits 10 (number.significand * positivePower 2 number.exponent)).length : Int)
  else
    let denominator := positivePower 2 (-number.exponent)
    let whole := number.significand / denominator
    if 0 < whole then ((Nat.toDigits 10 whole).length : Int)
    else
      let shift := (Nat.toDigits 10 denominator).length
      let scaled := number.significand * positivePower 10 shift / denominator
      ((Nat.toDigits 10 scaled).length : Int) - shift

/-- Tries grids with `used` digits and more, `remaining` of them. -/
def searchGrids (number : Binary) (size : Int) (used : Nat) : (remaining : Nat) → Scaled
  | 0 => ⟨number.significand, number.exponent⟩
  | remaining + 1 =>
    let grid := size - (used : Int)
    match nearest (candidatesOnGrid number grid) with
    | some digits =>
      if digits = 0 then searchGrids number size (used + 1) remaining else ⟨digits, grid⟩
    | none => searchGrids number size (used + 1) remaining

/-- The decimal with the fewest digits that rounds to a number; seventeen digits always suffice. -/
def shortest (number : Binary) : Scaled := searchGrids number (magnitude number) 1 20

/-- Moves the zeros at the end of the digits into the exponent; `steps` bounds their number. -/
def dropZeros : (steps : Nat) → Scaled → Scaled
  | 0, number => number
  | steps + 1, number =>
    if number.digits ≠ 0 && number.digits % 10 = 0 then
      dropZeros steps ⟨number.digits / 10, number.exponent + 1⟩
    else number

def Scaled.text (number : Scaled) : List Char :=
  let reduced := dropZeros 30 number
  let digits := Nat.toDigits 10 reduced.digits
  let point : Int := digits.length + reduced.exponent
  if -4 < point ∧ point ≤ 16 then
    if point ≤ 0 then
      '0' :: '.' :: (List.replicate (-point).toNat '0' ++ digits)
    else if digits.length ≤ point.toNat then
      digits ++ List.replicate (point.toNat - digits.length) '0' ++ ['.', '0']
    else digits.take point.toNat ++ '.' :: digits.drop point.toNat
  else
    let power := point - 1
    let powerDigits := Nat.toDigits 10 power.natAbs
    let padded := List.replicate (2 - powerDigits.length) '0' ++ powerDigits
    let fraction := digits.drop 1
    digits.take 1 ++ (if fraction.isEmpty then [] else '.' :: fraction) ++
      'e' :: (if power < 0 then '-' else '+') :: padded

def Double.text (double : Double) : List Char :=
  let sign : List Char := if double.negative then ['-'] else []
  if !double.isFinite then
    if double.fraction = 0 then sign ++ ['i', 'n', 'f'] else ['n', 'a', 'n']
  else if double.significand = 0 then sign ++ ['0', '.', '0']
  else
    let narrowBelow := double.fraction = 0 && 1 < double.exponent
    sign ++ (shortest ⟨double.significand, double.scale, narrowBelow⟩).text

def text (number : Float) : List Char := (Double.ofFloat number).text

end EntityScaffold.Decimal
