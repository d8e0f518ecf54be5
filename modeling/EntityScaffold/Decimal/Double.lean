/-
The parts of a floating-point number of 64 bits: a sign, eleven bits of exponent, and 52 bits of
fraction. The largest exponent marks infinities and numbers that are none, the exponent zero marks
the numbers whose significand has no leading bit of its own.
-/

namespace EntityScaffold.Decimal

/-- Fractions are smaller than this, the 52nd power of two. -/
def fractionRange : Nat := 0x10000000000000

/-- Exponents are smaller than this, the eleventh power of two. -/
def exponentRange : Nat := 0x800

structure Double where
  negative : Bool
  exponent : Nat
  fraction : Nat
  deriving DecidableEq, Repr

namespace Double

def ofBits (bits : Nat) : Double where
  negative := bits / fractionRange / exponentRange = 1
  exponent := bits / fractionRange % exponentRange
  fraction := bits % fractionRange

def ofFloat (number : Float) : Double := ofBits number.toBits.toNat

/-- Is this neither an infinity nor a number that is none? -/
def isFinite (double : Double) : Bool := double.exponent + 1 ≠ exponentRange

def significand (double : Double) : Nat :=
  if double.exponent = 0 then double.fraction else fractionRange + double.fraction

/-- The power of two that the significand is multiplied by. -/
def scale (double : Double) : Int := max 1 double.exponent - 1075

end Double

end EntityScaffold.Decimal
