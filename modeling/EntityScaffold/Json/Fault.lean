/-
Faults of JSON texts. A fault names the position of the character at which reading stopped; its
message also counts lines and columns, which begin at one. Numbers of too many digits and values that
are nested too deeply have no position.
-/

namespace EntityScaffold.Json

inductive Fault where
  | byteOrderMark
  | expectedValue (position : Nat)
  | expectedName (position : Nat)
  | expectedColon (position : Nat)
  | expectedComma (position : Nat)
  | extraData (position : Nat)
  | controlCharacter (position : Nat)
  | invalidEscape (position : Nat)
  | invalidCodeEscape (position : Nat)
  | unterminatedText (start : Nat)
  | surrogate (position : Nat)
  | tooManyDigits (count : Nat)
  | tooDeep
  deriving DecidableEq, Repr

namespace Fault

/-- The position of a fault, and what was wrong there. -/
def describe : Fault → Option (Nat × String)
  | .byteOrderMark => some (0, "Unexpected UTF-8 BOM (decode using utf-8-sig)")
  | .expectedValue position => some (position, "Expecting value")
  | .expectedName position => some (position, "Expecting property name enclosed in double quotes")
  | .expectedColon position => some (position, "Expecting \x27:\x27 delimiter")
  | .expectedComma position => some (position, "Expecting \x27,\x27 delimiter")
  | .extraData position => some (position, "Extra data")
  | .controlCharacter position => some (position, "Invalid control character at")
  | .invalidEscape position => some (position, "Invalid \\escape")
  | .invalidCodeEscape position => some (position, "Invalid \\uXXXX escape")
  | .unterminatedText start => some (start, "Unterminated string starting at")
  | .surrogate position => some (position, "Lone surrogate at")
  | .tooManyDigits _ | .tooDeep => none

/-- Is this a fault of the text itself, and not of the size of what it holds? -/
def isOfText (fault : Fault) : Bool := fault.describe.isSome

def message (source : List Char) (fault : Fault) : String :=
  match fault.describe with
  | some (position, reason) =>
    let before := source.take position
    let line := before.count '\n' + 1
    let column := (before.reverse.takeWhile (· ≠ '\n')).length + 1
    reason ++ ": line " ++ toString line ++ " column " ++ toString column ++ " (char " ++
      toString position ++ ")"
  | none =>
    match fault with
    | .tooManyDigits count =>
      "Exceeds the limit (4300 digits) for integer string conversion: value has " ++
        toString count ++ " digits; use sys.set_int_max_str_digits() to increase the limit"
    | _ => ""

end Fault

end EntityScaffold.Json
