import EntityScaffold.Calendar
import EntityScaffold.Decimal.Shortest
import EntityScaffold.Ordered
import EntityScaffold.Text.CodePoint

/-
Values of data files. A document is a value together with the collections that contain themselves;
inside a value such a collection is referred to by its number.
-/

namespace EntityScaffold

inductive Value where
  | null
  | bool (value : Bool)
  | int (value : Int)
  | float (value : Float)
  | text (value : CodeText)
  | bytes (octets : List UInt8)
  | date (value : Date)
  | moment (value : Moment)
  | list (items : List Value)
  | pair (first second : Value)
  | map (entries : List (Value × Value))
  | set (members : List Value)
  | again (loop : Nat)
  deriving Inhabited

namespace Value

def string (value : String) : Value := .text (CodeText.ofString value)

/-- The exact integer that a floating-point number equals, if there is one. -/
def exactInt? (number : Float) : Option Int :=
  let double := Decimal.Double.ofFloat number
  if !double.isFinite then none
  else
    let factor := Decimal.positivePower 2 double.scale
    let divisor := Decimal.positivePower 2 (-double.scale)
    if double.significand % divisor = 0 then
      let size : Int := double.significand * factor / divisor
      some (if double.negative then -size else size)
    else none

def leastWord : Int := -0x8000000000000000

def fitsWord (value : Int) : Bool := leastWord ≤ value && value < -leastWord

/-- The number that a value counts as: truth values are one and zero. -/
def asInt? : Value → Option Int
  | .bool value => some (if value then 1 else 0)
  | .int value => some value
  | _ => none

/-- Are two values one key? Numbers are compared by size whatever their kind; one that is no number
equals nothing. -/
def sameKey (left right : Value) : Bool :=
  match left, right with
  | .null, .null => true
  | .text leftText, .text rightText => leftText == rightText
  | .bytes leftOctets, .bytes rightOctets => leftOctets == rightOctets
  | .date leftDate, .date rightDate => leftDate == rightDate
  | .moment leftMoment, .moment rightMoment => leftMoment.same rightMoment
  | .float leftNumber, .float rightNumber => leftNumber == rightNumber
  | .float number, other | other, .float number =>
    match other.asInt? with
    | some value => exactInt? number == some value
    | none => false
  | _, _ =>
    match left.asInt?, right.asInt? with
    | some leftValue, some rightValue => leftValue == rightValue
    | _, _ => false

/-- May a value be a key? Collections that can grow may not. -/
def isKey : Value → Bool
  | .list _ | .map _ | .set _ | .again _ => false
  | _ => true

/-- Absent, empty and zero values do not count. -/
def counts : Value → Bool
  | .null => false
  | .bool value => value
  | .int value => value ≠ 0
  | .float value => !(value == 0)
  | .text value => !value.isEmpty
  | .bytes octets => !octets.isEmpty
  | .list items => !items.isEmpty
  | .map entries => !entries.isEmpty
  | .set members => !members.isEmpty
  | _ => true

def kindName : Value → String
  | .null => "NoneType"
  | .bool _ => "bool"
  | .int _ => "int"
  | .float _ => "float"
  | .text _ => "str"
  | .bytes _ => "bytes"
  | .date _ => "datetime.date"
  | .moment _ => "datetime.datetime"
  | .list _ => "list"
  | .pair _ _ => "tuple"
  | .map _ | .again _ => "dict"
  | .set _ => "set"

def get? (key : String) : List (Value × Value) → Option Value
  | [] => none
  | entry :: rest => if entry.1.sameKey (.string key) then some entry.2 else get? key rest

end Value

/-- A value and the collections that contain themselves, by number. -/
structure Document where
  root : Value
  loops : List (Nat × Value) := []

namespace Document

def resolve (document : Document) : Value → Value
  | .again loop =>
    match document.loops.lookup loop with
    | some value => value
    | none => .null
  | value => value

end Document

end EntityScaffold
