import EntityScaffold.Calendar
import EntityScaffold.Decimal.Numeral
import EntityScaffold.Text.Base64
import EntityScaffold.Text.Quoted
import EntityScaffold.Value.Basic
import EntityScaffold.Yaml.Tag
import EntityScaffold.Yaml.Token

/-
Values of scalars. A scalar whose spelling gave it its type always has a value, except for numbers
without digits, numbers that are too long, and dates outside the calendar; a scalar with a written
tag may be spelled in any way.
-/

namespace EntityScaffold.Yaml

inductive LoadFault where
  | text (fault : Fault)
  | integerSpelling (base : Nat) (spelling : CodeText)
  | floatSpelling (spelling : CodeText)
  | integerTooLong (digits : Nat)
  | floatTooLarge
  | emptyNumber
  | notABool (spelling : CodeText)
  | notATimestamp
  /-- A moment was to be read from something that is no scalar. -/
  | timestampOfCollection
  | calendar (fault : Calendar.Fault)

namespace LoadFault

def malformed : LoadFault := .text .malformed

def quotedText (text : CodeText) : List Char := Text.quotedPoints (text.map CodePoint.value)

/-- What is said about an integer that is spelled with too many digits. -/
def tooLongMessage (digits : Nat) : String :=
  "Exceeds the limit (4300 digits) for integer string conversion: value has " ++
    toString digits ++ " digits; use sys.set_int_max_str_digits() to increase the limit"

def message : LoadFault → String
  | .text .malformed | .text .tooDeep => ""
  | .text .escapeRange => "chr() arg not in range(0x110000)"
  | .text .escapeOverflow => "Python int too large to convert to C int"
  | .text (.versionTooLong digits) => tooLongMessage digits
  | .integerSpelling base spelling =>
    "invalid literal for int() with base " ++ toString base ++ ": " ++
      String.ofList ((quotedText spelling).take 200)
  | .floatSpelling spelling =>
    "could not convert string to float: " ++ String.ofList (quotedText spelling)
  | .integerTooLong digits => tooLongMessage digits
  | .floatTooLarge => "int too large to convert to float"
  | .emptyNumber => "string index out of range"
  | .notABool spelling => String.ofList (quotedText spelling)
  | .notATimestamp => "\x27NoneType\x27 object has no attribute \x27groupdict\x27"
  | .timestampOfCollection => "expected string or bytes-like object, got \x27list\x27"
  | .calendar fault => fault.message

end LoadFault

namespace Scalar

/-- A number without the underscores that group its digits. -/
def ungrouped (spelling : CodeText) : CodeText := spelling.filter (· ≠ CodePoint.ofChar '_')

/-- Takes the sign off a number, which must have at least one character besides. -/
def splitSign (spelling : CodeText) : Except LoadFault (Bool × CodeText) :=
  match spelling with
  | [] => .error .emptyNumber
  | point :: rest =>
    if point = CodePoint.ofChar '-' then .ok (true, rest)
    else if point = CodePoint.ofChar '+' then .ok (false, rest)
    else .ok (false, spelling)

def readInteger (base : Nat) (spelling : CodeText) : Except LoadFault Int :=
  match Decimal.readInteger base spelling with
  | .ok value => .ok value
  | .error .malformed => .error (.integerSpelling base spelling)
  | .error (.tooLong digits) => .error (.integerTooLong digits)

def readFloat (spelling : CodeText) : Except LoadFault Float :=
  match Decimal.readFloat? spelling with
  | some value => .ok value
  | none => .error (.floatSpelling spelling)

/-- The groups of a number between its colons, if it has any. -/
def groups? (spelling : CodeText) : Option (List CodeText) :=
  if spelling.contains (CodePoint.ofChar ':') then
    some (Text.splitWhere (· == CodePoint.ofChar ':') spelling)
  else none

/-- Groups of base sixty, the last one counting units. -/
def sixties (groups : List Int) : Int := groups.foldl (fun total group => total * 60 + group) 0

def intOf (spelling : CodeText) : Except LoadFault Int := do
  let (negative, body) ← splitSign (ungrouped spelling)
  let size ← match body.replacing with
    | [] => .error .emptyNumber
    | ['0'] => .ok 0
    | '0' :: 'b' :: _ => readInteger 2 (body.drop 2)
    | '0' :: 'x' :: _ => readInteger 16 (body.drop 2)
    | '0' :: _ => readInteger 8 body
    | _ =>
      match groups? body with
      | some groups => do pure (sixties (← groups.mapM (readInteger 10)))
      | none => readInteger 10 body
  return if negative then -size else size

/-- Floating-point numbers are smaller than this, the 1024th power of two. -/
def floatRange : Nat := Decimal.positivePower 2 1024

/-- Groups of base sixty from the last to the first, `base` being the weight of the next one, which
has to be a floating-point number itself. -/
def floatSixties (base : Nat) (total : Float) : List Float → Except LoadFault Float
  | [] => .ok total
  | group :: rest =>
    if floatRange ≤ base then .error .floatTooLarge
    else floatSixties (base * 60) (total + group * Float.ofNat base) rest

/-- The spelling of a floating-point number in small letters, its sign apart. -/
def floatBody (spelling : CodeText) : Except LoadFault (Bool × CodeText) :=
  splitSign ((ungrouped spelling).mapRuns Text.lower)

def nanWord : CodeText := CodeText.ofString ".nan"

def floatOf (spelling : CodeText) : Except LoadFault Float := do
  let (negative, body) ← floatBody spelling
  let size ←
    if body = CodeText.ofString ".inf" then pure (1.0 / 0.0)
    else if body = nanWord then pure (0.0 / 0.0)
    else match groups? body with
      | some groups => floatSixties 1 0.0 (← groups.mapM readFloat).reverse
      | none => readFloat body
  return if negative then -size else size

/-- Is a number spelled with the word for no number? -/
def isNanWord (spelling : CodeText) : Bool :=
  match floatBody spelling with
  | .ok (_, body) => body = nanWord
  | .error _ => false

def boolOf (spelling : CodeText) : Except LoadFault Bool :=
  let lowered := spelling.mapRuns Text.lower
  if ["yes", "true", "on"].any (lowered = CodeText.ofString ·) then .ok true
  else if ["no", "false", "off"].any (lowered = CodeText.ofString ·) then .ok false
  else .error (.notABool lowered)

/-- The microseconds that the first six digits of a fraction give. -/
def microseconds (fraction : List Char) : Nat :=
  let digits := fraction.take 6
  Decimal.natOfDigits 10 (digits ++ List.replicate (6 - digits.length) '0')

def timestampOf (spelling : CodeText) : Except LoadFault Value :=
  match Spelling.stamp? (Spelling.withoutLineEnd spelling.replacing) with
  | none => .error .notATimestamp
  | some stamp =>
    let number := Decimal.natOfDigits 10
    let year := number stamp.year
    let month := number stamp.month
    let day := number stamp.day
    match stamp.time with
    | none => ((Date.make year month day).map Value.date).mapError .calendar
    | some (hour, minute, second) =>
      let offset : Option Int := stamp.zone.map fun (isNegative, zoneHour, zoneMinute) =>
        let size : Int := number zoneHour * 3600 + number zoneMinute * 60
        if isNegative then -size else size
      ((Moment.make year month day (number hour) (number minute) (number second)
        (microseconds stamp.fraction) offset).map Value.moment).mapError .calendar

def bytesOf (spelling : CodeText) : Except LoadFault (List UInt8) :=
  if spelling.all fun point => point.value < 0x80 then
    match Text.Base64.decode spelling.replacing with
    | some octets => .ok octets
    | none => .error .malformed
  else .error .malformed

/-- The value of a scalar of a type. Types of collections and unknown types have no scalars. -/
def valueOf (tag : Tag) (spelling : CodeText) : Except LoadFault Value :=
  match tag with
  | .null => .ok .null
  | .bool => (boolOf spelling).map .bool
  | .int => (intOf spelling).map .int
  | .float => (floatOf spelling).map .float
  | .text => .ok (.text spelling)
  | .binary => (bytesOf spelling).map .bytes
  | .timestamp => timestampOf spelling
  | _ => .error .malformed

end Scalar

end EntityScaffold.Yaml
