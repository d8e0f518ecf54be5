import EntityScaffold.Decimal.Reading
import EntityScaffold.Decimal.Shortest
import EntityScaffold.Text.Quoted
import EntityScaffold.Value.Basic

/-
The text of a value. Text stands for itself and is quoted inside a collection; numbers, dates and
collections have one written form. A collection that is met again inside itself is written as an
ellipsis in its brackets. Integers of too many digits, and collections inside each other to too
great a depth, have no text.
-/

namespace EntityScaffold.Value

inductive TextFault where
  | integerTooLong
  | tooDeep
  deriving DecidableEq, Repr

def textDepthLimit : Nat := 990

def intChars (value : Int) : Except TextFault (List Char) :=
  let digits := (toString value.natAbs).toList
  if Decimal.digitLimit < digits.length then .error .integerTooLong
  else .ok (if value < 0 then '-' :: digits else digits)

def boolChars (value : Bool) : List Char := (if value then "True" else "False").toList

mutual

/-- The quoted text of a value with at most `depth` collections inside each other; `unfold` writes a
reference to an enclosing collection. -/
def quotedWith (unfold : (depth loop : Nat) → Except TextFault (List Char)) (depth : Nat) :
    Value → Except TextFault (List Char)
  | .null => .ok "None".toList
  | .bool value => .ok (boolChars value)
  | .int value => intChars value
  | .float value => .ok (Decimal.text value)
  | .text value => .ok (Text.quotedPoints (value.map CodePoint.value))
  | .bytes octets => .ok (Text.quotedOctets octets)
  | .date value => .ok value.quoted.toList
  | .moment value => .ok value.quoted.toList
  | .list items => do
    if depth = 0 then throw .tooDeep
    return '[' :: ((← quotedItems unfold (depth - 1) true items) ++ [']'])
  | .pair first second => do
    if depth = 0 then throw .tooDeep
    let first ← quotedWith unfold (depth - 1) first
    let second ← quotedWith unfold (depth - 1) second
    return '(' :: (first ++ [',', ' '] ++ second ++ [')'])
  | .map entries => do
    if depth = 0 then throw .tooDeep
    return '\x7b' :: ((← quotedEntries unfold (depth - 1) true entries) ++ ['\x7d'])
  | .set members => do
    if depth = 0 then throw .tooDeep
    if members.isEmpty then return "set()".toList
    return '\x7b' :: ((← quotedItems unfold (depth - 1) true members) ++ ['\x7d'])
  | .again loop => unfold depth loop

def quotedItems (unfold : (depth loop : Nat) → Except TextFault (List Char)) (depth : Nat)
    (isFirst : Bool) : List Value → Except TextFault (List Char)
  | [] => .ok []
  | item :: rest => do
    let item ← quotedWith unfold depth item
    return (if isFirst then [] else [',', ' ']) ++ item ++
      (← quotedItems unfold depth false rest)

def quotedEntries (unfold : (depth loop : Nat) → Except TextFault (List Char)) (depth : Nat)
    (isFirst : Bool) : List (Value × Value) → Except TextFault (List Char)
  | [] => .ok []
  | (key, value) :: rest => do
    let key ← quotedWith unfold depth key
    let value ← quotedWith unfold depth value
    return (if isFirst then [] else [',', ' ']) ++ key ++ [':', ' '] ++ value ++
      (← quotedEntries unfold depth false rest)

end

/-- The brackets of a collection around an ellipsis. -/
def ellipsis : Value → List Char
  | .list _ => "[...]".toList
  | .set _ => "set(...)".toList
  | _ => "\x7b...\x7d".toList

/-- Writes the collection of a number, `entered` being the collections around it. At most one
unfolding for each collection can be needed, which `steps` counts. -/
def unfoldLoop (loops : List (Nat × Value)) :
    (steps : Nat) → (entered : List Nat) → (depth loop : Nat) → Except TextFault (List Char)
  | steps, entered, depth, loop =>
    match loops.lookup loop with
    | none => .ok []
    | some value =>
      if entered.contains loop then .ok (ellipsis value)
      else match steps with
        | 0 => .ok (ellipsis value)
        | steps + 1 => quotedWith (unfoldLoop loops steps (loop :: entered)) depth value

/-- The text of a value inside another. -/
def quoted (loops : List (Nat × Value)) (value : Value) : Except TextFault (List Char) :=
  quotedWith (unfoldLoop loops loops.length []) textDepthLimit value

/-- The text of a value that is not inside another. -/
def shown (loops : List (Nat × Value)) : Value → Except TextFault CodeText
  | .text value => .ok value
  | .date value => .ok (CodeText.ofString value.text)
  | .moment value => .ok (CodeText.ofString value.text)
  | value => (value.quoted loops).map CodeText.ofChars

end EntityScaffold.Value
