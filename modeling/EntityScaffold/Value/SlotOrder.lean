import EntityScaffold.Value.Basic

/-
The order in which a set lists its members. They lie in the slots of a table and are listed slot by
slot. The key number of a member tells where the search for its slot begins and how it goes on from
there. Only numbers have a key number that is always the same; a set with other members is listed in
the order in which it was written.
-/

namespace EntityScaffold.Value

/-- Key numbers are found modulo this prime, the 61st power of two less one. -/
def keyModulus : Nat := 0x1FFFFFFFFFFFFFFF

/-- The key number of both infinities, up to its sign. -/
def infinityKey : Nat := 314159

/-- The key number of a size with its sign; minus one is kept free. -/
def signedKey (negative : Bool) (size : Nat) : Int :=
  if !negative then size
  else if size = 1 then -2
  else -size

/-- The key number of a floating-point number. The powers of two repeat after 61 of them. -/
def floatKey? (number : Float) : Option Int :=
  let double := Decimal.Double.ofFloat number
  if double.isFinite then
    let factor := Decimal.positivePower 2 (double.scale % 61)
    some (signedKey double.negative (double.significand * factor % keyModulus))
  else if double.fraction = 0 then some (signedKey double.negative infinityKey)
  else none

/-- The key number of a member, if it is always the same. Numbers that are one key have one key
number. -/
def keyNumber? : Value → Option Int
  | .bool value => some (if value then 1 else 0)
  | .int value => some (signedKey (value < 0) (value.natAbs % keyModulus))
  | .float value => floatKey? value
  | _ => none

/-- How many slots the table of this many members has: eight for up to four of them, else the least
power of two that is more than twice their number. -/
def slotCount (members : Nat) : Nat :=
  if members < 5 then 8 else Decimal.positivePower 2 (Nat.log2 (2 * members) + 1)

/-- How many slots are tried in a row when the table has that many left. -/
def slotRun : Nat := 10

/-- The first free slot of a search that stands at `slot`. The rest of the key number is used up by
32 at a time, and from then on the search meets every slot. -/
def freeSlot (taken : List Nat) (slots : Nat) : (fuel slot rest : Nat) → Nat
  | 0, slot, _ => slot
  | fuel + 1, slot, rest =>
    let run := if slot + slotRun ≤ slots then slotRun else 1
    match (List.range' slot run).find? fun tried => !taken.contains tried with
    | some free => free
    | none => freeSlot taken slots fuel ((5 * slot + 1 + rest / 32) % slots) (rest / 32)

/-- Puts members with their key numbers into the slots that are not taken. -/
def placed (slots : Nat) (taken : List (Nat × Value)) : List (Int × Value) → List (Nat × Value)
  | [] => taken
  | (key, member) :: rest =>
    let start := (key % slots).toNat
    let word := (key % 0x10000000000000000).toNat
    let slot := freeSlot (taken.map Prod.fst) slots (slots + 13) start word
    placed slots ((slot, member) :: taken) rest

/-- The members of a set in the order in which they are listed. -/
def slotOrder (members : List Value) : List Value :=
  match members.mapM fun member => member.keyNumber?.map fun key => (key, member) with
  | none => members
  | some keyed =>
    let slots := slotCount members.length
    let table := placed slots [] keyed
    (List.range slots).filterMap fun slot => table.lookup slot

end EntityScaffold.Value
