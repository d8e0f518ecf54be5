import EntityScaffold.Value.SlotOrder
import EntityScaffold.Yaml.Building
import EntityScaffold.Yaml.Scanner

/-
Documents. The values of the nodes of a text are put together. A collection with a path to one that
contains itself is kept apart under its number, and the number stands for it wherever it occurs;
other collections stand in their places.
-/

namespace EntityScaffold.Yaml

/-- The state of putting values together: the values that are known, where a collection whose parts
are not all known is referred to by its number, and the collections that are kept apart. -/
structure Assembly where
  values : Array (Option Value)
  loops : List (Nat × Value) := []

abbrev Assembler (α : Type) := StateM Assembly α

namespace Assembler

def setValue (number : Nat) (value : Value) : Assembler Unit :=
  modify fun assembly => { assembly with values := assembly.values.setIfInBounds number (some value) }

/-- Is one of the parts of a collection kept apart? -/
def meetsLoop (parts : List Value) : Bool :=
  parts.any fun part => match part with
    | .again _ => true
    | _ => false

/-- Puts a collection in its place, or apart if one of its parts is. -/
def settle (number : Nat) (parts : List Value) (value : Value) : Assembler Value := do
  if meetsLoop parts then
    modify fun assembly => { assembly with loops := (number, value) :: assembly.loops }
    return .again number
  else
    setValue number value
    return value

/-- The value of a node. At most one collection is begun for each unit of `fuel`. -/
def value (parts : Array (Option Part)) : (fuel number : Nat) → Assembler Value
  | 0, _ => return .null
  | fuel + 1, number => do
    match ((← get).values[number]?).join with
    | some value => return value
    | none =>
      setValue number (.again number)
      let each (numbers : List Nat) := numbers.mapM (value parts fuel)
      let eachPair (numbers : List (Nat × Nat)) := numbers.mapM fun (first, second) => do
        return (← value parts fuel first, ← value parts fuel second)
      match (parts[number]?).join with
      | none => return .null
      | some (.leaf value _) => do
        setValue number value
        return value
      | some (.list items) => do
        let items ← each items
        settle number items (.list items)
      | some (.pairs items) => do
        let items ← eachPair items
        settle number (items.flatMap fun (first, second) => [first, second])
          (.list (items.map fun (first, second) => .pair first second))
      | some (.map entries) => do
        let entries ← eachPair entries
        settle number (entries.map Prod.snd) (.map entries)
      | some (.set members) => do
        settle number [] (.set (Value.slotOrder (← each members)))

end Assembler

/-- The document whose outermost value is that of the node `root`. -/
def documentOf (parts : Array (Option Part)) (root : Nat) : Document :=
  let (value, assembly) :=
    (Assembler.value parts (parts.size + 1) root).run ⟨Array.replicate parts.size none, []⟩
  ⟨value, assembly.loops⟩

/-- Reads the one document of a text; an empty text has the value null. -/
def load (source : List Char) : Except LoadFault Document := do
  let (root, nodes) ← (Node.ofTokens (Token.scan source)).mapError .text
  match root with
  | none => return ⟨.null, []⟩
  | some root => return documentOf (← Part.ofNodes nodes root) root

end EntityScaffold.Yaml
