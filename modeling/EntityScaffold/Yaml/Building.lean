import EntityScaffold.Ordered
import EntityScaffold.Yaml.Merge
import EntityScaffold.Yaml.Scalar

/-
From nodes to values in the making. A scalar has its value as soon as it is met. A collection is
begun empty when it is met and filled later, after the collections that were met before it, so that
it may become a part of itself. A node has one value, however many places it has.
-/

namespace EntityScaffold.Yaml

/-- The value of a node as far as it is known; the parts of a collection are given by number. -/
inductive Part where
  /-- A scalar; `identity` tells which of the values that equal nothing are one. -/
  | leaf (value : Value) (identity : Nat)
  | list (items : List Nat)
  | pairs (items : List (Nat × Nat))
  | map (entries : List (Nat × Nat))
  | set (members : List Nat)

namespace Part

def isKey : Part → Bool
  | .leaf _ _ => true
  | _ => false

def sameKey : Part → Part → Bool
  | .leaf left leftIdentity, .leaf right rightIdentity =>
    leftIdentity == rightIdentity || left.sameKey right
  | _, _ => false

/-- What a collection of a type is before it is filled. -/
def begun? : Tag → Option Part
  | .sequence => some (.list [])
  | .orderedMapping | .pairs => some (.pairs [])
  | .mapping => some (.map [])
  | .set => some (.set [])
  | _ => none

end Part

/-- The state of building: the nodes, what is known of their values, and the collections that were
begun, the last one first. -/
structure Building where
  nodes : Array Node
  parts : Array (Option Part)
  begun : List Nat := []

abbrev Builder (α : Type) := StateT Building (Except LoadFault) α

namespace Builder

def node (number : Nat) : Builder Node := do
  match (← get).nodes[number]? with
  | some node => return node
  | none => throw .malformed

def part? (number : Nat) : Builder (Option Part) := do return ((← get).parts[number]?).join

def setPart (number : Nat) (part : Part) : Builder Unit :=
  modify fun building => { building with parts := building.parts.setIfInBounds number (some part) }

def flatten (number : Nat) : Builder Unit := do
  let building ← get
  match (NodeAction.flatten number).run building.nodes with
  | some ((), nodes) => set { building with nodes := nodes }
  | none => throw .malformed

/-- The text that a node stands for where a scalar is needed: that of a scalar, or of the value under
an equals sign in a mapping. -/
def scalarText : (fuel : Nat) → (number : Nat) → Builder CodeText
  | 0, _ => throw (.text .tooDeep)
  | fuel + 1, number => do
    match (← node number).content with
    | .scalar text => return text
    | .sequence _ => throw .malformed
    | .mapping entries =>
      match ← entries.findM? fun (key, _) => do return (← node key).tag = .value with
      | some (_, value) => scalarText fuel value
      | none => throw .malformed

/-- Is this the type of scalars with a value? -/
def isScalarTag : Tag → Bool
  | .null | .bool | .int | .float | .text | .binary | .timestamp => true
  | _ => false

/-- The value of a node of a scalar type. All numbers that are spelled with the word for no number
are one value. -/
def leafOf (number : Nat) (tag : Tag) : Builder Part := do
  let count := (← get).nodes.size
  let text ← scalarText (count + 1) number
  let isScalar := match (← node number).content with
    | .scalar _ => true
    | _ => false
  if tag = .timestamp && !isScalar then throw .timestampOfCollection
  let value ← Scalar.valueOf tag text
  let isShared := tag = .float && Scalar.isNanWord text
  return .leaf value (if isShared then count else number)

/-- Builds the value of a node, or begins it if it is a collection. -/
def build (number : Nat) : Builder Part := do
  match ← part? number with
  | some part => return part
  | none =>
    let tag := (← node number).tag
    match Part.begun? tag with
    | some part =>
      setPart number part
      modify fun building => { building with begun := number :: building.begun }
      return part
    | none =>
      if isScalarTag tag then
        let part ← leafOf number tag
        setPart number part
        return part
      else throw .malformed

/-- Builds the entries of a mapping. A key is checked before its value is built; a repeated key keeps
its place and takes the last value. -/
def buildEntries (number : Nat) : Builder (List (Nat × Nat)) := do
  match (← node number).content with
  | .mapping _ =>
    flatten number
    match (← node number).content with
    | .mapping entries =>
      let built ← entries.mapM fun (key, value) => do
        let keyPart ← build key
        if !keyPart.isKey then throw LoadFault.malformed
        let _ ← build value
        return ((key, keyPart), value)
      let distinct := Ordered.ofListBy (fun left right => left.2.sameKey right.2) built
      return distinct.map fun (key, value) => (key.1, value)
    | _ => throw .malformed
  | _ => throw .malformed

/-- Builds a pair from each item of a sequence, which is a mapping of one entry. Merge keys have no
meaning there. -/
def buildPairs (number : Nat) : Builder (List (Nat × Nat)) := do
  match (← node number).content with
  | .sequence items =>
    items.mapM fun item => do
      match (← node item).content with
      | .mapping [(key, value)] =>
        let _ ← build key
        let _ ← build value
        return (key, value)
      | _ => throw LoadFault.malformed
  | _ => throw .malformed

def fill (number : Nat) : Builder Unit := do
  match ← part? number with
  | some (.list _) =>
    match (← node number).content with
    | .sequence items =>
      items.forM fun item => do let _ ← build item
      setPart number (.list items)
    | _ => throw .malformed
  | some (.pairs _) => setPart number (.pairs (← buildPairs number))
  | some (.map _) => setPart number (.map (← buildEntries number))
  | some (.set _) => setPart number (.set ((← buildEntries number).map Prod.fst))
  | _ => return ()

/-- Fills collections in the order in which they were begun, `waiting` being the next ones. Each node
is begun once. -/
def fillAll : (fuel : Nat) → (waiting : List Nat) → Builder Unit
  | 0, _ => throw .malformed
  | fuel + 1, number :: rest => do
    fill number
    fillAll fuel rest
  | fuel + 1, [] => do
    let building ← get
    if building.begun.isEmpty then return ()
    else
      set { building with begun := [] }
      fillAll fuel building.begun.reverse

def buildWhole (number : Nat) : Builder Unit := do
  let _ ← build number
  fillAll (2 * (← get).nodes.size + 2) []

end Builder

/-- The values of the nodes of a document, those that the node `root` reaches. -/
def Part.ofNodes (nodes : Array Node) (root : Nat) : Except LoadFault (Array (Option Part)) := do
  let ((), building) ← (Builder.buildWhole root).run ⟨nodes, Array.replicate nodes.size none, []⟩
  return building.parts

end EntityScaffold.Yaml
