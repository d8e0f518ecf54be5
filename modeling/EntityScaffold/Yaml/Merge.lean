import EntityScaffold.Yaml.Node

/-
Merge keys. A merge key stands for the entries of the mapping that its value is, or of each mapping
in a sequence, where earlier mappings win. The entries come in front of those of the mapping itself,
in the order of the merge keys, and the nodes of a document change as their mappings are met.
-/

namespace EntityScaffold.Yaml

/-- A value of what happens to the nodes of a document; none means that a merge key has a value of
the wrong kind. -/
abbrev NodeAction (α : Type) := StateT (Array Node) Option α

namespace NodeAction

def node (number : Nat) : NodeAction Node := do
  match (← get)[number]? with
  | some node => return node
  | none => failure

def tagOf (number : Nat) : NodeAction Tag := do return (← node number).tag

def entries (number : Nat) : NodeAction (List (Nat × Nat)) := do
  match (← node number).content with
  | .mapping entries => return entries
  | _ => failure

def setEntries (number : Nat) (entries : List (Nat × Nat)) : NodeAction Unit := do
  let changed := { ← node number with content := .mapping entries }
  modify fun nodes => nodes.setIfInBounds number changed

/-- A key that is written as an equals sign is text. -/
def settleKey (number : Nat) : NodeAction Unit := do
  let key ← node number
  if key.tag = .value then
    modify fun nodes => nodes.setIfInBounds number { key with tag := .text }

/-- The first entry whose key is a merge key, and the others. -/
def takeMerge? (entries : List (Nat × Nat)) : NodeAction (Option (Nat × List (Nat × Nat))) := do
  match entries with
  | [] => return none
  | (key, value) :: rest =>
    if (← tagOf key) = .merge then return some (value, rest)
    else return (← takeMerge? rest).map fun (found, others) => (found, (key, value) :: others)

/-- Replaces the merge keys of a mapping, `inherited` being the entries found so far. Each step takes
one merge key away, so that `fuel` need not exceed their number. -/
def flattenWith : (fuel : Nat) → (inherited : List (Nat × Nat)) → (number : Nat) → NodeAction Unit
  | 0, _, _ => failure
  | fuel + 1, inherited, number => do
    match ← takeMerge? (← entries number) with
    | none => do
      let own ← entries number
      own.forM fun (key, _) => settleKey key
      setEntries number (inherited ++ own)
    | some (value, rest) => do
      setEntries number rest
      let contributed ← contribution fuel value
      flattenWith fuel (inherited ++ contributed) number
where
  /-- The entries of a mapping once its own merge keys are replaced. -/
  flattened (fuel : Nat) (number : Nat) : NodeAction (List (Nat × Nat)) := do
    flattenWith fuel [] number
    entries number
  /-- The entries that the value of a merge key contributes. -/
  contribution (fuel : Nat) (value : Nat) : NodeAction (List (Nat × Nat)) := do
    match (← node value).content with
    | .mapping _ => flattened fuel value
    | .sequence items => return (← items.mapM (flattened fuel)).reverse.flatten
    | .scalar _ => failure

end NodeAction

def entryCount (nodes : Array Node) : Nat :=
  nodes.foldl (fun count node => match node.content with
    | .mapping entries => count + entries.length
    | _ => count) 0

def NodeAction.flatten (number : Nat) : NodeAction Unit := do
  NodeAction.flattenWith (entryCount (← get) + 1) [] number

end EntityScaffold.Yaml
