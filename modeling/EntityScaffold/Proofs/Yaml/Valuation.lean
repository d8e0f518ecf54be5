import EntityScaffold.Proofs.Attempt
import EntityScaffold.Proofs.Ordered
import EntityScaffold.Yaml.Building

/-
Values for the nodes of a document. They are right when they agree, node by node, with what the nodes
hold, and every collection begins before its parts. Where the keys are scalars with values nothing is
merged from elsewhere, so that the nodes stay as they are; a key that is repeated keeps its place.
-/

namespace EntityScaffold

namespace Yaml

/-! ### Values of nodes -/

/-- The parts of a collection, each key in front of its value. -/
def NodeContent.parts : NodeContent → List Nat
  | .scalar _ => []
  | .sequence items => items
  | .mapping entries => entries.flatMap fun entry => [entry.1, entry.2]

/-- The entries of a mapping that are kept: a repeated key keeps its place and takes the last value. -/
def keptEntries (value : Nat → Value) (entries : List (Nat × Nat)) : List (Nat × Nat) :=
  Ordered.ofListBy (fun left right => left == right || (value left).sameKey (value right)) entries

/-- What is known of the value of a node once its collection is filled. -/
def NodeContent.filled (value : Nat → Value) (number : Nat) : NodeContent → Part
  | .scalar _ => .leaf (value number) number
  | .sequence items => .list items
  | .mapping entries => .map (keptEntries value entries)

/-- A scalar has the value that its spelling stands for, and a collection has that which its parts
make up. Keys are scalars. Numbers with a fraction are left out, since some of them are one key without
being equal. -/
inductive HasValue (nodes : Array Node) (value : Nat → Value) (number : Nat) : Node → Prop where
  | scalar {tag : Tag} {text : CodeText} (isScalar : Builder.isScalarTag tag = true)
      (notFloat : tag ≠ .float) (stands : Scalar.valueOf tag text = .ok (value number)) :
      HasValue nodes value number ⟨tag, .scalar text⟩
  | sequence {items : List Nat} (listed : value number = .list (items.map value)) :
      HasValue nodes value number ⟨.sequence, .sequence items⟩
  | mapping {entries : List (Nat × Nat)}
      (keys : ∀ entry ∈ entries, ∃ tag text, nodes[entry.1]? = some ⟨tag, .scalar text⟩)
      (mapped : value number =
        .map ((keptEntries value entries).map (Prod.map value value))) :
      HasValue nodes value number ⟨.mapping, .mapping entries⟩

/-- Each node has its value, and begins before its parts. -/
structure IsValuation (nodes : Array Node) (value : Nat → Value) : Prop where
  holds : ∀ number node, nodes[number]? = some node → HasValue nodes value number node
  ahead : ∀ number node, nodes[number]? = some node →
    ∀ part ∈ node.content.parts, number < part ∧ part < nodes.size

variable {nodes : Array Node} {value : Nat → Value} {number : Nat} {node : Node}

theorem NodeContent.mem_parts_of_kept {entries : List (Nat × Nat)} {part : Nat}
    (member : part ∈ (NodeContent.mapping (keptEntries value entries)).parts) :
    part ∈ (NodeContent.mapping entries).parts := by
  obtain ⟨entry, kept, isPart⟩ := List.mem_flatMap.mp member
  obtain ⟨ofKey, ofValue⟩ := Ordered.mem_of_mem_ofListBy kept
  rcases List.mem_cons.mp isPart with isKey | isValue
  · obtain ⟨origin, listed, same⟩ := List.mem_map.mp ofKey
    exact List.mem_flatMap.mpr ⟨origin, listed, by rw [isKey, ← same]; exact List.mem_cons_self⟩
  · obtain ⟨origin, listed, same⟩ := List.mem_map.mp ofValue
    rw [List.mem_singleton.mp isValue, ← same]
    exact List.mem_flatMap.mpr ⟨origin, listed, List.mem_cons_of_mem _ List.mem_cons_self⟩

theorem NodeContent.mem_parts_of_mem {entries : List (Nat × Nat)} {entry : Nat × Nat}
    (member : entry ∈ entries) :
    entry.1 ∈ (NodeContent.mapping entries).parts ∧ entry.2 ∈ (NodeContent.mapping entries).parts := by
  constructor
  · exact List.mem_flatMap.mpr ⟨entry, member, List.mem_cons_self⟩
  · exact List.mem_flatMap.mpr ⟨entry, member, List.mem_cons_of_mem _ List.mem_cons_self⟩

/-- A scalar never stands for a collection that is kept apart. -/
theorem Scalar.valueOf_ne_again (tag : Tag) (text : CodeText) (loop : Nat) :
    Scalar.valueOf tag text ≠ .ok (.again loop) := by
  have made {ε α : Type} {make : α → Value} {result : Except ε α}
      (valued : result.map make = .ok (.again loop)) : ∃ item, make item = .again loop := by
    cases result with
    | error fault => cases valued
    | ok item => exact ⟨item, Except.ok.inj valued⟩
  intro valued
  cases tag with
  | bool | int | float | binary =>
      obtain ⟨item, impossible⟩ := made valued
      cases impossible
  | timestamp =>
      rw [Scalar.valueOf, Scalar.timestampOf] at valued
      split at valued
      · cases valued
      · dsimp only at valued
        split at valued
        all_goals
          obtain ⟨item, impossible⟩ := made (mapError_eq_ok_iff.mp valued)
          cases impossible
  | _ => cases valued

theorem HasValue.ne_again (has : HasValue nodes value number node) (loop : Nat) :
    value number ≠ .again loop := by
  cases has with
  | scalar _ _ stands =>
      intro same
      exact Scalar.valueOf_ne_again _ _ loop (same ▸ stands)
  | sequence listed => rw [listed]; intro impossible; cases impossible
  | mapping _ mapped => rw [mapped]; intro impossible; cases impossible

theorem setIfInBounds_of_getElem? {α : Type} {items : Array α} {place : Nat} {item : α}
    (there : items[place]? = some item) : items.setIfInBounds place item = items := by
  obtain ⟨inRange, same⟩ := Array.getElem?_eq_some_iff.mp there
  rw [← same, Array.setIfInBounds_def, dif_pos inRange, Array.set_getElem_self]

/-! ### Merging -/

theorem run_bind_of_eq {m : Type → Type} [Monad m] [LawfulMonad m] {σ α β : Type}
    {first : StateT σ m α} {next : α → StateT σ m β} {before after : σ} {result : α}
    (ran : first.run before = pure (result, after)) :
    (first >>= next).run before = (next result).run after := by
  rw [StateT.run_bind, ran, pure_bind]

/-- Items are worked through one after another: what is fine stays so, and what an item has done stays
done. -/
theorem exists_mapM_run {m : Type → Type} [Monad m] [LawfulMonad m] {σ α β : Type}
    {act : α → StateT σ m β} {result : α → β} {fine : σ → Prop} {leads : σ → σ → Prop}
    {done : α → σ → Prop} {items : List α} {before : σ}
    (refl : ∀ state, fine state → leads state state)
    (trans : ∀ first second third, leads first second → leads second third → leads first third)
    (ends : ∀ first second, leads first second → fine second)
    (stays : ∀ item first second, done item first → leads first second → done item second)
    (each : ∀ item ∈ items, ∀ before, fine before → ∃ after,
      (act item).run before = pure (result item, after) ∧ leads before after ∧ done item after)
    (start : fine before) :
    ∃ after, (items.mapM act).run before = pure (items.map result, after) ∧ leads before after ∧
      ∀ item ∈ items, done item after := by
  induction items generalizing before with
  | nil =>
      rw [List.mapM_nil]
      exact ⟨before, StateT.run_pure _ _, refl before start,
        fun _ none => absurd none List.not_mem_nil⟩
  | cons item rest ih =>
      obtain ⟨here, later⟩ := List.forall_mem_cons.mp each
      obtain ⟨middle, acted, first, doneHere⟩ := here before start
      obtain ⟨after, others, second, doneLater⟩ := ih later (ends _ _ first)
      refine ⟨after, ?_, trans _ _ _ first second,
        List.forall_mem_cons.mpr ⟨stays _ _ _ doneHere second, doneLater⟩⟩
      rw [List.mapM_cons, run_bind_of_eq acted, run_bind_of_eq others]
      exact StateT.run_pure _ _

/-- The keys of a mapping are scalars, and neither merge keys nor to be settled. -/
theorem IsValuation.isScalarTag_of_key (valuation : IsValuation nodes value)
    {entries : List (Nat × Nat)} (there : nodes[number]? = some ⟨.mapping, .mapping entries⟩) :
    ∀ entry ∈ entries, ∃ tag text, nodes[entry.1]? = some ⟨tag, .scalar text⟩ ∧
      Builder.isScalarTag tag = true := by
  intro entry member
  have has := valuation.holds _ _ there
  cases has with
  | mapping keys _ =>
      obtain ⟨tag, text, key⟩ := keys entry member
      have ofKey := valuation.holds _ _ key
      cases ofKey with
      | scalar isScalar => exact ⟨tag, text, key, isScalar⟩

namespace NodeAction

theorem run_node_eq_some (there : nodes[number]? = some node) :
    (NodeAction.node number).run nodes = some (node, nodes) := by
  rw [NodeAction.node, run_bind_of_eq (StateT.run_get nodes), there]
  rfl

theorem run_entries_eq_some {tag : Tag} {entries : List (Nat × Nat)}
    (there : nodes[number]? = some ⟨tag, .mapping entries⟩) :
    (NodeAction.entries number).run nodes = some (entries, nodes) := by
  rw [NodeAction.entries, run_bind_of_eq (run_node_eq_some there)]
  rfl

theorem takeMerge?_eq_none {entries : List (Nat × Nat)}
    (keys : ∀ entry ∈ entries, ∃ tag text, nodes[entry.1]? = some ⟨tag, .scalar text⟩ ∧
      Builder.isScalarTag tag = true) :
    (takeMerge? entries).run nodes = some (none, nodes) := by
  induction entries with
  | nil => rfl
  | cons entry rest ih =>
      obtain ⟨⟨tag, text, there, isScalar⟩, later⟩ := List.forall_mem_cons.mp keys
      have notMerge : tag ≠ .merge := fun same => by rw [same] at isScalar; cases isScalar
      have tagged : (tagOf entry.1).run nodes = some (tag, nodes) := by
        rw [tagOf, run_bind_of_eq (run_node_eq_some there)]
        rfl
      rw [takeMerge?, run_bind_of_eq tagged, if_neg notMerge, run_bind_of_eq (ih later)]
      rfl

theorem settleKeys_eq_some {entries : List (Nat × Nat)}
    (keys : ∀ entry ∈ entries, ∃ tag text, nodes[entry.1]? = some ⟨tag, .scalar text⟩ ∧
      Builder.isScalarTag tag = true) :
    (entries.forM fun entry => settleKey entry.1).run nodes = some ((), nodes) := by
  induction entries with
  | nil => rfl
  | cons entry rest ih =>
      obtain ⟨⟨tag, text, there, isScalar⟩, later⟩ := List.forall_mem_cons.mp keys
      have notValue : tag ≠ .value := fun same => by rw [same] at isScalar; cases isScalar
      have settled : (settleKey entry.1).run nodes = some ((), nodes) := by
        rw [settleKey, run_bind_of_eq (run_node_eq_some there), if_neg notValue]
        rfl
      exact (run_bind_of_eq settled).trans (ih later)

/-- There is nothing to merge. -/
theorem flatten_eq_some {tag : Tag} {entries : List (Nat × Nat)}
    (there : nodes[number]? = some ⟨tag, .mapping entries⟩)
    (keys : ∀ entry ∈ entries, ∃ tag text, nodes[entry.1]? = some ⟨tag, .scalar text⟩ ∧
      Builder.isScalarTag tag = true) :
    (flatten number).run nodes = some ((), nodes) := by
  have restored : (setEntries number entries).run nodes = some ((), nodes) := by
    rw [setEntries, run_bind_of_eq (run_node_eq_some there)]
    exact congrArg (fun after => some ((), after)) (setIfInBounds_of_getElem? there)
  rw [flatten, run_bind_of_eq (StateT.run_get nodes), flattenWith,
    run_bind_of_eq (run_entries_eq_some there), run_bind_of_eq (takeMerge?_eq_none keys)]
  dsimp only
  rw [run_bind_of_eq (run_entries_eq_some there)]
  exact (run_bind_of_eq (settleKeys_eq_some keys)).trans restored

end NodeAction

end Yaml

end EntityScaffold
