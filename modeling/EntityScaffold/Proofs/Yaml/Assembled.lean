import EntityScaffold.Proofs.Attempt
import EntityScaffold.Proofs.Yaml.Built
import EntityScaffold.Yaml.Document

/-
How values are put together. When each node has its value and begins before its parts, no collection
comes to contain itself, and the document has the value of its root.
-/

namespace EntityScaffold

namespace Yaml

variable {nodes : Array Node} {value : Nat → Value} {number : Nat} {node : Node}

namespace Assembler

/-- From some node on, the values that are known are right. -/
def KnowsFrom (value : Nat → Value) (size floor : Nat) (assembly : Assembly) : Prop :=
  assembly.values.size = size ∧ ∀ number, floor ≤ number → number < size →
    assembly.values[number]? = some none ∨ assembly.values[number]? = some (some (value number))

/-- Putting together goes on soundly; nothing is kept apart, and the nodes in front are left alone. -/
structure Leads (value : Nat → Value) (size floor : Nat) (before after : Assembly) : Prop where
  knows : KnowsFrom value size floor after
  loops : after.loops = before.loops
  same : ∀ number < floor, after.values[number]? = before.values[number]?

variable {size floor fuel : Nat} {before middle after : Assembly} {parts : Array (Option Part)}

theorem Leads.refl (knows : KnowsFrom value size floor before) :
    Leads value size floor before before :=
  ⟨knows, rfl, fun _ _ => rfl⟩

theorem Leads.trans (first : Leads value size floor before middle)
    (second : Leads value size floor middle after) : Leads value size floor before after :=
  ⟨second.knows, second.loops.trans first.loops,
    fun number low => (second.same number low).trans (first.same number low)⟩

/-- A value is put down. -/
def put (assembly : Assembly) (number : Nat) (result : Value) : Assembly :=
  { assembly with values := assembly.values.setIfInBounds number (some result) }

theorem put_of_ne {other : Nat} {result : Value} (apart : number ≠ other) :
    (put before number result).values[other]? = before.values[other]? := by
  rw [put, Array.getElem?_setIfInBounds, if_neg apart]

/-- A node may stand for anything while only the nodes behind it matter. -/
theorem KnowsFrom.put_above {result : Value} (knows : KnowsFrom value size number before) :
    KnowsFrom value size (number + 1) (put before number result) := by
  refine ⟨Array.size_setIfInBounds.trans knows.1, fun other above inRange => ?_⟩
  rw [put_of_ne (by omega)]
  exact knows.2 other (by omega) inRange

theorem KnowsFrom.put (knows : KnowsFrom value size (number + 1) before) :
    KnowsFrom value size number (put before number (value number)) := by
  refine ⟨Array.size_setIfInBounds.trans knows.1, fun other above inRange => ?_⟩
  by_cases same : number = other
  · subst same
    right
    rw [Assembler.put, Array.getElem?_setIfInBounds, if_pos rfl, if_pos (knows.1.symm ▸ inRange)]
  · rw [put_of_ne same]
    exact knows.2 other (by omega) inRange

/-- From a node that stands for anything, through the nodes behind it, to the value of the node. -/
theorem Leads.put {result : Value} (leads : Leads value size (number + 1)
    (put before number result) middle) :
    Leads value size number before (put middle number (value number)) := by
  refine ⟨leads.knows.put, leads.loops, fun other low => ?_⟩
  rw [put_of_ne (by omega), leads.same other (by omega), put_of_ne (by omega)]

/-- What holds from a node on holds from further in front, if it did before. -/
theorem Leads.lower (leads : Leads value size number before after) (above : floor ≤ number)
    (knows : KnowsFrom value size floor before) : Leads value size floor before after := by
  refine ⟨⟨leads.knows.1, fun other high inRange => ?_⟩, leads.loops,
    fun other low => leads.same other (by omega)⟩
  by_cases behind : number ≤ other
  · exact leads.knows.2 other behind inRange
  · rw [leads.same other (by omega)]
    exact knows.2 other high inRange

theorem KnowsFrom.higher (knows : KnowsFrom value size floor before) (above : floor ≤ number) :
    KnowsFrom value size number before :=
  ⟨knows.1, fun other high inRange => knows.2 other (by omega) inRange⟩

theorem settle_eq {values : List Value} {result : Value}
    (plain : ∀ item ∈ values, ∀ loop, item ≠ .again loop) :
    (settle number values result).run before = pure (result, put before number result) := by
  have none_ : meetsLoop values = false := by
    refine List.any_eq_false.mpr fun item member => ?_
    cases item with
    | again loop => exact absurd rfl (plain _ member loop)
    | _ => exact Bool.false_ne_true
  rw [settle, none_]
  rfl

/-- The value of a node is put together wherever the values behind a floor are right. -/
def PutsTogether (parts : Array (Option Part)) (fuel : Nat) (value : Nat → Value)
    (size floor number : Nat) : Prop :=
  ∀ before, KnowsFrom value size floor before → ∃ after,
    (Assembler.value parts fuel number).run before = pure (value number, after) ∧
      Leads value size floor before after

/-- Results are put together one after another. -/
theorem exists_mapM_leads {α β : Type} {act : α → Assembler β} {result : α → β} {items : List α}
    (each : ∀ item ∈ items, ∀ first, KnowsFrom value size floor first → ∃ last,
      (act item).run first = pure (result item, last) ∧ Leads value size floor first last)
    (start : KnowsFrom value size floor before) :
    ∃ after, (items.mapM act).run before = pure (items.map result, after) ∧
      Leads value size floor before after := by
  have acts : ∀ item ∈ items, ∀ first, KnowsFrom value size floor first → ∃ last,
      (act item).run first = pure (result item, last) ∧ Leads value size floor first last ∧
        True := by
    intro item member first fine
    obtain ⟨last, ran, leads⟩ := each item member first fine
    exact ⟨last, ran, leads, trivial⟩
  obtain ⟨after, ran, leads, _⟩ := exists_mapM_run (fun _ => Leads.refl)
    (fun _ _ _ => Leads.trans) (fun _ _ leads => leads.knows) (fun _ _ _ done _ => done) acts start
  exact ⟨after, ran, leads⟩

theorem exists_items {items : List Nat}
    (child : ∀ item ∈ items, PutsTogether parts fuel value size floor item)
    (start : KnowsFrom value size floor before) :
    ∃ after, (items.mapM (Assembler.value parts fuel)).run before =
        pure (items.map value, after) ∧ Leads value size floor before after :=
  exists_mapM_leads child start

theorem exists_entries {entries : List (Nat × Nat)}
    (child : ∀ part ∈ (NodeContent.mapping entries).parts,
      PutsTogether parts fuel value size floor part)
    (start : KnowsFrom value size floor before) :
    ∃ after, (entries.mapM fun entry => (do
        let key ← Assembler.value parts fuel entry.1
        let value ← Assembler.value parts fuel entry.2
        return (key, value) : Assembler (Value × Value))).run before =
      pure (entries.map (Prod.map value value), after) ∧
        Leads value size floor before after := by
  refine exists_mapM_leads (fun entry member first fine => ?_) start
  obtain ⟨ofKey, ofValue⟩ := NodeContent.mem_parts_of_mem member
  obtain ⟨second, ranKey, leadsKey⟩ := child entry.1 ofKey first fine
  obtain ⟨last, ranValue, leadsValue⟩ := child entry.2 ofValue second leadsKey.knows
  refine ⟨last, ?_, leadsKey.trans leadsValue⟩
  rw [run_bind_of_eq ranKey, run_bind_of_eq ranValue]
  rfl

/-- The value of a node is put together, by induction on the fuel; the parts begin behind the node. -/
theorem putsTogether (valuation : IsValuation nodes value) (filled : AreFilled nodes value parts)
    {part : Part} (met : parts[number]? = some (some part)) (enough : nodes.size ≤ number + fuel) :
    PutsTogether parts fuel value nodes.size number number := by
  induction fuel generalizing number part with
  | zero =>
      obtain ⟨inRange, _⟩ := Array.getElem?_eq_some_iff.mp met
      rw [filled.size] at inRange
      omega
  | succ fuel ih =>
      -- the parts have greater numbers, so less fuel is enough for them
      intro before knows
      obtain ⟨inRange, _⟩ := Array.getElem?_eq_some_iff.mp met
      rw [filled.size] at inRange
      have there := Array.getElem?_eq_getElem inRange
      obtain ⟨isFilled, partsMet⟩ := filled.filled _ _ _ there met
      have ahead := valuation.ahead _ _ there
      have has := valuation.holds _ _ there
      generalize nodes[number] = node at there isFilled partsMet ahead has
      rw [Assembler.value, run_bind_of_eq (StateT.run_get before)]
      rcases knows.2 number (Nat.le_refl _) inRange with unknown | known
      · -- the node stands for itself in the meantime
        have start : KnowsFrom value nodes.size (number + 1) (put before number (.again number)) :=
          knows.put_above
        have child : ∀ other ∈ node.content.parts,
            PutsTogether parts fuel value nodes.size (number + 1) other := by
          intro other listed first knowsFirst
          have behind := (ahead other listed).1
          obtain ⟨part, isMet⟩ := partsMet other listed
          obtain ⟨last, ran, leads⟩ := ih isMet (by omega) first (knowsFirst.higher behind)
          exact ⟨last, ran, leads.lower behind knowsFirst⟩
        have plain : ∀ other ∈ node.content.parts, ∀ loop, value other ≠ .again loop := by
          intro other listed
          have standing := Array.getElem?_eq_getElem (ahead other listed).2
          exact (valuation.holds other _ standing).ne_again
        rw [unknown]
        simp only [Option.join_some]
        rw [run_bind_of_eq (show (setValue number (.again number)).run before =
          pure ((), put before number (.again number)) from rfl), met]
        subst isFilled
        cases has with
        | scalar isScalar notFloat stands =>
            exact ⟨_, rfl, (Leads.refl start).put⟩
        | @sequence items listed =>
            obtain ⟨middle, ran, leads⟩ := exists_items child start
            refine ⟨_, ?_, leads.put⟩
            refine (run_bind_of_eq ran).trans ?_
            rw [listed]
            refine settle_eq fun item member => ?_
            obtain ⟨other, isItem, same⟩ := List.mem_map.mp member
            exact same ▸ plain other isItem
        | @mapping entries keys mapped =>
            obtain ⟨middle, ran, leads⟩ := exists_entries
              (fun part listed => child part (NodeContent.mem_parts_of_kept listed)) start
            refine ⟨_, ?_, leads.put⟩
            refine (run_bind_of_eq ran).trans ?_
            rw [mapped]
            refine settle_eq fun item member => ?_
            rw [List.map_map] at member
            obtain ⟨entry, isEntry, same⟩ := List.mem_map.mp member
            have isPart := (NodeContent.mem_parts_of_mem isEntry).2
            exact same ▸ plain _ (NodeContent.mem_parts_of_kept isPart)
      · refine ⟨before, ?_, .refl knows⟩
        rw [known]
        rfl

end Assembler

/-- The document is the value of its root. -/
theorem documentOf_eq (valuation : IsValuation nodes value) {parts : Array (Option Part)}
    (filled : AreFilled nodes value parts) {root : Nat} {part : Part}
    (met : parts[root]? = some (some part)) : documentOf parts root = ⟨value root, []⟩ := by
  have nothing : Assembler.KnowsFrom value nodes.size root ⟨Array.replicate parts.size none, []⟩ := by
    refine ⟨Array.size_replicate.trans filled.size, fun number _ inRange => Or.inl ?_⟩
    rw [Array.getElem?_replicate, if_pos (filled.size ▸ inRange)]
  obtain ⟨after, ran, leads⟩ := Assembler.putsTogether valuation filled met
    (show nodes.size ≤ root + (parts.size + 1) by rw [filled.size]; omega) _ nothing
  have loops := leads.loops
  rw [documentOf, ran]
  exact congrArg (Document.mk (value root)) loops

/-- A text whose nodes have their values is read as the value of the root. -/
theorem load_of_valuation {source : List Char} {root : Nat}
    (read : Node.ofTokens (Token.scan source) = .ok (some root, nodes))
    (valuation : IsValuation nodes value) (inRange : root < nodes.size) :
    load source = .ok ⟨value root, []⟩ := by
  obtain ⟨parts, built, filled, part, met⟩ := Part.exists_ofNodes valuation inRange
  rw [load, read]
  change (Part.ofNodes nodes root >>= fun parts => Except.ok (documentOf parts root)) = _
  rw [built, ← documentOf_eq valuation filled met]
  rfl

end Yaml

end EntityScaffold
