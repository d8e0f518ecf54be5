import EntityScaffold.Proofs.Yaml.Valuation

/-
How the values of nodes are built. When each node has its value, building finds just these values:
what it knows of a node is right at every moment, and collections are filled until nothing is left to
do. A key without a value makes building fail.
-/

namespace EntityScaffold.Yaml

variable {nodes : Array Node} {value : Nat → Value} {number : Nat} {node : Node}

namespace Building

variable {building : Building} {part : Part}

/-- What is known of a node is put down. -/
def put (building : Building) (number : Nat) (part : Part) : Building :=
  { building with parts := building.parts.setIfInBounds number (some part) }

theorem put_self (inRange : number < building.parts.size) :
    (building.put number part).parts[number]? = some (some part) := by
  rw [put, Array.getElem?_setIfInBounds, if_pos rfl, if_pos inRange]

theorem put_of_ne {other : Nat} (apart : number ≠ other) :
    (building.put number part).parts[other]? = building.parts[other]? := by
  rw [put, Array.getElem?_setIfInBounds, if_neg apart]

theorem size_put : (building.put number part).parts.size = building.parts.size :=
  Array.size_setIfInBounds

theorem countP_put (part : Part) (inRange : number < building.parts.size) :
    (building.put number part).parts.toList.countP Option.isNone =
      building.parts.toList.countP Option.isNone -
        if building.parts[number].isNone then 1 else 0 := by
  rw [put, Array.toList_setIfInBounds, List.countP_set inRange]
  rfl

end Building

namespace Builder

open Building (put_self put_of_ne size_put countP_put)

/-- Something is known of the value of a node. -/
def IsMet (building : Building) (number : Nat) : Prop :=
  ∃ part, building.parts[number]? = some (some part)

/-- What may be known of a node: a collection is still open, or all its parts are met. -/
inductive IsKnown (value : Nat → Value) (building : Building) (isOpen : Prop) (number : Nat) :
    NodeContent → Part → Prop where
  | filled {content : NodeContent} (met : ∀ part ∈ content.parts, IsMet building part) :
      IsKnown value building isOpen number content (content.filled value number)
  | openList {items : List Nat} (waits : isOpen) :
      IsKnown value building isOpen number (.sequence items) (.list [])
  | openMap {entries : List (Nat × Nat)} (waits : isOpen) :
      IsKnown value building isOpen number (.mapping entries) (.map [])

/-- Building keeps the nodes as they are, and what is known of their values is right; `waiting` are the
collections to be filled besides those that were begun. -/
structure IsSound (nodes : Array Node) (value : Nat → Value) (waiting : List Nat)
    (building : Building) : Prop where
  same : building.nodes = nodes
  size : building.parts.size = nodes.size
  known : ∀ number node part, nodes[number]? = some node →
    building.parts[number]? = some (some part) →
    IsKnown value building (number ∈ waiting ++ building.begun) number node.content part
  met : ∀ number ∈ waiting ++ building.begun, IsMet building number

/-- A bound for what filling has to do yet: a node that is not met may have to be begun, which takes
two steps later on, one to take it up and one to fill it. -/
def work (building : Building) : Nat :=
  2 * building.begun.length + 2 * building.parts.toList.countP Option.isNone

/-- Building goes on soundly, with all that was known and with no more work. -/
structure Leads (nodes : Array Node) (value : Nat → Value) (waiting : List Nat)
    (before after : Building) : Prop where
  sound : IsSound nodes value waiting after
  keeps : ∀ (number : Nat) (part : Part), before.parts[number]? = some (some part) →
    after.parts[number]? = some (some part)
  work_le : work after ≤ work before

variable {waiting : List Nat} {building before middle after : Building} {part : Part}
  {isOpen isOpenLater : Prop} {content : NodeContent}

theorem IsSound.standing (sound : IsSound nodes value waiting building)
    (there : nodes[number]? = some node) : building.nodes[number]? = some node := by
  rw [sound.same, there]

theorem IsMet.lead (met : IsMet before number) (leads : Leads nodes value waiting before after) :
    IsMet after number := by
  obtain ⟨part, known⟩ := met
  exact ⟨part, leads.keeps number part known⟩

/-- Whatever is put down for a node that is met, all nodes stay met. -/
theorem IsMet.put {other : Nat} (met : IsMet building other) (here : IsMet building number)
    (part : Part) : IsMet (building.put number part) other := by
  by_cases same : number = other
  · subst same
    obtain ⟨old, isOld⟩ := here
    exact ⟨part, put_self (Array.getElem?_eq_some_iff.mp isOld).1⟩
  · obtain ⟨found, isFound⟩ := met
    exact ⟨found, (put_of_ne same).trans isFound⟩

theorem IsKnown.mono (known : IsKnown value before isOpen number content part)
    (grows : ∀ other, IsMet before other → IsMet after other) (opens : isOpen → isOpenLater) :
    IsKnown value after isOpenLater number content part := by
  cases known with
  | filled met => exact .filled fun other listed => grows other (met other listed)
  | openList waits => exact .openList (opens waits)
  | openMap waits => exact .openMap (opens waits)

theorem Leads.refl (sound : IsSound nodes value waiting building) :
    Leads nodes value waiting building building :=
  ⟨sound, fun _ _ known => known, Nat.le_refl _⟩

theorem Leads.trans (first : Leads nodes value waiting before middle)
    (second : Leads nodes value waiting middle after) : Leads nodes value waiting before after :=
  ⟨second.sound, fun number part known => second.keeps number part (first.keeps number part known),
    Nat.le_trans second.work_le first.work_le⟩

/-- A node is met that was not: a scalar has its value, or a collection is begun. -/
theorem leads_put (sound : IsSound nodes value waiting building)
    (there : nodes[number]? = some node) (unmet : building.parts[number]? = some none)
    {begun : List Nat} (grown : begun = building.begun ∨ begun = number :: building.begun)
    (known : ∀ placed, IsKnown value placed (number ∈ waiting ++ begun) number node.content part) :
    Leads nodes value waiting building { building.put number part with begun := begun } := by
  obtain ⟨inRange, isNone⟩ := Array.getElem?_eq_some_iff.mp unmet
  have keeps : ∀ (other : Nat) (found : Part), building.parts[other]? = some (some found) →
      (building.put number part).parts[other]? = some (some found) := by
    intro other found standing
    rw [put_of_ne]
    · exact standing
    · intro same
      rw [← same, unmet] at standing
      cases standing
  have listed : ∀ other, other ∈ waiting ++ begun ↔
      other ∈ waiting ++ building.begun ∨ other ∈ waiting ++ begun ∧ other = number := by
    rcases grown with same | same <;> subst same <;> grind
  refine ⟨⟨sound.same, size_put.trans sound.size, fun other found held standing has => ?_,
    fun other member => ?_⟩, keeps, ?_⟩
  · by_cases same : number = other
    · subst same
      cases there.symm.trans standing
      cases (put_self inRange).symm.trans has
      exact known _
    · exact (sound.known other found held standing (put_of_ne same ▸ has)).mono
        (fun _ ⟨part, isPart⟩ => ⟨part, keeps _ part isPart⟩)
        (fun isOpen => (listed other).mpr (Or.inl isOpen))
  · rcases (listed other).mp member with old | ⟨_, new⟩
    · obtain ⟨part, isPart⟩ := sound.met other old
      exact ⟨part, keeps _ part isPart⟩
    · rw [new]
      exact ⟨part, put_self inRange⟩
  · have isThere : building.parts[number].isNone = true := by rw [isNone]; rfl
    have counted := List.countP_pos_iff.mpr
      ⟨_, Array.getElem_mem_toList inRange, isThere⟩
    have fewer := countP_put part inRange
    rw [if_pos isThere] at fewer
    unfold work
    dsimp only
    rcases grown with same | same <;> subst same
    · omega
    · rw [List.length_cons]
      omega

theorem run_node_eq_ok (there : building.nodes[number]? = some node) :
    (Builder.node number).run building = .ok (node, building) := by
  rw [Builder.node, run_bind_of_eq (StateT.run_get building), there]
  rfl

theorem run_part?_eq_ok (known : building.parts[number]? = some (some part)) :
    (part? number).run building = .ok (some part, building) := by
  rw [part?, run_bind_of_eq (StateT.run_get building), known]
  rfl

/-- A scalar is built when its spelling has a value of its type. -/
theorem run_leafOf {tag : Tag} {text : CodeText}
    (there : building.nodes[number]? = some ⟨tag, .scalar text⟩) (notFloat : tag ≠ .float) :
    (leafOf number tag).run building =
      (Scalar.valueOf tag text).map fun result => (.leaf result number, building) := by
  have spelled (fuel : Nat) : (scalarText (fuel + 1) number).run building = .ok (text, building) := by
    rw [scalarText, run_bind_of_eq (run_node_eq_ok there)]
    rfl
  rw [leafOf, run_bind_of_eq (StateT.run_get building), run_bind_of_eq (spelled _),
    run_bind_of_eq (run_node_eq_ok there)]
  simp only [Bool.not_true, Bool.and_false, Bool.false_eq_true, if_false, decide_eq_false notFloat,
    Bool.false_and]
  cases Scalar.valueOf tag text <;> rfl

/-- A node is met when its value is built. -/
theorem exists_build (valuation : IsValuation nodes value)
    (sound : IsSound nodes value waiting building) (inRange : number < nodes.size) :
    ∃ part after, (build number).run building = .ok (part, after) ∧
      Leads nodes value waiting building after ∧ after.parts[number]? = some (some part) := by
  have listed : number < building.parts.size := sound.size.symm ▸ inRange
  have there := Array.getElem?_eq_getElem inRange
  have standing := Array.getElem?_eq_getElem listed
  cases known : building.parts[number] with
  | some part =>
      rw [known] at standing
      refine ⟨part, building, ?_, .refl sound, standing⟩
      rw [build, run_bind_of_eq (run_part?_eq_ok standing)]
      rfl
  | none =>
      rw [known] at standing
      have unmet : (part? number).run building = .ok (none, building) := by
        rw [part?, run_bind_of_eq (StateT.run_get building), standing]
        rfl
      have placed (part : Part) : (building.put number part).parts[number]? = some (some part) :=
        put_self listed
      rw [build, run_bind_of_eq unmet]
      simp only []
      rw [run_bind_of_eq (run_node_eq_ok (sound.standing there))]
      have has := valuation.holds _ _ there
      generalize nodes[number] = node at there has
      -- a scalar is finished at once, and a collection stays open until it is filled
      cases has with
      | scalar isScalar notFloat stands =>
          next tag text =>
          have isNone : Part.begun? tag = none := by
            cases tag <;> first | rfl | cases isScalar
          refine ⟨_, building.put number (.leaf (value number) number), ?_, ?_, placed _⟩
          · rw [isNone]
            simp only []
            have leaf := run_leafOf (sound.standing there) notFloat
            rw [stands] at leaf
            rw [if_pos isScalar, run_bind_of_eq leaf]
            rfl
          · refine leads_put sound there standing (Or.inl rfl) fun _ => ?_
            exact .filled fun _ none => absurd none List.not_mem_nil
      | sequence listed =>
          refine ⟨.list [], _, rfl, ?_, placed _⟩
          exact leads_put sound there standing (Or.inr rfl) fun _ =>
            .openList (List.mem_append_right _ List.mem_cons_self)
      | mapping keys mapped =>
          refine ⟨.map [], _, rfl, ?_, placed _⟩
          exact leads_put sound there standing (Or.inr rfl) fun _ =>
            .openMap (List.mem_append_right _ List.mem_cons_self)

/-! ### Filling -/

theorem exists_forM_build (valuation : IsValuation nodes value) {items : List Nat}
    (sound : IsSound nodes value waiting building) (inRange : ∀ item ∈ items, item < nodes.size) :
    ∃ after, (items.forM fun item => do let _ ← build item).run building = .ok ((), after) ∧
      Leads nodes value waiting building after ∧ ∀ item ∈ items, IsMet after item := by
  induction items generalizing building with
  | nil => exact ⟨building, rfl, .refl sound, fun _ none => absurd none List.not_mem_nil⟩
  | cons item rest ih =>
      obtain ⟨here, later⟩ := List.forall_mem_cons.mp inRange
      obtain ⟨part, middle, built, first, known⟩ := exists_build valuation sound here
      obtain ⟨after, others, second, met⟩ := ih first.sound later
      have acted : (do let _ ← build item : Builder PUnit).run building = .ok ((), middle) := by
        rw [run_bind_of_eq built]
        rfl
      refine ⟨after, (run_bind_of_eq acted).trans others, first.trans second, ?_⟩
      exact List.forall_mem_cons.mpr ⟨⟨part, second.keeps item part known⟩, met⟩

/-- A collection is filled once its parts are met. -/
theorem isSound_put_filled (sound : IsSound nodes value (number :: waiting) building)
    (there : nodes[number]? = some node) (met : ∀ part ∈ node.content.parts, IsMet building part) :
    IsSound nodes value waiting (building.put number (node.content.filled value number)) := by
  have here := sound.met number List.mem_cons_self
  have keepsMet : ∀ other, IsMet building other →
      IsMet (building.put number (node.content.filled value number)) other :=
    fun _ isMet => isMet.put here _
  obtain ⟨old, isOld⟩ := here
  obtain ⟨inRange, _⟩ := Array.getElem?_eq_some_iff.mp isOld
  refine ⟨sound.same, size_put.trans sound.size, fun other found part standing has => ?_,
    fun other member => keepsMet other (sound.met other (List.mem_cons_of_mem _ member))⟩
  by_cases same : number = other
  · subst same
    cases there.symm.trans standing
    cases (put_self inRange).symm.trans has
    exact .filled fun part listed => keepsMet part (met part listed)
  · refine (sound.known other found part standing (put_of_ne same ▸ has)).mono keepsMet
      fun isOpen => ?_
    exact (List.mem_cons.mp isOpen).resolve_left fun equal => same equal.symm

theorem work_put_le (met : IsMet building number) :
    work (building.put number part) ≤ work building := by
  obtain ⟨old, isOld⟩ := met
  obtain ⟨inRange, isOld⟩ := Array.getElem?_eq_some_iff.mp isOld
  have fewer := countP_put part inRange
  unfold work
  rw [fewer]
  change 2 * building.begun.length + _ ≤ _
  omega

theorem flatten_eq_ok {tag : Tag} {entries : List (Nat × Nat)}
    (there : building.nodes[number]? = some ⟨tag, .mapping entries⟩)
    (keys : ∀ entry ∈ entries, ∃ tag text, building.nodes[entry.1]? = some ⟨tag, .scalar text⟩ ∧
      isScalarTag tag = true) :
    (flatten number).run building = .ok ((), building) := by
  rw [flatten, run_bind_of_eq (StateT.run_get building), NodeAction.flatten_eq_some there keys]
  rfl

/-- An entry is built whose key is a scalar. -/
theorem exists_buildEntry (valuation : IsValuation nodes value)
    (sound : IsSound nodes value waiting building) {entry : Nat × Nat}
    (isScalar : ∃ tag text, nodes[entry.1]? = some ⟨tag, .scalar text⟩ ∧ isScalarTag tag = true)
    (keyInRange : entry.1 < nodes.size) (inRange : entry.2 < nodes.size) :
    ∃ after, (do
        let keyPart ← build entry.1
        if !keyPart.isKey then throw LoadFault.malformed
        let _ ← build entry.2
        return ((entry.1, keyPart), entry.2) : Builder ((Nat × Part) × Nat)).run building =
          .ok (((entry.1, .leaf (value entry.1) entry.1), entry.2), after) ∧
      Leads nodes value waiting building after ∧ (IsMet after entry.1 ∧ IsMet after entry.2) := by
  obtain ⟨tag, text, keyThere, _⟩ := isScalar
  obtain ⟨key, middle, builtKey, first, known⟩ := exists_build valuation sound keyInRange
  obtain ⟨part, after, builtValue, second, met⟩ := exists_build valuation first.sound inRange
  have isLeaf : key = .leaf (value entry.1) entry.1 := by
    have told := first.sound.known _ _ _ keyThere known
    cases told
    rfl
  subst isLeaf
  refine ⟨after, ?_, first.trans second, ⟨_, second.keeps _ _ known⟩, ⟨part, met⟩⟩
  rw [run_bind_of_eq builtKey]
  exact run_bind_of_eq builtValue

/-- Among built entries those are kept whose keys have values of their own. -/
theorem ofListBy_leaves (entries : List (Nat × Nat)) :
    Ordered.ofListBy (fun left right => left.2.sameKey right.2)
        (entries.map (Prod.map (fun key => (key, Part.leaf (value key) key)) id)) =
      (keptEntries value entries).map (Prod.map (fun key => (key, Part.leaf (value key) key)) id) :=
  Ordered.ofListBy_map (List.pairwise_of_forall fun _ _ => rfl)

/-- The entries of a mapping are built, and those are kept that are not replaced. -/
theorem exists_buildEntries (valuation : IsValuation nodes value)
    (sound : IsSound nodes value waiting building) {entries : List (Nat × Nat)}
    (there : nodes[number]? = some ⟨.mapping, .mapping entries⟩) :
    ∃ after, (buildEntries number).run building = .ok (keptEntries value entries, after) ∧
      Leads nodes value waiting building after ∧
      ∀ part ∈ (NodeContent.mapping entries).parts, IsMet after part := by
  have keys := valuation.isScalarTag_of_key there
  have inRange := fun part listed => (valuation.ahead _ _ there part listed).2
  have stays (entry : Nat × Nat) (first second : Building)
      (met : IsMet first entry.1 ∧ IsMet first entry.2)
      (leads : Leads nodes value waiting first second) :
      IsMet second entry.1 ∧ IsMet second entry.2 := ⟨met.1.lead leads, met.2.lead leads⟩
  obtain ⟨after, built, leads, met⟩ := exists_mapM_run (fun _ => Leads.refl)
    (fun _ _ _ => Leads.trans) (fun _ _ leads => leads.sound) stays
    (fun entry (member : entry ∈ entries) before sound =>
      have parts := NodeContent.mem_parts_of_mem member
      exists_buildEntry valuation sound (keys entry member) (inRange _ parts.1)
        (inRange _ parts.2)) sound
  refine ⟨after, ?_, leads, fun part listed => ?_⟩
  · have node := run_node_eq_ok (sound.standing there)
    have flat := flatten_eq_ok (sound.standing there) (sound.same ▸ keys)
    rw [buildEntries, run_bind_of_eq node]
    simp only []
    rw [run_bind_of_eq flat, run_bind_of_eq node]
    refine (run_bind_of_eq built).trans ?_
    change Except.ok ((Ordered.ofListBy _
      (entries.map (Prod.map (fun key => (key, Part.leaf (value key) key)) id))).map _, after) = _
    rw [ofListBy_leaves, List.map_map]
    exact congrArg (fun entries => Except.ok (entries, after)) (List.map_id' _)
  · obtain ⟨entry, member, inEntry⟩ := List.mem_flatMap.mp listed
    obtain ⟨ofKey, ofValue⟩ := met entry member
    rcases List.mem_cons.mp inEntry with isKey | isValue
    · exact isKey ▸ ofKey
    · exact List.mem_singleton.mp isValue ▸ ofValue

theorem exists_fill (valuation : IsValuation nodes value)
    (sound : IsSound nodes value (number :: waiting) building) :
    ∃ after, (fill number).run building = .ok ((), after) ∧ IsSound nodes value waiting after ∧
      work after ≤ work building ∧ ∀ other, IsMet building other → IsMet after other := by
  obtain ⟨part, known⟩ := sound.met number List.mem_cons_self
  obtain ⟨inRange, _⟩ := Array.getElem?_eq_some_iff.mp known
  rw [sound.size] at inRange
  have there := Array.getElem?_eq_getElem inRange
  have parts := fun part listed => (valuation.ahead _ _ there part listed).2
  have has := valuation.holds _ _ there
  have told := sound.known _ _ _ there known
  generalize nodes[number] = node at there parts has told
  -- whatever is done first, the collection is put down with all its parts
  have ends {middle : Building} (leads : Leads nodes value (number :: waiting) building middle)
      (met : ∀ part ∈ node.content.parts, IsMet middle part) :
      IsSound nodes value waiting (middle.put number (node.content.filled value number)) ∧
        work (middle.put number (node.content.filled value number)) ≤ work building ∧
        ∀ other, IsMet building other →
          IsMet (middle.put number (node.content.filled value number)) other := by
    have here := leads.sound.met number List.mem_cons_self
    exact ⟨isSound_put_filled leads.sound there met,
      Nat.le_trans (work_put_le here) leads.work_le, fun _ isMet => (isMet.lead leads).put here _⟩
  cases has with
  | @scalar tag text isScalar notFloat stands =>
      cases told
      refine ⟨building, ?_, ?_⟩
      · rw [fill, run_bind_of_eq (run_part?_eq_ok known)]
        rfl
      · have known : building.parts[number]? = some (some (.leaf (value number) number)) := known
        have same : building.put number (.leaf (value number) number) = building := by
          rw [Building.put, setIfInBounds_of_getElem? known]
        have done := ends (.refl sound) fun _ none => absurd none List.not_mem_nil
        dsimp only [NodeContent.filled] at done
        rw [same] at done
        exact done
  | @sequence items listed =>
      obtain ⟨middle, built, leads, met⟩ := exists_forM_build valuation sound parts
      refine ⟨middle.put number (.list items), ?_, ends leads met⟩
      have filled : (do
          items.forM fun item => do let _ ← build item
          setPart number (.list items) : Builder Unit).run building =
            .ok ((), middle.put number (.list items)) := run_bind_of_eq built
      have next := run_node_eq_ok (sound.standing there)
      cases told
      all_goals
        rw [fill, run_bind_of_eq (run_part?_eq_ok known)]
        exact (run_bind_of_eq next).trans filled
  | @mapping entries keys mapped =>
      obtain ⟨middle, built, leads, met⟩ := exists_buildEntries valuation sound there
      refine ⟨middle.put number (.map (keptEntries value entries)), ?_, ends leads met⟩
      cases told
      all_goals
        rw [fill, run_bind_of_eq (run_part?_eq_ok known)]
        exact run_bind_of_eq built

/-- All collections are filled, those included that are begun on the way. -/
theorem exists_fillAll (valuation : IsValuation nodes value) {fuel : Nat}
    (sound : IsSound nodes value waiting building)
    (enough : waiting.length + work building < fuel) :
    ∃ after, (fillAll fuel waiting).run building = .ok ((), after) ∧
      IsSound nodes value [] after ∧ after.begun = [] ∧
      ∀ other, IsMet building other → IsMet after other := by
  induction fuel generalizing waiting building with
  | zero => exact absurd enough (Nat.not_lt_zero _)
  | succ fuel ih =>
      cases waiting with
      | cons number rest =>
          -- one collection less waits, and filling it makes no more work
          obtain ⟨middle, filled, later, work_le, keeps⟩ := exists_fill valuation sound
          rw [List.length_cons] at enough
          obtain ⟨after, others, isSound, nothing, keepsMore⟩ := ih later (by omega)
          refine ⟨after, ?_, isSound, nothing, fun other met => keepsMore other (keeps other met)⟩
          rw [fillAll, run_bind_of_eq filled]
          exact others
      | nil =>
          rw [fillAll, run_bind_of_eq (StateT.run_get building)]
          by_cases nothing : building.begun = []
          · refine ⟨building, ?_, sound, nothing, fun _ met => met⟩
            rw [if_pos (List.isEmpty_iff.mpr nothing)]
            rfl
          · -- the collections that were begun wait now; they counted twice in the work
            have taken : IsSound nodes value building.begun.reverse
                { building with begun := [] } := by
              refine ⟨sound.same, sound.size, fun number node part standing has => ?_,
                fun number member => ?_⟩
              · refine (sound.known number node part standing has).mono (fun _ met => met)
                  fun isOpen => ?_
                rw [List.append_nil]
                exact List.mem_reverse.mpr isOpen
              · rw [List.append_nil] at member
                exact sound.met number (List.mem_reverse.mp member)
            have some_ := List.length_pos_iff.mpr nothing
            have less : work { building with begun := [] } + 2 * building.begun.length =
                work building := by
              unfold work
              dsimp only [List.length_nil]
              omega
            rw [List.length_nil] at enough
            obtain ⟨after, others, isSound, isNothing, keeps⟩ :=
              ih taken (by rw [List.length_reverse]; omega)
            refine ⟨after, ?_, isSound, isNothing, keeps⟩
            rw [if_neg (fun empty => nothing (List.isEmpty_iff.mp empty))]
            exact (run_bind_of_eq (StateT.run_set building _)).trans others

end Builder

/-- What is known of the values of some nodes once all their collections are filled. -/
structure AreFilled (nodes : Array Node) (value : Nat → Value) (parts : Array (Option Part)) :
    Prop where
  size : parts.size = nodes.size
  filled : ∀ (number : Nat) node part, nodes[number]? = some node →
    parts[number]? = some (some part) → part = node.content.filled value number ∧
      ∀ other ∈ node.content.parts, ∃ found, parts[other]? = some (some found)

/-- The values of the nodes that the root reaches are built. -/
theorem Part.exists_ofNodes (valuation : IsValuation nodes value) {root : Nat}
    (inRange : root < nodes.size) :
    ∃ parts, Part.ofNodes nodes root = .ok parts ∧ AreFilled nodes value parts ∧
      ∃ part, parts[root]? = some (some part) := by
  have none_met (number : Nat) (part : Part) :
      (Array.replicate nodes.size (none : Option Part))[number]? ≠ some (some part) := by
    rw [Array.getElem?_replicate]
    split <;> exact fun impossible => by cases impossible
  have start : Builder.IsSound nodes value []
      ⟨nodes, Array.replicate nodes.size none, []⟩ :=
    ⟨rfl, Array.size_replicate, fun number _ part _ has => absurd has (none_met number part),
      fun _ none => absurd none List.not_mem_nil⟩
  have much : Builder.work ⟨nodes, Array.replicate nodes.size none, []⟩ = 2 * nodes.size := by
    rw [Builder.work, Array.toList_replicate, List.countP_replicate]
    simp
  obtain ⟨part, middle, built, leads, known⟩ := Builder.exists_build valuation start inRange
  have fewer := leads.work_le
  obtain ⟨after, filled, sound, nothing, keeps⟩ :=
    Builder.exists_fillAll valuation leads.sound
      (show [].length + _ < 2 * middle.nodes.size + 2 by
        rw [leads.sound.same, List.length_nil]; omega)
  refine ⟨after.parts, ?_, ⟨sound.size, fun number node part standing has => ?_⟩,
    keeps root ⟨part, known⟩⟩
  · have whole : (Builder.buildWhole root).run ⟨nodes, Array.replicate nodes.size none, []⟩ =
        .ok ((), after) := by
      rw [Builder.buildWhole, run_bind_of_eq built, run_bind_of_eq (StateT.run_get middle)]
      exact filled
    rw [Part.ofNodes, whole]
    rfl
  · have told := sound.known number node part standing has
    rw [nothing] at told
    generalize node.content = content at told
    cases told with
    | filled met => exact ⟨rfl, met⟩
    | openList waits => exact absurd waits List.not_mem_nil
    | openMap waits => exact absurd waits List.not_mem_nil

/-! ### Keys without values -/

theorem run_bind_of_error {σ ε α β : Type} {first : StateT σ (Except ε) α}
    {next : α → StateT σ (Except ε) β} {before : σ} {fault : ε}
    (ran : first.run before = .error fault) : (first >>= next).run before = .error fault := by
  rw [StateT.run_bind, ran]
  rfl

namespace Builder

variable {building : Building} {tag : Tag} {text : CodeText} {fault : LoadFault}

theorem build_eq_error (unmet : building.parts[number]?.join = none)
    (there : building.nodes[number]? = some ⟨tag, .scalar text⟩) (isScalar : isScalarTag tag = true)
    (notFloat : tag ≠ .float) (noValue : Scalar.valueOf tag text = .error fault) :
    (build number).run building = .error fault := by
  have isNone : Part.begun? tag = none := by
    cases tag <;> first | rfl | cases isScalar
  have unknown : (part? number).run building = .ok (none, building) := by
    rw [part?, run_bind_of_eq (StateT.run_get building), unmet]
    rfl
  have leaf := run_leafOf there notFloat
  rw [noValue] at leaf
  rw [build, run_bind_of_eq unknown]
  simp only []
  rw [run_bind_of_eq (run_node_eq_ok there), isNone]
  simp only []
  rw [if_pos isScalar]
  exact run_bind_of_error leaf

variable {entries : List (Nat × Nat)} {first : Nat}

theorem buildEntries_eq_error {root : Nat}
    (there : building.nodes[root]? = some ⟨.mapping, .mapping ((number, first) :: entries)⟩)
    (keys : ∀ entry ∈ (number, first) :: entries, ∃ tag text,
      building.nodes[entry.1]? = some ⟨tag, .scalar text⟩ ∧ isScalarTag tag = true)
    (failed : (build number).run building = .error fault) :
    (buildEntries root).run building = .error fault := by
  have node := run_node_eq_ok there
  rw [buildEntries, run_bind_of_eq node]
  simp only []
  rw [run_bind_of_eq (flatten_eq_ok there keys), run_bind_of_eq node]
  simp only []
  refine run_bind_of_error ?_
  rw [List.mapM_cons]
  exact run_bind_of_error (run_bind_of_error failed)

end Builder

/-- The first key of a mapping has no value, and so the mapping has none. -/
theorem Part.ofNodes_eq_error {root first : Nat} {entries : List (Nat × Nat)} {tag : Tag}
    {text : CodeText} {fault : LoadFault}
    (there : nodes[root]? = some ⟨.mapping, .mapping ((number, first) :: entries)⟩)
    (keys : ∀ entry ∈ (number, first) :: entries, ∃ tag text,
      nodes[entry.1]? = some ⟨tag, .scalar text⟩ ∧ Builder.isScalarTag tag = true)
    (ofKey : nodes[number]? = some ⟨tag, .scalar text⟩) (notFloat : tag ≠ .float)
    (noValue : Scalar.valueOf tag text = .error fault) :
    Part.ofNodes nodes root = .error fault := by
  let start : Building := ⟨nodes, Array.replicate nodes.size none, []⟩
  have inRange : root < nodes.size := (Array.getElem?_eq_some_iff.mp there).1
  have apart : root ≠ number := fun same => by
    rw [same, ofKey] at there
    cases there
  have isScalar : Builder.isScalarTag tag = true := by
    obtain ⟨_, _, standing, isScalar⟩ := keys _ List.mem_cons_self
    cases standing.symm.trans ofKey
    exact isScalar
  have unmet (other : Nat) : start.parts[other]?.join = none := by
    rw [Array.getElem?_replicate]
    split <;> rfl
  have begun : (Builder.build root).run start =
      .ok (.map [], { start.put root (.map []) with begun := [root] }) := by
    have unknown : (Builder.part? root).run start = .ok (none, start) := by
      rw [Builder.part?, run_bind_of_eq (StateT.run_get start), unmet]
      rfl
    rw [Builder.build, run_bind_of_eq unknown]
    simp only []
    rw [run_bind_of_eq (Builder.run_node_eq_ok there)]
    rfl
  -- the key is built when the mapping, the first collection that was begun, is filled
  let filling : Building := { start.put root (.map []) with begun := [] }
  have failed : (Builder.build number).run filling = .error fault := by
    refine Builder.build_eq_error ?_ ofKey isScalar notFloat noValue
    exact (congrArg Option.join (Building.put_of_ne apart)).trans (unmet number)
  have fill : (Builder.fill root).run filling = .error fault := by
    have known : (Builder.part? root).run filling = .ok (some (.map []), filling) :=
      Builder.run_part?_eq_ok (Building.put_self (Array.size_replicate.symm ▸ inRange))
    rw [Builder.fill, run_bind_of_eq known]
    exact run_bind_of_error (Builder.buildEntries_eq_error there keys failed)
  have whole : (Builder.buildWhole root).run start = .error fault := by
    rw [Builder.buildWhole, run_bind_of_eq begun, run_bind_of_eq (StateT.run_get _), Builder.fillAll,
      run_bind_of_eq (StateT.run_get _)]
    refine (run_bind_of_eq (StateT.run_set _ _)).trans ?_
    exact run_bind_of_error fill
  rw [Part.ofNodes, whole]
  rfl

end EntityScaffold.Yaml
