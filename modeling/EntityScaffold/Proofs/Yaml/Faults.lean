import EntityScaffold.Proofs.Attempt
import EntityScaffold.Yaml.Document

/-
Why YAML data has no value. Where the rules of YAML are kept, building fails at a scalar of the document
that has no value of the type which is asked of it, or where a moment is asked of a collection. The
scalars are those of the nodes that were read: merging and building only take some away.
-/

namespace EntityScaffold.Yaml

/-- There is a scalar of a spelling among some nodes. -/
def HasScalar (nodes : Array Node) (spelling : CodeText) : Prop :=
  ∃ node ∈ nodes, node.content = .scalar spelling

/-! ### Merging -/

namespace NodeAction

variable {α β : Type} {action : NodeAction α} {next : α → NodeAction β}

/-- An action brings no scalars in. -/
def BringsNone (action : NodeAction α) : Prop :=
  ∀ nodes value after, action.run nodes = some (value, after) →
    ∀ spelling, HasScalar after spelling → HasScalar nodes spelling

theorem bringsNone_pure (value : α) : BringsNone (pure value) := by
  intro nodes result after ran spelling has
  cases ran
  exact has

theorem bringsNone_failure : BringsNone (failure : NodeAction α) := by
  intro nodes result after ran
  cases ran

theorem BringsNone.bind (first : BringsNone action) (later : ∀ value, BringsNone (next value)) :
    BringsNone (action >>= next) := by
  intro nodes result after ran spelling has
  rw [StateT.run_bind] at ran
  obtain ⟨⟨value, middle⟩, acted, ran⟩ := Option.bind_eq_some_iff.mp ran
  exact first nodes value middle acted spelling (later value middle result after ran spelling has)

theorem bringsNone_forM {items : List α} {act : α → NodeAction PUnit}
    (each : ∀ item, BringsNone (act item)) : BringsNone (items.forM act) := by
  induction items with
  | nil => exact bringsNone_pure _
  | cons item rest ih =>
      change BringsNone (act item >>= fun _ => rest.forM act)
      exact (each item).bind fun _ => ih

theorem bringsNone_mapM {items : List α} {act : α → NodeAction β}
    (each : ∀ item, BringsNone (act item)) : BringsNone (items.mapM act) := by
  induction items with
  | nil =>
      rw [List.mapM_nil]
      exact bringsNone_pure _
  | cons item rest ih =>
      rw [List.mapM_cons]
      exact (each item).bind fun _ => ih.bind fun _ => bringsNone_pure _

theorem eq_of_run_node {nodes after : Array Node} {number : Nat} {found : Node}
    (ran : (node number).run nodes = some (found, after)) :
    nodes[number]? = some found ∧ after = nodes := by
  unfold node at ran
  rw [StateT.run_bind] at ran
  obtain ⟨⟨all, middle⟩, got, ran⟩ := Option.bind_eq_some_iff.mp ran
  cases got
  dsimp only at ran
  split at ran
  · next standing =>
    cases ran
    exact ⟨standing, rfl⟩
  · cases ran

theorem bringsNone_node (number : Nat) : BringsNone (node number) := by
  intro nodes found after ran spelling has
  obtain ⟨_, rfl⟩ := eq_of_run_node ran
  exact has

theorem bringsNone_tagOf (number : Nat) : BringsNone (tagOf number) :=
  (bringsNone_node number).bind fun _ => bringsNone_pure _

theorem bringsNone_entries (number : Nat) : BringsNone (entries number) := by
  refine (bringsNone_node number).bind fun found => ?_
  split
  · exact bringsNone_pure _
  · exact bringsNone_failure

/-- A node that takes another one's place. -/
theorem hasScalar_of_setIfInBounds {nodes : Array Node} {number : Nat} {placed : Node}
    {spelling : CodeText} (has : HasScalar (nodes.setIfInBounds number placed) spelling) :
    HasScalar nodes spelling ∨ placed.content = .scalar spelling := by
  obtain ⟨found, member, isScalar⟩ := has
  rcases Array.mem_or_eq_of_mem_setIfInBounds member with standing | same
  · exact Or.inl ⟨found, standing, isScalar⟩
  · exact Or.inr (same ▸ isScalar)

theorem bringsNone_setEntries (number : Nat) (changed : List (Nat × Nat)) :
    BringsNone (setEntries number changed) := by
  refine (bringsNone_node number).bind fun found => ?_
  intro nodes value after ran spelling has
  cases ran
  rcases hasScalar_of_setIfInBounds has with standing | impossible
  · exact standing
  · cases impossible

theorem bringsNone_settleKey (number : Nat) : BringsNone (settleKey number) := by
  intro nodes value after ran spelling has
  unfold settleKey at ran
  rw [StateT.run_bind] at ran
  obtain ⟨⟨key, middle⟩, found, settled⟩ := Option.bind_eq_some_iff.mp ran
  obtain ⟨there, rfl⟩ := eq_of_run_node found
  dsimp only at settled
  split at settled
  · cases settled
    rcases hasScalar_of_setIfInBounds has with standing | isScalar
    · exact standing
    · exact ⟨key, Array.mem_of_getElem? there, isScalar⟩
  · cases settled
    exact has

theorem bringsNone_takeMerge? (own : List (Nat × Nat)) : BringsNone (takeMerge? own) := by
  induction own with
  | nil => exact bringsNone_pure _
  | cons entry rest ih =>
      refine (bringsNone_tagOf entry.1).bind fun tag => ?_
      dsimp only
      split
      · exact bringsNone_pure _
      · exact ih.bind fun _ => bringsNone_pure _

theorem bringsNone_flattenWith (fuel : Nat) (inherited : List (Nat × Nat)) (number : Nat) :
    BringsNone (flattenWith fuel inherited number) := by
  induction fuel generalizing inherited number with
  | zero =>
      rw [flattenWith]
      exact bringsNone_failure
  | succ fuel ih =>
      -- what a merge key contributes is flattened with less fuel, in a mapping or in a list of them
      have flattened (part : Nat) : BringsNone (flattenWith.flattened fuel part) := by
        rw [flattenWith.flattened]
        exact (ih [] part).bind fun _ => bringsNone_entries part
      have contribution (value : Nat) : BringsNone (flattenWith.contribution fuel value) := by
        rw [flattenWith.contribution]
        refine (bringsNone_node value).bind fun found => ?_
        split
        · exact flattened value
        · exact (bringsNone_mapM flattened).bind fun _ => bringsNone_pure _
        · exact bringsNone_failure
      rw [flattenWith]
      refine (bringsNone_entries number).bind fun own => ?_
      refine (bringsNone_takeMerge? own).bind fun merge => ?_
      split
      · refine (bringsNone_entries number).bind fun own => ?_
        refine (bringsNone_forM fun (entry : Nat × Nat) => ?_).bind fun _ => ?_
        · exact bringsNone_settleKey entry.1
        · exact bringsNone_setEntries number _
      · refine (bringsNone_setEntries number _).bind fun _ => ?_
        exact (contribution _).bind fun _ => ih _ number

theorem bringsNone_flatten (number : Nat) : BringsNone (flatten number) := by
  intro nodes value after ran
  exact bringsNone_flattenWith _ _ _ nodes value after ran

end NodeAction

/-! ### Building -/

/-- Building fails against the rules of YAML, at a moment that is asked of a collection, or at a scalar
that has no value of a type. -/
inductive IsBlamed (known : CodeText → Prop) : LoadFault → Prop where
  | text (fault : Fault) : IsBlamed known (.text fault)
  | timestampOfCollection : IsBlamed known .timestampOfCollection
  | scalar {tag : Tag} {spelling : CodeText} {fault : LoadFault} (belongs : known spelling)
      (noValue : Scalar.valueOf tag spelling = .error fault) : IsBlamed known fault

namespace Builder

variable {α β : Type} {known : CodeText → Prop} {good : α → Prop} {better : β → Prop}

/-- Building goes on with a good result and no other scalars than those known, or it fails and a scalar
that is known is to blame. -/
def Ends (known : CodeText → Prop) (good : α → Prop) : Except LoadFault (α × Building) → Prop
  | .ok (value, next) => good value ∧ ∀ spelling, HasScalar next.nodes spelling → known spelling
  | .error fault => IsBlamed known fault

def Keeps (known : CodeText → Prop) (good : α → Prop) (action : Builder α) : Prop :=
  ∀ building : Building, (∀ spelling, HasScalar building.nodes spelling → known spelling) →
    Ends known good (action.run building)

theorem keeps_pure {value : α} (isGood : good value) : Keeps known good (pure value) :=
  fun _ within => ⟨isGood, within⟩

theorem keeps_throw {fault : LoadFault} (blamed : IsBlamed known fault) :
    Keeps known good (throw fault) := fun _ _ => blamed

theorem keeps_throw_bind {fault : LoadFault} {next : α → Builder β} (blamed : IsBlamed known fault) :
    Keeps known better (throw fault >>= next) := fun _ _ => blamed

theorem Keeps.bind {action : Builder α} {next : α → Builder β} (first : Keeps known good action)
    (later : ∀ value, good value → Keeps known better (next value)) :
    Keeps known better (action >>= next) := by
  intro building within
  have ends := first building within
  rw [StateT.run_bind]
  revert ends
  cases action.run building with
  | error fault => exact id
  | ok result => exact fun ends => later result.1 ends.1 result.2 ends.2

theorem keeps_get : Keeps known
    (fun building => ∀ spelling, HasScalar building.nodes spelling → known spelling) get :=
  fun _ within => ⟨within, within⟩

theorem keeps_modify {change : Building → Building}
    (same : ∀ building, (change building).nodes = building.nodes) :
    Keeps known (fun _ => True) (modify change) := fun building within =>
  ⟨trivial, (same building).symm ▸ within⟩

theorem keeps_set {building : Building}
    (within : ∀ spelling, HasScalar building.nodes spelling → known spelling) :
    Keeps known (fun _ => True) (set building) := fun _ _ => ⟨trivial, within⟩

/-- Lists are worked through item by item. -/
theorem keeps_mapM {items : List α} {act : α → Builder β}
    (each : ∀ item, Keeps known (fun _ => True) (act item)) :
    Keeps known (fun _ => True) (items.mapM act) := by
  induction items with
  | nil =>
      rw [List.mapM_nil]
      exact keeps_pure trivial
  | cons item rest ih =>
      rw [List.mapM_cons]
      exact (each item).bind fun _ _ => ih.bind fun _ _ => keeps_pure trivial

theorem keeps_forM {items : List α} {act : α → Builder PUnit}
    (each : ∀ item, Keeps known (fun _ => True) (act item)) :
    Keeps known (fun _ => True) (items.forM act) := by
  induction items with
  | nil => exact keeps_pure trivial
  | cons item rest ih =>
      change Keeps known _ (act item >>= fun _ => rest.forM act)
      exact (each item).bind fun _ _ => ih

theorem keeps_findM? {items : List α} {act : α → Builder Bool}
    (each : ∀ item, Keeps known (fun _ => True) (act item)) :
    Keeps known (fun _ => True) (items.findM? act) := by
  induction items with
  | nil => exact keeps_pure trivial
  | cons item rest ih =>
      rw [List.findM?]
      refine (each item).bind fun found _ => ?_
      cases found with
      | true => exact keeps_pure trivial
      | false => exact ih

theorem keeps_node (number : Nat) : Keeps known
    (fun found => ∀ spelling, found.content = .scalar spelling → known spelling) (node number) := by
  refine keeps_get.bind fun building within => ?_
  split
  · next found standing =>
    exact keeps_pure fun spelling isScalar =>
      within spelling ⟨found, Array.mem_of_getElem? standing, isScalar⟩
  · exact keeps_throw (.text .malformed)

theorem keeps_part? (number : Nat) : Keeps known (fun _ => True) (part? number) :=
  keeps_get.bind fun _ _ => keeps_pure trivial

theorem keeps_setPart (number : Nat) (part : Part) :
    Keeps known (fun _ => True) (setPart number part) := keeps_modify fun _ => rfl

theorem keeps_flatten (number : Nat) : Keeps known (fun _ => True) (flatten number) := by
  refine keeps_get.bind fun building within => ?_
  split
  · next nodes ran =>
    -- merging replaces the nodes and nothing else
    intro _ _
    exact ⟨trivial, fun spelling has =>
      within spelling (NodeAction.bringsNone_flatten number _ _ _ ran spelling has)⟩
  · exact keeps_throw (.text .malformed)

theorem keeps_scalarText (fuel number : Nat) :
    Keeps known (fun spelling => known spelling) (scalarText fuel number) := by
  induction fuel generalizing number with
  | zero => exact keeps_throw (.text .tooDeep)
  | succ fuel ih =>
      refine (keeps_node number).bind fun found scalars => ?_
      split
      · next spelling isScalar => exact keeps_pure (scalars spelling isScalar)
      · exact keeps_throw (.text .malformed)
      · next entries _ =>
        refine (keeps_findM? fun entry => ?_).bind fun _ _ => ?_
        · exact (keeps_node entry.1).bind fun _ _ => keeps_pure trivial
        · split
          · exact ih _
          · exact keeps_throw (.text .malformed)

theorem keeps_valueOf {spelling : CodeText} (tag : Tag) (belongs : known spelling) :
    Keeps known (fun _ => True) (liftM (Scalar.valueOf tag spelling) : Builder Value) := by
  intro building within
  cases valued : Scalar.valueOf tag spelling with
  | ok value => exact ⟨trivial, within⟩
  | error fault => exact .scalar belongs valued

theorem keeps_leafOf (number : Nat) (tag : Tag) :
    Keeps known (fun _ => True) (leafOf number tag) := by
  refine keeps_get.bind fun building _ => ?_
  refine (keeps_scalarText _ number).bind fun spelling belongs => ?_
  refine (keeps_node number).bind fun found _ => ?_
  extract_lets isScalar continued
  clear_value isScalar
  split
  · exact keeps_throw_bind .timestampOfCollection
  · refine (keeps_valueOf tag belongs).bind fun value _ => ?_
    exact keeps_pure trivial

theorem keeps_build (number : Nat) : Keeps known (fun _ => True) (build number) := by
  refine (keeps_part? number).bind fun part _ => ?_
  split
  · exact keeps_pure trivial
  · refine (keeps_node number).bind fun found _ => ?_
    dsimp only
    split
    · next part _ =>
      refine (keeps_setPart number part).bind fun _ _ => ?_
      refine Keeps.bind (keeps_modify fun _ => rfl) fun _ _ => ?_
      exact keeps_pure trivial
    · split
      · refine (keeps_leafOf number _).bind fun part _ => ?_
        exact (keeps_setPart number part).bind fun _ _ => keeps_pure trivial
      · exact keeps_throw (.text .malformed)

theorem keeps_buildEntries (number : Nat) :
    Keeps known (fun _ => True) (buildEntries number) := by
  refine (keeps_node number).bind fun found _ => ?_
  split
  · refine (keeps_flatten number).bind fun _ _ => ?_
    refine (keeps_node number).bind fun flat _ => ?_
    split
    · refine (keeps_mapM fun entry => ?_).bind fun built _ => keeps_pure trivial
      refine (keeps_build entry.1).bind fun key _ => ?_
      dsimp only
      split
      · exact keeps_throw_bind (.text .malformed)
      · exact (keeps_build entry.2).bind fun _ _ => keeps_pure trivial
    · exact keeps_throw (.text .malformed)
  · exact keeps_throw (.text .malformed)

theorem keeps_buildPairs (number : Nat) : Keeps known (fun _ => True) (buildPairs number) := by
  refine (keeps_node number).bind fun found _ => ?_
  split
  · refine keeps_mapM fun item => ?_
    refine (keeps_node item).bind fun pair _ => ?_
    split
    · next key value _ =>
      refine (keeps_build key).bind fun _ _ => ?_
      exact (keeps_build value).bind fun _ _ => keeps_pure trivial
    · exact keeps_throw (.text .malformed)
  · exact keeps_throw (.text .malformed)

theorem keeps_fill (number : Nat) : Keeps known (fun _ => True) (fill number) := by
  refine (keeps_part? number).bind fun part _ => ?_
  split
  · refine (keeps_node number).bind fun found _ => ?_
    split
    · next items _ =>
      refine (keeps_forM fun item => ?_).bind fun _ _ => keeps_setPart number _
      exact (keeps_build item).bind fun _ _ => keeps_pure trivial
    · exact keeps_throw (.text .malformed)
  · exact (keeps_buildPairs number).bind fun _ _ => keeps_setPart number _
  · exact (keeps_buildEntries number).bind fun _ _ => keeps_setPart number _
  · exact (keeps_buildEntries number).bind fun _ _ => keeps_setPart number _
  · exact keeps_pure trivial

theorem keeps_fillAll (fuel : Nat) (waiting : List Nat) :
    Keeps known (fun _ => True) (fillAll fuel waiting) := by
  induction fuel generalizing waiting with
  | zero =>
      rw [fillAll]
      exact keeps_throw (.text .malformed)
  | succ fuel ih =>
      cases waiting with
      | cons number rest =>
          rw [fillAll]
          exact (keeps_fill number).bind fun _ _ => ih rest
      | nil =>
          rw [fillAll]
          refine keeps_get.bind fun building within => ?_
          split
          · exact keeps_pure trivial
          · refine Keeps.bind (keeps_set ?_) fun _ _ => ih _
            exact within

theorem keeps_buildWhole (number : Nat) : Keeps known (fun _ => True) (buildWhole number) := by
  refine (keeps_build number).bind fun _ _ => ?_
  exact keeps_get.bind fun _ _ => keeps_fillAll _ []

end Builder

/-- The values of nodes are built, or building fails with one of their scalars to blame. -/
theorem Part.isBlamed_of_ofNodes_eq_error {nodes : Array Node} {root : Nat} {fault : LoadFault}
    (failed : Part.ofNodes nodes root = .error fault) : IsBlamed (HasScalar nodes) fault := by
  have ends := Builder.keeps_buildWhole root
    ⟨nodes, Array.replicate nodes.size none, []⟩ fun _ has => has
  unfold Part.ofNodes at failed
  rcases bind_eq_error_iff.mp failed with built | ⟨_, _, impossible⟩
  · rw [built] at ends
    exact ends
  · cases impossible

/-- There is a scalar of a spelling in a text. -/
def IsScalarIn (source : List Char) (spelling : CodeText) : Prop :=
  ∃ root nodes, Node.ofTokens (Token.scan source) = .ok (root, nodes) ∧ HasScalar nodes spelling

/-- When a text is not loaded, the text itself is to blame, or one of its scalars. -/
theorem isBlamed_of_load_eq_error {source : List Char} {fault : LoadFault}
    (failed : load source = .error fault) : IsBlamed (IsScalarIn source) fault := by
  unfold load at failed
  rcases bind_eq_error_iff.mp failed with unread | ⟨⟨root, nodes⟩, read, failed⟩
  · obtain ⟨cause, _, rfl⟩ := mapError_eq_error_iff.mp unread
    exact .text cause
  · have read := mapError_eq_ok_iff.mp read
    cases root with
    | none => cases failed
    | some root =>
        rcases bind_eq_error_iff.mp failed with unbuilt | ⟨_, _, impossible⟩
        · cases Part.isBlamed_of_ofNodes_eq_error unbuilt with
          | text cause => exact .text cause
          | timestampOfCollection => exact .timestampOfCollection
          | scalar belongs noValue => exact .scalar ⟨some root, nodes, read, belongs⟩ noValue
        · cases impossible

end EntityScaffold.Yaml
