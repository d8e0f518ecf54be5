import EntityScaffold.Proofs.Text.PlainText
import EntityScaffold.RenderContext
import EntityScaffold.Skeleton.Render

/-
Kinds of data, and a check of skeletons against them. When the check accepts a skeleton for names of
certain kinds, the skeleton is rendered whatever data of those kinds the names stand for, and the
text is plain: no name is missing, nothing is asked of data of the wrong kind, and the skeletons that
are included are accepted as well.
-/

namespace EntityScaffold

/-- A computation gives a value, and the value has a property. -/
def Yields {ε α : Type} (computation : Except ε α) (property : α → Prop) : Prop :=
  ∃ value, computation = .ok value ∧ property value

namespace Yields

variable {ε α β : Type} {property other : α → Prop}

theorem of_ok {value : α} (holds : property value) : Yields (.ok value : Except ε α) property :=
  ⟨value, rfl, holds⟩

theorem bind {computation : Except ε α} {next : α → Except ε β} {result : β → Prop}
    (first : Yields computation property) (later : ∀ value, property value → Yields (next value) result) :
    Yields (computation >>= next) result := by
  obtain ⟨value, given, holds⟩ := first
  rw [given]
  exact later value holds

theorem map {computation : Except ε α} {change : α → β} {result : β → Prop}
    (first : Yields computation property) (later : ∀ value, property value → result (change value)) :
    Yields (computation.map change) result := by
  obtain ⟨value, given, holds⟩ := first
  rw [given]
  exact ⟨change value, rfl, later value holds⟩

theorem mono {computation : Except ε α} (first : Yields computation property)
    (weaker : ∀ value, property value → other value) : Yields computation other := by
  obtain ⟨value, given, holds⟩ := first
  exact ⟨value, given, weaker value holds⟩

end Yields

namespace Skeleton

/-- What a skeleton relies on about a datum. -/
inductive Kind where
  | text
  | action
  | word
  | actions
  | table
  | flag
  | any
  deriving DecidableEq, Repr

/-- The kinds of names, the latest first. -/
abbrev Kinds := List (String × Kind)

/-- Is a datum of a kind? A text is plain, an action is the text of one, a word is any text, and a
table has words. -/
def Datum.HasKind (datum : Datum) : Kind → Prop
  | .text => ∃ value : CodeText, datum = .text value ∧ value.IsPlain
  | .action => ∃ action : Action, datum = .string action.text
  | .word => ∃ value : CodeText, datum = .text value
  | .actions => ∃ actions, datum = Datum.ofActions actions
  | .table => ∃ entries, datum = Datum.ofTexts entries
  | .flag => ∃ value, datum = .flag value
  | .any => True

namespace Kind

def isText : Kind → Bool
  | .text | .action => true
  | _ => false

def isWord : Kind → Bool
  | .text | .action | .word => true
  | _ => false

def item? : Kind → Option Kind
  | .actions => some .action
  | .table => some .text
  | _ => none

end Kind

namespace Datum

variable {datum : Datum} {kind : Kind}

theorem hasKind_ofString (value : String) : (Datum.text (.ofString value)).HasKind .text :=
  ⟨CodeText.ofString value, rfl, CodeText.isPlain_ofString value⟩

theorem hasKind_string (value : String) : (Datum.string value).HasKind .text :=
  hasKind_ofString value

theorem hasKind_ofActions (actions : List Action) : (Datum.ofActions actions).HasKind .actions :=
  ⟨actions, rfl⟩

theorem hasKind_ofTexts (entries : List (String × CodeText)) : (Datum.ofTexts entries).HasKind .table :=
  ⟨entries, rfl⟩

theorem hasKind_any (datum : Datum) : datum.HasKind .any := trivial

theorem HasKind.isText (has : datum.HasKind kind) (isText : kind.isText = true) :
    ∃ value : CodeText, datum = .text value ∧ value.IsPlain := by
  cases kind with
  | text => exact has
  | action =>
      obtain ⟨action, same⟩ := has
      subst same
      exact hasKind_string action.text
  | word | actions | table | flag | any => cases isText

theorem HasKind.isWord (has : datum.HasKind kind) (isWord : kind.isWord = true) :
    datum.HasKind .word := by
  cases kind with
  | text | action =>
      obtain ⟨value, same, _⟩ := has.isText rfl
      exact ⟨value, same⟩
  | word => exact has
  | actions | table | flag | any => cases isWord

theorem HasKind.shown (has : datum.HasKind kind) (isText : kind.isText = true) :
    Yields datum.shown CodeText.IsPlain := by
  obtain ⟨value, same, plain⟩ := has.isText isText
  subst same
  exact ⟨value, rfl, plain⟩

theorem HasKind.counts (has : datum.HasKind kind) (known : kind ≠ .any) :
    Yields datum.counts fun _ => True := by
  cases kind with
  | text | action | word =>
      obtain ⟨value, same⟩ := has.isWord rfl
      subst same
      exact ⟨_, rfl, trivial⟩
  | actions | table | flag =>
      obtain ⟨_, same⟩ := has
      subst same
      exact ⟨_, rfl, trivial⟩
  | any => exact absurd rfl known

theorem HasKind.items {itemKind : Kind} (has : datum.HasKind kind)
    (isItem : kind.item? = some itemKind) :
    Yields datum.items fun items => ∀ item ∈ items, item.HasKind itemKind := by
  cases kind with
  | actions =>
      cases isItem
      obtain ⟨actions, same⟩ := has
      subst same
      refine ⟨_, rfl, fun item member => ?_⟩
      obtain ⟨action, _, isItem⟩ := List.mem_map.mp member
      exact ⟨action, isItem.symm⟩
  | table =>
      cases isItem
      obtain ⟨entries, same⟩ := has
      subst same
      refine ⟨_, rfl, fun item member => ?_⟩
      rw [List.map_map] at member
      obtain ⟨entry, _, isItem⟩ := List.mem_map.mp member
      subst isItem
      exact hasKind_string entry.1
  | text | action | word | flag | any => cases isItem

theorem HasKind.isText_yields (has : datum.HasKind .word) (wanted : String) :
    Yields (datum.isText wanted) fun _ => True := by
  obtain ⟨value, same⟩ := has
  subst same
  exact ⟨_, rfl, trivial⟩

theorem HasKind.anyText_yields (has : datum.HasKind .word) (texts : List String) :
    Yields (texts.anyM fun text => datum.isText text) fun _ => True := by
  induction texts with
  | nil => exact ⟨_, rfl, trivial⟩
  | cons text rest ih =>
      refine Yields.bind (has.isText_yields text) fun found _ => ?_
      cases found with
      | true => exact ⟨_, rfl, trivial⟩
      | false => exact ih

theorem anyIsText_yields (wanted : String) {items : List Datum}
    (texts : ∀ item ∈ items, item.HasKind .action) :
    Yields (anyIsText wanted items) fun _ => True := by
  induction items with
  | nil => exact ⟨_, rfl, trivial⟩
  | cons item rest ih =>
      obtain ⟨first, others⟩ := List.forall_mem_cons.mp texts
      refine Yields.bind ((first.isWord rfl).isText_yields wanted) fun found _ => ?_
      cases found with
      | true => exact ⟨_, rfl, trivial⟩
      | false => exact ih others

theorem HasKind.containsText (has : datum.HasKind .actions) (wanted : String) :
    Yields (datum.containsText wanted) fun _ => True := by
  obtain ⟨actions, same⟩ := has
  subst same
  refine anyIsText_yields wanted fun item member => ?_
  obtain ⟨action, _, isItem⟩ := List.mem_map.mp member
  exact ⟨action, isItem.symm⟩

end Datum

end Skeleton

end EntityScaffold
