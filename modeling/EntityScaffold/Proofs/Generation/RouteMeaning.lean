import EntityScaffold.Proofs.Generated.RoutingFile
import EntityScaffold.Proofs.Yaml.RouteValues
import EntityScaffold.Proofs.Yaml.WordSpelling

/-
What the YAML routing file of a plan means. Paths, controllers and methods are read as they are
written. The names of the routes are written without quotes, and that of the index route is the bare
prefix: it may be spelled like a truth value or a number, or be too long for a key, or be missing.
-/

namespace EntityScaffold

open Yaml (RouteLines isWordChar isInLine isPlainChar isQuotedChar IsPlainWord typeMarks)
open Text (replaceChar)

/-- The names of a request are words, with points between them in the entity and slashes in the
prefix. -/
structure GenerationRequest.HasWordNames (request : GenerationRequest) : Prop where
  bundle : ∀ char ∈ request.bundle.name.toList, isWordChar char = true
  entity : ∀ char ∈ request.entity.toList, char = '.' ∨ isWordChar char = true
  routePrefix : ∀ char ∈ request.routePrefix.toList, char = '/' ∨ isWordChar char = true

theorem Text.forall_mem_replaceChar {old new : Char} {chars : List Char} {holds : Char → Prop}
    (placed : holds new) (known : ∀ char ∈ chars, char = old ∨ holds char) :
    ∀ char ∈ replaceChar old new chars, holds char := by
  intro char member
  obtain ⟨origin, present, same⟩ := List.mem_map.mp member
  rw [← same]
  split
  · exact placed
  · next kept => exact (known origin present).resolve_left kept

namespace Yaml.RouteLines

variable {plan : GenerationPlan} {action : Action}

theorem name_ofAction (plan : GenerationPlan) (action : Action) :
    (ofAction plan action).name = plan.request.routeNamePrefix.toList ++ action.nameEnd :=
  Route.name_toList _ _

section Words

variable (names : plan.request.HasWordNames)

include names

theorem isWordChar_routeNamePrefix :
    ∀ char ∈ plan.request.routeNamePrefix.toList, isWordChar char = true := by
  change ∀ char ∈ (Route.namePrefix plan.request.routePrefix).toList, _
  rw [Route.namePrefix, String.toList_ofList]
  exact Text.forall_mem_replaceChar rfl names.routePrefix

theorem isWordChar_name (action : Action) :
    ∀ char ∈ (ofAction plan action).name, isWordChar char = true := by
  intro char member
  rw [name_ofAction] at member
  rcases List.mem_append.mp member with inPrefix | inEnd
  · exact isWordChar_routeNamePrefix names char inPrefix
  · have known : ∀ char ∈ action.nameEnd, isWordChar char = true := by
      cases action <;> exact Text.forall_mem_of_all (by decide)
    exact known char inEnd

/-- The characters of a path: those of words, slashes, and the braces around the identifier. -/
theorem mem_path (action : Action) :
    ∀ char ∈ (ofAction plan action).path, char ∈ ['/', '\x7b', '\x7d'] ∨ isWordChar char = true := by
  have pathEnd : ∀ char ∈ action.pathEnd, char ∈ ['/', '\x7b', '\x7d'] ∨ isWordChar char = true := by
    cases action <;> exact Text.forall_mem_of_all (by decide)
  change ∀ char ∈ (Route.base plan.request.routePrefix).toList ++ action.pathEnd, _
  refine List.forall_mem_append.mpr ⟨fun char member => ?_, pathEnd⟩
  have slash : '/' ∈ ['/', '\x7b', '\x7d'] := List.mem_cons_self
  rcases Generated.Detail.mem_of_mem_base member with same | inPrefix
  · exact Or.inl (same ▸ slash)
  · exact (names.routePrefix char inPrefix).imp_left fun (same : char = '/') => same ▸ slash

/-- The characters of a controller: those of words, and what stands between them. -/
theorem mem_controller (action : Action) :
    ∀ char ∈ (ofAction plan action).controller, char ∈ [':', '/'] ∨ isWordChar char = true := by
  have word : ∀ char ∈ action.letters, isWordChar char = true := by
    cases action <;> exact Text.forall_mem_of_all (by decide)
  have path : ∀ char ∈ (EntityName.asPath plan.request.entity).toList,
      char ∈ [':', '/'] ∨ isWordChar char = true := by
    rw [EntityName.asPath_toList]
    exact Text.forall_mem_replaceChar (Or.inl (by decide)) fun char member =>
      (names.entity char member).imp_right Or.inr
  change ∀ char ∈ plan.request.bundle.name.toList ++
    ':' :: (EntityName.asPath plan.request.entity).toList ++ ':' :: action.letters, _
  rw [List.forall_mem_append, List.forall_mem_append, List.forall_mem_cons, List.forall_mem_cons]
  have colon : ':' ∈ [':', '/'] ∨ isWordChar ':' = true := Or.inl List.mem_cons_self
  exact ⟨⟨fun char member => Or.inr (names.bundle char member), colon, path⟩, colon,
    fun char member => Or.inr (word char member)⟩

omit names in
theorem exists_path_eq (plan : GenerationPlan) (action : Action) :
    ∃ more, (ofAction plan action).path = '/' :: more := by
  change ∃ more, (Route.base plan.request.routePrefix).toList ++ action.pathEnd = '/' :: more
  unfold Route.base
  dsimp only
  split
  · have begins : ∃ more, action.pathEnd = '/' :: more := by
      cases action <;> exact ⟨_, rfl⟩
    exact begins
  · rw [String.toList_ofList]
    exact ⟨_, rfl⟩

theorem isReadable_ofAction (action : Action) : (ofAction plan action).IsReadable where
  path := by
    obtain ⟨more, begins⟩ := exists_path_eq plan action
    refine ⟨⟨'/', more, begins, rfl, by decide⟩, fun char member => ?_⟩
    rcases mem_path names action char member with mark | word
    · have known : ∀ char ∈ ['/', '\x7b', '\x7d'], isPlainChar false char = true :=
        Text.forall_mem_of_all (by decide)
      exact known char mark
    · exact Yaml.isPlainChar_of_isWordChar word false
  inLine := by
    intro char member
    rcases mem_controller names action char member with mark | word
    · have known : ∀ char ∈ [':', '/'], isInLine char = true :=
        Text.forall_mem_of_all (by decide)
      exact known char mark
    · exact Yaml.isInLine_of_isWordChar word
  quoted := by
    intro char member
    rcases mem_controller names action char member with mark | word
    · have known : ∀ char ∈ [':', '/'], isQuotedChar char = true :=
        Text.forall_mem_of_all (by decide)
      exact known char mark
    · exact Yaml.isQuotedChar_of_isWordChar word
  methods := by cases action <;> exact List.cons_ne_nil _ _
  words := by
    have word : ∀ method ∈ action.methods, method ≠ [] ∧ method.length ≤ 1024 ∧
        method.all isWordChar = true := by
      cases action <;> decide
    intro method listed
    obtain ⟨some_, short, chars⟩ := word method listed
    exact ⟨Yaml.isPlainWord_of_isWordChar (List.all_eq_true.mp chars) some_, short⟩

theorem hasTexts_ofAction (action : Action) : (ofAction plan action).HasTexts where
  path := by
    obtain ⟨more, begins⟩ := exists_path_eq plan action
    have slash : '/' ∈ (ofAction plan action).path := begins ▸ List.mem_cons_self
    refine Yaml.ofSpelling_eq_text (fun mark listed member => ?_) slash (by decide) slash (by decide)
    have apart : ∀ mark ∈ typeMarks, mark ∉ ['/', '\x7b', '\x7d'] ∧ isWordChar mark = false :=
      Text.forall_mem_of_all (by decide)
    obtain ⟨noMark, noWord⟩ := apart mark listed
    rcases mem_path names action mark member with known | word
    · exact noMark known
    · exact Bool.false_ne_true (noWord.symm.trans word)
  methods := by
    have texts : ∀ method ∈ action.methods, Yaml.Tag.ofSpelling method = .text := by
      cases action <;> decide +kernel
    exact texts

theorem markless_name (action : Action) : ∀ mark ∈ typeMarks, mark ∉ (ofAction plan action).name := by
  intro mark listed member
  have noWord : ∀ mark ∈ typeMarks, isWordChar mark = false :=
    Text.forall_mem_of_all (by decide)
  exact Yaml.ne_of_isWordChar (isWordChar_name names action mark member) (noWord mark listed) rfl

/-- Beside the name of the index route, all names are texts. -/
theorem ofSpelling_name (other : action ≠ .index) :
    Yaml.Tag.ofSpelling (ofAction plan action).name = .text := by
  have ending : '_' ∈ action.nameEnd ∧
      action.nameEnd.any (fun letter => !Yaml.Spelling.isIntChar letter) = true := by
    revert other
    cases action <;> decide
  obtain ⟨mark, someLetter⟩ := ending
  obtain ⟨letter, inEnd, noInt⟩ := List.any_eq_true.mp someLetter
  rw [Bool.not_eq_true'] at noInt
  have inName {char : Char} (member : char ∈ action.nameEnd) : char ∈ (ofAction plan action).name := by
    rw [name_ofAction]
    exact List.mem_append_right _ member
  exact Yaml.ofSpelling_eq_text (markless_name names action) (inName mark) (by decide) (inName inEnd)
    noInt

theorem isReadable_routes (actions : List Action) :
    ∀ route ∈ actions.map (ofAction plan), route.IsReadable :=
  List.forall_mem_map.mpr fun action _ => isReadable_ofAction names action

theorem isPlainWord_routes (actions : List Action)
    (some_ : ∀ action ∈ actions, (ofAction plan action).name ≠ []) :
    ∀ route ∈ actions.map (ofAction plan), IsPlainWord false route.name :=
  List.forall_mem_map.mpr fun action listed =>
    Yaml.isPlainWord_of_isWordChar (isWordChar_name names action) (some_ action listed)

theorem hasKey_routes {actions : List Action}
    (some_ : ∀ action ∈ actions, (ofAction plan action).name ≠ [])
    (short : ∀ action ∈ actions, (ofAction plan action).name.length ≤ 1024) :
    ∀ route ∈ actions.map (ofAction plan), route.HasKey :=
  List.forall_mem_map.mpr fun action listed =>
    ⟨Yaml.isPlainWord_of_isWordChar (isWordChar_name names action) (some_ action listed),
      short action listed⟩

end Words

theorem exists_actions (withWrite : Bool) :
    ∃ later, (ActionPlan.make withWrite).actions = .index :: later ∧ .index ∉ later ∧
      later.Nodup := by
  cases withWrite
  · exact ⟨[.show], rfl, by decide, by decide⟩
  · exact ⟨[.show, .new, .edit, .delete], rfl, by decide, by decide⟩

theorem name_injective {first second : Action}
    (same : (ofAction plan first).name = (ofAction plan second).name) : first = second := by
  rw [name_ofAction, name_ofAction, List.append_cancel_left_eq] at same
  revert same
  cases first <;> cases second <;> decide

end Yaml.RouteLines

/-- What a plan says of the route of an action: its name, and what belongs to it. -/
def GenerationPlan.routeEntry (plan : GenerationPlan) (action : Action) : Value × Value :=
  (.text (CodeText.ofChars (RouteLines.ofAction plan action).name),
    (RouteLines.ofAction plan action).meaning)

namespace GenerationPlan

variable {plan : GenerationPlan} {later : List Action}

/-- The text of the YAML routing file, the index route being the first. -/
def routingText (plan : GenerationPlan) (later : List Action) : List Char :=
  (RouteLines.ofAction plan .index).text (RouteLines.following (later.map (RouteLines.ofAction plan)))

theorem name_index (plan : GenerationPlan) :
    (RouteLines.ofAction plan .index).name = plan.request.routeNamePrefix.toList := by
  rw [RouteLines.name_ofAction]
  exact List.append_nil _

theorem name_ne_nil (some_ : plan.request.routeNamePrefix.toList ≠ []) (action : Action) :
    (RouteLines.ofAction plan action).name ≠ [] := by
  rw [RouteLines.name_ofAction]
  exact List.append_ne_nil_of_left_ne_nil some_ _

theorem isAllowed_routingText (names : plan.request.HasWordNames) (later : List Action) :
    (plan.routingText later).all Yaml.isAllowed = true := by
  have name (action : Action) :
      ∀ char ∈ (RouteLines.ofAction plan action).name, Yaml.isAllowed char = true :=
    RouteLines.isAllowed_of_isInLine fun char member =>
      Yaml.isInLine_of_isWordChar (RouteLines.isWordChar_name names action char member)
  exact List.all_eq_true.mpr (RouteLines.isAllowed_text (name .index)
    (RouteLines.isReadable_ofAction names .index)
    (RouteLines.isAllowed_following (List.forall_mem_map.mpr fun action _ => name action)
      (RouteLines.isReadable_routes names later)))

/-- The routes are read, whatever the bare prefix stands for, when all names can be keys. -/
theorem load_routingText (names : plan.request.HasWordNames) (noIndex : .index ∉ later)
    (distinct : later.Nodup) (some_ : plan.request.routeNamePrefix.toList ≠ [])
    (short : ∀ action ∈ .index :: later, (RouteLines.ofAction plan action).name.length ≤ 1024)
    (has : (Yaml.Spelled.plain plan.request.routeNamePrefix.toList).HasValue)
    (apart : ∀ action ∈ later, (Yaml.Spelled.plain plan.request.routeNamePrefix.toList).value ≠
      .text (CodeText.ofChars (RouteLines.ofAction plan action).name)) :
    Yaml.load (plan.routingText later) =
      .ok ⟨.map (((Yaml.Spelled.plain plan.request.routeNamePrefix.toList).value,
        (RouteLines.ofAction plan .index).meaning) :: later.map plan.routeEntry), []⟩ := by
  have bare := name_index plan
  have texts : ∀ route ∈ (Action.index :: later).map (RouteLines.ofAction plan), route.HasTexts :=
    List.forall_mem_map.mpr fun action _ => RouteLines.hasTexts_ofAction names action
  have loaded := RouteLines.load_text (isAllowed_routingText names later)
    (RouteLines.hasKey_routes names (fun action _ => name_ne_nil some_ action) short)
    (RouteLines.isReadable_routes names (.index :: later)) texts (bare ▸ has)
    (List.forall_mem_map.mpr fun action listed => RouteLines.ofSpelling_name names fun same =>
      noIndex (same ▸ listed))
    (List.forall_mem_map.mpr fun action listed => bare ▸ apart action listed)
    (by
      rw [List.map_map]
      refine List.pairwise_map.mpr (distinct.imp fun differs same => differs ?_)
      exact RouteLines.name_injective same)
  rw [bare, List.map_map] at loaded
  exact loaded

end GenerationPlan

end EntityScaffold
