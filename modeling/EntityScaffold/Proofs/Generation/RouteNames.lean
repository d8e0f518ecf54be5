import EntityScaffold.Proofs.Generation.RouteMeaning
import EntityScaffold.Proofs.Yaml.Unreadable

/-
Which YAML routing files are read as planned. The name of the index route is the bare prefix, and it
stands without quotes: where it is spelled like a truth value, null or an integer it is read as one,
or not at all. A name that is too long is no key, and a missing one leaves no mapping to be read.
-/

namespace EntityScaffold

open Yaml (RouteLines Spelled Tag typeMarks)

namespace Yaml

variable {chars : List Char} {tag : Tag} {spelling : CodeText} {value : Value}

theorem ofSpelling_cases (markless : ∀ mark ∈ typeMarks, mark ∉ chars) :
    Tag.ofSpelling chars = .text ∨ Tag.ofSpelling chars ∈ [Tag.bool, Tag.int, Tag.null] := by
  rw [ofSpelling_of_markless markless]
  repeat' split
  all_goals decide

theorem Scalar.ne_text_of_valueOf (kind : tag ∈ [Tag.bool, Tag.int, Tag.null])
    (stands : valueOf tag spelling = .ok value) (text : CodeText) : value ≠ .text text := by
  rintro rfl
  simp only [List.mem_cons, List.not_mem_nil, or_false] at kind
  rcases kind with rfl | rfl | rfl
  · change (boolOf spelling).map Value.bool = _ at stands
    cases found : boolOf spelling <;> rw [found] at stands <;> cases stands
  · change (intOf spelling).map Value.int = _ at stands
    cases found : intOf spelling <;> rw [found] at stands <;> cases stands
  · cases stands

end Yaml

namespace GenerationPlan

variable {plan : GenerationPlan} {later : List Action}

/-- The names of the planned routes need no quotes. -/
structure HasTextNames (plan : GenerationPlan) : Prop where
  bare : Tag.ofSpelling plan.request.routeNamePrefix.toList = .text
  short : ∀ action ∈ plan.actions.actions,
    (Route.name plan.request.routeNamePrefix action.text).length ≤ 1024

/-- The file is read as the plan says: each name is a text that leads to what belongs to it. -/
def IsReadFrom (plan : GenerationPlan) (text : List Char) : Prop :=
  Yaml.load text = .ok ⟨.map (plan.actions.actions.map plan.routeEntry), []⟩

section Words

variable (names : plan.request.HasWordNames)

include names

/-- Names that are spelled like nothing else are read as they are. -/
theorem load_of_text (noIndex : .index ∉ later) (distinct : later.Nodup)
    (bare : Tag.ofSpelling plan.request.routeNamePrefix.toList = .text)
    (short : ∀ action ∈ .index :: later, (RouteLines.ofAction plan action).name.length ≤ 1024) :
    Yaml.load (plan.routingText later) =
      .ok ⟨.map ((Action.index :: later).map plan.routeEntry), []⟩ := by
  obtain ⟨has, isText⟩ := Spelled.hasValue_plain bare
  have some_ : plan.request.routeNamePrefix.toList ≠ [] := by
    intro nothing
    rw [nothing] at bare
    exact absurd bare (by decide)
  have apart : ∀ action ∈ later, (Spelled.plain plan.request.routeNamePrefix.toList).value ≠
      .text (CodeText.ofChars (RouteLines.ofAction plan action).name) := by
    intro action listed same
    rw [isText, ← name_index plan] at same
    have sameName := CodeText.ofChars_injective (Value.text.inj same)
    exact noIndex (RouteLines.name_injective sameName ▸ listed)
  rw [load_routingText names noIndex distinct some_ short has apart, isText, ← name_index plan]
  rfl

/-- Without a name, the text is not read. -/
theorem load_of_nameless (noIndex : .index ∉ later)
    (nothing : plan.request.routeNamePrefix.toList = []) :
    Yaml.load (plan.routingText later) = .error .malformed := by
  have nameless : (RouteLines.ofAction plan .index).name = [] := (name_index plan).trans nothing
  have ends (action : Action) : (RouteLines.ofAction plan action).name = action.nameEnd := by
    rw [RouteLines.name_ofAction, nothing, List.nil_append]
  have keys := RouteLines.hasKey_routes names
    (fun action (listed : action ∈ later) => by
      rw [ends]
      have other : action ≠ .index := fun same => noIndex (same ▸ listed)
      revert other
      cases action <;> decide)
    (fun action _ => by
      rw [ends]
      cases action <;> decide)
  obtain ⟨tokens, scanned⟩ := RouteLines.exists_scan_nameless (isAllowed_routingText names later)
    nameless (RouteLines.isReadable_ofAction names .index) keys
    (RouteLines.isReadable_routes names later)
  exact Yaml.exists_load_eq_error (scanned ▸ Yaml.ofTokens_value tokens none)

/-- With a name that is too long for a key, the text is not read. -/
theorem exists_load_of_long (some_ : plan.request.routeNamePrefix.toList ≠ [])
    (long : ∃ action ∈ .index :: later, 1024 < (RouteLines.ofAction plan action).name.length) :
    ∃ fault, Yaml.load (plan.routingText later) = .error fault := by
  have longRoute : ∃ route ∈ (Action.index :: later).map (RouteLines.ofAction plan),
      1024 < route.name.length := by
    obtain ⟨action, listed, tooLong⟩ := long
    exact ⟨_, List.mem_map_of_mem listed, tooLong⟩
  have faulty := RouteLines.fault_of_long_name (isAllowed_routingText names later)
    (RouteLines.isPlainWord_routes names (.index :: later) fun action _ => name_ne_nil some_ action)
    (RouteLines.isReadable_routes names (.index :: later)) longRoute
  obtain ⟨fault, unread⟩ := Yaml.exists_ofTokens_eq_error faulty
  exact ⟨_, Yaml.exists_load_eq_error unread⟩

/-- A bare prefix that is spelled like something else is no text for those who read the file. -/
theorem load_ne_of_kind (noIndex : .index ∉ later) (distinct : later.Nodup)
    (some_ : plan.request.routeNamePrefix.toList ≠ [])
    (short : ∀ action ∈ .index :: later, (RouteLines.ofAction plan action).name.length ≤ 1024)
    (kind : Tag.ofSpelling plan.request.routeNamePrefix.toList ∈ [Tag.bool, Tag.int, Tag.null]) :
    Yaml.load (plan.routingText later) ≠
      .ok ⟨.map ((Action.index :: later).map plan.routeEntry), []⟩ := by
  intro loaded
  have tag := Spelled.tag_plain plan.request.routeNamePrefix.toList
  rw [← tag] at kind
  have scalar : ∀ tag ∈ [Tag.bool, Tag.int, Tag.null],
      Yaml.Builder.isScalarTag tag = true ∧ tag ≠ .float := by decide
  obtain ⟨isScalar, notFloat⟩ := scalar _ kind
  cases stands : Yaml.Scalar.valueOf (Spelled.plain plan.request.routeNamePrefix.toList).tag
      (Spelled.plain plan.request.routeNamePrefix.toList).text with
  | ok value =>
      obtain ⟨has, same⟩ := Spelled.hasValue_of_valueOf isScalar notFloat stands
      have noText := Yaml.Scalar.ne_text_of_valueOf kind stands
      rw [← same] at noText
      rw [load_routingText names noIndex distinct some_ short has fun _ _ => noText _] at loaded
      simp only [Except.ok.injEq, Document.mk.injEq, Value.map.injEq, List.map_cons,
        List.cons.injEq, routeEntry, Prod.mk.injEq] at loaded
      exact noText _ loaded.1.1.1
  | error fault =>
      have scanned := RouteLines.scan_text (isAllowed_routingText names later)
        (RouteLines.hasKey_routes names (fun action _ => name_ne_nil some_ action) short)
        (RouteLines.isReadable_routes names (.index :: later))
      have keys : ∀ entry ∈ ((Action.index :: later).map (RouteLines.ofAction plan)).map
          RouteLines.entry, Yaml.Builder.isScalarTag entry.1.tag = true := by
        refine List.forall_mem_map.mpr (List.forall_mem_map.mpr fun action _ => ?_)
        by_cases isIndex : action = .index
        · rw [isIndex, RouteLines.entry, name_index]
          exact isScalar
        · rw [RouteLines.entry, Spelled.tag_plain, RouteLines.ofSpelling_name names isIndex]
          rfl
      rw [← name_index plan] at notFloat stands
      have unread := Yaml.Tree.load_eq_error scanned (RouteLines.fits_file _) keys notFloat stands
      rw [routingText] at loaded
      rw [unread] at loaded
      cases loaded

end Words

/-- The YAML routing file of a plan is read as planned just when its names need no quotes. Without a
prefix it is not read at all. -/
theorem routing_read_iff {withWrite : Bool} (actions : plan.actions = ActionPlan.make withWrite)
    (names : plan.request.HasWordNames) (tree : FileTree) :
    ∃ text, Library.packaged.renderText tree (routingSkeleton RoutingFormat.yaml.text)
          plan.routingContext.bindings = .ok (CodeText.ofChars text) ∧
      (plan.IsReadFrom text ↔ plan.HasTextNames) ∧
      (plan.request.routePrefix = "" → Yaml.load text = .error .malformed) := by
  obtain ⟨later, listed, noIndex, distinct⟩ := RouteLines.exists_actions withWrite
  rw [← actions] at listed
  have length (action : Action) : (RouteLines.ofAction plan action).name.length =
      (Route.name plan.request.routeNamePrefix action.text).length := String.length_toList
  refine ⟨plan.routingText later, RouteLines.renderText_routing listed tree, ?_, fun unprefixed => ?_⟩
  · rw [IsReadFrom, listed]
    refine ⟨fun loaded => ?_, fun texts => load_of_text names noIndex distinct texts.bare ?_⟩
    · have some_ : plan.request.routeNamePrefix.toList ≠ [] := by
        intro nothing
        rw [load_of_nameless names noIndex nothing] at loaded
        cases loaded
      have short : ∀ action ∈ .index :: later,
          (RouteLines.ofAction plan action).name.length ≤ 1024 := by
        intro action member
        refine Nat.not_lt.mp fun long => ?_
        obtain ⟨fault, unread⟩ := exists_load_of_long names some_ ⟨action, member, long⟩
        rw [unread] at loaded
        cases loaded
      have markless := RouteLines.markless_name names .index
      rw [name_index] at markless
      refine ⟨(Yaml.ofSpelling_cases markless).resolve_right fun kind =>
        load_ne_of_kind names noIndex distinct some_ short kind loaded, ?_⟩
      rw [listed]
      exact fun action member => length action ▸ short action member
    · exact fun action member => length action ▸ texts.short action (listed ▸ member)
  · refine load_of_nameless names noIndex ?_
    rw [GenerationRequest.routeNamePrefix, unprefixed]
    rfl

end GenerationPlan

/-- A request without a prefix, for which the name of the index route is missing. -/
def unprefixedRequest : GenerationRequest where
  bundle := ⟨"Blog", "Acme", .ofString "b"⟩
  entity := "Admin.Post"
  metadata := ⟨[], [CodeText.ofString "id"]⟩
  withWrite := true

theorem unprefixed_routes_unread :
    ∃ (plan : GenerationPlan) (text : List Char),
      Generator.plan {} unprefixedRequest = .ok plan ∧
      Library.packaged.renderText .empty (GenerationPlan.routingSkeleton RoutingFormat.yaml.text)
          plan.routingContext.bindings = .ok (CodeText.ofChars text) ∧
      ¬plan.IsReadFrom text ∧ Yaml.load text = .error .malformed := by
  have names : unprefixedRequest.HasWordNames := by
    constructor <;> exact Text.forall_mem_of_all (by decide)
  have unprefixed : unprefixedRequest.routePrefix = "" := rfl
  have isPlanned : (Generator.plan {} unprefixedRequest).isOk = true := by decide +kernel
  obtain ⟨plan, planned⟩ := exists_eq_ok_of_isOk isPlanned
  obtain ⟨requested, actions, _⟩ := Generator.eq_of_plan planned
  rw [← requested] at names unprefixed
  obtain ⟨text, rendered, read, unread⟩ :=
    GenerationPlan.routing_read_iff actions names .empty
  refine ⟨plan, text, planned, rendered, fun isRead => ?_, unread unprefixed⟩
  have bare := (read.mp isRead).bare
  rw [GenerationRequest.routeNamePrefix, unprefixed] at bare
  exact absurd bare (by decide +kernel)

end EntityScaffold
