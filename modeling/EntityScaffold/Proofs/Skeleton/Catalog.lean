import EntityScaffold.Proofs.Skeleton.Check
import EntityScaffold.Rendering

/-
The packaged skeletons are accepted for the data that they are filled with. Each kind of context
gives its names data of known kinds; with names of those kinds every skeleton of the catalog passes
the check, and so do the skeletons of actions that the controller includes. Hence no skeleton of the
catalog ever fails to render.
-/

namespace EntityScaffold

open Skeleton

/-! ### Acceptance by the library -/

namespace Library

/-- Does the packaged library hold a skeleton that passes the check, and that does not ask what it
is? -/
def acceptsWith (included : String → Kinds → Bool) (name : String) (kinds : Kinds) : Bool :=
  match Packaged.source name with
  | .ok skeleton =>
    decide (firstUse? selfName skeleton ≠ some true) && (kinds? included kinds skeleton).isSome
  | .error _ => false

def acceptsNested (name : String) (kinds : Kinds) : Bool := acceptsWith (fun _ _ => false) name kinds

def accepts (name : String) (kinds : Kinds) : Bool := acceptsWith acceptsNested name kinds

variable {included : String → Kinds → Bool}
  {rendered : CodeText → Scope → Except RenderFault CodeText} {name : String} {kinds : Kinds}

theorem renderWith_yields (sound : IsSoundFor included rendered)
    (accepted : acceptsWith included name kinds = true) {scope : Scope}
    (matching : scope.Matches kinds) :
    Yields (renderWith rendered Packaged.source name scope) CodeText.IsPlain := by
  unfold acceptsWith at accepted
  split at accepted
  · next skeleton found =>
    obtain ⟨asks, checked⟩ := Bool.and_eq_true_iff.mp accepted
    obtain ⟨behind, kindsBehind⟩ := Option.isSome_iff_exists.mp checked
    unfold renderWith
    rw [found]
    change Yields (do
      let result ← renderPieces rendered
        (if firstUse? selfName skeleton = some true then scope.assign selfName (identity name)
          else scope) skeleton
      return result.1) _
    rw [if_neg (of_decide_eq_true asks)]
    refine Yields.bind (renderPieces_yields sound skeleton scope kinds behind kindsBehind matching)
      fun result both => ?_
    exact Yields.of_ok both.1
  · cases accepted

end Library

/-- Bindings give names of the listed kinds, one after another. -/
def Describes : Kinds → Bindings → Prop
  | [], [] => True
  | (name, kind) :: kinds, (other, datum) :: bindings =>
    name = other ∧ datum.HasKind kind ∧ Describes kinds bindings
  | _, _ => False

namespace Describes

theorem nil_iff : Describes [] [] ↔ True := Iff.rfl

theorem cons_iff {name other : String} {kind : Kind} {datum : Datum} {kinds : Kinds}
    {bindings : Bindings} : Describes ((name, kind) :: kinds) ((other, datum) :: bindings) ↔
      name = other ∧ datum.HasKind kind ∧ Describes kinds bindings := Iff.rfl

theorem lookup_eq_none {kinds : Kinds} {bindings : Bindings} (described : Describes kinds bindings)
    {name : String} (absent : kinds.lookup name = none) : bindings.lookup name = none := by
  induction kinds generalizing bindings with
  | nil =>
      cases bindings with
      | nil => rfl
      | cons binding rest => exact described.elim
  | cons entry kinds ih =>
      cases bindings with
      | nil => exact described.elim
      | cons binding rest =>
          obtain ⟨same, _, others⟩ := described
          rw [List.lookup_cons] at absent ⊢
          rw [← same]
          split at absent
          · cases absent
          · exact ih others absent

theorem matches_scope {kinds : Kinds} {bindings : Bindings} (described : Describes kinds bindings)
    (first last : Bool) : Scope.Matches ⟨bindings, first, last⟩ kinds := by
  induction kinds generalizing bindings with
  | nil =>
      intro name kind found
      cases found
  | cons entry kinds ih =>
      cases bindings with
      | nil => exact described.elim
      | cons binding rest =>
          obtain ⟨name, kind⟩ := entry
          obtain ⟨other, datum⟩ := binding
          obtain ⟨same, has, others⟩ := described
          subst same
          exact (ih others).assign has name

end Describes

namespace Library

/-- An accepted skeleton is rendered to plain text, whatever data of the right kinds there are. -/
theorem render_yields {name : String} {kinds : Kinds} (accepted : accepts name kinds = true)
    (noSelf : kinds.lookup selfName = none) {bindings : Bindings}
    (described : Describes kinds bindings) (tree : FileTree) :
    Yields (Library.packaged.render tree name bindings).1 CodeText.IsPlain := by
  have nestedSound : IsSoundFor acceptsNested fun name scope =>
      renderWith (fun _ _ => .error .notFound) Packaged.source name.toStringReplacing
        ⟨scope.bindings, false, false⟩ := by
    intro name kinds scope accepted matching
    have sound : IsSoundFor (fun _ _ => false) fun _ _ => .error .notFound := by
      intro name kinds scope impossible
      cases impossible
    dsimp only
    rw [CodeText.toStringReplacing_ofString]
    have sameNames : Scope.Matches ⟨scope.bindings, false, false⟩ kinds := matching
    exact renderWith_yields sound accepted sameNames
  unfold render renderNamed
  rw [described.lookup_eq_none noSelf]
  exact renderWith_yields nestedSound accepted (described.matches_scope false false)

end Library

/-! ### The contexts -/

def ControllerContext.kinds : Kinds := [
  ("actions", .actions), ("route_prefix", .text), ("route_name_prefix", .text), ("bundle", .text),
  ("namespace", .text), ("entity", .text), ("entity_class", .text), ("entity_namespace", .text),
  ("controller_namespace", .text), ("format", .text)]

def FunctionalTestContext.kinds : Kinds := [
  ("actions", .actions), ("fields", .table), ("route_prefix", .text), ("route_name_prefix", .text),
  ("namespace", .text), ("entity", .text), ("entity_class", .text), ("entity_namespace", .text),
  ("controller_namespace", .text)]

def IndexViewContext.kinds : Kinds := [
  ("entity", .text), ("fields", .table), ("actions", .actions), ("record_actions", .actions),
  ("route_prefix", .text), ("route_name_prefix", .text)]

def ShowViewContext.kinds : Kinds := [
  ("entity", .text), ("fields", .table), ("actions", .actions), ("route_prefix", .text),
  ("route_name_prefix", .text)]

def FormViewContext.kinds : Kinds := [
  ("entity", .text), ("fields", .table), ("actions", .actions), ("route_prefix", .text),
  ("route_name_prefix", .text), ("bundle", .text), ("form_dir", .text)]

def RoutingContext.kinds : Kinds := [
  ("actions", .actions), ("route_prefix", .text), ("route_name_prefix", .text), ("bundle", .text),
  ("entity", .text), ("entity_class", .text), ("controller_namespace", .text)]

/-! ### The catalog -/

/-- The skeletons that a run may ask for, each with the kinds of the names that it is given. -/
def catalogKinds : List (String × Kinds) := [
  ("controller", ControllerContext.kinds), ("tests/test", FunctionalTestContext.kinds),
  ("views/index", IndexViewContext.kinds), ("views/show", ShowViewContext.kinds),
  ("views/new", FormViewContext.kinds), ("views/edit", FormViewContext.kinds),
  ("views/form", FormViewContext.kinds), ("config/routing.yaml", RoutingContext.kinds),
  ("config/routing.xml", RoutingContext.kinds), ("config/routing.php", RoutingContext.kinds)]

theorem catalog_accepted : ∀ entry ∈ catalogKinds,
    Library.accepts entry.1 entry.2 = true ∧ entry.2.lookup selfName = none := by
  decide +kernel

end EntityScaffold
