import EntityScaffold.Proofs.Generation.Plan
import EntityScaffold.Proofs.Skeleton.Catalog

/-
Plans with the packaged skeletons. A plan asks for skeletons of the catalog only, and gives each one
the names that it uses, with data of the right kinds. So every file of a plan has a text, whatever the
request holds and whatever stands in the tree.
-/

namespace EntityScaffold

open Skeleton

variable {plan : GenerationPlan} {request : GenerationRequest} {extensions : Extensions}

namespace GenerationPlan

/-- Only a format with a file has a path for it. -/
def IsRouted (plan : GenerationPlan) : Prop :=
  ∀ path ∈ plan.paths.routing, plan.format.hasFile = true

theorem IsMadeFor.isRouted (made : plan.IsMadeFor request extensions) : plan.IsRouted := by
  intro path given
  have routing := made.laidOut.routing
  cases written : plan.format.hasFile with
  | true => rfl
  | false =>
      have format : (plan.placement extensions).format.hasFile = false := written
      rw [routing, format] at given
      cases given

/-! ### Contexts -/

theorem describes_controllerContext (plan : GenerationPlan) :
    Describes ControllerContext.kinds plan.controllerContext.bindings := by
  simp [ControllerContext.kinds, ControllerContext.bindings, controllerContext, Describes.cons_iff,
    Describes.nil_iff, Datum.hasKind_ofString, Datum.hasKind_ofActions, Datum.hasKind_string]

theorem describes_functionalTestContext (plan : GenerationPlan) :
    Describes FunctionalTestContext.kinds plan.functionalTestContext.bindings := by
  simp [FunctionalTestContext.kinds, FunctionalTestContext.bindings, functionalTestContext,
    Describes.cons_iff, Describes.nil_iff, Datum.hasKind_ofString, Datum.hasKind_ofActions,
    Datum.hasKind_ofTexts]

theorem describes_indexViewContext (plan : GenerationPlan) :
    Describes IndexViewContext.kinds plan.indexViewContext.bindings := by
  simp [IndexViewContext.kinds, IndexViewContext.bindings, indexViewContext, Describes.cons_iff,
    Describes.nil_iff, Datum.hasKind_ofString, Datum.hasKind_ofActions, Datum.hasKind_ofTexts]

theorem describes_showViewContext (plan : GenerationPlan) :
    Describes ShowViewContext.kinds plan.showViewContext.bindings := by
  simp [ShowViewContext.kinds, ShowViewContext.bindings, showViewContext, Describes.cons_iff,
    Describes.nil_iff, Datum.hasKind_ofString, Datum.hasKind_ofActions, Datum.hasKind_ofTexts]

theorem describes_formViewContext (plan : GenerationPlan) :
    Describes FormViewContext.kinds plan.formViewContext.bindings := by
  simp [FormViewContext.kinds, FormViewContext.bindings, formViewContext, Describes.cons_iff,
    Describes.nil_iff, Datum.hasKind_ofString, Datum.hasKind_ofActions, Datum.hasKind_ofTexts]

theorem describes_routingContext (plan : GenerationPlan) :
    Describes RoutingContext.kinds plan.routingContext.bindings := by
  simp [RoutingContext.kinds, RoutingContext.bindings, routingContext, Describes.cons_iff,
    Describes.nil_iff, Datum.hasKind_ofString, Datum.hasKind_ofActions]

/-! ### Files -/

/-- A file of a plan is one of the catalog, with data of the kinds that are listed there. -/
theorem exists_kinds (routed : plan.IsRouted) {file : PlannedFile} (member : file ∈ plan.files) :
    ∃ kinds, (file.skeleton, kinds) ∈ catalogKinds ∧ Describes kinds file.bindings := by
  have forms (view : View) (listed : (viewSkeleton view, FormViewContext.kinds) ∈ catalogKinds) :
      ∃ kinds, ((plan.formFile view).skeleton, kinds) ∈ catalogKinds ∧
        Describes kinds (plan.formFile view).bindings :=
    ⟨FormViewContext.kinds, listed, plan.describes_formViewContext⟩
  simp only [files, laterFiles, List.mem_cons, List.mem_append, List.not_mem_nil, or_false] at member
  rcases member with isController | ((((isIndex | isShow) | isForm) | isTest) | isRouting)
  · have listed : ("controller", ControllerContext.kinds) ∈ catalogKinds := by decide
    rw [isController]
    exact ⟨_, listed, plan.describes_controllerContext⟩
  · have listed : (viewSkeleton .index, IndexViewContext.kinds) ∈ catalogKinds := by decide
    rw [isIndex]
    exact ⟨_, listed, plan.describes_indexViewContext⟩
  · have listed : (viewSkeleton .show, ShowViewContext.kinds) ∈ catalogKinds := by decide
    rw [isShow]
    exact ⟨_, listed, plan.describes_showViewContext⟩
  · split at isForm
    · simp only [List.mem_cons, List.not_mem_nil, or_false] at isForm
      rcases isForm with same | same | same
      · rw [same]
        exact forms .form (by decide)
      · rw [same]
        exact forms .new (by decide)
      · rw [same]
        exact forms .edit (by decide)
    · cases isForm
  · have listed : ("tests/test", FunctionalTestContext.kinds) ∈ catalogKinds := by decide
    rw [isTest]
    exact ⟨_, listed, plan.describes_functionalTestContext⟩
  · obtain ⟨path, given, same⟩ := List.mem_map.mp isRouting
    have hasFile := routed path (Option.mem_toList.mp given)
    refine ⟨RoutingContext.kinds, ?_, same ▸ plan.describes_routingContext⟩
    rw [← same]
    dsimp only
    revert hasFile
    cases plan.format <;> decide

/-- A file of a plan has a text, whatever stands in the tree. -/
theorem exists_text (routed : plan.IsRouted) {file : PlannedFile} (member : file ∈ plan.files)
    (tree : FileTree) :
    ∃ text, Library.packaged.renderText tree file.skeleton file.bindings =
      .ok (CodeText.ofString text) := by
  obtain ⟨kinds, listed, described⟩ := exists_kinds routed member
  obtain ⟨accepted, noSelf⟩ := catalog_accepted _ listed
  obtain ⟨text, rendered, plain⟩ := Library.render_yields accepted noSelf described tree
  refine ⟨text.toStringReplacing, ?_⟩
  rw [Library.renderText, rendered, CodeText.ofString_toStringReplacing plain]
  rfl

end GenerationPlan

theorem Generator.isRouted_of_plan {generator : Generator}
    (planned : generator.plan request = .ok plan) : plan.IsRouted := by
  obtain ⟨_, _, _, resolved⟩ := eq_of_plan planned
  have routing := congrArg OutputPaths.routing (OutputPaths.eq_of_resolve? resolved).2
  intro path given
  rw [routing] at given
  split at given
  · next hasFile => exact hasFile
  · cases given

end EntityScaffold
