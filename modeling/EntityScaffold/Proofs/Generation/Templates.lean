import EntityScaffold.Proofs.Generation.EmptyBundle
import EntityScaffold.Proofs.Generation.Routes
import EntityScaffold.Proofs.Generation.Texts

/-
References to templates. In a controller without annotations every action but the one that deletes
renders a template, which it names by a bundle, a directory of its views, and a file. The reference is
made of the bundle and the entity alone, while the views are written where the controller directory
and the extension of views lead to. So the templates are there just when the controller directory is
the top level and the extension is the one that references end in.
-/

namespace EntityScaffold

open Generated
open Text (splitWhere)
open Text.Outline (fill ofChars)
open FileTree (perform)

def Action.view? : Action → Option View
  | .index => some .index
  | .show => some .show
  | .new => some .new
  | .edit => some .edit
  | .delete => none

/-- A template as a controller refers to it. -/
structure TemplateReference where
  bundle : List Char
  directory : List Char
  file : List Char
  deriving DecidableEq

namespace TemplateReference

def ofGaps? : List (List Char) → Option TemplateReference
  | [bundle, directory, file] => some ⟨bundle, directory, file⟩
  | _ => none

def path (root : Path) (reference : TemplateReference) : Path :=
  (((root.join "Resources").join "views").join (String.ofList reference.directory)).join
    (String.ofList reference.file)

/-- The end of the file names in references. -/
def fileEnd : List Char := ['.', 'h', 't', 'm', 'l', '.', 't', 'w', 'i', 'g']

/-- The reference to a view, as the controller of a request makes it. -/
def ofView (request : GenerationRequest) (view : View) : TemplateReference where
  bundle := request.bundle.name.toList
  directory := (EntityName.asPath request.entity).toList
  file := view.text.toList ++ fileEnd

end TemplateReference

/-- The templates that the class in a text renders. -/
def renderedTemplates (text : List Char) : List TemplateReference :=
  (ClassPart.view.pattern.gapsIn (classBody text)).filterMap TemplateReference.ofGaps?

/-- An extension with which the names of views are those in references: the end of these names, with
nothing but separators and single dots behind it. -/
def Extensions.EndsReferences (extensions : Extensions) : Prop :=
  (splitWhere Path.isSeparator extensions.view.toList).head? = some TemplateReference.fileEnd ∧
    ∀ piece ∈ (splitWhere Path.isSeparator extensions.view.toList).tail, piece = [] ∨ piece = ['.']

instance (extensions : Extensions) : Decidable extensions.EndsReferences :=
  inferInstanceAs (Decidable (_ ∧ _))

variable {plan : GenerationPlan}

/-! ### What the controller renders -/

theorem viewFile_eq {action : Action} {view : View} (renders : action.view? = some view) :
    viewFile action = view.text.toList ++ TemplateReference.fileEnd := by
  revert renders
  cases action <;> cases view <;> decide

/-- What is read off the method of an action is the reference to its view. -/
theorem saidByAction_view (inFile : plan.format.hasFile = true) (action : Action) :
    (saidByAction plan action .view).filterMap TemplateReference.ofGaps? =
      (action.view?.map (TemplateReference.ofView plan.request)).toList := by
  have noAnnotations : plan.format ≠ .annotations := fun annotated => by
    rw [annotated] at inFile
    cases inFile
  have filled : fill (details plan) [.hole (.detail .bundle)] = plan.request.bundle.name.toList ∧
      fill (details plan) [.hole (.detail .entityPath)] =
        (EntityName.asPath plan.request.entity).toList := by
    rw [EntityName.asPath_toList]
    exact ⟨List.append_nil _, List.append_nil _⟩
  rw [saidByAction, decide_eq_false noAnnotations]
  cases renders : action.view? with
  | none =>
      have deletes : action = .delete := by
        revert renders
        cases action <;> decide
      subst deletes
      rfl
  | some view =>
      have found : foundInAction false plan.request.withWrite action .view =
          [.gaps [[.hole (.detail .bundle)], [.hole (.detail .entityPath)],
            ofChars (viewFile action)]] := by
        revert renders
        cases action <;> intro renders <;> first | cases renders; done | rfl
      simp only [found, List.flatMap_singleton, Text.Outline.Finding.filled, List.map_cons,
        List.map_nil, filled, Text.Outline.fill_ofChars, viewFile_eq renders]
      rfl

theorem renderedTemplates_controller (plain : plan.HasPlainNames)
    (actions : plan.actions = ActionPlan.make plan.request.withWrite)
    (inFile : plan.format.hasFile = true) :
    renderedTemplates plan.controllerFile.text =
      (plan.actions.actions.filterMap Action.view?).map (TemplateReference.ofView plan.request) := by
  obtain ⟨text, rendered, said, _⟩ := exists_controller_text plain actions .empty
  have isText : plan.controllerFile.text = text := PlannedFile.text_eq rendered
  rw [isText, renderedTemplates, said, List.filterMap_flatMap, List.map_filterMap]
  generalize plan.actions.actions = listed
  induction listed with
  | nil => rfl
  | cons action rest ih =>
      rw [List.flatMap_cons, ih, saidByAction_view inFile, List.filterMap_cons]
      cases action.view? <;> rfl

/-! ### Where views are -/

theorem View.head?_text_append (view : View) (behind : List Char) :
    (view.text.toList ++ behind).head? = view.text.toList.head? := by
  cases view <;> rfl

theorem View.eq_of_text_append {view other : View} {first second : List Char}
    (same : view.text.toList ++ first = other.text.toList ++ second) :
    view = other ∧ first = second := by
  have isOther : view = other := by
    have heads := congrArg List.head? same
    rw [head?_text_append, head?_text_append] at heads
    revert heads
    cases view <;> cases other <;> decide
  subst isOther
  exact ⟨rfl, List.append_cancel_left same⟩

theorem View.isComponent_text (view : View) : Path.IsComponent view.text.toList := by
  cases view <;> decide

theorem partsOf_view_ne_nil (view : View) (extensions : Extensions) :
    Path.partsOf (view.text ++ extensions.view).toList ≠ [] := by
  obtain ⟨first, rest, split⟩ :=
    List.exists_cons_of_ne_nil (Text.splitWhere_ne_nil Path.isSeparator extensions.view.toList)
  rw [String.toList_append, Path.partsOf_append_of_isComponent view.isComponent_text split]
  exact List.cons_ne_nil _ _

theorem partsOf_view_eq_iff {extensions : Extensions} {view other : View} :
    Path.partsOf (view.text ++ extensions.view).toList =
        [String.ofList (other.text.toList ++ TemplateReference.fileEnd)] ↔
      view = other ∧ extensions.EndsReferences := by
  obtain ⟨first, rest, split⟩ :=
    List.exists_cons_of_ne_nil (Text.splitWhere_ne_nil Path.isSeparator extensions.view.toList)
  have nothingElse : ((rest.filter fun piece => piece ≠ [] && piece ≠ ['.']).map String.ofList) = [] ↔
      ∀ piece ∈ rest, piece = [] ∨ piece = ['.'] := by
    rw [List.map_eq_nil_iff, List.filter_eq_nil_iff]
    refine forall₂_congr fun piece _ => ?_
    simp [Classical.or_iff_not_imp_left]
  rw [String.toList_append, Path.partsOf_append_of_isComponent view.isComponent_text split,
    Extensions.EndsReferences, split, List.cons_eq_cons, String.ofList_inj, nothingElse,
    List.head?_cons, List.tail_cons, Option.some.injEq, ← and_assoc]
  refine and_congr_left fun _ => ⟨View.eq_of_text_append, ?_⟩
  rintro ⟨isOther, ends⟩
  rw [isOther, ends]

variable {root : Path} {request : GenerationRequest} {extensions : Extensions}

theorem TemplateReference.path_ofView (regular : EntityName.IsRegular request.entity) (view : View) :
    (ofView request view).path root = root.descend ("Resources" :: "views" ::
      (EntityName.folders request.entity ++ [String.ofList (view.text.toList ++ fileEnd)])) := by
  have resources : Path.IsComponent "Resources".toList := by decide
  have views : Path.IsComponent "views".toList := by decide
  have file : Path.IsComponent (String.ofList (view.text.toList ++ fileEnd)).toList := by
    rw [String.toList_ofList]
    cases view <;> decide
  simp only [path, ofView, String.ofList_toList, Path.join_of_isComponent resources,
    Path.join_of_isComponent views, Path.join_of_isComponent file,
    EntityName.join_asPath regular.slash_not_mem regular.head?_ne_dot, Path.descend_descend,
    List.cons_append, List.nil_append]

section Resolved

variable {paths : OutputPaths} {format : RoutingFormat}
  (resolved : OutputPaths.resolve? root request.entity request.controllerDir format extensions =
    some paths) (regular : EntityName.IsRegular request.entity)

include resolved regular

theorem OutputPaths.view_eq_descend (view : View) :
    paths.view view = root.descend ("Resources" :: "views" ::
      (ControllerDir.viewFolderNames request.controllerDir ++
        (EntityName.folders request.entity ++
          Path.partsOf (view.text ++ extensions.view).toList))) := by
  obtain ⟨split, same⟩ := eq_of_resolve? resolved
  have relative : (view.text ++ extensions.view).toList.head? ≠ some '/' := by
    rw [String.toList_append, View.head?_text_append]
    exact Path.head?_ne_slash_of_isComponent view.isComponent_text
  have extension : paths.viewExtension = extensions.view := congrArg OutputPaths.viewExtension same
  rw [OutputPaths.view, extension, Path.join_of_relative relative,
    viewDir_eq_descend resolved regular.slash_not_mem regular.head?_ne_dot, Path.descend_descend,
    EntityName.folders_of_split? split regular.slash_not_mem]
  simp only [Placement.viewDirNames, Placement.viewFolders, List.cons_append, List.append_assoc]

/-- A template is a view just when no folder is between and both names end in the same way. -/
theorem TemplateReference.path_eq_view_iff {view other : View} :
    (ofView request other).path root = paths.view view ↔
      view = other ∧ ControllerDir.normalize request.controllerDir = ControllerDir.topLevel ∧
        extensions.EndsReferences := by
  have someLeft := partsOf_view_ne_nil view extensions
  rw [and_left_comm, ← partsOf_view_eq_iff, ← ControllerDir.viewFolders_eq_nil_iff,
    path_ofView regular, OutputPaths.view_eq_descend resolved regular, Path.descend_inj,
    List.cons_inj_right, List.cons_inj_right]
  constructor
  · intro same
    -- the names of the view are one or more, so nothing is left for a folder in front
    have nothing : ControllerDir.viewFolderNames request.controllerDir = [] := by
      have lengths := congrArg List.length same
      have positive := List.length_pos_iff.mpr someLeft
      simp only [List.length_append, List.length_singleton] at lengths
      exact List.eq_nil_of_length_eq_zero (by omega)
    rw [nothing, List.nil_append, List.append_cancel_left_eq] at same
    exact ⟨List.map_eq_nil_iff.mp nothing, same.symm⟩
  · rintro ⟨nothing, ends⟩
    rw [ControllerDir.viewFolderNames, nothing, List.map_nil, List.nil_append, ends]

end Resolved

/-! ### Runs -/

theorem GenerationPlan.mem_views_of_mem_actions
    (actions : plan.actions = ActionPlan.make plan.request.withWrite) {action : Action} {view : View}
    (planned : action ∈ plan.actions.actions) (renders : action.view? = some view) :
    view ∈ plan.views := by
  rw [actions] at planned
  unfold views
  revert planned renders
  cases plan.request.withWrite <;> cases action <;> cases view <;> decide

namespace Generator

variable {generator : Generator} {before after : FileTree} {result : GenerationResult}

/-- In a run without annotations that ends well, the controller renders one template for each planned
action that has a view. All of them are views that the run has written just when the controller
directory is the top level and the extension of views is the end of references. -/
theorem templates_written_iff_of_run_eq_ok (packaged : generator.library = .packaged)
    (plain : request.HasPlainNames) (regular : EntityName.IsRegular request.entity)
    (inFile : (RoutingFormat.negotiate request.format).hasFile = true)
    (ran : perform (generator.run request) before = (.ok result, after)) :
    (result.plan.Renders generator before result.plan.controllerFile
          (String.ofList result.plan.controllerFile.text) ∧
        (request.IsPlain generator.extensions →
          after.readContent result.plan.controllerFile.path =
            .ok (.text (String.ofList result.plan.controllerFile.text)))) ∧
      renderedTemplates result.plan.controllerFile.text =
        (result.plan.actions.actions.filterMap Action.view?).map (TemplateReference.ofView request) ∧
      ((∀ reference ∈ renderedTemplates result.plan.controllerFile.text, ∃ view ∈ result.plan.views,
          reference.path request.bundle.path = result.plan.paths.view view ∧
            result.plan.paths.view view ∈ result.written) ↔
        ControllerDir.normalize request.controllerDir = ControllerDir.topLevel ∧
          generator.extensions.EndsReferences) := by
  obtain ⟨planned, _⟩ := took_of_run_eq_ok ran
  obtain ⟨plainPlan, actions⟩ := hasPlainNames_of_plan planned plain
  obtain ⟨requested, _, format, resolved⟩ := eq_of_plan planned
  have rendered := renderedTemplates_controller plainPlan actions (format ▸ inFile)
  rw [requested] at rendered
  refine ⟨⟨renders_text_of_run_eq_ok packaged ran List.mem_cons_self, fun regular =>
    held_text_of_run_eq_ok packaged regular ran List.mem_cons_self⟩, rendered, ?_⟩
  have written {view : View} (listed : view ∈ result.plan.views) :
      result.plan.paths.view view ∈ result.written := by
    rw [written_of_run_eq_ok ran]
    exact List.mem_map_of_mem (GenerationPlan.viewFile_mem result.plan listed)
  have isView {view other : View} := @TemplateReference.path_eq_view_iff _ _ _ _ _ resolved regular
    view other
  rw [rendered]
  constructor
  · intro allWritten
    have index : Action.index ∈ result.plan.actions.actions := by
      rw [actions]
      cases result.plan.request.withWrite <;> decide
    obtain ⟨view, _, same, _⟩ := allWritten _
      (List.mem_map_of_mem (List.mem_filterMap.mpr ⟨.index, index, rfl⟩))
    exact (isView.mp same).2
  · intro ends reference listed
    obtain ⟨view, inViews, same⟩ := List.mem_map.mp listed
    obtain ⟨action, inActions, renders⟩ := List.mem_filterMap.mp inViews
    have planned := GenerationPlan.mem_views_of_mem_actions actions inActions renders
    subst same
    exact ⟨view, planned, isView.mpr ⟨rfl, ends⟩, written planned⟩

def subdirectoryRequest : GenerationRequest where
  bundle := ⟨"Blog", "Acme", .ofString "b"⟩
  entity := "Post"
  metadata := ⟨[], [CodeText.ofString "id"]⟩
  controllerDir := "Controller/Admin"

/-- The controller renders templates that the run has not written. -/
theorem templates_missing_of_subdirectory :
    ∃ result after, perform (run {} subdirectoryRequest) .empty = (.ok result, after) ∧
      renderedTemplates result.plan.controllerFile.text =
        [⟨"Blog".toList, "Post".toList, "index.html.twig".toList⟩,
          ⟨"Blog".toList, "Post".toList, "show.html.twig".toList⟩] ∧
      ¬∀ reference ∈ renderedTemplates result.plan.controllerFile.text,
        ∃ view ∈ result.plan.views,
          reference.path subdirectoryRequest.bundle.path = result.plan.paths.view view ∧
            result.plan.paths.view view ∈ result.written := by
  have prepared : IsPrepared {} subdirectoryRequest .empty :=
    isPrepared_empty ⟨by decide, by decide, by decide, by decide⟩ rfl (by decide) (by decide +kernel)
  obtain ⟨result, after, ran⟩ := prepared.exists_run_eq_ok (by decide)
  obtain ⟨_, rendered, written⟩ := templates_written_iff_of_run_eq_ok rfl
    ⟨by decide, by decide, by decide⟩ prepared.regular.entity (by decide) ran
  have actions := (eq_of_plan (took_of_run_eq_ok ran).1).2.1
  refine ⟨result, after, ran, ?_, fun allWritten => ?_⟩
  · rw [rendered, actions]
    decide +kernel
  · have isTop := (written.mp allWritten).1
    revert isTop
    decide

end Generator

end EntityScaffold
