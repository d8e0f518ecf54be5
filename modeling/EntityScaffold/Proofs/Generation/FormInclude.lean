import EntityScaffold.Proofs.Generation.Declarations
import EntityScaffold.Proofs.Generation.Templates

/-
The form in other views. The view for a new record and the one for editing include the form by its
bundle, a directory of its views, and a file. The directory is the one of the controller with the last
folder of the entity behind it, so the folders of a namespace are left out; the file has the ending of
all references. The form is found just when there is no namespace and views have that ending.
-/

namespace EntityScaffold

open Generated
open FileTree (perform)

namespace TemplateReference

/-- The reference to the form, as the views of a plan make it. -/
def ofForm (plan : GenerationPlan) : TemplateReference where
  bundle := plan.request.bundle.name.toList
  directory := plan.paths.formDir.toList
  file := formFileName.toList

/-- A text includes a template, with whatever variables behind it. -/
def IsIncludedIn (reference : TemplateReference) (text : List Char) : Prop :=
  ("include('".toList ++ reference.bundle ++ ':' :: reference.directory ++
    ':' :: reference.file ++ ['\'']) <:+: text

end TemplateReference

/-- The templates that a view includes. -/
def includedTemplates (text : List Char) : List TemplateReference :=
  (includePattern.gapsIn text).filterMap TemplateReference.ofGaps?

/-- No name that a request puts into references holds a mark of references. -/
def GenerationRequest.HasUnmarkedNames (request : GenerationRequest) : Prop :=
  ∀ mark ∈ referenceMarks, mark ∉ request.bundle.name.toList ∧ mark ∉ request.entity.toList ∧
    mark ∉ request.routePrefix.toList ∧ mark ∉ request.controllerDir.toList

instance (request : GenerationRequest) : Decidable request.HasUnmarkedNames :=
  List.decidableBAll _ referenceMarks

/-! ### Where the form is -/

section Resolved

variable {root : Path} {request : GenerationRequest} {extensions : Extensions}
  {paths : OutputPaths} {format : RoutingFormat}
  (resolved : OutputPaths.resolve? root request.entity request.controllerDir format extensions =
    some paths) (regular : EntityName.IsRegular request.entity)

include resolved regular

theorem OutputPaths.formDir_eq : paths.formDir =
    ControllerDir.viewSubDir (ControllerDir.normalize request.controllerDir) ++
      paths.entity.className := by
  rw [congrArg OutputPaths.formDir (eq_of_resolve? resolved).2,
    viewDir_eq_descend resolved regular.slash_not_mem regular.head?_ne_dot, Placement.viewDirNames,
    ← List.cons_append, ← List.cons_append, Path.name_descend_concat]

/-- There is no folder for a namespace just when there is no dot in the entity. -/
theorem EntityName.folders_nameSpace_eq_nil_iff :
    folders paths.entity.nameSpace = [] ↔ '.' ∉ request.entity.toList := by
  have split := (OutputPaths.eq_of_resolve? resolved).1
  have isNameSpace := (nameSpace_eq_of_split? split).1
  have full := regular.hasFullWords_nameSpace split
  rw [← List.map_eq_nil_iff (f := String.toList),
    map_toList_folders (slash_not_mem_nameSpace split regular.slash_not_mem)]
  rcases eq_classChars_or_append request.entity.toList with ⟨nothing, whole⟩ | whole
  · have words : words paths.entity.nameSpace = [] := by
      rw [EntityName.words, isNameSpace, nothing]
      rfl
    rw [words, whole]
    exact iff_of_true rfl (dot_not_mem_classChars _)
  · refine iff_of_false (fun noWord => ?_) ?_
    · have empty : paths.entity.nameSpace.toList = [] :=
        Classical.byContradiction fun filled => words_ne_nil filled full noWord
      rw [isNameSpace] at empty
      rw [empty] at whole
      exact regular.head?_ne_dot (by rw [whole]; rfl)
    · intro noDot
      rw [whole] at noDot
      exact noDot (List.mem_append_right _ List.mem_cons_self)

variable {plan : GenerationPlan}

theorem TemplateReference.path_ofForm (isPaths : plan.paths = paths) :
    (ofForm plan).path root = root.descend ("Resources" :: "views" ::
      (ControllerDir.viewFolderNames request.controllerDir ++
        [paths.entity.className, formFileName])) := by
  have split := (OutputPaths.eq_of_resolve? resolved).1
  have resources : Path.IsComponent "Resources".toList := by decide
  have views : Path.IsComponent "views".toList := by decide
  have file : Path.IsComponent formFileName.toList := by decide
  have className := (EntityName.isName_className split regular.slash_not_mem).1
  rw [path, ofForm, isPaths, String.ofList_toList, String.ofList_toList,
    OutputPaths.formDir_eq resolved regular, Path.join_of_isComponent resources,
    Path.join_of_isComponent views, Path.join_of_isComponent file,
    ControllerDir.join_viewSubDir_append fun _ => Path.head?_ne_slash_of_isComponent className,
    Path.partsOf_of_isComponent className, String.ofList_toList, Path.descend_descend,
    Path.descend_descend, Path.descend_descend]
  simp only [List.append_assoc, List.cons_append, List.nil_append]

/-- The form is where its reference leads just when nothing is left out of the one or the other. -/
theorem TemplateReference.path_ofForm_eq_iff (isPaths : plan.paths = paths) :
    (ofForm plan).path root = paths.view .form ↔
      '.' ∉ request.entity.toList ∧ extensions.EndsReferences := by
  have split := (OutputPaths.eq_of_resolve? resolved).1
  have ends : Path.partsOf (View.form.text ++ extensions.view).toList = [formFileName] ↔
      extensions.EndsReferences := by
    have same : formFileName = String.ofList (View.form.text.toList ++ fileEnd) := by decide
    rw [same, partsOf_view_eq_iff]
    exact and_iff_right rfl
  rw [← EntityName.folders_nameSpace_eq_nil_iff resolved regular, ← ends,
    path_ofForm resolved regular isPaths, OutputPaths.view_eq_descend resolved regular,
    Path.descend_inj, List.cons_inj_right, List.cons_inj_right, List.append_cancel_left_eq,
    EntityName.folders_of_split? split regular.slash_not_mem]
  constructor
  · intro same
    -- something is left of the view, so two names leave no room for a folder
    have noFolder : EntityName.folders paths.entity.nameSpace = [] := by
      have lengths := congrArg List.length same
      have positive := List.length_pos_iff.mpr (partsOf_view_ne_nil .form extensions)
      simp only [List.length_append, List.length_cons, List.length_nil] at lengths
      exact List.eq_nil_of_length_eq_zero (by omega)
    rw [noFolder, List.nil_append, List.singleton_append, List.cons_inj_right] at same
    exact ⟨noFolder, same.symm⟩
  · rintro ⟨noFolder, isFile⟩
    rw [noFolder, isFile]
    rfl

end Resolved

/-! ### Runs -/

namespace Generator

variable {generator : Generator} {request : GenerationRequest} {before after : FileTree}
  {result : GenerationResult}

theorem lacks_referenceMarks_of_plan {plan : GenerationPlan}
    (planned : generator.plan request = .ok plan) (unmarked : request.HasUnmarkedNames) :
    ∀ mark ∈ referenceMarks, plan.NamesLack mark ∧ mark ∉ plan.paths.formDir.toList := by
  obtain ⟨requested, _, _, resolved⟩ := eq_of_plan planned
  have className := (EntityName.nameSpace_eq_of_split? (OutputPaths.eq_of_resolve? resolved).1).2
  have inNoFolder : (referenceMarks.all fun mark => mark ≠ '/' ∧
      mark ∉ ControllerDir.topLevel.toList ∧ mark ∉ "views".toList) = true := by decide
  subst requested
  intro mark listed
  obtain ⟨bundle, entity, routePrefix, controllerDir⟩ := unmarked mark listed
  have inClass : mark ∉ plan.paths.entity.className.toList := by
    rw [className]
    exact fun member => entity (EntityName.mem_of_mem_classChars member)
  refine ⟨⟨bundle, entity, inClass, routePrefix⟩, fun member => ?_⟩
  obtain ⟨noSlash, other⟩ := of_decide_eq_true (List.all_eq_true.mp inNoFolder mark listed)
  rcases OutputPaths.mem_of_mem_formDir resolved member noSlash other with inDirectory | inEntity
  · exact controllerDir inDirectory
  · exact entity inEntity

/-- When a run that writes records ends well, the view for a new record and the one for editing
include the form by one reference. It leads to the form that the run has written just when the entity
is in no namespace and the extension of views is the end of references. -/
theorem form_included_iff_of_run_eq_ok (packaged : generator.library = .packaged)
    (regular : EntityName.IsRegular request.entity) (writes : request.withWrite = true)
    (ran : perform (generator.run request) before = (.ok result, after)) :
    (∀ view ∈ [View.new, .edit],
      (result.plan.Renders generator before (result.plan.viewFile view)
            (String.ofList (result.plan.viewFile view).text) ∧
          (request.IsPlain generator.extensions →
            after.readContent (result.plan.paths.view view) =
              .ok (.text (String.ofList (result.plan.viewFile view).text)))) ∧
        (TemplateReference.ofForm result.plan).IsIncludedIn (result.plan.viewFile view).text ∧
        (request.HasUnmarkedNames → includedTemplates (result.plan.viewFile view).text =
          [TemplateReference.ofForm result.plan])) ∧
      result.plan.paths.view .form ∈ result.written ∧
      ((TemplateReference.ofForm result.plan).path request.bundle.path =
          result.plan.paths.view .form ↔
        '.' ∉ request.entity.toList ∧ generator.extensions.EndsReferences) := by
  obtain ⟨planned, _⟩ := took_of_run_eq_ok ran
  obtain ⟨requested, made, _, resolved⟩ := eq_of_plan planned
  have actions : result.plan.actions = ActionPlan.make result.plan.request.withWrite :=
    requested ▸ made
  have planViews : result.plan.views = [.index, .show, .form, .new, .edit] := by
    rw [GenerationPlan.views, requested, writes]
    rfl
  refine ⟨fun view listed => ?_, ?_, TemplateReference.path_ofForm_eq_iff resolved regular rfl⟩
  · have includes : view = .new ∨ view = .edit := by
      simpa using listed
    have member : result.plan.viewFile view ∈ result.plan.files := by
      refine GenerationPlan.viewFile_mem result.plan ?_
      rw [planViews]
      rcases includes with same | same <;> subst same <;> decide
    obtain ⟨text, rendered, included, read⟩ := exists_formInclude_text actions includes .empty
    have isText : (result.plan.viewFile view).text = text := PlannedFile.text_eq rendered
    refine ⟨⟨renders_text_of_run_eq_ok packaged ran member, fun plain =>
      held_text_of_run_eq_ok packaged plain ran member⟩, isText ▸ included, fun unmarked => ?_⟩
    rw [isText, includedTemplates, read (lacks_referenceMarks_of_plan planned unmarked)]
    rfl
  · rw [written_of_run_eq_ok ran]
    refine List.mem_map_of_mem (f := PlannedFile.path) (GenerationPlan.viewFile_mem result.plan ?_)
    rw [planViews]
    decide

/-- A request for an entity in a namespace. -/
def namespacedRequest : GenerationRequest where
  bundle := ⟨"Blog", "Acme", .ofString "b"⟩
  entity := "Blog.Post"
  metadata := ⟨[], [CodeText.ofString "id"]⟩
  withWrite := true

/-- The form of an entity in a namespace is not where the other views look for it. -/
theorem form_missed_of_namespace :
    ∃ result after, perform (run {} namespacedRequest) .empty = (.ok result, after) ∧
      (∀ view ∈ [View.new, .edit], includedTemplates (result.plan.viewFile view).text =
        [⟨"Blog".toList, "Post".toList, "form.html.twig".toList⟩]) ∧
      result.plan.paths.view .form ∈ result.written ∧
      TemplateReference.path namespacedRequest.bundle.path
          ⟨"Blog".toList, "Post".toList, "form.html.twig".toList⟩ ≠
        result.plan.paths.view .form := by
  have prepared : IsPrepared {} namespacedRequest .empty :=
    isPrepared_empty ⟨by decide, by decide, by decide, by decide⟩ rfl (by decide) (by decide +kernel)
  obtain ⟨result, after, ran⟩ := prepared.exists_run_eq_ok (by decide)
  obtain ⟨included, written, leads⟩ :=
    form_included_iff_of_run_eq_ok rfl prepared.regular.entity rfl ran
  have forms : ∀ plan ∈ (Generator.plan {} namespacedRequest).toOption,
      TemplateReference.ofForm plan = ⟨"Blog".toList, "Post".toList, "form.html.twig".toList⟩ := by
    decide +kernel
  have isForm := forms result.plan ((took_of_run_eq_ok ran).1 ▸ rfl)
  rw [isForm] at leads
  refine ⟨result, after, ran, fun view listed => ?_, written, fun same => ?_⟩
  · rw [← isForm]
    exact (included view listed).2.2 (by decide)
  · have noDot := (leads.mp same).1
    revert noDot
    decide

end Generator

end EntityScaffold
