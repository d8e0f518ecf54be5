import EntityScaffold.Proofs.Generated.ViewText
import EntityScaffold.Proofs.Generation.Success

/-
The texts of the files of a plan. With the packaged skeletons the text of a file depends on nothing but
the plan, so that a run which ends well has rendered the text of every file of its plan, and the files
of a plain request hold their texts at the end.
-/

namespace EntityScaffold

open FileTree (perform)

namespace PlannedFile

def text (file : PlannedFile) : List Char :=
  ((Library.packaged.renderText .empty file.skeleton file.bindings).toOption.map
    CodeText.replacing).getD []

variable {file : PlannedFile}

theorem text_eq {tree : FileTree} {chars : List Char}
    (rendered : Library.packaged.renderText tree file.skeleton file.bindings =
      .ok (CodeText.ofChars chars)) : file.text = chars := by
  have elsewhere : Library.packaged.renderText .empty file.skeleton file.bindings =
      .ok (CodeText.ofChars chars) := rendered
  rw [text, elsewhere]
  exact CodeText.replacing_ofChars chars

end PlannedFile

namespace GenerationPlan

variable (plan : GenerationPlan)

def views : List View :=
  [.index, .show] ++ if plan.request.withWrite then [.form, .new, .edit] else []

def viewFile (view : View) : PlannedFile :=
  ⟨viewSkeleton view, plan.paths.view view, Generated.viewBindings plan view⟩

def testFile : PlannedFile := ⟨"tests/test", plan.paths.test, plan.functionalTestContext.bindings⟩

def routingFiles : List PlannedFile :=
  plan.paths.routing.toList.map fun path =>
    ⟨routingSkeleton plan.format.text, path, plan.routingContext.bindings⟩

theorem files_eq : plan.files =
    plan.controllerFile :: (plan.views.map plan.viewFile ++ plan.testFile :: plan.routingFiles) := by
  unfold files laterFiles views
  cases plan.request.withWrite <;> rfl

theorem testFile_mem : plan.testFile ∈ plan.files := by
  rw [files_eq]
  exact List.mem_cons_of_mem _ (List.mem_append_right _ List.mem_cons_self)

theorem mem_files_of_mem_routingFiles {file : PlannedFile} (member : file ∈ plan.routingFiles) :
    file ∈ plan.files := by
  rw [files_eq]
  exact List.mem_cons_of_mem _ (List.mem_append_right _ (List.mem_cons_of_mem _ member))

theorem exists_routingFile (given : plan.paths.routing.isSome = true) :
    ∃ file ∈ plan.routingFiles, plan.paths.routing = some file.path := by
  obtain ⟨path, isPath⟩ := Option.isSome_iff_exists.mp given
  refine ⟨⟨routingSkeleton plan.format.text, path, plan.routingContext.bindings⟩, ?_, isPath⟩
  rw [routingFiles, isPath]
  exact List.mem_singleton.mpr rfl

theorem viewFile_mem {view : View} (member : view ∈ plan.views) : plan.viewFile view ∈ plan.files := by
  rw [files_eq]
  exact List.mem_cons_of_mem _ (List.mem_append_left _ (List.mem_map_of_mem member))

theorem Renders.text_eq {plan : GenerationPlan} {generator : Generator} {before : FileTree}
    {file : PlannedFile} {text : String} (renders : plan.Renders generator before file text)
    (packaged : generator.library = .packaged) : String.ofList file.text = text := by
  obtain ⟨_, _, _, _, _, rendered⟩ := renders
  rw [packaged] at rendered
  rw [PlannedFile.text_eq rendered, String.ofList_toList]

end GenerationPlan

namespace Generator

variable {generator : Generator} {request : GenerationRequest} {before after : FileTree}
  {result : GenerationResult} {file : PlannedFile}

theorem renders_text_of_run_eq_ok (packaged : generator.library = .packaged)
    (ran : perform (generator.run request) before = (.ok result, after))
    (member : file ∈ result.plan.files) :
    result.plan.Renders generator before file (String.ofList file.text) := by
  obtain ⟨planned, performed⟩ := took_of_run_eq_ok ran
  obtain ⟨requested, actions, _⟩ := eq_of_plan planned
  rw [← requested] at actions
  obtain ⟨took, _⟩ := took_of_takeSteps_eq_ok performed
  obtain ⟨earlier, later, split⟩ := List.append_of_mem (GenerationPlan.step_mem actions member)
  rw [split] at took
  obtain ⟨middle, early, late⟩ := Took.append_iff.mp took
  cases late with
  | cons taken _ =>
      obtain ⟨_, ⟨text, rendered, _⟩, _⟩ := grows_of_takeStep_eq_ok taken
      have renders : result.plan.Renders generator before file text :=
        ⟨earlier, later, middle, split, early, rendered⟩
      rwa [renders.text_eq packaged]

/-- The files of a plain request hold their texts when its run has ended well. -/
theorem held_text_of_run_eq_ok (packaged : generator.library = .packaged)
    (plain : request.IsPlain generator.extensions)
    (ran : perform (generator.run request) before = (.ok result, after))
    (member : file ∈ result.plan.files) :
    after.readContent file.path = .ok (.text (String.ofList file.text)) := by
  have keeps := Library.keepsTree_of_packaged packaged
  obtain ⟨text, renders, held⟩ := exists_held_of_run_eq_ok keeps plain ran member
  rwa [renders.text_eq packaged]

/-- The routing file is written last, so it holds its text whether or not the request is plain. -/
theorem held_routing_of_run_eq_ok (packaged : generator.library = .packaged)
    (ran : perform (generator.run request) before = (.ok result, after))
    (member : file ∈ result.plan.routingFiles) :
    file.path ∈ result.written ∧
      after.readContent file.path = .ok (.text (String.ofList file.text)) := by
  refine ⟨?_, ?_⟩
  · rw [written_of_run_eq_ok ran]
    exact List.mem_map_of_mem (result.plan.mem_files_of_mem_routingFiles member)
  · obtain ⟨path, given, rfl⟩ := List.mem_map.mp member
    obtain ⟨took, _⟩ := took_of_takeSteps_eq_ok (took_of_run_eq_ok ran).2
    -- no step comes behind that could write over the file
    have isLast : ∃ earlier, result.plan.steps = earlier ++
        [.file (GenerationPlan.routingSkeleton result.plan.format.text) path
          result.plan.routingContext.bindings] := by
      unfold GenerationPlan.steps GenerationPlan.routingSteps
      rw [Option.mem_toList.mp given]
      exact ⟨_, rfl⟩
    obtain ⟨earlier, split⟩ := isLast
    rw [split] at took
    obtain ⟨middle, early, late⟩ := Took.append_iff.mp took
    cases late with
    | cons taken nothing =>
        cases nothing
        obtain ⟨_, ⟨text, rendered, held⟩, _⟩ := grows_of_takeStep_eq_ok taken
        have renders : result.plan.Renders generator before
            ⟨GenerationPlan.routingSkeleton result.plan.format.text, path,
              result.plan.routingContext.bindings⟩ text :=
          ⟨earlier, [], middle, split, early, rendered⟩
        rw [renders.text_eq packaged]
        exact held

end Generator

end EntityScaffold
