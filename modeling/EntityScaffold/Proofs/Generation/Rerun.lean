import EntityScaffold.Proofs.FileTree.Overwriting
import EntityScaffold.Proofs.Generation.Refusal

/-
Running again. The controller that a run has written guards its outputs: as long as it stands, every
request with the same controller is refused. Once it is gone, whatever the other outputs hold, the
same request takes the same steps: where rendering can be repeated each skeleton gives its text again,
the directories are there, and each output is overwritten as a whole, so that the tree of the first run
comes back.
-/

namespace EntityScaffold

open FileTree (perform)
open GenerationStep (writtenLocations writtenLocations_cons)

variable {generator : Generator} {before middle after edited : FileTree}
  {steps : List GenerationStep}

/-! ### Steps that are taken again -/

namespace GenerationStep

/-- What a step needs of the tree that it has left: a directory of views is there. -/
def IsKept (tree : FileTree) : GenerationStep → Prop
  | .file _ _ _ => True
  | .viewDirectory path => FileTree.hasNul path = false ∧ tree.isDirectory path = true

end GenerationStep

namespace Generator

/-- A file that was written is written again, from a skeleton that gives the same text. -/
theorem perform_takeStep_file_again {skeleton : String} {path : Path} {bindings : Bindings}
    {text : String} {locations : List Location} (keeps : generator.library.KeepsTree)
    (differs : after.DiffersAt edited locations)
    (member : path.location ∈ locations) (held : after.readContent path = .ok (.text text))
    (rendered : generator.library.renderText edited skeleton bindings = .ok (.ofString text)) :
    perform (generator.takeStep (.file skeleton path bindings)) edited =
      (.ok [path], edited.put path.location (.file (.text text))) := by
  have plain := CodeText.surrogates?_eq_none_iff.mpr (CodeText.isPlain_ofString text)
  have chars : String.ofList (CodeText.ofString text).replacing = text :=
    CodeText.toStringReplacing_ofString text
  have wrote : perform (Library.renderFile.writeAt skeleton path (CodeText.ofString text).replacing)
      edited = (.ok (), edited.put path.location (.file (.text text))) := by
    rw [Library.renderFile.writeAt, chars, Work.perform_onTree,
      differs.perform_writeFile member held]
    rfl
  rw [perform_takeStep_file, Library.perform_renderFile, rendered, keeps]
  simp only [plain]
  rw [FileTree.perform_bind, wrote]
  rfl

theorem perform_takeStep_viewDirectory_again {path : Path} {locations : List Location}
    (differs : after.DiffersAt edited locations)
    (kept : (GenerationStep.viewDirectory path).IsKept after) :
    perform (generator.takeStep (.viewDirectory path)) edited = (.ok [], edited) := by
  rw [perform_takeStep_viewDirectory,
    FileTree.perform_makeDirectories_of_isDirectory kept.1 (differs.isDirectory kept.2)]
  rfl

end Generator

/-- Steps that were taken can be taken again where only their files differ from what they left, with a
library that repeats what was rendered; they write the same files and lead back to what they left. All
this happens behind a tree from which the skeletons are apart. -/
theorem Took.exists_again {other : Generator} {origin : FileTree} {reads : List String → Prop}
    {locations written made : List Location} (took : Took generator before steps after)
    (keeps : generator.library.KeepsTree) (otherKeeps : other.library.KeepsTree)
    (repeated : generator.library.IsRepeatedBy other.library reads)
    (apart : generator.library.IsApartFrom reads origin locations)
    (since : origin.Grows before written made) (earlier : written ⊆ locations)
    (within : writtenLocations steps ⊆ locations) (distinct : (writtenLocations steps).Nodup)
    (kept : ∀ step ∈ steps, step.IsKept after)
    (differs : after.DiffersAt edited (writtenLocations steps)) (paths : List Path) :
    ∃ last, perform (other.takeSteps paths steps) edited =
        (.ok (paths ++ steps.flatMap GenerationStep.written), last) ∧
      ∀ location, last.get? location = after.get? location := by
  induction took generalizing edited paths written made with
  | nil tree =>
      refine ⟨edited, ?_, fun location => differs.same location List.not_mem_nil⟩
      rw [List.flatMap_nil, List.append_nil]
      rfl
  | @cons before middle after step steps stepPaths taken others ih =>
      have whole : Took generator before (step :: steps) after := .cons taken others
      have first : Took generator before [step] middle := .cons taken (.nil middle)
      -- up to here and from here on, nothing is written but at the locations that are apart
      have sinceWhole := since.trans ((whole.grows_ways keeps).trans differs.grows)
      have sinceFirst := since.trans (first.grows_ways keeps)
      have wholeWithin : written ++ (writtenLocations (step :: steps) ++
          writtenLocations (step :: steps)) ⊆ locations :=
        List.append_subset.mpr ⟨earlier, List.append_subset.mpr ⟨within, within⟩⟩
      have alike : generator.library.SameSkeletons reads before edited :=
        (apart.sameSkeletons since earlier).symm.trans (apart.sameSkeletons sinceWhole wholeWithin)
      rw [writtenLocations_cons] at distinct differs within
      obtain ⟨stepWithin, withinLater⟩ := List.append_subset.mp within
      have firstWithin : written ++ writtenLocations [step] ⊆ locations := by
        rw [writtenLocations_cons, List.append_subset, List.append_subset]
        exact ⟨earlier, stepWithin, List.nil_subset _⟩
      have distinctLater := (List.nodup_append.mp distinct).2.1
      have keptLater : ∀ other ∈ steps, other.IsKept after := fun other member =>
        kept other (List.mem_cons_of_mem step member)
      rw [Generator.perform_takeSteps_cons, List.flatMap_cons, ← List.append_assoc]
      cases step with
      | viewDirectory path =>
          rw [Generator.perform_takeStep_viewDirectory_again differs
            (kept _ List.mem_cons_self)]
          exact ih sinceFirst firstWithin withinLater distinctLater keptLater differs _
      | file skeleton path bindings =>
          obtain ⟨text, rendered, held⟩ := (Generator.grows_of_takeStep_eq_ok taken).2.1
          have fresh : path.location ∉ writtenLocations steps := (List.nodup_cons.mp distinct).1
          have heldAfter := (others.grows_ways keeps).readContent_eq_ok fresh held
          obtain ⟨_, _, standing⟩ := FileTree.readContent_eq_ok_iff.mp heldAfter
          have again := repeated before edited alike _ _ _ rendered
          rw [Generator.perform_takeStep_file_again otherKeeps differs List.mem_cons_self heldAfter
            again]
          exact ih sinceFirst firstWithin withinLater distinctLater keptLater
            (differs.put standing) _

/-! ### Runs -/

/-- A tree that was edited after a run: the controller is gone, and the other files of the run hold
anything. -/
structure GenerationResult.IsEdited (result : GenerationResult) (after edited : FileTree) : Prop where
  controller : edited.get? result.plan.paths.controller.location = none
  others : ∀ path ∈ result.written, path ≠ result.plan.paths.controller →
    ∃ content, edited.get? path.location = some (.file content)
  kept : ∀ location, location ∉ result.written.map Path.location →
    edited.get? location = after.get? location

namespace Generator

variable {request : GenerationRequest} {result : GenerationResult}

/-- While the controller of a run stands, every request for the same controller is refused. -/
theorem run_eq_refusal_of_controller {other : Generator} {again : GenerationRequest}
    (keeps : generator.library.KeepsTree) (plain : request.IsPlain generator.extensions)
    (ran : perform (generator.run request) before = (.ok result, after))
    (place : other.controllerPath again = generator.controllerPath request)
    (entity : again.entity = request.entity)
    (identifier : again.metadata.identifier = request.metadata.identifier) :
    perform (other.run again) after =
      (.error (.scaffold (.controllerAlreadyExists result.plan.paths.controller) []), after) := by
  obtain ⟨planned, _⟩ := took_of_run_eq_ok ran
  obtain ⟨text, _, held⟩ := exists_held_of_run_eq_ok keeps plain ran result.plan.controllerFile_mem
  obtain ⟨noNul, located, standing⟩ := FileTree.readContent_eq_ok_iff.mp held
  have controller := controller_eq_of_plan planned
  have holds : after.Holds result.plan.paths.controller := by
    refine ⟨noNul, .file (.text text), ?_⟩
    change after.lookup result.plan.controllerFile.path = _
    simp [FileTree.lookup, located, standing, bind, Except.bind, pure, Except.pure]
  have plannedAgain : ∃ plan, other.plan again = .ok plan := by
    rw [exists_plan_iff, entity, identifier]
    exact exists_plan_iff.mp ⟨_, planned⟩
  rw [run_eq_refusal_iff fun _ _ _ => by simp, place, ← controller]
  exact ⟨Or.inr ⟨plannedAgain, holds, rfl⟩, rfl, rfl⟩

theorem differsAt_of_isEdited (isEdited : result.IsEdited after edited)
    (keeps : generator.library.KeepsTree) (plain : request.IsPlain generator.extensions)
    (ran : perform (generator.run request) before = (.ok result, after)) :
    after.DiffersAt edited (writtenLocations result.plan.steps) := by
  have made := isMadeFor_of_plan (took_of_run_eq_ok ran).1 plain
  have written := written_of_run_eq_ok ran
  rw [writtenLocations_of_run_eq_ok plain ran]
  refine ⟨isEdited.kept, fun location member => ?_⟩
  obtain ⟨path, listed, same⟩ := List.mem_map.mp member
  subst same
  have inPlan := listed
  rw [written] at inPlan
  obtain ⟨file, inFiles, isPath⟩ := List.mem_map.mp inPlan
  subst isPath
  obtain ⟨text, _, held⟩ := exists_held_of_run_eq_ok keeps plain ran inFiles
  obtain ⟨_, _, standing⟩ := FileTree.readContent_eq_ok_iff.mp held
  refine ⟨by simp [standing], ?_⟩
  by_cases isController : file.path = result.plan.paths.controller
  · simp [isController, isEdited.controller]
  · obtain ⟨content, filed⟩ := isEdited.others _ listed isController
    simp [filed]

theorem isKept_of_run_eq_ok (keeps : generator.library.KeepsTree)
    (plain : request.IsPlain generator.extensions)
    (ran : perform (generator.run request) before = (.ok result, after)) :
    ∀ step ∈ result.plan.steps, step.IsKept after := by
  have made := isMadeFor_of_plan (took_of_run_eq_ok ran).1 plain
  intro step member
  cases step with
  | file skeleton path bindings => exact trivial
  | viewDirectory path =>
      rw [GenerationPlan.steps_eq made.actions] at member
      have isViewDir : path = result.plan.paths.viewDir := by
        simpa [PlannedFile.step] using member
      obtain ⟨text, _, held⟩ := exists_held_of_run_eq_ok keeps plain ran result.plan.indexFile_mem
      obtain ⟨noNul, _, _⟩ := FileTree.readContent_eq_ok_iff.mp held
      rw [isViewDir, made.viewDir_eq_parent]
      exact ⟨Path.hasNul_parent noNul, FileTree.isDirectory_parent_of_readContent held⟩

/-- Removing the controller is one way to edit the tree of a run. -/
theorem isEdited_unlinkAll (keeps : generator.library.KeepsTree)
    (plain : request.IsPlain generator.extensions)
    (ran : perform (generator.run request) before = (.ok result, after)) :
    result.IsEdited after (after.unlinkAll [result.plan.paths.controller.location]) := by
  have made := isMadeFor_of_plan (took_of_run_eq_ok ran).1 plain
  have standing {file : PlannedFile} (member : file ∈ result.plan.files) :
      ∃ content, after.get? file.path.location = some (.file content) := by
    obtain ⟨text, _, held⟩ := exists_held_of_run_eq_ok keeps plain ran member
    exact ⟨_, (FileTree.readContent_eq_ok_iff.mp held).2.2⟩
  refine ⟨?_, fun path written notController => ?_, fun location kept => ?_⟩
  · obtain ⟨content, filed⟩ := standing result.plan.controllerFile_mem
    have noDirectory : after.get? result.plan.controllerFile.path.location ≠ some .directory := by
      rw [filed]
      simp
    have notGiven := FileTree.isGiven_eq_false_of_get? noDirectory
    exact FileTree.get?_unlinkAll_of_mem notGiven List.mem_cons_self
  · rw [written_of_run_eq_ok ran] at written
    obtain ⟨file, member, same⟩ := List.mem_map.mp written
    subst same
    have elsewhere : file.path.location ∉ [result.plan.paths.controller.location] := by
      rcases List.mem_cons.mp member with isController | later
      · exact absurd (congrArg PlannedFile.path isController) notController
      · intro here
        refine (List.nodup_cons.mp made.locations_nodup).1 (List.mem_map.mpr ⟨file, later, ?_⟩)
        exact List.mem_singleton.mp here
    rw [FileTree.get?_unlinkAll_of_not_mem elsewhere]
    exact standing member
  · refine FileTree.get?_unlinkAll_of_not_mem fun here => kept ?_
    rw [List.mem_singleton.mp here, written_of_run_eq_ok ran]
    exact List.mem_map_of_mem (List.mem_map_of_mem result.plan.controllerFile_mem)

/-- After a run that ended well, every request for the same controller is refused and changes nothing.
But when the controller is removed and the other files of the run are changed at will, the same request
ends well again with every library that repeats what was rendered, with the same result, and leads back
to the tree of the first run. -/
theorem rerun_of_run_eq_ok (keeps : generator.library.KeepsTree)
    (plain : request.IsPlain generator.extensions)
    (ran : perform (generator.run request) before = (.ok result, after)) :
    (∀ (other : Generator) (again : GenerationRequest),
        other.extensions.source = generator.extensions.source →
        again.bundle.path = request.bundle.path → again.entity = request.entity →
        again.controllerDir = request.controllerDir →
        again.metadata.identifier = request.metadata.identifier →
        perform (other.run again) after =
          (.error (.scaffold (.controllerAlreadyExists result.plan.paths.controller) []), after)) ∧
      ∀ (again : Library) (reads : List String → Prop), again.KeepsTree →
        generator.library.IsRepeatedBy again reads →
        generator.library.IsApartFrom reads before (result.written.map Path.location) →
        ∀ edited, result.IsEdited after edited →
          ∃ last, perform (run ⟨again, generator.extensions⟩ request) edited = (.ok result, last) ∧
            ∀ location, last.get? location = after.get? location := by
  constructor
  · intro other again source root entity directory identifier
    refine run_eq_refusal_of_controller keeps plain ran ?_ entity identifier
    rw [controllerPath, controllerPath, source, root, entity, directory]
  · intro again reads againKeeps repeated apart edited isEdited
    obtain ⟨planned, performed⟩ := took_of_run_eq_ok ran
    have made := isMadeFor_of_plan planned plain
    obtain ⟨took, listed⟩ := took_of_takeSteps_eq_ok performed
    have differs := differsAt_of_isEdited isEdited keeps plain ran
    rw [← writtenLocations_of_run_eq_ok plain ran] at apart
    obtain ⟨last, takenAgain, same⟩ := @Took.exists_again generator before after edited
      result.plan.steps ⟨again, generator.extensions⟩ before reads _ [] [] took keeps againKeeps
      repeated apart (FileTree.Grows.refl before [] []) (List.nil_subset _) (List.Subset.refl _)
      made.writtenLocations_nodup (isKept_of_run_eq_ok keeps plain ran) differs []
    obtain ⟨text, _, held⟩ := exists_held_of_run_eq_ok keeps plain ran result.plan.controllerFile_mem
    have absent : edited.exists? result.plan.paths.controller = .ok false :=
      differs.exists?_eq_false held isEdited.controller
    have plannedAgain : Generator.plan ⟨again, generator.extensions⟩ request = .ok result.plan :=
      planned
    refine ⟨last, ?_, same⟩
    rw [perform_run_of_plan plannedAgain, FileTree.perform_bind, perform_requireNoController, absent]
    dsimp only
    rw [FileTree.perform_bind, takenAgain, ← listed]
    rfl

theorem rerun_of_annotated_run :
    ∃ result after edited last,
      perform (run smallGenerator annotatedRequest) skeletonTree = (.ok result, after) ∧
        perform (run {} { annotatedRequest with format := "xml", withWrite := true }) after =
          (.error (.scaffold (.controllerAlreadyExists result.plan.paths.controller) []), after) ∧
        result.IsEdited after edited ∧
        perform (run smallGenerator annotatedRequest) edited = (.ok result, last) ∧
        ∀ location, last.get? location = after.get? location := by
  have plain : annotatedRequest.IsPlain {} := ⟨by decide, by decide, by decide⟩
  have root : annotatedRequest.bundle.path.location = ["b"] := by decide
  have keeps : smallGenerator.library.KeepsTree := Library.simple_keepsTree _
  obtain ⟨result, after, ran⟩ := exists_annotated_run
  have apart := isApartFrom_skeletonTree (head?_location_of_written plain root ran)
  have isEdited := isEdited_unlinkAll keeps plain ran
  obtain ⟨refused, repeated⟩ := rerun_of_run_eq_ok keeps plain ran
  obtain ⟨last, again, same⟩ := repeated _ _ keeps (Library.simple_isRepeatedBy _) apart _ isEdited
  exact ⟨result, after, _, last, ran, refused {} _ rfl rfl rfl rfl rfl, isEdited, again, same⟩

end Generator

end EntityScaffold
