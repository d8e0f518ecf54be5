import EntityScaffold.Proofs.Generation.Rendering
import EntityScaffold.Proofs.Generation.Room
import EntityScaffold.Proofs.OutputPaths.NulFree

/-
Runs into an empty bundle. With the packaged skeletons every file of the plan has a text, and there is
room for all of them, so the run ends well; the one thing that stops it is a NUL in the root of the
bundle, which no request is checked for.
-/

namespace EntityScaffold

open FileTree (perform)

/-- What is asked of a run into an empty bundle: the packaged skeletons are used, the entity has one
identifier and a regular name, no part of the request that goes into a path holds a NUL or is too
long, and nothing stands in the bundle. -/
structure Generator.IsPrepared (generator : Generator) (request : GenerationRequest)
    (before : FileTree) : Prop where
  packaged : generator.library = .packaged
  regular : request.IsRegular generator.extensions
  identifier : request.metadata.identifier = [CodeText.ofString "id"]
  entity : NulFree request.entity
  controllerDir : NulFree request.controllerDir
  sourceExtension : NulFree generator.extensions.source
  viewExtension : NulFree generator.extensions.view
  fits : ∀ plan, generator.plan request = .ok plan → ∀ file ∈ plan.files, file.path.Fits
  vacant : before.IsVacant request.bundle.path

namespace Generator

variable {generator : Generator} {request : GenerationRequest} {before after : FileTree}
  {plan : GenerationPlan}

theorem exists_plan (regular : request.IsRegular generator.extensions)
    (identifier : request.metadata.identifier = [CodeText.ofString "id"]) :
    ∃ plan, generator.plan request = .ok plan := by
  have valid : request.metadata.validate = .ok () := by
    have listed : [CodeText.ofString "id"].contains (CodeText.ofString "id") = true := by decide
    unfold EntityMetadata.validate
    rw [identifier, listed]
    rfl
  obtain ⟨name, split⟩ : ∃ name, EntityName.split? request.entity = some name :=
    ⟨_, EntityName.split?_eq_some_iff.mpr ⟨regular.entity.classChars_ne_nil, rfl⟩⟩
  have resolves := OutputPaths.isSome_resolve? request.bundle.path request.controllerDir
    (RoutingFormat.negotiate request.format) generator.extensions split
  obtain ⟨paths, resolved⟩ := Option.isSome_iff_exists.mp resolves
  refine ⟨⟨request, ActionPlan.make request.withWrite, RoutingFormat.negotiate request.format, paths⟩,
    ?_⟩
  unfold Generator.plan
  rw [valid]
  simp only [bind, Except.bind, resolved]
  rfl

namespace IsPrepared

theorem isNulFree (prepared : generator.IsPrepared request before)
    (made : plan.IsMadeFor request generator.extensions) :
    (plan.placement generator.extensions).IsNulFree := by
  refine
    { entity := ?_
      controllerDir := ?_
      sourceExtension := prepared.sourceExtension
      viewExtension := prepared.viewExtension }
  · rw [GenerationPlan.placement, made.requested]
    exact prepared.entity
  · rw [GenerationPlan.placement, made.requested]
    exact prepared.controllerDir

theorem hasNul_path_iff (prepared : generator.IsPrepared request before)
    (made : plan.IsMadeFor request generator.extensions) {file : PlannedFile}
    (member : file ∈ plan.files) :
    FileTree.hasNul file.path = false ↔ FileTree.hasNul request.bundle.path = false := by
  obtain ⟨output, _, same⟩ := made.exists_output member
  rw [same]
  exact hasNul_descend_eq_false_iff fun _ inNames =>
    Placement.nulFree_names made.sound (prepared.isNulFree made) inNames

theorem isUsable (prepared : generator.IsPrepared request before)
    (planned : generator.plan request = .ok plan)
    (noNul : FileTree.hasNul request.bundle.path = false) {file : PlannedFile}
    (member : file ∈ plan.files) : file.path.IsUsable := by
  have made := isMadeFor_of_plan planned prepared.regular.isPlain
  refine ⟨?_, (prepared.hasNul_path_iff made member).mpr noNul, prepared.fits plan planned file member⟩
  obtain ⟨output, _, same⟩ := made.exists_output member
  rw [same]
  exact Path.up_not_mem_descend prepared.regular.root (Placement.up_not_mem_names made.sound output)

/-- All steps of the plan are ready, unless there is a NUL in the root of the bundle. -/
theorem isReady (prepared : generator.IsPrepared request before)
    (planned : generator.plan request = .ok plan)
    (noNul : FileTree.hasNul request.bundle.path = false) :
    ∀ step ∈ plan.steps, step.IsReady generator.library request.bundle.path
      (plan.placement generator.extensions) := by
  have made := isMadeFor_of_plan planned prepared.regular.isPlain
  have fileReady : ∀ file ∈ plan.files, file.step.IsReady generator.library request.bundle.path
      (plan.placement generator.extensions) := by
    intro file member
    have usable := prepared.isUsable planned noNul member
    obtain ⟨output, _, same⟩ := made.exists_output member
    rw [same] at usable
    rw [PlannedFile.step, same]
    refine .file output usable fun tree => ?_
    rw [prepared.packaged]
    exact GenerationPlan.exists_text made.isRouted member tree
  intro step member
  rw [GenerationPlan.steps_eq made.actions] at member
  rcases List.mem_cons.mp member with isController | later
  · rw [isController]
    exact fileReady _ List.mem_cons_self
  · rcases List.mem_cons.mp later with isViewDir | isFile
    · have usable : (plan.paths.view .index).parent.IsUsable :=
        (prepared.isUsable planned noNul plan.indexFile_mem).parent
      rw [← made.viewDir_eq_parent, made.laidOut.viewDir] at usable
      rw [isViewDir, made.laidOut.viewDir]
      exact .viewDirectory usable
    · obtain ⟨file, listed, same⟩ := List.mem_map.mp isFile
      rw [← same]
      exact fileReady file (List.mem_cons_of_mem _ listed)

end IsPrepared

theorem IsPrepared.hasNul_eq_false (prepared : generator.IsPrepared request before)
    {result : GenerationResult}
    (ran : perform (generator.run request) before = (.ok result, after)) :
    FileTree.hasNul request.bundle.path = false := by
  obtain ⟨planned, performed⟩ := took_of_run_eq_ok ran
  have made := isMadeFor_of_plan planned prepared.regular.isPlain
  obtain ⟨took, _⟩ := took_of_takeSteps_eq_ok performed
  rw [GenerationPlan.steps_eq made.actions] at took
  cases took with
  | cons taken others =>
      obtain ⟨_, ⟨text, _, held⟩, _⟩ := grows_of_takeStep_eq_ok taken
      obtain ⟨noNul, _, _⟩ := FileTree.readContent_eq_ok_iff.mp held
      have listed : result.plan.controllerFile ∈ result.plan.files := List.mem_cons_self
      exact (prepared.hasNul_path_iff made listed).mp noNul

theorem IsPrepared.exists_run_eq_ok (prepared : generator.IsPrepared request before)
    (noNul : FileTree.hasNul request.bundle.path = false) :
    ∃ result after, perform (generator.run request) before = (.ok result, after) := by
  obtain ⟨plan, planned⟩ := exists_plan prepared.regular prepared.identifier
  have made := isMadeFor_of_plan planned prepared.regular.isPlain
  have listed : plan.controllerFile ∈ plan.files := List.mem_cons_self
  have controllerUsable := prepared.isUsable planned noNul listed
  have isController : plan.controllerFile.path = request.bundle.path.descend
      ((plan.placement generator.extensions).names .controller) := made.laidOut.controller
  rw [isController] at controllerUsable
  have absent := prepared.vacant.exists?_eq_false made.sound prepared.regular.root controllerUsable
  rw [← made.laidOut.controller] at absent
  have room := prepared.vacant.hasRoom made.sound
  obtain ⟨written, after, taken⟩ : ∃ written after,
      perform (generator.takeSteps [] plan.steps) before = (.ok written, after) :=
    exists_takeSteps_eq_ok (Library.keepsTree_of_packaged prepared.packaged)
      (prepared.isReady planned noNul) made.sound prepared.regular.root room
  refine ⟨⟨plan, written⟩, after, ?_⟩
  rw [perform_run, planned]
  dsimp only
  rw [absent]
  dsimp only
  rw [FileTree.perform_bind, taken]
  rfl

/-- A run into an empty bundle ends well just when there is no NUL in the root of the bundle. In any
case all files of its plan have a text, and none stands in the way of another one. -/
theorem exists_run_eq_ok_iff (prepared : generator.IsPrepared request before) :
    ((∃ result after, perform (generator.run request) before = (.ok result, after)) ↔
        FileTree.hasNul request.bundle.path = false) ∧
      ∃ plan, generator.plan request = .ok plan ∧
        (∀ file ∈ plan.files, ∀ tree, ∃ text,
          generator.library.renderText tree file.skeleton file.bindings =
            .ok (CodeText.ofString text)) ∧
        (plan.files.Pairwise fun first second =>
          ¬first.path.IsWithin second.path ∧ ¬second.path.IsWithin first.path) ∧
        ∀ file ∈ plan.files, ¬plan.paths.viewDir.IsWithin file.path := by
  refine ⟨⟨?_, prepared.exists_run_eq_ok⟩, ?_⟩
  · rintro ⟨result, after, ran⟩
    exact prepared.hasNul_eq_false ran
  · obtain ⟨plan, planned⟩ := exists_plan prepared.regular prepared.identifier
    have made := isMadeFor_of_plan planned prepared.regular.isPlain
    refine ⟨plan, planned, ?_, made.files_apart, fun file member => made.viewDir_apart member⟩
    intro file member tree
    rw [prepared.packaged]
    exact GenerationPlan.exists_text made.isRouted member tree

/-- A run into a vacant bundle is prepared when the paths of its plan are known to fit. -/
theorem isPrepared_of_isVacant (vacant : before.IsVacant request.bundle.path)
    (regular : request.IsRegular {})
    (identifier : request.metadata.identifier = [CodeText.ofString "id"])
    (noNul : NulFree request.entity ∧ NulFree request.controllerDir)
    (fits : ∀ plan ∈ (Generator.plan {} request).toOption, ∀ file ∈ plan.files, file.path.Fits) :
    IsPrepared {} request before where
  packaged := rfl
  regular := regular
  identifier := identifier
  entity := noNul.1
  controllerDir := noNul.2
  sourceExtension := by decide
  viewExtension := by decide
  fits := fun plan planned => fits plan (planned ▸ rfl)
  vacant := vacant

theorem isPrepared_empty (regular : request.IsRegular {})
    (identifier : request.metadata.identifier = [CodeText.ofString "id"])
    (noNul : NulFree request.entity ∧ NulFree request.controllerDir)
    (fits : ∀ plan ∈ (Generator.plan {} request).toOption, ∀ file ∈ plan.files, file.path.Fits) :
    IsPrepared {} request .empty :=
  isPrepared_of_isVacant (FileTree.isVacant_empty request.bundle.path) regular identifier noNul fits

def emptyBundleRequest (root : Path) : GenerationRequest where
  bundle := ⟨"Blog", "Acme", root⟩
  entity := "Post"
  metadata := ⟨[], [CodeText.ofString "id"]⟩

def emptyBundlePlacement : Placement := ⟨"Post", ⟨"", "Post"⟩, ControllerDir.topLevel, .yaml, {}⟩

theorem isPrepared_emptyBundle {root : Path} (down : ".." ∉ root.parts)
    (fits : ∀ output ∈ Output.all, (root.descend (emptyBundlePlacement.names output)).Fits) :
    IsPrepared {} (emptyBundleRequest root) .empty := by
  have name : EntityName.IsRegular "Post" ∧ NulFree "Post" := by decide
  have directory : NulFree ControllerDir.topLevel := by decide
  have regular : (emptyBundleRequest root).IsRegular {} := ⟨name.1, by decide, by decide, down⟩
  refine
    { packaged := rfl
      regular := regular
      identifier := rfl
      entity := name.2
      controllerDir := directory
      sourceExtension := by decide
      viewExtension := by decide
      fits := ?_
      vacant := FileTree.isVacant_empty root }
  intro plan planned file member
  have made := isMadeFor_of_plan planned regular.isPlain
  have split : EntityName.split? "Post" = some ⟨"", "Post"⟩ := by decide
  have placement : plan.placement {} = emptyBundlePlacement := by
    have format : plan.format = .yaml := made.format
    have entity : EntityName.split? plan.request.entity = some plan.paths.entity := made.sound.split
    rw [made.requested] at entity
    have name : plan.paths.entity = ⟨"", "Post"⟩ := Option.some.inj (entity.symm.trans split)
    rw [GenerationPlan.placement, made.requested, format, name]
    rfl
  obtain ⟨output, _, same⟩ := made.exists_output member
  rw [same, placement]
  exact fits output output.mem_all

theorem exists_run_of_prepared :
    IsPrepared {} (emptyBundleRequest ⟨.relative, ["b"]⟩) .empty ∧
      ∃ result after,
        perform (run {} (emptyBundleRequest ⟨.relative, ["b"]⟩)) .empty = (.ok result, after) := by
  have prepared : IsPrepared {} (emptyBundleRequest ⟨.relative, ["b"]⟩) .empty :=
    isPrepared_emptyBundle (by decide) (by decide +kernel)
  exact ⟨prepared, (exists_run_eq_ok_iff prepared).1.mpr (by decide)⟩

/-- A run is prepared for a root with a NUL in it as for any other, and fails. -/
theorem not_exists_run_of_nul :
    IsPrepared {} (emptyBundleRequest ⟨.relative, ["a\x00b"]⟩) .empty ∧
      ¬∃ result after,
        perform (run {} (emptyBundleRequest ⟨.relative, ["a\x00b"]⟩)) .empty = (.ok result, after) := by
  have prepared : IsPrepared {} (emptyBundleRequest ⟨.relative, ["a\x00b"]⟩) .empty :=
    isPrepared_emptyBundle (by decide) (by decide +kernel)
  refine ⟨prepared, ?_⟩
  rintro ⟨result, after, ran⟩
  have noNul := prepared.hasNul_eq_false ran
  revert noNul
  decide

end Generator

end EntityScaffold
