import EntityScaffold.Proofs.Generation.Success
import EntityScaffold.Proofs.OutputPaths.Shared

/-
Two runs in the same bundle. When both controllers lie below the top level, the runs meet in the
files that the check for a controller guards, or else only in the routing file. So a run whose
controller has a path of its own leaves every file of an earlier run as it was, but for a routing file
that both write.
-/

namespace EntityScaffold

open FileTree (perform)

namespace Generator

variable {generator : Generator} {request : GenerationRequest} {before middle after : FileTree}
  {plan : GenerationPlan} {extensions : Extensions}

def paths? (generator : Generator) (request : GenerationRequest) : Option OutputPaths :=
  OutputPaths.resolve? request.bundle.path request.entity request.controllerDir
    (RoutingFormat.negotiate request.format) generator.extensions

theorem paths?_of_plan (planned : generator.plan request = .ok plan) :
    generator.paths? request = some plan.paths := by
  obtain ⟨_, _, format, resolved⟩ := eq_of_plan planned
  rwa [format] at resolved

def placement (generator : Generator) (request : GenerationRequest) (paths : OutputPaths) :
    Placement :=
  ⟨request.entity, paths.entity, request.controllerDir, RoutingFormat.negotiate request.format,
    generator.extensions⟩

theorem exists_isLaidOut (plain : request.IsPlain generator.extensions) :
    ∃ paths, generator.paths? request = some paths ∧
      paths.IsLaidOut request.bundle.path (generator.placement request paths) := by
  have split := EntityName.split?_eq_some_iff.mpr ⟨plain.entity.classChars_ne_nil, rfl⟩
  have resolves := OutputPaths.isSome_resolve? request.bundle.path request.controllerDir
    (RoutingFormat.negotiate request.format) generator.extensions split
  obtain ⟨paths, resolved⟩ := Option.isSome_iff_exists.mp resolves
  exact ⟨paths, resolved, OutputPaths.isLaidOut_of_resolve? resolved plain.entity.slash_not_mem
    plain.entity.head?_ne_dot plain.sourceExtension plain.viewExtension⟩

/-- The files of a plan have the paths that are resolved, and lead down from the root. -/
theorem mem_filePaths_of_mem_files (made : plan.IsMadeFor request extensions) {file : PlannedFile}
    (member : file ∈ plan.files) :
    file.path ∈ plan.paths.filePaths ∧
      ∃ names, ".." ∉ names ∧ file.path = request.bundle.path.descend names := by
  obtain ⟨output, planned, place⟩ := made.exists_output member
  refine ⟨?_, _, Placement.up_not_mem_names made.sound output, place⟩
  rw [OutputPaths.mem_filePaths_iff]
  by_cases routing : output = .routing
  · subst routing
    right
    rw [made.laidOut.routing, if_pos, place]
    cases given : plan.format.hasFile with
    | true => exact given
    | false =>
        rw [GenerationPlan.outputs, given] at planned
        cases plan.request.withWrite <;> simp at planned
  · exact Or.inl (made.laidOut.mem_guarded_iff.mpr ⟨output, routing, place⟩)

/-- A run leaves every file alone whose location is that of none of its own files. -/
theorem readContent_of_run_eq_ok {result : GenerationResult} {path : Path} {content : Content}
    (keeps : generator.library.KeepsTree) (plain : request.IsPlain generator.extensions)
    (ran : perform (generator.run request) before = (.ok result, after))
    (held : before.readContent path = .ok content)
    (apart : ∀ file ∈ result.plan.files, file.path.location ≠ path.location) :
    after.readContent path = .ok content := by
  obtain ⟨planned, performed⟩ := took_of_run_eq_ok ran
  have made := isMadeFor_of_plan planned plain
  obtain ⟨took, _⟩ := took_of_takeSteps_eq_ok performed
  refine (took.grows_ways keeps).readContent_eq_ok ?_ held
  rw [made.writtenLocations_steps]
  intro member
  obtain ⟨file, listed, same⟩ := List.mem_map.mp member
  exact apart file listed same

/-- Two runs with controllers below the top level share a guarded file just when they share the
controller, and beside guarded files only the routing file, which is the same for two requests when
format and stem are. So a run with a controller of its own leaves the files of an earlier run as they
are, except for a routing file of both. -/
theorem shared_files_of_requests {generator other : Generator} {first second : GenerationRequest}
    (sameRoot : second.bundle.path = first.bundle.path)
    (sameExtensions : other.extensions = generator.extensions)
    (firstPlain : first.IsPlain generator.extensions) (secondPlain : second.IsPlain other.extensions)
    (firstInside : ControllerDir.IsInTopLevel first.controllerDir)
    (secondInside : ControllerDir.IsInTopLevel second.controllerDir) :
    ∃ left right, generator.paths? first = some left ∧ other.paths? second = some right ∧
      ((∃ path ∈ left.guarded, path ∈ right.guarded) ↔ left.controller = right.controller) ∧
      (∀ path ∈ left.filePaths, path ∈ right.filePaths →
        (path ∈ left.guarded ∧ path ∈ right.guarded) ∨
          (left.routing = some path ∧ right.routing = some path)) ∧
      ((∃ path, left.routing = some path ∧ right.routing = some path) ↔
        RoutingFormat.negotiate first.format = RoutingFormat.negotiate second.format ∧
          RoutingFormat.negotiate first.format ≠ .annotations ∧
          EntityName.fileStem first.entity = EntityName.fileStem second.entity) ∧
      ∀ before middle after result later, generator.library.KeepsTree → other.library.KeepsTree →
        perform (generator.run first) before = (.ok result, middle) →
        perform (other.run second) middle = (.ok later, after) →
        left.controller ≠ right.controller →
        ∀ path ∈ result.written, ¬(left.routing = some path ∧ right.routing = some path) →
          ∃ content, middle.readContent path = .ok content ∧
            after.readContent path = .ok content := by
  obtain ⟨left, resolvedLeft, onLeft⟩ := exists_isLaidOut firstPlain
  obtain ⟨right, resolvedRight, onRight⟩ := exists_isLaidOut secondPlain
  have compares : (generator.placement first left).Compares (other.placement second right) :=
    ⟨sameExtensions.symm, firstInside, secondInside⟩
  rw [sameRoot] at onRight
  have shared := OutputPaths.exists_shared_guarded_iff compares onLeft onRight
  refine ⟨left, right, resolvedLeft, resolvedRight, shared, ?_,
    OutputPaths.exists_shared_routing_iff onLeft onRight, ?_⟩
  · intro path inLeft inRight
    exact OutputPaths.guarded_or_routing_of_shared compares onLeft onRight inLeft inRight
  · intro before middle after result later keeps otherKeeps firstRan secondRan different path written
      notRouting
    obtain ⟨firstPlanned, firstPerformed⟩ := took_of_run_eq_ok firstRan
    obtain ⟨secondPlanned, _⟩ := took_of_run_eq_ok secondRan
    have firstMade := isMadeFor_of_plan firstPlanned firstPlain
    have secondMade := isMadeFor_of_plan secondPlanned secondPlain
    have leftPaths : result.plan.paths = left :=
      Option.some.inj ((paths?_of_plan firstPlanned).symm.trans resolvedLeft)
    have rightPaths : later.plan.paths = right :=
      Option.some.inj ((paths?_of_plan secondPlanned).symm.trans resolvedRight)
    have listed : result.written = result.plan.files.map PlannedFile.path := by
      rw [(took_of_takeSteps_eq_ok firstPerformed).2, List.nil_append,
        GenerationPlan.written_steps firstMade.actions]
    rw [listed] at written
    obtain ⟨file, inPlan, samePath⟩ := List.mem_map.mp written
    subst samePath
    obtain ⟨text, _, held⟩ := exists_held_of_run_eq_ok keeps firstPlain firstRan inPlan
    refine ⟨.text text, held, readContent_of_run_eq_ok otherKeeps secondPlain secondRan held ?_⟩
    -- a file of both runs would be guarded, so that the controllers were the same
    intro otherFile inOther samePlace
    obtain ⟨inLeft, names, down, place⟩ := mem_filePaths_of_mem_files firstMade inPlan
    obtain ⟨inRight, otherNames, otherDown, otherPlace⟩ :=
      mem_filePaths_of_mem_files secondMade inOther
    rw [leftPaths] at inLeft
    rw [rightPaths] at inRight
    have same : otherFile.path = file.path := by
      rw [place, otherPlace, sameRoot, Path.location_descend down,
        Path.location_descend otherDown] at samePlace
      rw [place, otherPlace, sameRoot, List.append_cancel_left samePlace]
    rw [same] at inRight
    rcases OutputPaths.guarded_or_routing_of_shared compares onLeft onRight inLeft inRight with
      ⟨guardedLeft, guardedRight⟩ | both
    · exact different (shared.mp ⟨_, guardedLeft, guardedRight⟩)
    · exact notRouting both

/-- A request whose entity bears the name of another one in a namespace of its own. -/
def nestedRequest : GenerationRequest := { annotatedRequest with entity := "Admin.Post" }

theorem files_kept_after_nested_run :
    ∃ result middle later after,
      perform (run smallGenerator annotatedRequest) skeletonTree =
          (.ok result, middle) ∧
        perform (run smallGenerator nestedRequest) middle = (.ok later, after) ∧
        ∀ path ∈ result.written, ∃ content, middle.readContent path = .ok content ∧
          after.readContent path = .ok content := by
  have secondEnds : (perform (run smallGenerator nestedRequest)
      (perform (run smallGenerator annotatedRequest) skeletonTree).2).1.isOk =
        true := by decide +kernel
  have keeps : smallGenerator.library.KeepsTree := Library.simple_keepsTree _
  have firstPlain : annotatedRequest.IsPlain {} := ⟨by decide, by decide, by decide⟩
  have secondPlain : nestedRequest.IsPlain {} := ⟨by decide, by decide, by decide⟩
  obtain ⟨left, right, resolvedLeft, resolvedRight, _, _, routing, kept⟩ :=
    @shared_files_of_requests smallGenerator smallGenerator
      annotatedRequest nestedRequest rfl rfl firstPlain secondPlain (Or.inl (by decide))
      (Or.inl (by decide))
  have controllers : (paths? smallGenerator annotatedRequest).map (·.controller) ≠
      (paths? smallGenerator nestedRequest).map (·.controller) := by decide
  rw [resolvedLeft, resolvedRight] at controllers
  obtain ⟨result, middle, firstRan⟩ := exists_annotated_run
  rw [firstRan] at secondEnds
  obtain ⟨later, after, secondRan⟩ := exists_eq_ok_of_fst_isOk secondEnds
  refine ⟨result, middle, later, after, firstRan, secondRan, fun path written => ?_⟩
  have different : left.controller ≠ right.controller := fun same =>
    controllers (congrArg some same)
  refine kept _ _ _ _ _ keeps keeps firstRan secondRan different path written fun both => ?_
  exact (routing.mp ⟨path, both⟩).2.1 (by decide)

end Generator

end EntityScaffold
