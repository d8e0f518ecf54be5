import EntityScaffold.Proofs.Generation.Sequence
import EntityScaffold.Proofs.OutputPaths.Apart

/-
What a plan calls for. The files of a plan stand in the order in which they are written; between the
first and the second the directory of the views is made. The files have places of their own, and
none stands where a directory above another one, or the directory of the views, has to be.
-/

namespace EntityScaffold

/-- A file that a plan calls for: its skeleton, its path, and what the skeleton is filled with. -/
structure PlannedFile where
  skeleton : String
  path : Path
  bindings : Bindings

def PlannedFile.step (file : PlannedFile) : GenerationStep :=
  .file file.skeleton file.path file.bindings

namespace GenerationPlan

variable (plan : GenerationPlan)

def controllerFile : PlannedFile :=
  ⟨"controller", plan.paths.controller, plan.controllerContext.bindings⟩

def indexFile : PlannedFile :=
  ⟨viewSkeleton .index, plan.paths.view .index, plan.indexViewContext.bindings⟩

def formFile (view : View) : PlannedFile :=
  ⟨viewSkeleton view, plan.paths.view view, plan.formViewContext.bindings⟩

/-- The files of a plan behind the controller. -/
def laterFiles : List PlannedFile :=
  [⟨viewSkeleton .index, plan.paths.view .index, plan.indexViewContext.bindings⟩,
    ⟨viewSkeleton .show, plan.paths.view .show, plan.showViewContext.bindings⟩] ++
    (if plan.request.withWrite then [plan.formFile .form, plan.formFile .new, plan.formFile .edit]
      else []) ++
    [⟨"tests/test", plan.paths.test, plan.functionalTestContext.bindings⟩] ++
    plan.paths.routing.toList.map fun path =>
      ⟨routingSkeleton plan.format.text, path, plan.routingContext.bindings⟩

/-- The files of a plan: the controller, the index and the show view, the form, the new and the edit
view if records are written, the functional test, and the routing file if there is one. -/
def files : List PlannedFile := plan.controllerFile :: plan.laterFiles

theorem controllerFile_mem : plan.controllerFile ∈ plan.files := List.mem_cons_self

theorem indexFile_mem : plan.indexFile ∈ plan.files := by
  simp [files, laterFiles, indexFile]

def outputs : List Output :=
  [.controller, .view .index, .view .show] ++
    (if plan.request.withWrite then [.view .form, .view .new, .view .edit] else []) ++ [.test] ++
    (if plan.format.hasFile then [.routing] else [])

/-- The places of the outputs of a plan with the given extensions. -/
def placement (extensions : Extensions) : Placement :=
  ⟨plan.request.entity, plan.paths.entity, plan.request.controllerDir, plan.format, extensions⟩

theorem outputs_nodup : plan.outputs.Nodup := by
  unfold outputs
  cases plan.request.withWrite <;> cases plan.format.hasFile <;> decide

end GenerationPlan

namespace Generator

variable {generator : Generator} {request : GenerationRequest} {plan : GenerationPlan}

/-- What a plan holds, when a request has one. -/
theorem eq_of_plan (planned : generator.plan request = .ok plan) :
    plan.request = request ∧ plan.actions = ActionPlan.make request.withWrite ∧
      plan.format = RoutingFormat.negotiate request.format ∧
      OutputPaths.resolve? request.bundle.path request.entity request.controllerDir plan.format
        generator.extensions = some plan.paths := by
  unfold Generator.plan at planned
  cases valid : request.metadata.validate with
  | error error =>
      rw [valid] at planned
      cases planned
  | ok done =>
      rw [valid] at planned
      simp only [bind, Except.bind] at planned
      split at planned
      · next paths resolved =>
        cases planned
        exact ⟨rfl, rfl, rfl, resolved⟩
      · cases planned

end Generator

namespace GenerationPlan

variable {plan : GenerationPlan}

/-- The steps write the files of the plan, and make the directory of the views behind the first. -/
theorem steps_eq (actions : plan.actions = ActionPlan.make plan.request.withWrite) :
    plan.steps = plan.controllerFile.step :: .viewDirectory plan.paths.viewDir ::
      plan.laterFiles.map PlannedFile.step := by
  have others : plan.viewSteps =
      [.file (viewSkeleton .show) (plan.paths.view .show) plan.showViewContext.bindings] ++
        if plan.request.withWrite then [plan.formStep .form, plan.formStep .new, plan.formStep .edit]
        else [] := by
    unfold viewSteps
    rw [actions]
    cases plan.request.withWrite <;> rfl
  unfold steps laterFiles routingSteps
  rw [others]
  cases plan.request.withWrite <;> cases plan.paths.routing <;> rfl

theorem flatMap_written_map (files : List PlannedFile) :
    (files.map PlannedFile.step).flatMap GenerationStep.written = files.map PlannedFile.path := by
  induction files with
  | nil => rfl
  | cons file rest ih =>
      rw [List.map_cons, List.flatMap_cons, ih]
      rfl

/-- The steps write the files of the plan, in their order. -/
theorem written_steps (actions : plan.actions = ActionPlan.make plan.request.withWrite) :
    plan.steps.flatMap GenerationStep.written = plan.files.map PlannedFile.path := by
  rw [steps_eq actions, List.flatMap_cons, List.flatMap_cons, flatMap_written_map]
  rfl

theorem step_mem (actions : plan.actions = ActionPlan.make plan.request.withWrite)
    {file : PlannedFile} (member : file ∈ plan.files) : file.step ∈ plan.steps := by
  rw [steps_eq actions]
  rcases List.mem_cons.mp member with isController | later
  · rw [isController]
    exact List.mem_cons_self
  · exact List.mem_cons_of_mem _ (List.mem_cons_of_mem _ (List.mem_map_of_mem later))

/-- A step of a plan, with the steps before it, is reached when the first files of the plan are done:
it is the step of the next file, or it makes the directory of the views for the second file. -/
structure StopsAt (plan : GenerationPlan) (earlier : List GenerationStep) (step : GenerationStep)
    (done : List PlannedFile) (failing : PlannedFile) (rest : List PlannedFile) : Prop where
  files : plan.files = done ++ failing :: rest
  written : earlier.flatMap GenerationStep.written = done.map PlannedFile.path
  step : step = failing.step ∨ done.length = 1 ∧ step = .viewDirectory plan.paths.viewDir
  taken : ∀ file ∈ done, file.step ∈ earlier
  known : ∀ other ∈ earlier, (∃ file ∈ done, other = file.step) ∨
    other = .viewDirectory plan.paths.viewDir

theorem exists_stopsAt (actions : plan.actions = ActionPlan.make plan.request.withWrite)
    {earlier later : List GenerationStep} {step : GenerationStep}
    (split : plan.steps = earlier ++ step :: later) :
    ∃ done failing rest, plan.StopsAt earlier step done failing rest := by
  rw [steps_eq actions] at split
  -- the second step writes no file, so it is told apart from the first and from the later ones
  cases earlier with
  | nil =>
      obtain ⟨first, _⟩ := List.cons.inj split
      refine ⟨[], plan.controllerFile, plan.laterFiles, rfl, rfl, Or.inl first.symm, ?_, ?_⟩
      · intro file member
        cases member
      · intro other member
        cases member
  | cons first earlier =>
      rw [List.cons_append] at split
      obtain ⟨isController, others⟩ := List.cons.inj split
      subst isController
      cases earlier with
      | nil =>
          obtain ⟨isViewDir, _⟩ := List.cons.inj others
          refine ⟨[plan.controllerFile], _, _, rfl, rfl, Or.inr ⟨rfl, isViewDir.symm⟩, ?_, ?_⟩
          · intro file member
            rw [List.mem_singleton.mp member]
            exact List.mem_cons_self
          · intro other member
            exact Or.inl ⟨_, List.mem_cons_self, List.mem_singleton.mp member⟩
      | cons second earlier =>
          rw [List.cons_append] at others
          obtain ⟨isViewDir, mapped⟩ := List.cons.inj others
          subst isViewDir
          obtain ⟨done, behind, files, before, after⟩ := List.map_eq_append_iff.mp mapped
          obtain ⟨failing, rest, nexts, isStep, _⟩ := List.map_eq_cons_iff.mp after
          subst before
          refine ⟨plan.controllerFile :: done, failing, rest, ?_, ?_, Or.inl isStep.symm, ?_, ?_⟩
          · rw [GenerationPlan.files, files, nexts, List.cons_append]
          · rw [List.flatMap_cons, List.flatMap_cons, flatMap_written_map]
            rfl
          · intro file member
            rcases List.mem_cons.mp member with same | later
            · rw [same]
              exact List.mem_cons_self
            · exact List.mem_cons_of_mem _ (List.mem_cons_of_mem _ (List.mem_map_of_mem later))
          · intro other member
            rcases List.mem_cons.mp member with same | later
            · exact Or.inl ⟨_, List.mem_cons_self, same⟩
            · rcases List.mem_cons.mp later with same | inDone
              · exact Or.inr same
              · obtain ⟨file, listed, same⟩ := List.mem_map.mp inDone
                exact Or.inl ⟨file, List.mem_cons_of_mem _ listed, same.symm⟩

namespace StopsAt

variable {earlier : List GenerationStep} {step : GenerationStep} {done rest : List PlannedFile}
  {failing : PlannedFile}

theorem writtenLocations_eq (stops : plan.StopsAt earlier step done failing rest) :
    GenerationStep.writtenLocations earlier = done.map fun file => file.path.location := by
  rw [GenerationStep.writtenLocations, stops.written, List.map_map]
  rfl

/-- The directories that are made before a step and by it. -/
theorem made (stops : plan.StopsAt earlier step done failing rest) {location : Location}
    (member : location ∈ GenerationStep.madeLocations earlier ++ [step.directory.location]) :
    (∃ file ∈ done ++ [failing], location = file.path.parent.location) ∨
      location = plan.paths.viewDir.location := by
  rcases List.mem_append.mp member with inEarlier | isLast
  · obtain ⟨other, listed, same⟩ := List.mem_map.mp inEarlier
    rcases stops.known other listed with ⟨file, inDone, isFile⟩ | isViewDir
    · refine Or.inl ⟨file, List.mem_append_left _ inDone, ?_⟩
      rw [← same, isFile]
      rfl
    · rw [← same, isViewDir]
      exact Or.inr rfl
  · rw [List.mem_singleton.mp isLast]
    rcases stops.step with isFailing | ⟨_, isViewDir⟩
    · refine Or.inl ⟨failing, List.mem_append_right _ (List.mem_singleton.mpr rfl), ?_⟩
      rw [isFailing]
      rfl
    · rw [isViewDir]
      exact Or.inr rfl

end StopsAt

end GenerationPlan

/-- What is asked of a request: the segments of its entity are filled and hold no separator, no
extension holds one, and the root of its bundle leads down. -/
structure GenerationRequest.IsRegular (request : GenerationRequest) (extensions : Extensions) :
    Prop where
  entity : EntityName.IsRegular request.entity
  sourceExtension : '/' ∉ extensions.source.toList
  viewExtension : '/' ∉ extensions.view.toList
  root : ".." ∉ request.bundle.path.parts

/-- The same wherever the root of the bundle leads. -/
structure GenerationRequest.IsPlain (request : GenerationRequest) (extensions : Extensions) :
    Prop where
  entity : EntityName.IsRegular request.entity
  sourceExtension : '/' ∉ extensions.source.toList
  viewExtension : '/' ∉ extensions.view.toList

theorem GenerationRequest.IsRegular.isPlain {request : GenerationRequest} {extensions : Extensions}
    (regular : request.IsRegular extensions) : request.IsPlain extensions :=
  ⟨regular.entity, regular.sourceExtension, regular.viewExtension⟩

/-- A plan that was made for a plain request. -/
structure GenerationPlan.IsMadeFor (plan : GenerationPlan) (request : GenerationRequest)
    (extensions : Extensions) : Prop where
  requested : plan.request = request
  actions : plan.actions = ActionPlan.make plan.request.withWrite
  format : plan.format = RoutingFormat.negotiate request.format
  sound : (plan.placement extensions).IsSound
  laidOut : plan.paths.IsLaidOut request.bundle.path (plan.placement extensions)

namespace Generator

variable {generator : Generator} {request : GenerationRequest} {plan : GenerationPlan}

theorem isMadeFor_of_plan (planned : generator.plan request = .ok plan)
    (plain : request.IsPlain generator.extensions) :
    plan.IsMadeFor request generator.extensions := by
  obtain ⟨sameRequest, actions, format, resolved⟩ := eq_of_plan planned
  have noSlash := plain.entity.slash_not_mem
  refine
    { requested := sameRequest
      actions := by rw [actions, sameRequest]
      format := format
      sound :=
        { split := ?_
          plain := ?_
          sourceExtension := plain.sourceExtension
          viewExtension := plain.viewExtension }
      laidOut := ?_ }
  · rw [GenerationPlan.placement, sameRequest]
    exact (OutputPaths.eq_of_resolve? resolved).1
  · rw [GenerationPlan.placement, sameRequest]
    exact noSlash
  · rw [GenerationPlan.placement, sameRequest]
    exact OutputPaths.isLaidOut_of_resolve? resolved noSlash plain.entity.head?_ne_dot
      plain.sourceExtension plain.viewExtension

end Generator

namespace GenerationPlan.IsMadeFor

variable {plan : GenerationPlan} {request : GenerationRequest} {extensions : Extensions}

/-- The files of a plan are reached from the root of the bundle by the names of its outputs. -/
theorem paths_eq (made : plan.IsMadeFor request extensions) :
    plan.files.map PlannedFile.path =
      plan.outputs.map fun output =>
        request.bundle.path.descend ((plan.placement extensions).names output) := by
  have laidOut := made.laidOut
  have routing : plan.paths.routing =
      if plan.format.hasFile then
        some (request.bundle.path.descend ((plan.placement extensions).names .routing))
      else none := laidOut.routing
  unfold files laterFiles outputs
  rw [routing]
  cases plan.request.withWrite <;> cases plan.format.hasFile <;>
    simp [controllerFile, formFile, laidOut.controller, laidOut.test, laidOut.view]

theorem exists_output (made : plan.IsMadeFor request extensions) {file : PlannedFile}
    (member : file ∈ plan.files) :
    ∃ output ∈ plan.outputs,
      file.path = request.bundle.path.descend ((plan.placement extensions).names output) := by
  have listed := List.mem_map_of_mem (f := PlannedFile.path) member
  rw [made.paths_eq] at listed
  obtain ⟨output, inPlan, same⟩ := List.mem_map.mp listed
  exact ⟨output, inPlan, same.symm⟩

theorem leadDown_steps (made : plan.IsMadeFor request extensions)
    (rootDown : ".." ∉ request.bundle.path.parts) : GenerationStep.LeadDown plan.steps := by
  have files : ∀ file ∈ plan.files, ".." ∉ file.path.parts := by
    intro file member
    obtain ⟨output, _, same⟩ := made.exists_output member
    rw [same]
    exact Path.up_not_mem_descend rootDown (Placement.up_not_mem_names made.sound output)
  have viewDir : ".." ∉ plan.paths.viewDir.parts := by
    rw [made.laidOut.viewDir]
    exact Path.up_not_mem_descend rootDown (Placement.up_not_mem_viewDirNames made.sound)
  intro step member
  rw [steps_eq made.actions] at member
  rcases List.mem_cons.mp member with isController | later
  · rw [isController]
    exact files _ List.mem_cons_self
  · rcases List.mem_cons.mp later with isViewDir | isFile
    · rw [isViewDir]
      exact viewDir
    · obtain ⟨file, listed, same⟩ := List.mem_map.mp isFile
      rw [← same]
      exact files file (List.mem_cons_of_mem _ listed)

/-- The directory of the views is the one above the index view. -/
theorem viewDir_eq_parent (made : plan.IsMadeFor request extensions) :
    plan.paths.viewDir = (plan.paths.view .index).parent := by
  rw [made.laidOut.view, made.laidOut.viewDir]
  have names : (plan.placement extensions).names (.view .index) =
      (plan.placement extensions).viewDirNames ++
        [View.index.text ++ (plan.placement extensions).extensions.view] := rfl
  rw [names, ← Path.descend_descend, Path.parent_descend_singleton]

theorem location_eq (made : plan.IsMadeFor request extensions) (output : Output) :
    (request.bundle.path.descend ((plan.placement extensions).names output)).location =
      request.bundle.path.location ++ (plan.placement extensions).names output :=
  Path.location_descend (Placement.up_not_mem_names made.sound output)

/-- No file of a plan stands in the place of another one, or where a directory above it has to be. -/
theorem files_apart (made : plan.IsMadeFor request extensions) :
    plan.files.Pairwise fun first second =>
      ¬first.path.IsWithin second.path ∧ ¬second.path.IsWithin first.path := by
  have paths : (plan.files.map PlannedFile.path).Pairwise fun first second =>
      ¬first.IsWithin second ∧ ¬second.IsWithin first := by
    rw [made.paths_eq]
    refine List.Pairwise.map _ (fun left right different => ?_) plan.outputs_nodup
    rw [Path.descend_isWithin_descend_iff, Path.descend_isWithin_descend_iff]
    exact ⟨Placement.not_prefix_of_ne made.sound right left different.symm,
      Placement.not_prefix_of_ne made.sound left right different⟩
  exact List.pairwise_map.mp paths

/-- No file of a plan stands in the place of the directory of the views, or above it. -/
theorem viewDir_apart (made : plan.IsMadeFor request extensions) {file : PlannedFile}
    (member : file ∈ plan.files) : ¬plan.paths.viewDir.IsWithin file.path := by
  obtain ⟨output, _, same⟩ := made.exists_output member
  rw [same, made.laidOut.viewDir, Path.descend_isWithin_descend_iff]
  exact Placement.not_prefix_viewDir made.sound output

/-- The files of a plan have different locations. -/
theorem locations_nodup (made : plan.IsMadeFor request extensions) :
    (plan.files.map fun file => file.path.location).Nodup := by
  have locations : (plan.files.map fun file => file.path.location) =
      plan.outputs.map fun output =>
        request.bundle.path.location ++ (plan.placement extensions).names output := by
    have paths := congrArg (List.map Path.location) made.paths_eq
    rw [List.map_map, List.map_map] at paths
    refine paths.trans (List.map_congr_left fun output _ => ?_)
    exact made.location_eq output
  rw [locations]
  refine List.Pairwise.map _ (fun left right different same => ?_) plan.outputs_nodup
  have names := List.append_cancel_left same
  exact Placement.not_prefix_of_ne made.sound left right different (names ▸ List.prefix_refl _)

theorem paths_nodup (made : plan.IsMadeFor request extensions) :
    (plan.files.map PlannedFile.path).Nodup := by
  have locations := List.pairwise_map.mp made.locations_nodup
  exact List.pairwise_map.mpr
    (locations.imp fun different same => different (congrArg Path.location same))

theorem writtenLocations_steps (made : plan.IsMadeFor request extensions) :
    GenerationStep.writtenLocations plan.steps = plan.files.map fun file => file.path.location := by
  rw [GenerationStep.writtenLocations, written_steps made.actions, List.map_map]
  rfl

theorem writtenLocations_nodup (made : plan.IsMadeFor request extensions) :
    (GenerationStep.writtenLocations plan.steps).Nodup := by
  rw [made.writtenLocations_steps]
  exact made.locations_nodup

end GenerationPlan.IsMadeFor

end EntityScaffold
