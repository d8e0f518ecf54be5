import EntityScaffold.Proofs.Generation.Steps

/-
Steps taken one after another. Either all steps are taken, or the first steps are and the next one
fails; the files of the steps that were taken are what is reported as written. A file that a step
wrote stays as it is when no later step writes at its location.
-/

namespace EntityScaffold

open FileTree (perform)

/-- Steps have been taken, one after another, from one tree to another. -/
inductive Took (generator : Generator) : FileTree → List GenerationStep → FileTree → Prop where
  | nil (tree : FileTree) : Took generator tree [] tree
  | cons {before middle after : FileTree} {step : GenerationStep} {steps : List GenerationStep}
      {paths : List Path}
      (taken : perform (generator.takeStep step) before = (.ok paths, middle))
      (others : Took generator middle steps after) : Took generator before (step :: steps) after

namespace GenerationStep

def writtenLocations (steps : List GenerationStep) : List Location :=
  (steps.flatMap written).map Path.location

def madeLocations (steps : List GenerationStep) : List Location :=
  steps.map fun step => step.directory.location

def LeadDown (steps : List GenerationStep) : Prop := ∀ step ∈ steps, ".." ∉ step.path.parts

theorem writtenLocations_append (first second : List GenerationStep) :
    writtenLocations (first ++ second) = writtenLocations first ++ writtenLocations second := by
  simp only [writtenLocations, List.flatMap_append, List.map_append]

theorem writtenLocations_cons (step : GenerationStep) (rest : List GenerationStep) :
    writtenLocations (step :: rest) = step.written.map Path.location ++ writtenLocations rest := by
  simp only [writtenLocations, List.flatMap_cons, List.map_append]

theorem LeadDown.directory {steps : List GenerationStep} (down : LeadDown steps)
    {step : GenerationStep} (member : step ∈ steps) : ".." ∉ step.directory.parts := by
  cases step with
  | file skeleton path bindings => exact Path.up_not_mem_parent (down _ member)
  | viewDirectory path => exact down _ member

theorem LeadDown.left {first second : List GenerationStep} (down : LeadDown (first ++ second)) :
    LeadDown first := fun step member => down step (List.mem_append_left second member)

theorem LeadDown.right {first second : List GenerationStep} (down : LeadDown (first ++ second)) :
    LeadDown second := fun step member => down step (List.mem_append_right first member)

end GenerationStep

open GenerationStep (LeadDown writtenLocations madeLocations writtenLocations_append
  writtenLocations_cons)

variable {generator : Generator} {before middle after : FileTree}
  {steps first second : List GenerationStep} {written : List Path}

namespace Generator

theorem perform_takeSteps_cons (generator : Generator) (written : List Path) (step : GenerationStep)
    (rest : List GenerationStep) (tree : FileTree) :
    perform (generator.takeSteps written (step :: rest)) tree =
      match perform (generator.takeStep step) tree with
      | (.ok paths, changed) => perform (generator.takeSteps (written ++ paths) rest) changed
      | (.error failure, changed) => (.error (failure.withWritten written), changed) := by
  have adapted : perform (ExceptT.adapt (Failure.withWritten written) (generator.takeStep step)) tree =
      ((perform (generator.takeStep step) tree).1.mapError (Failure.withWritten written),
        (perform (generator.takeStep step) tree).2) := rfl
  rw [takeSteps, FileTree.perform_bind, adapted]
  cases perform (generator.takeStep step) tree with
  | mk result changed => cases result <;> rfl

/-- When all steps are taken, their files are added to those written before. -/
theorem took_of_takeSteps_eq_ok {all : List Path}
    (performed : perform (generator.takeSteps written steps) before = (.ok all, after)) :
    Took generator before steps after ∧ all = written ++ steps.flatMap GenerationStep.written := by
  induction steps generalizing before written with
  | nil =>
      cases performed
      exact ⟨.nil _, (List.append_nil _).symm⟩
  | cons step rest ih =>
      rw [perform_takeSteps_cons] at performed
      split at performed
      · next paths changed taken =>
        obtain ⟨others, same⟩ := ih performed
        obtain ⟨listed, _⟩ := grows_of_takeStep_eq_ok taken
        refine ⟨.cons taken others, ?_⟩
        rw [same, listed, List.flatMap_cons, List.append_assoc]
      · cases performed

/-- When steps fail, the ones before some step have been taken, and that step has failed. -/
theorem takeSteps_eq_error {failure : Failure}
    (performed : perform (generator.takeSteps written steps) before = (.error failure, after)) :
    ∃ earlier step later middle cause, steps = earlier ++ step :: later ∧
      Took generator before earlier middle ∧
      perform (generator.takeStep step) middle = (.error cause, after) ∧
      failure = cause.withWritten (written ++ earlier.flatMap GenerationStep.written) := by
  induction steps generalizing before written with
  | nil => cases performed
  | cons step rest ih =>
      rw [perform_takeSteps_cons] at performed
      split at performed
      · next paths changed taken =>
        obtain ⟨earlier, failing, later, middle, cause, split, taking, failed, same⟩ :=
          ih performed
        obtain ⟨listed, _⟩ := grows_of_takeStep_eq_ok taken
        refine ⟨step :: earlier, failing, later, middle, cause, ?_, .cons taken taking, failed, ?_⟩
        · rw [split, List.cons_append]
        · rw [same, listed, List.flatMap_cons, List.append_assoc]
      · next cause changed failed =>
        obtain ⟨same, unchanged⟩ := Prod.mk.inj performed
        subst unchanged
        refine ⟨[], step, rest, before, cause, rfl, .nil before, failed, ?_⟩
        rw [List.flatMap_nil, List.append_nil]
        exact (Except.error.inj same).symm

end Generator

namespace Took

theorem append_iff :
    Took generator before (first ++ second) after ↔
      ∃ middle, Took generator before first middle ∧ Took generator middle second after := by
  induction first generalizing before with
  | nil =>
      constructor
      · intro took
        exact ⟨before, .nil before, took⟩
      · rintro ⟨middle, took, others⟩
        cases took
        exact others
  | cons step rest ih =>
      constructor
      · intro took
        cases took with
        | cons taken others =>
            obtain ⟨middle, early, late⟩ := ih.mp others
            exact ⟨middle, .cons taken early, late⟩
      · rintro ⟨middle, took, late⟩
        cases took with
        | cons taken early => exact .cons taken (ih.mpr ⟨middle, early, late⟩)

/-- A step that fails after the steps before it ends them all. -/
theorem perform_takeSteps_eq_error {step : GenerationStep} {cause : Failure}
    (took : Took generator before first middle)
    (failed : perform (generator.takeStep step) middle = (.error cause, after)) :
    perform (generator.takeSteps written (first ++ step :: second)) before =
      (.error (cause.withWritten (written ++ first.flatMap GenerationStep.written)), after) := by
  induction took generalizing written with
  | nil tree =>
      rw [List.nil_append, Generator.perform_takeSteps_cons, failed, List.flatMap_nil,
        List.append_nil]
  | cons taken others ih =>
      obtain ⟨listed, _⟩ := Generator.grows_of_takeStep_eq_ok taken
      rw [List.cons_append, Generator.perform_takeSteps_cons, taken]
      dsimp only
      rw [ih failed, listed, List.flatMap_cons, List.append_assoc]

/-- Steps change files only where they write, and add directories only on their ways. -/
theorem grows_ways (took : Took generator before steps after)
    (keeps : generator.library.KeepsTree) :
    before.Grows after (writtenLocations steps)
      (steps.flatMap fun step => step.directory.ways) := by
  induction took with
  | nil tree => exact FileTree.Grows.refl tree _ _
  | cons taken others ih =>
      obtain ⟨_, _, grown⟩ := Generator.grows_of_takeStep_eq_ok taken
      rw [Generator.treeBefore_eq keeps] at grown
      rw [writtenLocations_cons]
      exact grown.trans ih

/-- When no step leads up, the directories appear above the locations that the steps lead to. -/
theorem grows (took : Took generator before steps after) (keeps : generator.library.KeepsTree)
    (down : LeadDown steps) :
    before.Grows after (writtenLocations steps) (madeLocations steps) := by
  refine (took.grows_ways keeps).mono (List.Subset.refl _) fun target member => ?_
  obtain ⟨step, listed, onWay⟩ := List.mem_flatMap.mp member
  exact ⟨_, List.mem_map_of_mem listed, Path.prefix_of_mem_ways (down.directory listed) onWay⟩

/-- A step among others is taken from some tree on; its file stays, for no other step writes there.
-/
theorem file_held {earlier later : List GenerationStep} {skeleton : String} {path : Path}
    {bindings : Bindings}
    (took : Took generator before (earlier ++ .file skeleton path bindings :: later) after)
    (keeps : generator.library.KeepsTree)
    (distinct : (writtenLocations (earlier ++ .file skeleton path bindings :: later)).Nodup) :
    ∃ middle, Took generator before earlier middle ∧
      (∃ text, generator.library.renderText middle skeleton bindings = .ok (.ofString text) ∧
        after.readContent path = .ok (.text text)) ∧
      middle.Grows after (writtenLocations (.file skeleton path bindings :: later))
        ((.file skeleton path bindings :: later).flatMap fun step => step.directory.ways) := by
  obtain ⟨middle, early, late⟩ := append_iff.mp took
  have kept : path.location ∉ writtenLocations later := by
    rw [writtenLocations_append, writtenLocations_cons] at distinct
    exact (List.nodup_cons.mp (List.nodup_append.mp distinct).2.1).1
  refine ⟨middle, early, ?_, late.grows_ways keeps⟩
  cases late with
  | cons taken others =>
      obtain ⟨_, ⟨text, rendered, held⟩, _⟩ :=
        Generator.grows_of_takeStep_eq_ok taken
      have grown := others.grows_ways keeps
      exact ⟨text, rendered, grown.readContent_eq_ok kept held⟩

end Took

namespace Generator

/-! ### Runs -/

variable {request : GenerationRequest} {plan : GenerationPlan}

theorem perform_run_of_plan (planned : generator.plan request = .ok plan) (tree : FileTree) :
    perform (generator.run request) tree =
      perform (do
        requireNoController plan.paths
        let written ← generator.takeSteps [] plan.steps
        return ⟨plan, written⟩) tree := by
  unfold run
  rw [planned, Work.perform_ofExcept_bind]
  rfl

theorem perform_requireNoController (paths : OutputPaths) (tree : FileTree) :
    perform (requireNoController paths) tree =
      (match tree.exists? paths.controller with
      | .ok true => .error (.ofError (.controllerAlreadyExists paths.controller))
      | .ok false => .ok ()
      | .error error => .error (.access error), tree) := by
  unfold requireNoController
  rw [Work.perform_get_bind]
  cases tree.exists? paths.controller with
  | error error => rfl
  | ok there => cases there <;> rfl

/-- A run without a plan is refused, and so is one whose controller is there. Otherwise it takes the
steps of its plan. -/
theorem perform_run (generator : Generator) (request : GenerationRequest) (tree : FileTree) :
    perform (generator.run request) tree =
      match generator.plan request with
      | .error error => (.error (.ofError error), tree)
      | .ok plan =>
        match tree.exists? plan.paths.controller with
        | .error error => (.error (.access error), tree)
        | .ok true => (.error (.ofError (.controllerAlreadyExists plan.paths.controller)), tree)
        | .ok false =>
          perform (do
            let written ← generator.takeSteps [] plan.steps
            return ⟨plan, written⟩) tree := by
  cases planned : generator.plan request with
  | error error =>
      unfold run
      rw [planned, Work.perform_ofExcept_bind]
      rfl
  | ok plan =>
      rw [perform_run_of_plan planned, FileTree.perform_bind, perform_requireNoController]
      dsimp only
      cases tree.exists? plan.paths.controller with
      | error error => rfl
      | ok there => cases there <;> rfl

/-- A run that ends well has taken all steps of its plan. -/
theorem took_of_run_eq_ok {result : GenerationResult}
    (ran : perform (generator.run request) before = (.ok result, after)) :
    generator.plan request = .ok result.plan ∧
      perform (generator.takeSteps [] result.plan.steps) before = (.ok result.written, after) := by
  rw [perform_run] at ran
  split at ran
  · cases ran
  · next plan planned =>
    split at ran
    · cases ran
    · cases ran
    · obtain ⟨written, last, performed, returned⟩ := FileTree.perform_bind_eq_ok ran
      cases returned
      exact ⟨planned, performed⟩

theorem plan_ne_render {name : String} {target : Option Path} {reason : CodeText} :
    generator.plan request ≠ .error (.render name target reason) := by
  intro failed
  unfold Generator.plan EntityMetadata.validate at failed
  split at failed
  · cases failed
  · split at failed
    · simp only [bind, Except.bind] at failed
      split at failed <;> cases failed
    · cases failed

/-- A run that fails to render has failed in a step of its plan. -/
theorem takeSteps_of_run_eq_render {name : String} {target : Option Path} {reason : CodeText}
    {written : List Path}
    (ran : perform (generator.run request) before =
      (.error (.scaffold (.render name target reason) written), after)) :
    ∃ plan, generator.plan request = .ok plan ∧
      perform (generator.takeSteps [] plan.steps) before =
        (.error (.scaffold (.render name target reason) written), after) := by
  rw [perform_run] at ran
  split at ran
  · next error unplanned =>
    cases ran
    exact absurd unplanned plan_ne_render
  · next plan planned =>
    split at ran
    · cases ran
    · cases ran
    · rcases FileTree.perform_bind_eq_error ran with failed | ⟨_, _, _, returned⟩
      · exact ⟨plan, planned, failed⟩
      · cases returned

end Generator

end EntityScaffold
