import EntityScaffold.Proofs.Attempt
import EntityScaffold.Proofs.FileTree.Limits
import EntityScaffold.Proofs.Generation.Refusal
import EntityScaffold.Proofs.Generation.Rendering

/-
Failures that are no errors of the scaffolder. With the packaged skeletons everything can be rendered,
and an error of the file system is reported as one of rendering. What is left is a controller whose
path exceeds the limits, when it is asked for before the first step, and a NUL, which is met by the
first step that makes a directory or writes a file of that name.
-/

namespace EntityScaffold

open FileTree (perform hasNul)

/-- A failure that is no error of the scaffolder. -/
def Failure.IsForeign (failure : Failure) : Prop :=
  ∀ error written, failure ≠ .scaffold error written

theorem Failure.IsForeign.withWritten_eq {cause : Failure} {written : List Path}
    (foreign : cause.IsForeign) : cause.withWritten written = cause := by
  cases cause <;> first | rfl | exact absurd rfl (foreign _ _)

theorem Failure.IsForeign.of_withWritten {cause : Failure} {written : List Path}
    (foreign : (cause.withWritten written).IsForeign) : cause.IsForeign := by
  intro error reported same
  rw [same] at foreign
  exact foreign error written rfl

variable {generator : Generator} {request : GenerationRequest} {plan : GenerationPlan}
  {before after tree : FileTree} {failure : Failure}

/-! ### Steps -/

namespace GenerationStep

/-- What a step writes has a text. -/
def HasText (library : Library) (tree : FileTree) : GenerationStep → Prop
  | .file skeleton _ bindings =>
    ∃ text, library.renderText tree skeleton bindings = .ok (CodeText.ofString text)
  | .viewDirectory _ => True

/-- A step meets a NUL, in the directories that it makes or behind them, in the name of its file. -/
def MeetsNul (step : GenerationStep) (before after : FileTree) : Prop :=
  hasNul step.directory = true ∧ after = before ∨
    hasNul step.path = true ∧
      perform (FileTree.makeDirectories step.directory) before = (.ok (), after)

end GenerationStep

/-- Errors of the file system are errors of the scaffolder, but a NUL is not. -/
theorem Library.outputFailure_eq_foreign_iff {skeleton : String} {path : Path}
    {error : AccessError} (foreign : failure.IsForeign) :
    outputFailure skeleton path error = failure ↔ error = .nulByte ∧ failure = .access .nulByte := by
  cases error with
  | nulByte => simp [outputFailure, eq_comm]
  | system fault place =>
      have noError : outputFailure skeleton path (.system fault place) ≠ failure := fun same =>
        foreign _ _ same.symm
      simp [noError]

theorem Work.perform_onTree_eq_foreign_iff {α : Type} {skeleton : String} {path : Path}
    {action : TreeAction α} (foreign : failure.IsForeign) :
    perform (Work.onTree (Library.outputFailure skeleton path) action) before =
        (.error failure, after) ↔
      failure = .access .nulByte ∧ perform action before = (.error .nulByte, after) := by
  constructor
  · intro failed
    obtain ⟨error, acted, same⟩ := perform_onTree_eq_error failed
    obtain ⟨isNul, isAccess⟩ := (Library.outputFailure_eq_foreign_iff foreign).mp same.symm
    exact ⟨isAccess, isNul ▸ acted⟩
  · rintro ⟨isAccess, acted⟩
    rw [perform_onTree, acted, isAccess]
    rfl

namespace Generator

/-- A step whose file has a text ends with a foreign failure just when it meets a NUL. -/
theorem takeStep_eq_foreign_iff {step : GenerationStep} (keeps : generator.library.KeepsTree)
    (hasText : step.HasText generator.library before) (foreign : failure.IsForeign) :
    perform (generator.takeStep step) before = (.error failure, after) ↔
      failure = .access .nulByte ∧ step.MeetsNul before after := by
  cases step with
  | viewDirectory path =>
      have acted : perform (generator.takeStep (.viewDirectory path)) before =
            (.error failure, after) ↔
          perform (Work.onTree (Library.outputFailure (GenerationPlan.viewSkeleton .index) path)
            (FileTree.makeDirectories path)) before = (.error failure, after) := by
        rw [perform_takeStep_viewDirectory, Work.perform_onTree]
        cases perform (FileTree.makeDirectories path) before with
        | mk result changed =>
            dsimp only
            rw [Prod.mk.injEq, Prod.mk.injEq, map_eq_error_iff]
      rw [acted, Work.perform_onTree_eq_foreign_iff foreign,
        FileTree.perform_makeDirectories_eq_nulByte_iff]
      refine and_congr_right fun _ => ⟨Or.inl, ?_⟩
      -- once the directory is made there is no NUL in its path
      rintro (met | ⟨nul, made⟩)
      · exact met
      · have refused : perform (FileTree.makeDirectories path) before = (.error .nulByte, before) :=
          FileTree.perform_makeDirectories_eq_nulByte_iff.mpr ⟨nul, rfl⟩
        have same := refused.symm.trans made
        cases same
  | file skeleton path bindings =>
      obtain ⟨text, rendered⟩ := hasText
      have plain := CodeText.surrogates?_eq_none_iff.mpr (CodeText.isPlain_ofString text)
      have acted : perform (generator.takeStep (.file skeleton path bindings)) before =
            (.error failure, after) ↔
          perform (Library.renderFile.writeAt skeleton path (CodeText.ofString text).replacing)
            before = (.error failure, after) := by
        rw [perform_takeStep_file, Library.perform_renderFile, rendered, keeps]
        simp only [plain]
        rw [FileTree.perform_bind]
        cases perform (Library.renderFile.writeAt skeleton path
            (CodeText.ofString text).replacing) before with
        | mk result changed =>
            cases result with
            | ok done =>
                constructor <;>
                · intro same
                  cases same
            | error cause => simp [Except.map]
      rw [acted, Library.renderFile.writeAt, Work.perform_onTree_eq_foreign_iff foreign,
        FileTree.perform_writeFile_eq_nulByte_iff]
      rfl

/-- Steps end with a foreign failure just when one of them does, those before it having been taken. -/
theorem takeSteps_eq_foreign_iff {steps : List GenerationStep} {written : List Path}
    (keeps : generator.library.KeepsTree)
    (hasText : ∀ step ∈ steps, ∀ tree, step.HasText generator.library tree)
    (foreign : failure.IsForeign) :
    perform (generator.takeSteps written steps) before = (.error failure, after) ↔
      failure = .access .nulByte ∧ ∃ earlier step later middle, steps = earlier ++ step :: later ∧
        Took generator before earlier middle ∧ step.MeetsNul middle after := by
  constructor
  · intro performed
    obtain ⟨earlier, step, later, middle, cause, split, took, failed, same⟩ :=
      takeSteps_eq_error performed
    have causeForeign : cause.IsForeign := Failure.IsForeign.of_withWritten (same ▸ foreign)
    rw [causeForeign.withWritten_eq] at same
    subst same
    have member : step ∈ steps := by
      rw [split]
      exact List.mem_append_right earlier List.mem_cons_self
    obtain ⟨isAccess, met⟩ :=
      (takeStep_eq_foreign_iff keeps (hasText step member middle) causeForeign).mp failed
    exact ⟨isAccess, earlier, step, later, middle, split, took, met⟩
  · rintro ⟨isAccess, earlier, step, later, middle, split, took, met⟩
    have member : step ∈ steps := by
      rw [split]
      exact List.mem_append_right earlier List.mem_cons_self
    have failed :=
      (takeStep_eq_foreign_iff keeps (hasText step member middle) foreign).mpr ⟨isAccess, met⟩
    rw [split, took.perform_takeSteps_eq_error failed, foreign.withWritten_eq]

/-! ### Runs -/

/-- How a run with a plan meets a NUL: no controller is there, some steps are taken, and the next one
meets it. -/
def MeetsNul (generator : Generator) (plan : GenerationPlan) (before after : FileTree) : Prop :=
  before.exists? plan.paths.controller = .ok false ∧
    ∃ earlier step later middle, plan.steps = earlier ++ step :: later ∧
      Took generator before earlier middle ∧ step.MeetsNul middle after

theorem hasText_of_plan (packaged : generator.library = .packaged)
    (planned : generator.plan request = .ok plan) :
    ∀ step ∈ plan.steps, ∀ tree, step.HasText generator.library tree := by
  intro step member tree
  obtain ⟨requested, actions, _⟩ := eq_of_plan planned
  have routed := isRouted_of_plan planned
  rw [packaged]
  rw [← requested] at actions
  rw [GenerationPlan.steps_eq actions] at member
  rcases List.mem_cons.mp member with isController | later
  · rw [isController]
    exact GenerationPlan.exists_text routed plan.controllerFile_mem tree
  · rcases List.mem_cons.mp later with isViewDir | isFile
    · rw [isViewDir]
      trivial
    · obtain ⟨file, listed, same⟩ := List.mem_map.mp isFile
      rw [← same]
      exact GenerationPlan.exists_text routed (List.mem_cons_of_mem _ listed) tree

theorem perform_bind_pure_eq_error_iff {α β : Type} {action : Work α} {result : α → β} :
    perform (action >>= fun value => pure (result value)) before = (.error failure, after) ↔
      perform action before = (.error failure, after) := by
  rw [FileTree.perform_bind]
  cases perform action before with
  | mk ended changed =>
      cases ended with
      | error cause => constructor <;> intro same <;> cases same <;> rfl
      | ok value => constructor <;> intro impossible <;> cases impossible

/-- A run of packaged skeletons ends with a foreign failure just when it cannot be known whether the
controller is there, for its path exceeds the limits, or when a step meets a NUL. -/
theorem run_eq_foreign_iff (packaged : generator.library = .packaged)
    (foreign : failure.IsForeign) :
    perform (generator.run request) before = (.error failure, after) ↔
      ∃ plan, generator.plan request = .ok plan ∧
        ((hasNul plan.paths.controller = false ∧ before.ExceedsLimits plan.paths.controller ∧
            failure = .access (.system .nameTooLong plan.paths.controller) ∧ after = before) ∨
          failure = .access .nulByte ∧ generator.MeetsNul plan before after) := by
  cases planned : generator.plan request with
  | error cause =>
      have noError : Failure.ofError cause ≠ failure := fun same => foreign _ _ same.symm
      rw [perform_run, planned]
      simp [noError]
  | ok plan =>
      simp only [Except.ok.injEq, exists_eq_left']
      rw [perform_run, planned, MeetsNul]
      dsimp only
      cases found : before.exists? plan.paths.controller with
      | error cause =>
          obtain ⟨noNul, exceeds, isAccess⟩ := FileTree.exists?_eq_error_iff.mp found
          subst isAccess
          simp [noNul, exceeds, eq_comm]
      | ok there =>
          have known : ¬(hasNul plan.paths.controller = false ∧
              before.ExceedsLimits plan.paths.controller) := by
            rintro ⟨noNul, exceeds⟩
            have unknown := FileTree.exists?_eq_error_iff.mpr ⟨noNul, exceeds, rfl⟩
            rw [found] at unknown
            cases unknown
          rw [← and_assoc, or_iff_right fun met => known met.1]
          cases there with
          | true =>
              have noError : Failure.ofError (.controllerAlreadyExists plan.paths.controller) ≠
                  failure := fun same => foreign _ _ same.symm
              simp [noError]
          | false =>
              dsimp only
              rw [perform_bind_pure_eq_error_iff,
                takeSteps_eq_foreign_iff (Library.keepsTree_of_packaged packaged)
                  (hasText_of_plan packaged planned) foreign]
              simp only [true_and]

end Generator

end EntityScaffold
