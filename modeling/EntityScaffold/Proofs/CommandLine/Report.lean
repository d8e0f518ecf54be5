import EntityScaffold.CommandLine.Command
import EntityScaffold.Proofs.Console.Messages
import EntityScaffold.Proofs.Generation.ForeignFailure

/-
Reports on failures. What the command says of an error of the scaffolder can always be printed, so that
a run that ends with one ends the command with code 1. A failure of another kind ends the command as it
is, after the announcement and with nothing said.
-/

namespace EntityScaffold.CommandLine.Command

open FileTree (perform)
open Console

variable {engine : Engine} {given : Given} {config : Config} {before after tree : FileTree}

/-! ### Printing -/

theorem perform_printed_bind {β : Type} {text : Except MarkupError CodeText} {shown : CodeText}
    (prints : text = .ok shown) (next : CodeText → Work β) (tree : FileTree) :
    perform (printed text >>= next) tree = perform (next shown) tree := by
  rw [prints]
  rfl

theorem exists_formatWarning_eq (requested : String) (tree : FileTree) :
    ∃ warning, perform (formatWarning requested) tree = (.ok warning, tree) := by
  unfold formatWarning
  dsimp only
  split
  · exact ⟨[], rfl⟩
  · obtain ⟨text, prints⟩ := exists_warning_eq (CodeText.ofString ("Unsupported format '" ++
      requested ++ "', using '" ++ (RoutingFormat.negotiate requested).text ++ "'."))
    rw [prints]
    exact ⟨text, rfl⟩

/-- The report on an error begins with its message, in red, and leaves the tree as it is. -/
theorem exists_reportError_eq (given : Given) (error : ScaffoldError) (written : List Path)
    (tree : FileTree) :
    ∃ complaint rest, Console.error (CodeText.ofString "Error: " ++ error.message) = .ok complaint ∧
      perform (reportError given error written) tree = (.ok (complaint ++ rest), tree) := by
  obtain ⟨complaint, prints⟩ := exists_error_eq (CodeText.ofString "Error: " ++ error.message)
  unfold reportError
  rw [perform_printed_bind prints]
  cases written.isEmpty with
  | true => exact ⟨complaint, [], prints, by rw [List.append_nil]; rfl⟩
  | false =>
      obtain ⟨warning, warns⟩ := exists_warning_eq
        (CodeText.ofString "Files generated before the failure were left in place:")
      obtain ⟨files, lists⟩ := exists_writtenFiles_eq (written.map Path.toString)
        (bundle given).path.toString
      refine ⟨complaint, warning ++ files, prints, ?_⟩
      simp only [Bool.false_eq_true, if_false]
      rw [perform_printed_bind warns, listWritten, perform_printed_bind lists, List.append_assoc]
      rfl

/-! ### Runs of the command -/

/-- An action whose outcome is looked at goes on in the tree that it leaves. -/
theorem perform_lift_bind {α β : Type} (action : Work α) (next : Except Failure α → Work β)
    (tree : FileTree) :
    perform (ExceptT.lift action.run >>= next) tree =
      perform (next (perform action tree).1) (perform action tree).2 := rfl

/-- What the command writes before the run is announced, whatever its arguments are, and then the run
decides how the command ends. -/
theorem exists_announced (engine : Engine) (given : Given) (config : Config) (before : FileTree) :
    ∃ announced, perform (execute engine given config) before =
      match perform (generate engine given config) before with
      | (.ok result, after) =>
        perform (do return { exitCode := 0, output := announced ++ (← reportSuccess given result) })
          after
      | (.error (.scaffold error written), after) =>
        perform (do
          return { exitCode := 1, output := announced ++ (← reportError given error written) }) after
      | (.error failure, after) => (.error failure, after) := by
  obtain ⟨warning, warns⟩ := exists_formatWarning_eq (requestedFormat given config) before
  obtain ⟨header, announces⟩ := exists_header_eq (CodeText.ofString
    ("CRUD generation for " ++ (bundle given).name ++ ":" ++ entity given))
  refine ⟨warning ++ header, ?_⟩
  unfold execute
  rw [FileTree.perform_bind, warns]
  dsimp only
  rw [perform_printed_bind announces]
  rw [perform_lift_bind]
  cases perform (generate engine given config) before with
  | mk result after =>
      cases result with
      | ok result => rfl
      | error failure => cases failure <;> rfl

/-- An error of the scaffolder is reported, and the command ends with code 1. -/
theorem exists_execute_eq_of_scaffold {error : ScaffoldError} {written : List Path}
    (failed : perform (generate engine given config) before =
      (.error (.scaffold error written), after)) :
    ∃ announced complaint rest,
      Console.error (CodeText.ofString "Error: " ++ error.message) = .ok complaint ∧
        perform (execute engine given config) before =
          (.ok { exitCode := 1, output := announced ++ (complaint ++ rest) }, after) := by
  obtain ⟨announced, executed⟩ := exists_announced engine given config before
  obtain ⟨complaint, rest, prints, reported⟩ := exists_reportError_eq given error written after
  refine ⟨announced, complaint, rest, prints, ?_⟩
  rw [executed, failed]
  dsimp only
  rw [FileTree.perform_bind, reported]
  rfl

theorem execute_eq_of_foreign {failure : Failure} (foreign : failure.IsForeign)
    (failed : perform (generate engine given config) before = (.error failure, after)) :
    perform (execute engine given config) before = (.error failure, after) := by
  obtain ⟨announced, executed⟩ := exists_announced engine given config before
  rw [executed, failed]
  cases failure with
  | scaffold error written => exact absurd rfl (foreign error written)
  | _ => rfl

/-- With the packaged skeletons a run fails with an error of the scaffolder, unless the controller is
asked for at a path that exceeds the limits, or a step meets a NUL. The command reports an error of the
scaffolder and ends with code 1; another failure it passes on. -/
theorem failures_reported_or_foreign {generator : Generator}
    (packaged : generator.library = .packaged) :
    (∀ request before after failure, failure.IsForeign →
      (perform (generator.run request) before = (.error failure, after) ↔
        ∃ plan, generator.plan request = .ok plan ∧
          ((FileTree.hasNul plan.paths.controller = false ∧
              before.ExceedsLimits plan.paths.controller ∧
              failure = .access (.system .nameTooLong plan.paths.controller) ∧ after = before) ∨
            failure = .access .nulByte ∧ generator.MeetsNul plan before after))) ∧
    ∀ engine given config before after failure,
      perform (generate engine given config) before = (.error failure, after) →
        (∀ error written, failure = .scaffold error written → ∃ announced complaint rest,
          Console.error (CodeText.ofString "Error: " ++ error.message) = .ok complaint ∧
            perform (execute engine given config) before =
              (.ok { exitCode := 1, output := announced ++ (complaint ++ rest) }, after)) ∧
        (failure.IsForeign →
          perform (execute engine given config) before = (.error failure, after)) := by
  refine ⟨fun _ _ _ _ foreign => Generator.run_eq_foreign_iff packaged foreign, ?_⟩
  intro engine given config before after failure failed
  refine ⟨fun error written same => ?_, fun foreign => execute_eq_of_foreign foreign failed⟩
  rw [same] at failed
  exact exists_execute_eq_of_scaffold failed

/-- A request with a NUL in the name of the directory of its controllers. -/
def nulRequest : GenerationRequest where
  bundle := ⟨"Blog", "Acme", .ofString "b"⟩
  entity := "Post"
  metadata := ⟨[], [CodeText.ofString "id"]⟩
  controllerDir := "Admin\x00"

theorem foreign_failure_at_nul :
    perform (Generator.run {} nulRequest) .empty = (.error (.access .nulByte), .empty) := by
  have ends : (Generator.plan {} nulRequest).isOk = true := by decide +kernel
  obtain ⟨plan, planned⟩ := exists_eq_ok_of_isOk ends
  have place := Generator.controller_eq_of_plan planned
  have nul : FileTree.hasNul plan.paths.controller.parent = true := by
    rw [place]
    decide +kernel
  have absent : FileTree.empty.exists? plan.paths.controller = .ok false := by
    have nulBelow : FileTree.hasNul plan.paths.controller = true := by
      rw [place]
      decide +kernel
    rw [FileTree.exists?, if_pos nulBelow]
  have foreign : (Failure.access .nulByte).IsForeign := by
    intro error written same
    cases same
  exact ((failures_reported_or_foreign rfl).1 _ _ _ _ foreign).mpr
    ⟨plan, planned, Or.inr ⟨rfl, absent, [], plan.controllerStep, _, .empty, rfl, .nil _,
      Or.inl ⟨nul, rfl⟩⟩⟩

end EntityScaffold.CommandLine.Command
