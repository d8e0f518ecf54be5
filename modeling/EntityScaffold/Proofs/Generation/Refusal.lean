import EntityScaffold.Proofs.Generation.PartialFailure

/-
Requests that are refused. Before anything is written, the identifier of the entity is looked at, then
the name of the entity, then the place of its controller; the first of them that is not as it should be
ends the run. Such a run has changed nothing. Once the steps have begun, no failure of theirs is a
refusal. A run that is asked for by its arguments is refused earlier if some of them are missing or are
not what they should be.
-/

namespace EntityScaffold

open FileTree (perform)

/-! ### What is looked at -/

namespace EntityName

theorem split?_eq_none_iff {dotted : String} :
    split? dotted = none ↔ dotted = "" ∨ dotted.toList.getLast? = some '.' := by
  have noClass : split? dotted = none ↔ classChars dotted.toList = [] := by
    unfold split?
    by_cases nothing : classChars dotted.toList = [] <;> simp [nothing]
  have empty : dotted = "" ↔ dotted.toList.reverse = [] := by simp
  rw [noClass, empty, classChars, List.reverse_eq_nil_iff, List.getLast?_eq_head?_reverse]
  cases dotted.toList.reverse with
  | nil => simp
  | cons last front =>
      by_cases isDot : last = '.'
      · subst isDot
        simp
      · simp [isDot]

end EntityName

namespace EntityMetadata

variable {metadata : EntityMetadata}

theorem validate_eq_ok_iff :
    metadata.validate = .ok () ↔ metadata.identifier = [CodeText.ofString "id"] := by
  unfold validate
  constructor
  · intro valid
    split at valid
    · cases valid
    · next atMostOne =>
      split at valid
      · next present =>
        have member := List.contains_iff_mem.mp present
        cases keys : metadata.identifier with
        | nil =>
            rw [keys] at member
            cases member
        | cons key others =>
            rw [keys, List.length_cons] at atMostOne
            have alone : others = [] := List.eq_nil_of_length_eq_zero (by omega)
            rw [keys, alone, List.mem_singleton] at member
            rw [member, alone]
      · cases valid
  · intro only
    rw [only]
    simp

theorem validate_eq_error_iff {error : ScaffoldError} :
    metadata.validate = .error error ↔
      1 < metadata.identifier.length ∧ error = .multiplePrimaryKeys metadata.identifier ∨
        ¬1 < metadata.identifier.length ∧ metadata.identifier ≠ [CodeText.ofString "id"] ∧
          error = .missingIdPrimaryKey := by
  by_cases several : 1 < metadata.identifier.length
  · have refused : metadata.validate = .error (.multiplePrimaryKeys metadata.identifier) := by
      unfold validate
      rw [if_pos several]
    rw [refused, Except.error.injEq]
    simp [several, eq_comm]
  · by_cases only : metadata.identifier = [CodeText.ofString "id"]
    · rw [validate_eq_ok_iff.mpr only]
      simp [only]
    · have refused : metadata.validate = .error .missingIdPrimaryKey := by
        cases checked : metadata.validate with
        | ok done => exact absurd (validate_eq_ok_iff.mp checked) only
        | error error =>
            unfold validate at checked
            rw [if_neg several] at checked
            split at checked
            · cases checked
            · exact checked.symm
      rw [refused, Except.error.injEq]
      simp [several, only, eq_comm]

end EntityMetadata

namespace FileTree

variable {tree : FileTree} {path : Path}

/-- A file or a directory stands at a path. A name with a NUL in it stands for nothing. -/
def Holds (tree : FileTree) (path : Path) : Prop :=
  hasNul path = false ∧ ∃ node, tree.lookup path = .ok node

theorem exists?_eq_true_iff : tree.exists? path = .ok true ↔ tree.Holds path := by
  unfold exists? Holds
  cases hasNul path with
  | true => simp
  | false =>
      cases tree.lookup path with
      | ok node => simp
      | error error => cases error <;> simp

end FileTree

namespace OutputPaths

theorem resolve?_eq_none_iff {root : Path} {entity controllerDir : String} {format : RoutingFormat}
    {extensions : Extensions} :
    resolve? root entity controllerDir format extensions = none ↔ EntityName.split? entity = none := by
  constructor
  · intro unresolved
    cases split : EntityName.split? entity with
    | none => rfl
    | some name =>
        have resolves := isSome_resolve? root controllerDir format extensions split
        rw [unresolved] at resolves
        cases resolves
  · intro noClass
    cases resolved : resolve? root entity controllerDir format extensions with
    | none => rfl
    | some paths =>
        have split := (eq_of_resolve? resolved).1
        rw [noClass] at split
        cases split

end OutputPaths

namespace Generator

variable {generator : Generator} {request : GenerationRequest} {plan : GenerationPlan}
  {before after : FileTree} {error : ScaffoldError} {written : List Path}

/-- Where the controller of a request is to stand. The format of the routes, the planned actions and
the extension of views have no part in it. -/
def controllerPath (generator : Generator) (request : GenerationRequest) : Path :=
  ((request.bundle.path.join (ControllerDir.normalize request.controllerDir)).join
    (EntityName.asPath (String.ofList (EntityName.nameSpaceChars request.entity.toList)))).join
      (String.ofList (EntityName.classChars request.entity.toList) ++ "Controller" ++
        generator.extensions.source)

theorem controller_eq_of_plan (planned : generator.plan request = .ok plan) :
    plan.paths.controller = generator.controllerPath request := by
  obtain ⟨_, _, _, resolved⟩ := eq_of_plan planned
  obtain ⟨split, same⟩ := OutputPaths.eq_of_resolve? resolved
  rw [congrArg OutputPaths.controller same, (EntityName.split?_eq_some_iff.mp split).2]
  rfl

/-! ### Plans that cannot be made -/

theorem plan_eq_error_iff :
    generator.plan request = .error error ↔
      request.metadata.validate = .error error ∨
        request.metadata.identifier = [CodeText.ofString "id"] ∧
          (request.entity = "" ∨ request.entity.toList.getLast? = some '.') ∧
          error = .invalidEntityName request.entity := by
  rw [← EntityName.split?_eq_none_iff, ← EntityMetadata.validate_eq_ok_iff]
  cases valid : request.metadata.validate with
  | error refusal =>
      unfold Generator.plan
      rw [valid]
      simp [bind, Except.bind]
  | ok done =>
      unfold Generator.plan
      rw [valid]
      simp only [bind, Except.bind]
      split
      · next paths resolved =>
        have named : EntityName.split? request.entity ≠ none := fun noClass => by
          rw [OutputPaths.resolve?_eq_none_iff.mpr noClass] at resolved
          cases resolved
        simp [pure, Except.pure, named]
      · next unresolved =>
        have noClass := OutputPaths.resolve?_eq_none_iff.mp unresolved
        simp [throw, throwThe, MonadExceptOf.throw, noClass, eq_comm]

theorem exists_plan_iff :
    (∃ plan, generator.plan request = .ok plan) ↔
      request.metadata.identifier = [CodeText.ofString "id"] ∧
        ¬(request.entity = "" ∨ request.entity.toList.getLast? = some '.') := by
  constructor
  · rintro ⟨plan, planned⟩
    refine ⟨?_, fun noClass => ?_⟩
    · cases valid : request.metadata.validate with
      | ok done => exact EntityMetadata.validate_eq_ok_iff.mp valid
      | error error =>
          rw [plan_eq_error_iff.mpr (Or.inl valid)] at planned
          cases planned
    · cases valid : request.metadata.validate with
      | ok done =>
          have only := EntityMetadata.validate_eq_ok_iff.mp valid
          rw [plan_eq_error_iff.mpr (Or.inr ⟨only, noClass, rfl⟩)] at planned
          cases planned
      | error error =>
          rw [plan_eq_error_iff.mpr (Or.inl valid)] at planned
          cases planned
  · rintro ⟨only, named⟩
    cases planned : generator.plan request with
    | ok plan => exact ⟨plan, rfl⟩
    | error error =>
        rcases plan_eq_error_iff.mp planned with invalid | ⟨_, noClass, _⟩
        · rw [EntityMetadata.validate_eq_ok_iff.mpr only] at invalid
          cases invalid
        · exact absurd noClass named

/-! ### Steps that fail -/

/-- The only error of the scaffolder that the steps may end with is that something was not rendered. -/
theorem isRender_of_takeSteps {steps : List GenerationStep} {reported : List Path}
    (failed : perform (generator.takeSteps reported steps) before =
      (.error (.scaffold error written), after)) :
    ∃ name target reason, error = .render name target reason := by
  obtain ⟨_, _, _, _, _, _, _, stopped, same⟩ := takeSteps_eq_error failed
  obtain ⟨⟨former, isCause⟩, _⟩ := Failure.eq_of_withWritten same
  subst isCause
  obtain ⟨⟨reason, isRender⟩, _⟩ := grows_of_takeStep_eq_scaffold stopped
  exact ⟨_, _, _, isRender⟩

/-! ### Arguments -/

/-- A run that is asked for by its arguments is a run on their request, unless an argument that has no
usual value is missing, or one of them is not what it should be; then nothing happens. -/
theorem perform_generate (generator : Generator) (bundle : Bundle) (metadata : EntityMetadata)
    (arguments : List (Value × Value)) (before : FileTree) :
    perform (generator.generate bundle metadata arguments) before =
      match GenerationRequest.ofArguments bundle metadata arguments with
      | .ok request => perform (generator.run request) before
      | .error failure => (.error failure, before) := by
  rw [generate, Work.perform_ofExcept_bind]
  cases GenerationRequest.ofArguments bundle metadata arguments <;> rfl

/-- Without an argument that has no usual value nothing happens, and the complaint names all such
arguments that are missing. -/
theorem perform_generate_of_missing {arguments : List (Value × Value)} {name : String}
    (required : name ∈ GenerationRequest.requiredArguments)
    (missing : Value.get? name arguments = none) (generator : Generator) (bundle : Bundle)
    (metadata : EntityMetadata) (before : FileTree) :
    ∃ names, (∀ other, other ∈ names ↔ other ∈ GenerationRequest.requiredArguments ∧
        Value.get? other arguments = none) ∧
      perform (generator.generate bundle metadata arguments) before =
        (.error (.wrongKind (GenerationRequest.missingMessage names)), before) := by
  have all : ∀ other, other ∈ GenerationRequest.requiredArguments.filter (fun name =>
      (Value.get? name arguments).isNone) ↔
        other ∈ GenerationRequest.requiredArguments ∧ Value.get? other arguments = none := by
    simp [List.mem_filter, Option.isNone_iff_eq_none]
  refine ⟨_, all, ?_⟩
  rw [perform_generate, GenerationRequest.ofArguments]
  cases listed : GenerationRequest.requiredArguments.filter fun name =>
      (Value.get? name arguments).isNone with
  | nil =>
      have inNone := (all name).mpr ⟨required, missing⟩
      rw [listed] at inNone
      cases inNone
  | cons first others => rfl

/-! ### Runs -/

/-- A run ends with an error of the scaffolder other than one of rendering just when it has no plan,
or its controller is there; then it has written nothing. -/
theorem run_eq_refusal_iff (refusal : ∀ name target reason, error ≠ .render name target reason) :
    perform (generator.run request) before = (.error (.scaffold error written), after) ↔
      (generator.plan request = .error error ∨
        (∃ plan, generator.plan request = .ok plan) ∧
          before.Holds (generator.controllerPath request) ∧
          error = .controllerAlreadyExists (generator.controllerPath request)) ∧
        written = [] ∧ after = before := by
  cases planned : generator.plan request with
  | error cause =>
      rw [perform_run, planned]
      simp only [Failure.ofError, Prod.mk.injEq, Except.error.injEq, Failure.scaffold.injEq,
        reduceCtorEq, exists_false, false_and, or_false, eq_comm, and_assoc]
  | ok plan =>
      have place := controller_eq_of_plan planned
      rw [perform_run, planned, ← FileTree.exists?_eq_true_iff]
      dsimp only
      rw [place]
      cases found : before.exists? (generator.controllerPath request) with
      | error cause => simp
      | ok there =>
          cases there with
          | true =>
              simp only [Failure.ofError, Prod.mk.injEq, Except.error.injEq, Failure.scaffold.injEq,
                reduceCtorEq, false_or, true_and, Except.ok.injEq, exists_eq', eq_comm, and_assoc]
          | false =>
              constructor
              · intro ran
                rcases FileTree.perform_bind_eq_error ran with failed | ⟨_, _, _, returned⟩
                · obtain ⟨name, target, reason, isRender⟩ := isRender_of_takeSteps failed
                  exact absurd isRender (refusal name target reason)
                · cases returned
              · rintro ⟨unplanned | ⟨_, holds, _⟩, _⟩
                · cases unplanned
                · cases holds

/-- A request is refused for the first of four reasons that applies: it has several identifiers, its
identifier is another one, its entity has no class, or its controller is there. In each case nothing
has been written and the tree is as it was, and for no other reason is it refused. -/
theorem run_refuses_iff (generator : Generator) (request : GenerationRequest)
    (before after : FileTree) (written : List Path) :
    (∀ keys, perform (generator.run request) before =
        (.error (.scaffold (.multiplePrimaryKeys keys) written), after) ↔
      1 < request.metadata.identifier.length ∧ keys = request.metadata.identifier ∧
        written = [] ∧ after = before) ∧
    (perform (generator.run request) before =
        (.error (.scaffold .missingIdPrimaryKey written), after) ↔
      ¬1 < request.metadata.identifier.length ∧
        request.metadata.identifier ≠ [CodeText.ofString "id"] ∧ written = [] ∧ after = before) ∧
    (∀ entity, perform (generator.run request) before =
        (.error (.scaffold (.invalidEntityName entity) written), after) ↔
      request.metadata.identifier = [CodeText.ofString "id"] ∧
        (request.entity = "" ∨ request.entity.toList.getLast? = some '.') ∧
        entity = request.entity ∧ written = [] ∧ after = before) ∧
    ∀ path, perform (generator.run request) before =
        (.error (.scaffold (.controllerAlreadyExists path) written), after) ↔
      request.metadata.identifier = [CodeText.ofString "id"] ∧
        ¬(request.entity = "" ∨ request.entity.toList.getLast? = some '.') ∧
        before.Holds (generator.controllerPath request) ∧
        path = generator.controllerPath request ∧ written = [] ∧ after = before := by
  refine ⟨fun keys => ?_, ?_, fun entity => ?_, fun path => ?_⟩
  all_goals
    rw [run_eq_refusal_iff fun _ _ _ => by simp, plan_eq_error_iff, exists_plan_iff,
      EntityMetadata.validate_eq_error_iff]
    simp only [ScaffoldError.multiplePrimaryKeys.injEq, ScaffoldError.invalidEntityName.injEq,
      ScaffoldError.controllerAlreadyExists.injEq, reduceCtorEq, and_false, and_true, false_or,
      or_false, and_assoc]

end Generator

end EntityScaffold
