import EntityScaffold.Proofs.Generation.Success

/-
Runs that stop at a failure to render. The files before the failing one are written and reported,
each with the text that its step rendered; nothing else is changed but for directories above those
files, above the failing one, and above the directory of the views. When the reported files are new,
removing them brings back the files that were there.
-/

namespace EntityScaffold

open FileTree (perform)

/-- A run has stopped between two trees: the files of its plan that are done are written, and the
next one has failed, or the directory of the views has, as the second file was to come. -/
structure GenerationPlan.Stopped (plan : GenerationPlan) (generator : Generator)
    (request : GenerationRequest) (before after : FileTree) (done : List PlannedFile)
    (failing : PlannedFile) (rest : List PlannedFile) : Prop where
  planned : generator.plan request = .ok plan
  files : plan.files = done ++ failing :: rest
  held : ∀ file ∈ done, ∃ text, plan.Renders generator before file text ∧
    after.readContent file.path = .ok (.text text)
  kept : ∀ location, location ∉ done.map (fun file => file.path.location) →
    after.get? location = before.get? location ∨
      before.get? location = none ∧ after.get? location = some .directory ∧
        ((∃ file ∈ done ++ [failing], location <+: file.path.parent.location) ∨
          location <+: plan.paths.viewDir.location)
  directories : ∀ location, before.get? location = some .directory →
    after.get? location = some .directory
  restored : (∀ file ∈ done, ∀ content, before.get? file.path.location ≠ some (.file content)) →
    ∀ location content,
      (after.unlinkAll (done.map fun file => file.path.location)).get? location =
          some (.file content) ↔
        before.get? location = some (.file content)

theorem Failure.eq_of_withWritten {cause : Failure} {error : ScaffoldError}
    {paths written : List Path} (same : .scaffold error written = cause.withWritten paths) :
    (∃ former, cause = .scaffold error former) ∧ written = paths := by
  cases cause <;> cases same
  exact ⟨⟨_, rfl⟩, rfl⟩

namespace Generator

variable {generator : Generator} {request : GenerationRequest} {before after : FileTree}

/-- When a run fails to render, the files before the failing one are written and reported, the error
names the failing one, or the directory of the views when that could not be made, and nothing else
has changed but for new directories. -/
theorem stopped_of_run_eq_render {skeleton : String} {target : Option Path} {reason : CodeText}
    {written : List Path} (keeps : generator.library.KeepsTree)
    (regular : request.IsRegular generator.extensions)
    (ran : perform (generator.run request) before =
      (.error (.scaffold (.render skeleton target reason) written), after)) :
    ∃ plan done failing rest,
      GenerationPlan.Stopped plan generator request before after done failing rest ∧
        written = done.map PlannedFile.path ∧
        (skeleton = failing.skeleton ∧ target = some failing.path ∨
          done.length = 1 ∧ skeleton = GenerationPlan.viewSkeleton .index ∧
            target = some plan.paths.viewDir) := by
  obtain ⟨plan, planned, performed⟩ := takeSteps_of_run_eq_render ran
  have made := isMadeFor_of_plan planned regular.isPlain
  have down := made.leadDown_steps regular.root
  obtain ⟨earlier, step, later, middle, cause, split, took, failed, same⟩ :=
    takeSteps_eq_error performed
  obtain ⟨⟨former, isRender⟩, reported⟩ := Failure.eq_of_withWritten same
  subst isRender
  rw [split] at down
  obtain ⟨⟨named, aimed⟩, grownOnWay⟩ := grows_of_takeStep_eq_render keeps failed
  have grownLast := grownOnWay.of_ways (down.right.directory List.mem_cons_self)
  obtain ⟨done, failing, rest, stops⟩ := GenerationPlan.exists_stopsAt made.actions split
  have grown := (took.grows keeps down.left).trans grownLast
  rw [List.append_nil, stops.writtenLocations_eq] at grown
  refine ⟨plan, done, failing, rest,
    { planned := planned
      files := stops.files
      held := ?_
      kept := ?_
      directories := grown.directories
      restored := ?_ }, ?_, ?_⟩
  · intro file member
    obtain ⟨first, second, around⟩ := List.append_of_mem (stops.taken file member)
    have distinct := made.writtenLocations_nodup
    rw [split, GenerationStep.writtenLocations_append] at distinct
    have distinctEarlier := (List.nodup_append.mp distinct).1
    rw [around] at took distinctEarlier
    obtain ⟨start, early, ⟨text, rendered, held⟩, _⟩ := took.file_held keeps distinctEarlier
    refine ⟨text, ⟨first, second ++ step :: later, start, ?_, early, rendered⟩, ?_⟩
    · rw [split, around, List.append_assoc, List.cons_append]
    · exact grownLast.readContent_eq_ok List.not_mem_nil held
  · intro location unwritten
    rcases grown.keeps location unwritten with same | ⟨new, there, target, member, above⟩
    · exact Or.inl same
    · refine Or.inr ⟨new, there, ?_⟩
      rcases stops.made member with ⟨file, listed, place⟩ | isViewDir
      · exact Or.inl ⟨file, listed, place ▸ above⟩
      · exact Or.inr (isViewDir ▸ above)
  · intro new location content
    refine grown.unlinkAll_eq_file_iff ?_
    intro place member
    obtain ⟨file, listed, isPlace⟩ := List.mem_map.mp member
    subst isPlace
    exact new file listed
  · rw [reported, List.nil_append, stops.written]
  · rcases stops.step with isFailing | ⟨one, isViewDir⟩
    · rw [isFailing] at named aimed
      exact Or.inl ⟨named, aimed⟩
    · rw [isViewDir] at named aimed
      exact Or.inr ⟨one, named, aimed⟩

def writtenBefore? : Except Failure GenerationResult → Option (List Path)
  | .error (.scaffold (.render _ _ _) written) => some written
  | _ => none

theorem eq_of_writtenBefore?_eq_some {result : Except Failure GenerationResult}
    {written : List Path} (stops : writtenBefore? result = some written) :
    ∃ skeleton target reason,
      result = .error (.scaffold (.render skeleton target reason) written) := by
  unfold writtenBefore? at stops
  split at stops
  · next skeleton target reason listed =>
    cases stops
    exact ⟨skeleton, target, reason, rfl⟩
  · cases stops

/-- A tree in which a file stands where the directory of the views has to be. -/
def blockedTree : FileTree :=
  ⟨[(["s"], .directory), (["s", "controller.j2"], .file (.text "class")), (["b"], .directory),
    (["b", "Resources"], .file (.text ""))]⟩

def postRequest : GenerationRequest where
  bundle := ⟨"Blog", "Acme", .ofString "b"⟩
  entity := "Post"
  metadata := ⟨[], [CodeText.ofString "id"]⟩

/-- The controller is written before the directory of the views cannot be made. -/
theorem stopped_at_view_directory :
    ∃ skeleton target reason after plan done failing rest,
      perform (run smallGenerator postRequest) blockedTree =
          (.error (.scaffold (.render skeleton target reason)
            [.ofString "b/Controller/PostController.php"]), after) ∧
        GenerationPlan.Stopped plan smallGenerator postRequest blockedTree after done failing
          rest := by
  have stops : writtenBefore? (perform (run smallGenerator postRequest) blockedTree).1 =
      some [.ofString "b/Controller/PostController.php"] := by decide +kernel
  cases ran : perform (run smallGenerator postRequest) blockedTree with
  | mk result after =>
      rw [ran] at stops
      obtain ⟨skeleton, target, reason, isRender⟩ := eq_of_writtenBefore?_eq_some stops
      dsimp only at isRender
      rw [isRender] at ran ⊢
      have regular : postRequest.IsRegular {} :=
        ⟨by decide, by decide, by decide, by decide⟩
      obtain ⟨plan, done, failing, rest, stopped, _⟩ :=
        stopped_of_run_eq_render (Library.simple_keepsTree _) regular ran
      exact ⟨skeleton, target, reason, after, plan, done, failing, rest, rfl, stopped⟩

end Generator

end EntityScaffold
