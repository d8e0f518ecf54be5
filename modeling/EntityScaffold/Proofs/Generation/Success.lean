import EntityScaffold.Proofs.Attempt
import EntityScaffold.Proofs.Generation.Plan

/-
Runs that end well. Each file of the plan holds the text of its skeleton, every other file is as it
was, and the new directories are the ones above the files. Where the skeletons are apart from the files
of the plan and rendering can be repeated, each text is also what its skeleton gives when the run is
over.
-/

namespace EntityScaffold

open FileTree (perform)

namespace GenerationPlan

/-- The step of a file renders a text, after the steps before it have been taken. -/
def Renders (plan : GenerationPlan) (generator : Generator) (before : FileTree)
    (file : PlannedFile) (text : String) : Prop :=
  ∃ earlier later middle, plan.steps = earlier ++ file.step :: later ∧
    Took generator before earlier middle ∧
      generator.library.renderText middle file.skeleton file.bindings = .ok (.ofString text)

end GenerationPlan

/-- A result says what a run did between two trees: all files of the plan are written and hold what
their skeletons gave, and beside them there are only directories that are new. -/
structure GenerationResult.Accounts (result : GenerationResult) (generator : Generator)
    (request : GenerationRequest) (before after : FileTree) : Prop where
  planned : generator.plan request = .ok result.plan
  written : result.written = result.plan.files.map PlannedFile.path
  routing : result.plan.paths.routing = none ↔
    RoutingFormat.negotiate request.format = .annotations
  distinct : result.written.Nodup
  held : ∀ file ∈ result.plan.files, ∃ text, result.plan.Renders generator before file text ∧
    after.readContent file.path = .ok (.text text)
  kept : ∀ location, location ∉ result.written.map Path.location →
    after.get? location = before.get? location ∨
      before.get? location = none ∧ after.get? location = some .directory ∧
        ∃ path ∈ result.written, location <+: path.parent.location
  directories : ∀ location, before.get? location = some .directory →
    after.get? location = some .directory

namespace Generator

variable {generator : Generator} {request : GenerationRequest} {before after : FileTree}
  {plan : GenerationPlan} {extensions : Extensions}

theorem written_of_run_eq_ok {result : GenerationResult}
    (ran : perform (generator.run request) before = (.ok result, after)) :
    result.written = result.plan.files.map PlannedFile.path := by
  obtain ⟨planned, performed⟩ := took_of_run_eq_ok ran
  obtain ⟨requested, actions, _⟩ := eq_of_plan planned
  rw [← requested] at actions
  rw [(took_of_takeSteps_eq_ok performed).2, List.nil_append, GenerationPlan.written_steps actions]

theorem routing_eq_none_iff (made : plan.IsMadeFor request extensions) :
    plan.paths.routing = none ↔ RoutingFormat.negotiate request.format = .annotations := by
  have routing := made.laidOut.routing
  have format : (plan.placement extensions).format = RoutingFormat.negotiate request.format :=
    made.format
  rw [routing, format]
  cases RoutingFormat.negotiate request.format <;> simp [RoutingFormat.hasFile]

theorem madeLocations_steps (made : plan.IsMadeFor request extensions) {location : Location}
    (member : location ∈ GenerationStep.madeLocations plan.steps) :
    ∃ file ∈ plan.files, location = file.path.parent.location := by
  unfold GenerationStep.madeLocations at member
  rw [GenerationPlan.steps_eq made.actions] at member
  obtain ⟨step, listed, same⟩ := List.mem_map.mp member
  rcases List.mem_cons.mp listed with isController | later
  · exact ⟨plan.controllerFile, List.mem_cons_self, by rw [← same, isController]; rfl⟩
  · rcases List.mem_cons.mp later with isViewDir | isFile
    · refine ⟨plan.indexFile, plan.indexFile_mem, ?_⟩
      rw [← same, isViewDir]
      exact congrArg Path.location made.viewDir_eq_parent
    · obtain ⟨file, inPlan, isStep⟩ := List.mem_map.mp isFile
      exact ⟨file, List.mem_cons_of_mem _ inPlan, by rw [← same, ← isStep]; rfl⟩

/-- The files of a plain request hold what their steps have rendered when its run has ended well. -/
theorem exists_held_of_run_eq_ok {result : GenerationResult}
    (keeps : generator.library.KeepsTree) (plain : request.IsPlain generator.extensions)
    (ran : perform (generator.run request) before = (.ok result, after)) {file : PlannedFile}
    (member : file ∈ result.plan.files) :
    ∃ text, result.plan.Renders generator before file text ∧
      after.readContent file.path = .ok (.text text) := by
  obtain ⟨planned, performed⟩ := took_of_run_eq_ok ran
  have made := isMadeFor_of_plan planned plain
  obtain ⟨took, _⟩ := took_of_takeSteps_eq_ok performed
  have distinct := made.writtenLocations_nodup
  obtain ⟨earlier, later, split⟩ := List.append_of_mem (GenerationPlan.step_mem made.actions member)
  rw [split] at took distinct
  obtain ⟨middle, early, ⟨text, rendered, held⟩, _⟩ := took.file_held keeps distinct
  exact ⟨text, ⟨earlier, later, middle, split, early, rendered⟩, held⟩

theorem writtenLocations_of_run_eq_ok {result : GenerationResult}
    (plain : request.IsPlain generator.extensions)
    (ran : perform (generator.run request) before = (.ok result, after)) :
    GenerationStep.writtenLocations result.plan.steps = result.written.map Path.location := by
  have made := isMadeFor_of_plan (took_of_run_eq_ok ran).1 plain
  rw [made.writtenLocations_steps, written_of_run_eq_ok ran, List.map_map]
  rfl

/-- When the skeletons are apart from the written files, what a step has rendered is rendered again in
the tree that the run leaves. -/
theorem renderText_again_of_run_eq_ok {result : GenerationResult} {again : Library}
    {reads : List String → Prop} {file : PlannedFile} {text : String}
    (keeps : generator.library.KeepsTree) (repeated : generator.library.IsRepeatedBy again reads)
    (apart : generator.library.IsApartFrom reads before (result.written.map Path.location))
    (plain : request.IsPlain generator.extensions)
    (ran : perform (generator.run request) before = (.ok result, after))
    (renders : result.plan.Renders generator before file text) :
    again.renderText after file.skeleton file.bindings = .ok (.ofString text) := by
  obtain ⟨earlier, later, middle, split, early, rendered⟩ := renders
  obtain ⟨took, _⟩ := took_of_takeSteps_eq_ok (took_of_run_eq_ok ran).2
  rw [← writtenLocations_of_run_eq_ok plain ran] at apart
  have within : GenerationStep.writtenLocations earlier ⊆
      GenerationStep.writtenLocations result.plan.steps := by
    rw [split, GenerationStep.writtenLocations_append]
    exact List.subset_append_left _ _
  have atStep := apart.sameSkeletons (early.grows_ways keeps) within
  have atEnd := apart.sameSkeletons (took.grows_ways keeps) (List.Subset.refl _)
  exact repeated middle after (atStep.symm.trans atEnd) _ _ _ rendered

/-- When a run ends well, its result accounts for all that it did, whatever renders the skeletons. As
long as the skeletons are apart from the written files, these hold what rendering again would give. -/
theorem accounts_of_run_eq_ok {result : GenerationResult} (keeps : generator.library.KeepsTree)
    (regular : request.IsRegular generator.extensions)
    (ran : perform (generator.run request) before = (.ok result, after)) :
    result.Accounts generator request before after ∧
      ∀ (again : Library) (reads : List String → Prop),
        generator.library.IsRepeatedBy again reads →
        generator.library.IsApartFrom reads before (result.written.map Path.location) →
        ∀ file ∈ result.plan.files, ∃ text,
          again.renderText after file.skeleton file.bindings = .ok (.ofString text) ∧
            after.readContent file.path = .ok (.text text) := by
  obtain ⟨planned, performed⟩ := took_of_run_eq_ok ran
  have plain := regular.isPlain
  have made := isMadeFor_of_plan planned plain
  obtain ⟨took, _⟩ := took_of_takeSteps_eq_ok performed
  have locations := writtenLocations_of_run_eq_ok plain ran
  have grown := took.grows keeps (made.leadDown_steps regular.root)
  rw [locations] at grown
  refine ⟨
    { planned := planned
      written := written_of_run_eq_ok ran
      routing := routing_eq_none_iff made
      distinct := ?_
      held := fun file member => exists_held_of_run_eq_ok keeps plain ran member
      kept := ?_
      directories := grown.directories }, fun again reads repeated apart file member => ?_⟩
  · have paths := made.writtenLocations_nodup
    rw [locations] at paths
    exact List.Pairwise.of_map Path.location
      (fun _ _ different same => different (congrArg Path.location same)) paths
  · intro location unwritten
    rcases grown.keeps location unwritten with same | ⟨new, there, target, member, above⟩
    · exact Or.inl same
    · obtain ⟨file, inPlan, place⟩ := madeLocations_steps made member
      refine Or.inr ⟨new, there, file.path, ?_, place ▸ above⟩
      rw [written_of_run_eq_ok ran]
      exact List.mem_map_of_mem inPlan
  · obtain ⟨text, renders, held⟩ := exists_held_of_run_eq_ok keeps plain ran member
    exact ⟨text, renderText_again_of_run_eq_ok keeps repeated apart plain ran renders, held⟩

theorem head?_location_of_written {result : GenerationResult} {name : String}
    (plain : request.IsPlain generator.extensions) (root : request.bundle.path.location = [name])
    (ran : perform (generator.run request) before = (.ok result, after)) :
    ∀ location ∈ result.written.map Path.location, location.head? = some name := by
  intro location member
  have made := isMadeFor_of_plan (took_of_run_eq_ok ran).1 plain
  rw [written_of_run_eq_ok ran, List.map_map] at member
  obtain ⟨file, inPlan, place⟩ := List.mem_map.mp member
  obtain ⟨output, _, same⟩ := made.exists_output inPlan
  rw [← place, Function.comp_apply, same, made.location_eq, root]
  rfl

/-- A tree with the skeletons of a small controller, its views and its test. -/
def skeletonTree : FileTree :=
  ⟨[(["s"], .directory), (["s", "controller.j2"], .file (.text "class")),
    (["s", "views"], .directory), (["s", "views", "index.j2"], .file (.text "all")),
    (["s", "views", "show.j2"], .file (.text "one")), (["s", "tests"], .directory),
    (["s", "tests", "test.j2"], .file (.text "test"))]⟩

def annotatedRequest : GenerationRequest where
  bundle := ⟨"Blog", "Acme", .ofString "b"⟩
  entity := "Post"
  metadata := ⟨[], [CodeText.ofString "id"]⟩
  format := "annotation"

/-- The generator that takes its skeletons from the directory of that tree. -/
def smallGenerator : Generator := ⟨.directory (.ofPath (.ofString "s")) .simple, {}⟩

theorem source?_smallGenerator (names : List String) :
    smallGenerator.library.source? names = some ((Path.ofString "s").descend names) := by
  have unicode : (CodePath.ofPath (.ofString "s")).toPath? = some (.ofString "s") := by
    decide +kernel
  rw [smallGenerator, Library.source?, unicode]
  rfl

theorem readContent_skeletonTree {names : List String} {content : Content}
    (standing : skeletonTree.get? ("s" :: names) = some (.file content)) :
    skeletonTree.readContent ((Path.ofString "s").descend names) = .ok content := by
  have listed : (("s" :: names, .file content) : Location × FileNode) ∈ skeletonTree.entries := by
    unfold FileTree.get? at standing
    split at standing
    · cases standing
    · obtain ⟨front, behind, split, _⟩ := List.lookup_eq_some_iff.mp standing
      rw [split]
      exact List.mem_append_right front List.mem_cons_self
  simp only [skeletonTree, List.mem_cons, Prod.mk.injEq, List.cons.injEq, true_and, reduceCtorEq,
    and_false, false_or, FileNode.file.injEq, List.not_mem_nil, or_false] at listed
  refine eq_ok_of_toOption_eq_some ?_
  rcases listed with ⟨rfl, rfl⟩ | ⟨rfl, rfl⟩ | ⟨rfl, rfl⟩ | ⟨rfl, rfl⟩ <;> decide +kernel

/-- What is written below another directory is apart from the skeletons of the tree. -/
theorem isApartFrom_skeletonTree {locations : List Location}
    (elsewhere : ∀ location ∈ locations, location.head? = some "b") :
    smallGenerator.library.IsApartFrom (".." ∉ ·) skeletonTree locations := by
  have place {names : List String} (down : ".." ∉ names) {source : Path}
      (given : source ∈ smallGenerator.library.source? names) :
      source = (Path.ofString "s").descend names ∧ source.location = "s" :: names := by
    rw [source?_smallGenerator] at given
    cases given
    refine ⟨rfl, ?_⟩
    rw [Path.location_descend down]
    rfl
  constructor
  · intro names down source given written
    have head := elsewhere _ written
    rw [(place down given).2] at head
    exact absurd (Option.some.inj head) (by decide)
  · intro names down source given content standing
    obtain ⟨isSource, isPlace⟩ := place down given
    rw [isPlace] at standing
    rw [isSource]
    exact readContent_skeletonTree standing

theorem exists_annotated_run :
    ∃ result after,
      perform (run smallGenerator annotatedRequest) skeletonTree = (.ok result, after) := by
  have ends : (perform (run smallGenerator annotatedRequest) skeletonTree).1.isOk = true := by
    decide +kernel
  exact exists_eq_ok_of_fst_isOk ends

theorem accounts_of_annotated_run :
    ∃ result after,
      perform (run smallGenerator annotatedRequest) skeletonTree = (.ok result, after) ∧
        result.Accounts smallGenerator annotatedRequest skeletonTree after ∧
        ∀ file ∈ result.plan.files, ∃ text,
          smallGenerator.library.renderText after file.skeleton file.bindings =
              .ok (.ofString text) ∧
            after.readContent file.path = .ok (.text text) := by
  have regular : annotatedRequest.IsRegular {} := ⟨by decide, by decide, by decide, by decide⟩
  obtain ⟨result, after, ran⟩ := exists_annotated_run
  obtain ⟨accounts, again⟩ := accounts_of_run_eq_ok (Library.simple_keepsTree _) regular ran
  have root : annotatedRequest.bundle.path.location = ["b"] := by decide
  have elsewhere := head?_location_of_written regular.isPlain root ran
  exact ⟨result, after, ran, accounts, again _ _ (Library.simple_isRepeatedBy _)
    (isApartFrom_skeletonTree elsewhere)⟩

end Generator

end EntityScaffold
