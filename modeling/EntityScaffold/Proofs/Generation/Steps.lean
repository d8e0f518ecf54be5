import EntityScaffold.Generation.Run
import EntityScaffold.Proofs.FileTree.Writing
import EntityScaffold.Proofs.Skeleton.Engine
import EntityScaffold.Proofs.Text.PlainText

/-
Single steps of a run. A step that writes a file puts the rendered text there and makes the
directories above it; a step that makes the directory of the views makes nothing but directories. The
only error of the scaffolder is that of a step that fails to render: it names the skeleton and the path
of the step. Where rendering keeps the tree, all files are then as they were.
-/

namespace EntityScaffold

open FileTree (perform)

variable {tree after : FileTree}

namespace Work

theorem perform_get_bind {α : Type} (next : FileTree → Work α) (tree : FileTree) :
    perform (get >>= next) tree = perform (next tree) tree := rfl

theorem perform_set_bind {α : Type} (changed : FileTree) (next : Unit → Work α) (tree : FileTree) :
    perform (set changed >>= next) tree = perform (next ()) changed := rfl

theorem perform_ofExcept_bind {α β : Type} (result : Except Failure α) (next : α → Work β)
    (tree : FileTree) :
    perform (Work.ofExcept result >>= next) tree =
      match result with
      | .ok value => perform (next value) tree
      | .error failure => (.error failure, tree) := by
  cases result <;> rfl

theorem perform_onTree {α : Type} (explain : AccessError → Failure) (action : TreeAction α)
    (tree : FileTree) :
    perform (Work.onTree explain action) tree =
      ((perform action tree).1.mapError explain, (perform action tree).2) := rfl

theorem perform_onTree_eq_ok {α : Type} {explain : AccessError → Failure} {action : TreeAction α}
    {value : α} (performed : perform (Work.onTree explain action) tree = (.ok value, after)) :
    perform action tree = (.ok value, after) := by
  rw [perform_onTree] at performed
  cases acted : perform action tree with
  | mk result changed =>
      rw [acted] at performed
      cases result with
      | error error => cases performed
      | ok other =>
          cases performed
          rfl

theorem perform_onTree_eq_error {α : Type} {explain : AccessError → Failure}
    {action : TreeAction α} {failure : Failure}
    (performed : perform (Work.onTree explain action) tree = (.error failure, after)) :
    ∃ error, perform action tree = (.error error, after) ∧ failure = explain error := by
  rw [perform_onTree] at performed
  cases acted : perform action tree with
  | mk result changed =>
      rw [acted] at performed
      cases result with
      | error error =>
          cases performed
          exact ⟨error, rfl, rfl⟩
      | ok other => cases performed

end Work

namespace Library

open CodeText

variable {library : Library} {skeleton : String} {path : Path} {bindings : Bindings}

theorem perform_renderFile (library : Library) (skeleton : String) (path : Path)
    (bindings : Bindings) (tree : FileTree) :
    perform (library.renderFile skeleton path bindings) tree =
      match library.renderText tree skeleton bindings with
      | .error failure =>
        (.error (failureAt path failure), library.treeAfter tree skeleton bindings)
      | .ok text =>
        match text.surrogates? with
        | none =>
          perform (do
            renderFile.writeAt skeleton path text.replacing
            return path) (library.treeAfter tree skeleton bindings)
        | some (position, surrogates) =>
          perform (do
            renderFile.writeAt skeleton path []
            throw (.unencodable position surrogates)) (library.treeAfter tree skeleton bindings) := by
  unfold renderFile
  rw [Work.perform_get_bind, Work.perform_set_bind, Work.perform_ofExcept_bind]
  cases library.renderText tree skeleton bindings with
  | error failure => rfl
  | ok text =>
      have kept : (Except.ok text : Except Failure CodeText).mapError (failureAt path) = .ok text := rfl
      rw [kept]
      dsimp only
      cases text.surrogates? <;> rfl

/-- An error of the scaffolder about a skeleton that fails to render names it, and the output. -/
theorem eq_render_of_failureAt {failure : Failure} {error : ScaffoldError} {written : List Path}
    (failed : library.renderText tree skeleton bindings = .error failure)
    (same : failureAt path failure = .scaffold error written) :
    ∃ reason, error = .render skeleton (some path) reason := by
  unfold renderText at failed
  cases rendered : (library.render tree skeleton bindings).1 with
  | ok text =>
      rw [rendered] at failed
      cases failed
  | error fault =>
      rw [rendered] at failed
      have origin : Failure.ofRenderFault library skeleton fault = failure :=
        Except.error.inj failed
      rw [← origin] at same
      cases fault with
      | wrongKind | undecodable | noText | other => cases same
      | notFound | malformed | undefinedName | noMember | noElement =>
          cases same
          exact ⟨_, rfl⟩

theorem eq_render_of_outputFailure {cause : AccessError} {error : ScaffoldError}
    {written : List Path} (same : Failure.scaffold error written = outputFailure skeleton path cause) :
    ∃ reason, error = .render skeleton (some path) reason := by
  cases cause with
  | nulByte => cases same
  | system fault place =>
      cases same
      exact ⟨_, rfl⟩

/-- A skeleton that is rendered into a file has a text, and that text is in the file, whose path is
given. -/
theorem grows_of_renderFile_eq_ok {place : Path}
    (performed : perform (library.renderFile skeleton path bindings) tree = (.ok place, after)) :
    place = path ∧
      (∃ text, library.renderText tree skeleton bindings = .ok (ofString text) ∧
        after.readContent path = .ok (.text text)) ∧
      (library.treeAfter tree skeleton bindings).Grows after [path.location] path.parent.ways := by
  rw [perform_renderFile] at performed
  split at performed
  · cases performed
  · next text rendered =>
    split at performed
    · next noSurrogates =>
      obtain ⟨_, _, written, given⟩ := FileTree.perform_bind_eq_ok performed
      cases given
      have wrote := Work.perform_onTree_eq_ok written
      obtain ⟨grown, held⟩ := FileTree.grows_of_writeFile_eq_ok wrote
      have plain := surrogates?_eq_none_iff.mp noSurrogates
      exact ⟨rfl, ⟨text.toStringReplacing, by rw [rendered, ofString_toStringReplacing plain],
        held⟩, grown⟩
    · obtain ⟨_, _, _, thrown⟩ := FileTree.perform_bind_eq_ok performed
      cases thrown

/-- The only error of the scaffolder is that of rendering. It comes after what rendering does to the
tree, and from there on all files are left as they are. -/
theorem grows_of_renderFile_eq_scaffold {error : ScaffoldError} {written : List Path}
    (performed : perform (library.renderFile skeleton path bindings) tree =
      (.error (.scaffold error written), after)) :
    (∃ reason, error = .render skeleton (some path) reason) ∧
      (library.treeAfter tree skeleton bindings).Grows after [] path.parent.ways := by
  have unwritten {chars : List Char}
      (failed : perform (renderFile.writeAt skeleton path chars)
          (library.treeAfter tree skeleton bindings) = (.error (.scaffold error written), after)) :
      (∃ reason, error = .render skeleton (some path) reason) ∧
        (library.treeAfter tree skeleton bindings).Grows after [] path.parent.ways := by
    obtain ⟨cause, acted, same⟩ := Work.perform_onTree_eq_error failed
    exact ⟨eq_render_of_outputFailure same, FileTree.grows_of_writeFile_eq_error acted⟩
  rw [perform_renderFile] at performed
  split at performed
  · next failure failed =>
    obtain ⟨same, unchanged⟩ := Prod.mk.inj performed
    subst unchanged
    exact ⟨eq_render_of_failureAt failed (Except.error.inj same), FileTree.Grows.refl _ _ _⟩
  · split at performed <;>
      rcases FileTree.perform_bind_eq_error performed with early | ⟨_, _, _, late⟩
    · exact unwritten early
    · cases late
    · exact unwritten early
    · cases late

end Library

namespace GenerationStep

def path : GenerationStep → Path
  | .file _ path _ => path
  | .viewDirectory path => path

def skeleton : GenerationStep → String
  | .file skeleton _ _ => skeleton
  | .viewDirectory _ => GenerationPlan.viewSkeleton .index

def written : GenerationStep → List Path
  | .file _ path _ => [path]
  | .viewDirectory _ => []

/-- The directory that a step makes, with those above it. -/
def directory : GenerationStep → Path
  | .file _ path _ => path.parent
  | .viewDirectory path => path

/-- A step that writes a file leaves there what is rendered before it. -/
def IsDone (generator : Generator) (before after : FileTree) : GenerationStep → Prop
  | .file skeleton path bindings =>
    ∃ text, generator.library.renderText before skeleton bindings = .ok (CodeText.ofString text) ∧
      after.readContent path = .ok (.text text)
  | .viewDirectory _ => True

end GenerationStep

namespace Generator

variable {generator : Generator}

/-! ### Steps -/

theorem perform_takeStep_file (generator : Generator) (skeleton : String) (path : Path)
    (bindings : Bindings) (tree : FileTree) :
    perform (generator.takeStep (.file skeleton path bindings)) tree =
      ((perform (generator.library.renderFile skeleton path bindings) tree).1.map fun place => [place],
        (perform (generator.library.renderFile skeleton path bindings) tree).2) := by
  change perform (generator.library.renderFile skeleton path bindings >>=
    fun place => pure [place]) tree = _
  rw [FileTree.perform_bind]
  cases perform (generator.library.renderFile skeleton path bindings) tree with
  | mk result changed => cases result <;> rfl

theorem perform_takeStep_viewDirectory (generator : Generator) (path : Path) (tree : FileTree) :
    perform (generator.takeStep (.viewDirectory path)) tree =
      ((perform (FileTree.makeDirectories path) tree).1.mapError
          (Library.outputFailure (GenerationPlan.viewSkeleton .index) path) |>.map fun _ => [],
        (perform (FileTree.makeDirectories path) tree).2) := by
  change perform (Work.onTree (Library.outputFailure (GenerationPlan.viewSkeleton .index) path)
    (FileTree.makeDirectories path) >>= fun _ => pure []) tree = _
  rw [FileTree.perform_bind, Work.perform_onTree]
  cases perform (FileTree.makeDirectories path) tree with
  | mk result changed => cases result <;> rfl

/-- The tree in which a step makes its directories: rendering comes before. -/
def treeBefore (generator : Generator) (tree : FileTree) : GenerationStep → FileTree
  | .file skeleton _ bindings => generator.library.treeAfter tree skeleton bindings
  | .viewDirectory _ => tree

theorem treeBefore_eq (keeps : generator.library.KeepsTree) (tree : FileTree)
    (step : GenerationStep) : generator.treeBefore tree step = tree := by
  cases step with
  | file skeleton path bindings => exact keeps tree skeleton bindings
  | viewDirectory path => rfl

/-- A step that is taken gives the files that it writes, and they are there. -/
theorem grows_of_takeStep_eq_ok {step : GenerationStep} {paths : List Path}
    (taken : perform (generator.takeStep step) tree = (.ok paths, after)) :
    paths = step.written ∧ step.IsDone generator tree after ∧
      (generator.treeBefore tree step).Grows after (step.written.map Path.location)
        step.directory.ways := by
  cases step with
  | file skeleton path bindings =>
      rw [perform_takeStep_file] at taken
      cases performed : perform (generator.library.renderFile skeleton path bindings) tree with
      | mk result changed =>
          rw [performed] at taken
          cases result with
          | error failure => cases taken
          | ok place =>
              cases taken
              obtain ⟨same, held, grown⟩ := Library.grows_of_renderFile_eq_ok performed
              subst same
              exact ⟨rfl, held, grown⟩
  | viewDirectory path =>
      have grown := FileTree.grows_makeDirectories path tree
      rw [perform_takeStep_viewDirectory] at taken
      cases performed : perform (FileTree.makeDirectories path) tree with
      | mk result changed =>
          rw [performed] at taken grown
          cases result with
          | error failure => cases taken
          | ok done =>
              cases taken
              exact ⟨rfl, trivial, grown⟩

/-- The only error of the scaffolder that a step may end with is that it fails to render. It names the
step, and leaves all files as rendering has left them. -/
theorem grows_of_takeStep_eq_scaffold {step : GenerationStep} {error : ScaffoldError}
    {written : List Path}
    (failed : perform (generator.takeStep step) tree = (.error (.scaffold error written), after)) :
    (∃ reason, error = .render step.skeleton (some step.path) reason) ∧
      (generator.treeBefore tree step).Grows after [] step.directory.ways := by
  cases step with
  | file skeleton path bindings =>
      rw [perform_takeStep_file] at failed
      cases performed : perform (generator.library.renderFile skeleton path bindings) tree with
      | mk result changed =>
          rw [performed] at failed
          cases result with
          | ok done => cases failed
          | error failure =>
              cases failed
              exact Library.grows_of_renderFile_eq_scaffold performed
  | viewDirectory path =>
      have grown := FileTree.grows_makeDirectories path tree
      rw [perform_takeStep_viewDirectory] at failed
      cases performed : perform (FileTree.makeDirectories path) tree with
      | mk result changed =>
          rw [performed] at failed grown
          cases result with
          | ok done => cases failed
          | error cause =>
              obtain ⟨same, unchanged⟩ := Prod.mk.inj failed
              subst unchanged
              exact ⟨Library.eq_render_of_outputFailure (Except.error.inj same).symm, grown⟩

theorem grows_of_takeStep_eq_render {step : GenerationStep} {name : String}
    {reason : CodeText} {target : Option Path} {written : List Path}
    (keeps : generator.library.KeepsTree)
    (failed : perform (generator.takeStep step) tree =
      (.error (.scaffold (.render name target reason) written), after)) :
    (name = step.skeleton ∧ target = some step.path) ∧
      tree.Grows after [] step.directory.ways := by
  obtain ⟨⟨_, same⟩, grown⟩ := grows_of_takeStep_eq_scaffold failed
  rw [treeBefore_eq keeps] at grown
  cases same
  exact ⟨⟨rfl, rfl⟩, grown⟩

end Generator

end EntityScaffold
