import EntityScaffold.Proofs.Attempt
import EntityScaffold.Proofs.Generation.Steps

/-
Rendering into a file. A text is complete before its file is opened, so that a failure leaves every file
as it was, with one exception: a text with a surrogate in it is found to fit no file only when the file
is open, and then the file is empty. A failure to render names the path of the file as well, and leaves
the tree alone.
-/

namespace EntityScaffold

open FileTree (perform)

namespace FileTree

variable {before after : FileTree} {written made : List Location}

/-- Beside some locations two trees have the same files, with the same contents. -/
def SameFilesBeside (before after : FileTree) (written : List Location) : Prop :=
  ∀ location, location ∉ written → ∀ content,
    after.get? location = some (.file content) ↔ before.get? location = some (.file content)

theorem Grows.sameFilesBeside (grown : before.Grows after written made) :
    before.SameFilesBeside after written := fun _ kept _ =>
  ⟨grown.get?_eq_some_file_of_after kept, grown.get?_eq_some_file kept⟩

/-- Of two trees that differ at one location, where the later one has a file, the files are the same
just when the earlier one has that file too. -/
theorem SameFilesBeside.iff_of_held {location : Location} {content : Content}
    (beside : before.SameFilesBeside after [location])
    (held : after.get? location = some (.file content)) :
    before.SameFilesBeside after [] ↔ before.get? location = some (.file content) := by
  constructor
  · intro same
    exact (same location List.not_mem_nil content).mp held
  · intro there other _ otherContent
    by_cases here : other = location
    · rw [here, held, there]
    · exact beside other (fun member => here (List.mem_singleton.mp member)) otherContent

/-- The directories that appeared lie on the way to one of some locations. -/
def AddsDirectoriesOnWay (before after : FileTree) (made : List Location) : Prop :=
  ∀ location, before.get? location = none → after.get? location = some .directory →
    ∃ target ∈ made, location <+: target

theorem Grows.addsDirectoriesOnWay {path : Path} {content : Content}
    (grown : before.Grows after [path.location] made)
    (held : after.get? path.location = some (.file content)) :
    before.AddsDirectoriesOnWay after made := by
  intro location absent new
  have unwritten : location ∉ [path.location] := by
    intro member
    rw [List.mem_singleton.mp member, held] at new
    cases new
  rcases grown.keeps location unwritten with same | ⟨_, _, onWay⟩
  · rw [new, absent] at same
    cases same
  · exact onWay

theorem Grows.addsDirectoriesOnWay_of_nil (grown : before.Grows after [] made) :
    before.AddsDirectoriesOnWay after made := by
  intro location absent new
  rcases grown.keeps location List.not_mem_nil with same | ⟨_, _, onWay⟩
  · rw [new, absent] at same
    cases same
  · exact onWay

end FileTree

/-- A failure of a text that fits no file. -/
def Failure.IsUnencodable (failure : Failure) : Prop :=
  ∃ position surrogates, failure = .unencodable position surrogates

namespace Library

open CodeText

variable {library : Library} {skeleton : String} {path : Path} {bindings : Bindings}
  {before after : FileTree} {failure : Failure}

/-- How rendering into a file ends when it fails, and rendering keeps the tree. The text cannot be had;
or no file can be written there; or the file has been opened, and the text does not go into it. -/
inductive FailsToFile (library : Library) (skeleton : String) (path : Path) (bindings : Bindings)
    (before : FileTree) : Failure → FileTree → Prop where
  | unrendered {cause : Failure} (failed : library.renderText before skeleton bindings = .error cause) :
      FailsToFile library skeleton path bindings before (failureAt path cause) before
  | unwritten {text : CodeText} {content : Content} {error : AccessError} {after : FileTree}
      (rendered : library.renderText before skeleton bindings = .ok text)
      (refused : perform (FileTree.writeFile path content) before = (.error error, after)) :
      FailsToFile library skeleton path bindings before (outputFailure skeleton path error) after
  | unencodable {text : CodeText} {position : Nat} {surrogates : List CodePoint} {after : FileTree}
      (rendered : library.renderText before skeleton bindings = .ok text)
      (alone : text.surrogates? = some (position, surrogates))
      (opened : perform (FileTree.writeFile path (.text "")) before = (.ok (), after)) :
      FailsToFile library skeleton path bindings before (.unencodable position surrogates) after

theorem failsToFile_of_renderFile_eq_error (keeps : library.KeepsTree)
    (failed : perform (library.renderFile skeleton path bindings) before = (.error failure, after)) :
    FailsToFile library skeleton path bindings before failure after := by
  have unwritten {text : CodeText} {chars : List Char}
      (rendered : library.renderText before skeleton bindings = .ok text)
      (refused : perform (renderFile.writeAt skeleton path chars) before = (.error failure, after)) :
      FailsToFile library skeleton path bindings before failure after := by
    obtain ⟨error, acted, rfl⟩ := Work.perform_onTree_eq_error refused
    exact .unwritten rendered acted
  rw [perform_renderFile, keeps] at failed
  split at failed
  · next cause unrendered =>
    cases failed
    exact .unrendered unrendered
  · next text rendered =>
    split at failed
    · rcases FileTree.perform_bind_eq_error failed with early | ⟨_, _, _, late⟩
      · exact unwritten rendered early
      · cases late
    · next position surrogates alone =>
      rcases FileTree.perform_bind_eq_error failed with early | ⟨_, _, opened, late⟩
      · exact unwritten rendered early
      · cases late
        exact .unencodable rendered alone (Work.perform_onTree_eq_ok opened)

theorem not_isUnencodable_of_unrendered {cause : Failure}
    (failed : library.renderText before skeleton bindings = .error cause) :
    ¬(failureAt path cause).IsUnencodable := by
  obtain ⟨fault, _, same⟩ := mapError_eq_error_iff.mp failed
  rintro ⟨position, surrogates, isUnencodable⟩
  rw [← same] at isUnencodable
  cases fault <;> cases isUnencodable

theorem not_isUnencodable_of_outputFailure {error : AccessError} :
    ¬(outputFailure skeleton path error).IsUnencodable := by
  rintro ⟨position, surrogates, isUnencodable⟩
  cases error <;> cases isUnencodable

namespace FailsToFile

/-- The one failure that touches a file: it leaves the file empty. -/
theorem emptied (fails : FailsToFile library skeleton path bindings before failure after)
    (isUnencodable : failure.IsUnencodable) :
    (∃ text, library.renderText before skeleton bindings = .ok text ∧ ¬text.IsPlain) ∧
      before.Grows after [path.location] path.parent.ways ∧
      after.readContent path = .ok (.text "") := by
  cases fails with
  | unrendered failed => exact absurd isUnencodable (not_isUnencodable_of_unrendered failed)
  | unwritten rendered refused => exact absurd isUnencodable not_isUnencodable_of_outputFailure
  | @unencodable text position surrogates after rendered alone opened =>
      refine ⟨⟨text, rendered, fun plain => ?_⟩, FileTree.grows_of_writeFile_eq_ok opened⟩
      rw [surrogates?_eq_none_iff.mpr plain] at alone
      cases alone

/-- Every other failure touches no file. -/
theorem grows (fails : FailsToFile library skeleton path bindings before failure after)
    (other : ¬failure.IsUnencodable) : before.Grows after [] path.parent.ways := by
  cases fails with
  | unrendered failed => exact FileTree.Grows.refl before [] path.parent.ways
  | unwritten rendered refused => exact FileTree.grows_of_writeFile_eq_error refused
  | unencodable rendered alone opened => exact absurd ⟨_, _, rfl⟩ other

theorem sameFiles_iff (fails : FailsToFile library skeleton path bindings before failure after) :
    before.SameFilesBeside after [] ↔
      ¬(failure.IsUnencodable ∧ before.get? path.location ≠ some (.file (.text ""))) := by
  by_cases isUnencodable : failure.IsUnencodable
  · obtain ⟨_, grown, held⟩ := fails.emptied isUnencodable
    obtain ⟨_, _, standing⟩ := FileTree.readContent_eq_ok_iff.mp held
    rw [grown.sameFilesBeside.iff_of_held standing, not_and, imp_iff_right isUnencodable, ne_eq,
      Classical.not_not]
  · exact iff_of_true (fails.grows isUnencodable).sameFilesBeside fun both => isUnencodable both.1

theorem addsDirectoriesOnWay
    (fails : FailsToFile library skeleton path bindings before failure after) :
    before.AddsDirectoriesOnWay after path.parent.ways := by
  by_cases isUnencodable : failure.IsUnencodable
  · obtain ⟨_, grown, held⟩ := fails.emptied isUnencodable
    exact grown.addsDirectoriesOnWay (FileTree.readContent_eq_ok_iff.mp held).2.2
  · exact (fails.grows isUnencodable).addsDirectoriesOnWay_of_nil

end FailsToFile

/-- What cannot be rendered is reported with the path of the file, by its name and for its reason, and
then nothing has happened to the tree. -/
theorem renderFile_of_unrendered {cause : Failure} (keeps : library.KeepsTree)
    (unrendered : library.renderText before skeleton bindings = .error cause) :
    perform (library.renderFile skeleton path bindings) before =
        (.error (failureAt path cause), before) ∧
      ∀ name target reason written, cause = .scaffold (.render name target reason) written →
        failureAt path cause = .scaffold (.render skeleton (some path) reason) written := by
  refine ⟨?_, fun name target reason written same => ?_⟩
  · rw [perform_renderFile, unrendered, keeps]
  · subst same
    have named : failureAt path (.scaffold (.render name target reason) written) =
        .scaffold (.render name (some path) reason) written := rfl
    obtain ⟨_, isRender⟩ := eq_render_of_failureAt unrendered named
    cases isRender
    exact named

/-- As long as rendering itself keeps the tree, rendering into a file writes the whole text there,
touches no other file and gives the path. When it fails, all files are as they were, unless the text
has surrogates and the file was no empty file already: then it has become one. A failure adds no
directories but those on the way to the file, and a skeleton that cannot be rendered adds none and is
reported with its reason and the path. -/
theorem whole_file_or_same_files {library : Library} (keeps : library.KeepsTree) (skeleton : String)
    (path : Path) (bindings : Bindings) (before : FileTree) :
    (∀ place after,
      perform (library.renderFile skeleton path bindings) before = (.ok place, after) →
        place = path ∧
          (∃ text, library.renderText before skeleton bindings = .ok (ofString text) ∧
            after.readContent path = .ok (.text text)) ∧
          before.SameFilesBeside after [path.location]) ∧
    (∀ failure after,
      perform (library.renderFile skeleton path bindings) before = (.error failure, after) →
        (before.SameFilesBeside after [] ↔
          ¬(failure.IsUnencodable ∧ before.get? path.location ≠ some (.file (.text "")))) ∧
        (failure.IsUnencodable →
          (∃ text, library.renderText before skeleton bindings = .ok text ∧ ¬text.IsPlain) ∧
            before.SameFilesBeside after [path.location] ∧
            after.readContent path = .ok (.text "")) ∧
        before.AddsDirectoriesOnWay after path.parent.ways) ∧
    ∀ cause, library.renderText before skeleton bindings = .error cause →
      perform (library.renderFile skeleton path bindings) before =
          (.error (failureAt path cause), before) ∧
        ∀ name target reason written, cause = .scaffold (.render name target reason) written →
          failureAt path cause = .scaffold (.render skeleton (some path) reason) written := by
  refine ⟨fun place after done => ?_, fun failure after failed => ?_, fun cause unrendered =>
    renderFile_of_unrendered keeps unrendered⟩
  · obtain ⟨same, held, grown⟩ := grows_of_renderFile_eq_ok done
    rw [keeps] at grown
    exact ⟨same, held, grown.sameFilesBeside⟩
  · have fails := failsToFile_of_renderFile_eq_error keeps failed
    refine ⟨fails.sameFiles_iff, fun isUnencodable => ?_, fails.addsDirectoriesOnWay⟩
    obtain ⟨notPlain, grown, held⟩ := fails.emptied isUnencodable
    exact ⟨notPlain, grown.sameFilesBeside, held⟩

/-- Half of a surrogate pair. -/
def loneSurrogate : CodePoint := ⟨0xD800, by decide⟩

/-- A library with one skeleton that shows a name, and a file beside it. -/
def libraryTree : FileTree :=
  ⟨[(["s", "t.j2"], .file (.text "\x7b\x7b name \x7d\x7d")), (["s"], .directory),
    (["out.txt"], .file (.text "old"))]⟩

def showingLibrary : Library := .directory (.ofPath (.ofString "s")) .simple

def endsUnencodable : Except Failure Path → Bool
  | .error (.unencodable _ _) => true
  | _ => false

theorem exists_of_endsUnencodable {result : Except Failure Path}
    (ends : endsUnencodable result = true) :
    ∃ failure, result = .error failure ∧ failure.IsUnencodable := by
  unfold endsUnencodable at ends
  split at ends
  · exact ⟨_, rfl, _, _, rfl⟩
  · cases ends

theorem emptied_by_surrogate :
    ∃ failure after, perform (showingLibrary.renderFile "t" (.ofString "out.txt")
        [("name", .text [loneSurrogate])]) libraryTree = (.error failure, after) ∧
      after.readContent (.ofString "out.txt") = .ok (.text "") ∧
      ¬libraryTree.SameFilesBeside after [] := by
  have ends : endsUnencodable (perform (showingLibrary.renderFile "t" (.ofString "out.txt")
      [("name", .text [loneSurrogate])]) libraryTree).1 = true := by decide +kernel
  cases performed : perform (showingLibrary.renderFile "t" (.ofString "out.txt")
      [("name", .text [loneSurrogate])]) libraryTree with
  | mk result after =>
      rw [performed] at ends
      obtain ⟨failure, rfl, isUnencodable⟩ := exists_of_endsUnencodable ends
      obtain ⟨same, emptied, _⟩ :=
        (whole_file_or_same_files (simple_keepsTree _) _ _ _ _).2.1 failure after performed
      refine ⟨failure, after, rfl, (emptied isUnencodable).2.2, fun kept =>
        same.mp kept ⟨isUnencodable, ?_⟩⟩
      decide +kernel

end Library

end EntityScaffold
