import EntityScaffold.Proofs.CommandLine.Summary
import EntityScaffold.Proofs.Path.Written

/-
The list of written files. Every file of a plan lies within the bundle, so it is listed by a relative
path that leads back to it from there; so no two files of a run are listed alike.
-/

namespace EntityScaffold

open FileTree (perform)
open Console Markup

namespace GenerationResult

def listed (result : GenerationResult) (bundle : Path) : List String :=
  result.written.map fun path => Path.relativeText path.toString bundle.toString

/-- A list of the written files of a run tells them apart and leads back to each of them; there is a
line for each text, and a text of printable characters that needs no more than its line is shown as
it is. -/
structure IsListedBy (result : GenerationResult) (bundle : Path) (texts : List String) : Prop where
  distinct : texts.Nodup
  leadsBack : texts.map bundle.join = result.written
  relative : ∀ text ∈ texts, (Path.ofString text).isAbsolute = false
  printed : Console.writtenFiles (result.written.map Path.toString) bundle.toString =
    .ok (texts.flatMap fun text => createdLine (CodeText.ofString text))
  verbatim : ∀ text ∈ texts, IsPrintable (CodeText.ofString text) →
    backslash ∉ CodeText.ofString text → Text.colon ∉ CodeText.ofString text →
      created.length + (CodeText.ofString text).length ≤ lineWidth →
        createdLine (CodeText.ofString text) =
          created ++ CodeText.ofString text ++ [lineFeed]

end GenerationResult

namespace Generator

variable {generator : Generator} {request : GenerationRequest} {before after : FileTree}
  {result : GenerationResult}

/-- Components lead from the bundle to what a run has written. -/
theorem exists_names_of_mem_written (plain : request.IsPlain generator.extensions)
    (ran : perform (generator.run request) before = (.ok result, after)) {path : Path}
    (member : path ∈ result.written) :
    ∃ names, path = request.bundle.path.descend names ∧
      ∀ name ∈ names, Path.IsComponent name.toList := by
  have made := isMadeFor_of_plan (took_of_run_eq_ok ran).1 plain
  rw [written_of_run_eq_ok ran] at member
  obtain ⟨file, listed, rfl⟩ := List.mem_map.mp member
  obtain ⟨output, _, same⟩ := made.exists_output listed
  exact ⟨_, same, fun name inside => (Placement.isName_of_mem_names made.sound inside).1⟩

theorem isListedBy_of_run_eq_ok (plain : request.IsPlain generator.extensions)
    (root : request.bundle.path.IsRead)
    (ran : perform (generator.run request) before = (.ok result, after)) :
    result.IsListedBy request.bundle.path (result.listed request.bundle.path) := by
  have seen : ∀ path ∈ result.written, ∃ names, path = request.bundle.path.descend names ∧
      Path.ofString (Path.relativeText path.toString request.bundle.path.toString) =
        ⟨.relative, names⟩ := by
    intro path member
    obtain ⟨names, rfl, components⟩ := exists_names_of_mem_written plain ran member
    refine ⟨names, rfl, Path.ofString_relativeText ?_⟩
    rw [Path.ofString_toString (Path.isRead_descend_iff.mpr ⟨root, components⟩),
      Path.ofString_toString root]
  have leadsBack : (result.listed request.bundle.path).map request.bundle.path.join =
      result.written := by
    rw [GenerationResult.listed, List.map_map]
    refine (List.map_congr_left fun path member => ?_).trans (List.map_id result.written)
    obtain ⟨names, below, read⟩ := seen path member
    rw [Function.comp_apply, Path.join, read]
    exact below.symm
  refine
    { distinct := ?_
      leadsBack := leadsBack
      relative := ?_
      printed := ?_
      verbatim := ?_ }
  · have made := isMadeFor_of_plan (took_of_run_eq_ok ran).1 plain
    have written : result.written.Nodup := by
      rw [written_of_run_eq_ok ran]
      exact made.paths_nodup
    rw [← leadsBack] at written
    exact (List.pairwise_map.mp written).imp fun different same => different (congrArg _ same)
  · intro text member
    obtain ⟨path, inWritten, rfl⟩ := List.mem_map.mp member
    obtain ⟨names, _, read⟩ := seen path inWritten
    rw [read]
    rfl
  · rw [writtenFiles_eq, GenerationResult.listed, List.flatMap_map, List.flatMap_map]
  · intro text _ printable noBackslash noColon short
    exact createdLine_of_isPrintable printable noBackslash noColon short

/-- Joining undoes the view from a directory, for all paths that lie within it, and so the list of
written files of a run leads back from the bundle to what was written. -/
theorem relative_texts_lead_back :
    (∀ text directory : String,
      ((Path.ofString text).IsWithin (.ofString directory) →
        (Path.ofString (Path.relativeText text directory)).isAbsolute = false ∧
          (Path.ofString directory).join (Path.relativeText text directory) = .ofString text) ∧
      (¬(Path.ofString text).IsWithin (.ofString directory) →
        Path.relativeText text directory = text)) ∧
    ∀ (generator : Generator) (request : GenerationRequest) (before after : FileTree)
        (result : GenerationResult),
      request.IsPlain generator.extensions → request.bundle.path.IsRead →
        perform (generator.run request) before = (.ok result, after) →
          result.IsListedBy request.bundle.path (result.listed request.bundle.path) := by
  constructor
  · intro text directory
    exact ⟨Path.join_relativeText, Path.relativeText_of_not_isWithin⟩
  · intro generator request before after result plain root ran
    exact isListedBy_of_run_eq_ok plain root ran

/-- A file below a directory written with stray separators and a component that stays where it is,
one beside it, and a small run. -/
theorem small_run_leads_back :
    (Path.ofString "//src//./Blog").join
        (Path.relativeText "//src/Blog/./Entity//Post.php" "//src//./Blog") =
          .ofString "//src/Blog/./Entity//Post.php" ∧
      Path.relativeText "/src//Blog/Post.php" "//src/Blog" = "/src//Blog/Post.php" ∧
      ∃ result after,
        perform (run smallGenerator annotatedRequest) skeletonTree =
            (.ok result, after) ∧
          result.IsListedBy (.ofString "b") (result.listed (.ofString "b")) := by
  obtain ⟨views, runs⟩ := relative_texts_lead_back
  refine ⟨((views _ _).1 (by decide)).2, (views _ _).2 (by decide), ?_⟩
  obtain ⟨result, after, ran⟩ := exists_annotated_run
  exact ⟨result, after, ran, runs _ annotatedRequest _ _ _ ⟨by decide, by decide, by decide⟩
    (Path.isRead_ofString "b") ran⟩

end Generator

end EntityScaffold
