import EntityScaffold.Proofs.FileTree.Room
import EntityScaffold.Proofs.Generation.Sequence
import EntityScaffold.Proofs.OutputPaths.Apart

/-
Room for a run. There is room for the outputs when no file stands at the root of the bundle or above
it, and below it no file stands in the way of an output but outputs themselves, which are in the way
of none, and no directory in the place of an output. An empty bundle has room; a step that there is
room for can be taken, and it leaves room for all others.
-/

namespace EntityScaffold

open FileTree (perform)

namespace FileTree

variable {tree before after : FileTree} {root : Path} {placement : Placement}

/-- No file stands at a path or above it, and nothing below it. -/
structure IsVacant (tree : FileTree) (root : Path) : Prop where
  clear : tree.IsClear root
  empty : ∀ names, names ≠ [] → (∀ name ∈ names, Path.IsName name.toList) →
    tree.get? (root.location ++ names) = none

/-- There is room for the outputs below a root. -/
structure HasRoom (tree : FileTree) (root : Path) (placement : Placement) : Prop where
  clear : tree.IsClear root
  files : ∀ output front content, front <+: placement.names output → front ≠ [] →
    tree.get? (root.location ++ front) = some (.file content) →
      ∃ other, front = placement.names other
  directories : ∀ output, tree.get? (root.location ++ placement.names output) ≠ some .directory

theorem isVacant_empty (root : Path) : empty.IsVacant root := by
  have noFile (location : Location) (content : Content) :
      empty.get? location ≠ some (.file content) := by
    unfold get?
    split <;> intro impossible <;> cases impossible
  refine ⟨fun front _ content => noFile _ content, fun names someNames areNames => ?_⟩
  obtain ⟨last, listed⟩ := List.exists_mem_of_ne_nil names someNames
  have isName := areNames last listed
  have within : last ∈ root.location ++ names := List.mem_append_right _ listed
  have notGiven : (root.location ++ names).isGiven = false := by
    cases given : Location.isGiven (root.location ++ names) with
    | false => rfl
    | true =>
        exfalso
        rcases Bool.or_eq_true_iff.mp given with isTop | isAbove
        · rw [beq_iff_eq.mp isTop, Location.top, List.mem_singleton] at within
          rw [within] at isName
          exact absurd isName (by decide)
        · exact isName.ne_up (beq_iff_eq.mp (List.all_eq_true.mp isAbove last within))
  rw [get?, notGiven]
  rfl

namespace IsVacant

theorem get?_eq_none (vacant : tree.IsVacant root) (sound : placement.IsSound) {output : Output}
    {front : List String} (isPrefix : front <+: placement.names output) (someNames : front ≠ []) :
    tree.get? (root.location ++ front) = none :=
  vacant.empty front someNames fun _ member =>
    Placement.isName_of_mem_names sound (isPrefix.subset member)

theorem hasRoom (vacant : tree.IsVacant root) (sound : placement.IsSound) :
    tree.HasRoom root placement := by
  refine ⟨vacant.clear, ?_, ?_⟩
  · intro output front content isPrefix someNames standing
    rw [vacant.get?_eq_none sound isPrefix someNames] at standing
    cases standing
  · intro output standing
    rw [vacant.get?_eq_none sound (List.prefix_refl _) (placement.names_ne_nil output)] at standing
    cases standing

theorem exists?_eq_false (vacant : tree.IsVacant root) (sound : placement.IsSound)
    (down : ".." ∉ root.parts) {output : Output}
    (usable : (root.descend (placement.names output)).IsUsable) :
    tree.exists? (root.descend (placement.names output)) = .ok false := by
  have clear : tree.IsClear (root.descend (placement.names output)) := by
    refine vacant.clear.descend down fun front isPrefix someNames content standing => ?_
    rw [vacant.get?_eq_none sound isPrefix someNames] at standing
    cases standing
  refine exists?_clear usable clear ?_
  rw [Path.location_descend (Placement.up_not_mem_names sound output)]
  exact vacant.get?_eq_none sound (List.prefix_refl _) (placement.names_ne_nil output)

/-- A place is as vacant as before when something is put neither above it nor below it. -/
theorem put {location : Location} (vacant : tree.IsVacant root) (down : ".." ∉ root.parts)
    (notAbove : ¬location <+: root.location) (notBelow : ¬root.location <+: location)
    (node : FileNode) : (tree.put location node).IsVacant root := by
  refine ⟨fun front isPrefix => ?_, fun names => ?_⟩
  · have apart : root.start ++ front ≠ location := by
      rintro rfl
      rw [Path.location_eq down, List.prefix_append_right_inj] at notAbove
      exact notAbove isPrefix
    rw [get?_put_of_ne apart]
    exact vacant.clear front isPrefix
  · have apart : root.location ++ names ≠ location := by
      rintro rfl
      exact notBelow (List.prefix_append _ names)
    rw [get?_put_of_ne apart]
    exact vacant.empty names

end IsVacant

namespace HasRoom

theorem isClear (room : tree.HasRoom root placement) (down : ".." ∉ root.parts)
    {names : List String} (onTheWay : placement.IsOnTheWay names) :
    tree.IsClear (root.descend names) := by
  refine room.clear.descend down fun front isPrefix someNames content standing => ?_
  obtain ⟨output, before⟩ := onTheWay.before
  obtain ⟨other, same⟩ := room.files output front content (isPrefix.trans before) someNames standing
  rw [same] at isPrefix
  exact onTheWay.clear other isPrefix

/-- Room is left when files are written in the places of outputs, and directories are made on the
way to outputs. -/
theorem of_grows {written made : List Location} (room : before.HasRoom root placement)
    (down : ".." ∉ root.parts) (grown : before.Grows after written made)
    (writes : ∀ location ∈ written, ∃ output content,
      location = root.location ++ placement.names output ∧
        after.get? location = some (.file content))
    (makes : ∀ location ∈ made, ∃ names,
      location = root.location ++ names ∧ placement.IsOnTheWay names) :
    after.HasRoom root placement := by
  refine ⟨?_, ?_, ?_⟩
  · intro front isPrefix content standing
    by_cases inWritten : root.start ++ front ∈ written
    · obtain ⟨output, _, place, _⟩ := writes _ inWritten
      rw [Path.location_eq down, List.append_assoc] at place
      have lengths := congrArg List.length (List.append_cancel_left place)
      have filled := List.length_pos_iff.mpr (placement.names_ne_nil output)
      have bound := isPrefix.length_le
      rw [List.length_append] at lengths
      omega
    · exact room.clear front isPrefix content (grown.get?_eq_some_file_of_after inWritten standing)
  · intro output front content isPrefix someNames standing
    by_cases inWritten : root.location ++ front ∈ written
    · obtain ⟨other, _, place, _⟩ := writes _ inWritten
      exact ⟨other, List.append_cancel_left place⟩
    · exact room.files output front content isPrefix someNames
        (grown.get?_eq_some_file_of_after inWritten standing)
  · intro output standing
    by_cases inWritten : root.location ++ placement.names output ∈ written
    · obtain ⟨_, content, _, held⟩ := writes _ inWritten
      rw [standing] at held
      cases held
    · rcases grown.keeps _ inWritten with same | ⟨_, _, target, member, above⟩
      · exact room.directories output (same.symm.trans standing)
      · obtain ⟨names, place, onTheWay⟩ := makes target member
        rw [place, List.prefix_append_right_inj] at above
        exact onTheWay.clear output above

end HasRoom

end FileTree

/-! ### Steps -/

/-- A step that can be taken when there is room: it writes an output that can be rendered, or it
makes the directory of the views. -/
inductive GenerationStep.IsReady (library : Library) (root : Path) (placement : Placement) :
    GenerationStep → Prop where
  | file {skeleton : String} {bindings : Bindings} (output : Output)
      (usable : (root.descend (placement.names output)).IsUsable)
      (rendered : ∀ tree, ∃ text,
        library.renderText tree skeleton bindings = .ok (CodeText.ofString text)) :
      IsReady library root placement
        (.file skeleton (root.descend (placement.names output)) bindings)
  | viewDirectory (usable : (root.descend placement.viewDirNames).IsUsable) :
      IsReady library root placement (.viewDirectory (root.descend placement.viewDirNames))

variable {tree before after : FileTree} {root path : Path} {placement : Placement}
  {generator : Generator} {step : GenerationStep} {steps : List GenerationStep}

theorem Library.renderFile_clear {library : Library} {skeleton : String} {bindings : Bindings}
    (keeps : library.KeepsTree) (usable : path.IsUsable) (someParts : path.parts ≠ [])
    (clear : tree.IsClear path.parent)
    (vacant : tree.get? path.location ≠ some .directory) {text : String}
    (rendered : library.renderText tree skeleton bindings = .ok (CodeText.ofString text)) :
    ∃ after, perform (library.renderFile skeleton path bindings) tree = (.ok path, after) := by
  have plain := CodeText.surrogates?_eq_none_iff.mpr (CodeText.isPlain_ofString text)
  obtain ⟨after, wrote⟩ := FileTree.writeFile_clear usable someParts clear vacant
    (.text (String.ofList (CodeText.ofString text).replacing))
  refine ⟨after, ?_⟩
  rw [perform_renderFile, rendered, keeps]
  simp only [plain]
  rw [FileTree.perform_bind, renderFile.writeAt, Work.perform_onTree, wrote]
  rfl

namespace Generator

/-- A step that is ready can be taken when there is room. -/
theorem exists_takeStep_eq_ok (keeps : generator.library.KeepsTree)
    (ready : step.IsReady generator.library root placement) (sound : placement.IsSound)
    (down : ".." ∉ root.parts) (room : before.HasRoom root placement) :
    ∃ paths after, perform (generator.takeStep step) before = (.ok paths, after) := by
  cases ready with
  | @file skeleton bindings output usable rendered =>
      obtain ⟨text, rendered⟩ := rendered before
      have someNames := placement.names_ne_nil output
      have clear := room.isClear down (Placement.isOnTheWay_dropLast sound output)
      rw [← Path.parent_descend root someNames] at clear
      have vacant := room.directories output
      rw [← Path.location_descend (Placement.up_not_mem_names sound output)] at vacant
      obtain ⟨after, done⟩ := Library.renderFile_clear keeps usable
        (List.append_ne_nil_of_right_ne_nil _ someNames) clear vacant rendered
      refine ⟨[root.descend (placement.names output)], after, ?_⟩
      rw [perform_takeStep_file, done]
      rfl
  | viewDirectory usable =>
      have clear := room.isClear down (Placement.isOnTheWay_viewDirNames sound)
      obtain ⟨after, done, _⟩ := FileTree.makeDirectories_clear usable clear
      refine ⟨[], after, ?_⟩
      rw [perform_takeStep_viewDirectory, done]
      rfl

theorem hasRoom_of_takeStep {paths : List Path} (keeps : generator.library.KeepsTree)
    (ready : step.IsReady generator.library root placement) (sound : placement.IsSound)
    (down : ".." ∉ root.parts) (room : before.HasRoom root placement)
    (taken : perform (generator.takeStep step) before = (.ok paths, after)) :
    after.HasRoom root placement := by
  obtain ⟨_, done, onWay⟩ := grows_of_takeStep_eq_ok taken
  rw [treeBefore_eq keeps] at onWay
  cases ready with
  | file output usable rendered =>
      have grown := onWay.of_ways usable.parent.down
      have namesDown := Placement.up_not_mem_names sound output
      refine room.of_grows down grown ?_ ?_
      · intro location member
        obtain ⟨text, _, held⟩ := done
        obtain ⟨_, _, standing⟩ := FileTree.readContent_eq_ok_iff.mp held
        rw [List.mem_singleton.mp member]
        exact ⟨output, _, Path.location_descend namesDown, standing⟩
      · intro location member
        have frontDown : ".." ∉ (placement.names output).dropLast := fun inside =>
          namesDown ((List.dropLast_sublist _).subset inside)
        refine ⟨_, ?_, Placement.isOnTheWay_dropLast sound output⟩
        rw [List.mem_singleton.mp member, GenerationStep.directory,
          Path.parent_descend root (placement.names_ne_nil output), Path.location_descend frontDown]
  | viewDirectory usable =>
      have grown := onWay.of_ways usable.down
      refine room.of_grows down grown ?_ ?_
      · intro location member
        cases member
      · intro location member
        rw [List.mem_singleton.mp member]
        exact ⟨_, Path.location_descend (Placement.up_not_mem_viewDirNames sound),
          Placement.isOnTheWay_viewDirNames sound⟩

/-- Steps that are ready can be taken one after another. -/
theorem exists_takeSteps_eq_ok {written : List Path} (keeps : generator.library.KeepsTree)
    (ready : ∀ step ∈ steps, step.IsReady generator.library root placement)
    (sound : placement.IsSound) (down : ".." ∉ root.parts) (room : before.HasRoom root placement) :
    ∃ all after, perform (generator.takeSteps written steps) before = (.ok all, after) := by
  induction steps generalizing before written with
  | nil => exact ⟨written, before, rfl⟩
  | cons step rest ih =>
      have first := ready step List.mem_cons_self
      obtain ⟨paths, middle, taken⟩ := exists_takeStep_eq_ok keeps first sound down room
      have left := hasRoom_of_takeStep keeps first sound down room taken
      rw [perform_takeSteps_cons, taken]
      exact ih (fun other member => ready other (List.mem_cons_of_mem step member)) left

end Generator

end EntityScaffold
