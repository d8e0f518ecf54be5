import EntityScaffold.Proofs.FileTree.Places

/-
Growth of file trees. What a run does to a tree is bounded by two lists of locations: files change
only at those that are written, and a directory appears only at, or above, those that are made. No
directory is ever lost, so a path that could be followed before leads to the same place after.
-/

namespace EntityScaffold.FileTree

/-- Between two trees, files have changed only at the written locations, directories have appeared
only at the made locations and above them, and no directory is gone. -/
structure Grows (before after : FileTree) (written made : List Location) : Prop where
  keeps : ∀ location, location ∉ written →
    after.get? location = before.get? location ∨
      before.get? location = none ∧ after.get? location = some .directory ∧
        ∃ target ∈ made, location <+: target
  directories : ∀ location, before.get? location = some .directory →
    after.get? location = some .directory

variable {before middle after tree : FileTree} {written made : List Location}

namespace Grows

theorem refl (tree : FileTree) (written made : List Location) : tree.Grows tree written made :=
  ⟨fun _ _ => Or.inl rfl, fun _ standing => standing⟩

theorem mono {moreWritten moreMade : List Location} (grown : before.Grows after written made)
    (fewer : written ⊆ moreWritten) (lower : ∀ target ∈ made, ∃ other ∈ moreMade, target <+: other) :
    before.Grows after moreWritten moreMade := by
  refine ⟨fun location kept => ?_, grown.directories⟩
  rcases grown.keeps location (fun member => kept (fewer member)) with
    same | ⟨new, there, target, member, above⟩
  · exact Or.inl same
  · obtain ⟨other, listed, below⟩ := lower target member
    exact Or.inr ⟨new, there, other, listed, above.trans below⟩

theorem mono_made {moreMade : List Location} (grown : before.Grows after written made)
    (more : made ⊆ moreMade) : before.Grows after written moreMade :=
  grown.mono (List.Subset.refl _) fun target member =>
    ⟨target, more member, List.prefix_refl target⟩

/-- What appears on the way to a path that leads down appears above its location. -/
theorem of_ways {path : Path} (grown : before.Grows after written path.ways)
    (down : ".." ∉ path.parts) : before.Grows after written [path.location] :=
  grown.mono (List.Subset.refl _) fun _ member =>
    ⟨path.location, List.mem_singleton.mpr rfl, Path.prefix_of_mem_ways down member⟩

theorem trans {moreWritten moreMade : List Location} (first : before.Grows middle written made)
    (last : middle.Grows after moreWritten moreMade) :
    before.Grows after (written ++ moreWritten) (made ++ moreMade) := by
  refine ⟨fun location kept => ?_, fun location standing => ?_⟩
  · rw [List.mem_append, not_or] at kept
    rcases first.keeps location kept.1 with same | ⟨new, there, target, member, above⟩
    · rcases last.keeps location kept.2 with again | ⟨new, there, target, member, above⟩
      · exact Or.inl (again.trans same)
      · exact Or.inr ⟨same.symm.trans new, there, target, List.mem_append_right _ member, above⟩
    · exact Or.inr ⟨new, last.directories location there, target, List.mem_append_left _ member, above⟩
  · exact last.directories location (first.directories location standing)

/-- A path that could be followed can still be followed, to the same location. -/
theorem follow_eq_ok (grown : before.Grows after written made) {directory location : Location}
    {names : List String} (followed : before.follow directory names = .ok location) :
    after.follow directory names = .ok location := by
  induction names generalizing directory with
  | nil => exact followed
  | cons name rest ih =>
      rw [follow] at followed ⊢
      split at followed
      · cases followed
      · next short =>
        rw [if_neg short]
        split at followed
        · next up =>
          rw [if_pos up]
          exact ih followed
        · next down =>
          rw [if_neg down]
          dsimp only at followed ⊢
          split at followed
          · next last =>
            rw [if_pos last]
            exact followed
          · next notLast =>
            rw [if_neg notLast]
            split at followed
            · cases followed
            · cases followed
            · next standing =>
              rw [grown.directories _ standing]
              exact ih followed

theorem locate_eq_ok (grown : before.Grows after written made) {path : Path} {location : Location}
    (located : before.locate path = .ok location) : after.locate path = .ok location := by
  unfold locate at located ⊢
  split at located
  · cases located
  · next short =>
    rw [if_neg short]
    split at located
    · next absolute =>
      rw [if_pos absolute]
      exact grown.follow_eq_ok located
    · next relative =>
      rw [if_neg relative]
      exact grown.follow_eq_ok located

theorem get?_eq_some_file (grown : before.Grows after written made) {location : Location}
    {content : Content} (kept : location ∉ written)
    (standing : before.get? location = some (.file content)) :
    after.get? location = some (.file content) := by
  rcases grown.keeps location kept with same | ⟨new, _⟩
  · exact same.trans standing
  · rw [standing] at new
    cases new

/-- A file is new only where something was written. -/
theorem get?_eq_some_file_of_after (grown : before.Grows after written made) {location : Location}
    {content : Content} (kept : location ∉ written)
    (standing : after.get? location = some (.file content)) :
    before.get? location = some (.file content) := by
  rcases grown.keeps location kept with same | ⟨_, there, _⟩
  · exact same.symm.trans standing
  · rw [standing] at there
    cases there

end Grows

theorem readContent_eq_ok_iff {path : Path} {content : Content} :
    tree.readContent path = .ok content ↔
      hasNul path = false ∧ tree.locate path = .ok path.location ∧
        tree.get? path.location = some (.file content) := by
  rw [← lookup_eq_ok_iff]
  unfold readContent
  cases hasNul path with
  | true => simp
  | false =>
      cases tree.lookup path with
      | error error => simp
      | ok node => cases node <;> simp

theorem Grows.readContent_eq_ok (grown : before.Grows after written made) {path : Path}
    {content : Content} (kept : path.location ∉ written)
    (held : before.readContent path = .ok content) : after.readContent path = .ok content := by
  obtain ⟨noNul, located, standing⟩ := readContent_eq_ok_iff.mp held
  exact readContent_eq_ok_iff.mpr
    ⟨noNul, grown.locate_eq_ok located, grown.get?_eq_some_file kept standing⟩

/-! ### Single changes -/

theorem grows_put_directory {location : Location} (new : tree.get? location = none) :
    tree.Grows (tree.put location .directory) [] [location] := by
  have notGiven : location.isGiven = false := by
    cases given : location.isGiven with
    | false => rfl
    | true =>
        rw [get?_of_isGiven given] at new
        cases new
  refine ⟨fun other _ => ?_, fun other standing => ?_⟩
  · by_cases same : other = location
    · rw [same]
      exact Or.inr ⟨new, get?_put_self notGiven tree .directory, location, List.mem_singleton.mpr rfl,
        List.prefix_refl location⟩
    · exact Or.inl (get?_put_of_ne same tree .directory)
  · have different : other ≠ location := by
      intro same
      rw [same, new] at standing
      cases standing
    rw [get?_put_of_ne different]
    exact standing

theorem isGiven_eq_false_of_get? {location : Location}
    (noDirectory : tree.get? location ≠ some .directory) : location.isGiven = false := by
  cases given : location.isGiven with
  | false => rfl
  | true => exact absurd (get?_of_isGiven given tree) noDirectory

theorem grows_put_file {location : Location} (content : Content)
    (noDirectory : tree.get? location ≠ some .directory) :
    tree.Grows (tree.put location (.file content)) [location] [] := by
  refine ⟨fun other kept => ?_, fun other standing => ?_⟩
  · have different : other ≠ location := fun same => kept (List.mem_singleton.mpr same)
    exact Or.inl (get?_put_of_ne different tree _)
  · have different : other ≠ location := by
      intro same
      rw [same] at standing
      exact noDirectory standing
    rw [get?_put_of_ne different]
    exact standing

/-! ### Removing files -/

/-- The tree without what stands at some locations. -/
def unlinkAll (tree : FileTree) (locations : List Location) : FileTree :=
  ⟨tree.entries.filter fun entry => !locations.contains entry.1⟩

theorem lookup_filter_not_contains (entries : List (Location × FileNode)) (locations : List Location)
    (location : Location) :
    (entries.filter fun entry => !locations.contains entry.1).lookup location =
      if location ∈ locations then none else entries.lookup location := by
  induction entries with
  | nil =>
      rw [List.filter_nil, List.lookup_nil, ite_self]
  | cons entry rest ih =>
      obtain ⟨place, node⟩ := entry
      by_cases dropped : place ∈ locations
      · rw [List.filter_cons_of_neg (by simp [dropped]), ih, List.lookup_cons]
        by_cases same : location = place
        · simp [same, dropped]
        · simp [beq_eq_false_iff_ne.mpr same]
      · rw [List.filter_cons_of_pos (by simp [dropped]), List.lookup_cons, List.lookup_cons, ih]
        by_cases same : location = place
        · simp [same, dropped]
        · simp [beq_eq_false_iff_ne.mpr same]

theorem get?_unlinkAll_of_mem {locations : List Location} {location : Location}
    (notGiven : location.isGiven = false) (member : location ∈ locations) :
    (tree.unlinkAll locations).get? location = none := by
  simp only [get?, unlinkAll, lookup_filter_not_contains, notGiven, Bool.false_eq_true, if_false,
    if_pos member]

theorem get?_unlinkAll_of_not_mem {locations : List Location} {location : Location}
    (kept : location ∉ locations) :
    (tree.unlinkAll locations).get? location = tree.get? location := by
  simp only [get?, unlinkAll, lookup_filter_not_contains, if_neg kept]

theorem get?_unlinkAll_eq_file_iff {locations : List Location} {location : Location}
    {content : Content} :
    (tree.unlinkAll locations).get? location = some (.file content) ↔
      location ∉ locations ∧ tree.get? location = some (.file content) := by
  simp only [get?, unlinkAll, lookup_filter_not_contains]
  cases location.isGiven with
  | true => simp
  | false => by_cases member : location ∈ locations <;> simp [member]

/-- When no file was there before, removing the written files brings back the files of before. -/
theorem Grows.unlinkAll_eq_file_iff (grown : before.Grows after written made)
    (new : ∀ location ∈ written, ∀ content, before.get? location ≠ some (.file content))
    {location : Location} {content : Content} :
    (after.unlinkAll written).get? location = some (.file content) ↔
      before.get? location = some (.file content) := by
  rw [get?_unlinkAll_eq_file_iff]
  constructor
  · rintro ⟨unwritten, standing⟩
    exact grown.get?_eq_some_file_of_after unwritten standing
  · intro standing
    have unwritten : location ∉ written := fun member => new location member content standing
    exact ⟨unwritten, grown.get?_eq_some_file unwritten standing⟩

end EntityScaffold.FileTree
