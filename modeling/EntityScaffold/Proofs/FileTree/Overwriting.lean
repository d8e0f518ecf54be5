import EntityScaffold.Proofs.FileTree.Room

/-
Writing over files. Above a file that can be read there is a directory, so that writing the file once
more makes no directory and only changes what the file holds. Two trees that differ at files alone
lead the same paths to the same places.
-/

namespace EntityScaffold.FileTree

variable {tree edited : FileTree} {path : Path} {content : Content}
  {locations : List Location}

/-! ### The directory above a file -/

/-- Directories stand at a location and at every start of it. -/
def IsReached (tree : FileTree) (location : Location) : Prop :=
  ∀ front, front <+: location → tree.get? front = some .directory

theorem isReached_of_all_up {location : Location} (up : location.all (· == "..") = true)
    (tree : FileTree) : tree.IsReached location := by
  intro front isPrefix
  refine get?_of_isGiven (Bool.or_eq_true_iff.mpr (Or.inr ?_)) tree
  exact List.all_eq_true.mpr fun name member =>
    List.all_eq_true.mp up name (isPrefix.subset member)

theorem isReached_start (tree : FileTree) (path : Path) : tree.IsReached path.start := by
  unfold Path.start
  split
  · intro front isPrefix
    rcases List.prefix_concat_iff.mp (show front <+: [] ++ ["/"] from isPrefix) with whole | none
    · rw [whole]
      exact get?_of_isGiven Location.isGiven_top tree
    · rw [List.prefix_nil.mp none]
      exact get?_of_isGiven Location.isGiven_nil tree
  · exact isReached_of_all_up rfl tree

theorem IsReached.concat {location : Location} {name : String} (reached : tree.IsReached location)
    (standing : tree.get? (location ++ [name]) = some .directory) :
    tree.IsReached (location ++ [name]) := by
  intro front isPrefix
  rcases List.prefix_concat_iff.mp isPrefix with whole | inner
  · rw [whole]
    exact standing
  · exact reached front inner

theorem IsReached.above {location : Location} (reached : tree.IsReached location) :
    tree.IsReached location.above := by
  unfold Location.above
  split
  · next isTop => exact isTop ▸ reached
  · next notTop =>
    split
    · next given =>
      have up : location.all (· == "..") = true := by
        rcases Bool.or_eq_true_iff.mp given with isTop | up
        · exact absurd (beq_iff_eq.mp isTop) notTop
        · exact up
      refine isReached_of_all_up ?_ tree
      rw [List.all_cons, up]
      rfl
    · exact fun front isPrefix => reached front (isPrefix.trans (List.dropLast_prefix location))

/-- Names that are followed to the end lead to a directory when one more can be followed. -/
theorem exists_follow_of_concat {directory location : Location} {names : List String}
    {last : String} (reached : tree.IsReached directory)
    (followed : tree.follow directory (names ++ [last]) = .ok location) :
    ∃ place, tree.follow directory names = .ok place ∧ tree.get? place = some .directory := by
  induction names generalizing directory with
  | nil => exact ⟨directory, rfl, reached directory (List.prefix_refl directory)⟩
  | cons name rest ih =>
      rw [List.cons_append, follow] at followed
      rw [follow]
      split at followed
      · cases followed
      · next short =>
        rw [if_neg short]
        split at followed
        · next up =>
          rw [if_pos up]
          exact ih reached.above followed
        · next down =>
          rw [if_neg down]
          have notLast : (rest ++ [last]).isEmpty = false := by simp
          simp only [notLast, Bool.false_eq_true, if_false] at followed
          dsimp only
          cases standing : tree.get? (directory ++ [name]) with
          | none =>
              rw [standing] at followed
              cases followed
          | some node =>
              rw [standing] at followed
              cases node with
              | file content => cases followed
              | directory =>
                  by_cases ends : rest = []
                  · rw [ends]
                    exact ⟨_, rfl, standing⟩
                  · rw [if_neg (by simpa using ends)]
                    exact ih (reached.concat standing) followed

/-- A file that can be read stands in a directory. -/
theorem isDirectory_parent_of_readContent (held : tree.readContent path = .ok content) :
    tree.isDirectory path.parent = true := by
  obtain ⟨_, located, standing⟩ := readContent_eq_ok_iff.mp held
  have someParts : path.parts ≠ [] := by
    intro none
    have atStart : path.location = path.start := by rw [Path.location, none, List.foldl_nil]
    rw [atStart, get?_of_isGiven path.isGiven_start] at standing
    cases standing
  rw [locate_eq_follow] at located
  split at located
  · cases located
  · next short =>
    rw [← List.dropLast_concat_getLast someParts] at located
    obtain ⟨place, followed, isDirectory⟩ :=
      exists_follow_of_concat (tree.isReached_start path) located
    have above : tree.locate path.parent = .ok place := by
      rw [locate_eq_follow, if_neg (Nat.not_lt.mpr (Path.size_parent_le (Nat.not_lt.mp short)))]
      exact followed
    have same := eq_location_of_locate_eq_ok above
    subst same
    exact isDirectory_iff.mpr ⟨above, isDirectory⟩

/-- Where a directory is, none is made. -/
theorem perform_makeDirectories_of_isDirectory (noNul : hasNul path = false)
    (there : tree.isDirectory path = true) :
    perform (makeDirectories path) tree = (.ok (), tree) := by
  have refused : tree.withDirectory path = .error .exists := by
    obtain ⟨located, standing⟩ := isDirectory_iff.mp there
    simp [withDirectory, located, standing, bind, Except.bind, throw, throwThe,
      MonadExceptOf.throw]
  unfold makeDirectories
  cases path.parts.length with
  | zero =>
      rw [makeDirectoriesWithin, perform_makeDirectory, noNul, refused]
      simp [there]
  | succ depth =>
      rw [perform_makeDirectoriesWithin_succ, noNul, refused]
      simp [there]

/-! ### Trees that differ at files -/

/-- Two trees differ at some locations only, and neither has a directory at one of them. -/
structure DiffersAt (tree edited : FileTree) (locations : List Location) : Prop where
  same : ∀ location, location ∉ locations → edited.get? location = tree.get? location
  noDirectory : ∀ location ∈ locations,
    tree.get? location ≠ some .directory ∧ edited.get? location ≠ some .directory

namespace DiffersAt

theorem grows (differs : tree.DiffersAt edited locations) : tree.Grows edited locations [] := by
  refine ⟨fun location kept => Or.inl (differs.same location kept), fun location standing => ?_⟩
  by_cases member : location ∈ locations
  · exact absurd standing (differs.noDirectory location member).1
  · exact (differs.same location member).trans standing

theorem isDirectory (differs : tree.DiffersAt edited locations)
    (there : tree.isDirectory path = true) : edited.isDirectory path = true := by
  obtain ⟨located, standing⟩ := isDirectory_iff.mp there
  exact isDirectory_iff.mpr
    ⟨differs.grows.locate_eq_ok located, differs.grows.directories _ standing⟩

/-- Two trees differ at one location less when the one gets the file of the other there. -/
theorem put {location : Location}
    (differs : tree.DiffersAt edited (location :: locations))
    (standing : tree.get? location = some (.file content)) :
    tree.DiffersAt (edited.put location (.file content)) locations := by
  have notGiven : location.isGiven = false :=
    isGiven_eq_false_of_get? (differs.noDirectory location List.mem_cons_self).1
  have written : (edited.put location (.file content)).get? location = some (.file content) :=
    get?_put_self notGiven edited _
  refine ⟨fun other kept => ?_, fun other member => ?_⟩
  · by_cases here : other = location
    · rw [here, written, standing]
    · rw [get?_put_of_ne here]
      exact differs.same other fun member => (List.mem_cons.mp member).elim here kept
  · by_cases here : other = location
    · rw [here, written, standing]
      simp
    · rw [get?_put_of_ne here]
      exact differs.noDirectory other (List.mem_cons_of_mem _ member)

/-- A file of one tree is written into the other, where only the content changes. -/
theorem perform_writeFile (differs : tree.DiffersAt edited locations)
    (member : path.location ∈ locations) (held : tree.readContent path = .ok content) :
    perform (writeFile path content) edited = (.ok (), edited.put path.location (.file content)) := by
  obtain ⟨noNul, located, _⟩ := readContent_eq_ok_iff.mp held
  have above := differs.isDirectory (isDirectory_parent_of_readContent held)
  have put : edited.withFile path content = .ok (edited.put path.location (.file content)) :=
    withFile_eq_ok_iff.mpr
      ⟨differs.grows.locate_eq_ok located, (differs.noDirectory _ member).2, rfl⟩
  unfold writeFile
  rw [perform_bind, perform_makeDirectories_of_isDirectory (Path.hasNul_parent noNul) above]
  change perform (writeContent path content) edited = _
  rw [perform_writeContent, noNul, put]
  rfl

/-- Nothing is found where the other tree has a file and this one has nothing. -/
theorem exists?_eq_false (differs : tree.DiffersAt edited locations)
    (held : tree.readContent path = .ok content) (removed : edited.get? path.location = none) :
    edited.exists? path = .ok false := by
  obtain ⟨noNul, located, _⟩ := readContent_eq_ok_iff.mp held
  simp [exists?, lookup, noNul, differs.grows.locate_eq_ok located, removed, bind, Except.bind,
    throw, throwThe, MonadExceptOf.throw]

end DiffersAt

end EntityScaffold.FileTree
