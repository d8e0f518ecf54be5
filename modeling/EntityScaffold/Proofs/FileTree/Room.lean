import EntityScaffold.Proofs.FileTree.Writing

/-
Room for files. A path that the file system takes can be written when no file stands at it or above
it: the directories that are missing are made from the top on, and each is found when the next one is
made. What is made in that way leaves room for every other file that is not in the way.
-/

namespace EntityScaffold

namespace Path

/-! ### Paths that can be used -/

/-- A path that leads down, holds no NUL and is not too long. -/
structure IsUsable (path : Path) : Prop where
  down : ".." ∉ path.parts
  noNul : FileTree.hasNul path = false
  fits : path.Fits

theorem size_intercalate_dropLast (separator : String) (names : List String) :
    (separator.intercalate names.dropLast).utf8ByteSize ≤ (separator.intercalate names).utf8ByteSize := by
  rcases List.eq_nil_or_concat names with none | ⟨front, last, split⟩
  · rw [none]
    exact Nat.le_refl _
  · rw [split, List.concat_eq_append, List.dropLast_concat]
    by_cases nothing : front = []
    · rw [nothing, String.intercalate_nil]
      exact Nat.zero_le _
    · rw [String.intercalate_append_of_ne_nil nothing (List.cons_ne_nil last []),
        String.utf8ByteSize_append, String.utf8ByteSize_append]
      omega

theorem size_parent_le {path : Path} (bound : path.toString.utf8ByteSize ≤ FileTree.longestPath) :
    path.parent.toString.utf8ByteSize ≤ FileTree.longestPath := by
  unfold toString at bound ⊢
  rw [parent_parts]
  split
  · have short : ".".utf8ByteSize ≤ FileTree.longestPath := by decide
    exact short
  · next notHere =>
    have someParts : ¬(decide (path.root = .relative) && path.parts.isEmpty) = true := by
      intro here
      apply notHere
      obtain ⟨relative, none⟩ := Bool.and_eq_true_iff.mp here
      rw [List.isEmpty_iff.mp none]
      exact Bool.and_eq_true_iff.mpr ⟨relative, rfl⟩
    rw [if_neg someParts] at bound
    have shorter := size_intercalate_dropLast "/" path.parts
    rw [String.utf8ByteSize_append] at bound ⊢
    have sameRoot : path.parent.root = path.root := rfl
    rw [sameRoot]
    omega

theorem Fits.parent {path : Path} (fits : path.Fits) : path.parent.Fits :=
  ⟨size_parent_le fits.whole,
    fun part member => fits.each part ((List.dropLast_sublist path.parts).subset member)⟩

theorem hasNul_parent {path : Path} (noNul : FileTree.hasNul path = false) :
    FileTree.hasNul path.parent = false := by
  unfold FileTree.hasNul at noNul ⊢
  rw [List.any_eq_false] at noNul ⊢
  exact fun part member => noNul part ((List.dropLast_sublist path.parts).subset member)

theorem IsUsable.parent {path : Path} (usable : path.IsUsable) : path.parent.IsUsable :=
  ⟨up_not_mem_parent usable.down, hasNul_parent usable.noNul, usable.fits.parent⟩

end Path

namespace FileTree

variable {tree after : FileTree} {path : Path} {content : Content}

/-- No file stands at a path or above it. -/
def IsClear (tree : FileTree) (path : Path) : Prop :=
  ∀ front, front <+: path.parts → ∀ content, tree.get? (path.start ++ front) ≠ some (.file content)

/-- Directories stand at a path and everywhere above it. -/
def HasDirectories (tree : FileTree) (path : Path) : Prop :=
  ∀ front, front <+: path.parts → tree.get? (path.start ++ front) = some .directory

theorem hasDirectories_parent_of_nil (tree : FileTree) (none : path.parts = []) :
    tree.HasDirectories path.parent := by
  intro front isPrefix
  rw [Path.parent_parts, none] at isPrefix
  rw [List.prefix_nil.mp isPrefix, List.append_nil]
  exact get?_of_isGiven path.isGiven_start tree

theorem IsClear.parent (clear : tree.IsClear path) : tree.IsClear path.parent :=
  fun front isPrefix => clear front (isPrefix.trans (List.dropLast_prefix path.parts))

/-- A way down from a clear path is clear when no file stands on it. -/
theorem IsClear.descend {names : List String} (clear : tree.IsClear path) (down : ".." ∉ path.parts)
    (below : ∀ front, front <+: names → front ≠ [] → ∀ content,
      tree.get? (path.location ++ front) ≠ some (.file content)) :
    tree.IsClear (path.descend names) := by
  intro front isPrefix content standing
  rw [Path.start_descend] at standing
  rw [Path.descend_parts] at isPrefix
  rcases List.prefix_or_prefix_of_prefix isPrefix (List.prefix_append path.parts names) with
    above | ⟨behind, split⟩
  · exact clear front above content standing
  · rw [← split, List.prefix_append_right_inj] at isPrefix
    rw [← split, ← List.append_assoc, ← Path.location_eq down] at standing
    by_cases nothing : behind = []
    · rw [nothing, List.append_nil, Path.location_eq down] at standing
      exact clear path.parts (List.prefix_refl _) content standing
    · exact below behind isPrefix nothing content standing

theorem IsClear.of_grows {made : List Location} (clear : tree.IsClear path)
    (grown : tree.Grows after [] made) : after.IsClear path := by
  intro front isPrefix content standing
  exact clear front isPrefix content (grown.get?_eq_some_file_of_after List.not_mem_nil standing)

/-- A directory that is found has directories above it. -/
theorem hasDirectories_of_locate (usable : path.IsUsable)
    (located : tree.locate path = .ok path.location)
    (standing : tree.get? path.location = some .directory) : tree.HasDirectories path := by
  obtain ⟨_, passes, _⟩ := (locate_eq_ok_iff usable.down).mp located
  rintro front ⟨behind, split⟩
  by_cases start : front = []
  · rw [start, List.append_nil]
    exact get?_of_isGiven path.isGiven_start tree
  · by_cases whole : behind = []
    · rw [whole, List.append_nil] at split
      rw [split, ← Path.location_eq usable.down]
      exact standing
    · exact passes front behind split.symm start whole

/-- With directories above it, a path is found. -/
theorem locate_of_parent (usable : path.IsUsable) (above : tree.HasDirectories path.parent) :
    tree.locate path = .ok path.location := by
  refine (locate_eq_ok_iff usable.down).mpr ⟨usable.fits, ?_, rfl⟩
  intro front behind split _ someBehind
  refine above front ?_
  rw [Path.parent_parts, split, List.dropLast_append_of_ne_nil someBehind]
  exact List.prefix_append front _

theorem locate_clear {error : SystemError} (usable : path.IsUsable) (clear : tree.IsClear path)
    (failed : tree.locate path = .error error) : error = .notFound := by
  rw [locate_eq_follow, if_neg (Nat.not_lt.mpr usable.fits.whole)] at failed
  exact error_of_follow_eq_error usable.down usable.fits.each clear failed

/-! ### Directories -/

/-- Making a directory where none is in the way: it is made, or it is there, or one above it is
missing. -/
theorem withDirectory_clear (usable : path.IsUsable) (clear : tree.IsClear path) :
    (∃ changed, tree.withDirectory path = .ok changed) ∨
      tree.withDirectory path = .error .notFound ∨
      tree.withDirectory path = .error .exists ∧ tree.locate path = .ok path.location ∧
        tree.get? path.location = some .directory := by
  unfold withDirectory
  cases located : tree.locate path with
  | error error =>
      rw [locate_clear usable clear located]
      exact Or.inr (Or.inl rfl)
  | ok location =>
      have place := eq_location_of_locate_eq_ok located
      subst place
      cases standing : tree.get? path.location with
      | none => exact Or.inl ⟨_, by simp [bind, Except.bind, standing]; rfl⟩
      | some node =>
          cases node with
          | directory =>
              refine Or.inr (Or.inr ⟨?_, rfl, rfl⟩)
              simp [bind, Except.bind, standing, throw, throwThe, MonadExceptOf.throw]
          | file content =>
              rw [Path.location_eq usable.down] at standing
              exact absurd standing (clear path.parts (List.prefix_refl _) content)

/-- Where a directory could not be made for want of those above it, the path is not found. -/
theorem locate_ne_of_withDirectory (missing : tree.withDirectory path = .error .notFound) :
    tree.locate path ≠ .ok path.location := by
  intro located
  unfold withDirectory at missing
  rw [located] at missing
  simp only [bind, Except.bind] at missing
  split at missing <;> cases missing

theorem hasDirectories_of_withDirectory {changed : FileTree} (usable : path.IsUsable)
    (made : tree.withDirectory path = .ok changed) : changed.HasDirectories path := by
  have grown := grows_of_withDirectory made
  obtain ⟨located, new, same⟩ := withDirectory_eq_ok_iff.mp made
  subst same
  have notGiven : path.location.isGiven = false := isGiven_eq_false_of_get? (by rw [new]; simp)
  exact hasDirectories_of_locate usable (grown.locate_eq_ok located) (get?_put_self notGiven tree _)

/-- A directory is made below directories. -/
theorem makeDirectory_clear (usable : path.IsUsable) (clear : tree.IsClear path)
    (above : tree.HasDirectories path.parent) :
    ∃ after, perform (makeDirectory path) tree = (.ok (), after) ∧ after.HasDirectories path := by
  rw [perform_makeDirectory, usable.noNul]
  simp only [Bool.false_eq_true, if_false]
  rcases withDirectory_clear usable clear with ⟨changed, made⟩ | missing | ⟨there, located, standing⟩
  · rw [made]
    exact ⟨changed, rfl, hasDirectories_of_withDirectory usable made⟩
  · exact absurd (locate_of_parent usable above) (locate_ne_of_withDirectory missing)
  · rw [there]
    refine ⟨tree, ?_, hasDirectories_of_locate usable located standing⟩
    simp only [isDirectory_iff.mpr ⟨located, standing⟩, if_true]

theorem makeDirectoriesWithin_clear {depth : Nat} (usable : path.IsUsable)
    (clear : tree.IsClear path) (enough : path.parts.length ≤ depth) :
    ∃ after, perform (makeDirectoriesWithin depth path) tree = (.ok (), after) ∧
      after.HasDirectories path := by
  induction depth generalizing path with
  | zero =>
      have none : path.parts = [] := List.length_eq_zero_iff.mp (Nat.le_zero.mp enough)
      exact makeDirectory_clear usable clear (tree.hasDirectories_parent_of_nil none)
  | succ depth ih =>
      rw [perform_makeDirectoriesWithin_succ, usable.noNul]
      simp only [Bool.false_eq_true, if_false]
      rcases withDirectory_clear usable clear with ⟨changed, made⟩ | missing | ⟨there, located, standing⟩
      · rw [made]
        exact ⟨changed, rfl, hasDirectories_of_withDirectory usable made⟩
      · rw [missing]
        have someParts : path.parts.isEmpty = false := by
          cases none : path.parts.isEmpty with
          | false => rfl
          | true =>
              have above := tree.hasDirectories_parent_of_nil (List.isEmpty_iff.mp none)
              exact absurd (locate_of_parent usable above) (locate_ne_of_withDirectory missing)
        have shorter : path.parent.parts.length ≤ depth := by
          rw [Path.parent_parts, List.length_dropLast]
          omega
        obtain ⟨middle, made, above⟩ := ih usable.parent clear.parent shorter
        -- what was made above is on the way to the path, so the path is still clear
        have onWay := grows_makeDirectoriesWithin depth path.parent tree
        rw [made] at onWay
        have grown := onWay.of_ways usable.parent.down
        obtain ⟨after, last, directories⟩ := makeDirectory_clear usable (clear.of_grows grown) above
        refine ⟨after, ?_, directories⟩
        simp only [someParts, Bool.false_eq_true, if_false]
        rw [perform_bind, made]
        exact last
      · rw [there]
        refine ⟨tree, ?_, hasDirectories_of_locate usable located standing⟩
        simp only [isDirectory_iff.mpr ⟨located, standing⟩, if_true]

/-- Directories are made wherever no file is in the way. -/
theorem makeDirectories_clear (usable : path.IsUsable) (clear : tree.IsClear path) :
    ∃ after, perform (makeDirectories path) tree = (.ok (), after) ∧ after.HasDirectories path :=
  makeDirectoriesWithin_clear usable clear (Nat.le_refl _)

/-! ### Files -/

/-- A file is written when no file stands above it and no directory in its place. -/
theorem writeFile_clear (usable : path.IsUsable) (someParts : path.parts ≠ [])
    (clear : tree.IsClear path.parent) (vacant : tree.get? path.location ≠ some .directory)
    (content : Content) :
    ∃ after, perform (writeFile path content) tree = (.ok (), after) := by
  obtain ⟨middle, made, above⟩ := makeDirectories_clear usable.parent clear
  have onWay := grows_makeDirectories path.parent tree
  rw [made] at onWay
  have grown := onWay.of_ways usable.parent.down
  have located := locate_of_parent usable above
  have noDirectory : middle.get? path.location ≠ some .directory := by
    intro standing
    rcases grown.keeps path.location List.not_mem_nil with same | ⟨_, _, target, member, below⟩
    · exact vacant (same.symm.trans standing)
    · rw [List.mem_singleton.mp member, Path.location_eq usable.down,
        Path.location_eq usable.parent.down] at below
      have lengths := below.length_le
      have positive := List.length_pos_iff.mpr someParts
      simp only [List.length_append, Path.start_parent, Path.parent_parts, List.length_dropLast]
        at lengths
      omega
  have put : middle.withFile path content = .ok (middle.put path.location (.file content)) :=
    withFile_eq_ok_iff.mpr ⟨located, noDirectory, rfl⟩
  refine ⟨middle.put path.location (.file content), ?_⟩
  unfold writeFile
  rw [perform_bind, made]
  change perform (writeContent path content) middle = _
  rw [perform_writeContent, usable.noNul, put]
  rfl

/-- Nothing stands at a path below which nothing is, and that can be found out. -/
theorem exists?_clear (usable : path.IsUsable) (clear : tree.IsClear path)
    (vacant : tree.get? path.location = none) : tree.exists? path = .ok false := by
  unfold exists? lookup
  rw [usable.noNul]
  cases located : tree.locate path with
  | error error =>
      rw [locate_clear usable clear located]
      rfl
  | ok location =>
      have place := eq_location_of_locate_eq_ok located
      subst place
      simp [bind, Except.bind, vacant, throw, throwThe, MonadExceptOf.throw]

end FileTree

end EntityScaffold
