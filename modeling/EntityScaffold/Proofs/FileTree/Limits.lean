import EntityScaffold.Proofs.FileTree.Overwriting

/-
What paths the file system does not take, and what content is no text. A name that is too long is only
met when the names in front of it lead to a directory, and only then a question whether a path exists
has no answer. A NUL is met before the tree is looked at; when a file is written, it is met in the
directories above it first.
-/

namespace EntityScaffold.FileTree

variable {tree after : FileTree} {path : Path} {content : Content}

/-! ### Names that are too long -/

/-- Among some names there is one that is too long, behind names that lead to a directory. -/
def MeetsLongName (tree : FileTree) (directory : Location) (names : List String) : Prop :=
  ∃ front name behind, names = front ++ name :: behind ∧ longestName < name.utf8ByteSize ∧
    ∃ place, tree.follow directory front = .ok place ∧ tree.get? place = some .directory

section First

variable {directory : Location} {first : String} {rest : List String}

theorem meetsLongName_of_long (long : longestName < first.utf8ByteSize)
    (standing : tree.get? directory = some .directory) :
    tree.MeetsLongName directory (first :: rest) :=
  ⟨[], first, rest, rfl, long, directory, rfl, standing⟩

/-- When the first name is followed to a directory, the long one is met from there on. -/
theorem meetsLongName_cons_iff {next : Location} (short : ¬longestName < first.utf8ByteSize)
    (leads : ∀ names, tree.follow directory (first :: names) = tree.follow next names) :
    tree.MeetsLongName directory (first :: rest) ↔ tree.MeetsLongName next rest := by
  constructor
  · rintro ⟨front, name, behind, split, long, place, followed, standing⟩
    cases front with
    | nil =>
        rw [List.nil_append, List.cons.injEq] at split
        exact absurd (split.1 ▸ long) short
    | cons other front =>
        rw [List.cons_append, List.cons.injEq] at split
        rw [← split.1, leads] at followed
        exact ⟨front, name, behind, split.2, long, place, followed, standing⟩
  · rintro ⟨front, name, behind, split, long, place, followed, standing⟩
    exact ⟨first :: front, name, behind, by rw [split, List.cons_append], long, place,
      (leads front).trans followed, standing⟩

theorem follow_cons_up (short : ¬longestName < first.utf8ByteSize) (up : first = "..")
    (names : List String) :
    tree.follow directory (first :: names) = tree.follow directory.above names := by
  rw [follow, if_neg short, if_pos up]

theorem follow_cons_down (short : ¬longestName < first.utf8ByteSize) (down : first ≠ "..")
    (standing : tree.get? (directory ++ [first]) = some .directory) (names : List String) :
    tree.follow directory (first :: names) = tree.follow (directory ++ [first]) names := by
  rw [follow, if_neg short, if_neg down]
  dsimp only
  rw [standing]
  cases names <;> rfl

/-- Behind a name that is not that of a directory, nothing is looked at. -/
theorem follow_cons_absent (short : ¬longestName < first.utf8ByteSize) (down : first ≠ "..")
    (absent : tree.get? (directory ++ [first]) ≠ some .directory) (names : List String) :
    tree.follow directory (first :: names) ≠ .error .nameTooLong ∧
      ∀ place, tree.follow directory (first :: names) = .ok place →
        tree.get? place ≠ some .directory := by
  rw [follow, if_neg short, if_neg down]
  dsimp only
  split
  · refine ⟨fun failed => ?_, fun place followed => ?_⟩
    · cases failed
    · cases followed
      exact absent
  · refine ⟨fun failed => ?_, fun place followed => ?_⟩
    · split at failed
      · cases failed
      · cases failed
      · next there => exact absurd there absent
    · split at followed
      · cases followed
      · cases followed
      · next there => exact absurd there absent

end First

/-- Names are followed up to one that is too long when those in front of it lead to a directory. -/
theorem follow_eq_nameTooLong_iff {directory : Location} {names : List String}
    (reached : tree.IsReached directory) :
    tree.follow directory names = .error .nameTooLong ↔ tree.MeetsLongName directory names := by
  induction names generalizing directory with
  | nil =>
      constructor
      · intro impossible
        cases impossible
      · rintro ⟨front, name, behind, split, _⟩
        cases front <;> cases split
  | cons first rest ih =>
      by_cases long : longestName < first.utf8ByteSize
      · have met : tree.follow directory (first :: rest) = .error .nameTooLong := by
          rw [follow, if_pos long]
        have standing := reached directory (List.prefix_refl directory)
        exact ⟨fun _ => meetsLongName_of_long long standing, fun _ => met⟩
      · by_cases up : first = ".."
        · have leads (names : List String) : tree.follow directory (first :: names) =
              tree.follow directory.above names := follow_cons_up long up names
          rw [leads, meetsLongName_cons_iff long leads]
          exact ih reached.above
        · by_cases standing : tree.get? (directory ++ [first]) = some .directory
          · have leads := follow_cons_down long up standing
            rw [leads, meetsLongName_cons_iff long leads]
            exact ih (reached.concat standing)
          · refine ⟨fun met => absurd met (follow_cons_absent long up standing rest).1, ?_⟩
            rintro ⟨front, name, behind, split, tooLong, place, followed, there⟩
            cases front with
            | nil =>
                rw [List.nil_append, List.cons.injEq] at split
                exact absurd (split.1 ▸ tooLong) long
            | cons other front =>
                rw [List.cons_append, List.cons.injEq] at split
                rw [← split.1] at followed
                exact absurd there ((follow_cons_absent long up standing front).2 place followed)

theorem size_front_le {root : Path.Root} {front behind : List String}
    (bound : (Path.toString ⟨root, front ++ behind⟩).utf8ByteSize ≤ longestPath) :
    (Path.toString ⟨root, front⟩).utf8ByteSize ≤ longestPath := by
  induction behind generalizing front with
  | nil => rwa [List.append_nil] at bound
  | cons name rest ih =>
      have longer : (Path.toString ⟨root, front ++ [name]⟩).utf8ByteSize ≤ longestPath :=
        ih (by rwa [List.append_assoc, List.singleton_append])
      have above := Path.size_parent_le longer
      rwa [Path.parent, List.dropLast_concat] at above

/-- A path is longer than a path may be, or it has a component that is longer than a name may be,
behind components that lead to a directory. -/
def ExceedsLimits (tree : FileTree) (path : Path) : Prop :=
  longestPath < path.toString.utf8ByteSize ∨
    ∃ front name behind, path.parts = front ++ name :: behind ∧ longestName < name.utf8ByteSize ∧
      tree.isDirectory ⟨path.root, front⟩ = true

theorem locate_eq_nameTooLong_iff :
    tree.locate path = .error .nameTooLong ↔ tree.ExceedsLimits path := by
  rw [locate_eq_follow, ExceedsLimits]
  split
  · next long => simp [long]
  · next short =>
    rw [follow_eq_nameTooLong_iff (tree.isReached_start path), or_iff_right short]
    refine exists_congr fun front => exists_congr fun name => exists_congr fun behind =>
      and_congr_right fun split => and_congr_right fun _ => ?_
    have shortFront : ¬longestPath < (Path.toString ⟨path.root, front⟩).utf8ByteSize := by
      have whole : path = ⟨path.root, front ++ name :: behind⟩ := by rw [← split]
      rw [whole] at short
      exact Nat.not_lt.mpr (size_front_le (Nat.not_lt.mp short))
    rw [isDirectory_iff, locate_eq_follow, if_neg shortFront]
    constructor
    · rintro ⟨place, followed, standing⟩
      have same : place = Path.location ⟨path.root, front⟩ := eq_of_follow_eq_ok followed
      subst same
      exact ⟨followed, standing⟩
    · rintro ⟨followed, standing⟩
      exact ⟨_, followed, standing⟩

/-- Whether anything stands at a path is not known just when the path exceeds the limits. -/
theorem exists?_eq_error_iff {error : AccessError} :
    tree.exists? path = .error error ↔
      hasNul path = false ∧ tree.ExceedsLimits path ∧ error = .system .nameTooLong path := by
  rw [← locate_eq_nameTooLong_iff]
  unfold exists? lookup
  cases hasNul path with
  | true => simp
  | false =>
      cases tree.locate path with
      | error cause => cases cause <;> simp [bind, Except.bind, eq_comm]
      | ok location =>
          cases standing : tree.get? location with
          | none => simp [bind, Except.bind, standing, throw, throwThe, MonadExceptOf.throw]
          | some node => simp [bind, Except.bind, standing, pure, Except.pure]

/-! ### Names with a NUL -/

theorem makeDirectory_ne_nulByte (noNul : hasNul path = false) :
    perform (makeDirectory path) tree ≠ (.error .nulByte, after) := by
  intro failed
  rw [perform_makeDirectory, noNul, if_neg Bool.false_ne_true] at failed
  split at failed
  · cases failed
  · split at failed <;> cases failed

theorem makeDirectoriesWithin_ne_nulByte {depth : Nat} (noNul : hasNul path = false) :
    perform (makeDirectoriesWithin depth path) tree ≠ (.error .nulByte, after) := by
  induction depth generalizing path with
  | zero => exact makeDirectory_ne_nulByte noNul
  | succ depth ih =>
      intro failed
      rw [perform_makeDirectoriesWithin_succ, noNul, if_neg Bool.false_ne_true] at failed
      split at failed
      · cases failed
      · split at failed
        · cases failed
        · rcases perform_bind_eq_error failed with above | ⟨_, _, _, last⟩
          · exact ih (Path.hasNul_parent noNul) above
          · exact makeDirectory_ne_nulByte noNul last
      · split at failed <;> cases failed

/-- No directory is made when there is a NUL in the path, and only then is it refused for that. -/
theorem perform_makeDirectories_eq_nulByte_iff :
    perform (makeDirectories path) tree = (.error .nulByte, after) ↔
      hasNul path = true ∧ after = tree := by
  cases nul : hasNul path with
  | false =>
      refine ⟨fun failed => absurd failed (makeDirectoriesWithin_ne_nulByte nul), ?_⟩
      rintro ⟨impossible, _⟩
      cases impossible
  | true =>
      have refused : perform (makeDirectories path) tree = (.error .nulByte, tree) := by
        unfold makeDirectories
        cases path.parts.length with
        | zero => rw [makeDirectoriesWithin, perform_makeDirectory, if_pos nul]
        | succ depth => rw [perform_makeDirectoriesWithin_succ, if_pos nul]
      rw [refused]
      simp [eq_comm]

/-- A NUL in the path of a file is met above the file, or when the directories there are made. -/
theorem perform_writeFile_eq_nulByte_iff :
    perform (writeFile path content) tree = (.error .nulByte, after) ↔
      hasNul path.parent = true ∧ after = tree ∨
        hasNul path = true ∧ perform (makeDirectories path.parent) tree = (.ok (), after) := by
  have last (middle : FileTree) :
      perform (writeContent path content) middle = (.error .nulByte, after) ↔
        hasNul path = true ∧ after = middle := by
    rw [perform_writeContent]
    cases hasNul path with
    | true => simp [eq_comm]
    | false => cases middle.withFile path content <;> simp
  rw [← perform_makeDirectories_eq_nulByte_iff, writeFile, perform_bind]
  cases made : perform (makeDirectories path.parent) tree with
  | mk result middle =>
      cases result with
      | error error => simp
      | ok done =>
          dsimp only
          rw [last]
          constructor
          · rintro ⟨nul, same⟩
            exact Or.inr ⟨nul, by rw [same]⟩
          · rintro (impossible | ⟨nul, same⟩)
            · cases impossible
            · cases same
              exact ⟨nul, rfl⟩

/-! ### Reading -/

theorem readContent_eq_nulByte_iff :
    tree.readContent path = .error .nulByte ↔ hasNul path = true := by
  unfold readContent
  cases hasNul path with
  | true => simp
  | false =>
      cases tree.lookup path with
      | error error => simp
      | ok node => cases node <;> simp

end EntityScaffold.FileTree

namespace EntityScaffold

theorem Content.read_eq_error_iff {content : Content} {error : Text.Utf8.DecodeError} :
    content.read = .error error ↔
      ∃ octets, content = .binary octets ∧ Text.Utf8.decode octets = .error error := by
  cases content with
  | text chars => simp [Content.read]
  | binary octets =>
      simp only [Content.read, Content.binary.injEq, exists_eq_left']
      cases Text.Utf8.decode octets <;> simp [Except.map]

end EntityScaffold
