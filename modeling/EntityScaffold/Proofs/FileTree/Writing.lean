import EntityScaffold.Proofs.FileTree.Growth

/-
Making directories and writing files. Whether or not it succeeds, making a directory adds only
directories on the way to it. Writing a file adds the directories above it and, when it succeeds, the
file; a failure leaves every file as it was. Both succeed when no file stands in the way.
-/

namespace EntityScaffold.FileTree

variable {tree after : FileTree} {path : Path} {content : Content}

/-! ### Actions on a tree -/

section Actions

variable {ε α β : Type}

/-- What an action gives, and the tree that it leaves. -/
def perform (action : ExceptT ε (StateM FileTree) α) (tree : FileTree) : Except ε α × FileTree :=
  action.run.run tree

theorem perform_bind (action : ExceptT ε (StateM FileTree) α)
    (next : α → ExceptT ε (StateM FileTree) β) (tree : FileTree) :
    perform (action >>= next) tree =
      match perform action tree with
      | (.ok value, changed) => perform (next value) changed
      | (.error error, changed) => (.error error, changed) := by
  change (ExceptT.bindCont next (perform action tree).1).run (perform action tree).2 = _
  obtain ⟨result, changed⟩ := perform action tree
  cases result <;> rfl

theorem perform_bind_eq_ok {action : ExceptT ε (StateM FileTree) α}
    {next : α → ExceptT ε (StateM FileTree) β} {value : β}
    (performed : perform (action >>= next) tree = (.ok value, after)) :
    ∃ first middle, perform action tree = (.ok first, middle) ∧
      perform (next first) middle = (.ok value, after) := by
  rw [perform_bind] at performed
  split at performed
  · next first middle done => exact ⟨first, middle, done, performed⟩
  · cases performed

/-- An action that fails has failed in its first part, or after it. -/
theorem perform_bind_eq_error {action : ExceptT ε (StateM FileTree) α}
    {next : α → ExceptT ε (StateM FileTree) β} {error : ε}
    (performed : perform (action >>= next) tree = (.error error, after)) :
    perform action tree = (.error error, after) ∨
      ∃ first middle, perform action tree = (.ok first, middle) ∧
        perform (next first) middle = (.error error, after) := by
  rw [perform_bind] at performed
  split at performed
  · next first middle done => exact Or.inr ⟨first, middle, done, performed⟩
  · next failed =>
    cases performed
    exact Or.inl failed

end Actions

theorem perform_makeDirectory (path : Path) (tree : FileTree) :
    perform (makeDirectory path) tree =
      if hasNul path then (.error .nulByte, tree)
      else match tree.withDirectory path with
        | .ok changed => (.ok (), changed)
        | .error error =>
          if tree.isDirectory path then (.ok (), tree) else (.error (.system error path), tree) := by
  unfold makeDirectory
  by_cases nul : hasNul path = true
  · rw [if_pos nul, if_pos nul]
    rfl
  · rw [if_neg nul, if_neg nul]
    change perform (ε := AccessError) (match tree.withDirectory path with
      | .ok changed => set changed
      | .error error =>
        if !tree.isDirectory path then throw (.system error path) else pure ()) tree = _
    cases tree.withDirectory path with
    | ok changed => rfl
    | error error => cases tree.isDirectory path <;> rfl

theorem perform_makeDirectoriesWithin_succ (depth : Nat) (path : Path) (tree : FileTree) :
    perform (makeDirectoriesWithin (depth + 1) path) tree =
      if hasNul path then (.error .nulByte, tree)
      else match tree.withDirectory path with
        | .ok changed => (.ok (), changed)
        | .error .notFound =>
          if path.parts.isEmpty then (.error (.system .notFound path), tree)
          else perform (makeDirectoriesWithin depth path.parent >>= fun _ => makeDirectory path) tree
        | .error error =>
          if tree.isDirectory path then (.ok (), tree) else (.error (.system error path), tree) := by
  rw [makeDirectoriesWithin]
  by_cases nul : hasNul path = true
  · rw [if_pos nul, if_pos nul]
    rfl
  · rw [if_neg nul, if_neg nul]
    change perform (match tree.withDirectory path with
      | .ok changed => set changed
      | .error .notFound => do
        if path.parts.isEmpty then throw (.system .notFound path)
        makeDirectoriesWithin depth path.parent
        makeDirectory path
      | .error error =>
        if !tree.isDirectory path then throw (.system error path) else pure ()) tree = _
    cases tree.withDirectory path with
    | ok changed => rfl
    | error error =>
        cases error with
        | notFound => cases path.parts.isEmpty <;> rfl
        | «exists» | notDirectory | isDirectory | nameTooLong =>
            cases tree.isDirectory path <;> rfl

theorem perform_writeContent (path : Path) (content : Content) (tree : FileTree) :
    perform (writeContent path content) tree =
      if hasNul path then (.error .nulByte, tree)
      else match tree.withFile path content with
        | .ok changed => (.ok (), changed)
        | .error error => (.error (.system error path), tree) := by
  unfold writeContent
  by_cases nul : hasNul path = true
  · rw [if_pos nul, if_pos nul]
    rfl
  · rw [if_neg nul, if_neg nul]
    change perform (ε := AccessError) (match tree.withFile path content with
      | .ok changed => set changed
      | .error error => throw (.system error path)) tree = _
    cases tree.withFile path content <;> rfl

/-! ### Single changes -/

theorem withDirectory_eq_ok_iff {changed : FileTree} :
    tree.withDirectory path = .ok changed ↔
      tree.locate path = .ok path.location ∧ tree.get? path.location = none ∧
        changed = tree.put path.location .directory := by
  unfold withDirectory
  rw [bind_locate_eq_ok_iff]
  cases tree.get? path.location <;>
    simp [pure, Except.pure, throw, throwThe, MonadExceptOf.throw, eq_comm]

theorem withFile_eq_ok_iff {changed : FileTree} :
    tree.withFile path content = .ok changed ↔
      tree.locate path = .ok path.location ∧ tree.get? path.location ≠ some .directory ∧
        changed = tree.put path.location (.file content) := by
  unfold withFile
  rw [bind_locate_eq_ok_iff]
  cases tree.get? path.location with
  | none => simp [pure, Except.pure, eq_comm]
  | some node =>
      cases node <;> simp [pure, Except.pure, throw, throwThe, MonadExceptOf.throw, eq_comm]

theorem isDirectory_iff :
    tree.isDirectory path = true ↔
      tree.locate path = .ok path.location ∧ tree.get? path.location = some .directory := by
  rw [← lookup_eq_ok_iff]
  unfold isDirectory
  cases tree.lookup path with
  | error error => simp
  | ok node => cases node <;> simp

theorem grows_of_withDirectory {changed : FileTree} (made : tree.withDirectory path = .ok changed) :
    tree.Grows changed [] [path.location] := by
  obtain ⟨_, new, same⟩ := withDirectory_eq_ok_iff.mp made
  subst same
  exact grows_put_directory new

/-! ### What actions may change -/

theorem grows_makeDirectory (path : Path) (tree : FileTree) :
    tree.Grows (perform (makeDirectory path) tree).2 [] [path.location] := by
  have unchanged := Grows.refl tree [] [path.location]
  rw [perform_makeDirectory]
  split
  · exact unchanged
  · split
    · next made => exact grows_of_withDirectory made
    · split
      · exact unchanged
      · exact unchanged

theorem grows_makeDirectoriesWithin (depth : Nat) (path : Path) (tree : FileTree) :
    tree.Grows (perform (makeDirectoriesWithin depth path) tree).2 [] path.ways := by
  induction depth generalizing path with
  | zero => exact (grows_makeDirectory path tree).mono_made fun _ member =>
      List.mem_singleton.mp member ▸ path.location_mem_ways
  | succ depth ih =>
      have unchanged := Grows.refl tree [] path.ways
      have atEnd : [path.location] ⊆ path.ways := fun _ member =>
        List.mem_singleton.mp member ▸ path.location_mem_ways
      rw [perform_makeDirectoriesWithin_succ]
      split
      · exact unchanged
      · split
        · next made => exact (grows_of_withDirectory made).mono_made atEnd
        · split
          · exact unchanged
          · have above := ih path.parent
            rw [perform_bind]
            cases performed : perform (makeDirectoriesWithin depth path.parent) tree with
            | mk result middle =>
                rw [performed] at above
                cases result with
                | error error => exact above.mono_made path.ways_parent_subset
                | ok done =>
                    exact (above.trans (grows_makeDirectory path middle)).mono_made
                      (List.append_subset.mpr ⟨path.ways_parent_subset, atEnd⟩)
        · split
          · exact unchanged
          · exact unchanged

theorem grows_makeDirectories (path : Path) (tree : FileTree) :
    tree.Grows (perform (makeDirectories path) tree).2 [] path.ways :=
  grows_makeDirectoriesWithin path.parts.length path tree

/-- A content that is written can be read, and nothing else has changed. -/
theorem grows_of_writeContent_eq_ok
    (written : perform (writeContent path content) tree = (.ok (), after)) :
    tree.Grows after [path.location] [] ∧ after.readContent path = .ok content := by
  rw [perform_writeContent] at written
  split at written
  · cases written
  · next noNul =>
    split at written
    · next changed put =>
      cases written
      obtain ⟨located, noDirectory, same⟩ := withFile_eq_ok_iff.mp put
      subst same
      have grown := grows_put_file content noDirectory
      have notGiven := isGiven_eq_false_of_get? noDirectory
      exact ⟨grown, readContent_eq_ok_iff.mpr ⟨by simpa using noNul, grown.locate_eq_ok located,
        get?_put_self notGiven tree _⟩⟩
    · cases written

theorem eq_of_writeContent_eq_error {error : AccessError}
    (failed : perform (writeContent path content) tree = (.error error, after)) : after = tree := by
  rw [perform_writeContent] at failed
  split at failed
  · cases failed
    rfl
  · split at failed
    · cases failed
    · cases failed
      rfl

/-- A file that is written can be read; beside it, only directories on the way to it are new. -/
theorem grows_of_writeFile_eq_ok
    (written : perform (writeFile path content) tree = (.ok (), after)) :
    tree.Grows after [path.location] path.parent.ways ∧
      after.readContent path = .ok content := by
  obtain ⟨done, middle, made, put⟩ := perform_bind_eq_ok written
  have above := grows_makeDirectories path.parent tree
  rw [made] at above
  obtain ⟨grown, held⟩ := grows_of_writeContent_eq_ok put
  have both := above.trans grown
  rw [List.nil_append, List.append_nil] at both
  exact ⟨both, held⟩

/-- A file that cannot be written leaves nothing but directories on the way to it. -/
theorem grows_of_writeFile_eq_error {error : AccessError}
    (failed : perform (writeFile path content) tree = (.error error, after)) :
    tree.Grows after [] path.parent.ways := by
  have above := grows_makeDirectories path.parent tree
  rcases perform_bind_eq_error failed with early | ⟨done, middle, made, late⟩
  · rw [early] at above
    exact above
  · rw [made] at above
    rw [eq_of_writeContent_eq_error late]
    exact above

/-! ### Where files can be written -/

def Writable (tree : FileTree) (path : Path) : Prop :=
  ∃ content after, perform (writeFile path content) tree = (.ok (), after)

theorem exists_withFile_eq_ok {first : Content} (fits : tree.withFile path first = .ok after)
    (changed : Content) :
    ∃ other, tree.withFile path changed = .ok other := by
  obtain ⟨located, noDirectory, -⟩ := withFile_eq_ok_iff.1 fits
  exact ⟨_, withFile_eq_ok_iff.2 ⟨located, noDirectory, rfl⟩⟩

/-- What can be written at a path does not depend on its content. -/
theorem exists_writeContent_eq {first : Content}
    (written : perform (writeContent path first) tree = (.ok (), after)) (content : Content) :
    ∃ other, perform (writeContent path content) tree = (.ok (), other) := by
  rw [perform_writeContent] at written ⊢
  split at written
  · cases written
  · next noNul =>
    rw [if_neg noNul]
    split at written
    · next fits =>
      obtain ⟨other, alsoFits⟩ := exists_withFile_eq_ok fits content
      exact ⟨other, by rw [alsoFits]⟩
    · cases written

theorem Writable.exists_writeFile_eq (writable : tree.Writable path)
    (content : Content) : ∃ after, perform (writeFile path content) tree = (.ok (), after) := by
  obtain ⟨first, after, written⟩ := writable
  obtain ⟨done, middle, made, put⟩ := perform_bind_eq_ok written
  obtain ⟨other, alsoPut⟩ := exists_writeContent_eq put content
  refine ⟨other, ?_⟩
  rw [writeFile, perform_bind, made]
  exact alsoPut

end EntityScaffold.FileTree
