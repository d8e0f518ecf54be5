import EntityScaffold.ControllerDir
import EntityScaffold.Proofs.Text.Pieces

/-
The folders of a controller directory. However its separators are written, a directory is the
sequence of its non-empty pieces, or the top level if there is none; its normal form joins them with
slashes, and the sub-directory of views is that sequence without the top level in front.
-/

namespace EntityScaffold.ControllerDir

open Text

/-! ### Normal forms -/

/-- Does a character stand between two folders of a directory as it is written? -/
def isMark (char : Char) : Bool := (char == '\x5c' || char == '.') || char == '/'

def segments (written : List Char) : List (List Char) := fieldsOf isMark written

theorem isMark_slash : isMark '/' = true := rfl

theorem ne_slash_of_not_isMark {char : Char} (inside : isMark char = false) : char ≠ '/' := by
  intro same
  subst same
  cases inside

/-- What stands behind a mark begins with no slash once runs are collapsed. -/
private theorem dropWhile_collapseRuns_true (written : List Char) :
    (collapseRuns isMark '/' true written).dropWhile (· == '/') =
      collapseRuns isMark '/' true written := by
  induction written with
  | nil => rfl
  | cons char rest ih =>
      cases mark : isMark char with
      | true => simpa only [collapseRuns, mark, if_true] using ih
      | false =>
          have different : ¬(char == '/') = true := by
            simpa using ne_slash_of_not_isMark mark
          simp only [collapseRuns, mark, Bool.false_eq_true, if_false]
          exact List.dropWhile_cons_of_neg different

private theorem dropWhile_collapseRuns_false (written : List Char) :
    (collapseRuns isMark '/' false written).dropWhile (· == '/') =
      collapseRuns isMark '/' true written := by
  cases written with
  | nil => rfl
  | cons char rest =>
      rw [collapseRuns_false_eq]
      split
      · exact dropWhile_collapseRuns_true (char :: rest)
      · exact dropWhile_collapseRuns_true (char :: rest)

theorem segments_inside {written folder : List Char} (member : folder ∈ segments written) :
    folder ≠ [] ∧ ∀ char ∈ folder, char ∈ written ∧ isMark char = false := by
  simp only [segments, fieldsOf, List.mem_filter] at member
  obtain ⟨piece, filled⟩ := member
  refine ⟨?_, fun char within => mem_of_mem_splitWhere piece within⟩
  intro empty
  subst empty
  cases filled

/-- A slash in front of segments stays when they are trimmed. -/
private theorem trimEnd_slash {written rest : List Char}
    (trimmed : trimEnd (· == '/') rest = joinWith ['/'] (segments written)) :
    trimEnd (· == '/') ('/' :: rest) = (segments written).flatMap fun other => '/' :: other := by
  rw [trimEnd_cons, trimmed]
  cases others : segments written with
  | nil => rfl
  | cons first more =>
      have member : first ∈ segments written := by
        rw [others]
        exact List.mem_cons_self
      rw [joinWith_cons, if_neg]
      · rfl
      · intro both
        exact (segments_inside member).1 (List.append_eq_nil_iff.mp both.2).1

/-- The first piece is told apart here: the next character of the text belongs to it. -/
private theorem trimEnd_collapseRuns (written : List Char) :
    trimEnd (· == '/') (collapseRuns isMark '/' true written) = joinWith ['/'] (segments written) ∧
      ∀ piece pieces, splitWhere isMark written = piece :: pieces →
        trimEnd (· == '/') (collapseRuns isMark '/' false written) =
          piece ++ (pieces.filter fun other => !other.isEmpty).flatMap fun other => '/' :: other := by
  induction written with
  | nil =>
      refine ⟨rfl, ?_⟩
      intro piece pieces split
      cases split
      rfl
  | cons char rest ih =>
      obtain ⟨behindMark, inside⟩ := ih
      cases mark : isMark char with
      | true =>
          have splits := splitWhere_cons_of_separates isMark rest mark
          have dropped : segments (char :: rest) = segments rest := by
            simp [segments, fieldsOf, splits]
          refine ⟨?_, ?_⟩
          · simp only [collapseRuns, mark, if_true]
            rw [behindMark, dropped]
          · intro piece pieces split
            rw [splits] at split
            cases split
            simp only [collapseRuns, mark, if_true, Bool.false_eq_true, if_false, List.nil_append]
            change _ = (segments rest).flatMap _
            exact trimEnd_slash behindMark
      | false =>
          -- the character goes in front of the first piece of the rest, behind a run or not
          obtain ⟨first, more, hRest⟩ :=
            List.exists_cons_of_ne_nil (splitWhere_ne_nil isMark rest)
          have splits := splitWhere_cons_of_not isMark mark hRest
          have different : ¬(char == '/') = true := by
            simpa using ne_slash_of_not_isMark mark
          have trimmed : trimEnd (· == '/') (char :: collapseRuns isMark '/' false rest) =
              (char :: first) ++
                (more.filter fun other => !other.isEmpty).flatMap fun other => '/' :: other := by
            rw [trimEnd_cons, if_neg (fun both => different both.1), inside first more hRest]
            rfl
          refine ⟨?_, ?_⟩
          · simp only [collapseRuns, mark, Bool.false_eq_true, if_false]
            have kept : segments (char :: rest) =
                (char :: first) :: more.filter fun other => !other.isEmpty := by
              simp [segments, fieldsOf, splits]
            rw [trimmed, kept, joinWith_cons]
            rfl
          · intro piece pieces split
            rw [splits] at split
            cases split
            simp only [collapseRuns, mark, Bool.false_eq_true, if_false]
            exact trimmed

/-- The normal form puts a slash between the non-empty pieces of what is written. -/
theorem normalizeChars_eq_joinWith (written : List Char) :
    normalizeChars written = joinWith ['/'] (segments written) := by
  have slash : (fun char => char == '/') '/' = true := rfl
  have merged : collapseRuns (fun char => char == '/') '/' false
      (collapseRuns (fun char => char == '\x5c' || char == '.') '/' false written) =
        collapseRuns isMark '/' false written :=
    collapseRuns_collapseRuns (fun char => char == '/') slash false false id written
  simp only [normalizeChars, merged, trim, dropWhile_collapseRuns_false]
  exact (trimEnd_collapseRuns written).1

/-! ### Folders -/

/-- The folders of a directory, from the root of the bundle down. -/
def folders (written : String) : List (List Char) :=
  if segments written.toList = [] then [topLevel.toList] else segments written.toList

theorem folders_ne_nil (written : String) : folders written ≠ [] := by
  unfold folders
  split
  · exact List.cons_ne_nil _ _
  · assumption

theorem not_isMark_of_mem_topLevel {char : Char} (member : char ∈ topLevel.toList) :
    isMark char = false := by
  have inside : (topLevel.toList.all fun letter => !isMark letter) = true := by decide
  have marked := List.all_eq_true.mp inside char member
  rwa [Bool.not_eq_true'] at marked

theorem folders_inside {written : String} {folder : List Char} (member : folder ∈ folders written) :
    folder ≠ [] ∧ ∀ char ∈ folder, isMark char = false := by
  unfold folders at member
  split at member
  · rw [List.mem_singleton] at member
    subst member
    exact ⟨by decide, fun _ within => not_isMark_of_mem_topLevel within⟩
  · obtain ⟨filled, inside⟩ := segments_inside member
    exact ⟨filled, fun char within => (inside char within).2⟩

/-- A character of a folder that is not the top level was written. -/
theorem mem_written_of_mem_folders {written : String} {folder : List Char}
    (member : folder ∈ folders written) :
    folder = topLevel.toList ∨ ∀ char ∈ folder, char ∈ written.toList := by
  unfold folders at member
  split at member
  · exact Or.inl (List.mem_singleton.mp member)
  · exact Or.inr fun char within => ((segments_inside member).2 char within).1

theorem normalize_toList (written : String) :
    (normalize written).toList = joinWith ['/'] (folders written) := by
  have joined := normalizeChars_eq_joinWith written.toList
  unfold normalize folders
  by_cases nothing : segments written.toList = []
  · rw [nothing] at joined
    simp only [joined, if_pos nothing]
    rfl
  · obtain ⟨first, more, hSegments⟩ := List.exists_cons_of_ne_nil nothing
    have filled : first ≠ [] :=
      (segments_inside (hSegments ▸ List.mem_cons_self)).1
    have notEmpty : (normalizeChars written.toList).isEmpty = false := by
      rw [joined, hSegments, joinWith_cons]
      cases first with
      | nil => exact absurd rfl filled
      | cons char rest => rfl
    simp only [notEmpty, Bool.false_eq_true, if_false, if_neg nothing, String.toList_ofList]
    exact joined

/-- Folders joined with slashes are read back as they are. -/
theorem segments_joinWith {pieces : List (List Char)}
    (inside : ∀ piece ∈ pieces, piece ≠ [] ∧ ∀ char ∈ piece, isMark char = false) :
    segments (joinWith ['/'] pieces) = pieces := by
  cases pieces with
  | nil => rfl
  | cons piece rest =>
      have splits := splitWhere_joinWith isMark isMark_slash (List.cons_ne_nil piece rest)
        fun other member => (inside other member).2
      simp only [segments, fieldsOf, splits]
      refine List.filter_eq_self.mpr fun other member => ?_
      simpa using (inside other member).1

theorem segments_normalize (written : String) :
    segments (normalize written).toList = folders written := by
  rw [normalize_toList]
  exact segments_joinWith fun piece member => folders_inside member

theorem folders_normalize (written : String) : folders (normalize written) = folders written := by
  rw [folders, segments_normalize, if_neg (folders_ne_nil written)]

theorem normalize_normalize (written : String) :
    normalize (normalize written) = normalize written := by
  apply String.toList_injective
  rw [normalize_toList, folders_normalize, normalize_toList]

/-- Folders with one of the separators between any two are told apart at that separator. -/
theorem splitWhere_joinWith_folders {mark : Char} (marks : isMark mark = true) (written : String) :
    splitWhere (· == mark) (joinWith [mark] (folders written)) = folders written := by
  apply splitWhere_joinWith (· == mark) (beq_self_eq_true mark) (folders_ne_nil written)
  intro folder listed char inside
  apply beq_eq_false_iff_ne.mpr
  intro same
  have unmarked := (folders_inside listed).2 char inside
  rw [same, marks] at unmarked
  cases unmarked

theorem splitWhere_normalize (written : String) :
    splitWhere (· == '/') (normalize written).toList = folders written := by
  rw [normalize_toList]
  exact splitWhere_joinWith_folders isMark_slash written

/-- Of the separators of a directory only the slash is left in its normal form. -/
theorem eq_slash_of_mem_normalize {written : String} {char : Char} (mark : isMark char = true)
    (member : char ∈ (normalize written).toList) : char = '/' := by
  rw [normalize_toList] at member
  rcases mem_of_mem_joinWith member with between | ⟨folder, listed, inside⟩
  · exact List.mem_singleton.mp between
  · have unmarked := (folders_inside listed).2 char inside
    rw [mark] at unmarked
    cases unmarked

theorem dot_not_mem_normalize (written : String) : '.' ∉ (normalize written).toList := by
  intro member
  exact absurd (eq_slash_of_mem_normalize rfl member) (by decide)

/-! ### Folders of views -/

/-- The folders that lead from the directory of all views to those of a controller directory. -/
def viewFolders (written : String) : List (List Char) :=
  match folders written with
  | [] => []
  | first :: rest => if first = topLevel.toList then rest else first :: rest

theorem mem_folders_of_mem_viewFolders {written : String} {folder : List Char}
    (member : folder ∈ viewFolders written) : folder ∈ folders written := by
  unfold viewFolders at member
  cases hFolders : folders written with
  | nil =>
      rw [hFolders] at member
      cases member
  | cons first rest =>
      rw [hFolders] at member
      simp only at member
      split at member
      · exact List.mem_cons_of_mem first member
      · exact member

/-- The folders are those of the views, with the top level in front or not. -/
theorem folders_eq_viewFolders (written : String) :
    folders written = viewFolders written ∨
      folders written = topLevel.toList :: viewFolders written := by
  unfold viewFolders
  cases folders written with
  | nil => exact Or.inl rfl
  | cons first rest =>
      by_cases top : first = topLevel.toList
      · subst top
        exact Or.inr rfl
      · left
        simp only [if_neg top]

theorem joinWith_append_mark {pieces : List (List Char)} (someLeft : pieces ≠ []) :
    joinWith ['/'] pieces ++ ['/'] = pieces.flatMap (· ++ ['/']) := by
  induction pieces with
  | nil => exact absurd rfl someLeft
  | cons piece rest ih =>
      cases rest with
      | nil => simp [joinWith]
      | cons next others =>
          rw [joinWith_cons_cons, List.append_assoc, ih (List.cons_ne_nil next others)]
          simp

theorem normalize_eq_topLevel_iff {written : String} :
    normalize written = topLevel ↔ folders written = [topLevel.toList] := by
  constructor
  · intro top
    rw [← segments_normalize, top]
    decide
  · intro top
    apply String.toList_injective
    rw [normalize_toList, top]
    rfl

theorem folders_of_topLevelStart {written : String} {rest : List Char}
    (starts : topLevelStart ++ rest = (normalize written).toList) :
    folders written = topLevel.toList :: segments rest := by
  have splits : splitWhere isMark (topLevel.toList ++ '/' :: rest) =
      topLevel.toList :: splitWhere isMark rest := by
    rw [splitWhere_append_separated isMark isMark_slash,
      splitWhere_of_none fun char within => not_isMark_of_mem_topLevel within]
    rfl
  have sameText : topLevelStart ++ rest = topLevel.toList ++ '/' :: rest :=
    List.append_assoc topLevel.toList ['/'] rest
  rw [← segments_normalize, ← starts, sameText, segments, fieldsOf, splits, segments, fieldsOf]
  exact List.filter_cons_of_pos (by decide)

/-- Is a directory the top level, or does it lie below it? -/
def IsInTopLevel (written : String) : Prop :=
  normalize written = topLevel ∨ topLevelStart <+: (normalize written).toList

instance (written : String) : Decidable (IsInTopLevel written) :=
  inferInstanceAs (Decidable (_ ∨ _))

/-- Below the top level, the folders of the views are the folders without the first. -/
theorem IsInTopLevel.folders_eq {written : String} (inside : IsInTopLevel written) :
    folders written = topLevel.toList :: viewFolders written := by
  rcases inside with top | ⟨rest, starts⟩
  · rw [viewFolders, normalize_eq_topLevel_iff.mp top]
    rfl
  · rw [viewFolders, folders_of_topLevelStart starts]
    simp only [if_true]

theorem viewFolders_eq_nil_iff {written : String} :
    viewFolders written = [] ↔ normalize written = topLevel := by
  constructor
  · intro nothing
    apply normalize_eq_topLevel_iff.mpr
    rcases folders_eq_viewFolders written with same | headed
    · exact absurd (same.trans nothing) (folders_ne_nil written)
    · rw [headed, nothing]
  · intro top
    rw [viewFolders, normalize_eq_topLevel_iff.mp top]
    rfl

/-- The sub-directory of views names its folders with a slash behind each. -/
theorem viewSubDir_normalize_toList (written : String) :
    (viewSubDir (normalize written)).toList = (viewFolders written).flatMap (· ++ ['/']) := by
  unfold viewSubDir
  rw [normalize_normalize]
  by_cases top : normalize written = topLevel
  · simp only [if_pos top]
    rw [viewFolders_eq_nil_iff.mpr top]
    rfl
  · simp only [if_neg top]
    by_cases starts : topLevelStart.isPrefixOf (normalize written).toList = true
    · obtain ⟨rest, hRest⟩ := List.isPrefixOf_iff_prefix.mp starts
      have hFolders := folders_of_topLevelStart hRest
      have someLeft : segments rest ≠ [] := by
        intro nothing
        apply top
        rw [normalize_eq_topLevel_iff, hFolders, nothing]
      have hText : (normalize written).toList =
          topLevelStart ++ joinWith ['/'] (segments rest) := by
        obtain ⟨first, more, hSegments⟩ := List.exists_cons_of_ne_nil someLeft
        rw [normalize_toList, hFolders, hSegments, joinWith_cons_cons]
        rfl
      rw [if_pos starts, String.toList_ofList, hText, List.drop_left, viewFolders, hFolders]
      simp only [if_true]
      exact joinWith_append_mark someLeft
    · rw [if_neg starts, String.toList_append, normalize_toList]
      have others : viewFolders written = folders written := by
        rcases folders_eq_viewFolders written with same | headed
        · exact same.symm
        · exfalso
          cases views : viewFolders written with
          | nil => exact top (viewFolders_eq_nil_iff.mp views)
          | cons first more =>
              apply starts
              rw [List.isPrefixOf_iff_prefix]
              refine ⟨joinWith ['/'] (first :: more), ?_⟩
              rw [normalize_toList, headed, views, joinWith_cons_cons]
              rfl
      rw [others]
      exact joinWith_append_mark (folders_ne_nil written)

/-! ### Characters -/

/-- A character that is no separator and not in the name of the top level comes from what is
written. -/
theorem mem_written_of_mem_folder {written : String} {folder : List Char}
    (listed : folder ∈ folders written) {char : Char} (member : char ∈ folder)
    (other : char ∉ topLevel.toList) : char ∈ written.toList := by
  rcases mem_written_of_mem_folders listed with isTop | within
  · rw [isTop] at member
    exact absurd member other
  · exact within char member

theorem mem_written_of_mem_normalize {written : String} {char : Char}
    (member : char ∈ (normalize written).toList) (noSlash : char ≠ '/')
    (other : char ∉ topLevel.toList) : char ∈ written.toList := by
  rw [normalize_toList] at member
  rcases mem_of_mem_joinWith member with between | ⟨folder, listed, inside⟩
  · exact absurd (List.mem_singleton.mp between) noSlash
  · exact mem_written_of_mem_folder listed inside other

theorem mem_written_of_mem_viewSubDir {written : String} {char : Char}
    (member : char ∈ (viewSubDir (normalize written)).toList) (noSlash : char ≠ '/')
    (other : char ∉ topLevel.toList) : char ∈ written.toList := by
  rw [viewSubDir_normalize_toList] at member
  obtain ⟨folder, listed, inside⟩ := List.mem_flatMap.mp member
  rcases List.mem_append.mp inside with inFolder | behind
  · exact mem_written_of_mem_folder (mem_folders_of_mem_viewFolders listed) inFolder other
  · exact absurd (List.mem_singleton.mp behind) noSlash

end EntityScaffold.ControllerDir
