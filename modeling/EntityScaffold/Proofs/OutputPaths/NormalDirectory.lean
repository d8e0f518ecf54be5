import EntityScaffold.Proofs.OutputPaths.Layout

/-
Paths and the normal form of a controller directory. The normal form is the only thing that a run
takes from a directory, so two directories with the same pieces lead to the same paths, or are refused
with the same entity name.
-/

namespace EntityScaffold

open Text

namespace ControllerDir

/-- The normal form of what is written: its pieces with a slash between any two, or the top level
where there is no piece. -/
structure IsNormalForm (written normal : String) : Prop where
  joined : segments written.toList ≠ [] → normal.toList = joinWith ['/'] (segments written.toList)
  nothing : segments written.toList = [] → normal = topLevel
  stable : normalize normal = normal
  filled : [] ∉ splitWhere (· == '/') normal.toList
  noDot : '.' ∉ normal.toList
  noBackslash : '\x5c' ∉ normal.toList

/-- The sub-directory of views that belongs to a normal directory: nothing for the top level itself,
and otherwise the directory with one top level taken off its front and a slash put behind it. -/
structure IsSubDirOf (subDir normal : String) : Prop where
  empty_iff : subDir = "" ↔ normal = topLevel
  below : normal ≠ topLevel → ∃ kept, subDir.toList = kept ++ ['/'] ∧
    if topLevelStart <+: normal.toList then normal.toList = topLevelStart ++ kept
    else normal.toList = kept

/-! ### The normal form -/

theorem isNormalForm_normalize (written : String) : IsNormalForm written (normalize written) where
  joined filled := by
    rw [normalize_toList, folders, if_neg filled]
  nothing empty := by
    rw [normalize_eq_topLevel_iff, folders, if_pos empty]
  stable := normalize_normalize written
  filled := by
    rw [splitWhere_normalize]
    exact fun member => (folders_inside member).1 rfl
  noDot := dot_not_mem_normalize written
  noBackslash member := absurd (eq_slash_of_mem_normalize rfl member) (by decide)

/-- Two directories have one normal form just when they have the same folders. -/
theorem normalize_eq_normalize_iff {first second : String} :
    normalize first = normalize second ↔ folders first = folders second := by
  constructor
  · intro same
    rw [← segments_normalize, ← segments_normalize, same]
  · intro same
    apply String.toList_injective
    rw [normalize_toList, normalize_toList, same]

theorem normalize_eq_of_segments_eq {first second : String}
    (same : segments first.toList = segments second.toList) : normalize first = normalize second := by
  rw [normalize_eq_normalize_iff, folders, folders, same]

/-! ### The sub-directory of views -/

theorem viewSubDir_normalize (written : String) :
    viewSubDir (normalize written) = viewSubDir written := by
  simp only [viewSubDir, normalize_normalize]

theorem viewSubDir_eq_empty_iff {written : String} :
    viewSubDir written = "" ↔ normalize written = topLevel := by
  rw [← viewFolders_eq_nil_iff, ← viewSubDir_normalize, ← String.toList_inj,
    viewSubDir_normalize_toList]
  cases viewFolders written with
  | nil => simp
  | cons first rest => simp

theorem isSubDirOf_viewSubDir (written : String) :
    IsSubDirOf (viewSubDir written) (normalize written) where
  empty_iff := viewSubDir_eq_empty_iff
  below other := by
    unfold viewSubDir
    simp only [if_neg other]
    by_cases starts : topLevelStart <+: (normalize written).toList
    · obtain ⟨kept, hKept⟩ := starts
      have prefixed : topLevelStart.isPrefixOf (normalize written).toList = true :=
        List.isPrefixOf_iff_prefix.mpr ⟨kept, hKept⟩
      refine ⟨kept, ?_, ?_⟩
      · rw [if_pos prefixed, String.toList_ofList, ← hKept, List.drop_left]
      · rw [if_pos ⟨kept, hKept⟩]
        exact hKept.symm
    · have unprefixed : ¬topLevelStart.isPrefixOf (normalize written).toList = true :=
        fun prefixed => starts (List.isPrefixOf_iff_prefix.mp prefixed)
      refine ⟨(normalize written).toList, ?_, ?_⟩
      · rw [if_neg unprefixed, String.toList_append]
        rfl
      · rw [if_neg starts]

end ControllerDir

namespace OutputPaths

variable {root : Path} {entity written other : String} {format : RoutingFormat}
  {extensions : Extensions} {paths : OutputPaths}

theorem resolve?_eq_of_normalize_eq
    (same : ControllerDir.normalize other = ControllerDir.normalize written) :
    resolve? root entity other format extensions = resolve? root entity written format extensions := by
  simp only [resolve?, same]

theorem subDir_of_resolve? (resolved : resolve? root entity written format extensions = some paths) :
    paths.subDir = ControllerDir.viewSubDir written := by
  have same := congrArg OutputPaths.subDir (eq_of_resolve? resolved).2
  simp only at same
  rw [same, ControllerDir.viewSubDir_normalize]

/-- The normal form of a directory is told by its pieces, the sub-directory of views by the normal
form, and directories with the same pieces resolve alike. -/
theorem directories_resolve_by_segments (written : String) :
    ControllerDir.IsNormalForm written (ControllerDir.normalize written) ∧
      ControllerDir.IsSubDirOf (ControllerDir.viewSubDir written)
        (ControllerDir.normalize written) ∧
      ∀ (root : Path) (entity : String) (format : RoutingFormat) (extensions : Extensions),
        (∀ paths, resolve? root entity written format extensions = some paths →
          ControllerDir.IsSubDirOf paths.subDir (ControllerDir.normalize written)) ∧
        ∀ other, ControllerDir.segments other.toList = ControllerDir.segments written.toList →
          resolve? root entity other format extensions =
            resolve? root entity written format extensions := by
  refine ⟨ControllerDir.isNormalForm_normalize written,
    ControllerDir.isSubDirOf_viewSubDir written, ?_⟩
  intro root entity format extensions
  constructor
  · intro paths resolved
    rw [subDir_of_resolve? resolved]
    exact ControllerDir.isSubDirOf_viewSubDir written
  · intro other same
    exact resolve?_eq_of_normalize_eq (ControllerDir.normalize_eq_of_segments_eq same)

/-- A directory with stray separators at both ends and mixed ones between its pieces. -/
theorem stray_separators_resolve_alike :
    resolve? (.ofString "b") "Blog.Post" "..Controller\x5c/Admin.\x5c" .yaml {} =
        resolve? (.ofString "b") "Blog.Post" "Controller/Admin" .yaml {} ∧
      ∃ paths, resolve? (.ofString "b") "Blog.Post" "Controller/Admin" .yaml {} = some paths ∧
        ControllerDir.IsSubDirOf paths.subDir (ControllerDir.normalize "Controller/Admin") := by
  have sameSegments : ControllerDir.segments "..Controller\x5c/Admin.\x5c".toList =
      ControllerDir.segments "Controller/Admin".toList := by decide
  obtain ⟨subDirs, alike⟩ := (directories_resolve_by_segments "Controller/Admin").2.2
    (.ofString "b") "Blog.Post" .yaml {}
  refine ⟨alike _ sameSegments, ?_⟩
  have resolves := isSome_resolve? (.ofString "b") "Controller/Admin" .yaml {}
    (show EntityName.split? "Blog.Post" = some ⟨"Blog", "Post"⟩ by decide)
  obtain ⟨paths, resolved⟩ := Option.isSome_iff_exists.mp resolves
  exact ⟨paths, resolved, subDirs paths resolved⟩

end OutputPaths

end EntityScaffold
