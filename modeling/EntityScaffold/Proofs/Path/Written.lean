import EntityScaffold.Proofs.Path.Descent
import EntityScaffold.Proofs.Text.PlainText

/-
The text of a path. A path that was read keeps components only, and the text of such a path is read as
the path itself; so a path may be kept as a text. This holds of paths with surrogates as well.
-/

namespace EntityScaffold

open Text

namespace Path

/-- Is every part of a path one that stays when a path is read? -/
def IsRead (path : Path) : Prop := ∀ part ∈ path.parts, IsComponent part.toList

theorem isRead_ofString (text : String) : (ofString text).IsRead := by
  intro part listed
  obtain ⟨piece, kept, rfl⟩ := List.mem_map.1 listed
  obtain ⟨found, some⟩ := List.mem_filter.1 kept
  rw [String.toList_ofList]
  have filled : piece ≠ [] ∧ piece ≠ ['.'] := by simpa using some
  refine ⟨filled.1, filled.2, ?_⟩
  intro slash
  have inside := (mem_of_mem_splitWhere found slash).2
  exact absurd inside (by decide)

theorem intercalate_eq_joinWith {α : Type} (separator : List α) (pieces : List (List α)) :
    separator.intercalate pieces = joinWith separator pieces := by
  induction pieces with
  | nil => rfl
  | cons piece pieces ih =>
      cases pieces with
      | nil => simp [joinWith, List.intercalate]
      | cons next more => rw [List.intercalate_cons_cons, joinWith_cons_cons, ih]

theorem toList_joined (parts : List String) :
    ("/".intercalate parts).toList = joinWith ['/'] (parts.map String.toList) := by
  rw [String.toList_intercalate, intercalate_eq_joinWith]
  rfl

theorem rootOfChars_root_append (root : Root) {chars : List Char}
    (relative : Root.ofChars chars = .relative) :
    Root.ofChars (root.text.toList ++ chars) = root := by
  have noSlash := rootOfChars_eq_relative_iff.mp relative
  cases root with
  | relative => exact relative
  | single =>
      change Root.ofChars ('/' :: chars) = .single
      rw [Root.ofChars]
      · intro others same
        exact noSlash (by rw [same]; rfl)
      · intro others same
        exact noSlash (by rw [same]; rfl)
  | double =>
      change Root.ofChars ('/' :: '/' :: chars) = .double
      rw [Root.ofChars]
      intro others same
      exact noSlash (by rw [same]; rfl)

theorem partsOf_root_append (root : Root) (chars : List Char) :
    partsOf (root.text.toList ++ chars) = partsOf chars := by
  cases root with
  | relative => rfl
  | single => exact partsOf_append_separated [] chars
  | double =>
      change partsOf ([] ++ '/' :: ([] ++ '/' :: chars)) = _
      rw [partsOf_append_separated, partsOf_append_separated]
      rfl

/-- The root and the parts of a text that has one of the three roots in front of its parts. -/
theorem ofString_root_append (root : Root) {parts : List String}
    (components : ∀ part ∈ parts, IsComponent part.toList) :
    ofString (root.text ++ "/".intercalate parts) = ⟨root, parts⟩ := by
  have joined : partsOf (joinWith ['/'] (parts.map String.toList)) = parts := by
    rw [partsOf_joinWith, List.map_map]
    · exact (List.map_congr_left fun part _ => String.ofList_toList).trans (List.map_id parts)
    · intro piece listed
      obtain ⟨part, known, rfl⟩ := List.mem_map.1 listed
      exact components part known
  have begins : Root.ofChars (joinWith ['/'] (parts.map String.toList)) = .relative := by
    rw [rootOfChars_eq_relative_iff]
    cases parts with
    | nil => decide
    | cons part parts =>
        obtain ⟨filled, -, noSlash⟩ := components part List.mem_cons_self
        obtain ⟨first, rest, chars⟩ := List.exists_cons_of_ne_nil filled
        rw [List.map_cons, joinWith_cons, chars]
        rw [chars] at noSlash
        intro slash
        exact noSlash (List.mem_cons.2 (Or.inl (Option.some.inj slash).symm))
  rw [ofString, String.toList_append, toList_joined, rootOfChars_root_append root begins,
    partsOf_root_append, joined]

/-- A path that was read is the path of its text. -/
theorem ofString_toString {path : Path} (read : path.IsRead) : ofString path.toString = path := by
  obtain ⟨root, parts⟩ := path
  rw [toString]
  split
  · next bare =>
    simp only [Bool.and_eq_true, decide_eq_true_eq, List.isEmpty_iff] at bare
    rw [bare.1, bare.2]
    decide
  · exact ofString_root_append root read

/-! ### Seen from a directory

The text of a path that lies within the directory is a relative path, and joining it to the directory
leads back to the path; any other path is left as it is written. -/

section Relative

variable {path base : Path} {names : List String} {text directory : String}

/-- What lies within a path is reached from it by names. -/
theorem isWithin_iff_exists_descend : path.IsWithin base ↔ ∃ names, path = base.descend names := by
  constructor
  · rintro ⟨sameRoot, names, sameParts⟩
    refine ⟨names, ?_⟩
    rw [descend, sameParts, ← sameRoot]
  · rintro ⟨names, rfl⟩
    exact ⟨rfl, List.prefix_append base.parts names⟩

theorem isRead_descend_iff :
    (base.descend names).IsRead ↔ base.IsRead ∧ ∀ name ∈ names, IsComponent name.toList := by
  unfold IsRead
  rw [descend_parts, List.forall_mem_append]

theorem relativeTo?_of_not_isWithin (outside : ¬path.IsWithin base) : path.relativeTo? base = none := by
  unfold relativeTo?
  rw [if_neg]
  intro both
  obtain ⟨sameRoot, begins⟩ := Bool.and_eq_true_iff.mp both
  exact outside ⟨of_decide_eq_true sameRoot, List.isPrefixOf_iff_prefix.mp begins⟩

/-- The text of a path within a directory is read as the names that lead down to it. -/
theorem ofString_relativeText (below : ofString text = (ofString directory).descend names) :
    ofString (relativeText text directory) = ⟨.relative, names⟩ := by
  have read : (Path.mk .relative names).IsRead := by
    have whole := isRead_ofString text
    rw [below, isRead_descend_iff] at whole
    exact whole.2
  unfold relativeText
  rw [below, relativeTo?_descend]
  exact ofString_toString read

/-- Joining undoes the view from a directory. -/
theorem join_relativeText (within : (ofString text).IsWithin (ofString directory)) :
    (ofString (relativeText text directory)).isAbsolute = false ∧
      (ofString directory).join (relativeText text directory) = ofString text := by
  obtain ⟨names, below⟩ := isWithin_iff_exists_descend.mp within
  have read := ofString_relativeText below
  constructor
  · rw [read]
    rfl
  · rw [below, join, read]
    rfl

theorem relativeText_of_not_isWithin (outside : ¬(ofString text).IsWithin (ofString directory)) :
    relativeText text directory = text := by
  unfold relativeText
  rw [relativeTo?_of_not_isWithin outside]

end Relative

end Path

/-! ### Paths with surrogates -/

namespace CodePath

/-- Is every part of a path one that stays when a path is read? -/
def IsRead (path : CodePath) : Prop := ∀ part ∈ path.parts, part ≠ [] ∧ part ≠ here ∧ slash ∉ part

theorem isRead_ofCodeText (text : CodeText) : (ofCodeText text).IsRead := by
  intro part listed
  obtain ⟨found, some⟩ := List.mem_filter.mp listed
  obtain ⟨filled, notHere⟩ : part ≠ [] ∧ part ≠ here := by simpa using some
  refine ⟨filled, notHere, fun isSlash => ?_⟩
  have inside := (mem_of_mem_splitWhere found isSlash).2
  exact absurd inside (by decide)

theorem partsOf_append_separated (first second : CodeText) :
    partsOf (first ++ slash :: second) = partsOf first ++ partsOf second := by
  have mark : (slash == slash) = true := by decide
  rw [partsOf, splitWhere_append_separated (· == slash) mark, List.filter_append]
  rfl

theorem partsOf_root_append (root : Path.Root) (text : CodeText) :
    partsOf (CodeText.ofString root.text ++ text) = partsOf text := by
  cases root with
  | relative => rfl
  | single => exact partsOf_append_separated [] text
  | double =>
      change partsOf ([] ++ slash :: ([] ++ slash :: text)) = _
      rw [partsOf_append_separated, partsOf_append_separated]
      rfl

theorem partsOf_joinWith {parts : List CodeText}
    (components : ∀ part ∈ parts, part ≠ [] ∧ part ≠ here ∧ slash ∉ part) :
    partsOf (joinWith [slash] parts) = parts := by
  induction parts with
  | nil => rfl
  | cons part rest ih =>
      obtain ⟨⟨filled, notHere, noSlash⟩, others⟩ := List.forall_mem_cons.mp components
      have alone : partsOf part = [part] := by
        have inside : ∀ point ∈ part, (point == slash) = false := fun point member =>
          beq_eq_false_iff_ne.mpr fun same => noSlash (same ▸ member)
        rw [partsOf, splitWhere_of_none inside]
        simp [filled, notHere]
      cases rest with
      | nil => exact alone
      | cons next more =>
          rw [joinWith_cons_cons, List.append_assoc]
          change partsOf (part ++ slash :: joinWith [slash] (next :: more)) = _
          rw [partsOf_append_separated, alone, ih others]
          rfl

/-- A character that stands for a surrogate is no separator. -/
theorem slash_of_toChar?_getD {point : CodePoint} (same : point.toChar?.getD '\uFFFD' = '/') :
    point = slash := by
  cases found : point.toChar? with
  | none =>
      rw [found] at same
      cases same
  | some char =>
      rw [found, Option.getD_some] at same
      rw [← CodePoint.ofChar_eq_of_toChar? found, same]
      rfl

/-- A path that was read is the path of its text. -/
theorem ofCodeText_toCodeText {path : CodePath} (read : path.IsRead) :
    ofCodeText path.toCodeText = path := by
  obtain ⟨root, parts⟩ := path
  rw [toCodeText]
  split
  · next bare =>
    simp only [Bool.and_eq_true, decide_eq_true_eq, List.isEmpty_iff] at bare
    rw [bare.1, bare.2]
    decide
  · have begins : Path.Root.ofChars (CodeText.replacing (joinWith [slash] parts)) = .relative := by
      rw [Path.rootOfChars_eq_relative_iff]
      cases parts with
      | nil => decide
      | cons part rest =>
          obtain ⟨filled, -, noSlash⟩ := read part List.mem_cons_self
          obtain ⟨first, others, points⟩ := List.exists_cons_of_ne_nil filled
          rw [joinWith_cons, points]
          rw [points] at noSlash
          intro isSlash
          have same := slash_of_toChar?_getD (Option.some.inj isSlash)
          exact noSlash (same ▸ List.mem_cons_self)
    have replaced : CodeText.replacing (CodeText.ofString root.text ++ joinWith [slash] parts) =
        root.text.toList ++ CodeText.replacing (joinWith [slash] parts) := by
      rw [CodeText.replacing, List.map_append]
      exact congrArg (· ++ _) (CodeText.replacing_ofChars root.text.toList)
    rw [ofCodeText, replaced, Path.rootOfChars_root_append root begins, partsOf_root_append,
      partsOf_joinWith read]

end CodePath

end EntityScaffold
