import EntityScaffold.Text.Words

/-
What a change of case can produce. An image is a letter from some letter on or lies beyond the ASCII
characters; a character without an image of its own stays as it is. So lower case makes no capital of
ASCII, and neither case makes a separator out of anything but that separator.
-/

namespace EntityScaffold.Text

/-- Do the images of a run lie among the characters from a least one on? -/
def CaseRun.isRaising (least : Nat) (run : CaseRun) : Bool :=
  least + run.down ≤ run.first + run.up &&
    (run.last + run.up < 0xD800 + run.down ||
      (0xE000 + run.down ≤ run.first + run.up && run.last + run.up < 0x110000 + run.down))

theorem toNat_ofNat_of_isValid {point : Nat} (valid : point.isValidChar) :
    (Char.ofNat point).toNat = point := by
  rw [Char.ofNat, dif_pos valid]
  rfl

/-- A run that raises makes characters, so that an image has the number that it is moved to. -/
theorem toNat_image_of_covers {least : Nat} {run : CaseRun} (raising : run.isRaising least = true)
    {point : Nat} (covered : run.covers point = true) :
    (Char.ofNat (point + run.up - run.down)).toNat = point + run.up - run.down := by
  simp only [CaseRun.isRaising, Bool.and_eq_true, Bool.or_eq_true, decide_eq_true_eq] at raising
  simp only [CaseRun.covers, Bool.and_eq_true, decide_eq_true_eq] at covered
  refine toNat_ofNat_of_isValid ?_
  simp only [Nat.isValidChar]
  omega

theorem least_le_of_covers {least : Nat} {run : CaseRun} (raising : run.isRaising least = true)
    {point : Nat} (covered : run.covers point = true) :
    least ≤ (Char.ofNat (point + run.up - run.down)).toNat := by
  rw [toNat_image_of_covers raising covered]
  simp only [CaseRun.isRaising, Bool.and_eq_true, decide_eq_true_eq] at raising
  simp only [CaseRun.covers, Bool.and_eq_true, decide_eq_true_eq] at covered
  omega

/-- An image comes from the table of longer images or from a run, or is the character itself. -/
theorem mapCase_cases {runs : List CaseRun} {expansions : List (Nat × List Nat)} {char image : Char}
    (member : image ∈ mapCase runs expansions char) :
    (∃ expansion ∈ expansions, ∃ point ∈ expansion.2, image = Char.ofNat point) ∨
      (∃ run ∈ runs, run.covers char.toNat = true ∧
        image = Char.ofNat (char.toNat + run.up - run.down)) ∨
      image = char := by
  unfold mapCase at member
  cases found : expansions.find? (·.1 == char.toNat) with
  | some expansion =>
      rw [found] at member
      obtain ⟨point, present, same⟩ := List.mem_map.mp member
      exact Or.inl ⟨expansion, List.mem_of_find?_eq_some found, point, present, same.symm⟩
  | none =>
      rw [found, List.mem_singleton] at member
      subst member
      right
      unfold shiftCase
      cases found : runs.find? (·.covers char.toNat) with
      | some run =>
          have covered := (List.find?_eq_some_iff_append.mp found).1
          exact Or.inl ⟨run, List.mem_of_find?_eq_some found, covered, rfl⟩
      | none => exact Or.inr (Char.ofNat_toNat char)

/-- A character is mapped to characters from a least one on, or to itself. -/
theorem mem_mapCase {least : Nat} {runs : List CaseRun} {expansions : List (Nat × List Nat)}
    (raising : runs.all (CaseRun.isRaising least) = true)
    (raised : ∀ expansion ∈ expansions, ∀ point ∈ expansion.2, least ≤ (Char.ofNat point).toNat)
    {char image : Char} (member : image ∈ mapCase runs expansions char) :
    least ≤ image.toNat ∨ image = char := by
  rcases mapCase_cases member with ⟨expansion, listed, point, present, rfl⟩ |
    ⟨run, listed, covered, rfl⟩ | same
  · exact Or.inl (raised expansion listed point present)
  · exact Or.inl (least_le_of_covers (List.all_eq_true.mp raising run listed) covered)
  · exact Or.inr same

/-- A character has an image when no longer image is empty. -/
theorem mapCase_ne_nil {runs : List CaseRun} {expansions : List (Nat × List Nat)}
    (filled : ∀ expansion ∈ expansions, expansion.2 ≠ []) (char : Char) :
    mapCase runs expansions char ≠ [] := by
  unfold mapCase
  cases found : expansions.find? (·.1 == char.toNat) with
  | some expansion =>
      exact fun empty => filled expansion (List.mem_of_find?_eq_some found)
        (List.map_eq_nil_iff.mp empty)
  | none => exact List.cons_ne_nil _ _

/-! ### ASCII -/

/-- What is checked for each character of ASCII holds of all of them. -/
theorem forall_ascii {holds : Char → Bool}
    (checked : ((List.range 128).all fun point => holds (Char.ofNat point)) = true) {char : Char}
    (ascii : char.toNat < 128) : holds char = true := by
  have known := List.all_eq_true.mp checked char.toNat (List.mem_range.mpr ascii)
  rwa [Char.ofNat_toNat] at known

/-- Only the first run of a table concerns ASCII, if all others begin beyond it. -/
theorem mapCase_of_ascii {run : CaseRun} {runs : List CaseRun} {expansions : List (Nat × List Nat)}
    (beyond : (runs.all fun other => 128 ≤ other.first) = true)
    (longer : (expansions.all fun expansion => 128 ≤ expansion.1) = true) {char : Char}
    (ascii : char.toNat < 128) :
    mapCase (run :: runs) expansions char = [Char.ofNat (shiftCase [run] char.toNat)] := by
  have unexpanded : expansions.find? (·.1 == char.toNat) = none := by
    rw [List.find?_eq_none]
    intro expansion listed same
    have large := of_decide_eq_true (List.all_eq_true.mp longer expansion listed)
    have isPoint : expansion.1 = char.toNat := beq_iff_eq.mp same
    omega
  have uncovered : runs.find? (·.covers char.toNat) = none := by
    rw [List.find?_eq_none]
    intro other listed covered
    have large := of_decide_eq_true (List.all_eq_true.mp beyond other listed)
    simp only [CaseRun.covers, Bool.and_eq_true, decide_eq_true_eq] at covered
    omega
  simp only [mapCase, shiftCase, unexpanded, List.find?_cons, uncovered, List.find?_nil]

/-! ### Lower case -/

def leastLowered : Nat := 0x61

/-- A character is mapped to small letters, to characters beyond ASCII, or to itself. -/
theorem mem_lowerChar {char image : Char} (member : image ∈ lowerChar char) :
    leastLowered ≤ image.toNat ∨ image = char :=
  mem_mapCase (by decide +kernel) (by decide) member

/-- What stands in a lowered text is an image of a character, or lies beyond ASCII as both small sigmas
do. -/
theorem lowerAfter_cases {before chars : List Char} {image : Char}
    (member : image ∈ lowerAfter before chars) :
    128 ≤ image.toNat ∨ ∃ char ∈ chars, image ∈ lowerChar char := by
  induction chars generalizing before with
  | nil => cases member
  | cons char rest ih =>
      rw [lowerAfter, List.mem_append] at member
      rcases member with here | later
      · by_cases sigma : char = 'Σ'
        · rw [if_pos sigma, List.mem_singleton] at here
          subst here
          left
          split <;> decide
        · rw [if_neg sigma] at here
          exact Or.inr ⟨char, List.mem_cons_self, here⟩
      · exact (ih later).imp_right fun ⟨other, present, inImage⟩ =>
          ⟨other, List.mem_cons_of_mem char present, inImage⟩

theorem mem_lowerAfter {before chars : List Char} {image : Char}
    (member : image ∈ lowerAfter before chars) :
    leastLowered ≤ image.toNat ∨ (image ∈ chars ∧ image ∈ lowerChar image) := by
  rcases lowerAfter_cases member with large | ⟨char, present, inImage⟩
  · exact Or.inl (Nat.le_trans (by decide) large)
  · rcases mem_lowerChar inImage with small | same
    · exact Or.inl small
    · subst same
      exact Or.inr ⟨present, inImage⟩

/-- What lower case leaves below the small letters was there before and is its own image. -/
theorem mem_of_mem_lower {chars : List Char} {image : Char} (member : image ∈ lower chars)
    (small : image.toNat < leastLowered) : image ∈ chars ∧ image ∈ lowerChar image := by
  rcases mem_lowerAfter member with large | origin
  · omega
  · exact origin

/-- Does a run lead to small letters of ASCII or beyond ASCII? -/
def CaseRun.isLowering (run : CaseRun) : Bool :=
  128 + run.down ≤ run.first + run.up || run.last + run.up ≤ 0x7A + run.down

theorem isAsciiLower_of_toNat {char : Char} (least : leastLowered ≤ char.toNat)
    (most : char.toNat ≤ 0x7A) : isAsciiLower char = true := by
  rw [isAsciiLower, Bool.and_eq_true, decide_eq_true_eq, decide_eq_true_eq]
  exact ⟨least, most⟩

/-- All that lower case makes of other characters are small letters of ASCII or lies beyond it. -/
theorem isAsciiLower_of_mem_lowerChar {char image : Char} (member : image ∈ lowerChar char)
    (other : image ≠ char) : isAsciiLower image = true ∨ 128 ≤ image.toNat := by
  have raising : lowerRuns.all (CaseRun.isRaising leastLowered) = true := by decide +kernel
  have lowering : lowerRuns.all CaseRun.isLowering = true := by decide +kernel
  have expanded : ∀ expansion ∈ lowerExpansions, ∀ point ∈ expansion.2,
      isAsciiLower (Char.ofNat point) = true ∨ 128 ≤ (Char.ofNat point).toNat := by decide
  rcases mapCase_cases member with ⟨expansion, listed, point, present, rfl⟩ |
    ⟨run, listed, covered, rfl⟩ | same
  · exact expanded expansion listed point present
  · have raises := List.all_eq_true.mp raising run listed
    have lowers := List.all_eq_true.mp lowering run listed
    have least := least_le_of_covers raises covered
    have number := toNat_image_of_covers raises covered
    simp only [CaseRun.isLowering, Bool.or_eq_true, decide_eq_true_eq] at lowers
    simp only [CaseRun.covers, Bool.and_eq_true, decide_eq_true_eq] at covered
    rcases lowers with beyond | small
    · right
      omega
    · left
      exact isAsciiLower_of_toNat least (by omega)
  · exact absurd same other

/-- In ASCII, a lowered text has only small letters that were not there before. -/
theorem isAsciiLower_of_mem_lower {chars : List Char} {image : Char} (member : image ∈ lower chars)
    (new : image ∉ chars) : isAsciiLower image = true ∨ 128 ≤ image.toNat := by
  rcases lowerAfter_cases member with beyond | ⟨char, present, inImage⟩
  · exact Or.inr beyond
  · exact isAsciiLower_of_mem_lowerChar inImage fun same => new (same ▸ present)

theorem lower_ne_nil {chars : List Char} (filled : chars ≠ []) : lower chars ≠ [] := by
  obtain ⟨char, rest, rfl⟩ := List.exists_cons_of_ne_nil filled
  rw [lower, lowerAfter]
  refine List.append_ne_nil_of_left_ne_nil ?_ _
  split
  · exact List.cons_ne_nil _ _
  · exact mapCase_ne_nil (by decide) char

/-- The first letter of the word that ends the names of controllers is a capital. -/
theorem capital_not_mem_lower (chars : List Char) : 'C' ∉ lower chars := by
  intro member
  have fixed := (mem_of_mem_lower member (by decide)).2
  revert fixed
  decide +kernel

theorem lowerChar_of_ascii {char : Char} (ascii : char.toNat < 128) :
    lowerChar char = [char.toLower] := by
  have shifted := @forall_ascii
    (fun char => Char.ofNat (shiftCase (lowerRuns.take 1) char.toNat) == char.toLower)
    (by decide +kernel) char ascii
  exact (mapCase_of_ascii (by decide +kernel) (by decide +kernel) ascii).trans
    (congrArg (fun letter => [letter]) (beq_iff_eq.mp shifted))

/-- In ASCII, no letter depends on its neighbours. -/
theorem lower_of_ascii {chars : List Char} (ascii : ∀ char ∈ chars, char.toNat < 128) :
    lower chars = chars.map Char.toLower := by
  suffices each : ∀ before, lowerAfter before chars = chars.map Char.toLower from each []
  induction chars with
  | nil => exact fun _ => rfl
  | cons char rest ih =>
      obtain ⟨here, later⟩ := List.forall_mem_cons.mp ascii
      have noSigma : char ≠ 'Σ' := by
        rintro rfl
        revert here
        decide
      intro before
      rw [lowerAfter, if_neg noSigma, lowerChar_of_ascii here, ih later, List.map_cons]
      rfl

/-! ### Upper case -/

def leastRaised : Nat := 0x41

theorem mem_upperChar {char image : Char} (member : image ∈ upperChar char) :
    leastRaised ≤ image.toNat ∨ image = char :=
  mem_mapCase (by decide +kernel) (by decide +kernel) member

theorem upperChar_of_ascii {char : Char} (ascii : char.toNat < 128) :
    upperChar char = [char.toUpper] := by
  have shifted := @forall_ascii
    (fun char => Char.ofNat (shiftCase (upperRuns.take 1) char.toNat) == char.toUpper)
    (by decide +kernel) char ascii
  exact (mapCase_of_ascii (by decide +kernel) (by decide +kernel) ascii).trans
    (congrArg (fun letter => [letter]) (beq_iff_eq.mp shifted))

theorem mem_capitalizeFirst {chars : List Char} {image : Char}
    (member : image ∈ capitalizeFirst chars) : leastRaised ≤ image.toNat ∨ image ∈ chars := by
  cases chars with
  | nil => cases member
  | cons char rest =>
      rcases List.mem_append.mp member with first | later
      · rcases mem_upperChar first with letter | same
        · exact Or.inl letter
        · exact Or.inr (same ▸ List.mem_cons_self)
      · exact Or.inr (List.mem_cons_of_mem char later)

end EntityScaffold.Text
