import EntityScaffold.Proofs.Text.LowerCase
import EntityScaffold.Proofs.Text.Pieces

/-
Ends of words in lower case. Slashes and underscores have no case, and a sigma that looks for a letter
stops at them, so that a sigma in front of one ends a word. Hence it makes no difference whether one is
put for the other before a text is lowered or afterwards. That does not hold of a point, which a sigma
passes over.
-/

namespace EntityScaffold.Text

/-- A character without case, which a sigma does not look past, and that no other character becomes. -/
structure IsWordEnd (char : Char) : Prop where
  uncased : isCased char = false
  seen : isCaseIgnorable char = false
  fixed : lowerChar char = [char]
  small : char.toNat < leastLowered

theorem isWordEnd_slash : IsWordEnd '/' :=
  ⟨by decide +kernel, by decide +kernel, by decide +kernel, by decide⟩

theorem isWordEnd_underscore : IsWordEnd '_' :=
  ⟨by decide +kernel, by decide +kernel, by decide +kernel, by decide⟩

variable {old new : Char} {chars : List Char}

theorem meetsCased_cons (char : Char) (rest : List Char) :
    meetsCased (char :: rest) = if isCaseIgnorable char then meetsCased rest else isCased char := by
  unfold meetsCased
  rw [List.dropWhile_cons]
  cases isCaseIgnorable char <;> rfl

section Replacing

variable (before : IsWordEnd old) (after : IsWordEnd new)

include before after

theorem meetsCased_replaceChar (chars : List Char) :
    meetsCased (replaceChar old new chars) = meetsCased chars := by
  induction chars with
  | nil => rfl
  | cons char rest ih =>
      rw [replaceChar_cons, meetsCased_cons, meetsCased_cons, ih]
      by_cases same : char = old
      · rw [if_pos same, same, after.seen, after.uncased, before.seen, before.uncased]
      · rw [if_neg same]

theorem isFinalSigma_replaceChar (left right : List Char) :
    isFinalSigma (replaceChar old new left) (replaceChar old new right) =
      isFinalSigma left right := by
  unfold isFinalSigma
  rw [meetsCased_replaceChar before after, meetsCased_replaceChar before after]

omit after in
theorem IsWordEnd.mem_lowerChar_iff {char : Char} : old ∈ lowerChar char ↔ char = old := by
  constructor
  · intro member
    rcases mem_lowerChar member with large | same
    · exact absurd before.small (Nat.not_lt.mpr large)
    · exact same.symm
  · rintro rfl
    rw [before.fixed]
    exact List.mem_singleton.mpr rfl

theorem lowerChar_replaced (char : Char) :
    lowerChar (if char = old then new else char) = replaceChar old new (lowerChar char) := by
  by_cases same : char = old
  · rw [if_pos same, same, before.fixed, after.fixed, replaceChar_cons, if_pos rfl]
    rfl
  · rw [if_neg same, replaceChar_of_not_mem fun member => same (before.mem_lowerChar_iff.mp member)]

omit after in
theorem IsWordEnd.ne_of_isCased {letter : Char} (cased : isCased letter = true) : letter ≠ old := by
  rintro rfl
  exact Bool.false_ne_true (before.uncased.symm.trans cased)

omit after in
theorem IsWordEnd.replaceChar_letter {letter : Char} (cased : isCased letter = true) :
    replaceChar old new [letter] = [letter] :=
  replaceChar_of_not_mem fun member => before.ne_of_isCased cased (List.mem_singleton.mp member).symm

theorem lowerAfter_replaceChar (left chars : List Char) :
    lowerAfter (replaceChar old new left) (replaceChar old new chars) =
      replaceChar old new (lowerAfter left chars) := by
  have capital : isCased 'Σ' = true := by decide +kernel
  have final : isCased 'ς' = true := by decide +kernel
  have medial : isCased 'σ' = true := by decide +kernel
  -- a sigma looks at what stands in front, so that is replaced along with the rest
  induction chars generalizing left with
  | nil => rfl
  | cons char rest ih =>
      have later := ih (char :: left)
      rw [replaceChar_cons] at later
      rw [replaceChar_cons, lowerAfter, lowerAfter, replaceChar_append, later]
      congr 1
      by_cases sigma : char = 'Σ'
      · subst sigma
        rw [if_neg (before.ne_of_isCased capital), if_pos rfl, if_pos rfl,
          isFinalSigma_replaceChar before after]
        split
        · exact (before.replaceChar_letter final).symm
        · exact (before.replaceChar_letter medial).symm
      · have noSigma : (if char = old then new else char) ≠ 'Σ' := by
          split
          · exact fun same => after.ne_of_isCased capital same.symm
          · exact sigma
        rw [if_neg noSigma, if_neg sigma, lowerChar_replaced before after]

/-- One word end may be put for another before a text is lowered or afterwards. -/
theorem lower_replaceChar (chars : List Char) :
    lower (replaceChar old new chars) = replaceChar old new (lower chars) :=
  lowerAfter_replaceChar before after [] chars

end Replacing

/-- A sigma passes over a point to the letter behind it, and stops at an underscore. -/
example : lower (replaceChar '.' '_' ['Α', 'Σ', '.', 'Α']) ≠
    replaceChar '.' '_' (lower ['Α', 'Σ', '.', 'Α']) := by decide +kernel

theorem mem_lowerAfter_of_mem {char : Char} (noSigma : char ≠ 'Σ') (fixed : lowerChar char = [char])
    {before : List Char} (member : char ∈ chars) : char ∈ lowerAfter before chars := by
  induction chars generalizing before with
  | nil => cases member
  | cons first rest ih =>
      rw [lowerAfter, List.mem_append]
      rcases List.mem_cons.mp member with rfl | later
      · left
        rw [if_neg noSigma, fixed]
        exact List.mem_singleton.mpr rfl
      · exact Or.inr (ih later)

theorem IsWordEnd.mem_lower_iff {char : Char} (ends : IsWordEnd char) :
    char ∈ lower chars ↔ char ∈ chars := by
  constructor
  · exact fun member => (mem_of_mem_lower member ends.small).1
  · refine mem_lowerAfter_of_mem ?_ ends.fixed
    rintro rfl
    exact absurd ends.small (by decide)

end EntityScaffold.Text
