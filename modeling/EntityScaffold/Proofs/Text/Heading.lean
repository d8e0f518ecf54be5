import EntityScaffold.Proofs.Text.LowerCase
import EntityScaffold.Proofs.Text.Pieces
import EntityScaffold.Text.Words

/-
What a heading holds. Breaking a name into words puts breaks into it, and the change of case makes
letters; every other mark of a heading is a mark of the name.
-/

namespace EntityScaffold.Text

theorem mem_breakBeforeCapitalised {chars : List Char} {char : Char}
    (member : char ∈ breakBeforeCapitalised chars) : char = '_' ∨ char ∈ chars := by
  fun_induction breakBeforeCapitalised chars with
  | case1 first capital small rest _ ih =>
      simp only [List.mem_cons, List.mem_append] at member ⊢
      rcases member with same | mark | same | same | taken | later
      · exact Or.inr (Or.inl same)
      · exact Or.inl mark
      · exact Or.inr (Or.inr (Or.inl same))
      · exact Or.inr (Or.inr (Or.inr (Or.inl same)))
      · exact Or.inr (Or.inr (Or.inr (Or.inr ((List.takeWhile_prefix _).subset taken))))
      · rcases ih later with mark | inside
        · exact Or.inl mark
        · exact Or.inr (Or.inr (Or.inr (Or.inr ((List.dropWhile_suffix _).subset inside))))
  | case2 first capital small rest _ ih =>
      rcases List.mem_cons.mp member with same | later
      · exact Or.inr (same ▸ List.mem_cons_self)
      · exact (ih later).imp_right (List.mem_cons_of_mem first)
  | case3 chars _ => exact Or.inr member

theorem mem_breakBeforeCapital {chars : List Char} {char : Char}
    (member : char ∈ breakBeforeCapital chars) : char = '_' ∨ char ∈ chars := by
  fun_induction breakBeforeCapital chars with
  | case1 first capital rest _ ih =>
      rcases List.mem_cons.mp member with same | later
      · exact Or.inr (same ▸ List.mem_cons_self)
      · rcases List.mem_cons.mp later with mark | inside
        · exact Or.inl mark
        · exact (ih inside).imp_right (List.mem_cons_of_mem first)
  | case2 first capital rest _ ih =>
      rcases List.mem_cons.mp member with same | later
      · exact Or.inr (same ▸ List.mem_cons_self)
      · exact (ih later).imp_right (List.mem_cons_of_mem first)
  | case3 chars _ => exact Or.inr member

theorem mem_of_mem_humanize {name : List Char} {char : Char} (member : char ∈ humanize name)
    (mark : char.toNat < leastRaised) (noSpace : char ≠ ' ') : char ∈ name := by
  have noBreak : char ≠ '_' := fun same => by
    subst same
    revert mark
    decide
  have isSmall : char.toNat < leastLowered := by
    simp only [leastRaised, leastLowered] at mark ⊢
    omega
  unfold humanize snakeCase at member
  have replaced := (mem_capitalizeFirst member).resolve_left (by omega)
  have lowered := (mem_replaceChar (mem_of_mem_trim replaced)).resolve_left noSpace
  have collapsed := (mem_of_mem_lower lowered isSmall).1
  have broken := (mem_collapseRuns collapsed).resolve_left noBreak
  exact (mem_breakBeforeCapitalised
    ((mem_breakBeforeCapital broken).resolve_left noBreak)).resolve_left noBreak

end EntityScaffold.Text
