import EntityScaffold.EntityName
import EntityScaffold.Proofs.Text.Pieces

/-
The segments of an entity name. The class is what stands behind the last dot, so it holds no dot, and
the name is its namespace and its class with that dot between them. A regular name is one whose
segments are all filled and hold no slash.
-/

namespace EntityScaffold.EntityName

open Text

/-- A dotted name whose segments are not empty and hold no slash. -/
def IsRegular (dotted : String) : Prop :=
  ∀ segment ∈ splitWhere (· == '.') dotted.toList, segment ≠ [] ∧ '/' ∉ segment

instance (dotted : String) : Decidable (IsRegular dotted) :=
  inferInstanceAs (Decidable (∀ segment ∈ _, _))

theorem dot_not_mem_classChars (dotted : List Char) : '.' ∉ classChars dotted := by
  intro member
  rw [classChars, List.mem_reverse] at member
  have kept := List.all_eq_true.mp
    (List.all_takeWhile (p := fun char : Char => decide (char ≠ '.')) (l := dotted.reverse)) '.' member
  revert kept
  decide

/-- A name without a dot is a class; any other has its namespace, a dot and its class. -/
theorem eq_classChars_or_append (dotted : List Char) :
    (nameSpaceChars dotted = [] ∧ dotted = classChars dotted) ∨
      dotted = nameSpaceChars dotted ++ '.' :: classChars dotted := by
  have whole : dotted.reverse.takeWhile (· ≠ '.') ++ dotted.reverse.dropWhile (· ≠ '.') =
      dotted.reverse := List.takeWhile_append_dropWhile
  unfold nameSpaceChars classChars
  cases behind : dotted.reverse.dropWhile (· ≠ '.') with
  | nil =>
      rw [behind, List.append_nil] at whole
      rw [whole, List.reverse_reverse]
      exact Or.inl ⟨rfl, rfl⟩
  | cons mark front =>
      have isDot : mark = '.' := by
        have stops := List.head?_dropWhile_not (fun char : Char => decide (char ≠ '.')) dotted.reverse
        rw [behind] at stops
        simpa using stops
      subst isDot
      right
      rw [behind] at whole
      have turned := congrArg List.reverse whole
      rw [List.reverse_reverse] at turned
      rw [List.reverse_append, List.reverse_cons, List.append_assoc] at turned
      exact turned.symm

theorem splitWhere_classChars (dotted : List Char) :
    splitWhere (· == '.') (classChars dotted) = [classChars dotted] := by
  refine splitWhere_of_none fun char member => beq_eq_false_iff_ne.mpr fun same => ?_
  subst same
  exact dot_not_mem_classChars dotted member

/-- The last segment is the class, and those in front of it are the segments of the namespace. -/
theorem splitWhere_eq_append_classChars (dotted : List Char) :
    ∃ front, splitWhere (· == '.') dotted = front ++ [classChars dotted] ∧
      (front = splitWhere (· == '.') (nameSpaceChars dotted) ∨
        (front = [] ∧ nameSpaceChars dotted = [])) := by
  rcases eq_classChars_or_append dotted with ⟨nothing, whole⟩ | whole
  · refine ⟨[], ?_, Or.inr ⟨rfl, nothing⟩⟩
    rw [congrArg (splitWhere (· == '.')) whole, splitWhere_classChars]
    rfl
  · refine ⟨splitWhere (· == '.') (nameSpaceChars dotted), ?_, Or.inl rfl⟩
    have isDot : (fun char => char == '.') '.' = true := rfl
    rw [congrArg (splitWhere (· == '.')) whole, splitWhere_append_separated (· == '.') isDot,
      splitWhere_classChars]

theorem split?_eq_some_iff {dotted : String} {name : EntityName} :
    split? dotted = some name ↔
      classChars dotted.toList ≠ [] ∧
        name = ⟨String.ofList (nameSpaceChars dotted.toList),
          String.ofList (classChars dotted.toList)⟩ := by
  unfold split?
  by_cases empty : classChars dotted.toList = []
  · simp [empty]
  · have filled : (classChars dotted.toList).isEmpty = false := by
      simpa using empty
    simp only [filled, Bool.false_eq_true, if_false, Option.some.injEq]
    constructor
    · intro same
      exact ⟨empty, same.symm⟩
    · intro both
      exact both.2.symm

theorem mem_of_mem_classChars {dotted : List Char} {char : Char}
    (member : char ∈ classChars dotted) : char ∈ dotted := by
  rcases eq_classChars_or_append dotted with ⟨_, whole⟩ | whole
  · rw [whole]
    exact member
  · rw [whole]
    exact List.mem_append_right _ (List.mem_cons_of_mem _ member)

theorem mem_of_mem_nameSpaceChars {dotted : List Char} {char : Char}
    (member : char ∈ nameSpaceChars dotted) : char ∈ dotted := by
  rcases eq_classChars_or_append dotted with ⟨nothing, _⟩ | whole
  · rw [nothing] at member
    cases member
  · rw [whole]
    exact List.mem_append_left _ member

/-! ### Regular names -/

namespace IsRegular

variable {dotted : String}

theorem classChars_ne_nil (regular : IsRegular dotted) : classChars dotted.toList ≠ [] := by
  obtain ⟨front, pieces, _⟩ := splitWhere_eq_append_classChars dotted.toList
  have hClass : classChars dotted.toList ∈ splitWhere (· == '.') dotted.toList := by
    rw [pieces]
    exact List.mem_append_right front (List.mem_singleton.mpr rfl)
  exact (regular _ hClass).1

theorem nil_not_mem_splitWhere (regular : IsRegular dotted) :
    [] ∉ splitWhere (· == '.') dotted.toList :=
  fun member => (regular [] member).1 rfl

theorem slash_not_mem (regular : IsRegular dotted) : '/' ∉ dotted.toList := by
  intro member
  obtain ⟨piece, listed, within⟩ := exists_piece_of_mem (· == '.') member rfl
  exact (regular piece listed).2 within

theorem head?_ne_dot (regular : IsRegular dotted) : dotted.toList.head? ≠ some '.' := by
  intro head
  obtain ⟨rest, hRest⟩ := List.head?_eq_some_iff.mp head
  have isDot : (fun char => char == '.') '.' = true := rfl
  have empty : [] ∈ splitWhere (· == '.') dotted.toList := by
    rw [hRest, splitWhere_cons_of_separates (· == '.') rest isDot]
    exact List.mem_cons_self
  exact regular.nil_not_mem_splitWhere empty

end IsRegular

end EntityScaffold.EntityName
