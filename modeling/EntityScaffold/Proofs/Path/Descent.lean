import EntityScaffold.Path
import EntityScaffold.Proofs.Text.Pieces

/-
Descent along paths. Joining a text that does not begin with a separator leads down from the base by
the components of that text; joining one that does forgets the base. A path lies below another one
if names lead down to it, none of which leads up again.
-/

namespace EntityScaffold.Path

open Text

/-- The path that names lead down to. -/
def descend (base : Path) (names : List String) : Path := ⟨base.root, base.parts ++ names⟩

/-- Does a path lie strictly below another? Both start from the same root, at least one component
more leads to the lower one, and no component behind the upper one leads up. -/
def IsBelow (path base : Path) : Prop :=
  path.root = base.root ∧
    ∃ names, names ≠ [] ∧ ".." ∉ names ∧ path.parts = base.parts ++ names

/-- Is a path another one, or does it lie below it? -/
def IsWithin (path base : Path) : Prop := path.root = base.root ∧ base.parts <+: path.parts

instance (path base : Path) : Decidable (path.IsWithin base) :=
  inferInstanceAs (Decidable (_ ∧ _))

/-- Is a text a component that stays when a path is read? -/
def IsComponent (chars : List Char) : Prop := chars ≠ [] ∧ chars ≠ ['.'] ∧ '/' ∉ chars

instance (chars : List Char) : Decidable (IsComponent chars) :=
  inferInstanceAs (Decidable (_ ∧ _ ∧ _))

/-- Is a text a component that leads down? -/
def IsName (chars : List Char) : Prop := IsComponent chars ∧ chars ≠ ['.', '.']

instance (chars : List Char) : Decidable (IsName chars) :=
  inferInstanceAs (Decidable (_ ∧ _))

@[simp] theorem descend_parts (base : Path) (names : List String) :
    (base.descend names).parts = base.parts ++ names := rfl

theorem descend_descend (base : Path) (first second : List String) :
    (base.descend first).descend second = base.descend (first ++ second) := by
  simp only [descend, List.append_assoc]

theorem descend_inj {base : Path} {first second : List String} :
    base.descend first = base.descend second ↔ first = second := by
  rw [descend, descend, Path.mk.injEq, List.append_right_inj]
  exact and_iff_right rfl

theorem descend_isWithin_descend_iff {base : Path} {lower upper : List String} :
    (base.descend lower).IsWithin (base.descend upper) ↔ upper <+: lower := by
  rw [IsWithin, descend_parts, descend_parts, List.prefix_append_right_inj]
  exact and_iff_right rfl

theorem up_not_mem_descend {base : Path} {names : List String} (baseDown : ".." ∉ base.parts)
    (down : ".." ∉ names) : ".." ∉ (base.descend names).parts := by
  rw [descend_parts, List.mem_append, not_or]
  exact ⟨baseDown, down⟩

theorem isBelow_descend {base : Path} {names : List String} (someLeft : names ≠ [])
    (down : ".." ∉ names) : (base.descend names).IsBelow base :=
  ⟨rfl, names, someLeft, down, rfl⟩

/-! ### The end of a descent -/

section End

variable (base : Path) (names : List String) (last : String)

theorem name_descend_concat : (base.descend (names ++ [last])).name = last := by
  rw [name, descend_parts, ← List.append_assoc, List.getLast?_concat]
  rfl

theorem parent_descend_concat : (base.descend (names ++ [last])).parent = base.descend names := by
  rw [parent, descend_parts, ← List.append_assoc, List.dropLast_concat]
  rfl

/-- Seen from its start, a descent is the names that it goes by. -/
theorem relativeTo?_descend : (base.descend names).relativeTo? base = some ⟨.relative, names⟩ := by
  have begins : (decide (base.root = base.root) && base.parts.isPrefixOf (base.parts ++ names)) =
      true := by
    rw [decide_eq_true rfl, Bool.true_and]
    exact List.isPrefixOf_iff_prefix.mpr (List.prefix_append base.parts names)
  rw [relativeTo?, descend, if_pos begins, List.drop_left]

end End

/-! ### Stems -/

def stem (path : Path) : String :=
  String.ofList (path.name.toList.take (path.name.toList.length - (suffixOf path.name.toList).length))

theorem suffixOf_append {front extension : List Char} (someFront : front ≠ [])
    (someExtension : extension ≠ []) (noDot : '.' ∉ extension) :
    suffixOf (front ++ '.' :: extension) = '.' :: extension := by
  have behind : ∀ char ∈ extension.reverse, decide (char ≠ '.') = true := by
    intro char member
    refine decide_eq_true ?_
    rintro rfl
    exact noDot (List.mem_reverse.mp member)
  have last : (front ++ '.' :: extension).reverse.takeWhile (· ≠ '.') = extension.reverse := by
    rw [List.reverse_append, List.reverse_cons, List.append_assoc,
      List.takeWhile_append_of_pos behind]
    exact List.append_nil _
  have shown : (extension.isEmpty ||
      decide ((front ++ '.' :: extension).length ≤ extension.length + 1)) = false := by
    have frontLength := List.length_pos_iff.mpr someFront
    rw [List.isEmpty_eq_false_iff.mpr someExtension, Bool.false_or, decide_eq_false_iff_not,
      List.length_append, List.length_cons]
    omega
  unfold suffixOf
  dsimp only
  rw [last, List.reverse_reverse, shown]
  rfl

/-- The last dot of a name divides it into stem and suffix. -/
theorem stem_eq_of_name {path : Path} {front extension : List Char}
    (same : path.name.toList = front ++ '.' :: extension) (someFront : front ≠ [])
    (someExtension : extension ≠ []) (noDot : '.' ∉ extension) :
    path.stem = String.ofList front ∧ path.suffix = String.ofList ('.' :: extension) := by
  have divided := suffixOf_append someFront someExtension noDot
  rw [stem, suffix, same, divided]
  refine ⟨congrArg String.ofList ?_, rfl⟩
  rw [List.length_append, Nat.add_sub_cancel, List.take_left]

/-! ### Components -/

/-- A text with something else than a dot in it, and no separator, is a name. -/
theorem isName_of_mem {chars : List Char} (letter : Char) (member : letter ∈ chars)
    (different : letter ≠ '.') (plain : '/' ∉ chars) : IsName chars := by
  refine ⟨⟨List.ne_nil_of_mem member, ?_, plain⟩, ?_⟩
  · intro same
    rw [same] at member
    exact different (List.mem_singleton.mp member)
  · intro same
    rw [same] at member
    rcases List.mem_cons.mp member with dot | later
    · exact different dot
    · exact different (List.mem_singleton.mp later)

theorem isName_of_dot_not_mem {chars : List Char} (filled : chars ≠ []) (noDot : '.' ∉ chars)
    (plain : '/' ∉ chars) : IsName chars := by
  obtain ⟨letter, member⟩ := List.exists_mem_of_ne_nil chars filled
  exact isName_of_mem letter member (fun dot => noDot (dot ▸ member)) plain

theorem IsName.ne_up {name : String} (isName : IsName name.toList) : name ≠ ".." := by
  intro same
  subst same
  exact isName.2 rfl

theorem up_not_mem {names : List String} (down : ∀ name ∈ names, IsName name.toList) :
    ".." ∉ names := by
  intro member
  exact (down ".." member).ne_up rfl

theorem partsOf_append_separated (first second : List Char) :
    partsOf (first ++ '/' :: second) = partsOf first ++ partsOf second := by
  have mark : isSeparator '/' = true := rfl
  simp only [partsOf, splitWhere_append_separated isSeparator mark, List.filter_append,
    List.map_append]

/-- A text behind a component: its first piece extends the component, and the others follow. -/
theorem partsOf_append_of_isComponent {chars text first : List Char} {rest : List (List Char)}
    (component : IsComponent chars) (split : splitWhere isSeparator text = first :: rest) :
    partsOf (chars ++ text) = String.ofList (chars ++ first) ::
      (rest.filter fun piece => piece ≠ [] && piece ≠ ['.']).map String.ofList := by
  obtain ⟨filled, notHere, noSeparator⟩ := component
  have whole : splitWhere isSeparator (chars ++ text) = (chars ++ first) :: rest :=
    splitWhere_append_of_none (fun char member => beq_eq_false_iff_ne.mpr fun same =>
      noSeparator (same ▸ member)) split
  have kept : (decide (chars ++ first ≠ []) && decide (chars ++ first ≠ ['.'])) = true := by
    simp [filled, notHere, List.append_eq_singleton_iff]
  simp only [partsOf, whole, List.filter_cons, kept, if_true, List.map_cons]

theorem partsOf_of_isComponent {chars : List Char} (component : IsComponent chars) :
    partsOf chars = [String.ofList chars] := by
  have alone := partsOf_append_of_isComponent component
    (show splitWhere isSeparator [] = [[]] from rfl)
  rwa [List.append_nil] at alone

theorem partsOf_joinWith {pieces : List (List Char)}
    (components : ∀ piece ∈ pieces, IsComponent piece) :
    partsOf (joinWith ['/'] pieces) = pieces.map String.ofList := by
  induction pieces with
  | nil => rfl
  | cons piece rest ih =>
      have first := partsOf_of_isComponent (components piece List.mem_cons_self)
      have others := ih fun other member => components other (List.mem_cons_of_mem piece member)
      cases rest with
      | nil => exact first
      | cons next more =>
          rw [joinWith_cons_cons, List.append_assoc]
          change partsOf (piece ++ '/' :: joinWith ['/'] (next :: more)) = _
          rw [partsOf_append_separated, first, others]
          rfl

theorem partsOf_flatMap_append {pieces : List (List Char)}
    (components : ∀ piece ∈ pieces, IsComponent piece) (rest : List Char) :
    partsOf (pieces.flatMap (· ++ ['/']) ++ rest) = pieces.map String.ofList ++ partsOf rest := by
  induction pieces with
  | nil => rfl
  | cons piece others ih =>
      have first := partsOf_of_isComponent (components piece List.mem_cons_self)
      have later := ih fun other member => components other (List.mem_cons_of_mem piece member)
      rw [List.flatMap_cons, List.append_assoc, List.append_assoc]
      change partsOf (piece ++ '/' :: (others.flatMap (· ++ ['/']) ++ rest)) = _
      rw [partsOf_append_separated, first, later]
      rfl

/-! ### Joining -/

theorem rootOfChars_eq_relative_iff {chars : List Char} :
    Root.ofChars chars = .relative ↔ chars.head? ≠ some '/' := by
  cases chars with
  | nil => simp [Root.ofChars]
  | cons first rest =>
      by_cases slash : first = '/'
      · subst slash
        unfold Root.ofChars
        split <;> simp_all
      · have relative : Root.ofChars (first :: rest) = .relative := by
          unfold Root.ofChars
          split <;> simp_all
        simp [relative, slash]

theorem join_of_relative {text : String} (relative : text.toList.head? ≠ some '/') (base : Path) :
    base.join text = base.descend (partsOf text.toList) := by
  have root : (ofString text).root = .relative := rootOfChars_eq_relative_iff.mpr relative
  change append base (ofString text) = _
  simp only [append, isAbsolute, root, ne_eq, not_true_eq_false, decide_false, Bool.false_eq_true,
    if_false]
  rfl

theorem join_of_absolute {text : String} (absolute : text.toList.head? = some '/') (base : Path) :
    base.join text = ofString text := by
  have root : (ofString text).root ≠ .relative := fun relative =>
    rootOfChars_eq_relative_iff.mp relative absolute
  change append base (ofString text) = _
  simp only [append, isAbsolute, ne_eq, root, not_false_eq_true, decide_true, if_true]

theorem head?_ne_slash_of_isComponent {chars : List Char} (component : IsComponent chars) :
    chars.head? ≠ some '/' := by
  intro head
  exact component.2.2 (List.mem_of_head? head)

theorem join_of_isComponent {text : String} (component : IsComponent text.toList) (base : Path) :
    base.join text = base.descend [text] := by
  rw [join_of_relative (head?_ne_slash_of_isComponent component),
    partsOf_of_isComponent component, String.ofList_toList]

theorem mem_of_mem_partsOf {chars : List Char} {part : String} (listed : part ∈ partsOf chars)
    {char : Char} (member : char ∈ part.toList) : char ∈ chars := by
  obtain ⟨piece, kept, same⟩ := List.mem_map.mp listed
  rw [← same, String.toList_ofList] at member
  exact (mem_of_mem_splitWhere (List.mem_filter.mp kept).1 member).1

/-- The name of a joined path is made of the text, unless the text leads nowhere. -/
theorem mem_of_mem_name_join {base : Path} {text : String} {char : Char}
    (member : char ∈ (base.join text).name.toList) : char ∈ text.toList ∨ char ∈ base.name.toList := by
  have fromParts {part : String} (last : (partsOf text.toList).getLast? = some part)
      (inside : char ∈ part.toList) : char ∈ text.toList :=
    mem_of_mem_partsOf (List.mem_of_getLast? last) inside
  by_cases absolute : text.toList.head? = some '/'
  · rw [join_of_absolute absolute, name] at member
    change char ∈ ((partsOf text.toList).getLast?.getD "").toList at member
    cases last : (partsOf text.toList).getLast? with
    | none =>
        rw [last] at member
        cases member
    | some part =>
        rw [last] at member
        exact Or.inl (fromParts last member)
  · rw [join_of_relative absolute, name, descend_parts, List.getLast?_append] at member
    cases last : (partsOf text.toList).getLast? with
    | none =>
        rw [last, Option.none_or] at member
        exact Or.inr member
    | some part =>
        rw [last, Option.some_or] at member
        exact Or.inl (fromParts last member)

end EntityScaffold.Path
