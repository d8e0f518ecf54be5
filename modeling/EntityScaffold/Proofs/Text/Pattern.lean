/-
Patterns in a text. A pattern is fixed text with gaps in it; a gap ends with its line, or where the
text that closes it begins. What a pattern says about a text are the gaps of its occurrences, from
the first to the last, a line break being put in front so that the first line begins like all others.
A block of whole lines says the same wherever it stands, and blocks say what each of them says.
-/

namespace EntityScaffold.Text

/-- A block of text says something to a reader, whatever stands below it. -/
def Says {Said : Type} (read : List Char → List Said) (block : List Char) (said : List Said) : Prop :=
  ∀ below, read (block ++ below) = said ++ read below

namespace Says

variable {Said : Type} {read : List Char → List Said} {first second : List Char}
  {said more : List Said}

theorem nil (read : List Char → List Said) : Says read [] [] := fun _ => rfl

theorem append (here : Says read first said) (later : Says read second more) :
    Says read (first ++ second) (said ++ more) := by
  intro below
  rw [List.append_assoc, here, later, List.append_assoc]

theorem flatMap {Item : Type} {items : List Item} {block : Item → List Char}
    {sayings : Item → List Said} (each : ∀ item ∈ items, Says read (block item) (sayings item)) :
    Says read (items.flatMap block) (items.flatMap sayings) := by
  induction items with
  | nil => exact nil read
  | cons item rest ih =>
      obtain ⟨here, later⟩ := List.forall_mem_cons.mp each
      rw [List.flatMap_cons, List.flatMap_cons]
      exact here.append (ih later)

theorem read_eq (block : Says read first said) (nothing : read [] = []) : read first = said := by
  have whole := block []
  rwa [List.append_nil, nothing, List.append_nil] at whole

end Says

/-- A pattern opens with a text; each further text closes a gap in front of it. -/
structure Pattern where
  opening : List Char
  closings : List (List Char)

namespace Pattern

def ofTexts (opening : String) (closings : List String) : Pattern :=
  ⟨opening.toList, closings.map String.toList⟩

/-- Is a character in a gap, not at its end? -/
def isInside (closing : List Char) (char : Char) : Bool :=
  char != '\n' && closing.head? != some char

def behind? : List Char → List Char → Option (List Char)
  | [], text => some text
  | mark :: start, char :: rest => if mark = char then behind? start rest else none
  | _ :: _, [] => none

/-- The gaps that some texts close, and what stands behind the last of them. -/
def follow? : List (List Char) → List Char → Option (List (List Char) × List Char)
  | [], text => some ([], text)
  | closing :: more, text =>
    match behind? closing (text.dropWhile (isInside closing)) with
    | none => none
    | some rest => (follow? more rest).map fun found =>
      (text.takeWhile (isInside closing) :: found.1, found.2)

/-- The gaps of a pattern at the start of a text, and what stands behind the pattern. -/
def match? (pattern : Pattern) (text : List Char) : Option (List (List Char) × List Char) :=
  (behind? pattern.opening text).bind (follow? pattern.closings)

/-- The gaps of all occurrences, each with what stands behind it. -/
def occurrences (pattern : Pattern) : List Char → List (List (List Char) × List Char)
  | [] => []
  | char :: rest => (pattern.match? (char :: rest)).toList ++ pattern.occurrences rest

def gapsAt (pattern : Pattern) (text : List Char) : List (List (List Char)) :=
  (pattern.occurrences text).map Prod.fst

/-- The gaps of all occurrences in the lines of a text. -/
def gapsIn (pattern : Pattern) (text : List Char) : List (List (List Char)) :=
  pattern.gapsAt ('\n' :: text)

/-- What stands behind the last occurrence in the lines of a text, with its gaps. -/
def last? (pattern : Pattern) (text : List Char) : Option (List (List Char) × List Char) :=
  (pattern.occurrences ('\n' :: text)).getLast?

variable {pattern : Pattern} {start text : List Char}

theorem behind?_eq_some_iff {rest : List Char} :
    behind? start text = some rest ↔ text = start ++ rest := by
  induction start generalizing text with
  | nil => simp [behind?, eq_comm]
  | cons mark start ih =>
      cases text with
      | nil => simp [behind?]
      | cons char others =>
          by_cases same : mark = char
          · subst same
            simp [behind?, ih]
          · have different : ¬char = mark := fun other => same other.symm
            simp [behind?, same, different]

theorem behind?_append (start rest : List Char) : behind? start (start ++ rest) = some rest :=
  behind?_eq_some_iff.mpr rfl

theorem behind?_eq_none (absent : ¬start <+: text) : behind? start text = none := by
  cases found : behind? start text with
  | none => rfl
  | some rest => exact absurd ⟨rest, (behind?_eq_some_iff.mp found).symm⟩ absent

theorem match?_eq_none (absent : ¬pattern.opening <+: text) : pattern.match? text = none := by
  unfold match?
  rw [behind?_eq_none absent]
  rfl

theorem match?_append (rest : List Char) :
    pattern.match? (pattern.opening ++ rest) = follow? pattern.closings rest := by
  unfold match?
  rw [behind?_append]
  rfl

theorem follow?_cons {closing gap : List Char} {more : List (List Char)} (filled : closing ≠ [])
    (inside : ∀ char ∈ gap, isInside closing char = true) (rest : List Char) :
    follow? (closing :: more) (gap ++ (closing ++ rest)) =
      (follow? more rest).map fun found => (gap :: found.1, found.2) := by
  obtain ⟨mark, others, same⟩ := List.exists_cons_of_ne_nil filled
  have stops : isInside closing mark = false := by
    simp [isInside, same]
  have taken : (gap ++ (closing ++ rest)).takeWhile (isInside closing) = gap := by
    rw [List.takeWhile_append_of_pos inside]
    rw [same, List.cons_append, List.takeWhile_cons_of_neg (by rw [← same, stops]; decide),
      List.append_nil]
  have dropped : (gap ++ (closing ++ rest)).dropWhile (isInside closing) = closing ++ rest := by
    rw [List.dropWhile_append_of_pos inside]
    rw [same, List.cons_append, List.dropWhile_cons_of_neg (by rw [← same, stops]; decide)]
  rw [follow?, taken, dropped, behind?_append]

theorem occurrences_cons (char : Char) (rest : List Char) :
    pattern.occurrences (char :: rest) =
      (pattern.match? (char :: rest)).toList ++ pattern.occurrences rest := rfl

/-- What stands in front of a text adds occurrences in front of its own. -/
theorem exists_occurrences_append (front text : List Char) :
    ∃ earlier, pattern.occurrences (front ++ text) = earlier ++ pattern.occurrences text := by
  induction front with
  | nil => exact ⟨[], rfl⟩
  | cons char rest ih =>
      obtain ⟨earlier, same⟩ := ih
      refine ⟨(pattern.match? (char :: (rest ++ text))).toList ++ earlier, ?_⟩
      rw [List.cons_append, occurrences_cons, same, List.append_assoc]

theorem occurrences_append_of_absent {mark : Char} {others front : List Char}
    (opens : pattern.opening = mark :: others) (absent : mark ∉ front) (text : List Char) :
    pattern.occurrences (front ++ text) = pattern.occurrences text := by
  induction front with
  | nil => rfl
  | cons char rest ih =>
      obtain ⟨different, later⟩ := List.ne_and_not_mem_of_not_mem_cons absent
      have noMatch : pattern.match? (char :: (rest ++ text)) = none := by
        refine match?_eq_none fun begins => ?_
        rw [opens, List.cons_prefix_cons] at begins
        exact different begins.1
      rw [List.cons_append, occurrences_cons, noMatch, ih later]
      rfl

theorem occurrences_eq_nil_of_gapsIn (nothing : pattern.gapsIn text = []) :
    pattern.occurrences text = [] := by
  rw [gapsIn, gapsAt, List.map_eq_nil_iff, occurrences_cons, List.append_eq_nil_iff] at nothing
  exact nothing.2

theorem last?_of_line {word body : List Char} (shape : pattern = ⟨'\n' :: word, []⟩)
    (withinLine : '\n' ∉ word) (nothing : pattern.gapsIn body = []) (front : List Char) :
    pattern.last? (front ++ '\n' :: (word ++ body)) = some ([], body) := by
  have opens : pattern.opening = '\n' :: word := by rw [shape]
  have here : pattern.match? ('\n' :: (word ++ body)) = some ([], body) := by
    have whole := pattern.match?_append body
    rw [opens, List.cons_append] at whole
    rw [whole, shape]
    rfl
  obtain ⟨earlier, same⟩ := pattern.exists_occurrences_append ('\n' :: front)
    ('\n' :: (word ++ body))
  rw [last?, ← List.cons_append, same, occurrences_cons, here,
    occurrences_append_of_absent opens withinLine, occurrences_eq_nil_of_gapsIn nothing]
  exact List.getLast?_concat

theorem mem_gapsIn_of_match? {gaps : List (List Char)} {char : Char} {rest after : List Char}
    (here : pattern.match? (char :: rest) = some (gaps, after)) (front : List Char) :
    gaps ∈ pattern.gapsIn (front ++ char :: rest) := by
  obtain ⟨earlier, same⟩ := pattern.exists_occurrences_append ('\n' :: front) (char :: rest)
  rw [gapsIn, gapsAt, ← List.cons_append, same, occurrences_cons, here]
  exact List.mem_map_of_mem (List.mem_append_right earlier List.mem_cons_self)

/-- What is found in a text ends with what is found from one of its line breaks on. -/
theorem exists_gapsIn_append (pattern : Pattern) (front text : List Char) :
    ∃ earlier, pattern.gapsIn (front ++ '\n' :: text) = earlier ++ pattern.gapsIn text := by
  obtain ⟨earlier, same⟩ := pattern.exists_occurrences_append ('\n' :: front) ('\n' :: text)
  refine ⟨earlier.map Prod.fst, ?_⟩
  rw [gapsIn, gapsAt, ← List.cons_append, same, List.map_append]
  rfl

theorem prefix_of_prefix_append_line {start front : List Char} (withinLine : '\n' ∉ start)
    (begins : start <+: (front ++ '\n' :: text)) : start <+: front := by
  have line : (front ++ ['\n']) <+: (front ++ '\n' :: text) :=
    (List.prefix_append_right_inj front).mpr ⟨text, rfl⟩
  rcases List.prefix_or_prefix_of_prefix begins line with within | beyond
  · rcases List.prefix_concat_iff.mp within with whole | inFront
    · exact absurd (whole ▸ List.mem_append_right front List.mem_cons_self) withinLine
    · exact inFront
  · exact absurd (beyond.subset (List.mem_append_right front List.mem_cons_self)) withinLine

/-- Lines without some character of the opening say nothing. -/
theorem gapsIn_append_of_absent {mark : Char} {front : List Char} (inOpening : mark ∈ pattern.opening)
    (withinLine : '\n' ∉ pattern.opening) (absent : mark ∉ front) (text : List Char) :
    pattern.gapsIn (front ++ '\n' :: text) = pattern.gapsIn text := by
  have noLine : mark ≠ '\n' := fun same => withinLine (same ▸ inOpening)
  have skipped (front : List Char) (absent : mark ∉ front) :
      pattern.occurrences (front ++ '\n' :: text) = pattern.occurrences ('\n' :: text) := by
    induction front with
    | nil => rfl
    | cons char rest ih =>
        have noMatch : pattern.match? (char :: rest ++ '\n' :: text) = none :=
          match?_eq_none fun begins =>
            absent ((prefix_of_prefix_append_line withinLine begins).subset inOpening)
        rw [List.cons_append] at noMatch ⊢
        rw [occurrences_cons, noMatch, ih fun later => absent (List.mem_cons_of_mem char later)]
        rfl
  rw [gapsIn, gapsAt, ← List.cons_append, skipped ('\n' :: front) ?_]
  · rfl
  · exact fun member => (List.mem_cons.mp member).elim noLine absent

/-! ### Blocks of lines -/

/-- A block of lines says something to a pattern, whatever stands below it. -/
def Reads (pattern : Pattern) (text : List Char) (found : List (List (List Char))) : Prop :=
  ∀ below, pattern.gapsIn (text ++ below) = found ++ pattern.gapsIn below

namespace Reads

variable {second : List Char} {found more : List (List (List Char))}

theorem nil (pattern : Pattern) : pattern.Reads [] [] := Says.nil pattern.gapsIn

theorem append (first : pattern.Reads text found) (next : pattern.Reads second more) :
    pattern.Reads (text ++ second) (found ++ more) := Says.append first next

theorem gapsIn_eq (reads : pattern.Reads text found) (empty : pattern.gapsIn [] = []) :
    pattern.gapsIn text = found := Says.read_eq reads empty

end Reads

end Pattern

end EntityScaffold.Text
