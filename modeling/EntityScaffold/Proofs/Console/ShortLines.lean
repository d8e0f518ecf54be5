import EntityScaffold.Console.Report
import EntityScaffold.Proofs.Text.Pieces

/-
Short lines. A text of printable ASCII takes one cell for each character; when it fits, it is laid
out on one line as it is, in a paragraph and in the cell of a table.
-/

namespace EntityScaffold.Console

/-- Is a text made of printable ASCII? -/
def IsPrintable (text : CodeText) : Prop := ∀ point ∈ text, 0x20 ≤ point.value ∧ point.value ≤ 0x7E

instance (text : CodeText) : Decidable (IsPrintable text) :=
  inferInstanceAs (Decidable (∀ point ∈ text, _ ∧ _))

section Widths

variable {text : CodeText} {point : CodePoint} {room limit : Nat}

theorem IsPrintable.tail (printable : IsPrintable (point :: text)) : IsPrintable text :=
  fun other member => printable other (List.mem_cons_of_mem point member)

theorem IsPrintable.of_subset {other : CodeText} (printable : IsPrintable text)
    (subset : other ⊆ text) : IsPrintable other :=
  fun point member => printable point (subset member)

theorem cells_eq_one (least : 0x20 ≤ point.value) (most : point.value ≤ 0x7E) :
    cells point = 1 := by
  have narrow : ∀ value < 0x7F, 0x20 ≤ value →
      Text.inRanges Text.zeroWidthRanges value = false ∧
        Text.inRanges Text.wideRanges value = false := by decide +kernel
  obtain ⟨taken, single⟩ := narrow point.value (by omega) least
  rw [cells, taken, single]
  rfl

theorem ne_of_value_le {other : CodePoint} (most : point.value ≤ 0x7E)
    (larger : 0x7E < other.value) :
    point ≠ other := by
  intro same
  rw [same] at most
  omega

theorem widthAfter_of_isPrintable (last : Option CodePoint) (printable : IsPrintable text) :
    widthAfter last text = text.length := by
  induction text generalizing last with
  | nil => rfl
  | cons point text ih =>
      obtain ⟨least, most⟩ := printable point List.mem_cons_self
      have noJoiner : point ≠ joiner := ne_of_value_le most (by decide)
      have noMark : point ≠ pictureMark := ne_of_value_le most (by decide)
      have one := cells_eq_one least most
      have solid : cells point ≠ 0 := by omega
      unfold widthAfter
      rw [if_neg noJoiner, if_neg noMark, if_neg solid, one, ih _ printable.tail, List.length_cons]
      omega

theorem width_of_isPrintable (printable : IsPrintable text) : width text = text.length :=
  widthAfter_of_isPrintable none printable

theorem truncate_of_short (overflow : Overflow) (printable : IsPrintable text)
    (short : text.length ≤ room) : truncate overflow room text = text := by
  unfold truncate
  rw [width_of_isPrintable printable, if_pos short]

theorem fit_of_short (printable : IsPrintable text) (short : text.length ≤ room) :
    fit room text = text ++ spaces (room - text.length) := by
  rw [fit, width_of_isPrintable printable, if_pos short]

/-! ### Words -/

theorem expandTabs_of_isPrintable (printable : IsPrintable text) : expandTabs text = text := by
  have noTab : ∀ point ∈ text, (point == CodePoint.ofChar '\t') = false := by
    intro point member
    have least := (printable point member).1
    refine beq_eq_false_iff_ne.2 fun same => ?_
    rw [same] at least
    exact absurd least (by decide)
  rw [expandTabs, Text.splitWhere_of_none noTab, fillTabs]

theorem linesOf_of_isPrintable (printable : IsPrintable text) : linesOf text = [text] := by
  refine Text.splitWhere_of_none fun point member => beq_eq_false_iff_ne.2 fun same => ?_
  have least := (printable point member).1
  rw [same] at least
  exact absurd least (by decide)

/-- The words of a text that begins with one, together with what stands in front of it, are the
text. -/
theorem flatten_wordsOf_go (front : CodeText) {text : CodeText} (word : text ≠ []) :
    (wordsOf.go front text).flatten = front ++ text := by
  fun_induction wordsOf.go front text with
  | case1 => exact absurd rfl word
  | case2 front point rest first behind blanks ih =>
      let others := behind.dropWhile CodePoint.isBlank
      have rejoined : first ++ (blanks ++ others) = rest := by
        rw [List.takeWhile_append_dropWhile, List.takeWhile_append_dropWhile]
      have later : (wordsOf.go [] others).flatten = others := by
        by_cases more : others = []
        · rw [more, wordsOf.go]
          rfl
        · exact ih more
      rw [List.flatten_cons, later]
      simp only [List.append_assoc, List.cons_append, rejoined]

theorem flatten_wordsOf {text : CodeText} (worded : wordsOf text ≠ []) :
    (wordsOf text).flatten = text := by
  unfold wordsOf at worded ⊢
  have some : text.dropWhile CodePoint.isBlank ≠ [] := by
    intro blank
    rw [blank, wordsOf.go] at worded
    exact worded rfl
  exact (flatten_wordsOf_go _ some).trans List.takeWhile_append_dropWhile

theorem length_trimEnd_le {α : Type} (drop : α → Bool) (items : List α) :
    (Text.trimEnd drop items).length ≤ items.length := by
  have shorter := (List.dropWhile_suffix drop (l := items.reverse)).length_le
  simpa [Text.trimEnd] using shorter

theorem trimEnd_subset {α : Type} (drop : α → Bool) (items : List α) :
    Text.trimEnd drop items ⊆ items := by
  intro item member
  have kept := (List.dropWhile_suffix drop).subset (List.mem_reverse.1 member)
  exact List.mem_reverse.1 kept

/-- Words that fit behind each other stay on the line. -/
theorem foldl_add_of_short (folds : Bool) {words : List CodeText} (wrapping : Wrapping)
    (printable : ∀ word ∈ words, IsPrintable word)
    (short : wrapping.taken + words.flatten.length ≤ limit) :
    words.foldl (Wrapping.add folds limit) wrapping =
      { wrapping with
        current := wrapping.current ++ words.flatten
        taken := wrapping.taken + words.flatten.length } := by
  induction words generalizing wrapping with
  | nil => simp
  | cons word words ih =>
      obtain ⟨first, others⟩ := List.forall_mem_cons.1 printable
      rw [List.flatten_cons, List.length_append] at short
      have trimmed := length_trimEnd_le CodePoint.isBlank word
      have needed := width_of_isPrintable (first.of_subset (trimEnd_subset CodePoint.isBlank word))
      have added : wrapping.add folds limit word =
          wrapping.extend word (wrapping.taken + word.length) := by
        unfold Wrapping.add
        rw [needed, width_of_isPrintable first]
        exact if_pos (by omega)
      rw [List.foldl_cons, added, ih _ others]
      · simp [Wrapping.extend, Nat.add_assoc]
      · simp only [Wrapping.extend]
        omega

theorem breakLine_of_short (folds : Bool) (printable : IsPrintable text)
    (short : text.length ≤ limit) : breakLine folds limit text = [text] := by
  have kept : breakLine.trimExcess limit text = text := by
    unfold breakLine.trimExcess
    rw [Nat.sub_eq_zero_of_le short]
    simp
  unfold breakLine
  dsimp only
  split
  · rw [List.map_singleton, kept]
  · next worded =>
    have whole := @flatten_wordsOf text fun none => worded none
    have words : ∀ word ∈ wordsOf text, IsPrintable word := by
      intro word member
      refine printable.of_subset fun point inside => ?_
      rw [← whole]
      exact List.mem_flatten_of_mem member inside
    rw [foldl_add_of_short folds {} words (by rw [whole]; simpa using short), whole]
    simp only [Wrapping.finish, List.nil_append, List.reverse_cons, List.reverse_nil,
      List.map_cons, List.map_nil, kept]

theorem layOut_of_short (layout : Layout) (printable : IsPrintable text)
    (short : text.length ≤ layout.limit) : layOut layout text = [text] := by
  rw [layOut, linesOf_of_isPrintable printable, List.flatMap_singleton,
    expandTabs_of_isPrintable printable]
  split
  · exact breakLine_of_short _ printable short
  · rfl

theorem paragraph_of_short (printable : IsPrintable text) (short : text.length ≤ lineWidth) :
    paragraph text = text ++ [lineFeed] := by
  rw [paragraph, layOut_of_short _ printable short, List.map_singleton,
    truncate_of_short _ printable short, unlines, List.flatMap_singleton]

/-! ### Tables -/

/-- A text in a cell: a space on either side, and spaces up to the width of the column. -/
def padded (room : Nat) (text : CodeText) : CodeText :=
  spaces 1 ++ (text ++ spaces (room - text.length)) ++ spaces 1

theorem cellLines_of_short (wraps : Bool) (printable : IsPrintable text) (some : 0 < room)
    (short : text.length ≤ room) : cellLines wraps (room + 2) text = [padded room text] := by
  have wide : room ≠ 0 := by omega
  unfold cellLines
  dsimp only
  rw [Nat.add_sub_cancel, if_neg wide, layOut_of_short _ printable short, List.map_singleton,
    truncate_of_short _ printable short, fit_of_short printable short]
  rfl

theorem row_single (edge : Char) (left right : Nat) (first second : CodeText) :
    row edge left right [first] [second] =
      [bar 1 edge ++ first ++ bar 1 edge ++ second ++ bar 1 edge] := rfl

theorem flatMap_eq_map {α β : Type} {many : α → List β} {one : α → β} {items : List α}
    (single : ∀ item ∈ items, many item = [one item]) : items.flatMap many = items.map one := by
  induction items with
  | nil => rfl
  | cons item items ih =>
      obtain ⟨first, others⟩ := List.forall_mem_cons.1 single
      rw [List.flatMap_cons, first, ih others]
      rfl

/-- A column is as wide as its widest cell, with a space on either side. -/
theorem columnWidth_of_isPrintable {texts : List CodeText}
    (printable : ∀ text ∈ texts, IsPrintable text) :
    columnWidth texts = min (lineWidth - 3) ((texts.map List.length).foldl max 0 + 2) := by
  have single : ∀ text ∈ texts, (Text.splitWhere endsLine text).map width = [text.length] := by
    intro text member
    have noEnd : ∀ point ∈ text, endsLine point = false := by
      intro point inside
      have ends : ∀ value < 0x7F, 0x20 ≤ value →
          [0x0A, 0x0B, 0x0C, 0x0D, 0x1C, 0x1D, 0x1E, 0x85, 0x2028, 0x2029].contains value =
            false := by
        decide
      obtain ⟨least, most⟩ := printable text member point inside
      exact ends point.value (by omega) least
    rw [Text.splitWhere_of_none noEnd, List.map_singleton,
      width_of_isPrintable (printable text member)]
  have widths : texts.flatMap (fun text => (Text.splitWhere endsLine text).map width) =
      texts.map List.length := flatMap_eq_map single
  unfold columnWidth
  dsimp only
  rw [widths]

end Widths

def heading : CodeText × CodeText := (CodeText.ofString "Item", CodeText.ofString "Value")

def tableOf (title : CodeText) (rows : List (CodeText × CodeText)) : CodeText :=
  let left := columnWidth (heading.1 :: rows.map Prod.fst)
  let right := min (columnWidth (heading.2 :: rows.map Prod.snd)) (lineWidth - 3 - left)
  let rowOf (edge : Char) (cells : CodeText × CodeText) :=
    row edge left right (cellLines false left cells.1) (cellLines true right cells.2)
  unlines (
    tableTitle (left + right + 3) title ++
    [border '┏' '━' '┳' '┓' left right] ++
    rowOf '┃' heading ++
    [border '┡' '━' '╇' '┩' left right] ++
    rows.flatMap (rowOf '│') ++
    [border '└' '─' '┴' '┘' left right]) ++ [lineFeed]

/-- A line of a table with the texts of two cells as they are. -/
def tableLine (edge : Char) (left right : Nat) (cells : CodeText × CodeText) : CodeText :=
  bar 1 edge ++ padded left cells.1 ++ bar 1 edge ++ padded right cells.2 ++ bar 1 edge

/-- The lines of a table whose columns have room for all their texts. -/
def tableLines (title : CodeText) (left right : Nat) (rows : List (CodeText × CodeText)) :
    List CodeText :=
  [center (left + right + 7) title, border '┏' '━' '┳' '┓' (left + 2) (right + 2),
    tableLine '┃' left right heading, border '┡' '━' '╇' '┩' (left + 2) (right + 2)] ++
  rows.map (tableLine '│' left right) ++ [border '└' '─' '┴' '┘' (left + 2) (right + 2)]

def longest (texts : List CodeText) : Nat := (texts.map List.length).foldl max 0

theorem le_foldl_max (first : Nat) (numbers : List Nat) :
    first ≤ numbers.foldl max first ∧ ∀ number ∈ numbers, number ≤ numbers.foldl max first := by
  induction numbers generalizing first with
  | nil => exact ⟨Nat.le_refl first, fun _ impossible => absurd impossible List.not_mem_nil⟩
  | cons number numbers ih =>
      obtain ⟨least, each⟩ := ih (max first number)
      rw [List.foldl_cons]
      refine ⟨by omega, fun other member => ?_⟩
      rcases List.mem_cons.1 member with rfl | later
      · omega
      · exact each other later

theorem length_le_longest {texts : List CodeText} {text : CodeText} (member : text ∈ texts) :
    text.length ≤ longest texts :=
  (le_foldl_max 0 _).2 _ (List.mem_map_of_mem member)

theorem longest_le {texts : List CodeText} {bound : Nat}
    (short : ∀ text ∈ texts, text.length ≤ bound) : longest texts ≤ bound := by
  have each (first : Nat) (below : first ≤ bound) :
      (texts.map List.length).foldl max first ≤ bound := by
    induction texts generalizing first with
    | nil => exact below
    | cons text texts ih =>
        obtain ⟨here, later⟩ := List.forall_mem_cons.1 short
        exact ih later (max first text.length) (by omega)
  exact each 0 (Nat.zero_le bound)

theorem row_of_short (edge : Char) {left right : Nat} {cells : CodeText × CodeText}
    (printable : IsPrintable cells.1 ∧ IsPrintable cells.2) (someLeft : 0 < left)
    (someRight : 0 < right) (shortLeft : cells.1.length ≤ left)
    (shortRight : cells.2.length ≤ right) :
    row edge (left + 2) (right + 2) (cellLines false (left + 2) cells.1)
      (cellLines true (right + 2) cells.2) = [tableLine edge left right cells] := by
  rw [cellLines_of_short _ printable.1 someLeft shortLeft,
    cellLines_of_short _ printable.2 someRight shortRight, row_single]
  rfl

/-- A table of short texts shows each of them as it is, on a line of its own. -/
theorem tableOf_of_short {title : CodeText} {rows : List (CodeText × CodeText)} {left right : Nat}
    (printable : ∀ row ∈ rows, IsPrintable row.1 ∧ IsPrintable row.2)
    (titlePrintable : IsPrintable title)
    (leftIs : longest (heading.1 :: rows.map Prod.fst) = left)
    (rightIs : longest (heading.2 :: rows.map Prod.snd) = right)
    (fits : left + right + 7 ≤ lineWidth) (titleFits : title.length ≤ left + right + 7) :
    tableOf title rows = unlines (tableLines title left right rows) ++ [lineFeed] := by
  have headingPrintable : IsPrintable heading.1 ∧ IsPrintable heading.2 := by decide
  have shortLeft : ∀ text ∈ heading.1 :: rows.map Prod.fst, text.length ≤ left :=
    fun text member => leftIs ▸ length_le_longest member
  have shortRight : ∀ text ∈ heading.2 :: rows.map Prod.snd, text.length ≤ right :=
    fun text member => rightIs ▸ length_le_longest member
  have someLeft : 0 < left :=
    Nat.lt_of_lt_of_le (by decide) (shortLeft heading.1 List.mem_cons_self)
  have someRight : 0 < right :=
    Nat.lt_of_lt_of_le (by decide) (shortRight heading.2 List.mem_cons_self)
  have leftWidth : columnWidth (heading.1 :: rows.map Prod.fst) = left + 2 := by
    rw [columnWidth_of_isPrintable (List.forall_mem_cons.2 ⟨headingPrintable.1, ?_⟩)]
    · unfold longest at leftIs
      rw [leftIs]
      omega
    · intro text member
      obtain ⟨row, listed, rfl⟩ := List.mem_map.1 member
      exact (printable row listed).1
  have rightWidth : columnWidth (heading.2 :: rows.map Prod.snd) = right + 2 := by
    rw [columnWidth_of_isPrintable (List.forall_mem_cons.2 ⟨headingPrintable.2, ?_⟩)]
    · unfold longest at rightIs
      rw [rightIs]
      omega
    · intro text member
      obtain ⟨row, listed, rfl⟩ := List.mem_map.1 member
      exact (printable row listed).2
  -- the second column keeps its width, for the table fits the console
  have room : min (right + 2) (lineWidth - 3 - (left + 2)) = right + 2 := by omega
  have total : left + 2 + (right + 2) + 3 = left + right + 7 := by omega
  have titled : tableTitle (left + right + 7) title = [center (left + right + 7) title] := by
    rw [tableTitle, layOut_of_short _ titlePrintable titleFits, List.map_singleton]
  have headed := row_of_short '┃' headingPrintable someLeft someRight
    (shortLeft _ List.mem_cons_self) (shortRight _ List.mem_cons_self)
  have rowed : rows.flatMap (fun cells => row '│' (left + 2) (right + 2)
      (cellLines false (left + 2) cells.1) (cellLines true (right + 2) cells.2)) =
      rows.map (tableLine '│' left right) := by
    have each : ∀ cells ∈ rows, row '│' (left + 2) (right + 2)
        (cellLines false (left + 2) cells.1) (cellLines true (right + 2) cells.2) =
        [tableLine '│' left right cells] := by
      intro cells listed
      exact row_of_short '│' (printable cells listed) someLeft someRight
        (shortLeft _ (List.mem_cons_of_mem _ (List.mem_map_of_mem listed)))
        (shortRight _ (List.mem_cons_of_mem _ (List.mem_map_of_mem listed)))
    exact flatMap_eq_map each
  unfold tableOf tableLines
  dsimp only
  rw [leftWidth, rightWidth, room, total, titled, headed, rowed]
  rfl

end EntityScaffold.Console
