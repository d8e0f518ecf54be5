import EntityScaffold.Text.Blank

/-
Pieces of a text. A text is the pieces between its separators put together again, so splitting a
joined text gives the pieces back, and a separator in the middle splits a text into the pieces of
both sides. Runs of separators count as one when empty pieces are dropped. Joining, collapsing,
replacing and trimming bring in no characters but their marks.
-/

namespace EntityScaffold.Text

/-! ### Splitting -/

theorem splitWhere_ne_nil {α : Type} (separates : α → Bool) (items : List α) :
    splitWhere separates items ≠ [] := by
  cases items with
  | nil => simp [splitWhere]
  | cons item rest =>
      simp only [splitWhere]
      split
      · simp
      · split <;> simp

theorem splitWhere_cons_of_not {α : Type} (separates : α → Bool) {item : α} {rest piece : List α}
    {pieces : List (List α)} (inside : separates item = false)
    (hRest : splitWhere separates rest = piece :: pieces) :
    splitWhere separates (item :: rest) = (item :: piece) :: pieces := by
  simp only [splitWhere, inside, hRest]
  rfl

theorem splitWhere_cons_of_separates {α : Type} (separates : α → Bool) {item : α}
    (rest : List α) (mark : separates item = true) :
    splitWhere separates (item :: rest) = [] :: splitWhere separates rest := by
  simp only [splitWhere, mark, if_true]

theorem splitWhere_of_none {α : Type} {separates : α → Bool} {items : List α}
    (inside : ∀ item ∈ items, separates item = false) :
    splitWhere separates items = [items] := by
  induction items with
  | nil => rfl
  | cons item rest ih =>
      have hRest := ih fun other member => inside other (List.mem_cons_of_mem item member)
      exact splitWhere_cons_of_not separates (inside item List.mem_cons_self) hRest

theorem splitWhere_append_separated {α : Type} (separates : α → Bool) {mark : α}
    (isMark : separates mark = true) (first second : List α) :
    splitWhere separates (first ++ mark :: second) =
      splitWhere separates first ++ splitWhere separates second := by
  induction first with
  | nil => exact splitWhere_cons_of_separates separates second isMark
  | cons item rest ih =>
      rw [List.cons_append]
      cases inside : separates item with
      | true =>
          rw [splitWhere_cons_of_separates separates _ inside,
            splitWhere_cons_of_separates separates _ inside, ih]
          rfl
      | false =>
          obtain ⟨piece, pieces, hRest⟩ :=
            List.exists_cons_of_ne_nil (splitWhere_ne_nil separates rest)
          rw [hRest] at ih
          rw [splitWhere_cons_of_not separates inside ih,
            splitWhere_cons_of_not separates inside hRest]
          rfl

/-- Items that separate nothing extend the first piece behind them. -/
theorem splitWhere_append_of_none {α : Type} {separates : α → Bool} {front items piece : List α}
    {pieces : List (List α)} (inside : ∀ item ∈ front, separates item = false)
    (split : splitWhere separates items = piece :: pieces) :
    splitWhere separates (front ++ items) = (front ++ piece) :: pieces := by
  induction front with
  | nil => exact split
  | cons item rest ih =>
      have later := ih fun other member => inside other (List.mem_cons_of_mem item member)
      exact splitWhere_cons_of_not separates (inside item List.mem_cons_self) later

/-- No piece holds a separator, and each of its items comes from the text. -/
theorem mem_of_mem_splitWhere {α : Type} {separates : α → Bool} {items piece : List α}
    (member : piece ∈ splitWhere separates items) {item : α} (within : item ∈ piece) :
    item ∈ items ∧ separates item = false := by
  induction items generalizing piece with
  | nil =>
      rw [splitWhere, List.mem_singleton] at member
      subst member
      cases within
  | cons head rest ih =>
      cases inside : separates head with
      | true =>
          rw [splitWhere_cons_of_separates separates _ inside, List.mem_cons] at member
          rcases member with same | later
          · subst same
            cases within
          · obtain ⟨inRest, notMark⟩ := ih later within
            exact ⟨List.mem_cons_of_mem head inRest, notMark⟩
      | false =>
          obtain ⟨first, pieces, hRest⟩ :=
            List.exists_cons_of_ne_nil (splitWhere_ne_nil separates rest)
          rw [splitWhere_cons_of_not separates inside hRest, List.mem_cons] at member
          rw [hRest] at ih
          rcases member with same | later
          · subst same
            rcases List.mem_cons.mp within with same | inFirst
            · subst same
              exact ⟨List.mem_cons_self, inside⟩
            · obtain ⟨inRest, notMark⟩ := ih List.mem_cons_self inFirst
              exact ⟨List.mem_cons_of_mem head inRest, notMark⟩
          · obtain ⟨inRest, notMark⟩ := ih (List.mem_cons_of_mem first later) within
            exact ⟨List.mem_cons_of_mem head inRest, notMark⟩

theorem exists_piece_of_mem {α : Type} (separates : α → Bool) {items : List α} {item : α}
    (member : item ∈ items) (inside : separates item = false) :
    ∃ piece ∈ splitWhere separates items, item ∈ piece := by
  induction items with
  | nil => cases member
  | cons head rest ih =>
      obtain ⟨first, pieces, hRest⟩ :=
        List.exists_cons_of_ne_nil (splitWhere_ne_nil separates rest)
      rw [hRest] at ih
      cases mark : separates head with
      | true =>
          have later : item ∈ rest := by
            rcases List.mem_cons.mp member with same | later
            · rw [same, mark] at inside
              cases inside
            · exact later
          rw [splitWhere_cons_of_separates separates rest mark, hRest]
          obtain ⟨piece, listed, within⟩ := ih later
          exact ⟨piece, List.mem_cons_of_mem [] listed, within⟩
      | false =>
          rw [splitWhere_cons_of_not separates mark hRest]
          rcases List.mem_cons.mp member with same | later
          · subst same
            exact ⟨item :: first, List.mem_cons_self, List.mem_cons_self⟩
          · obtain ⟨piece, listed, within⟩ := ih later
            rcases List.mem_cons.mp listed with same | others
            · subst same
              exact ⟨head :: piece, List.mem_cons_self, List.mem_cons_of_mem head within⟩
            · exact ⟨piece, List.mem_cons_of_mem _ others, within⟩

/-- Another mark between the same pieces: the pieces stay as they are. -/
theorem splitWhere_replaceChar {old new : Char} {chars : List Char} (absent : new ∉ chars) :
    splitWhere (· == new) (replaceChar old new chars) = splitWhere (· == old) chars := by
  induction chars with
  | nil => rfl
  | cons char rest ih =>
      obtain ⟨different, absentRest⟩ := List.ne_and_not_mem_of_not_mem_cons absent
      have tail : splitWhere (· == new) (replaceChar old new rest) = splitWhere (· == old) rest :=
        ih absentRest
      by_cases same : char = old
      · have isNew : (fun other => other == new) new = true := beq_self_eq_true new
        have isOld : (fun other => other == old) char = true := beq_iff_eq.mpr same
        have replaced : replaceChar old new (char :: rest) = new :: replaceChar old new rest := by
          simp only [replaceChar, List.map_cons, if_pos same]
        rw [replaced, splitWhere_cons_of_separates (· == new) _ isNew, tail,
          splitWhere_cons_of_separates (· == old) _ isOld]
      · have notNew : (fun other => other == new) char = false :=
          beq_eq_false_iff_ne.mpr (Ne.symm different)
        have notOld : (fun other => other == old) char = false := beq_eq_false_iff_ne.mpr same
        have kept : replaceChar old new (char :: rest) = char :: replaceChar old new rest := by
          simp only [replaceChar, List.map_cons, if_neg same]
        obtain ⟨piece, pieces, hRest⟩ :=
          List.exists_cons_of_ne_nil (splitWhere_ne_nil (· == old) rest)
        rw [hRest] at tail
        rw [kept, splitWhere_cons_of_not (· == new) notNew tail,
          splitWhere_cons_of_not (· == old) notOld hRest]

/-! ### Joining -/

theorem joinWith_cons_cons {α : Type} (separator piece next : List α) (rest : List (List α)) :
    joinWith separator (piece :: next :: rest) =
      piece ++ separator ++ joinWith separator (next :: rest) := rfl

theorem joinWith_cons {α : Type} (separator piece : List α) (pieces : List (List α)) :
    joinWith separator (piece :: pieces) =
      piece ++ pieces.flatMap (fun other => separator ++ other) := by
  induction pieces generalizing piece with
  | nil => simp [joinWith]
  | cons next rest ih =>
      rw [joinWith_cons_cons, ih next, List.flatMap_cons]
      simp only [List.append_assoc]

theorem joinWith_append {α : Type} (separator : List α) {first second : List (List α)}
    (someFirst : first ≠ []) (someSecond : second ≠ []) :
    joinWith separator (first ++ second) =
      joinWith separator first ++ separator ++ joinWith separator second := by
  obtain ⟨piece, rest, same⟩ := List.exists_cons_of_ne_nil someFirst
  obtain ⟨next, others, alsoSame⟩ := List.exists_cons_of_ne_nil someSecond
  rw [same, alsoSame, List.cons_append, joinWith_cons, joinWith_cons, joinWith_cons,
    List.flatMap_append, List.flatMap_cons]
  simp only [List.append_assoc]

theorem joinWith_joinWith_cons {α : Type} (separator : List α) {first second : List (List α)}
    (someFirst : first ≠ []) :
    joinWith separator (joinWith separator first :: second) =
      joinWith separator (first ++ second) := by
  obtain ⟨piece, rest, same⟩ := List.exists_cons_of_ne_nil someFirst
  rw [same, List.cons_append, joinWith_cons, joinWith_cons, joinWith_cons, List.flatMap_append,
    List.append_assoc]

/-- Putting another mark for a separator is joining the pieces with that mark. -/
theorem replaceChar_eq_joinWith (old new : Char) (chars : List Char) :
    replaceChar old new chars = joinWith [new] (splitWhere (· == old) chars) := by
  induction chars with
  | nil => rfl
  | cons char rest ih =>
      obtain ⟨piece, pieces, split⟩ :=
        List.exists_cons_of_ne_nil (splitWhere_ne_nil (· == old) rest)
      have tail : List.map (fun char => if char = old then new else char) rest =
          piece ++ pieces.flatMap fun other => [new] ++ other := by
        rw [← joinWith_cons, ← split]
        exact ih
      by_cases same : char = old
      · have isMark : (fun other => other == old) char = true := beq_iff_eq.mpr same
        rw [splitWhere_cons_of_separates (· == old) rest isMark, split, joinWith_cons, replaceChar,
          List.map_cons, if_pos same, tail]
        rfl
      · have inside : (fun other => other == old) char = false := beq_eq_false_iff_ne.mpr same
        rw [splitWhere_cons_of_not (· == old) inside split, joinWith_cons, replaceChar,
          List.map_cons, if_neg same, tail]
        rfl

theorem splitWhere_joinWith {α : Type} (separates : α → Bool) {mark : α}
    (isMark : separates mark = true) {pieces : List (List α)} (someLeft : pieces ≠ [])
    (inside : ∀ piece ∈ pieces, ∀ item ∈ piece, separates item = false) :
    splitWhere separates (joinWith [mark] pieces) = pieces := by
  induction pieces with
  | nil => exact absurd rfl someLeft
  | cons piece rest ih =>
      have hPiece := splitWhere_of_none (inside piece List.mem_cons_self)
      cases rest with
      | nil => exact hPiece
      | cons next others =>
          have hRest := ih (List.cons_ne_nil next others)
            fun other member => inside other (List.mem_cons_of_mem piece member)
          have joined : joinWith [mark] (piece :: next :: others) =
              piece ++ mark :: joinWith [mark] (next :: others) := by
            rw [joinWith_cons_cons, List.append_assoc]
            rfl
          rw [joined, splitWhere_append_separated separates isMark, hPiece, hRest]
          rfl

theorem mem_of_mem_joinWith {α : Type} {separator : List α} {pieces : List (List α)} {item : α}
    (member : item ∈ joinWith separator pieces) :
    item ∈ separator ∨ ∃ piece ∈ pieces, item ∈ piece := by
  induction pieces with
  | nil => cases member
  | cons piece rest ih =>
      cases rest with
      | nil => exact Or.inr ⟨piece, List.mem_cons_self, member⟩
      | cons next others =>
          rw [joinWith_cons_cons, List.append_assoc] at member
          rcases List.mem_append.mp member with here | later
          · exact Or.inr ⟨piece, List.mem_cons_self, here⟩
          · rcases List.mem_append.mp later with between | behind
            · exact Or.inl between
            · rcases ih behind with between | ⟨other, listed, inside⟩
              · exact Or.inl between
              · exact Or.inr ⟨other, List.mem_cons_of_mem piece listed, inside⟩

theorem map_joinWith {α β : Type} (image : α → β) (separator : List α) (pieces : List (List α)) :
    (joinWith separator pieces).map image =
      joinWith (separator.map image) (pieces.map (List.map image)) := by
  induction pieces with
  | nil => rfl
  | cons piece rest ih =>
      cases rest with
      | nil => rfl
      | cons next others =>
          rw [joinWith_cons_cons, List.map_append, List.map_append, ih]
          rfl

/-! ### Trimming and collapsing -/

theorem trimEnd_cons {α : Type} (drop : α → Bool) (item : α) (items : List α) :
    trimEnd drop (item :: items) =
      if drop item = true ∧ trimEnd drop items = [] then [] else item :: trimEnd drop items := by
  simp only [trimEnd, List.reverse_cons, List.dropWhile_append, List.reverse_eq_nil_iff,
    List.isEmpty_iff]
  by_cases nothing : items.reverse.dropWhile drop = []
  · cases dropped : drop item <;> simp [nothing, dropped, List.dropWhile]
  · simp [nothing]

/-- Nothing is removed from the end of a text that ends with an item which stays. -/
theorem trimEnd_append_of_none {α : Type} {drop : α → Bool} {items : List α} (front : List α)
    (someLeft : items ≠ []) (stays : ∀ item ∈ items, drop item = false) :
    trimEnd drop (front ++ items) = front ++ items := by
  obtain ⟨others, last, same⟩ := List.eq_nil_or_concat items |>.resolve_left someLeft
  have kept : ¬drop last = true := by
    rw [stays last (by simp [same])]
    exact Bool.false_ne_true
  rw [same, trimEnd, List.reverse_append, List.concat_eq_append, List.reverse_append, List.reverse_singleton,
    List.singleton_append, List.cons_append, List.dropWhile_cons_of_neg kept]
  simp

/-- Nothing is trimmed off pieces that begin and end with items which stay. -/
theorem trim_joinWith {α : Type} {drop : α → Bool} {separator : List α} {pieces : List (List α)}
    (inside : ∀ piece ∈ pieces, piece ≠ [] ∧ ∀ item ∈ piece, drop item = false) :
    trim drop (joinWith separator pieces) = joinWith separator pieces := by
  rcases List.eq_nil_or_concat pieces with rfl | ⟨front, last, same⟩
  · rfl
  · have begins : (joinWith separator pieces).dropWhile drop = joinWith separator pieces := by
      cases pieces with
      | nil => rfl
      | cons piece rest =>
          obtain ⟨someLeft, stays⟩ := inside piece List.mem_cons_self
          obtain ⟨item, others, isPiece⟩ := List.exists_cons_of_ne_nil someLeft
          have kept : ¬drop item = true := by
            rw [stays item (by simp [isPiece])]
            exact Bool.false_ne_true
          rw [joinWith_cons, isPiece, List.cons_append, List.dropWhile_cons_of_neg kept]
    have ends : ∃ before, joinWith separator pieces = before ++ last := by
      rw [same, List.concat_eq_append]
      by_cases nothing : front = []
      · exact ⟨[], by rw [nothing]; rfl⟩
      · exact ⟨_, joinWith_append separator nothing (List.cons_ne_nil last [])⟩
    obtain ⟨before, isJoined⟩ := ends
    obtain ⟨someLast, stays⟩ := inside last (by simp [same])
    rw [trim, begins, isJoined, trimEnd_append_of_none before someLast stays]

/-- Collapsing twice is collapsing once with both kinds of separators. -/
theorem collapseRuns_collapseRuns {first : Char → Bool} (second : Char → Bool) {mark : Char}
    (isMark : second mark = true) (inFirst inSecond : Bool) (inner : inFirst = true → inSecond = true)
    (chars : List Char) :
    collapseRuns second mark inSecond (collapseRuns first mark inFirst chars) =
      collapseRuns (fun char => first char || second char) mark inSecond chars := by
  induction chars generalizing inFirst inSecond with
  | nil => rfl
  | cons char rest ih =>
      cases atFirst : first char with
      | true =>
          cases inFirst with
          | true =>
              have both := inner rfl
              subst both
              simp only [collapseRuns, atFirst, if_true, Bool.true_or]
              exact ih true true id
          | false =>
              simp only [collapseRuns, atFirst, if_true, Bool.true_or, Bool.false_eq_true, if_false,
                isMark, ih true true id]
      | false =>
          cases atSecond : second char with
          | true =>
              simp only [collapseRuns, atFirst, atSecond, Bool.false_eq_true, if_false, if_true,
                Bool.or_true, ih false true (fun impossible => by cases impossible)]
          | false =>
              simp only [collapseRuns, atFirst, atSecond, Bool.false_eq_true, if_false,
                Bool.or_false, ih false false id]

/-- Collapsed runs begin with a mark only where the text begins with a separator. -/
theorem collapseRuns_false_eq {separates : Char → Bool} {mark : Char} (char : Char)
    (rest : List Char) :
    collapseRuns separates mark false (char :: rest) =
      if separates char then mark :: collapseRuns separates mark true (char :: rest)
      else collapseRuns separates mark true (char :: rest) := by
  cases inside : separates char <;> simp [collapseRuns, inside]

/-- A text in front of which a run has ended is kept up to its first separator. -/
theorem collapseRuns_append_of_none {separates : Char → Bool} {mark : Char} {front : List Char}
    (someLeft : front ≠ []) (inside : ∀ char ∈ front, separates char = false) (inRun : Bool)
    (rest : List Char) :
    collapseRuns separates mark inRun (front ++ rest) =
      front ++ collapseRuns separates mark false rest := by
  induction front generalizing inRun with
  | nil => exact absurd rfl someLeft
  | cons char front ih =>
      obtain ⟨here, later⟩ := List.forall_mem_cons.mp inside
      simp only [List.cons_append, collapseRuns, here, Bool.false_eq_true, if_false]
      cases front with
      | nil => rfl
      | cons next front => exact congrArg (char :: ·) (ih (List.cons_ne_nil next front) later false)

/-- Single separators between pieces are replaced by the mark. -/
theorem collapseRuns_joinWith {separates : Char → Bool} {separator mark : Char}
    (isSeparator : separates separator = true) {pieces : List (List Char)}
    (inside : ∀ piece ∈ pieces, piece ≠ [] ∧ ∀ char ∈ piece, separates char = false)
    (inRun : Bool) :
    collapseRuns separates mark inRun (joinWith [separator] pieces) = joinWith [mark] pieces := by
  induction pieces generalizing inRun with
  | nil => rfl
  | cons piece rest ih =>
      obtain ⟨⟨someLeft, here⟩, later⟩ := List.forall_mem_cons.mp inside
      have kept := @collapseRuns_append_of_none separates mark piece someLeft here inRun
      cases rest with
      | nil =>
          have alone := kept []
          rwa [List.append_nil, collapseRuns, List.append_nil] at alone
      | cons next others =>
          rw [joinWith_cons_cons, List.append_assoc, kept, List.singleton_append, collapseRuns,
            if_pos isSeparator, if_neg Bool.false_ne_true, ih later true, joinWith_cons_cons,
            List.append_assoc, List.singleton_append]

theorem collapseRuns_of_none {separates : Char → Bool} {mark : Char} {chars : List Char}
    (inside : ∀ char ∈ chars, separates char = false) (inRun : Bool) :
    collapseRuns separates mark inRun chars = chars := by
  cases chars with
  | nil => rfl
  | cons char rest =>
      have whole := @collapseRuns_append_of_none separates mark _ (List.cons_ne_nil char rest) inside
        inRun []
      rwa [List.append_nil, collapseRuns, List.append_nil] at whole

/-! ### Characters that stay -/

theorem mem_collapseRuns {separates : Char → Bool} {mark : Char} {inRun : Bool} {chars : List Char}
    {char : Char} (member : char ∈ collapseRuns separates mark inRun chars) :
    char = mark ∨ char ∈ chars := by
  induction chars generalizing inRun with
  | nil => cases member
  | cons first rest ih =>
      rw [collapseRuns] at member
      split at member
      · split at member
        · exact (ih member).imp_right (List.mem_cons_of_mem first)
        · rcases List.mem_cons.mp member with same | later
          · exact Or.inl same
          · exact (ih later).imp_right (List.mem_cons_of_mem first)
      · rcases List.mem_cons.mp member with same | later
        · exact Or.inr (same ▸ List.mem_cons_self)
        · exact (ih later).imp_right (List.mem_cons_of_mem first)

theorem mem_of_mem_trim {drop : Char → Bool} {chars : List Char} {char : Char}
    (member : char ∈ trim drop chars) : char ∈ chars := by
  unfold trim trimEnd at member
  have kept := (List.dropWhile_suffix _).subset (List.mem_reverse.mp member)
  exact (List.dropWhile_suffix _).subset (List.mem_reverse.mp kept)

theorem mem_replaceChar {old new : Char} {chars : List Char} {char : Char}
    (member : char ∈ replaceChar old new chars) : char = new ∨ char ∈ chars := by
  obtain ⟨origin, present, same⟩ := List.mem_map.mp member
  by_cases replaced : origin = old
  · rw [if_pos replaced] at same
    exact Or.inl same.symm
  · rw [if_neg replaced] at same
    exact Or.inr (same ▸ present)

theorem not_mem_replaceChar {old new : Char} (apart : old ≠ new) (chars : List Char) :
    old ∉ replaceChar old new chars := by
  intro member
  obtain ⟨origin, _, same⟩ := List.mem_map.mp member
  split at same
  · exact apart same.symm
  · next kept => exact kept same

theorem mem_replaceChar_of_ne {old new : Char} {chars : List Char} {char : Char}
    (member : char ∈ chars) (kept : char ≠ old) : char ∈ replaceChar old new chars :=
  List.mem_map.mpr ⟨char, member, if_neg kept⟩

/-! ### Replacing -/

theorem replaceChar_cons (old new char : Char) (rest : List Char) :
    replaceChar old new (char :: rest) =
      (if char = old then new else char) :: replaceChar old new rest := rfl

theorem replaceChar_append (old new : Char) (first second : List Char) :
    replaceChar old new (first ++ second) = replaceChar old new first ++ replaceChar old new second :=
  List.map_append

theorem replaceChar_of_not_mem {old new : Char} {chars : List Char} (absent : old ∉ chars) :
    replaceChar old new chars = chars := by
  refine (List.map_congr_left fun char member => ?_).trans (List.map_id chars)
  refine if_neg fun same => absent ?_
  rwa [← same]

/-- Two replacements in a row are one, when what is put in between was not there before. -/
theorem replaceChar_replaceChar {old middle new : Char} {chars : List Char}
    (absent : middle ∉ chars) :
    replaceChar middle new (replaceChar old middle chars) = replaceChar old new chars := by
  rw [replaceChar, replaceChar, List.map_map]
  refine List.map_congr_left fun char member => ?_
  rw [Function.comp_apply]
  have apart : char ≠ middle := by
    rintro rfl
    exact absent member
  by_cases replaced : char = old
  · rw [if_pos replaced, if_pos rfl, if_pos replaced]
  · rw [if_neg replaced, if_neg replaced, if_neg apart]

/-! ### Checks -/

/-- What is checked for some characters, one by one, and not for all there are. -/
theorem forall_mem_of_all {chars : List Char} {holds : Char → Prop} [DecidablePred holds]
    (checked : chars.all (fun char => decide (holds char)) = true) : ∀ char ∈ chars, holds char :=
  fun char member => of_decide_eq_true (List.all_eq_true.mp checked char member)

end EntityScaffold.Text
