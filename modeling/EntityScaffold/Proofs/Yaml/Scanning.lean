import EntityScaffold.Yaml.Scanner

/-
How a text is scanned, token by token: keys and scalars without quotes, scalars in quotes, and the
marks of flow collections. What a run takes does not depend on how long the run may be, as long as
it takes no more tokens than there are characters.
-/

namespace EntityScaffold.Yaml

/-! ### Places -/

/-- Characters that a text may contain, and that leave the line and take one column of it. -/
def isInLine (char : Char) : Bool := isAllowed char && !isBreak char && char != '\uFEFF'

/-- A text begins with something that is neither skipped in front of a token nor a comment. -/
structure IsSolid (text : List Char) : Prop where
  noSpace : (text.headD '\x00' == ' ') = false
  noComment : (text.headD '\x00' == '#') = false
  noBreak : isBreak (text.headD '\x00') = false

namespace Cursor

variable {rest : List Char} {index line column : Nat}

theorem step_inLine {char : Char} (inLine : isInLine char = true) :
    (⟨char :: rest, index, line, column⟩ : Cursor).step = ⟨rest, index + 1, line, column + 1⟩ := by
  obtain ⟨inside, notMark⟩ := Bool.and_eq_true_iff.mp inLine
  have notBreak := (Bool.and_eq_true_iff.mp inside).2
  rw [Bool.not_eq_true'] at notBreak
  rw [bne_iff_ne] at notMark
  simp [step, notBreak, notMark]

theorem advance_inLine {run : List Char} (inLine : ∀ char ∈ run, isInLine char = true) :
    (⟨run ++ rest, index, line, column⟩ : Cursor).advance run.length =
      ⟨rest, index + run.length, line, column + run.length⟩ := by
  induction run generalizing index column with
  | nil => rfl
  | cons char more ih =>
      obtain ⟨here, later⟩ := List.forall_mem_cons.mp inLine
      rw [List.cons_append, List.length_cons, advance, step_inLine here, ih later, Nat.add_assoc,
        Nat.add_assoc, Nat.add_comm 1]

theorem takeWhile_inLine {run : List Char} {keep : Char → Bool}
    (inLine : ∀ char ∈ run, isInLine char = true) (kept : ∀ char ∈ run, keep char = true)
    (ends : keep (rest.headD '\x00') = false) :
    (⟨run ++ rest, index, line, column⟩ : Cursor).takeWhile keep =
      (run, ⟨rest, index + run.length, line, column + run.length⟩) := by
  have taken : (run ++ rest).takeWhile keep = run := by
    rw [List.takeWhile_append_of_pos kept]
    cases rest with
    | nil => rw [List.takeWhile_nil, List.append_nil]
    | cons char more =>
        have stops : keep char = false := ends
        rw [List.takeWhile_cons_of_neg (Bool.eq_false_iff.mp stops), List.append_nil]
  rw [Cursor.takeWhile, taken, advance_inLine inLine]

theorem isInLine_of_mem_spaces {count : Nat} {char : Char}
    (member : char ∈ List.replicate count ' ') : isInLine char = true := by
  rw [List.eq_of_mem_replicate member]
  rfl

theorem skipSpaces_solid {count : Nat} (solid : IsSolid rest) :
    (⟨List.replicate count ' ' ++ rest, index, line, column⟩ : Cursor).skipSpaces =
      ⟨rest, index + count, line, column + count⟩ := by
  have spaces : ∀ char ∈ List.replicate count ' ', (char == ' ') = true := fun char member =>
    beq_iff_eq.mpr (List.eq_of_mem_replicate member)
  rw [skipSpaces, skipWhile, takeWhile_inLine (fun _ => isInLine_of_mem_spaces) spaces solid.noSpace,
    List.length_replicate]

theorem takeBreak?_solid (solid : IsSolid rest) :
    (⟨rest, index, line, column⟩ : Cursor).takeBreak? = none := by
  cases rest with
  | nil => rfl
  | cons char more =>
      have notBreak : isBreak char = false := solid.noBreak
      simp only [isBreak, Bool.or_eq_false_iff, beq_eq_false_iff_ne] at notBreak
      unfold takeBreak?
      split
      · next same => simp_all
      · next same =>
        cases same
        simp [isBreak, notBreak]
      · next same => cases same

theorem skipComment_solid (solid : IsSolid rest) :
    (⟨rest, index, line, column⟩ : Cursor).skipComment = ⟨rest, index, line, column⟩ := by
  have noComment := solid.noComment
  rw [skipComment, if_neg]
  exact fun same => Bool.false_ne_true (noComment.symm.trans same)

theorem takeWhile_newline {keep : Char → Bool} (ends : keep '\n' = false) :
    (⟨'\n' :: rest, index, line, column⟩ : Cursor).takeWhile keep =
      ([], ⟨'\n' :: rest, index, line, column⟩) := by
  rw [Cursor.takeWhile, List.takeWhile_cons_of_neg (Bool.eq_false_iff.mp ends)]
  rfl

theorem takeBreak?_newline :
    (⟨'\n' :: rest, index, line, column⟩ : Cursor).takeBreak? =
      some ('\n', ⟨rest, index + 1, line + 1, 0⟩) := rfl

end Cursor

/-! ### Scalars without quotes -/

/-- Characters that may stand anywhere in a scalar without quotes. -/
def isPlainChar (inFlow : Bool) (char : Char) : Bool :=
  isInLine char && !isWordEnd char && char != ':' &&
    !(inFlow && (isFlowPunctuation char || char == '?'))

/-- A scalar that can be written without quotes, on one line and without blanks. -/
structure IsPlainWord (inFlow : Bool) (word : List Char) : Prop where
  begins : ∃ first more, word = first :: more ∧ Scan.isIndicator first = false ∧ first ≠ '.'
  chars : ∀ char ∈ word, isPlainChar inFlow char = true

variable {inFlow : Bool} {word rest : List Char} {index line column : Nat} {indent : Int}

theorem IsPlainWord.isInLine (plain : IsPlainWord inFlow word) :
    ∀ char ∈ word, isInLine char = true := by
  intro char member
  have chars := plain.chars char member
  simp only [isPlainChar, Bool.and_eq_true] at chars
  exact chars.1.1.1

theorem IsPlainWord.isSolid (plain : IsPlainWord inFlow word) : IsSolid (word ++ rest) := by
  have chars := plain.chars
  obtain ⟨first, more, rfl, begins, _⟩ := plain.begins
  have here := chars first List.mem_cons_self
  simp only [isPlainChar, Bool.and_eq_true, Bool.not_eq_true', isWordEnd, isSpaceOrEnd, isLineEnd,
    Bool.or_eq_false_iff] at here
  obtain ⟨⟨⟨_, ends⟩, _⟩, _⟩ := here
  refine ⟨ends.1.2, beq_false_of_ne fun same => ?_, ends.1.1.1⟩
  have isMark : first = '#' := same
  rw [isMark] at begins
  cases begins

theorem plainRun_append (chars : ∀ char ∈ word, isPlainChar inFlow char = true)
    (stops : plainRun inFlow rest = []) : plainRun inFlow (word ++ rest) = word := by
  induction word with
  | nil => exact stops
  | cons char more ih =>
      obtain ⟨here, later⟩ := List.forall_mem_cons.mp chars
      simp only [isPlainChar, Bool.and_eq_true, Bool.not_eq_true', bne_iff_ne] at here
      obtain ⟨⟨⟨_, noEnd⟩, noColon⟩, noMark⟩ := here
      rw [List.cons_append, plainRun, ih later]
      simp [noEnd, noColon, noMark]

theorem plainRun_colon (ends : isWordEnd (rest.headD '\x00') = true) :
    plainRun inFlow (':' :: rest) = [] := by
  unfold plainRun
  dsimp only
  rw [ends]
  rfl

theorem plainSpaces_solid (solid : IsSolid rest) :
    plainSpaces ⟨rest, index, line, column⟩ = ([], false, ⟨rest, index, line, column⟩) := by
  have taken := @Cursor.takeWhile_inLine rest index line column [] (· == ' ')
    (fun _ none => absurd none List.not_mem_nil) (fun _ none => absurd none List.not_mem_nil)
    solid.noSpace
  rw [List.nil_append] at taken
  rw [plainSpaces, taken]
  simp only [List.length_nil, Nat.add_zero]
  rw [Cursor.takeBreak?_solid solid]

theorem plainBreaks_spaces {count more : Nat} (solid : IsSolid rest) :
    plainBreaks (more + count) ⟨List.replicate count ' ' ++ rest, index, line, column⟩ =
      (some [], ⟨rest, index + count, line, column + count⟩) := by
  induction count generalizing index column with
  | zero =>
      cases more with
      | zero => rfl
      | succ more =>
          have noSpace : ((⟨rest, index, line, column⟩ : Cursor).peek == ' ') = false :=
            solid.noSpace
          change plainBreaks (more + 1) ⟨rest, index, line, column⟩ = _
          rw [plainBreaks, noSpace, if_neg Bool.false_ne_true, Cursor.takeBreak?_solid solid]
          rfl
  | succ count ih =>
      rw [← Nat.add_assoc, List.replicate_succ, List.cons_append, plainBreaks]
      have isSpace : ((⟨' ' :: (List.replicate count ' ' ++ rest), index, line, column⟩ :
        Cursor).peek == ' ') = true := rfl
      rw [if_pos isSpace, Cursor.step_inLine rfl, ih]
      simp only [Nat.add_assoc, Nat.add_comm 1]

/-- A scalar of one run ends where the blanks behind it say so. -/
theorem readPlain_of_spaces {blanks : List Char} {ended : Bool} {after : Cursor}
    (plain : IsPlainWord inFlow word) (stops : plainRun inFlow rest = [])
    (spaced : plainSpaces ⟨rest, index + word.length, line, column + word.length⟩ =
      (blanks, ended, after))
    (ends : (blanks.isEmpty || after.peek == '#' ||
      (!inFlow && decide ((after.column : Int) < indent + 1))) = true) :
    readPlain inFlow indent ⟨word ++ rest, index, line, column⟩ = (word, ended, after) := by
  have run := plainRun_append plain.chars stops
  have inLine := plain.isInLine
  obtain ⟨first, more, rfl, begins, _⟩ := plain.begins
  have noComment : (first == '#') = false := by
    refine beq_false_of_ne fun same => ?_
    rw [same] at begins
    cases begins
  have starts : ((⟨first :: more ++ rest, index, line, column⟩ : Cursor).peek == '#' ||
      (plainRun inFlow (first :: more ++ rest)).isEmpty) = false := by
    rw [run]
    exact Bool.or_eq_false_iff.mpr ⟨noComment, rfl⟩
  rw [readPlain]
  change plainRuns inFlow (indent + 1) ((more ++ rest).length + 1) [] false _ = _
  rw [plainRuns, if_neg (by rw [starts]; exact Bool.false_ne_true)]
  dsimp only
  rw [run, Cursor.advance_inLine inLine, spaced]
  dsimp only
  rw [if_pos ends, List.nil_append]

/-- A scalar ends in front of something that follows it at once. -/
theorem readPlain_solid (plain : IsPlainWord inFlow word) (stops : plainRun inFlow rest = [])
    (solid : IsSolid rest) :
    readPlain inFlow indent ⟨word ++ rest, index, line, column⟩ =
      (word, false, ⟨rest, index + word.length, line, column + word.length⟩) :=
  readPlain_of_spaces plain stops (plainSpaces_solid solid) rfl

/-- A scalar ends with its line when the next one is not indented more than its block. -/
theorem readPlain_line {count : Nat} (plain : IsPlainWord false word) (solid : IsSolid rest)
    (shallow : (count : Int) ≤ indent)
    (noMark : (Cursor.start (List.replicate count ' ' ++ rest)).atDocumentMark = false) :
    readPlain false indent
        ⟨word ++ '\n' :: (List.replicate count ' ' ++ rest), index, line, column⟩ =
      (word, true, ⟨rest, index + word.length + 1 + count, line + 1, count⟩) := by
  have breaks := @plainBreaks_spaces rest (index + word.length + 1) (line + 1) 0 count
    rest.length solid
  have spaced : plainSpaces ⟨'\n' :: (List.replicate count ' ' ++ rest), index + word.length, line,
      column + word.length⟩ =
        ([' '], true, ⟨rest, index + word.length + 1 + count, line + 1, 0 + count⟩) := by
    have goesOn : (⟨List.replicate count ' ' ++ rest, index + word.length + 1, line + 1, 0⟩ :
        Cursor).atDocumentMark = false := noMark
    rw [plainSpaces, Cursor.takeWhile_newline rfl]
    dsimp only
    rw [Cursor.takeBreak?_newline]
    dsimp only
    rw [goesOn, if_neg Bool.false_ne_true, List.length_append, List.length_replicate, Nat.add_comm,
      breaks]
    rfl
  rw [Nat.zero_add] at spaced
  refine readPlain_of_spaces plain rfl spaced ?_
  have outside : (count : Int) < indent + 1 := by omega
  simp [outside]

/-! ### Scalars in quotes -/

/-- A scalar in single quotes, on one line and without blanks or marks. -/
theorem readQuoted_eq_ok (inLine : ∀ char ∈ word, isInLine char = true)
    (quoted : ∀ char ∈ word, isQuotedChar char = true)
    (single : (rest.headD '\x00' == '\x27') = false) :
    readQuoted false ⟨'\x27' :: (word ++ '\x27' :: rest), index, line, column⟩ =
      .ok (CodeText.ofChars word,
        ⟨rest, index + 1 + word.length + 1, line, column + 1 + word.length + 1⟩) := by
  have taken := @Cursor.takeWhile_inLine ('\x27' :: rest) (index + 1) line (column + 1) word
    isQuotedChar inLine quoted rfl
  have run (fuel : Nat) : quotedRun false (fuel + 1)
      ⟨word ++ '\x27' :: rest, index + 1, line, column + 1⟩ =
        .ok (CodeText.ofChars word,
          ⟨'\x27' :: rest, index + 1 + word.length, line, column + 1 + word.length⟩) := by
    have alone : ((⟨'\x27' :: rest, index + 1 + word.length, line, column + 1 + word.length⟩ :
        Cursor).peek 1 == '\x27') = false := single
    rw [quotedRun, taken]
    dsimp only
    rw [alone]
    rfl
  rw [readQuoted, Cursor.step_inLine rfl, quotedRuns, run]
  exact congrArg (fun last => Except.ok (CodeText.ofChars word, last)) (Cursor.step_inLine rfl)

/-! ### In front of a token -/

namespace Scan

variable {before middle after : Scan} {rest : List Char} {index line column : Nat}
  {indent next : Int} {outer : List Int} {mayBeginKey : Bool} {pending : List (Option PendingKey)}
  {tokens : List Token} {tokenCount : Nat}

theorem skipToToken_spaces {count : Nat} (solid : IsSolid rest) (fuel : Nat) :
    skipToToken (fuel + 1) ⟨⟨List.replicate count ' ' ++ rest, index, line, column⟩, indent, outer,
        mayBeginKey, pending, tokens, tokenCount⟩ =
      ⟨⟨rest, index + count, line, column + count⟩, indent, outer, mayBeginKey, pending, tokens,
        tokenCount⟩ := by
  rw [skipToToken]
  dsimp only
  rw [Cursor.skipSpaces_solid solid, Cursor.skipComment_solid solid, Cursor.takeBreak?_solid solid]

theorem skipToToken_solid (solid : IsSolid rest) (fuel : Nat) :
    skipToToken (fuel + 1) ⟨⟨rest, index, line, column⟩, indent, outer, mayBeginKey, pending, tokens,
        tokenCount⟩ =
      ⟨⟨rest, index, line, column⟩, indent, outer, mayBeginKey, pending, tokens, tokenCount⟩ :=
  @skipToToken_spaces rest index line column indent outer mayBeginKey pending tokens tokenCount 0
    solid fuel

/-- A new line allows a key to begin. -/
theorem skipToToken_newline (fuel : Nat) :
    skipToToken (fuel + 1) ⟨⟨'\n' :: rest, index, line, column⟩, indent, outer, mayBeginKey, [none],
        tokens, tokenCount⟩ =
      skipToToken fuel ⟨⟨rest, index + 1, line + 1, 0⟩, indent, outer, true, [none], tokens,
        tokenCount⟩ := by
  cases mayBeginKey <;> rfl

theorem skipToToken_lines {lines count : Nat} (solid : IsSolid rest) (fuel : Nat) :
    skipToToken (fuel + 1 + lines) ⟨⟨List.replicate lines '\n' ++ (List.replicate count ' ' ++ rest),
        index, line, 0⟩, indent, outer, true, [none], tokens, tokenCount⟩ =
      ⟨⟨rest, index + lines + count, line + lines, count⟩, indent, outer, true, [none], tokens,
        tokenCount⟩ := by
  induction lines generalizing index line with
  | zero =>
      have skipped := @skipToToken_spaces rest index line 0 indent outer true [none] tokens
        tokenCount count solid fuel
      rw [Nat.zero_add] at skipped
      exact skipped
  | succ lines ih =>
      rw [List.replicate_succ, List.cons_append]
      refine (skipToToken_newline (fuel + 1 + lines)).trans ?_
      rw [ih, Nat.add_assoc index, Nat.add_assoc line, Nat.add_comm 1]

/-- No key that may have begun is too far away. -/
def IsFresh (scan : Scan) : Prop := ∀ key, some key ∈ scan.pending → scan.isStale key = false

theorem dropStaleKeys_eq_ok (fresh : before.IsFresh) : before.dropStaleKeys = .ok before := by
  unfold dropStaleKeys
  dsimp only
  rw [if_neg, List.map_congr_left (g := id), List.map_id]
  · intro entry member
    cases entry with
    | none => rfl
    | some key =>
        exact if_neg fun stale => Bool.false_ne_true ((fresh key member).symm.trans stale)
  · intro lost
    obtain ⟨entry, member, isLost⟩ := List.any_eq_true.mp lost
    cases entry with
    | none => cases isLost
    | some key =>
        rw [Bool.and_eq_true] at isLost
        exact Bool.false_ne_true ((fresh key member).symm.trans isLost.1)

theorem align_eq_ok (skipped : before.skipToToken (before.cursor.rest.length + 1) = middle)
    (fresh : middle.IsFresh) : before.align = .ok (middle.closeBlocks middle.cursor.column) := by
  rw [align, skipped, dropStaleKeys_eq_ok fresh]
  rfl

theorem align_congr
    (same : before.skipToToken (before.cursor.rest.length + 1) =
      middle.skipToToken (middle.cursor.rest.length + 1)) : before.align = middle.align := by
  rw [align, align, same]

theorem closeBlocks_of_inFlow {column : Int} (flow : before.inFlow = true) :
    before.closeBlocks column = before := by
  rw [closeBlocks, if_pos flow]

theorem closeBlocks_of_le {column : Int} (deep : before.indent ≤ column) :
    before.closeBlocks column = before := by
  unfold closeBlocks
  split
  · rfl
  · have stays : ¬column < before.indent := Int.not_lt.mpr deep
    simp [stays]

theorem closeBlocks_of_lt {column : Int} {scanned : Cursor} (inside : column < indent)
    (outside : next ≤ column) :
    closeBlocks column ⟨scanned, indent, next :: outer, mayBeginKey, [none], tokens, tokenCount⟩ =
      ⟨scanned, next, outer, mayBeginKey, [none], .blockEnd :: tokens, tokenCount + 1⟩ := by
  have stays : ¬column < next := Int.not_lt.mpr outside
  simp [closeBlocks, inFlow, inside, stays]

/-- In none of the open collections a key may have begun. -/
def NoKeys (pending : List (Option PendingKey)) : Prop := ∀ entry ∈ pending, entry = none

theorem noKeys_nil : NoKeys [] := fun _ none => absurd none List.not_mem_nil

theorem noKeys_cons {below : List (Option PendingKey)} (unknown : NoKeys below) :
    NoKeys (none :: below) := List.forall_mem_cons.mpr ⟨rfl, unknown⟩

theorem isFresh_of_noKeys (unknown : NoKeys before.pending) : before.IsFresh := by
  intro key member
  cases unknown _ member

theorem align_spaces {count : Nat} (solid : IsSolid rest) :
    align ⟨⟨List.replicate count ' ' ++ rest, index, line, column⟩, indent, outer, mayBeginKey,
        pending, tokens, tokenCount⟩ =
      align ⟨⟨rest, index + count, line, column + count⟩, indent, outer, mayBeginKey, pending,
        tokens, tokenCount⟩ := by
  exact align_congr ((skipToToken_spaces solid _).trans (skipToToken_solid solid _).symm)

/-- The first token of a new line, behind lines that are empty. -/
theorem align_lines {lines count : Nat} (solid : IsSolid rest) :
    align ⟨⟨'\n' :: (List.replicate lines '\n' ++ (List.replicate count ' ' ++ rest)), index, line,
        column⟩, indent, outer, mayBeginKey, [none], tokens, tokenCount⟩ =
      align ⟨⟨rest, index + 1 + lines + count, line + 1 + lines, count⟩, indent, outer, true,
        [none], tokens, tokenCount⟩ := by
  have fuel : ('\n' :: (List.replicate lines '\n' ++ (List.replicate count ' ' ++ rest))).length + 1 =
      count + rest.length + 1 + lines + 1 := by
    simp only [List.length_cons, List.length_append, List.length_replicate]
    omega
  refine align_congr (Eq.trans ?_ (skipToToken_solid solid _).symm)
  dsimp only
  rw [fuel, skipToToken_newline, skipToToken_lines solid]

/-- A token where no key is too far away and no block ends. -/
theorem align_self (solid : IsSolid rest)
    (fresh : IsFresh ⟨⟨rest, index, line, column⟩, indent, outer, mayBeginKey, pending, tokens,
      tokenCount⟩)
    (fits : 1 < pending.length ∨ indent ≤ column) :
    align ⟨⟨rest, index, line, column⟩, indent, outer, mayBeginKey, pending, tokens, tokenCount⟩ =
      .ok ⟨⟨rest, index, line, column⟩, indent, outer, mayBeginKey, pending, tokens,
        tokenCount⟩ := by
  rw [align_eq_ok (skipToToken_solid solid _) fresh]
  rcases fits with flow | deep
  · rw [closeBlocks_of_inFlow (decide_eq_true flow)]
  · rw [closeBlocks_of_le deep]

/-- In front of a token that is indented less, a block ends. -/
theorem align_less (solid : IsSolid rest) (inside : (column : Int) < indent)
    (outside : next ≤ column) :
    align ⟨⟨rest, index, line, column⟩, indent, next :: outer, mayBeginKey, [none], tokens,
        tokenCount⟩ =
      align ⟨⟨rest, index, line, column⟩, next, outer, mayBeginKey, [none], .blockEnd :: tokens,
        tokenCount + 1⟩ := by
  have noKey : NoKeys [none] := noKeys_cons noKeys_nil
  rw [align_self solid (isFresh_of_noKeys noKey) (Or.inr outside),
    align_eq_ok (skipToToken_solid solid _) (isFresh_of_noKeys noKey)]
  exact congrArg Except.ok (closeBlocks_of_lt inside outside)

/-- At the end of the text, a block inside the outermost one ends. -/
theorem align_end (some_ : 0 < indent) :
    align ⟨⟨[], index, line, 0⟩, indent, [0, -1], mayBeginKey, [none], tokens, tokenCount⟩ =
      .ok ⟨⟨[], index, line, 0⟩, 0, [-1], mayBeginKey, [none], .blockEnd :: tokens,
        tokenCount + 1⟩ := by
  have solid : IsSolid [] := ⟨rfl, rfl, rfl⟩
  have fresh := @isFresh_of_noKeys ⟨⟨[], index, line, 0⟩, 0, [-1], mayBeginKey, [none],
    .blockEnd :: tokens, tokenCount + 1⟩ (noKeys_cons noKeys_nil)
  exact (align_less solid some_ (by decide)).trans (align_self solid fresh (Or.inr (by decide)))

/-! ### Steps -/

/-- A token is taken, of at least one character. -/
def TakesToken (before after : Scan) : Prop :=
  after.cursor.rest.length < before.cursor.rest.length ∧ ∃ aligned,
    before.align = .ok aligned ∧ aligned.cursor.atEnd = false ∧ aligned.takeToken = .ok after

/-- A scan goes on from one state to another by taking tokens. -/
abbrev Takes : Scan → Scan → Prop := Relation.TransGen TakesToken

theorem takes_token (aligned : before.align = .ok before)
    (more : before.cursor.atEnd = false) (taken : before.takeToken = .ok after)
    (less : after.cursor.rest.length < before.cursor.rest.length) : Takes before after :=
  .single ⟨less, before, aligned, more, taken⟩

/-- What is taken depends on the next token only, not on what is skipped in front of it. -/
theorem takes_of_align_eq (same : before.align = middle.align)
    (shorter : middle.cursor.rest.length ≤ before.cursor.rest.length)
    (takes : Takes middle after) : Takes before after := by
  induction takes with
  | single token =>
      obtain ⟨less, aligned, is, taken⟩ := token
      exact .single ⟨Nat.lt_of_lt_of_le less shorter, aligned, same.trans is, taken⟩
  | tail _ token ih => exact ih.tail token

theorem takes_behindSpaces {count : Nat} (solid : IsSolid rest)
    (takes : Takes ⟨⟨rest, index + count, line, column + count⟩, indent, outer, mayBeginKey, pending,
      tokens, tokenCount⟩ after) :
    Takes ⟨⟨List.replicate count ' ' ++ rest, index, line, column⟩, indent, outer, mayBeginKey,
      pending, tokens, tokenCount⟩ after :=
  takes_of_align_eq (align_spaces solid) (List.suffix_append _ _).length_le takes

theorem takes_behindLines {lines count : Nat} (solid : IsSolid rest)
    (takes : Takes ⟨⟨rest, index + 1 + lines + count, line + 1 + lines, count⟩, indent, outer, true,
      [none], tokens, tokenCount⟩ after) :
    Takes ⟨⟨'\n' :: (List.replicate lines '\n' ++ (List.replicate count ' ' ++ rest)), index, line,
      column⟩, indent, outer, mayBeginKey, [none], tokens, tokenCount⟩ after := by
  refine takes_of_align_eq (align_lines solid) ?_ takes
  simp only [List.length_cons, List.length_append]
  omega

theorem exists_run_eq (takes : Takes before after) :
    ∃ count, count + after.cursor.rest.length ≤ before.cursor.rest.length ∧
      ∀ fuel, before.run (count + fuel) = after.run fuel := by
  have step {first last : Scan} (token : TakesToken first last) (fuel : Nat) :
      first.run (1 + fuel) = last.run fuel := by
    obtain ⟨_, aligned, is, more, taken⟩ := token
    rw [Nat.add_comm, run, is]
    simp only [more, Bool.false_eq_true, if_false, taken]
  induction takes with
  | single token => exact ⟨1, by have := token.1; omega, step token⟩
  | tail _ token ih =>
      obtain ⟨count, fewer, ran⟩ := ih
      have less := token.1
      refine ⟨count + 1, by omega, fun fuel => ?_⟩
      rw [Nat.add_assoc, ran, step token]

/-! ### Tokens -/

theorem takeToken_plain {first : Char} (begins : isIndicator first = false) (noDot : first ≠ '.')
    (noEnd : isWordEnd first = false) :
    takeToken ⟨⟨first :: rest, index, line, column⟩, indent, outer, mayBeginKey, pending, tokens,
        tokenCount⟩ =
      takePlain ⟨⟨first :: rest, index, line, column⟩, indent, outer, mayBeginKey, pending, tokens,
        tokenCount⟩ := by
  have apart : ∀ mark, isIndicator mark = true ∨ mark = '.' → (first == mark) = false := by
    rintro mark (indicates | isDot)
    · refine beq_false_of_ne fun same => ?_
      rw [← same, begins] at indicates
      cases indicates
    · exact isDot ▸ beq_false_of_ne noDot
  have beginsPlain : beginsPlain ⟨⟨first :: rest, index, line, column⟩, indent, outer, mayBeginKey,
      pending, tokens, tokenCount⟩ = true := by
    unfold Scan.beginsPlain
    change ((!isWordEnd first && !isIndicator first) || _) = true
    rw [noEnd, begins]
    rfl
  have here : Cursor.peek ⟨first :: rest, index, line, column⟩ 0 = first := rfl
  unfold takeToken
  simp only [here, apart '%' (.inl rfl), apart '-' (.inl rfl), apart '.' (.inr rfl),
    apart '[' (.inl rfl), apart '\x7b' (.inl rfl), apart ']' (.inl rfl), apart '\x7d' (.inl rfl),
    apart ',' (.inl rfl), apart '?' (.inl rfl), apart ':' (.inl rfl), apart '*' (.inl rfl),
    apart '&' (.inl rfl), apart '!' (.inl rfl), apart '|' (.inl rfl), apart '>' (.inl rfl),
    apart '\x27' (.inl rfl), apart '\x22' (.inl rfl), Bool.false_and, Bool.false_eq_true, if_false,
    beginsPlain, if_true]

/-- A colon belongs to a key in a flow collection, and where a blank or the end follows. -/
theorem takeToken_colon
    (ends : (decide (1 < pending.length) || isWordEnd (rest.headD '\x00')) = true) :
    takeToken ⟨⟨':' :: rest, index, line, column⟩, indent, outer, mayBeginKey, pending, tokens,
        tokenCount⟩ =
      takeValue ⟨⟨':' :: rest, index, line, column⟩, indent, outer, mayBeginKey, pending, tokens,
        tokenCount⟩ := by
  have there : (inFlow ⟨⟨':' :: rest, index, line, column⟩, indent, outer, mayBeginKey, pending,
      tokens, tokenCount⟩ || isWordEnd (Cursor.peek ⟨':' :: rest, index, line, column⟩ 1)) = true :=
    ends
  have here : Cursor.peek ⟨':' :: rest, index, line, column⟩ 0 = ':' := rfl
  unfold takeToken
  simp only [here, there]
  rfl

/-! ### Keys -/

theorem takePlain_eq_ok {content : List Char} {ended : Bool} {last : Cursor}
    (noted : before.noteKey = .ok middle)
    (read : readPlain middle.inFlow middle.indent middle.cursor = (content, ended, last)) :
    before.takePlain = .ok { middle.push (.scalar (CodeText.ofChars content) true) with
      cursor := last, mayBeginKey := ended } := by
  rw [takePlain, noted]
  simp only [bind, Except.bind, read]
  rfl

/-- A scalar without quotes with which a key may begin. -/
theorem takePlain_noted {below : List (Option PendingKey)} {word : List Char}
    (plain : IsPlainWord (decide (1 < below.length + 1)) word)
    (stops : plainRun (decide (1 < below.length + 1)) rest = []) (solid : IsSolid rest) :
    takePlain ⟨⟨word ++ rest, index, line, column⟩, indent, outer, true, none :: below, tokens,
        tokenCount⟩ =
      .ok ⟨⟨rest, index + word.length, line, column + word.length⟩, indent, outer, false,
        some ⟨tokenCount, !decide (1 < below.length + 1) && indent == column, index, line, column⟩ ::
          below, .scalar (CodeText.ofChars word) true :: tokens, tokenCount + 1⟩ := by
  have read := @readPlain_solid _ word rest index line column indent plain stops solid
  have noted : noteKey ⟨⟨word ++ rest, index, line, column⟩, indent, outer, true, none :: below,
      tokens, tokenCount⟩ = .ok ⟨⟨word ++ rest, index, line, column⟩, indent, outer, true,
        some ⟨tokenCount, !decide (1 < below.length + 1) && indent == column, index, line, column⟩ ::
          below, tokens, tokenCount⟩ := rfl
  exact takePlain_eq_ok noted read

variable {below : List (Option PendingKey)} {token : Token} {isRequired : Bool}
  {keyIndex keyLine keyColumn : Nat} {word : List Char}

/-- A colon behind a key of the collection that is open. -/
theorem takeValue_same (stays : 0 < below.length ∨ ¬indent < keyColumn) :
    takeValue ⟨⟨':' :: rest, index, line, column⟩, indent, outer, mayBeginKey,
        some ⟨tokenCount, isRequired, keyIndex, keyLine, keyColumn⟩ :: below, token :: tokens,
        tokenCount + 1⟩ =
      .ok ⟨⟨rest, index + 1, line, column + 1⟩, indent, outer, false, none :: below,
        .value :: token :: .key :: tokens, tokenCount + 3⟩ := by
  have one : tokenCount + 1 - tokenCount = 1 := by omega
  have opened (keyed : Scan) (same : keyed.indent = indent) :
      (if 1 < below.length + 1 then (false, keyed) else keyed.openBlock keyColumn) =
        (false, keyed) := by
    split
    · rfl
    · next notFlow =>
      have closed := stays.resolve_left (by omega)
      rw [openBlock, same, if_neg closed]
  simp only [takeValue, insertAt, inFlow, one, List.length_cons, decide_eq_true_eq]
  rw [opened _ rfl]
  rfl

/-- A colon behind the first key of a block that is indented more than the one around it. -/
theorem takeValue_first (deeper : indent < keyColumn) :
    takeValue ⟨⟨':' :: rest, index, line, column⟩, indent, outer, mayBeginKey,
        [some ⟨tokenCount, isRequired, keyIndex, keyLine, keyColumn⟩], token :: tokens,
        tokenCount + 1⟩ =
      .ok ⟨⟨rest, index + 1, line, column + 1⟩, keyColumn, indent :: outer, false, [none],
        .value :: token :: .key :: .blockMappingStart :: tokens, tokenCount + 4⟩ := by
  have one : tokenCount + 1 - tokenCount = 1 := by omega
  have two : tokenCount + 1 + 1 - tokenCount = 2 := by omega
  simp only [takeValue, insertAt, inFlow, openBlock, one, two, deeper, if_true, List.length_cons,
    List.length_nil, Nat.zero_add, Nat.lt_irrefl, decide_false, Bool.false_eq_true, if_false]
  rfl

/-- A scalar with which a key may begin is taken, and no blank follows it. -/
theorem takes_word (plain : IsPlainWord inFlow word) (flow : decide (1 < below.length + 1) = inFlow)
    (stops : plainRun inFlow rest = []) (solid : IsSolid rest)
    (unknown : NoKeys below) (fits : 0 < below.length ∨ indent ≤ column) :
    Takes ⟨⟨word ++ rest, index, line, column⟩, indent, outer, true, none :: below, tokens,
        tokenCount⟩
      ⟨⟨rest, index + word.length, line, column + word.length⟩, indent, outer, false,
        some ⟨tokenCount, !inFlow && indent == column, index, line, column⟩ :: below,
        .scalar (CodeText.ofChars word) true :: tokens, tokenCount + 1⟩ := by
  subst flow
  have taken := @takePlain_noted rest index line column indent outer tokens tokenCount below word
    plain stops solid
  have aligned := @align_self (word ++ rest) index line column indent outer true (none :: below)
    tokens tokenCount plain.isSolid (isFresh_of_noKeys (noKeys_cons unknown))
    (fits.imp_left Nat.succ_lt_succ)
  have chars := plain.chars
  obtain ⟨first, more, rfl, begins, noDot⟩ := plain.begins
  have here := chars first List.mem_cons_self
  simp only [isPlainChar, Bool.and_eq_true, Bool.not_eq_true'] at here
  refine takes_token aligned rfl ((takeToken_plain begins noDot here.1.1.2).trans taken) ?_
  simp only [List.length_append, List.length_cons]
  omega

/-- The scalar stays a key that may have begun as long as the line is not too long. -/
theorem align_word (short : word.length ≤ 1024) (solid : IsSolid rest)
    (unknown : NoKeys below) (fits : 0 < below.length ∨ indent ≤ column) :
    align ⟨⟨rest, index + word.length, line, column + word.length⟩, indent, outer, false,
        some ⟨tokenCount, isRequired, index, line, column⟩ :: below, tokens, tokenCount + 1⟩ =
      .ok ⟨⟨rest, index + word.length, line, column + word.length⟩, indent, outer, false,
        some ⟨tokenCount, isRequired, index, line, column⟩ :: below, tokens, tokenCount + 1⟩ := by
  refine align_self solid ?_ ?_
  · intro key member
    rcases List.mem_cons.mp member with same | isBelow
    · cases same
      simpa [isStale] using short
    · cases unknown _ isBelow
  · rw [List.length_cons]
    omega

/-- A key of the collection that is open, and the colon behind it. -/
theorem takes_key (plain : IsPlainWord inFlow word) (flow : decide (1 < below.length + 1) = inFlow)
    (short : word.length ≤ 1024) (ends : isWordEnd (rest.headD '\x00') = true)
    (unknown : NoKeys below) (stays : 0 < below.length ∨ indent = column) :
    Takes ⟨⟨word ++ ':' :: rest, index, line, column⟩, indent, outer, true, none :: below, tokens,
        tokenCount⟩
      ⟨⟨rest, index + word.length + 1, line, column + word.length + 1⟩, indent, outer, false,
        none :: below, .value :: .scalar (CodeText.ofChars word) true :: .key :: tokens,
        tokenCount + 3⟩ := by
  have colon : IsSolid (':' :: rest) := ⟨rfl, rfl, rfl⟩
  refine (takes_word plain flow (plainRun_colon ends) colon unknown (by omega)).trans ?_
  refine takes_token (align_word short colon unknown (by omega)) rfl
    ((takeToken_colon (by rw [ends, Bool.or_true])).trans (takeValue_same (by omega))) ?_
  exact Nat.lt_succ_self _

/-- The first key of a block, and the colon behind it. -/
theorem takes_firstKey (plain : IsPlainWord false word) (short : word.length ≤ 1024)
    (ends : isWordEnd (rest.headD '\x00') = true) (deeper : indent < column) :
    Takes ⟨⟨word ++ ':' :: rest, index, line, column⟩, indent, outer, true, [none], tokens,
        tokenCount⟩
      ⟨⟨rest, index + word.length + 1, line, column + word.length + 1⟩, column, indent :: outer,
        false, [none],
        .value :: .scalar (CodeText.ofChars word) true :: .key :: .blockMappingStart :: tokens,
        tokenCount + 4⟩ := by
  have colon : IsSolid (':' :: rest) := ⟨rfl, rfl, rfl⟩
  refine (takes_word plain rfl (plainRun_colon ends) colon noKeys_nil
    (Or.inr (Int.le_of_lt deeper))).trans ?_
  refine takes_token (align_word short colon noKeys_nil (by omega)) rfl
    ((takeToken_colon (by rw [ends, Bool.or_true])).trans (takeValue_first deeper)) ?_
  exact Nat.lt_succ_self _

/-! ### Values -/

/-- A value without quotes that ends with its line, no block beginning on the next one. -/
theorem takes_line {count : Nat} (plain : IsPlainWord false word) (solid : IsSolid rest)
    (fits : indent ≤ column) (shallow : (count : Int) ≤ indent)
    (noMark : (Cursor.start (List.replicate count ' ' ++ rest)).atDocumentMark = false) :
    Takes ⟨⟨word ++ '\n' :: (List.replicate count ' ' ++ rest), index, line, column⟩, indent, outer,
        false, [none], tokens, tokenCount⟩
      ⟨⟨rest, index + word.length + 1 + count, line + 1, count⟩, indent, outer, true, [none],
        .scalar (CodeText.ofChars word) true :: tokens, tokenCount + 1⟩ := by
  have read := @readPlain_line word rest index line column indent count plain solid shallow noMark
  have aligned := @align_self (word ++ '\n' :: (List.replicate count ' ' ++ rest)) index line column
    indent outer false [none] tokens tokenCount plain.isSolid
    (isFresh_of_noKeys (noKeys_cons noKeys_nil)) (Or.inr fits)
  have chars := plain.chars
  obtain ⟨first, more, rfl, begins, noDot⟩ := plain.begins
  have here := chars first List.mem_cons_self
  simp only [isPlainChar, Bool.and_eq_true, Bool.not_eq_true'] at here
  have noted : noteKey ⟨⟨first :: more ++ '\n' :: (List.replicate count ' ' ++ rest), index, line,
      column⟩, indent, outer, false, [none], tokens, tokenCount⟩ = .ok _ := rfl
  refine takes_token aligned rfl
    ((takeToken_plain begins noDot here.1.1.2).trans (takePlain_eq_ok noted read)) ?_
  simp only [List.length_append, List.length_cons]
  omega

/-- A value in single quotes, in a flow collection. -/
theorem takes_quoted (inLine : ∀ char ∈ word, isInLine char = true)
    (quoted : ∀ char ∈ word, isQuotedChar char = true)
    (single : (rest.headD '\x00' == '\x27') = false) :
    Takes ⟨⟨'\x27' :: (word ++ '\x27' :: rest), index, line, column⟩, indent, outer, false,
        [none, none], tokens, tokenCount⟩
      ⟨⟨rest, index + 1 + word.length + 1, line, column + 1 + word.length + 1⟩, indent, outer, false,
        [none, none], .scalar (CodeText.ofChars word) false :: tokens, tokenCount + 1⟩ := by
  have noKey : NoKeys [none, none] := noKeys_cons (noKeys_cons noKeys_nil)
  have inFlow : 1 < [(none : Option PendingKey), none].length := Nat.lt_succ_self 1
  refine takes_token (align_self ⟨rfl, rfl, rfl⟩ (isFresh_of_noKeys noKey) (Or.inl inFlow)) rfl ?_ ?_
  · change takeQuoted false _ = _
    change (readQuoted false ⟨'\x27' :: (word ++ '\x27' :: rest), index, line, column⟩ >>= _) >>= _ =
      _
    rw [readQuoted_eq_ok inLine quoted single]
    rfl
  · simp only [List.length_append, List.length_cons]
    omega

/-! ### Marks -/

theorem takes_mark {mark : Char} {mayBeginNext : Bool} {pendingNext : List (Option PendingKey)}
    {token : Token}
    (aligned : align ⟨⟨mark :: rest, index, line, column⟩, indent, outer, mayBeginKey, pending,
      tokens, tokenCount⟩ = .ok ⟨⟨mark :: rest, index, line, column⟩, indent, outer, mayBeginKey,
        pending, tokens, tokenCount⟩)
    (taken : takeToken ⟨⟨mark :: rest, index, line, column⟩, indent, outer, mayBeginKey, pending,
      tokens, tokenCount⟩ = .ok ⟨⟨rest, index + 1, line, column + 1⟩, indent, outer, mayBeginNext,
        pendingNext, token :: tokens, tokenCount + 1⟩) :
    Takes ⟨⟨mark :: rest, index, line, column⟩, indent, outer, mayBeginKey, pending, tokens,
        tokenCount⟩
      ⟨⟨rest, index + 1, line, column + 1⟩, indent, outer, mayBeginNext, pendingNext,
        token :: tokens, tokenCount + 1⟩ :=
  takes_token aligned rfl taken (Nat.lt_succ_self _)

/-! ### The whole text -/

/-- At the end of the text the outermost block ends. -/
theorem run_end (aligned : before.align = .ok ⟨⟨[], index, line, column⟩, 0, [-1], mayBeginKey,
    [none], tokens, tokenCount⟩) (fuel : Nat) :
    before.run (fuel + 1) = ⟨(.blockEnd :: tokens).reverse, none⟩ := by
  rw [run, aligned]
  rfl

/-- A scalar that is too long for a key stops the scan at the colon behind it. -/
theorem run_of_long (long : 1024 < word.length) (ends : isWordEnd (rest.headD '\x00') = true)
    (fits : indent ≤ column) (fuel : Nat) :
    run (fuel + 1) ⟨⟨':' :: rest, index + word.length, line, column + word.length⟩, indent, outer,
        false, [some ⟨tokenCount, isRequired, index, line, column⟩], tokens, tokenCount + 1⟩ =
      ⟨tokens.reverse, some .malformed⟩ := by
  have skipped := @skipToToken_solid (':' :: rest) (index + word.length) line (column + word.length)
    indent outer false [some ⟨tokenCount, isRequired, index, line, column⟩] tokens (tokenCount + 1)
    ⟨rfl, rfl, rfl⟩ (':' :: rest).length
  have stale : isStale ⟨⟨':' :: rest, index + word.length, line, column + word.length⟩, indent, outer,
      false, [some ⟨tokenCount, isRequired, index, line, column⟩], tokens, tokenCount + 1⟩
        ⟨tokenCount, isRequired, index, line, column⟩ = true := by
    simp [isStale, long]
  -- the reader gets all tokens, since the scalar is no key any more
  have settled : stopAt ⟨⟨':' :: rest, index + word.length, line, column + word.length⟩, indent, outer,
      false, [some ⟨tokenCount, isRequired, index, line, column⟩], tokens, tokenCount + 1⟩
        .malformed = ⟨tokens.reverse, some .malformed⟩ := by
    simp [stopAt, settledCount, stale]
  rw [run]
  cases isRequired with
  | true =>
      have lost : align ⟨⟨':' :: rest, index + word.length, line, column + word.length⟩, indent, outer,
          false, [some ⟨tokenCount, true, index, line, column⟩], tokens, tokenCount + 1⟩ =
            .error .malformed := by
        rw [align, skipped]
        simp only [dropStaleKeys, List.any_cons, stale]
        rfl
      rw [lost]
      exact settled
  | false =>
      -- the key is forgotten, and the colon stands where none may be
      have forgotten : align ⟨⟨':' :: rest, index + word.length, line, column + word.length⟩, indent,
          outer, false, [some ⟨tokenCount, false, index, line, column⟩], tokens, tokenCount + 1⟩ =
            .ok ⟨⟨':' :: rest, index + word.length, line, column + word.length⟩, indent, outer,
              false, [none], tokens, tokenCount + 1⟩ := by
        rw [align, skipped]
        simp only [dropStaleKeys, List.any_cons, stale, List.map_cons]
        exact congrArg Except.ok (closeBlocks_of_le (by dsimp only; omega))
      rw [forgotten]
      dsimp only
      rw [takeToken_colon (by rw [ends, Bool.or_true])]
      exact settled

theorem exists_run_of_long (plain : IsPlainWord false word) (long : 1024 < word.length)
    (ends : isWordEnd (rest.headD '\x00') = true) (fits : indent ≤ column) :
    ∃ last, Takes ⟨⟨word ++ ':' :: rest, index, line, column⟩, indent, outer, true, [none], tokens,
        tokenCount⟩ last ∧
      ∀ fuel, last.run (fuel + 1) =
        ⟨tokens.reverse ++ [.scalar (CodeText.ofChars word) true], some .malformed⟩ := by
  have taken := @takes_word false (':' :: rest) index line column indent outer tokens tokenCount []
    word plain rfl (plainRun_colon ends) ⟨rfl, rfl, rfl⟩ noKeys_nil (Or.inr fits)
  refine ⟨_, taken, fun fuel => ?_⟩
  rw [run_of_long long ends fits, List.reverse_cons]

/-- What is taken from the start of a text is part of what the text has. -/
theorem exists_scan_eq {source : List Char} (allowed : source.all isAllowed = true)
    (noMark : (source.headD '\x00' == '\uFEFF') = false) (takes : Takes (start source) after) :
    ∃ fuel, Token.scan source = after.run (fuel + 1) := by
  obtain ⟨count, fewer, ran⟩ := exists_run_eq takes
  have known : ((start source).cursor.peek == '\uFEFF') = false := noMark
  obtain ⟨fuel, enough⟩ : ∃ fuel, source.length + 2 = count + (fuel + 1) :=
    ⟨source.length + 1 - count, by
      have short : count + after.cursor.rest.length ≤ source.length := fewer
      omega⟩
  refine ⟨fuel, ?_⟩
  rw [Token.scan, if_pos allowed]
  dsimp only
  rw [known, if_neg Bool.false_ne_true, enough]
  exact ran (fuel + 1)

end Scan

end EntityScaffold.Yaml
