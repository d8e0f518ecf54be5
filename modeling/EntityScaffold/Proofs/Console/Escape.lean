import EntityScaffold.Console.Report

/-
Escaped text in markup. Whatever a text holds, its escaped form opens and closes no style: what could
be a tag in it stands behind an odd number of backslashes, and the text that was no tag does not become
one. So a message in a style can always be printed, and only what stands around the text counts.
-/

namespace EntityScaffold.Console

namespace Markup

variable {opened : List OpenTag} {pieces : List MarkupPiece} {text tail content after : CodeText}

/-! ### Pieces that can be rendered -/

/-- Pieces leave a text, with these tags open and wherever they stand. -/
def Renders (opened : List OpenTag) (pieces : List MarkupPiece) : Prop :=
  ∀ position, ∃ text, render opened position pieces = .ok text

theorem renders_nil (opened : List OpenTag) : Renders opened [] := fun _ => ⟨[], rfl⟩

theorem renders_text (plain : CodeText) (rest : Renders opened pieces) :
    Renders opened (.text plain :: pieces) := by
  intro position
  obtain ⟨shown, rendered⟩ := rest (position + plain.length)
  refine ⟨showText plain ++ shown, ?_⟩
  rw [render, rendered]
  rfl

theorem renders_addText (plain : CodeText) (rest : Renders opened pieces) :
    Renders opened (addText plain pieces) := by
  unfold addText
  split
  · next more others =>
    intro position
    obtain ⟨shown, rendered⟩ := rest (position + plain.length)
    rw [render] at rendered
    obtain ⟨behind, renderedBehind⟩ :
        ∃ behind, render opened (position + plain.length + more.length) others = .ok behind := by
      cases others' : render opened (position + plain.length + more.length) others with
      | ok behind => exact ⟨behind, rfl⟩
      | error error =>
          rw [others'] at rendered
          cases rendered
    refine ⟨showText (plain ++ more) ++ behind, ?_⟩
    rw [render, List.length_append, ← Nat.add_assoc, renderedBehind]
    rfl
  · split
    · exact rest
    · exact renders_text plain rest

/-- A tag behind an odd number of backslashes is text. -/
theorem renders_literal {backslashes : Nat} (odd : backslashes % 2 = 1) (content : CodeText)
    (rest : Renders opened pieces) : Renders opened (.tag backslashes content :: pieces) := by
  intro position
  obtain ⟨shown, rendered⟩ := rest (position + backslashes + content.length + 2)
  refine ⟨List.replicate (backslashes / 2) backslash ++
    showText (opening :: content ++ [closing]) ++ shown, ?_⟩
  rw [render, if_pos odd, rendered]
  rfl

/-- A tag behind an even number of backslashes opens or closes a style. -/
theorem renders_tag {backslashes : Nat} {next : List OpenTag} (even : backslashes % 2 ≠ 1)
    (tagged : ∀ position, openAfter opened position content = .ok next)
    (rest : Renders next pieces) : Renders opened (.tag backslashes content :: pieces) := by
  intro position
  obtain ⟨shown, rendered⟩ := rest (position + backslashes + content.length + 2)
  refine ⟨List.replicate (backslashes / 2) backslash ++ shown, ?_⟩
  rw [render, if_neg even, tagged]
  simp only [bind, Except.bind, rendered]
  rfl

/-! ### Tags -/

def isInner (point : CodePoint) : Bool := point ≠ opening && point ≠ closing

theorem isInner_opening : isInner opening = false := by decide

theorem isInner_closing : isInner closing = false := by decide

theorem isInner_backslash : isInner backslash = true := by decide

theorem tagContent?_cons (point : CodePoint) (rest : CodeText) :
    tagContent? (point :: rest) =
      if startsTag point then
        match rest.dropWhile isInner with
        | bracket :: after =>
          if bracket = closing then some (point :: rest.takeWhile isInner, after) else none
        | [] => none
      else none := rfl

/-- The first bracket of a text, if there is one, is an opening one. -/
def OpensFirst (text : CodeText) : Prop := (text.dropWhile isInner).head? ≠ some closing

theorem opensFirst_nil : OpensFirst [] := by
  unfold OpensFirst
  simp

theorem opensFirst_opening (text : CodeText) : OpensFirst (opening :: text) := by
  have different : opening ≠ closing := by decide
  rw [OpensFirst, List.dropWhile_cons_of_neg (by simp [isInner_opening])]
  simp [different]

theorem opensFirst_cons {point : CodePoint} (inner : isInner point = true) :
    OpensFirst (point :: text) ↔ OpensFirst text := by
  rw [OpensFirst, List.dropWhile_cons_of_pos inner]
  rfl

theorem isInner_of_opensFirst {point : CodePoint} (opens : OpensFirst (point :: text))
    (noOpening : point ≠ opening) : isInner point = true := by
  by_cases closes : point = closing
  · refine absurd ?_ opens
    rw [closes, List.dropWhile_cons_of_neg (by simp [isInner_closing])]
    rfl
  · simp [isInner, noOpening, closes]

theorem opensFirst_replicate_append (count : Nat) :
    OpensFirst (List.replicate count backslash ++ text) ↔ OpensFirst text := by
  induction count with
  | zero => rfl
  | succ count ih =>
      rw [List.replicate_succ, List.cons_append, opensFirst_cons isInner_backslash, ih]

theorem tagContent?_cons_eq_none_iff {point : CodePoint} :
    tagContent? (point :: text) = none ↔ (startsTag point = true → OpensFirst text) := by
  rw [tagContent?_cons, OpensFirst]
  cases startsTag point with
  | false => simp
  | true =>
      cases text.dropWhile isInner with
      | nil => simp
      | cons bracket after => by_cases closes : bracket = closing <;> simp [closes]

/-- What stands between brackets, and could be a tag. -/
inductive IsTag : CodeText → Prop where
  | cons {point : CodePoint} {inner : CodeText} (starts : startsTag point = true)
      (plain : ∀ next ∈ inner, isInner next = true) : IsTag (point :: inner)

theorem isInner_of_startsTag {point : CodePoint} (starts : startsTag point = true) :
    isInner point = true := by
  have noBrackets : startsTag opening = false ∧ startsTag closing = false := by decide
  have noOpening : point ≠ opening := fun same => by
    rw [same, noBrackets.1] at starts
    cases starts
  have noClosing : point ≠ closing := fun same => by
    rw [same, noBrackets.2] at starts
    cases starts
  simp [isInner, noOpening, noClosing]

/-- A tag stays one behind a point that starts tags. -/
theorem IsTag.behind {point : CodePoint} (isTag : IsTag content) (starts : startsTag point = true) :
    IsTag (point :: content) := by
  obtain ⟨first, plain⟩ := isTag
  exact .cons starts (List.forall_mem_cons.mpr ⟨isInner_of_startsTag first, plain⟩)

theorem IsTag.tagContent? (isTag : IsTag content) (after : CodeText) :
    tagContent? (content ++ closing :: after) = some (content, after) := by
  obtain ⟨starts, plain⟩ := isTag
  have stops : ¬isInner closing = true := by simp [isInner_closing]
  rw [List.cons_append, tagContent?_cons, if_pos starts, List.dropWhile_append_of_pos plain,
    List.takeWhile_append_of_pos plain, List.dropWhile_cons_of_neg stops,
    List.takeWhile_cons_of_neg stops]
  simp

/-- What is found as a tag in front of a bracket is just what could be one. -/
theorem tagContent?_eq_some_iff :
    tagContent? text = some (content, after) ↔
      IsTag content ∧ text = content ++ closing :: after := by
  constructor
  · intro found
    cases text with
    | nil => cases found
    | cons point rest =>
        rw [tagContent?_cons] at found
        split at found
        · next starts =>
          split at found
          · next bracket behind ending =>
            split at found
            · next closes =>
              cases found
              refine ⟨.cons starts fun next member =>
                List.all_eq_true.mp List.all_takeWhile next member, ?_⟩
              rw [List.cons_append, ← closes, ← ending, List.takeWhile_append_dropWhile]
            · cases found
          · cases found
        · cases found
  · rintro ⟨isTag, same⟩
    rw [same]
    exact isTag.tagContent? after

theorem isTag_of_tagContent? (found : tagContent? text = some (content, after)) :
    IsTag content := (tagContent?_eq_some_iff.mp found).1

/-! ### Pieces of a text -/

theorem piecesFrom_nil (backslashes : Nat) :
    piecesFrom backslashes [] = addText (List.replicate backslashes backslash) [] := by
  rw [piecesFrom]

theorem piecesFrom_backslash (backslashes : Nat) (rest : CodeText) :
    piecesFrom backslashes (backslash :: rest) = piecesFrom (backslashes + 1) rest := by
  rw [piecesFrom]
  simp

theorem piecesFrom_replicate (backslashes count : Nat) (rest : CodeText) :
    piecesFrom backslashes (List.replicate count backslash ++ rest) =
      piecesFrom (backslashes + count) rest := by
  induction count generalizing backslashes with
  | zero => rfl
  | succ count ih =>
      rw [List.replicate_succ, List.cons_append, piecesFrom_backslash, ih, Nat.add_assoc,
        Nat.add_comm 1]

theorem piecesFrom_tag {rest : CodeText} (backslashes : Nat)
    (found : tagContent? rest = some (content, after)) :
    piecesFrom backslashes (opening :: rest) = .tag backslashes content :: piecesFrom 0 after := by
  have different : opening ≠ backslash := by decide
  rw [piecesFrom]
  simp only [different, if_false, if_true]
  split
  · next same =>
    rw [found] at same
    cases same
    rfl
  · next none =>
    rw [found] at none
    cases none

theorem piecesFrom_opening {rest : CodeText} (backslashes : Nat)
    (untagged : tagContent? rest = none) :
    piecesFrom backslashes (opening :: rest) =
      addText (List.replicate backslashes backslash ++ [opening]) (piecesFrom 0 rest) := by
  have different : opening ≠ backslash := by decide
  rw [piecesFrom]
  simp only [different, if_false, if_true]
  split
  · next found =>
    rw [untagged] at found
    cases found
  · rfl

theorem piecesFrom_plain {point : CodePoint} (backslashes : Nat) (rest : CodeText)
    (noBackslash : point ≠ backslash) (noOpening : point ≠ opening) :
    piecesFrom backslashes (point :: rest) =
      addText (List.replicate backslashes backslash ++ [point]) (piecesFrom 0 rest) := by
  rw [piecesFrom]
  simp only [noBackslash, noOpening, if_false]

/-! ### Escaped text -/

def escapePiece : MarkupPiece → CodeText
  | .text plain => plain
  | .tag backslashes content =>
    List.replicate (2 * backslashes + 1) backslash ++ opening :: content ++ [closing]

/-- The escaped form of a text behind some backslashes. -/
def escapeFrom (backslashes : Nat) (text : CodeText) : CodeText :=
  (piecesFrom backslashes text).flatMap escapePiece

/-- A text is escaped piece by piece, and may get backslashes at its end. -/
theorem exists_escape_eq (text : CodeText) :
    ∃ count, escape text = escapeFrom 0 text ++ List.replicate count backslash := by
  have whole : escape text = guardEnd (escapeFrom 0 text) := rfl
  rw [whole, guardEnd]
  split
  · split
    · exact ⟨1, rfl⟩
    · exact ⟨0, (List.append_nil _).symm⟩
  · exact ⟨0, (List.append_nil _).symm⟩

theorem flatMap_addText (points : CodeText) (pieces : List MarkupPiece) :
    (addText points pieces).flatMap escapePiece = points ++ pieces.flatMap escapePiece := by
  unfold addText
  split
  · rw [List.flatMap_cons, List.flatMap_cons, escapePiece, escapePiece, List.append_assoc]
  · split
    · next none =>
      rw [List.isEmpty_iff.mp none]
      rfl
    · rfl

theorem escapeFrom_nil (backslashes : Nat) :
    escapeFrom backslashes [] = List.replicate backslashes backslash := by
  rw [escapeFrom, piecesFrom_nil, flatMap_addText]
  exact List.append_nil _

theorem escapeFrom_backslash (backslashes : Nat) (rest : CodeText) :
    escapeFrom backslashes (backslash :: rest) = escapeFrom (backslashes + 1) rest := by
  rw [escapeFrom, piecesFrom_backslash, escapeFrom]

theorem escapeFrom_tag {rest : CodeText} (backslashes : Nat)
    (found : tagContent? rest = some (content, after)) :
    escapeFrom backslashes (opening :: rest) =
      List.replicate (2 * backslashes + 1) backslash ++
        opening :: (content ++ closing :: escapeFrom 0 after) := by
  rw [escapeFrom, piecesFrom_tag backslashes found, List.flatMap_cons, escapePiece, escapeFrom]
  simp only [List.cons_append, List.append_assoc, List.nil_append]

theorem escapeFrom_opening {rest : CodeText} (backslashes : Nat)
    (untagged : tagContent? rest = none) :
    escapeFrom backslashes (opening :: rest) =
      List.replicate backslashes backslash ++ opening :: escapeFrom 0 rest := by
  rw [escapeFrom, piecesFrom_opening backslashes untagged, flatMap_addText, escapeFrom,
    List.append_assoc, List.singleton_append]

theorem escapeFrom_plain {point : CodePoint} (backslashes : Nat) (rest : CodeText)
    (noBackslash : point ≠ backslash) (noOpening : point ≠ opening) :
    escapeFrom backslashes (point :: rest) =
      List.replicate backslashes backslash ++ point :: escapeFrom 0 rest := by
  rw [escapeFrom, piecesFrom_plain backslashes rest noBackslash noOpening, flatMap_addText,
    escapeFrom, List.append_assoc, List.singleton_append]

theorem exists_escapeFrom_succ (backslashes : Nat) (text : CodeText) :
    ∃ rest, escapeFrom (backslashes + 1) text = backslash :: rest := by
  induction text generalizing backslashes with
  | nil => exact ⟨List.replicate backslashes backslash, escapeFrom_nil _⟩
  | cons point rest ih =>
      by_cases isBackslash : point = backslash
      · rw [isBackslash, escapeFrom_backslash]
        exact ih (backslashes + 1)
      · by_cases isOpening : point = opening
        · rw [isOpening]
          cases found : tagContent? rest with
          | none => exact ⟨_, escapeFrom_opening _ found⟩
          | some split => exact ⟨_, escapeFrom_tag _ found⟩
        · exact ⟨_, escapeFrom_plain _ rest isBackslash isOpening⟩

/-- The first bracket stays what it was. -/
theorem opensFirst_escapeFrom (backslashes : Nat) (opens : OpensFirst text)
    (later : OpensFirst tail) : OpensFirst (escapeFrom backslashes text ++ tail) := by
  induction text generalizing backslashes with
  | nil => rwa [escapeFrom_nil, opensFirst_replicate_append]
  | cons point rest ih =>
      by_cases isOpening : point = opening
      · rw [isOpening]
        cases found : tagContent? rest with
        | none =>
            rw [escapeFrom_opening _ found, List.append_assoc, opensFirst_replicate_append]
            exact opensFirst_opening _
        | some split =>
            rw [escapeFrom_tag _ found, List.append_assoc, opensFirst_replicate_append]
            exact opensFirst_opening _
      · have inner := isInner_of_opensFirst opens isOpening
        have opensLater := (opensFirst_cons inner).mp opens
        by_cases isBackslash : point = backslash
        · rw [isBackslash, escapeFrom_backslash]
          exact ih (backslashes + 1) opensLater
        · rw [escapeFrom_plain _ rest isBackslash isOpening, List.append_assoc,
            opensFirst_replicate_append, List.cons_append, opensFirst_cons inner]
          exact ih 0 opensLater

/-- What is no tag does not become one, unless the text behind it makes it one. -/
theorem tagContent?_escapeFrom (untagged : tagContent? text = none)
    (later : tagContent? tail = none) (laterOpens : OpensFirst tail) :
    tagContent? (escapeFrom 0 text ++ tail) = none := by
  have notStarting {point : CodePoint} {rest : CodeText} (starts : startsTag point = false) :
      tagContent? (point :: rest) = none := by
    rw [tagContent?_cons, starts]
    rfl
  cases text with
  | nil =>
      rw [escapeFrom_nil]
      exact later
  | cons point rest =>
      by_cases isBackslash : point = backslash
      · obtain ⟨behind, same⟩ := exists_escapeFrom_succ 0 rest
        rw [isBackslash, escapeFrom_backslash, same]
        exact notStarting (by decide)
      · by_cases isOpening : point = opening
        · rw [isOpening]
          cases found : tagContent? rest with
          | none =>
              rw [escapeFrom_opening _ found]
              exact notStarting (by decide)
          | some split =>
              rw [escapeFrom_tag _ found]
              exact notStarting (by decide)
        · have same := escapeFrom_plain 0 rest isBackslash isOpening
          rw [List.replicate_zero, List.nil_append] at same
          rw [same, List.cons_append, tagContent?_cons_eq_none_iff]
          intro starts
          exact opensFirst_escapeFrom 0 (tagContent?_cons_eq_none_iff.mp untagged starts) laterOpens

/-- The pieces of an escaped text can be rendered when what stands behind it can, whatever
backslashes come in front of that. -/
theorem renders_escapeFrom (backslashes : Nat) (text : CodeText) (later : tagContent? tail = none)
    (laterOpens : OpensFirst tail) (rest : ∀ count, Renders opened (piecesFrom count tail)) :
    Renders opened (piecesFrom 0 (escapeFrom backslashes text ++ tail)) := by
  induction backslashes, text using piecesFrom.induct with
  | case1 backslashes =>
      rw [escapeFrom_nil, piecesFrom_replicate]
      exact rest _
  | case2 backslashes text ih =>
      rw [escapeFrom_backslash]
      exact ih
  | case3 backslashes text content after found different ih =>
      -- the backslashes in front of the tag are odd in number now
      have isTag := isTag_of_tagContent? found
      rw [escapeFrom_tag _ found, List.append_assoc, piecesFrom_replicate, List.cons_append,
        List.append_assoc, List.cons_append, piecesFrom_tag _ (isTag.tagContent? _)]
      exact renders_literal (by omega) content ih
  | case4 backslashes text untagged different ih =>
      rw [escapeFrom_opening _ untagged, List.append_assoc, piecesFrom_replicate, List.cons_append,
        piecesFrom_opening _ (tagContent?_escapeFrom untagged later laterOpens)]
      exact renders_addText _ ih
  | case5 backslashes point text noBackslash noOpening ih =>
      rw [escapeFrom_plain _ text noBackslash noOpening, List.append_assoc, piecesFrom_replicate,
        List.cons_append, piecesFrom_plain _ _ noBackslash noOpening]
      exact renders_addText _ ih

theorem renders_escape (text : CodeText) (later : tagContent? tail = none)
    (laterOpens : OpensFirst tail) (rest : ∀ count, Renders opened (piecesFrom count tail)) :
    Renders opened (piecesFrom 0 (escape text ++ tail)) := by
  obtain ⟨guards, same⟩ := exists_escape_eq text
  rw [same, List.append_assoc]
  refine renders_escapeFrom 0 text ?_ ((opensFirst_replicate_append guards).mpr laterOpens) ?_
  · cases guards with
    | zero => exact later
    | succ guards =>
        rw [List.replicate_succ, List.cons_append, tagContent?_cons_eq_none_iff]
        intro starts
        cases starts
  · intro count
    rw [piecesFrom_replicate]
    exact rest _

end Markup

end EntityScaffold.Console
