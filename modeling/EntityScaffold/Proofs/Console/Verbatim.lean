import EntityScaffold.Proofs.Console.Messages
import EntityScaffold.Proofs.Console.ShortLines

/-
What is shown of a text. Marked-up text of printable ASCII is shown as it is if it holds no tag, no
backslash in front of a bracket, and no name of an emoji. Without colons there are no names of
emoji, and then a text that is shown as it is holds no tag and no such backslash: whatever is
dropped makes it shorter.
-/

namespace EntityScaffold

namespace Text

def colon : CodePoint := CodePoint.ofChar ':'

theorem replaceEmoji_cons {point : CodePoint} (noColon : point ≠ colon) (text : CodeText) :
    replaceEmoji (point :: text) = point :: replaceEmoji text := by
  rw [replaceEmoji]
  exact if_neg noColon

theorem replaceEmoji_of_no_colon {text : CodeText} (noColon : colon ∉ text) :
    replaceEmoji text = text := by
  induction text with
  | nil => rw [replaceEmoji]
  | cons point text ih =>
      rw [List.mem_cons, not_or] at noColon
      rw [replaceEmoji_cons (Ne.symm noColon.1), ih noColon.2]

end Text

namespace Console

namespace Markup

open Text (colon)

variable {opened next : List OpenTag} {pieces : List MarkupPiece}
  {text tail content after shown : CodeText} {point : CodePoint}

/-! ### Backslashes in front of brackets -/

/-- Does no backslash of a text stand in front of a bracket? -/
def NoGuard (text : CodeText) : Prop := ¬[backslash, opening] <:+: text

theorem dropGuards_cons (different : point ≠ backslash) (text : CodeText) :
    showText.dropGuards (point :: text) = point :: showText.dropGuards text := by
  rw [showText.dropGuards]
  simp [different]

theorem dropGuards_sublist (text : CodeText) : (showText.dropGuards text).Sublist text := by
  induction text with
  | nil => exact List.Sublist.refl []
  | cons point text ih =>
      rw [showText.dropGuards]
      split
      · exact ih.cons point
      · exact ih.cons_cons point

theorem dropGuards_eq_self_iff : showText.dropGuards text = text ↔ NoGuard text := by
  induction text with
  | nil => simp [NoGuard, showText.dropGuards]
  | cons point text ih =>
      rw [showText.dropGuards]
      by_cases guarded : (decide (point = backslash) && decide (text.head? = some opening)) = true
      · have shorter := (dropGuards_sublist text).length_le
        rw [if_pos guarded]
        simp only [Bool.and_eq_true, decide_eq_true_eq] at guarded
        obtain ⟨rfl, head⟩ := guarded
        obtain ⟨others, rfl⟩ := List.head?_eq_some_iff.1 head
        constructor
        · intro same
          have lengths := congrArg List.length same
          rw [List.length_cons] at lengths
          omega
        · intro none
          exact absurd ⟨[], others, rfl⟩ none
      · rw [if_neg guarded, List.cons.injEq, and_iff_right rfl, ih]
        refine not_congr ?_
        rw [List.infix_cons_iff]
        constructor
        · exact Or.inr
        · rintro (front | inside)
          · obtain ⟨same, others, rfl⟩ := List.cons_prefix_cons.1 front
            rw [← same] at guarded
            exact absurd (by simp) guarded
          · exact inside

/-! ### Neutral text -/

/-- Is a text free of what has a meaning in markup: brackets that open, backslashes and colons? -/
def IsNeutral (text : CodeText) : Prop :=
  ∀ point ∈ text, point ≠ opening ∧ point ≠ backslash ∧ point ≠ colon

instance (text : CodeText) : Decidable (IsNeutral text) :=
  inferInstanceAs (Decidable (∀ point ∈ text, _ ∧ _ ∧ _))

theorem showText_cons (noBackslash : point ≠ backslash) (noColon : point ≠ colon)
    (text : CodeText) : showText (point :: text) = point :: showText text := by
  rw [showText, dropGuards_cons noBackslash, Text.replaceEmoji_cons noColon, showText]

/-- Pieces leave a text with these tags open, wherever they stand. -/
def Leaves (opened : List OpenTag) (pieces : List MarkupPiece) (shown : CodeText) : Prop :=
  ∀ position, render opened position pieces = .ok shown

theorem leaves_nil (opened : List OpenTag) : Leaves opened [] [] := fun _ => rfl

theorem leaves_text (plain : CodeText) (rest : Leaves opened pieces shown) :
    Leaves opened (.text plain :: pieces) (showText plain ++ shown) := by
  intro position
  rw [render, rest]
  rfl

theorem leaves_literal (backslashes : Nat) (odd : backslashes % 2 = 1) (content : CodeText)
    (rest : Leaves opened pieces shown) :
    Leaves opened (.tag backslashes content :: pieces)
      (List.replicate (backslashes / 2) backslash ++ showText (opening :: content ++ [closing]) ++
        shown) := by
  intro position
  rw [render, if_pos odd, rest]
  rfl

theorem leaves_tag (tagged : ∀ position, openAfter opened position content = .ok next)
    (rest : Leaves next pieces shown) : Leaves opened (.tag 0 content :: pieces) shown := by
  intro position
  have even : ¬0 % 2 = 1 := by decide
  rw [render, if_neg even, tagged]
  simp only [bind, Except.bind]
  rw [rest]
  rfl

theorem showText_nil : showText [] = [] := Text.replaceEmoji_of_no_colon List.not_mem_nil

/-- Text in front of pieces is shown with the text that they begin with. -/
theorem leaves_addText (noBackslash : point ≠ backslash) (noColon : point ≠ colon)
    (rest : Leaves opened pieces shown) :
    Leaves opened (addText [point] pieces) (point :: shown) := by
  unfold addText
  split
  · next more others =>
    intro position
    have whole := rest (position + 1)
    rw [render] at whole ⊢
    rw [List.singleton_append, showText_cons noBackslash noColon, List.length_cons,
      Nat.add_comm more.length 1, ← Nat.add_assoc]
    cases rendered : render opened (position + 1 + more.length) others with
    | error error =>
        rw [rendered] at whole
        cases whole
    | ok behind =>
        rw [rendered] at whole
        cases whole
        rfl
  · have both := leaves_text [point] rest
    rwa [showText_cons noBackslash noColon, showText_nil, List.singleton_append] at both

/-- Neutral text is left as it is in front of what stands behind it. -/
theorem leaves_neutral_append {plain : CodeText} (neutral : IsNeutral plain)
    (behind : Leaves opened (piecesFrom 0 tail) shown) :
    Leaves opened (piecesFrom 0 (plain ++ tail)) (plain ++ shown) := by
  induction plain with
  | nil => exact behind
  | cons point plain ih =>
      obtain ⟨⟨noOpening, noBackslash, noColon⟩, others⟩ := List.forall_mem_cons.1 neutral
      rw [List.cons_append, List.cons_append, piecesFrom_plain 0 _ noBackslash noOpening]
      exact leaves_addText noBackslash noColon (ih others)

theorem leaves_tag_append (isTag : IsTag content)
    (tagged : ∀ position, openAfter opened position content = .ok next)
    (behind : Leaves next (piecesFrom 0 after) shown) :
    Leaves opened (piecesFrom 0 (opening :: (content ++ closing :: after))) shown := by
  rw [piecesFrom_tag 0 (isTag.tagContent? after)]
  exact leaves_tag tagged behind

/-- Neutral text in a style is left without the style. -/
theorem leaves_styled {style : String} {plain : CodeText}
    (described : Style.IsPlain (CodeText.ofString style)) (neutral : IsNeutral plain)
    (behind : Leaves [] (piecesFrom 0 tail) shown) :
    Leaves [] (piecesFrom 0 (styled style plain ++ tail)) (plain ++ shown) := by
  obtain ⟨opened, opens, closes⟩ := exists_openAfter_eq described
  have isTag := isTag_of_tagContent? described.found
  have slashed : IsTag (CodePoint.ofChar '/' :: CodeText.ofString style) :=
    isTag.behind (by decide)
  have ending : Leaves opened (piecesFrom 0 (endTag style ++ tail)) shown := by
    have tag := leaves_tag_append slashed closes behind
    rwa [endTag, List.cons_append, List.append_assoc, List.singleton_append]
  have whole := leaves_tag_append isTag opens (leaves_neutral_append neutral ending)
  rwa [styled_eq, List.cons_append, List.append_assoc, List.cons_append, List.append_assoc]

theorem leaves_end (opened : List OpenTag) : Leaves opened (piecesFrom 0 []) [] := by
  rw [piecesFrom_nil]
  exact leaves_nil opened

/-! ### Places of pieces -/

theorem openAfter_eq_ok_of_eq_ok {first second : Nat}
    (done : openAfter opened first content = .ok next) :
    openAfter opened second content = .ok next := by
  unfold openAfter at done ⊢
  dsimp only at done ⊢
  split
  · next slash =>
    rw [if_pos slash] at done
    split
    · next blank =>
      rw [if_pos blank] at done
      cases opened with
      | nil => cases done
      | cons tag rest => exact done
    · next named =>
      rw [if_neg named] at done
      cases known : styleName (Text.trim CodePoint.isBlank
          (content.takeWhile (· ≠ CodePoint.ofChar '=')).tail) with
      | error error =>
          rw [known] at done
          cases done
      | ok name =>
          rw [known] at done
          simp only [bind, Except.bind] at done ⊢
          split
          · next found =>
            rw [found] at done
            exact done
          · next found =>
            rw [found] at done
            cases done
  · next noSlash =>
    rw [if_neg noSlash] at done
    exact done

/-- What a piece leaves, with the tags that are open behind it. -/
inductive PieceLeaves (opened : List OpenTag) : MarkupPiece → CodeText → List OpenTag → Prop where
  | text (plain : CodeText) : PieceLeaves opened (.text plain) (showText plain) opened
  | literal {backslashes : Nat} (odd : backslashes % 2 = 1) (content : CodeText) :
    PieceLeaves opened (.tag backslashes content)
      (List.replicate (backslashes / 2) backslash ++ showText (opening :: content ++ [closing]))
      opened
  | tag {backslashes position : Nat} {content : CodeText} {next : List OpenTag}
    (even : ¬backslashes % 2 = 1) (tagged : openAfter opened position content = .ok next) :
    PieceLeaves opened (.tag backslashes content) (List.replicate (backslashes / 2) backslash) next

theorem PieceLeaves.cons {piece : MarkupPiece} {behind : CodeText}
    (first : PieceLeaves opened piece behind next) (rest : Leaves next pieces shown) :
    Leaves opened (piece :: pieces) (behind ++ shown) := by
  intro place
  cases first with
  | text plain => exact leaves_text plain rest place
  | literal odd content => exact leaves_literal _ odd content rest place
  | tag even tagged =>
      rw [render, if_neg even, openAfter_eq_ok_of_eq_ok tagged]
      simp only [bind, Except.bind]
      rw [rest]
      rfl

theorem exists_of_render_cons {position : Nat} {piece : MarkupPiece}
    (rendered : render opened position (piece :: pieces) = .ok shown) :
    ∃ behind next place rest, PieceLeaves opened piece behind next ∧
      render next place pieces = .ok rest ∧ shown = behind ++ rest := by
  cases piece with
  | text plain =>
      rw [render] at rendered
      cases behind : render opened (position + plain.length) pieces with
      | error error =>
          rw [behind] at rendered
          cases rendered
      | ok rest =>
          rw [behind] at rendered
          cases rendered
          exact ⟨_, _, _, _, .text plain, behind, rfl⟩
  | tag backslashes content =>
      rw [render] at rendered
      by_cases odd : backslashes % 2 = 1
      · rw [if_pos odd] at rendered
        cases behind : render opened (position + backslashes + content.length + 2) pieces with
        | error error =>
            rw [behind] at rendered
            cases rendered
        | ok rest =>
            rw [behind] at rendered
            cases rendered
            exact ⟨_, _, _, _, .literal odd content, behind, rfl⟩
      · rw [if_neg odd] at rendered
        cases tagged : openAfter opened (position + backslashes) content with
        | error error =>
            rw [tagged] at rendered
            cases rendered
        | ok next =>
            rw [tagged] at rendered
            simp only [bind, Except.bind] at rendered
            cases behind : render next (position + backslashes + content.length + 2) pieces with
            | error error =>
                rw [behind] at rendered
                cases rendered
            | ok rest =>
                rw [behind] at rendered
                cases rendered
                exact ⟨_, _, _, _, .tag odd tagged, behind, rfl⟩

/-- What pieces leave does not depend on where they stand. -/
theorem leaves_of_render_eq_ok {position : Nat}
    (rendered : render opened position pieces = .ok shown) : Leaves opened pieces shown := by
  induction pieces generalizing opened position shown with
  | nil =>
      cases rendered
      exact leaves_nil opened
  | cons piece pieces ih =>
      obtain ⟨behind, next, place, rest, first, others, rfl⟩ := exists_of_render_cons rendered
      exact first.cons (ih others)

theorem plainText_of_leaves {markup : CodeText} (leaves : Leaves [] (Markup.pieces markup) shown) :
    plainText markup = .ok (strip shown) := by
  rw [plainText, leaves]
  rfl

theorem exists_leaves_of_plainText {markup : CodeText} (printed : plainText markup = .ok shown) :
    ∃ left, Leaves [] (Markup.pieces markup) left ∧ strip left = shown := by
  unfold plainText at printed
  cases rendered : render [] 0 (Markup.pieces markup) with
  | error error =>
      rw [rendered] at printed
      cases printed
  | ok left =>
      rw [rendered] at printed
      exact ⟨left, leaves_of_render_eq_ok rendered, Except.ok.inj printed⟩

theorem strip_append (first second : CodeText) :
    strip (first ++ second) = strip first ++ strip second :=
  List.filter_append first second

theorem strip_of_isPrintable (printable : IsPrintable text) : strip text = text := by
  refine List.filter_eq_self.2 fun point member => ?_
  have shown : ∀ value < 0x7F, 0x20 ≤ value → [7, 8, 11, 12, 13].contains value = false := by decide
  obtain ⟨least, most⟩ := printable point member
  rw [isStripped, shown point.value (by omega) least]
  rfl

/-! ### Unmarked text -/

/-- Is a text free of tags, of backslashes in front of brackets, and of names of emoji? -/
structure IsUnmarked (text : CodeText) : Prop where
  noTag : ∀ rest, opening :: rest <:+ text → tagContent? rest = none
  noGuard : NoGuard text
  noEmoji : Text.replaceEmoji text = text

def source : MarkupPiece → CodeText
  | .text plain => plain
  | .tag backslashes content =>
    List.replicate backslashes backslash ++ opening :: content ++ [closing]

theorem flatMap_source_addText (points : CodeText) (pieces : List MarkupPiece) :
    (addText points pieces).flatMap source = points ++ pieces.flatMap source := by
  unfold addText
  split
  · rw [List.flatMap_cons, List.flatMap_cons, source, source, List.append_assoc]
  · split
    · next none =>
      rw [List.isEmpty_iff.1 none]
      rfl
    · rfl

/-- The pieces of a text are made of the text. -/
theorem flatMap_source_piecesFrom (backslashes : Nat) (text : CodeText) :
    (piecesFrom backslashes text).flatMap source =
      List.replicate backslashes backslash ++ text := by
  induction backslashes, text using piecesFrom.induct with
  | case1 backslashes =>
      rw [piecesFrom_nil, flatMap_source_addText]
      rfl
  | case2 backslashes text ih =>
      rw [piecesFrom_backslash, ih, List.replicate_succ', List.append_assoc]
      rfl
  | case3 backslashes text content after found different ih =>
      rw [piecesFrom_tag _ found, List.flatMap_cons, ih, source,
        (tagContent?_eq_some_iff.mp found).2]
      simp
  | case4 backslashes text untagged different ih =>
      rw [piecesFrom_opening _ untagged, flatMap_source_addText, ih]
      simp
  | case5 backslashes point text noBackslash noOpening ih =>
      rw [piecesFrom_plain _ text noBackslash noOpening, flatMap_source_addText, ih]
      simp

theorem addText_addText (first second : CodeText) :
    addText first (addText second []) = addText (first ++ second) [] := by
  cases second with
  | nil => rw [List.append_nil]; rfl
  | cons point rest => cases first <;> rfl

/-- A text without tags is one piece. -/
theorem piecesFrom_of_noTag (backslashes : Nat)
    (noTag : ∀ rest, opening :: rest <:+ text → tagContent? rest = none) :
    piecesFrom backslashes text = addText (List.replicate backslashes backslash ++ text) [] := by
  induction text generalizing backslashes with
  | nil => rw [piecesFrom_nil, List.append_nil]
  | cons point text ih =>
      have later (count : Nat) := ih count fun rest suffix =>
        noTag rest (suffix.trans (List.suffix_cons point text))
      by_cases isBackslash : point = backslash
      · rw [isBackslash, piecesFrom_backslash, later, List.replicate_succ', List.append_assoc]
        rfl
      · by_cases isOpening : point = opening
        · subst isOpening
          rw [piecesFrom_opening _ (noTag text (List.suffix_refl _)), later, addText_addText]
          simp
        · rw [piecesFrom_plain _ text isBackslash isOpening, later, addText_addText]
          simp

/-- An unmarked text is shown as it is. -/
theorem plainText_of_isUnmarked (printable : IsPrintable text) (unmarked : IsUnmarked text) :
    plainText text = .ok text := by
  have shown : showText text = text := by
    rw [showText, dropGuards_eq_self_iff.2 unmarked.noGuard, unmarked.noEmoji]
  have whole : Markup.pieces text = addText text [] := piecesFrom_of_noTag 0 unmarked.noTag
  have leaves : Leaves [] (Markup.pieces text) text := by
    rw [whole]
    cases text with
    | nil => exact leaves_nil []
    | cons point rest =>
        have alone := leaves_text (point :: rest) (leaves_nil [])
        rwa [shown, List.append_nil] at alone
  rw [plainText_of_leaves leaves, strip_of_isPrintable printable]

/-! ### Text that is shown as it is -/

theorem length_showText_le (noColon : colon ∉ text) : (showText text).length ≤ text.length ∧
    ((showText text).length = text.length → NoGuard text) := by
  have fewer := dropGuards_sublist text
  have without : colon ∉ showText.dropGuards text := fun member => noColon (fewer.subset member)
  rw [showText, Text.replaceEmoji_of_no_colon without]
  exact ⟨fewer.length_le, fun same => dropGuards_eq_self_iff.1 (fewer.eq_of_length same)⟩

/-- Is a piece a text without backslashes in front of brackets? -/
def IsPlainPiece (piece : MarkupPiece) : Prop := ∃ plain, piece = .text plain ∧ NoGuard plain

/-- A piece without colons leaves at most as much as it was made of, and only a plain one leaves all
of that. -/
theorem PieceLeaves.length_le {piece : MarkupPiece} (leaves : PieceLeaves opened piece shown next)
    (noColon : colon ∉ source piece) :
    shown.length ≤ (source piece).length ∧
      (shown.length = (source piece).length → IsPlainPiece piece) := by
  cases leaves with
  | text plain =>
      obtain ⟨shorter, same⟩ := length_showText_le noColon
      exact ⟨shorter, fun equal => ⟨plain, rfl, same equal⟩⟩
  | @literal backslashes odd content =>
      have inner : colon ∉ opening :: content ++ [closing] := by
        intro member
        refine noColon ?_
        rw [source, List.append_assoc]
        exact List.mem_append_right _ member
      have shorter := (length_showText_le inner).1
      simp only [source, List.length_append, List.length_replicate, List.length_cons] at shorter ⊢
      refine ⟨by omega, fun same => ?_⟩
      omega
  | tag even tagged =>
      simp only [source, List.length_append, List.length_replicate, List.length_cons]
      refine ⟨by omega, fun same => ?_⟩
      omega

theorem length_le_of_render {position : Nat}
    (rendered : render opened position pieces = .ok shown)
    (noColon : ∀ piece ∈ pieces, colon ∉ source piece) :
    shown.length ≤ (pieces.flatMap source).length ∧
      (shown.length = (pieces.flatMap source).length → ∀ piece ∈ pieces, IsPlainPiece piece) := by
  induction pieces generalizing opened position shown with
  | nil =>
      cases rendered
      exact ⟨Nat.le_refl 0, fun _ _ impossible => absurd impossible List.not_mem_nil⟩
  | cons piece pieces ih =>
      obtain ⟨behind, next, place, rest, first, others, rfl⟩ := exists_of_render_cons rendered
      obtain ⟨none, noneLater⟩ := List.forall_mem_cons.1 noColon
      obtain ⟨firstShorter, firstSame⟩ := first.length_le none
      obtain ⟨shorter, same⟩ := ih others noneLater
      rw [List.flatMap_cons, List.length_append, List.length_append]
      refine ⟨by omega, fun equal => List.forall_mem_cons.2 ⟨firstSame (by omega), same (by omega)⟩⟩

def IsText (piece : MarkupPiece) : Prop := ∃ plain, piece = .text plain

theorem isText_of_addText {points : CodeText}
    (all : ∀ piece ∈ addText points pieces, IsText piece) :
    ∀ piece ∈ pieces, IsText piece := by
  unfold addText at all
  split at all
  · next more others => exact List.forall_mem_cons.2 ⟨⟨more, rfl⟩, (List.forall_mem_cons.1 all).2⟩
  · split at all
    · exact all
    · exact (List.forall_mem_cons.1 all).2

/-- A text whose pieces are plain text holds no tag. -/
theorem noTag_of_isText (backslashes : Nat)
    (all : ∀ piece ∈ piecesFrom backslashes text, IsText piece) :
    ∀ rest, opening :: rest <:+ text → tagContent? rest = none := by
  induction backslashes, text using piecesFrom.induct with
  | case1 backslashes =>
      intro rest suffix
      exact absurd (List.suffix_nil.1 suffix) (List.cons_ne_nil _ _)
  | case2 backslashes text ih =>
      intro rest suffix
      rw [piecesFrom_backslash] at all
      rcases List.suffix_cons_iff.1 suffix with same | behind
      · exact absurd (List.cons.inj same).1 (by decide)
      · exact ih all rest behind
  | case3 backslashes text content after found different ih =>
      rw [piecesFrom_tag _ found] at all
      obtain ⟨plain, isText⟩ := all _ List.mem_cons_self
      cases isText
  | case4 backslashes text untagged different ih =>
      intro rest suffix
      rw [piecesFrom_opening _ untagged] at all
      rcases List.suffix_cons_iff.1 suffix with same | behind
      · rw [(List.cons.inj same).2]
        exact untagged
      · exact ih (isText_of_addText all) rest behind
  | case5 backslashes point text noBackslash noOpening ih =>
      intro rest suffix
      rw [piecesFrom_plain _ text noBackslash noOpening] at all
      rcases List.suffix_cons_iff.1 suffix with same | behind
      · exact absurd (List.cons.inj same).1.symm noOpening
      · exact ih (isText_of_addText all) rest behind

/-- Without colons, a text is shown as it is just when it is unmarked. -/
theorem plainText_eq_self_iff (printable : IsPrintable text) (noColon : colon ∉ text) :
    plainText text = .ok text ↔ IsUnmarked text := by
  refine ⟨fun printed => ?_, plainText_of_isUnmarked printable⟩
  obtain ⟨left, leaves, stripped⟩ := exists_leaves_of_plainText printed
  have made : (Markup.pieces text).flatMap source = text := flatMap_source_piecesFrom 0 text
  have without : ∀ piece ∈ Markup.pieces text, colon ∉ source piece := by
    intro piece listed member
    exact noColon (made ▸ List.mem_flatMap.2 ⟨piece, listed, member⟩)
  obtain ⟨shorter, same⟩ := length_le_of_render (leaves 0) without
  have kept : (strip left).length ≤ left.length := List.length_filter_le _ _
  rw [made] at shorter same
  rw [stripped] at kept
  have plain := same (by omega)
  have noTag := noTag_of_isText 0 fun piece listed => by
    obtain ⟨plain, isText, _⟩ := plain piece listed
    exact ⟨plain, isText⟩
  refine ⟨noTag, ?_, Text.replaceEmoji_of_no_colon noColon⟩
  have whole : Markup.pieces text = addText text [] := piecesFrom_of_noTag 0 noTag
  cases text with
  | nil => exact dropGuards_eq_self_iff.1 rfl
  | cons point rest =>
      obtain ⟨only, isText, noGuard⟩ := plain (.text (point :: rest)) (by
        rw [whole]
        exact List.mem_cons_self)
      cases isText
      exact noGuard

theorem isUnmarked_of_isNeutral (neutral : IsNeutral text) : IsUnmarked text := by
  refine ⟨?_, ?_, ?_⟩
  · intro rest suffix
    exact absurd rfl (neutral opening (suffix.subset List.mem_cons_self)).1
  · intro inside
    exact absurd rfl (neutral backslash (inside.subset List.mem_cons_self)).2.1
  · exact Text.replaceEmoji_of_no_colon fun member => (neutral colon member).2.2 rfl

/-! ### Escaped text -/

/-- A piece of an escaped text. -/
def literalPiece : MarkupPiece → MarkupPiece
  | .text plain => .text plain
  | .tag backslashes content => .tag (2 * backslashes + 1) content

theorem map_literalPiece_addText (points : CodeText) (pieces : List MarkupPiece) :
    (addText points pieces).map literalPiece = addText points (pieces.map literalPiece) := by
  cases pieces with
  | nil => cases points <;> rfl
  | cons piece pieces =>
      cases piece with
      | text more => rfl
      | tag backslashes content => cases points <;> rfl

theorem piecesFrom_escapeFrom (backslashes : Nat) (text : CodeText) :
    piecesFrom 0 (escapeFrom backslashes text) =
      (piecesFrom backslashes text).map literalPiece := by
  have noBehind : tagContent? ([] : CodeText) = none := rfl
  induction backslashes, text using piecesFrom.induct with
  | case1 backslashes =>
      have all := piecesFrom_replicate 0 backslashes []
      rw [List.append_nil, Nat.zero_add] at all
      rw [escapeFrom_nil, all, piecesFrom_nil, map_literalPiece_addText]
      rfl
  | case2 backslashes text ih => rw [escapeFrom_backslash, ih, piecesFrom_backslash]
  | case3 backslashes text content after found different ih =>
      have isTag := isTag_of_tagContent? found
      rw [escapeFrom_tag _ found, piecesFrom_replicate, piecesFrom_tag _ (isTag.tagContent? _), ih,
        piecesFrom_tag _ found, Nat.zero_add]
      rfl
  | case4 backslashes text untagged different ih =>
      have still := tagContent?_escapeFrom untagged noBehind opensFirst_nil
      rw [List.append_nil] at still
      rw [escapeFrom_opening _ untagged, piecesFrom_replicate, piecesFrom_opening _ still, ih,
        piecesFrom_opening _ untagged, map_literalPiece_addText, Nat.zero_add]
  | case5 backslashes point text noBackslash noOpening ih =>
      rw [escapeFrom_plain _ text noBackslash noOpening, piecesFrom_replicate,
        piecesFrom_plain _ _ noBackslash noOpening, ih,
        piecesFrom_plain _ text noBackslash noOpening, map_literalPiece_addText, Nat.zero_add]

/-- An escaped text ends as the text does. -/
theorem getLast?_escapeFrom (backslashes : Nat) (text : CodeText) :
    (escapeFrom backslashes text).getLast? =
      (List.replicate backslashes backslash ++ text).getLast? := by
  have each (pieces : List MarkupPiece) :
      (pieces.flatMap escapePiece).getLast? = (pieces.flatMap source).getLast? := by
    induction pieces with
    | nil => rfl
    | cons piece pieces ih =>
        have same : (escapePiece piece).getLast? = (source piece).getLast? := by
          cases piece with
          | text plain => rfl
          | tag backslashes content =>
              rw [escapePiece, source, List.getLast?_concat, List.getLast?_concat]
        rw [List.flatMap_cons, List.flatMap_cons, List.getLast?_append, List.getLast?_append, ih,
          same]
  rw [escapeFrom, each, flatMap_source_piecesFrom]

theorem escape_of_no_backslash (noBackslash : backslash ∉ text) :
    escape text = escapeFrom 0 text := by
  have last : (escapeFrom 0 text).getLast? ≠ some backslash := by
    rw [getLast?_escapeFrom]
    exact fun ends => noBackslash (List.mem_of_getLast? ends)
  change guardEnd (escapeFrom 0 text) = _
  rw [List.getLast?_eq_head?_reverse] at last
  unfold guardEnd
  split
  · next ending rest reversed =>
    rw [reversed] at last
    have other : ending ≠ backslash := fun same => last (by rw [same]; rfl)
    simp [other]
  · rfl

theorem showText_of_not_mem (noBackslash : backslash ∉ text) (noColon : colon ∉ text) :
    showText text = text := by
  have noGuard : NoGuard text := fun inside => noBackslash (inside.subset List.mem_cons_self)
  rw [showText, dropGuards_eq_self_iff.2 noGuard, Text.replaceEmoji_of_no_colon noColon]

theorem leaves_literals (opened : List OpenTag)
    (clean : ∀ piece ∈ pieces, backslash ∉ source piece ∧ colon ∉ source piece) :
    Leaves opened (pieces.map literalPiece) (pieces.flatMap source) := by
  induction pieces with
  | nil => exact leaves_nil opened
  | cons piece pieces ih =>
      obtain ⟨⟨noBackslash, noColon⟩, others⟩ := List.forall_mem_cons.1 clean
      rw [List.map_cons, List.flatMap_cons]
      cases piece with
      | text plain =>
          have first := leaves_text plain (ih others)
          have shown : showText plain = plain := showText_of_not_mem noBackslash noColon
          rwa [shown] at first
      | tag backslashes content =>
          cases backslashes with
          | zero =>
              have first := leaves_literal 1 rfl content (ih others)
              have shown : showText (opening :: content ++ [closing]) =
                  opening :: content ++ [closing] :=
                showText_of_not_mem noBackslash noColon
              rwa [shown] at first
          | succ count => exact absurd List.mem_cons_self noBackslash

/-- Escaped text is shown as it was, tags included, unless it has backslashes or colons. -/
theorem plainText_escape (printable : IsPrintable text) (noBackslash : backslash ∉ text)
    (noColon : colon ∉ text) : plainText (escape text) = .ok text := by
  have made : (Markup.pieces text).flatMap source = text := flatMap_source_piecesFrom 0 text
  have clean : ∀ piece ∈ Markup.pieces text, backslash ∉ source piece ∧ colon ∉ source piece := by
    intro piece listed
    have part {point : CodePoint} (member : point ∈ source piece) : point ∈ text :=
      made ▸ List.mem_flatMap.2 ⟨piece, listed, member⟩
    exact ⟨fun member => noBackslash (part member), fun member => noColon (part member)⟩
  have leaves := leaves_literals [] clean
  have escaped : Markup.pieces (escape text) = (Markup.pieces text).map literalPiece := by
    rw [escape_of_no_backslash noBackslash]
    exact piecesFrom_escapeFrom 0 text
  rw [made, ← escaped] at leaves
  rw [plainText_of_leaves leaves, strip_of_isPrintable printable]

end Markup

/-! ### Lines -/

open Markup

/-- What is put in front of the name of a written file. -/
def created : CodeText := CodeText.ofString "  created "

theorem plainText_created {path shown : CodeText} (printed : plainText (escape path) = .ok shown) :
    plainText (CodeText.ofString "  " ++ styled "green" (CodeText.ofString "created") ++
      CodeText.ofString " " ++ escape path) = .ok (created ++ shown) := by
  obtain ⟨left, leaves, stripped⟩ := exists_leaves_of_plainText printed
  have blank : IsNeutral (CodeText.ofString " ") := by decide
  have word : IsNeutral (CodeText.ofString "created") := by decide
  have margin : IsNeutral (CodeText.ofString "  ") := by decide
  have green : Style.IsPlain (CodeText.ofString "green") := Style.isPlain_of_mem (by decide)
  have named := leaves_neutral_append blank leaves
  have marked := leaves_styled green word named
  have whole := leaves_neutral_append margin marked
  rw [← List.append_assoc, ← List.append_assoc] at whole
  rw [plainText_of_leaves whole, strip_append, strip_append, strip_append, stripped,
    strip_of_isPrintable (by decide), strip_of_isPrintable (by decide),
    strip_of_isPrintable (by decide), ← List.append_assoc, ← List.append_assoc]
  rfl

/-- A message of neutral printable text is written as it is. -/
theorem message_of_isNeutral {style : String} (described : Style.IsPlain (CodeText.ofString style))
    {content : CodeText} (neutral : IsNeutral content) (printable : IsPrintable content)
    (short : content.length ≤ lineWidth) :
    message style content = .ok (content ++ [lineFeed]) := by
  have noBackslash : backslash ∉ content := fun member => (neutral _ member).2.1 rfl
  have escaped : escape content = content := by
    have unmarked := isUnmarked_of_isNeutral neutral
    rw [escape_of_no_backslash noBackslash, escapeFrom, piecesFrom_of_noTag 0 unmarked.noTag,
      flatMap_addText]
    exact List.append_nil _
  have leaves := leaves_styled described neutral (leaves_end [])
  rw [List.append_nil, List.append_nil] at leaves
  rw [message, escaped, printMarkup, plainText_of_leaves leaves, strip_of_isPrintable printable]
  exact congrArg Except.ok (paragraph_of_short printable short)

end Console

end EntityScaffold
