import EntityScaffold.Proofs.Attempt
import EntityScaffold.Proofs.Console.Escape
import EntityScaffold.Proofs.Text.PlainText

/-
Messages. The styles of messages are described by plain words, so the tags around a message open a
style and close it again. With the text between them escaped, a message, an announcement and a list of
files can always be printed.
-/

namespace EntityScaffold.Console

/-! ### Descriptions of styles -/

namespace Style

/-- Does a word name a colour by its components? -/
def isByComponents (word : CodeText) : Bool :=
  match (word.mapRuns Text.lower).toChars? with
  | some chars => (enclosed? "rgb" chars).isSome
  | none => false

theorem readColor_ne_noNumber {word : CodeText} (byName : isByComponents word = false) :
    readColor word ≠ .error .noNumber := by
  intro failed
  unfold readColor at failed
  unfold isByComponents at byName
  dsimp only at failed
  cases spelled : (word.mapRuns Text.lower).toChars? with
  | none =>
      rw [spelled] at failed
      cases failed
  | some chars =>
      rw [spelled] at byName failed
      have noComponents : enclosed? "rgb" chars = none := by simpa using byName
      dsimp only at failed
      rw [noComponents] at failed
      -- the word names a colour or nothing, with a number of the palette or without
      cases numbered : enclosed? "color" chars with
      | none =>
          simp only [numbered] at failed
          repeat' split at failed
          all_goals cases failed
      | some digits =>
          simp only [numbered] at failed
          repeat' split at failed
          all_goals cases failed

/-- A word that names no colour by its components, in small letters or as it is. -/
def IsByName (word : CodeText) : Prop :=
  isByComponents word = false ∧ isByComponents (word.mapRuns Text.lower) = false

instance (word : CodeText) : Decidable (IsByName word) := inferInstanceAs (Decidable (_ ∧ _))

/-- Words that name no colour by its components describe a style, or none, but are not in error. -/
theorem addWords_ne_noNumber {words : List CodeText} (style : Style)
    (byName : ∀ word ∈ words, IsByName word) :
    addWords style words ≠ .error .noNumber := by
  have colored {color : CodeText} {next : CodeText → Style} {rest : List CodeText}
      (plain : isByComponents color = false)
      (later : ∀ color, addWords (next color) rest ≠ .error .noNumber) :
      (readColor color >>= fun color => addWords (next color) rest) ≠ .error .noNumber := by
    cases read : readColor color with
    | ok color => exact later color
    | error fault =>
        have same := readColor_ne_noNumber plain
        rw [read] at same
        exact fun failed => same (congrArg Except.error (Except.error.inj failed))
  have unknown : (throw .unknown : Except StyleFault Style) ≠ .error .noNumber :=
    fun failed => by cases failed
  fun_induction addWords style words with
  | case1 => exact fun failed => by cases failed
  | case2 | case4 | case6 | case7 => exact unknown
  | case3 style on lowered isOn color rest ih =>
      have plain := byName color (List.mem_cons_of_mem on List.mem_cons_self)
      exact colored plain.1 fun _ => ih _ fun word member =>
        byName word (List.mem_cons_of_mem on (List.mem_cons_of_mem color member))
  | case5 style first lowered notOn isNot second rest name named ih =>
      exact ih fun word member =>
        byName word (List.mem_cons_of_mem first (List.mem_cons_of_mem second member))
  | case8 style first lowered notOn notNot isLink link rest ih =>
      exact ih fun word member =>
        byName word (List.mem_cons_of_mem first (List.mem_cons_of_mem link member))
  | case9 style word rest lowered notOn notNot notLink name named ih =>
      exact ih fun other member => byName other (List.mem_cons_of_mem word member)
  | case10 style word rest lowered notOn notNot notLink unnamed ih =>
      exact colored (byName word List.mem_cons_self).2 fun _ => ih _ fun other member =>
        byName other (List.mem_cons_of_mem word member)

theorem exists_canonicalName_eq {description : CodeText}
    (byName : ∀ word ∈ Text.fieldsOf CodePoint.isBlank description, IsByName word) :
    ∃ name, canonicalName description = .ok name := by
  have noFault := addWords_ne_noNumber {} byName
  unfold canonicalName
  dsimp only
  split
  · exact ⟨_, rfl⟩
  · split
    · exact ⟨_, rfl⟩
    · exact ⟨_, rfl⟩
    · next fault known failed =>
      cases fault with
      | unknown => exact absurd rfl known
      | noNumber => exact absurd failed noFault

/-- A description in plain words, which can stand in a tag. -/
structure IsPlain (description : CodeText) : Prop where
  found : Markup.tagContent? (description ++ [Markup.closing]) = some (description, [])
  noSlash : description.head? ≠ some (CodePoint.ofChar '/')
  noEquals : CodePoint.ofChar '=' ∉ description
  trimmed : Text.trim CodePoint.isBlank description = description
  byName : ∀ word ∈ Text.fieldsOf CodePoint.isBlank description, IsByName word

instance (description : CodeText) : Decidable (IsPlain description) :=
  decidable_of_iff
    (Markup.tagContent? (description ++ [Markup.closing]) = some (description, []) ∧
      description.head? ≠ some (CodePoint.ofChar '/') ∧ CodePoint.ofChar '=' ∉ description ∧
      Text.trim CodePoint.isBlank description = description ∧
      ∀ word ∈ Text.fieldsOf CodePoint.isBlank description, IsByName word)
    ⟨fun ⟨found, noSlash, noEquals, trimmed, byName⟩ =>
        ⟨found, noSlash, noEquals, trimmed, byName⟩,
      fun plain => ⟨plain.found, plain.noSlash, plain.noEquals, plain.trimmed, plain.byName⟩⟩

theorem isPlain_of_mem {style : String}
    (member : style ∈ ["bold green", "bold red", "bold yellow", "bold bright_green", "green"]) :
    IsPlain (CodeText.ofString style) := by
  revert style
  decide +kernel

end Style

namespace Markup

variable {opened next : List OpenTag} {tail content after description : CodeText}

/-! ### Tags around text -/

theorem takeWhile_ne_eq_self {point : CodePoint} {text : CodeText} (absent : point ∉ text) :
    text.takeWhile (· ≠ point) = text := by
  have kept : ∀ other ∈ text, decide (other ≠ point) = true := fun other member =>
    decide_eq_true fun same => absent (same ▸ member)
  calc text.takeWhile (· ≠ point) = (text ++ []).takeWhile (· ≠ point) := by rw [List.append_nil]
    _ = text ++ [].takeWhile (· ≠ point) := List.takeWhile_append_of_pos kept
    _ = text := List.append_nil text

/-- A tag in plain words opens its style, and the same words behind a slash close it. -/
theorem exists_openAfter_eq (plain : Style.IsPlain description) :
    ∃ opened, (∀ position, openAfter [] position description = .ok opened) ∧
      ∀ position, openAfter opened position (CodePoint.ofChar '/' :: description) = .ok [] := by
  obtain ⟨name, named⟩ := Style.exists_canonicalName_eq plain.byName
  have styled : styleName description = .ok name := by
    rw [styleName, named]
    rfl
  have filled : description.isEmpty = false := by
    cases isTag_of_tagContent? plain.found with
    | cons => rfl
  have slash : CodePoint.ofChar '=' ∉ CodePoint.ofChar '/' :: description := by
    have different : CodePoint.ofChar '=' ≠ CodePoint.ofChar '/' := by decide
    exact List.not_mem_cons_of_ne_of_not_mem different plain.noEquals
  refine ⟨[⟨name, none⟩], fun position => ?_, fun position => ?_⟩
  · unfold openAfter
    dsimp only
    rw [takeWhile_ne_eq_self plain.noEquals, if_neg plain.noSlash, List.drop_length, styled]
    rfl
  · unfold openAfter
    dsimp only
    rw [takeWhile_ne_eq_self slash, if_pos List.head?_cons, List.tail_cons, plain.trimmed, filled,
      if_neg Bool.false_ne_true, styled]
    simp [bind, Except.bind, pure, Except.pure, OpenTag.close]

/-- A tag that may open or close a style, and what stands behind it. -/
theorem renders_tag_append (count : Nat) (isTag : IsTag content)
    (tagged : ∀ position, openAfter opened position content = .ok next)
    (behind : Renders next (piecesFrom 0 after))
    (literal : count % 2 = 1 → Renders opened (piecesFrom 0 after)) :
    Renders opened (piecesFrom count (opening :: (content ++ closing :: after))) := by
  rw [piecesFrom_tag count (isTag.tagContent? after)]
  by_cases odd : count % 2 = 1
  · exact renders_literal odd content (literal odd)
  · exact renders_tag odd tagged behind

theorem renders_plain_append {plain : CodeText}
    (noMarks : ∀ point ∈ plain, point ≠ backslash ∧ point ≠ opening)
    (behind : Renders opened (piecesFrom 0 tail)) :
    Renders opened (piecesFrom 0 (plain ++ tail)) := by
  induction plain with
  | nil => exact behind
  | cons point rest ih =>
      obtain ⟨noBackslash, noOpening⟩ := noMarks point List.mem_cons_self
      rw [List.cons_append, piecesFrom_plain 0 _ noBackslash noOpening]
      exact renders_addText _ (ih fun other member => noMarks other (List.mem_cons_of_mem point member))

def endTag (style : String) : CodeText :=
  opening :: (CodePoint.ofChar '/' :: CodeText.ofString style ++ [closing])

theorem styled_eq (style : String) (text : CodeText) :
    styled style text =
      opening :: (CodeText.ofString style ++ closing :: (text ++ endTag style)) := by
  have before : CodeText.ofString "[" = [opening] := by decide
  have slash : CodeText.ofString "[/" = [opening, CodePoint.ofChar '/'] := by decide
  have behind : CodeText.ofString "]" = [closing] := by decide
  rw [styled, CodeText.ofString_append, CodeText.ofString_append, CodeText.ofString_append,
    CodeText.ofString_append, before, slash, behind, endTag]
  simp only [List.cons_append, List.nil_append, List.append_assoc]

/-- A text in a style can be rendered, if the text can with the end of the style behind it. -/
theorem renders_styled {style : String} (plain : Style.IsPlain (CodeText.ofString style))
    (behind : ∀ opened, Renders opened (piecesFrom 0 tail))
    (between : ∀ opened, (∀ count, Renders opened (piecesFrom count (endTag style ++ tail))) →
      Renders opened (piecesFrom 0 (content ++ (endTag style ++ tail)))) :
    Renders [] (piecesFrom 0 (styled style content ++ tail)) := by
  obtain ⟨opened, opens, closes⟩ := exists_openAfter_eq plain
  have isTag := isTag_of_tagContent? plain.found
  have slashed : IsTag (CodePoint.ofChar '/' :: CodeText.ofString style) :=
    isTag.behind (by decide)
  have ending (count : Nat) : Renders opened (piecesFrom count (endTag style ++ tail)) := by
    have tag := renders_tag_append count slashed closes (behind []) fun _ => behind opened
    rwa [endTag, List.cons_append, List.append_assoc, List.singleton_append]
  have whole := renders_tag_append 0 isTag opens (between opened ending) fun odd => by cases odd
  rwa [styled_eq, List.cons_append, List.append_assoc, List.cons_append, List.append_assoc]

/-- Behind escaped text, the end of a style stays a tag. -/
theorem renders_escape_endTag (style : String) (text : CodeText)
    (ending : ∀ count, Renders opened (piecesFrom count (endTag style ++ tail))) :
    Renders opened (piecesFrom 0 (escape text ++ (endTag style ++ tail))) := by
  refine renders_escape text ?_ (opensFirst_opening _) ending
  rw [endTag, List.cons_append, tagContent?_cons_eq_none_iff]
  intro starts
  cases starts

theorem exists_plainText_eq {markup : CodeText} (rendered : Renders [] (pieces markup)) :
    ∃ text, plainText markup = .ok text := by
  obtain ⟨text, same⟩ := rendered 0
  refine ⟨strip text, ?_⟩
  rw [plainText, same]
  rfl

end Markup

/-! ### Messages -/

open Markup

theorem renders_end (opened : List OpenTag) : Renders opened (piecesFrom 0 []) := by
  rw [piecesFrom_nil]
  exact renders_nil opened

theorem exists_message_eq {style : String} (plain : Style.IsPlain (CodeText.ofString style))
    (content : CodeText) : ∃ text, message style content = .ok text := by
  have rendered : Renders [] (piecesFrom 0 (styled style (escape content) ++ [])) :=
    renders_styled plain renders_end fun _ => renders_escape_endTag style content
  rw [List.append_nil] at rendered
  obtain ⟨text, same⟩ := exists_plainText_eq rendered
  refine ⟨paragraph text, ?_⟩
  rw [message, printMarkup, same]
  rfl

theorem exists_error_eq (content : CodeText) : ∃ text, error content = .ok text :=
  exists_message_eq (Style.isPlain_of_mem (by decide)) content

theorem exists_warning_eq (content : CodeText) : ∃ text, warning content = .ok text :=
  exists_message_eq (Style.isPlain_of_mem (by decide)) content

theorem exists_header_eq (title : CodeText) : ∃ text, header title = .ok text := by
  have blank : CodePoint.ofChar ' ' ≠ backslash ∧ CodePoint.ofChar ' ' ≠ opening := by decide
  have marked : Renders [] (piecesFrom 0 (styled "bold bright_green"
      (CodePoint.ofChar ' ' :: escape title ++ [CodePoint.ofChar ' ']) ++ [])) := by
    refine renders_styled (Style.isPlain_of_mem (by decide)) renders_end fun opened ending => ?_
    rw [List.cons_append, List.cons_append, List.append_assoc,
      piecesFrom_plain 0 _ blank.1 blank.2]
    refine renders_addText _ (renders_escape title ?_ ?_ fun count => ?_)
    · rw [List.singleton_append, tagContent?_cons_eq_none_iff]
      intro starts
      cases starts
    · rw [List.singleton_append, opensFirst_cons (by decide)]
      exact opensFirst_opening _
    · rw [List.singleton_append, piecesFrom_plain count _ blank.1 blank.2]
      exact renders_addText _ (ending 0)
  rw [List.append_nil] at marked
  obtain ⟨text, same⟩ := exists_plainText_eq marked
  refine ⟨lineFeed :: paragraph (rule text) ++ [lineFeed], ?_⟩
  unfold header
  dsimp only
  rw [same]
  rfl

theorem renders_escape_end (opened : List OpenTag) (text : CodeText) :
    Renders opened (piecesFrom 0 (escape text)) := by
  have rendered : Renders opened (piecesFrom 0 (escape text ++ [])) := by
    refine renders_escape text rfl opensFirst_nil fun count => ?_
    rw [piecesFrom_nil]
    exact renders_addText _ (renders_nil opened)
  rwa [List.append_nil] at rendered

theorem exists_writtenFiles_eq (paths : List String) (root : String) :
    ∃ text, writtenFiles paths root = .ok text := by
  have line (path : CodeText) : ∃ text, printMarkup (CodeText.ofString "  " ++
      styled "green" (CodeText.ofString "created") ++ CodeText.ofString " " ++ escape path) =
        .ok text := by
    have behind (opened : List OpenTag) :
        Renders opened (piecesFrom 0 (CodeText.ofString " " ++ escape path)) :=
      renders_plain_append (by decide) (renders_escape_end opened path)
    have marked : Renders [] (piecesFrom 0 (styled "green" (CodeText.ofString "created") ++
        (CodeText.ofString " " ++ escape path))) :=
      renders_styled (Style.isPlain_of_mem (by decide)) behind fun _ ending =>
        renders_plain_append (by decide) (ending 0)
    have whole : Renders [] (piecesFrom 0 (CodeText.ofString "  " ++
        (styled "green" (CodeText.ofString "created") ++ (CodeText.ofString " " ++ escape path)))) :=
      renders_plain_append (by decide) marked
    rw [← List.append_assoc, ← List.append_assoc] at whole
    obtain ⟨text, same⟩ := exists_plainText_eq whole
    refine ⟨paragraph text, ?_⟩
    rw [printMarkup, same]
    rfl
  have each : ∀ path ∈ paths, ∃ text, _ := fun path _ =>
    line (CodeText.ofString (Path.relativeText path root))
  obtain ⟨lines, printed⟩ := exists_mapM_eq_ok each
  refine ⟨lines.flatten, ?_⟩
  unfold writtenFiles
  dsimp only
  rw [printed]
  rfl

end EntityScaffold.Console
