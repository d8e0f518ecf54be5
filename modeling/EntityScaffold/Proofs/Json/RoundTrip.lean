import EntityScaffold.Json.Printer
import EntityScaffold.Json.Reader
import EntityScaffold.Proofs.Ordered
import EntityScaffold.Proofs.Text.PlainText

/-
What is printed can be read. The written form of a character gives that character back, whether it
is escaped or not; by induction a text gives itself back, and so does an object whose members are
texts and nulls, when no two of them have one name. Nothing that is printed holds a carriage return.
-/

namespace EntityScaffold

namespace Json

variable {start position : Nat} {rest : List Char}

theorem readText_closed :
    readText start position ('\x22' :: rest) = .ok ([], ⟨position + 1, rest⟩) := by
  rw [readText]

theorem readText_escape {escaped char : Char} (simple : simpleEscape? escaped = some char) :
    readText start position ('\x5c' :: escaped :: rest) = (do
      let (content, cursor) ← readText start (position + 2) rest
      return (CodePoint.ofChar char :: content, cursor)) := by
  have notCode : escaped ≠ 'u' := by
    intro isCode
    rw [isCode, show simpleEscape? 'u' = none by decide] at simple
    cases simple
  rw [readText, simple]
  · intro _ _ _ _ _ _ isCode
    exact absurd isCode notCode
  · exact notCode

theorem readText_code {first second third fourth next : Char} {code : Nat}
    (spelled : hexFour? first second third fourth = some code)
    (low : isHighSurrogate code = false) :
    readText start position
      ('\x5c' :: 'u' :: first :: second :: third :: fourth :: next :: rest) = (do
      let (content, cursor) ← readText start (position + 6) (next :: rest)
      return (CodePoint.ofNat code :: content, cursor)) := by
  rw [readText, spelled]
  simp only [low]
  split <;> rfl

theorem readText_plain {char : Char} (notQuote : char ≠ '\x22') (notBackslash : char ≠ '\x5c')
    (shown : ¬char.toNat < 0x20) :
    readText start position (char :: rest) = (do
      let (content, cursor) ← readText start (position + 1) rest
      return (CodePoint.ofChar char :: content, cursor)) := by
  rw [readText, if_neg shown]
  · exact notQuote
  · intros; contradiction
  · intros; contradiction
  · intros; contradiction
  · intros; contradiction

def codeOf? : List Char → Option Nat
  | [first, second, third, fourth] => hexFour? first second third fourth
  | _ => none

/-- The four digits of a control character spell it. -/
theorem exists_hexDigits_eq {code : Nat} (control : code < 0x20) :
    ∃ first second third fourth, Text.Utf8.hexDigits 4 code = [first, second, third, fourth] ∧
      hexFour? first second third fourth = some code := by
  have spelled : ∀ code < 0x20, codeOf? (Text.Utf8.hexDigits 4 code) = some code := by decide
  have here := spelled code control
  unfold codeOf? at here
  split at here
  · next first second third fourth digits => exact ⟨_, _, _, _, digits, here⟩
  · cases here

theorem escapePoint_ofChar (char : Char) :
    escapePoint (.ofChar char) =
      if char = '\x22' then ['\x5c', '\x22']
      else if char = '\x5c' then ['\x5c', '\x5c']
      else if char = '\x08' then ['\x5c', 'b']
      else if char = '\x0c' then ['\x5c', 'f']
      else if char = '\n' then ['\x5c', 'n']
      else if char = '\r' then ['\x5c', 'r']
      else if char = '\t' then ['\x5c', 't']
      else if char.toNat < 0x20 then '\x5c' :: 'u' :: Text.Utf8.hexDigits 4 char.toNat
      else [char] := by
  rw [escapePoint, CodePoint.toChar?_ofChar]

/-- A character is read back from its written form. -/
theorem exists_readText_escapePoint (start position : Nat) (char : Char) (more : rest ≠ []) :
    ∃ later, readText start position (escapePoint (.ofChar char) ++ rest) = (do
      let (content, cursor) ← readText start later rest
      return (CodePoint.ofChar char :: content, cursor)) := by
  have escaped {letter : Char} (simple : simpleEscape? letter = some char) :
      ∃ later, readText start position (['\x5c', letter] ++ rest) = (do
        let (content, cursor) ← readText start later rest
        return (CodePoint.ofChar char :: content, cursor)) := ⟨_, readText_escape simple⟩
  rw [escapePoint_ofChar]
  -- seven characters have letters of their own
  iterate 7
    split
    · next same => exact escaped (by rw [same]; rfl)
  split
  · next control =>
    obtain ⟨first, second, third, fourth, digits, spelled⟩ := exists_hexDigits_eq control
    obtain ⟨next, behind, rfl⟩ := List.exists_cons_of_ne_nil more
    have low : isHighSurrogate char.toNat = false := by
      simp only [isHighSurrogate, Bool.and_eq_false_iff, decide_eq_false_iff_not]
      omega
    have point : CodePoint.ofNat char.toNat = .ofChar char :=
      dif_pos (CodePoint.ofChar char).inRange
    rw [digits, ← point]
    exact ⟨_, readText_code spelled low⟩
  · next notQuote notBackslash _ _ _ _ _ shown =>
    exact ⟨_, readText_plain notQuote notBackslash shown⟩

theorem exists_readText_eq (start position : Nat) (rest chars : List Char) :
    ∃ later, readText start position
        ((CodeText.ofChars chars).flatMap escapePoint ++ '\x22' :: rest) =
      .ok (.ofChars chars, ⟨later, rest⟩) := by
  induction chars generalizing position with
  | nil => exact ⟨_, readText_closed⟩
  | cons char chars ih =>
      have more : (CodeText.ofChars chars).flatMap escapePoint ++ '\x22' :: rest ≠ [] :=
        List.append_ne_nil_of_right_ne_nil _ (List.cons_ne_nil _ _)
      obtain ⟨behind, first⟩ := exists_readText_escapePoint start position char more
      obtain ⟨later, others⟩ := ih behind
      refine ⟨later, ?_⟩
      rw [CodeText.ofChars, List.map_cons, List.flatMap_cons, List.append_assoc]
      exact first.trans (by rw [others]; rfl)

theorem exists_readQuoted_eq (limits : Limits) (position : Nat) (rest chars : List Char) :
    ∃ later, readQuoted limits position
        ((CodeText.ofChars chars).flatMap escapePoint ++ '\x22' :: rest) =
      .ok (.ofChars chars, ⟨later, rest⟩) := by
  obtain ⟨later, read⟩ := exists_readText_eq position (position + 1) rest chars
  refine ⟨later, ?_⟩
  rw [readQuoted, read]
  have noSurrogate : (CodeText.ofChars chars).toChars?.isSome = true := by
    rw [CodeText.toChars?_ofChars]
    rfl
  change (if limits.allowsSurrogates || (CodeText.ofChars chars).toChars?.isSome then _ else _) = _
  rw [noSurrogate, Bool.or_true, if_pos rfl]
  rfl

/-! ### Settings -/

/-- The values of settings: texts without surrogates, and null. -/
inductive IsSetting : Json → Prop where
  | null : IsSetting .null
  | text (value : String) : IsSetting (.string value)

theorem exists_readValue_eq {json : Json} (setting : json.IsSetting) (limits : Limits)
    (fuel depth position : Nat) (rest : List Char) :
    ∃ later, readValue limits (fuel + 1) depth ⟨position, compact json ++ rest⟩ =
      .ok (json, ⟨later, rest⟩) := by
  cases setting with
  | null =>
      refine ⟨position + 4, ?_⟩
      have written : compact .null ++ rest = 'n' :: 'u' :: 'l' :: 'l' :: rest := by
        rw [compact, compactWith, String.toList_ofList]
        rfl
      have word : readWord? ⟨position, 'n' :: 'u' :: 'l' :: 'l' :: rest⟩ =
          some (.null, ⟨position + 4, rest⟩) := by
        rw [readWord?, words, String.toList_ofList]
        rfl
      rw [written, readValue]
      simp only [word]
      rfl
  | text value =>
      obtain ⟨later, read⟩ := exists_readQuoted_eq limits position rest value.toList
      refine ⟨later, ?_⟩
      have written : compact (.string value) ++ rest =
          '\x22' :: ((CodeText.ofChars value.toList).flatMap escapePoint ++ '\x22' :: rest) := by
        rw [compact, string, compactWith, printText, List.cons_append, List.append_assoc]
        rfl
      rw [written, readValue]
      change (do
        let (content, next) ← readQuoted limits position _
        return (Json.text content, next)) = _
      rw [read]
      rfl

theorem skipBlanks_of_blank {char : Char} (blank : Cursor.isJsonBlank char = true) :
    (Cursor.mk position (char :: rest)).skipBlanks =
      (Cursor.mk (position + 1) rest).skipBlanks := by
  simp only [Cursor.skipBlanks, Cursor.advance, List.takeWhile_cons_of_pos blank, List.length_cons,
    List.drop_succ_cons, Cursor.mk.injEq, and_true]
  omega

theorem skipBlanks_of_not {char : Char} (solid : Cursor.isJsonBlank char = false) :
    (Cursor.mk position (char :: rest)).skipBlanks = ⟨position, char :: rest⟩ := by
  have kept : ¬Cursor.isJsonBlank char = true := by simp [solid]
  simp only [Cursor.skipBlanks, Cursor.advance, List.takeWhile_cons_of_neg kept, List.length_nil,
    List.drop_zero, Nat.add_zero]

theorem readMembers_quoted (limits : Limits) (fuel depth : Nat) (known : List (CodeText × Json))
    {name : CodeText} {json : Json} {inner afterName afterColon afterItem : List Char}
    {second third fourth : Nat}
    (named : readQuoted limits position inner = .ok (name, ⟨second, ':' :: afterName⟩))
    (spaced : (Cursor.mk (second + 1) afterName).skipBlanks = ⟨third, afterColon⟩)
    (valued : readValue limits fuel depth ⟨third, afterColon⟩ = .ok (json, ⟨fourth, afterItem⟩)) :
    readMembers limits (fuel + 1) depth known ⟨position, '\x22' :: inner⟩ =
      match (Cursor.mk fourth afterItem).skipBlanks.rest with
      | '\x7d' :: _ => .ok (Ordered.insert name json known,
          (Cursor.mk fourth afterItem).skipBlanks.advance 1)
      | ',' :: _ => readMembers limits fuel depth (Ordered.insert name json known)
          ((Cursor.mk fourth afterItem).skipBlanks.advance 1).skipBlanks
      | _ => .error (.expectedComma (Cursor.mk fourth afterItem).skipBlanks.position) := by
  rw [readMembers]
  change (readQuoted limits position inner >>= _) = _
  rw [named]
  simp only [bind, Except.bind, skipBlanks_of_not (by decide : Cursor.isJsonBlank ':' = false)]
  simp only [Cursor.advance, List.drop_succ_cons, List.drop_zero, spaced, valued]
  rfl

/-! ### Objects of settings -/

def AreSettings (members : List (CodeText × Json)) : Prop :=
  ∀ member ∈ members, (∃ chars, member.1 = CodeText.ofChars chars) ∧ member.2.IsSetting

theorem skipBlanks_compact {json : Json} (setting : json.IsSetting) :
    (Cursor.mk position (compact json ++ rest)).skipBlanks = ⟨position, compact json ++ rest⟩ := by
  cases setting with
  | null =>
      rw [compact, compactWith, String.toList_ofList]
      exact skipBlanks_of_not (by decide)
  | text value =>
      rw [compact, string, compactWith, printText]
      exact skipBlanks_of_not (by decide)

theorem exists_readMembers_line (limits : Limits) (fuel depth : Nat)
    (known : List (CodeText × Json)) {chars : List Char} {json : Json} (setting : json.IsSetting) :
    ∃ later, readMembers limits (fuel + 2) depth known
        ⟨position, printText (.ofChars chars) ++ ':' :: ' ' :: (compact json ++ rest)⟩ =
      match (Cursor.mk later rest).skipBlanks.rest with
      | '\x7d' :: _ => .ok (Ordered.insert (.ofChars chars) json known,
          (Cursor.mk later rest).skipBlanks.advance 1)
      | ',' :: _ => readMembers limits (fuel + 1) depth (Ordered.insert (.ofChars chars) json known)
          ((Cursor.mk later rest).skipBlanks.advance 1).skipBlanks
      | _ => .error (.expectedComma (Cursor.mk later rest).skipBlanks.position) := by
  obtain ⟨second, named⟩ := exists_readQuoted_eq limits position
    (':' :: ' ' :: (compact json ++ rest)) chars
  obtain ⟨later, valued⟩ := exists_readValue_eq setting limits fuel depth (second + 1 + 1) rest
  have spaced : (Cursor.mk (second + 1) (' ' :: (compact json ++ rest))).skipBlanks =
      ⟨second + 1 + 1, compact json ++ rest⟩ := by
    rw [skipBlanks_of_blank (by decide), skipBlanks_compact setting]
  refine ⟨later, ?_⟩
  rw [printText, List.cons_append, List.append_assoc]
  exact readMembers_quoted limits (fuel + 1) depth known named spaced valued

/-- The last member of an object is read, and the object ends. -/
theorem exists_readMembers_last (limits : Limits) (fuel depth : Nat)
    (known : List (CodeText × Json)) {chars : List Char} {json : Json} (setting : json.IsSetting) :
    ∃ later, readMembers limits (fuel + 2) depth known ⟨position,
        printText (.ofChars chars) ++ ':' :: ' ' :: (compact json ++ '\n' :: '\x7d' :: rest)⟩ =
      .ok (Ordered.insert (.ofChars chars) json known, ⟨later, rest⟩) := by
  obtain ⟨last, line⟩ := @exists_readMembers_line position ('\n' :: '\x7d' :: rest) limits fuel depth
    known chars json setting
  have ended : (Cursor.mk last ('\n' :: '\x7d' :: rest)).skipBlanks =
      ⟨last + 1, '\x7d' :: rest⟩ := by
    rw [skipBlanks_of_blank (by decide), skipBlanks_of_not (by decide)]
  refine ⟨last + 1 + 1, line.trans ?_⟩
  rw [ended]
  rfl

/-- A member before another one is read, and the others follow. -/
theorem exists_readMembers_more (limits : Limits) (fuel depth : Nat)
    (known : List (CodeText × Json)) {chars : List Char} {json : Json} (setting : json.IsSetting) :
    ∃ later, readMembers limits (fuel + 2) depth known ⟨position,
        printText (.ofChars chars) ++ ':' :: ' ' :: (compact json ++ ',' :: '\n' :: rest)⟩ =
      readMembers limits (fuel + 1) depth (Ordered.insert (.ofChars chars) json known)
        (Cursor.mk later rest).skipBlanks := by
  obtain ⟨last, line⟩ := @exists_readMembers_line position (',' :: '\n' :: rest) limits fuel
    depth known chars json setting
  have ended : (Cursor.mk last (',' :: '\n' :: rest)).skipBlanks = ⟨last, ',' :: '\n' :: rest⟩ :=
    skipBlanks_of_not (by decide)
  refine ⟨last + 1 + 1, line.trans ?_⟩
  rw [ended]
  change readMembers limits (fuel + 1) depth _ (Cursor.mk (last + 1) ('\n' :: rest)).skipBlanks = _
  rw [skipBlanks_of_blank (by decide)]

theorem skipBlanks_memberLine {chars others : List Char} :
    (Cursor.mk position (' ' :: ' ' :: (printText (.ofChars chars) ++ others))).skipBlanks =
      ⟨position + 1 + 1, printText (.ofChars chars) ++ others⟩ := by
  rw [skipBlanks_of_blank (by decide), skipBlanks_of_blank (by decide)]
  exact skipBlanks_of_not (by decide)

/-- The members of an object of settings are read back from their lines. -/
theorem exists_readMembers_eq (limits : Limits) (fuel depth : Nat)
    (known : List (CodeText × Json)) {members : List (CodeText × Json)}
    (settings : AreSettings members) (listed : members ≠ [])
    (distinct : ((known ++ members).map Prod.fst).Nodup) :
    ∃ later, readMembers limits (fuel + members.length + 1) depth known
        (Cursor.mk position (memberLines members ++ '\x7d' :: rest)).skipBlanks =
      .ok (known ++ members, ⟨later, rest⟩) := by
  induction members generalizing known position with
  | nil => exact absurd rfl listed
  | cons member members ih =>
      obtain ⟨name, json⟩ := member
      obtain ⟨⟨chars, rfl⟩, setting⟩ := settings _ List.mem_cons_self
      have new : CodeText.ofChars chars ∉ known.map Prod.fst := by
        intro before
        rw [List.map_append, List.map_cons] at distinct
        exact (List.nodup_append.1 distinct).2.2 _ before _ List.mem_cons_self rfl
      have extended : Ordered.insert (.ofChars chars) json known ++ members =
          known ++ (.ofChars chars, json) :: members := by
        rw [Ordered.insert_of_new new, List.append_assoc, List.singleton_append]
      rw [memberLines]
      simp only [List.cons_append, List.append_assoc, skipBlanks_memberLine]
      cases members with
      | nil =>
          obtain ⟨later, read⟩ := @exists_readMembers_last (position + 1 + 1) rest limits fuel depth
            known chars json setting
          rw [List.append_nil] at extended
          rw [← extended]
          exact ⟨later, read⟩
      | cons another members =>
          obtain ⟨next, line⟩ := @exists_readMembers_more (position + 1 + 1)
            (memberLines (another :: members) ++ '\x7d' :: rest) limits
            (fuel + (members.length + 1)) depth known chars json setting
          obtain ⟨later, read⟩ := @ih next (Ordered.insert (.ofChars chars) json known)
            (fun member behind => settings member (List.mem_cons_of_mem _ behind))
            (List.cons_ne_nil _ _) (by rw [extended]; exact distinct)
          rw [extended] at read
          exact ⟨later, line.trans read⟩

theorem length_le_memberLines (members : List (CodeText × Json)) :
    members.length ≤ (memberLines members).length := by
  induction members with
  | nil => exact Nat.zero_le _
  | cons member members ih =>
      rw [memberLines]
      cases members with
      | nil => simp
      | cons another members =>
          simp only [List.length_cons, List.length_append, List.isEmpty_cons] at ih ⊢
          simp only [Bool.false_eq_true, if_false, List.length_cons]
          omega

/-- An object whose first member begins with a quote is read as its members are. -/
theorem readValue_object (position : Nat) {limits : Limits} {fuel depth next : Nat}
    {inner : List Char} {members : List (CodeText × Json)} {last : Cursor}
    (begun : (Cursor.mk (position + 1) rest).skipBlanks = ⟨next, '\x22' :: inner⟩)
    (read : readMembers limits fuel depth [] ⟨next, '\x22' :: inner⟩ = .ok (members, last)) :
    readValue limits (fuel + 1) (depth + 1) ⟨position, '\x7b' :: rest⟩ =
      .ok (.object members, last) := by
  have inside : ((Cursor.mk position ('\x7b' :: rest)).advance 1).skipBlanks =
      ⟨next, '\x22' :: inner⟩ := begun
  have deep : (depth + 1 = 0) = False := eq_false (Nat.succ_ne_zero depth)
  rw [readValue]
  simp only [inside, deep, decide_false, Bool.false_and, Bool.false_eq_true, if_false,
    Nat.add_sub_cancel, read]
  rfl

theorem exists_memberLines_eq {members : List (CodeText × Json)} (listed : members ≠ []) :
    ∃ inner, memberLines members = ' ' :: ' ' :: '\x22' :: inner := by
  obtain ⟨⟨name, json⟩, others, rfl⟩ := List.exists_cons_of_ne_nil listed
  rw [memberLines, printText]
  exact ⟨_, rfl⟩

/-- An object of settings is read back from its indented form. -/
theorem read_indentedObject {limits : Limits} (deep : limits.depth ≠ 0)
    {members : List (CodeText × Json)} (settings : AreSettings members) (listed : members ≠ [])
    (distinct : (members.map Prod.fst).Nodup) :
    read limits (indentedObject members) = .ok (.object members) := by
  obtain ⟨depth, depthIs⟩ := Nat.exists_eq_succ_of_ne_zero deep
  obtain ⟨fuel, fuelIs⟩ : ∃ fuel,
      2 * (indentedObject members).length + 2 = fuel + members.length + 1 + 1 := by
    have short := length_le_memberLines members
    refine ⟨2 * (indentedObject members).length - members.length, ?_⟩
    simp only [indentedObject, List.length_cons, List.length_append]
    omega
  obtain ⟨inner, lines⟩ := exists_memberLines_eq listed
  obtain ⟨later, membersRead⟩ := @exists_readMembers_eq 2 [] limits fuel depth [] members settings
    listed distinct
  have begun (position : Nat) : (Cursor.mk position (memberLines members ++ ['\x7d'])).skipBlanks =
      ⟨position + 1 + 1, '\x22' :: (inner ++ ['\x7d'])⟩ := by
    rw [lines]
    simp only [List.cons_append]
    rw [skipBlanks_of_blank (by decide), skipBlanks_of_blank (by decide)]
    exact skipBlanks_of_not (by decide)
  rw [begun] at membersRead
  have inside : (Cursor.mk 1 ('\n' :: (memberLines members ++ ['\x7d']))).skipBlanks =
      ⟨2 + 1 + 1, '\x22' :: (inner ++ ['\x7d'])⟩ := by
    rw [skipBlanks_of_blank (by decide), begun]
  have value := readValue_object 0 inside membersRead
  have source : (Cursor.mk 0 (indentedObject members)).skipBlanks =
      ⟨0, '\x7b' :: '\n' :: (memberLines members ++ ['\x7d'])⟩ := skipBlanks_of_not (by decide)
  rw [read, fuelIs, depthIs, source, value]
  · rfl
  · intro tail marked
    rw [indentedObject] at marked
    exact absurd (List.cons.inj marked).1 (by decide)

/-! ### Line ends -/

theorem return_not_mem_escapePoint (char : Char) : '\r' ∉ escapePoint (.ofChar char) := by
  have digits : ∀ code < 0x20, '\r' ∉ Text.Utf8.hexDigits 4 code := by decide
  rw [escapePoint_ofChar]
  repeat' split
  · decide
  · decide
  · decide
  · decide
  · decide
  · decide
  · decide
  · next control =>
    simp only [List.mem_cons, not_or]
    exact ⟨by decide, by decide, digits char.toNat control⟩
  · next other _ _ =>
    rw [List.mem_singleton]
    exact fun same => other same.symm

theorem return_not_mem_printText (chars : List Char) : '\r' ∉ printText (.ofChars chars) := by
  rw [printText]
  simp only [List.mem_cons, List.mem_append, List.mem_flatMap, not_or]
  refine ⟨by decide, ?_, by decide, List.not_mem_nil⟩
  rintro ⟨point, listed, inside⟩
  obtain ⟨char, _, rfl⟩ := List.mem_map.1 listed
  exact return_not_mem_escapePoint char inside

theorem return_not_mem_compact {json : Json} (setting : json.IsSetting) : '\r' ∉ compact json := by
  cases setting with
  | null =>
      rw [compact, compactWith, String.toList_ofList]
      decide
  | text value =>
      rw [compact, string, compactWith]
      exact return_not_mem_printText value.toList

theorem return_not_mem_memberLines {members : List (CodeText × Json)}
    (settings : AreSettings members) :
    '\r' ∉ memberLines members := by
  induction members with
  | nil => exact List.not_mem_nil
  | cons member members ih =>
      obtain ⟨name, json⟩ := member
      obtain ⟨⟨chars, rfl⟩, setting⟩ := settings _ List.mem_cons_self
      have named := return_not_mem_printText chars
      have valued := return_not_mem_compact setting
      have others := ih fun member behind => settings member (List.mem_cons_of_mem _ behind)
      rw [memberLines]
      simp only [List.mem_cons, List.mem_append, not_or]
      refine ⟨by decide, by decide, ⟨named, by decide, by decide, valued⟩, ?_⟩
      split
      · decide
      · simp only [List.mem_cons, not_or]
        exact ⟨by decide, by decide, others⟩

theorem return_not_mem_indentedObject {members : List (CodeText × Json)}
    (settings : AreSettings members) : '\r' ∉ indentedObject members := by
  rw [indentedObject]
  simp only [List.mem_cons, List.mem_append, List.not_mem_nil, or_false, not_or]
  exact ⟨by decide, by decide, return_not_mem_memberLines settings, by decide⟩

end Json

end EntityScaffold
