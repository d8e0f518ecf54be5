import EntityScaffold.Proofs.Text.Pieces
import EntityScaffold.Proofs.Yaml.Scanning
import EntityScaffold.Text.Words
import EntityScaffold.Yaml.Tag

/-
Words, and which of them are text. A word needs no quotes wherever it stands. Spellings of each other
type have characters of their own: a point in a number with a fraction, a dash in a date, and in
integers no letters but those of digits and bases. A word is a truth value, null, an integer or text,
and text if it has characters that the others lack.
-/

namespace EntityScaffold.Yaml

/-- The characters of words: letters, digits and the underscore, and beyond ASCII all that may stand
in a line. -/
def isWordChar (char : Char) : Bool :=
  Text.isAsciiUpper char || Text.isAsciiLower char || Text.isAsciiDigit char || char == '_' ||
    (128 ≤ char.toNat && isInLine char)

theorem ne_of_isWordChar {char mark : Char} (word : isWordChar char = true)
    (noWord : isWordChar mark = false) : char ≠ mark := by
  rintro rfl
  exact Bool.false_ne_true (noWord.symm.trans word)

theorem isInLine_of_isWordChar {char : Char} (word : isWordChar char = true) :
    isInLine char = true := by
  have apart (mark : Char) (noWord : isWordChar mark = false) : (char == mark) = false :=
    beq_false_of_ne (ne_of_isWordChar word noWord)
  have ascii {first last : Char} (low : 0x20 ≤ first.toNat) (high : last.toNat ≤ 0x7E)
      (range : (first ≤ char && char ≤ last) = true) : isInLine char = true := by
    obtain ⟨least, most⟩ := Bool.and_eq_true_iff.mp range
    have fromFirst : first.toNat ≤ char.toNat := of_decide_eq_true least
    have toLast : char.toNat ≤ last.toNat := of_decide_eq_true most
    have allowed : isAllowed char = true := by
      have printed : (0x20 ≤ char.toNat && char.toNat ≤ 0x7E) = true := by
        simp only [Bool.and_eq_true, decide_eq_true_eq]
        omega
      simp [isAllowed, printed]
    simp [isInLine, isBreak, allowed, apart '\n' rfl, apart '\r' rfl, apart '\x85' rfl,
      apart '\u2028' rfl, apart '\u2029' rfl, @ne_of_isWordChar _ '\uFEFF' word rfl]
  have cases_ := word
  simp only [isWordChar, Bool.or_eq_true] at cases_
  rcases cases_ with (((upper | lower) | digit) | mark) | beyond
  · exact ascii (by decide) (by decide) upper
  · exact ascii (by decide) (by decide) lower
  · exact ascii (by decide) (by decide) digit
  · rw [beq_iff_eq.mp mark]
    rfl
  · exact (Bool.and_eq_true_iff.mp beyond).2

theorem isPlainChar_of_isWordChar {char : Char} (word : isWordChar char = true) (inFlow : Bool) :
    isPlainChar inFlow char = true := by
  have apart (mark : Char) (noWord : isWordChar mark = false) : (char == mark) = false :=
    beq_false_of_ne (ne_of_isWordChar word noWord)
  have inLine := isInLine_of_isWordChar word
  have noBreak : isBreak char = false := by
    simp only [isInLine, Bool.and_eq_true, Bool.not_eq_true'] at inLine
    exact inLine.1.2
  simp [isPlainChar, inLine, isWordEnd, isSpaceOrEnd, isLineEnd, noBreak, isFlowPunctuation,
    apart '\x00' rfl, apart ' ' rfl, apart '\t' rfl, bne, apart ':' rfl, apart ',' rfl,
    apart '[' rfl, apart ']' rfl, apart '\x7b' rfl, apart '\x7d' rfl, apart '?' rfl]

theorem isQuotedChar_of_isWordChar {char : Char} (word : isWordChar char = true) :
    isQuotedChar char = true := by
  have apart (mark : Char) (noWord : isWordChar mark = false) : (char == mark) = false :=
    beq_false_of_ne (ne_of_isWordChar word noWord)
  have plain := isPlainChar_of_isWordChar word false
  simp only [isPlainChar, Bool.and_eq_true, Bool.not_eq_true'] at plain
  simp [isQuotedChar, plain.1.1.2, apart '\x27' rfl, apart '\x22' rfl, apart '\x5c' rfl]

theorem isPlainWord_of_isWordChar {inFlow : Bool} {word : List Char}
    (chars : ∀ char ∈ word, isWordChar char = true) (some_ : word ≠ []) :
    IsPlainWord inFlow word := by
  refine ⟨?_, fun char member => isPlainChar_of_isWordChar (chars char member) inFlow⟩
  obtain ⟨first, more, rfl⟩ := List.exists_cons_of_ne_nil some_
  have isWord := chars first List.mem_cons_self
  refine ⟨first, more, rfl, ?_, ne_of_isWordChar isWord rfl⟩
  refine Bool.eq_false_iff.mpr fun indicates => ?_
  have listed : first ∈ [',', '[', ']', '\x7b', '\x7d', '-', '?', ':', '#', '&', '*', '!', '|', '>',
      '\x27', '\x22', '%', '@', '\x60'] := by
    simpa [Scan.isIndicator, isFlowPunctuation, or_assoc] using indicates
  have noWord : ∀ mark ∈ [',', '[', ']', '\x7b', '\x7d', '-', '?', ':', '#', '&', '*', '!', '|', '>',
      '\x27', '\x22', '%', '@', '\x60'], isWordChar mark = false :=
    Text.forall_mem_of_all (by decide)
  exact ne_of_isWordChar isWord (noWord first listed) rfl

namespace Spelling

variable {chars : List Char}

/-- The characters of integers: digits of all bases with the marks of their bases, signs, and what
groups the digits. -/
def isIntChar (char : Char) : Bool :=
  Decimal.isDigitOf 16 char || ['x', '_', ':', '+', '-'].contains char

theorem isIntChar_of_isDigitOf {base : Nat} {char : Char} (small : base ≤ 16)
    (digit : Decimal.isDigitOf base char = true) : isIntChar char = true := by
  have hexadecimal : Decimal.isDigitOf 16 char = true := by
    unfold Decimal.isDigitOf at digit ⊢
    split at digit
    · next value found =>
      exact decide_eq_true (Nat.lt_of_lt_of_le (of_decide_eq_true digit) small)
    · cases digit
  rw [isIntChar, hexadecimal, Bool.true_or]

theorem isIntChar_of_digitOrMark {base : Nat} {char : Char} (small : base ≤ 16)
    (kept : (Decimal.isDigitOf base char || char == '_') = true) : isIntChar char = true := by
  rcases Bool.or_eq_true_iff.mp kept with digit | mark
  · exact isIntChar_of_isDigitOf small digit
  · rw [beq_iff_eq.mp mark]
    rfl

theorem isIntChar_of_isDigit {char : Char} (digit : isDigit char = true) : isIntChar char = true := by
  have most : char ≤ '9' := of_decide_eq_true (Bool.and_eq_true_iff.mp digit).2
  have value : Decimal.digitValue? char = some (char.toNat - '0'.toNat) := if_pos digit
  have small : char.toNat ≤ '9'.toNat := most
  refine @isIntChar_of_isDigitOf 10 char (by decide) ?_
  rw [Decimal.isDigitOf, value]
  refine decide_eq_true ?_
  simp at small ⊢
  omega

theorem isIntChar_of_isSixties (groups : isSixties chars = true) :
    ∀ char ∈ chars, isIntChar char = true := by
  have colon : isIntChar ':' = true := rfl
  fun_induction isSixties chars with
  | case1 unit => simp [colon, isIntChar_of_isDigit groups]
  | case2 ten unit =>
      simp only [Bool.and_eq_true] at groups
      simp [colon, isIntChar_of_isDigit groups.1.1, isIntChar_of_isDigit groups.2]
  | case3 ten rest _ ih =>
      obtain ⟨digit, later⟩ := Bool.and_eq_true_iff.mp groups
      exact List.forall_mem_cons.mpr ⟨colon, List.forall_mem_cons.mpr
        ⟨isIntChar_of_isDigit digit, ih later⟩⟩
  | case4 ten unit rest _ ih =>
      simp only [Bool.and_eq_true] at groups
      obtain ⟨⟨⟨tens, _⟩, units⟩, later⟩ := groups
      exact List.forall_mem_cons.mpr ⟨colon, List.forall_mem_cons.mpr ⟨isIntChar_of_isDigit tens,
        List.forall_mem_cons.mpr ⟨isIntChar_of_isDigit units, ih later⟩⟩⟩
  | case5 => cases groups

theorem isIntChar_of_isDigitOrMark {char : Char} (kept : isDigitOrMark char = true) :
    isIntChar char = true := by
  rcases Bool.or_eq_true_iff.mp kept with digit | mark
  · exact isIntChar_of_isDigit digit
  · rw [beq_iff_eq.mp mark]
    rfl

/-- A spelling is its body, with a sign in front or without. -/
theorem mem_or_mem_dropSign {char : Char} (member : char ∈ chars) :
    char = '+' ∨ char = '-' ∨ char ∈ dropSign chars := by
  unfold dropSign
  split
  · exact (List.mem_cons.mp member).imp_right Or.inr
  · exact Or.inr (List.mem_cons.mp member)
  · exact Or.inr (Or.inr member)

theorem isIntChar_of_isInt (int : isInt chars = true) : ∀ char ∈ chars, isIntChar char = true := by
  have body : ∀ char ∈ dropSign chars, isIntChar char = true := by
    have zero : isIntChar '0' = true := rfl
    unfold isInt at int
    -- zero, binary, hexadecimal, octal, and decimal with or without groups of base sixty
    split at int
    · next same =>
      rw [same]
      exact List.forall_mem_singleton.mpr zero
    · next rest same =>
      have digits := List.all_eq_true.mp (Bool.and_eq_true_iff.mp int).2
      rw [same]
      refine List.forall_mem_cons.mpr ⟨zero, List.forall_mem_cons.mpr ⟨rfl, fun char member => ?_⟩⟩
      have known := digits char member
      simp only [Bool.or_eq_true, beq_iff_eq] at known
      rcases known with (isZero | isOne) | isMark
      · rw [isZero]
        rfl
      · rw [isOne]
        rfl
      · rw [isMark]
        rfl
    · next rest same =>
      have digits := List.all_eq_true.mp (Bool.and_eq_true_iff.mp int).2
      rw [same]
      exact List.forall_mem_cons.mpr ⟨zero, List.forall_mem_cons.mpr ⟨rfl, fun char member =>
        isIntChar_of_digitOrMark (Nat.le_refl 16) (digits char member)⟩⟩
    · next rest _ _ _ same =>
      have digits := List.all_eq_true.mp int
      rw [same]
      exact List.forall_mem_cons.mpr ⟨zero, fun char member =>
        isIntChar_of_digitOrMark (by decide) (digits char member)⟩
    · next first rest _ _ _ _ same =>
      obtain ⟨digit, behind⟩ := Bool.and_eq_true_iff.mp int
      rw [same]
      refine List.forall_mem_cons.mpr ⟨isIntChar_of_isDigit digit, fun char member => ?_⟩
      rw [← @List.takeWhile_append_dropWhile _ isDigitOrMark rest] at member
      rcases List.mem_append.mp member with kept | dropped
      · exact isIntChar_of_isDigitOrMark (List.all_eq_true.mp List.all_takeWhile char kept)
      · rcases Bool.or_eq_true_iff.mp behind with nothing | groups
        · rw [List.isEmpty_iff.mp nothing] at dropped
          cases dropped
        · exact isIntChar_of_isSixties groups char dropped
    · cases int
  intro char member
  rcases mem_or_mem_dropSign member with isPlus | isMinus | inBody
  · rw [isPlus]
    rfl
  · rw [isMinus]
    rfl
  · exact body char inBody

theorem mem_of_mem_dropSign {char : Char} (member : char ∈ dropSign chars) : char ∈ chars := by
  unfold dropSign at member
  split at member
  · exact List.mem_cons_of_mem _ member
  · exact List.mem_cons_of_mem _ member
  · exact member

theorem mem_of_isFloat (float : isFloat chars = true) : '.' ∈ chars := by
  have inWord {words : List (List Char)} {text : List Char}
      (points : ∀ word ∈ words, '.' ∈ word) (listed : words.contains text = true) : '.' ∈ text :=
    points text (List.contains_iff_mem.mp listed)
  unfold isFloat at float
  dsimp only at float
  split at float
  · next infinite => exact mem_of_mem_dropSign (inWord (by decide) infinite)
  · split at float
    · next noNumber => exact inWord (by decide) noNumber
    · split at float
      · exact List.mem_cons_self
      · split at float
        · next first rest same =>
          refine mem_of_mem_dropSign ?_
          rw [same]
          refine List.mem_cons_of_mem _ ?_
          have within : rest.dropWhile isDigitOrMark ⊆ rest :=
            (List.dropWhile_suffix isDigitOrMark).subset
          have behind := (Bool.and_eq_true_iff.mp float).2
          split at behind
          · next fraction point =>
            exact within (point ▸ List.mem_cons_self)
          · split at behind
            · next fraction point =>
              exact within ((List.drop_suffix _ _).subset (point ▸ List.mem_cons_self))
            · cases behind
        · cases float

theorem mem_of_takeChar? {wanted : Char} {rest : List Char}
    (taken : takeChar? wanted chars = some rest) :
    wanted ∈ chars := by
  unfold takeChar? at taken
  split at taken
  · next char others =>
    split at taken
    · next same =>
      rw [beq_iff_eq.mp same]
      exact List.mem_cons_self
    · cases taken
  · cases taken

theorem mem_of_isTimestamp (stamp : isTimestamp chars = true) : '-' ∈ chars := by
  unfold isTimestamp at stamp
  split at stamp
  · cases stamp
  · next parts read =>
    obtain ⟨⟨year, behindYear⟩, digits, read⟩ := Option.bind_eq_some_iff.mp read
    obtain ⟨behindMark, mark, read⟩ := Option.bind_eq_some_iff.mp read
    have inside := mem_of_takeChar? mark
    unfold takeDigits? at digits
    dsimp only at digits
    split at digits
    · cases digits
      exact (List.drop_suffix _ _).subset inside
    · cases digits

end Spelling

open Spelling

/-- The marks that the types other than integers, truth values and null need. -/
def typeMarks : List Char := ['.', '-', '<', '=', '!', '&', '*', '\n']

variable {chars : List Char}

theorem ofSpelling_of_markless (markless : ∀ mark ∈ typeMarks, mark ∉ chars) :
    Tag.ofSpelling chars =
      if isBool chars then .bool
      else if isInt chars then .int
      else if isNull chars then .null
      else .text := by
  have noLineEnd : withoutLineEnd chars = chars := by
    unfold withoutLineEnd
    rw [if_neg]
    intro ends
    have last := beq_iff_eq.mp (Bool.and_eq_true_iff.mp ends).2
    exact markless '\n' (by decide) (List.mem_of_getLast? last)
  have noFloat : isFloat chars = false :=
    Bool.eq_false_iff.mpr fun float => markless '.' (by decide) (mem_of_isFloat float)
  have noStamp : isTimestamp chars = false :=
    Bool.eq_false_iff.mpr fun stamp => markless '-' (by decide) (mem_of_isTimestamp stamp)
  have noMerge : chars ≠ ['<', '<'] := fun same =>
    markless '<' (by decide) (same ▸ List.mem_cons_self)
  have noValue : chars ≠ ['='] := fun same =>
    markless '=' (by decide) (same ▸ List.mem_cons_self)
  have noMark : marks.contains chars = false := by
    refine Bool.eq_false_iff.mpr fun listed => ?_
    have among : ∀ word ∈ marks, word.any typeMarks.contains = true := by decide
    obtain ⟨mark, inside, known⟩ :=
      List.any_eq_true.mp (among chars (List.contains_iff_mem.mp listed))
    exact markless mark (List.contains_iff_mem.mp known) inside
  simp only [Tag.ofSpelling, noLineEnd, noFloat, noStamp, noMerge, noValue, noMark,
    Bool.false_eq_true, if_false]

/-- The characters of truth values and of null. -/
def isTruthChar (char : Char) : Bool :=
  ('a' ≤ char && char ≤ 'z') || ('A' ≤ char && char ≤ 'Z') || char == '~'

/-- A word without marks is text if it has characters that integers, truth values and null lack. -/
theorem ofSpelling_eq_text {strange other : Char} (markless : ∀ mark ∈ typeMarks, mark ∉ chars)
    (inWord : strange ∈ chars) (noTruth : isTruthChar strange = false)
    (alsoInWord : other ∈ chars) (noInt : isIntChar other = false) :
    Tag.ofSpelling chars = .text := by
  have notBool : isBool chars = false := by
    refine Bool.eq_false_iff.mpr fun listed => ?_
    have known : ∀ word ∈ trueWords ++ falseWords, word.all isTruthChar = true := by decide
    have word : chars ∈ trueWords ++ falseWords := by
      simpa [isBool] using listed
    exact Bool.false_ne_true (noTruth.symm.trans
      (List.all_eq_true.mp (known chars word) strange inWord))
  have notNull : isNull chars = false := by
    refine Bool.eq_false_iff.mpr fun listed => ?_
    have known : ∀ word ∈ ["".toList, "~".toList, "null".toList, "Null".toList, "NULL".toList],
        word.all isTruthChar = true := by
      decide
    have inList := known chars (List.contains_iff_mem.mp listed)
    exact Bool.false_ne_true (noTruth.symm.trans (List.all_eq_true.mp inList strange inWord))
  have notInt : isInt chars = false := Bool.eq_false_iff.mpr fun int =>
    Bool.false_ne_true (noInt.symm.trans (isIntChar_of_isInt int other alsoInWord))
  rw [ofSpelling_of_markless markless, notBool, notNull, notInt]
  rfl

end EntityScaffold.Yaml
