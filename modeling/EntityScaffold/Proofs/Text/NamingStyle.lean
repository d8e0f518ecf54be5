import EntityScaffold.Proofs.Text.LowerCase
import EntityScaffold.Proofs.Text.Pieces
import EntityScaffold.Text.Words

/-
Naming styles. The words of a name stand between marks, or one behind another with a capital in front
of each. The first step that breaks a name misses a word whose neighbour in front it has used up, and
one with a digit behind its capital; it leaves words with breaks in front of some of them, and the
second step puts in the others. So in every style a name becomes the same name with one break between
any two words, and has the same heading.
-/

namespace EntityScaffold.Text

/-! ### Words and styles -/

def isSmall (char : Char) : Bool := isAsciiLower char || isAsciiDigit char

/-- A word of a name: a small letter, and behind it small letters or digits, at least one. -/
def isNameWord : List Char → Bool
  | first :: next :: rest => isAsciiLower first && (isSmall next && rest.all isSmall)
  | _ => false

def capitalized : List Char → List Char
  | [] => []
  | first :: rest => first.toUpper :: rest

inductive NamingStyle where
  | snake
  | kebab
  | dotted
  | spaced
  | camel
  | pascal
  deriving DecidableEq

/-- The name that words make up in a style. -/
def NamingStyle.spell : NamingStyle → List (List Char) → List Char
  | .snake, words => joinWith ['_'] words
  | .kebab, words => joinWith ['-'] words
  | .dotted, words => joinWith ['.'] words
  | .spaced, words => joinWith [' '] words
  | .camel, [] => []
  | .camel, word :: words => word ++ words.flatMap capitalized
  | .pascal, words => words.flatMap capitalized

/-- Words with a break in front of each. -/
def broken (words : List (List Char)) : List Char := words.flatMap ('_' :: ·)

/-- Capitalised words one behind another, with breaks in front of some of them. -/
inductive SomeBroken : List (List Char) → List Char → Prop
  | nil : SomeBroken [] []
  | whole {word : List Char} {words : List (List Char)} {text : List Char} :
      SomeBroken words text → SomeBroken (word :: words) (capitalized word ++ text)
  | broken {word : List Char} {words : List (List Char)} {text : List Char} :
      SomeBroken words text → SomeBroken (word :: words) ('_' :: (capitalized word ++ text))

variable {char next : Char} {word run text rest : List Char} {words : List (List Char)}

/-! ### Characters -/

theorem toNat_lt_of_isSmall (small : isSmall char = true) : char.toNat < 128 := by
  have within {first last : Char} (low : last.toNat < 128)
      (range : (first ≤ char && char ≤ last) = true) : char.toNat < 128 := by
    have most : char.toNat ≤ last.toNat := of_decide_eq_true (Bool.and_eq_true_iff.mp range).2
    omega
  rcases Bool.or_eq_true_iff.mp small with lower | digit
  · exact within (by decide) lower
  · exact within (by decide) digit

theorem isSmall_of_isAsciiLower (lower : isAsciiLower char = true) : isSmall char = true :=
  Bool.or_eq_true_iff.mpr (Or.inl lower)

/-- What is checked for the small characters of ASCII holds of all small characters. -/
theorem forall_isSmall {holds : Char → Bool}
    (checked : ((List.range 128).all fun point =>
      !isSmall (Char.ofNat point) || holds (Char.ofNat point)) = true)
    (small : isSmall char = true) : holds char = true := by
  have known := @forall_ascii (fun char => !isSmall char || holds char) checked char
    (toNat_lt_of_isSmall small)
  simpa only [small, Bool.not_true, Bool.false_or] using known

theorem isAsciiUpper_eq_false (small : isSmall char = true) : isAsciiUpper char = false := by
  simpa using @forall_isSmall char (fun char => !isAsciiUpper char) (by decide +kernel) small

theorem isWordSeparator_eq_false (small : isSmall char = true) : isWordSeparator char = false := by
  simpa using @forall_isSmall char (fun char => !isWordSeparator char) (by decide +kernel) small

theorem isBlank_eq_false (small : isSmall char = true) : isBlank char = false := by
  simpa using @forall_isSmall char (fun char => !isBlank char) (by decide +kernel) small

theorem toLower_eq_self (small : isSmall char = true) : char.toLower = char := by
  simpa using @forall_isSmall char (fun char => char.toLower == char) (by decide +kernel) small

/-- What is asked about the capital of a small letter. -/
structure IsCapital (small capital : Char) : Prop where
  upper : isAsciiUpper capital = true
  noSmall : isSmall capital = false
  noSeparator : isWordSeparator capital = false
  ascii : capital.toNat < 128
  lowered : capital.toLower = small

theorem isCapital_toUpper (lower : isAsciiLower char = true) : IsCapital char char.toUpper := by
  have known := @forall_isSmall char
    (fun char => !isAsciiLower char || (isAsciiUpper char.toUpper && (!isSmall char.toUpper &&
      (!isWordSeparator char.toUpper && (char.toUpper.toNat < 128 &&
        char.toUpper.toLower == char)))))
    (by decide +kernel) (isSmall_of_isAsciiLower lower)
  simp only [lower, Bool.not_true, Bool.false_or, Bool.and_eq_true, Bool.not_eq_true',
    decide_eq_true_eq, beq_iff_eq] at known
  exact ⟨known.1, known.2.1, known.2.2.1, known.2.2.2.1, known.2.2.2.2⟩

/-- A word is its first letter, a second character, and the others. -/
theorem exists_of_isNameWord (named : isNameWord word = true) :
    ∃ first next rest, word = first :: next :: rest ∧ isAsciiLower first = true ∧
      isSmall next = true ∧ ∀ char ∈ rest, isSmall char = true := by
  match word with
  | [] => cases named
  | [_] => cases named
  | first :: next :: rest =>
      simp only [isNameWord, Bool.and_eq_true, List.all_eq_true] at named
      exact ⟨first, next, rest, rfl, named⟩

theorem isSmall_of_mem_word (named : isNameWord word = true) :
    ∀ char ∈ word, isSmall char = true := by
  obtain ⟨first, next, rest, rfl, lower, small, others⟩ := exists_of_isNameWord named
  exact List.forall_mem_cons.mpr ⟨isSmall_of_isAsciiLower lower,
    List.forall_mem_cons.mpr ⟨small, others⟩⟩

/-! ### Breaks between small characters -/

theorem breakBeforeCapitalised_cons_cons (noCapital : isAsciiUpper next = false) :
    breakBeforeCapitalised (char :: next :: rest) = char :: breakBeforeCapitalised (next :: rest) := by
  cases rest with
  | nil => simp [breakBeforeCapitalised]
  | cons third rest => simp [breakBeforeCapitalised, noCapital]

theorem breakBeforeCapital_cons_cons (noCapital : isAsciiUpper next = false) :
    breakBeforeCapital (char :: next :: rest) = char :: breakBeforeCapital (next :: rest) := by
  simp [breakBeforeCapital, noCapital]

/-- A name without capitals has no words to break in front of. -/
theorem broken_of_no_capital (noCapital : ∀ char ∈ text, isAsciiUpper char = false) :
    breakBeforeCapitalised text = text ∧ breakBeforeCapital text = text := by
  induction text with
  | nil => simp [breakBeforeCapitalised, breakBeforeCapital]
  | cons char rest ih =>
      cases rest with
      | nil => simp [breakBeforeCapitalised, breakBeforeCapital]
      | cons next rest =>
          obtain ⟨_, later⟩ := List.forall_mem_cons.mp noCapital
          obtain ⟨first, second⟩ := ih later
          have small := later next List.mem_cons_self
          rw [breakBeforeCapitalised_cons_cons small, first, breakBeforeCapital_cons_cons small,
            second]
          exact ⟨rfl, rfl⟩

/-! ### Breaks between capitalised words -/

variable {first : Char} {behind : List Char}

/-- A word whose second character is a letter is broken off, and its letters are used up. -/
theorem breakBeforeCapitalised_of_letter (small : isSmall char = true)
    (lower : isAsciiLower first = true) (letter : isAsciiLower next = true)
    (stops : behind.dropWhile isAsciiLower = behind) :
    breakBeforeCapitalised (char :: (capitalized (first :: next :: rest) ++ behind)) =
      char :: '_' :: (capitalized (first :: next :: rest.takeWhile isAsciiLower) ++
        breakBeforeCapitalised (rest.dropWhile isAsciiLower ++ behind)) := by
  have upper := (isCapital_toUpper lower).upper
  have inLine : char ≠ '\n' := by
    rintro rfl
    exact absurd small (by decide)
  have others : (rest ++ behind).dropWhile isAsciiLower = rest.dropWhile isAsciiLower ++ behind := by
    rw [List.dropWhile_append, stops]
    split
    · next nothing => rw [List.isEmpty_iff.mp nothing, List.nil_append]
    · rfl
  have letters : (rest ++ behind).takeWhile isAsciiLower = rest.takeWhile isAsciiLower := by
    have whole := @List.takeWhile_append_dropWhile _ isAsciiLower (rest ++ behind)
    rw [others, ← List.append_assoc] at whole
    have same := List.append_cancel_right whole
    exact List.append_cancel_right (same.trans List.takeWhile_append_dropWhile.symm)
  change breakBeforeCapitalised (char :: first.toUpper :: next :: (rest ++ behind)) = _
  rw [breakBeforeCapitalised, if_pos (by simp [inLine, upper, letter]), letters, others]
  rfl

/-- A word whose second character is a digit is missed. -/
theorem breakBeforeCapitalised_of_digit (digit : isAsciiLower next = false) :
    breakBeforeCapitalised (char :: (capitalized (first :: next :: rest) ++ behind)) =
      char :: breakBeforeCapitalised (capitalized (first :: next :: rest) ++ behind) := by
  change breakBeforeCapitalised (char :: first.toUpper :: next :: (rest ++ behind)) = _
  rw [breakBeforeCapitalised, if_neg (by simp [digit])]
  rfl

/-- The letters of a word end in front of the next one, which begins with a capital. -/
theorem dropWhile_flatMap_capitalized (named : ∀ word ∈ words, isNameWord word = true) :
    (words.flatMap capitalized).dropWhile isAsciiLower = words.flatMap capitalized := by
  cases words with
  | nil => rfl
  | cons word words =>
      obtain ⟨first, next, rest, rfl, lower, _⟩ := exists_of_isNameWord (named word List.mem_cons_self)
      refine List.dropWhile_cons_of_neg fun small => ?_
      exact Bool.false_ne_true
        ((isCapital_toUpper lower).noSmall.symm.trans (isSmall_of_isAsciiLower small))

/-- With nothing in front of it, a word stays whole. -/
theorem exists_broken_behind_word (named : isNameWord word = true)
    (others : ∀ {run : List Char}, (∀ char ∈ run, isSmall char = true) → ∃ text,
      SomeBroken words text ∧ breakBeforeCapitalised (run ++ behind) = run ++ text) :
    ∃ text, SomeBroken words text ∧
      breakBeforeCapitalised (capitalized word ++ behind) = capitalized word ++ text := by
  obtain ⟨first, next, rest, rfl, _, small, smallRest⟩ := exists_of_isNameWord named
  obtain ⟨text, partly, same⟩ := others (List.forall_mem_cons.mpr ⟨small, smallRest⟩)
  refine ⟨text, partly, ?_⟩
  change breakBeforeCapitalised (first.toUpper :: next :: (rest ++ behind)) = _
  rw [breakBeforeCapitalised_cons_cons (isAsciiUpper_eq_false small)]
  exact congrArg (first.toUpper :: ·) same

/-- The first step breaks in front of some words, whatever small characters precede them. Where it has
used up the letters of a word, it goes on with the rest of that word in front of the others. -/
theorem exists_someBroken (named : ∀ word ∈ words, isNameWord word = true)
    (small : ∀ char ∈ run, isSmall char = true) :
    ∃ text, SomeBroken words text ∧
      breakBeforeCapitalised (run ++ words.flatMap capitalized) = run ++ text := by
  induction words generalizing run with
  | nil =>
      have noCapital : ∀ char ∈ run, isAsciiUpper char = false :=
        fun char member => isAsciiUpper_eq_false (small char member)
      refine ⟨[], .nil, ?_⟩
      rw [List.flatMap_nil, List.append_nil, (broken_of_no_capital noCapital).1]
  | cons word words ih =>
      obtain ⟨isWord, others⟩ := List.forall_mem_cons.mp named
      obtain ⟨text, partly, same⟩ := exists_broken_behind_word isWord (ih others)
      rw [List.flatMap_cons]
      -- for one word, by induction on the run in front: only its last character meets the capital
      induction run with
      | nil => exact ⟨_, partly.whole, same⟩
      | cons char run ihRun =>
          obtain ⟨smallChar, smallRun⟩ := List.forall_mem_cons.mp small
          cases run with
          | cons second run =>
              obtain ⟨text, partly, same⟩ := ihRun smallRun
              have noCapital := isAsciiUpper_eq_false (smallRun second List.mem_cons_self)
              refine ⟨text, partly, ?_⟩
              exact (breakBeforeCapitalised_cons_cons noCapital).trans (congrArg (char :: ·) same)
          | nil =>
              obtain ⟨first, next, rest, rfl, lower, _, smallRest⟩ := exists_of_isNameWord isWord
              cases letter : isAsciiLower next with
              | false =>
                  refine ⟨_, partly.whole, ?_⟩
                  exact (breakBeforeCapitalised_of_digit letter).trans (congrArg (char :: ·) same)
              | true =>
                  -- what the break leaves of the word is the run in front of the other words
                  have left : ∀ char ∈ rest.dropWhile isAsciiLower, isSmall char = true :=
                    fun char member => smallRest char ((List.dropWhile_suffix _).subset member)
                  obtain ⟨text, partly, same⟩ := ih others left
                  have stops := dropWhile_flatMap_capitalized others
                  refine ⟨_, partly.broken, ?_⟩
                  rw [List.singleton_append, breakBeforeCapitalised_of_letter smallChar lower letter
                    stops, same, ← List.append_assoc]
                  change char :: '_' :: first.toUpper :: next ::
                    (rest.takeWhile isAsciiLower ++ rest.dropWhile isAsciiLower ++ text) = _
                  rw [List.takeWhile_append_dropWhile]
                  rfl

/-- What the second step makes of a text that stands behind small characters. -/
def BreaksTo (text result : List Char) : Prop :=
  ∀ char, isSmall char = true → breakBeforeCapital (char :: text) = char :: result

variable {result : List Char}

theorem BreaksTo.append (breaks : BreaksTo text result) (small : ∀ char ∈ run, isSmall char = true) :
    BreaksTo (run ++ text) (run ++ result) := by
  induction run with
  | nil => exact breaks
  | cons next run ih =>
      obtain ⟨smallNext, others⟩ := List.forall_mem_cons.mp small
      intro char _
      exact (breakBeforeCapital_cons_cons (isAsciiUpper_eq_false smallNext)).trans
        (congrArg (char :: ·) (ih others next smallNext))

/-- Within a word nothing is broken. -/
theorem BreaksTo.inWord (breaks : BreaksTo text result) (named : isNameWord word = true) :
    breakBeforeCapital (capitalized word ++ text) = capitalized word ++ result := by
  obtain ⟨first, next, rest, rfl, _, small, smallRest⟩ := exists_of_isNameWord named
  exact (breakBeforeCapital_cons_cons (isAsciiUpper_eq_false small)).trans
    (congrArg (first.toUpper :: ·) (breaks.append smallRest next small))

/-- The second step puts in the breaks that the first one has missed. -/
theorem breaksTo_of_someBroken (named : ∀ word ∈ words, isNameWord word = true)
    (partly : SomeBroken words text) : BreaksTo text (broken (words.map capitalized)) := by
  induction partly with
  | nil => exact fun _ _ => rfl
  | @whole word words text _ ih =>
      obtain ⟨isWord, others⟩ := List.forall_mem_cons.mp named
      intro char small
      have within := (ih others).inWord isWord
      obtain ⟨first, next, rest, rfl, lower, _⟩ := exists_of_isNameWord isWord
      have upper := (isCapital_toUpper lower).upper
      have missing : (isAsciiLower char || isAsciiDigit char) && isAsciiUpper first.toUpper := by
        rw [upper, Bool.and_true]
        exact small
      change breakBeforeCapital (char :: first.toUpper :: (next :: rest ++ text)) = _
      rw [breakBeforeCapital, if_pos missing]
      exact congrArg (char :: '_' :: ·) within
  | @broken word words text _ ih =>
      obtain ⟨isWord, others⟩ := List.forall_mem_cons.mp named
      intro char _
      have within := (ih others).inWord isWord
      obtain ⟨first, next, rest, rfl, _⟩ := exists_of_isNameWord isWord
      have marked : isAsciiUpper '_' = false := rfl
      rw [breakBeforeCapital_cons_cons marked]
      change char :: breakBeforeCapital ('_' :: first.toUpper :: (next :: rest ++ text)) = _
      have noSmall : ¬((isAsciiLower '_' || isAsciiDigit '_') && isAsciiUpper first.toUpper) = true := by
        rw [show (isAsciiLower '_' || isAsciiDigit '_') = false from rfl, Bool.false_and]
        exact Bool.false_ne_true
      rw [breakBeforeCapital, if_neg noSmall]
      exact congrArg (char :: '_' :: ·) within

/-! ### One name for all styles -/

variable {name : List Char} {mark : Char} {pieces : List (List Char)}

/-- What is asked of the pieces that a name has been broken into. -/
def ArePieces (pieces : List (List Char)) : Prop :=
  ∀ piece ∈ pieces, piece ≠ [] ∧ ∀ char ∈ piece, char.toNat < 128 ∧ isWordSeparator char = false

/-- Once it is broken, a name is its pieces in lower case, whatever mark stands between them. -/
theorem snakeCase_of_broken (isMark : mark = '_' ∨ isWordSeparator mark = true)
    (isBroken : breakBeforeCapital (breakBeforeCapitalised name) = joinWith [mark] pieces)
    (arePieces : ArePieces pieces) :
    snakeCase name = joinWith ['_'] (pieces.map (List.map Char.toLower)) := by
  have collapsed : collapseRuns isWordSeparator '_' false (joinWith [mark] pieces) =
      joinWith ['_'] pieces := by
    rcases isMark with rfl | separates
    · refine collapseRuns_of_none (fun char member => ?_) false
      rcases mem_of_mem_joinWith member with between | ⟨piece, listed, inside⟩
      · rw [List.mem_singleton.mp between]
        rfl
      · exact ((arePieces piece listed).2 char inside).2
    · exact collapseRuns_joinWith separates (fun piece listed =>
        ⟨(arePieces piece listed).1, fun char inside => ((arePieces piece listed).2 char inside).2⟩)
        false
  have ascii : ∀ char ∈ joinWith ['_'] pieces, char.toNat < 128 := by
    intro char member
    rcases mem_of_mem_joinWith member with between | ⟨piece, listed, inside⟩
    · rw [List.mem_singleton.mp between]
      decide
    · exact ((arePieces piece listed).2 char inside).1
  rw [snakeCase, isBroken, collapsed, lower_of_ascii ascii, map_joinWith]
  rfl

theorem map_toLower_word (named : isNameWord word = true) : word.map Char.toLower = word :=
  (List.map_congr_left fun char member => toLower_eq_self (isSmall_of_mem_word named char member)).trans
    (List.map_id word)

theorem map_toLower_capitalized (named : isNameWord word = true) :
    (capitalized word).map Char.toLower = word := by
  have whole := map_toLower_word named
  obtain ⟨first, next, rest, rfl, lower, _⟩ := exists_of_isNameWord named
  rw [capitalized, List.map_cons, (isCapital_toUpper lower).lowered]
  exact congrArg (first :: ·) (List.cons.inj whole).2

theorem arePieces_words (named : ∀ word ∈ words, isNameWord word = true) : ArePieces words := by
  intro word listed
  refine ⟨?_, fun char member => ?_⟩
  · rintro rfl
    cases named [] listed
  · have small := isSmall_of_mem_word (named word listed) char member
    exact ⟨toNat_lt_of_isSmall small, isWordSeparator_eq_false small⟩

theorem arePieces_capitalized (named : ∀ word ∈ words, isNameWord word = true) :
    ArePieces (words.map capitalized) := by
  intro piece listed
  obtain ⟨word, inWords, rfl⟩ := List.mem_map.mp listed
  have small := isSmall_of_mem_word (named word inWords)
  obtain ⟨first, next, rest, rfl, lower, _⟩ := exists_of_isNameWord (named word inWords)
  have capital := isCapital_toUpper lower
  refine ⟨List.cons_ne_nil _ _, List.forall_mem_cons.mpr ⟨⟨capital.ascii, capital.noSeparator⟩, ?_⟩⟩
  intro char member
  have smallChar := small char (List.mem_cons_of_mem first member)
  exact ⟨toNat_lt_of_isSmall smallChar, isWordSeparator_eq_false smallChar⟩

/-- Words between marks. -/
theorem snakeCase_joinWith (isMark : mark = '_' ∨ isWordSeparator mark = true)
    (noCapital : isAsciiUpper mark = false) (named : ∀ word ∈ words, isNameWord word = true) :
    snakeCase (joinWith [mark] words) = joinWith ['_'] words := by
  have without : ∀ char ∈ joinWith [mark] words, isAsciiUpper char = false := by
    intro char member
    rcases mem_of_mem_joinWith member with between | ⟨word, listed, inside⟩
    · rw [List.mem_singleton.mp between, noCapital]
    · exact isAsciiUpper_eq_false (isSmall_of_mem_word (named word listed) char inside)
  obtain ⟨first, second⟩ := broken_of_no_capital without
  have isBroken : breakBeforeCapital (breakBeforeCapitalised (joinWith [mark] words)) =
      joinWith [mark] words := by rw [first, second]
  rw [snakeCase_of_broken isMark isBroken (arePieces_words named)]
  have same := List.map_congr_left fun word listed => map_toLower_word (named word listed)
  rw [same, List.map_id']

/-- Words with a capital in front of each stand for themselves behind a small or a capitalised one. -/
theorem joinWith_of_humps (isWord : isNameWord word = true)
    (named : ∀ word ∈ words, isNameWord word = true) :
    breakBeforeCapital (breakBeforeCapitalised (word ++ words.flatMap capitalized)) =
        joinWith ['_'] (word :: words.map capitalized) ∧
      breakBeforeCapital (breakBeforeCapitalised (capitalized word ++ words.flatMap capitalized)) =
        joinWith ['_'] (capitalized word :: words.map capitalized) := by
  have small := isSmall_of_mem_word isWord
  rw [joinWith_cons, joinWith_cons]
  constructor
  · obtain ⟨text, partly, same⟩ := exists_someBroken named small
    obtain ⟨first, next, rest, rfl, _⟩ := exists_of_isNameWord isWord
    obtain ⟨smallFirst, others⟩ := List.forall_mem_cons.mp small
    rw [same]
    exact (breaksTo_of_someBroken named partly).append others first smallFirst
  · obtain ⟨text, partly, same⟩ := exists_broken_behind_word isWord (exists_someBroken named)
    rw [same]
    exact (breaksTo_of_someBroken named partly).inWord isWord

theorem snakeCase_spell (style : NamingStyle) (someLeft : words ≠ [])
    (named : ∀ word ∈ words, isNameWord word = true) :
    snakeCase (style.spell words) = joinWith ['_'] words := by
  obtain ⟨word, words, rfl⟩ := List.exists_cons_of_ne_nil someLeft
  obtain ⟨isWord, others⟩ := List.forall_mem_cons.mp named
  have mark : ('_' : Char) = '_' ∨ isWordSeparator '_' = true := Or.inl rfl
  obtain ⟨small, capital⟩ := joinWith_of_humps isWord others
  have lowered : (words.map capitalized).map (List.map Char.toLower) = words := by
    rw [List.map_map]
    exact (List.map_congr_left fun word listed => map_toLower_capitalized (others word listed)).trans
      (List.map_id words)
  have arePieces := arePieces_capitalized named
  cases style with
  | snake => exact snakeCase_joinWith (Or.inl rfl) rfl named
  | kebab => exact snakeCase_joinWith (Or.inr rfl) rfl named
  | dotted => exact snakeCase_joinWith (Or.inr rfl) rfl named
  | spaced => exact snakeCase_joinWith (Or.inr rfl) rfl named
  | camel =>
      have firstSmall : ArePieces (word :: words.map capitalized) :=
        List.forall_mem_cons.mpr
          ⟨arePieces_words named word List.mem_cons_self, (List.forall_mem_cons.mp arePieces).2⟩
      rw [NamingStyle.spell, snakeCase_of_broken mark small firstSmall, List.map_cons, lowered,
        map_toLower_word isWord]
  | pascal =>
      rw [NamingStyle.spell, List.flatMap_cons, snakeCase_of_broken mark capital arePieces,
        List.map_cons, lowered, map_toLower_capitalized isWord]

/-- In every style, words give the same name with breaks and the same heading: the words with one space
between any two, and with a capital in front. -/
theorem names_and_headings_of_words (style : NamingStyle) (someLeft : words ≠ [])
    (named : ∀ word ∈ words, isNameWord word = true) :
    snakeCase (style.spell words) = joinWith ['_'] words ∧
      humanize (style.spell words) = capitalized (joinWith [' '] words) := by
  have name := snakeCase_spell style someLeft named
  refine ⟨name, ?_⟩
  have inside : ∀ word ∈ words, ∀ char ∈ word, (char == '_') = false := by
    intro word listed char member
    have small := isSmall_of_mem_word (named word listed) char member
    refine beq_eq_false_iff_ne.mpr ?_
    rintro rfl
    exact absurd small (by decide)
  have spaced : replaceChar '_' ' ' (joinWith ['_'] words) = joinWith [' '] words := by
    rw [replaceChar_eq_joinWith, splitWhere_joinWith (· == '_') rfl someLeft inside]
  have trimmed : trim isBlank (joinWith [' '] words) = joinWith [' '] words :=
    trim_joinWith fun word listed => ⟨(arePieces_words named word listed).1, fun char member =>
      isBlank_eq_false (isSmall_of_mem_word (named word listed) char member)⟩
  rw [humanize, name, spaced, trimmed]
  obtain ⟨word, words, rfl⟩ := List.exists_cons_of_ne_nil someLeft
  obtain ⟨first, next, rest, rfl, lower, _⟩ := exists_of_isNameWord (named word List.mem_cons_self)
  have ascii := toNat_lt_of_isSmall (isSmall_of_isAsciiLower lower)
  rw [joinWith_cons, List.cons_append, capitalizeFirst, upperChar_of_ascii ascii]
  rfl

/-- A second word with a digit behind its capital, and a third one right behind it. -/
theorem camel_words_told_apart :
    NamingStyle.camel.spell ["sent".toList, "p2p".toList, "at".toList] = "sentP2pAt".toList ∧
      snakeCase "sentP2pAt".toList = "sent_p2p_at".toList ∧
        humanize "sentP2pAt".toList = "Sent p2p at".toList := by
  have named : ∀ word ∈ ["sent".toList, "p2p".toList, "at".toList], isNameWord word = true := by
    decide
  exact ⟨by decide, names_and_headings_of_words .camel (List.cons_ne_nil _ _) named⟩

end EntityScaffold.Text
