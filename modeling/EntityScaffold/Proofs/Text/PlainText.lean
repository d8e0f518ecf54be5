import EntityScaffold.Text.CodePoint

/-
Plain text: text without surrogates. It is what a file can hold, and it is the text of a string.
Nothing that is done to plain text brings a surrogate in.
-/

namespace EntityScaffold

namespace CodePoint

theorem isSurrogate_ofChar (char : Char) : (ofChar char).isSurrogate = false := by
  have valid := char.valid
  simp only [UInt32.isValidChar, Nat.isValidChar] at valid
  have bounds : char.toNat < 0xD800 ∨ 0xDFFF < char.toNat := by
    change char.val.toNat < 0xD800 ∨ 0xDFFF < char.val.toNat
    omega
  change (decide (0xD800 ≤ char.toNat) && decide (char.toNat ≤ 0xDFFF)) = false
  simp only [Bool.and_eq_false_iff, decide_eq_false_iff_not]
  omega

theorem ofChar_eq_of_toChar? {point : CodePoint} {char : Char} (found : point.toChar? = some char) :
    ofChar char = point := by
  unfold toChar? at found
  split at found
  · cases found
    obtain ⟨value, inRange⟩ := point
    simp only [ofChar, Char.toNat, mk.injEq]
    simp only [Nat.toUInt32, UInt32.toNat_ofNat']
    omega
  · cases found

theorem toChar?_isSome {point : CodePoint} (plain : point.isSurrogate = false) :
    point.toChar?.isSome = true := by
  have valid : Nat.isValidChar point.value := by
    have inRange := point.inRange
    simp only [isSurrogate, Bool.and_eq_false_iff, decide_eq_false_iff_not] at plain
    simp only [Nat.isValidChar]
    omega
  rw [toChar?, dif_pos valid]
  rfl

theorem ofChar_injective {left right : Char} (same : ofChar left = ofChar right) : left = right := by
  have values : left.toNat = right.toNat := congrArg value same
  exact Char.toNat_inj.mp values

theorem toChar?_ofChar (char : Char) : (ofChar char).toChar? = some char := by
  obtain ⟨other, found⟩ := Option.isSome_iff_exists.mp (toChar?_isSome (isSurrogate_ofChar char))
  rw [found, ofChar_injective (ofChar_eq_of_toChar? found)]

end CodePoint

namespace CodeText

def IsPlain (text : CodeText) : Prop := ∀ point ∈ text, point.isSurrogate = false

instance (text : CodeText) : Decidable text.IsPlain :=
  inferInstanceAs (Decidable (∀ point ∈ text, _))

theorem surrogates?_eq_none_iff {text : CodeText} : text.surrogates? = none ↔ text.IsPlain := by
  have whole : (text.takeWhile fun point => !point.isSurrogate) ++
      (text.dropWhile fun point => !point.isSurrogate) = text := List.takeWhile_append_dropWhile
  have dropped : text.drop (text.takeWhile fun point => !point.isSurrogate).length =
      text.dropWhile fun point => !point.isSurrogate :=
    (congrArg (List.drop _) whole.symm).trans List.drop_left
  unfold surrogates?
  dsimp only
  rw [dropped]
  cases behind : text.dropWhile fun point => !point.isSurrogate with
  | nil =>
      have plain : text.IsPlain := by
        intro point member
        rw [behind, List.append_nil] at whole
        rw [← whole] at member
        have kept := List.all_eq_true.mp List.all_takeWhile point member
        simpa using kept
      simp [plain]
  | cons first rest =>
      have stops := List.head?_dropWhile_not (fun point : CodePoint => !point.isSurrogate) text
      rw [behind] at stops
      have isSurrogate : first.isSurrogate = true := by simpa using stops
      have notPlain : ¬text.IsPlain := by
        intro plain
        have member : first ∈ text := by
          have inRest : first ∈ text.dropWhile fun point => !point.isSurrogate := by
            rw [behind]
            exact List.mem_cons_self
          exact (List.dropWhile_sublist _).subset inRest
        rw [plain first member] at isSurrogate
        cases isSurrogate
      simp [isSurrogate, notPlain]

theorem isPlain_ofChars (chars : List Char) : (ofChars chars).IsPlain := by
  intro point member
  obtain ⟨char, _, same⟩ := List.mem_map.mp member
  rw [← same]
  exact CodePoint.isSurrogate_ofChar char

theorem isPlain_ofString (string : String) : (ofString string).IsPlain :=
  isPlain_ofChars string.toList

theorem ofChars_replacing {text : CodeText} (plain : text.IsPlain) : ofChars text.replacing = text := by
  induction text with
  | nil => rfl
  | cons point rest ih =>
      obtain ⟨first, later⟩ := List.forall_mem_cons.mp plain
      obtain ⟨char, found⟩ := Option.isSome_iff_exists.mp (CodePoint.toChar?_isSome first)
      have others : ofChars (replacing rest) = rest := ih later
      simp only [replacing, ofChars, List.map_cons, found, Option.getD_some,
        CodePoint.ofChar_eq_of_toChar? found]
      exact congrArg (List.cons point) others

theorem replacing_ofChars (chars : List Char) : (ofChars chars).replacing = chars := by
  simp only [replacing, ofChars, List.map_map]
  refine (List.map_congr_left fun char _ => ?_).trans (List.map_id chars)
  simp [CodePoint.toChar?_ofChar]

theorem ofChars_injective {left right : List Char} (same : ofChars left = ofChars right) :
    left = right := by
  rw [← replacing_ofChars left, same, replacing_ofChars]

theorem toChars?_ofChars (chars : List Char) : (ofChars chars).toChars? = some chars := by
  induction chars with
  | nil => rfl
  | cons char chars ih =>
      rw [toChars?] at ih ⊢
      rw [ofChars, List.map_cons, List.mapM_cons, CodePoint.toChar?_ofChar]
      change (do let others ← (ofChars chars).mapM CodePoint.toChar?; return char :: others) = _
      rw [ih]
      rfl

theorem toString?_ofString (string : String) : (ofString string).toString? = some string := by
  rw [toString?, ofString, toChars?_ofChars, Option.map_some, String.ofList_toList]

theorem ofString_toStringReplacing {text : CodeText} (plain : text.IsPlain) :
    ofString text.toStringReplacing = text := by
  rw [ofString, toStringReplacing, String.toList_ofList, ofChars_replacing plain]

theorem toStringReplacing_ofString (string : String) : (ofString string).toStringReplacing = string := by
  rw [ofString, toStringReplacing, replacing_ofChars, String.ofList_toList]

theorem ofString_injective {first second : String} (same : ofString first = ofString second) :
    first = second := by
  have texts := congrArg toStringReplacing same
  rwa [toStringReplacing_ofString, toStringReplacing_ofString] at texts

/-! ### Octets replaced -/

theorem octetsReplaced_ofString (string : String) : (ofString string).octetsReplaced = string := by
  unfold octetsReplaced ofString
  rw [← String.ofList_toList (s := string), String.toList_ofList]
  refine congrArg String.ofList ?_
  induction string.toList with
  | nil => rfl
  | cons char rest ih =>
      rw [ofChars, List.map_cons, List.flatMap_cons, CodePoint.toChar?_ofChar]
      exact congrArg (char :: ·) ih

theorem isPlain_of_octetsReplaced {text : CodeText}
    (readable : '\uFFFD' ∉ text.octetsReplaced.toList) : text.IsPlain := by
  intro point listed
  cases found : point.toChar? with
  | some char =>
      rw [← CodePoint.ofChar_eq_of_toChar? found]
      exact CodePoint.isSurrogate_ofChar char
  | none =>
      refine absurd ?_ readable
      rw [octetsReplaced, String.toList_ofList]
      refine List.mem_flatMap.mpr ⟨point, listed, ?_⟩
      rw [found]
      exact List.mem_replicate.mpr ⟨by decide, rfl⟩

theorem octetsReplaced_eq_iff {text : CodeText} {wanted : String}
    (readable : '\uFFFD' ∉ wanted.toList) :
    text.octetsReplaced = wanted ↔ text = ofString wanted := by
  constructor
  · rintro rfl
    have plain := isPlain_of_octetsReplaced readable
    rw [← ofString_toStringReplacing plain, octetsReplaced_ofString]
  · rintro rfl
    exact octetsReplaced_ofString wanted

theorem ofString_append (first second : String) :
    ofString (first ++ second) = ofString first ++ ofString second := by
  simp only [ofString, ofChars, String.toList_append, List.map_append]

/-! ### What keeps text plain -/

theorem IsPlain.append {first second : CodeText} (plain : first.IsPlain)
    (alsoPlain : second.IsPlain) : IsPlain (first ++ second) := by
  intro point member
  rcases List.mem_append.mp member with early | late
  · exact plain point early
  · exact alsoPlain point late

theorem isPlain_flatten {texts : List CodeText} (plain : ∀ text ∈ texts, text.IsPlain) :
    IsPlain texts.flatten := by
  intro point member
  obtain ⟨text, listed, within⟩ := List.mem_flatten.mp member
  exact plain text listed point within

theorem isPlain_joinWith {separator : CodeText} {texts : List CodeText}
    (plainSeparator : separator.IsPlain) (plain : ∀ text ∈ texts, text.IsPlain) :
    IsPlain (Text.joinWith separator texts) := by
  induction texts with
  | nil =>
      intro point member
      cases member
  | cons first rest ih =>
      obtain ⟨plainFirst, others⟩ := List.forall_mem_cons.mp plain
      cases rest with
      | nil => exact plainFirst
      | cons next more =>
          exact (plainFirst.append plainSeparator).append (ih others)

theorem isPlain_mapRuns (change : List Char → List Char) {text : CodeText} (plain : text.IsPlain) :
    IsPlain (text.mapRuns change) := by
  have run (before : List Char) : IsPlain (mapRuns.go change before text) := by
    induction text generalizing before with
    | nil => exact isPlain_ofChars _
    | cons point rest ih =>
        obtain ⟨first, others⟩ := List.forall_mem_cons.mp plain
        obtain ⟨char, found⟩ := Option.isSome_iff_exists.mp (CodePoint.toChar?_isSome first)
        rw [mapRuns.go, found]
        exact ih others (char :: before)
  exact run []

theorem mapRuns_ofChars (change : List Char → List Char) (chars : List Char) :
    (ofChars chars).mapRuns change = ofChars (change chars) := by
  have run (before : List Char) :
      mapRuns.go change before (ofChars chars) = ofChars (change (before.reverse ++ chars)) := by
    induction chars generalizing before with
    | nil => rw [List.append_nil]; rfl
    | cons char rest ih =>
        have goes : mapRuns.go change before (ofChars (char :: rest)) =
            mapRuns.go change (char :: before) (ofChars rest) := by
          rw [ofChars, List.map_cons, mapRuns.go, CodePoint.toChar?_ofChar]
          rfl
        rw [goes, ih, List.reverse_cons, List.append_assoc, List.singleton_append]
  exact run []

theorem hidden_ofChars (chars : List Char) :
    ∀ point ∈ (ofChars chars).hidden, point = CodePoint.ofChar '\uFFFD' := by
  intro point member
  obtain ⟨listed, isHidden⟩ := List.mem_filter.mp member
  obtain ⟨char, _, same⟩ := List.mem_map.mp listed
  subst same
  rw [CodePoint.toChar?_ofChar, Option.getD_some, decide_eq_true_iff] at isHidden
  rw [isHidden]

/-- What is put in the places of replacement characters may be such characters. -/
theorem refill_of_replacements {points : CodeText} (chars : List Char)
    (all : ∀ point ∈ points, point = CodePoint.ofChar '\uFFFD') :
    refill points chars = ofChars chars := by
  induction chars generalizing points with
  | nil => cases points <;> rfl
  | cons char rest ih =>
      cases points with
      | nil => exact congrArg (List.cons _) (ih all)
      | cons point points =>
          rw [refill]
          split
          · next isReplacement =>
            rw [all point List.mem_cons_self, isReplacement]
            exact congrArg (List.cons _) (ih (List.forall_mem_cons.mp all).2)
          · exact congrArg (List.cons _) (ih all)

theorem mapWhole_ofChars (change : List Char → List Char) (chars : List Char) :
    (ofChars chars).mapWhole change = ofChars (change chars) := by
  rw [mapWhole, replacing_ofChars, refill_of_replacements _ (hidden_ofChars chars)]

theorem isPlain_mapWhole (change : List Char → List Char) {text : CodeText} (plain : text.IsPlain) :
    IsPlain (text.mapWhole change) := by
  rw [← ofChars_replacing plain, mapWhole_ofChars]
  exact isPlain_ofChars _

end CodeText

end EntityScaffold
