import EntityScaffold.Metadata.Load
import EntityScaffold.Proofs.Metadata.Untold
import EntityScaffold.Proofs.Ordered

/-
The two forms of fields. Pairs of a name and a type may be given as a list of entries, or as a mapping,
where a repeated name keeps its place and takes its last type. A text and an integer may be written
alike without being one name: the list then takes the type that is given last, and the mapping that of
the name which was new last.
-/

namespace EntityScaffold

inductive GivenName where
  | text (content : CodeText)
  | number (value : Int)
  deriving DecidableEq

namespace GivenName

def value : GivenName → Value
  | .text content => .text content
  | .number value => .int value

def spelling : GivenName → CodeText
  | .text content => content
  | .number value => CodeText.ofString (toString value)

theorem sameKey_value (left right : GivenName) :
    left.value.sameKey right.value = (left == right) := by
  cases left with
  | text content =>
      cases right with
      | text other =>
          change (content == other) = _
          rw [Bool.eq_iff_iff]
          simp
      | number other => rfl
  | number value =>
      cases right with
      | text other => rfl
      | number other =>
          change (value == other) = _
          rw [Bool.eq_iff_iff]
          simp

end GivenName

namespace Value

/-- A value that is no collection. -/
def IsScalar : Value → Prop
  | .list _ | .pair _ _ | .map _ | .set _ | .again _ => False
  | _ => True

def HasText (value : Value) : Prop := ∃ content, value.shown [] = .ok content

variable {value : Value} {fault : TextFault}

theorem intChars_eq (number : Int) :
    intChars number = if Decimal.digitLimit < (toString number.natAbs).toList.length then
      .error .integerTooLong else .ok (toString number).toList := by
  have signed : (toString number).toList =
      if number < 0 then '-' :: (toString number.natAbs).toList else (toString number.natAbs).toList := by
    cases number with
    | ofNat size => rfl
    | negSucc size =>
        rw [if_pos (Int.negSucc_lt_zero size)]
        change ("-" ++ (size + 1).repr).toList = _
        rw [String.toList_append]
        rfl
  rw [signed]
  rfl

/-- Of scalars only integers may have no text. -/
theorem IsScalar.eq_integerTooLong (scalar : value.IsScalar) (failed : value.shown [] = .error fault) :
    fault = .integerTooLong := by
  cases value with
  | int number =>
      rw [shown, map_eq_error_iff] at failed
      · rw [quoted, quotedWith, intChars_eq] at failed
        split at failed <;> cases failed
        rfl
      all_goals
        intro _ same
        cases same
  | list _ | pair _ _ | map _ | set _ | again _ => cases scalar
  | text _ | date _ | moment _ => cases failed
  | null | bool _ | float _ | bytes _ =>
      rw [shown, map_eq_error_iff] at failed
      · unfold quoted quotedWith at failed
        cases failed
      all_goals
        intro _ same
        cases same

end Value

theorem GivenName.eq_spelling {name : GivenName} {content : CodeText}
    (told : name.value.shown [] = .ok content) : content = name.spelling := by
  cases name with
  | text _ => exact (Except.ok.inj told).symm
  | number value =>
      rw [GivenName.value, Value.shown, map_eq_ok_iff] at told
      · obtain ⟨chars, written, rfl⟩ := told
        rw [Value.quoted, Value.quotedWith, Value.intChars_eq] at written
        split at written <;> cases written
        rfl
      all_goals
        intro _ same
        cases same

namespace EntityMetadata

/-- Pairs as a list of entries. -/
def listForm (pairs : List (GivenName × Value)) : Document :=
  ⟨.map [(.string "fields", .list (pairs.map fun pair =>
    .map [(.string "name", pair.1.value), (.string "type", pair.2)]))], []⟩

/-- Pairs as a mapping, into which they are put one after another. -/
def mappingForm (pairs : List (GivenName × Value)) : Document :=
  ⟨.map [(.string "fields", .map (Ordered.ofListBy Value.sameKey
    (pairs.map (Prod.map GivenName.value id))))], []⟩

/-- The pairs whose names are written alike. -/
def spelled (spelling : CodeText) (pairs : List (GivenName × Value)) : List (GivenName × Value) :=
  pairs.filter (·.1.spelling == spelling)

/-- The type that is given last under a spelling. -/
def lastType (spelling : CodeText) (pairs : List (GivenName × Value)) : Option Value :=
  (spelled spelling pairs).getLast?.map Prod.snd

/-- The type that is given last to the name which is new last among those of a spelling. -/
def newestType (spelling : CodeText) (pairs : List (GivenName × Value)) : Option Value :=
  ((spelled spelling pairs).map Prod.fst).eraseDups.getLast?.bind fun name =>
    (spelled spelling pairs).reverse.lookup name

def IsTold (pair : GivenName × Value) : Prop := pair.1.value.HasText ∧ pair.2.HasText

def written (pair : GivenName × Value) : CodeText × CodeText :=
  (pair.1.spelling, (pair.2.shown []).toOption.getD [])

variable {pairs : List (GivenName × Value)}

def fieldsMade (pairs : List (GivenName × Value)) :
    Except MetadataError (List (CodeText × CodeText)) :=
  (pairs.mapM fun pair => fieldOfMember ⟨.null, []⟩ (pair.1.value, pair.2)).map Ordered.ofList

theorem ofDocument_fields (declared : Value) :
    ofDocument ⟨.map [(.string "fields", declared)], []⟩ =
      (fieldsOf ⟨.map [(.string "fields", declared)], []⟩ declared).map
        (⟨·, [CodeText.ofString "id"]⟩) := by
  have given : Value.get? "fields" [(.string "fields", declared)] = some declared := rfl
  have silent : Value.get? "identifier" [(.string "fields", declared)] = none := rfl
  unfold ofDocument
  dsimp only [Document.resolve]
  rw [given, silent]
  dsimp only [checkIdentifier, Checked.toExcept]
  cases fieldsOf ⟨.map [(.string "fields", declared)], []⟩ declared <;> rfl

theorem ofDocument_listForm (pairs : List (GivenName × Value)) :
    ofDocument (listForm pairs) = (fieldsMade pairs).map (⟨·, [CodeText.ofString "id"]⟩) := by
  rw [listForm, ofDocument_fields]
  congr 1
  change Except.map _ (List.mapM _ (pairs.map _)) = _
  rw [List.mapM_map]
  rfl

theorem ofDocument_mappingForm (pairs : List (GivenName × Value)) :
    ofDocument (mappingForm pairs) =
      (fieldsMade (Ordered.ofList pairs)).map (⟨·, [CodeText.ofString "id"]⟩) := by
  have sameEntries : Ordered.ofListBy Value.sameKey (pairs.map (Prod.map GivenName.value id)) =
      (Ordered.ofList pairs).map (Prod.map GivenName.value id) :=
    Ordered.ofListBy_map (List.pairwise_of_forall fun left right =>
      GivenName.sameKey_value left.1 right.1)
  rw [mappingForm, ofDocument_fields]
  congr 1
  change fieldsOfMapping _ _ = _
  rw [fieldsOfMapping_eq, sameEntries, List.mapM_map]
  rfl

theorem fieldOfMember_eq_ok_iff_isTold {pair : GivenName × Value} {field : CodeText × CodeText} :
    fieldOfMember ⟨.null, []⟩ (pair.1.value, pair.2) = .ok field ↔
      IsTold pair ∧ written pair = field := by
  simp only [fieldOfMember, bind_eq_ok_iff, textOf_eq_ok_iff]
  constructor
  · rintro ⟨name, toldName, type, toldType, made⟩
    cases made
    refine ⟨⟨⟨name, toldName⟩, type, toldType⟩, ?_⟩
    rw [written, toldType, GivenName.eq_spelling toldName]
    rfl
  · rintro ⟨⟨⟨name, toldName⟩, type, toldType⟩, rfl⟩
    refine ⟨name, toldName, type, toldType, ?_⟩
    rw [written, toldType, GivenName.eq_spelling toldName]
    rfl

theorem fieldsMade_eq_ok_iff {fields : List (CodeText × CodeText)} :
    fieldsMade pairs = .ok fields ↔
      (∀ pair ∈ pairs, IsTold pair) ∧ Ordered.ofList (pairs.map written) = fields := by
  have each (made : List (CodeText × CodeText)) :
      List.Forall₂ (fun pair field => written pair = field) pairs made ↔ pairs.map written = made := by
    rw [← List.forall₂_map_left_iff, List.forall₂_eq_eq_eq]
  rw [fieldsMade, map_eq_ok_iff]
  simp only [mapM_eq_ok_iff, fieldOfMember_eq_ok_iff_isTold, List.forall₂_and_left, each]
  simp

theorem eq_noText_of_fieldsMade {error : MetadataError}
    (scalars : ∀ pair ∈ pairs, pair.2.IsScalar) (failed : fieldsMade pairs = .error error) :
    error = .noText .integerTooLong := by
  have untold {value : Value} (scalar : value.IsScalar)
      (failed : textOf ⟨.null, []⟩ value = .error error) : error = .noText .integerTooLong := by
    obtain ⟨fault, reason, rfl⟩ := textOf_eq_error_iff.mp failed
    rw [scalar.eq_integerTooLong reason]
  rw [fieldsMade, map_eq_error_iff, mapM_eq_error_iff] at failed
  obtain ⟨front, pair, behind, rfl, _, failed⟩ := failed
  have isName : pair.1.value.IsScalar := by
    cases pair.1 <;> trivial
  have isType := scalars pair (List.mem_append_right front List.mem_cons_self)
  simp only [fieldOfMember, bind_eq_error_iff] at failed
  rcases failed with failed | ⟨_, _, failed | ⟨_, _, impossible⟩⟩
  · exact untold isName failed
  · exact untold isType failed
  · cases impossible

/-! ### What the two forms have in common -/

theorem keys_written (pairs : List (GivenName × Value)) :
    (Ordered.ofList ((Ordered.ofList pairs).map written)).map Prod.fst =
      (Ordered.ofList (pairs.map written)).map Prod.fst := by
  have spell (pairs : List (GivenName × Value)) :
      (pairs.map written).map Prod.fst = (pairs.map Prod.fst).map GivenName.spelling := by
    rw [List.map_map, List.map_map]
    rfl
  rw [Ordered.keys_ofList, Ordered.keys_ofList, spell, spell, Ordered.keys_ofList,
    Ordered.eraseDups_map_eraseDups]

theorem lookup_written (pairs : List (GivenName × Value)) (spelling : CodeText) :
    (Ordered.ofList (pairs.map written)).lookup spelling =
      (lastType spelling pairs).map fun type => (type.shown []).toOption.getD [] := by
  rw [Ordered.lookup_ofList, Ordered.lookup_reverse, List.filter_map, List.getLast?_map, lastType,
    Option.map_map, Option.map_map]
  rfl

/-- In the mapping the type that comes last under a spelling is that of the name which was new last. -/
theorem lastType_ofList (pairs : List (GivenName × Value)) (spelling : CodeText) :
    lastType spelling (Ordered.ofList pairs) = newestType spelling pairs := by
  have kept : spelled spelling (Ordered.ofList pairs) = Ordered.ofList (spelled spelling pairs) :=
    Ordered.filter_ofList (fun name : GivenName => name.spelling == spelling) pairs
  rw [lastType, kept]
  exact Ordered.getLast?_ofList (spelled spelling pairs)

/-- Names that are written alike only if they are one leave no choice of a type. -/
theorem newestType_eq_lastType (spelling : CodeText)
    (alike : ∀ left ∈ pairs, ∀ right ∈ pairs, left.1.spelling = right.1.spelling → left.1 = right.1) :
    newestType spelling pairs = lastType spelling pairs := by
  have one : ∀ left ∈ spelled spelling pairs, ∀ right ∈ spelled spelling pairs, left.1 = right.1 := by
    intro left inLeft right inRight
    obtain ⟨leftListed, leftSpelled⟩ := List.mem_filter.mp inLeft
    obtain ⟨rightListed, rightSpelled⟩ := List.mem_filter.mp inRight
    exact alike left leftListed right rightListed
      ((eq_of_beq leftSpelled).trans (eq_of_beq rightSpelled).symm)
  unfold newestType lastType
  generalize spelled spelling pairs = named at one
  cases newest : (named.map Prod.fst).eraseDups.getLast? with
  | none =>
      cases named with
      | nil => rfl
      | cons pair rest => simp [List.eraseDups_cons] at newest
  | some name =>
      have listed := List.mem_eraseDups.mp (List.mem_of_getLast? newest)
      obtain ⟨pair, member, rfl⟩ := List.mem_map.mp listed
      rw [Option.bind_some, Ordered.lookup_reverse, List.filter_eq_self.mpr]
      exact fun other within => beq_iff_eq.mpr (one other within pair member)

theorem exists_mem_of_lastType {type : Value} {spelling : CodeText}
    (last : lastType spelling pairs = some type) : ∃ pair ∈ pairs, pair.2 = type := by
  obtain ⟨pair, isLast, rfl⟩ := Option.map_eq_some_iff.mp last
  exact ⟨pair, (List.mem_filter.mp (List.mem_of_getLast? isLast)).1, rfl⟩

/-- Types that have texts are written alike if their texts are one. -/
theorem map_shown_eq_iff {left right : Option Value} (leftTold : ∀ type ∈ left, type.HasText)
    (rightTold : ∀ type ∈ right, type.HasText) :
    (left.map fun type => (type.shown []).toOption.getD []) =
        (right.map fun type => (type.shown []).toOption.getD []) ↔
      left.map (Value.shown []) = right.map (Value.shown []) := by
  cases left with
  | none => cases right <;> simp
  | some type =>
      obtain ⟨content, told⟩ := leftTold type rfl
      cases right with
      | none => simp
      | some other =>
          obtain ⟨content', told'⟩ := rightTold other rfl
          simp [told, told', Except.toOption]

/-- The fields of both forms are one exactly if the types that they take are. -/
theorem fields_eq_iff (told : ∀ pair ∈ pairs, IsTold pair) :
    Ordered.ofList (pairs.map written) = Ordered.ofList ((Ordered.ofList pairs).map written) ↔
      ∀ spelling, (lastType spelling pairs).map (Value.shown []) =
        (newestType spelling pairs).map (Value.shown []) := by
  have toldLast {others : List (GivenName × Value)} (listed : ∀ pair ∈ others, pair ∈ pairs)
      (spelling : CodeText) : ∀ type ∈ lastType spelling others, type.HasText := by
    intro type last
    obtain ⟨pair, member, rfl⟩ := exists_mem_of_lastType last
    exact (told pair (listed pair member)).2
  have alike (spelling : CodeText) :
      (Ordered.ofList (pairs.map written)).lookup spelling =
          (Ordered.ofList ((Ordered.ofList pairs).map written)).lookup spelling ↔
        (lastType spelling pairs).map (Value.shown []) =
          (newestType spelling pairs).map (Value.shown []) := by
    rw [lookup_written, lookup_written, ← lastType_ofList]
    exact map_shown_eq_iff (toldLast (fun _ => id) spelling)
      (toldLast (fun _ => Ordered.mem_of_mem_ofList) spelling)
  constructor
  · intro same spelling
    rw [← alike, same]
  · intro same
    exact Ordered.eq_of_lookup_eq (Ordered.nodup_keys_ofList _) (keys_written pairs).symm
      fun spelling => (alike spelling).mpr (same spelling)

section

variable {source : Path} {document : Document} {metadata : EntityMetadata} {error : LoadError}

theorem ofSource_eq_ok_iff_made
    (makes : ofDocument document = (fieldsMade pairs).map (⟨·, [CodeText.ofString "id"]⟩)) :
    ofSource source document = .ok metadata ↔ (∀ pair ∈ pairs, IsTold pair) ∧
      ⟨Ordered.ofList (pairs.map written), [CodeText.ofString "id"]⟩ = metadata := by
  rw [ofSource, mapError_eq_ok_iff, makes, map_eq_ok_iff]
  simp [fieldsMade_eq_ok_iff, and_assoc]

theorem eq_noText_of_ofSource
    (makes : ofDocument document = (fieldsMade pairs).map (⟨·, [CodeText.ofString "id"]⟩))
    (scalars : ∀ pair ∈ pairs, pair.2.IsScalar) (failed : ofSource source document = .error error) :
    error = .noText .integerTooLong := by
  rw [ofSource, mapError_eq_error_iff, makes] at failed
  obtain ⟨origin, failed, rfl⟩ := failed
  rw [eq_noText_of_fieldsMade scalars (map_eq_error_iff.mp failed)]

end

/-- Both forms declare the same names in the same order and the same identifier whenever both give
metadata. The list does so if all names and types have a text, the mapping if those that it keeps have
one; only an integer of too many digits has none. They declare the same types exactly if, under every
spelling, the type that is given last is written like the one that is given last to the name which
comes up last; so they do if no integer is written like a text. -/
theorem forms_agree_iff (scalars : ∀ pair ∈ pairs, pair.2.IsScalar) (source : Path) :
    ((∃ metadata, ofSource source (listForm pairs) = .ok metadata) ↔ ∀ pair ∈ pairs, IsTold pair) ∧
      ((∃ metadata, ofSource source (mappingForm pairs) = .ok metadata) ↔
        ∀ pair ∈ Ordered.ofList pairs, IsTold pair) ∧
      (∀ error, ofSource source (listForm pairs) = .error error ∨
        ofSource source (mappingForm pairs) = .error error → error = .noText .integerTooLong) ∧
      (∀ listed mapped, ofSource source (listForm pairs) = .ok listed →
        ofSource source (mappingForm pairs) = .ok mapped →
          (listed.identifier = [CodeText.ofString "id"] ∧
            mapped.identifier = [CodeText.ofString "id"]) ∧
          listed.fields.map Prod.fst = mapped.fields.map Prod.fst ∧
          (listed.fields = mapped.fields ↔ ∀ spelling,
            (lastType spelling pairs).map (Value.shown []) =
              (newestType spelling pairs).map (Value.shown []))) ∧
      ((∀ left ∈ pairs, ∀ right ∈ pairs,
          left.1.spelling = right.1.spelling → left.1 = right.1) →
        (∀ pair ∈ pairs, IsTold pair) →
          ∃ metadata, ofSource source (listForm pairs) = .ok metadata ∧
            ofSource source (mappingForm pairs) = .ok metadata) := by
  have listed {metadata : EntityMetadata} :=
    @ofSource_eq_ok_iff_made _ source _ metadata (ofDocument_listForm pairs)
  have mapped {metadata : EntityMetadata} :=
    @ofSource_eq_ok_iff_made _ source _ metadata (ofDocument_mappingForm pairs)
  refine ⟨by simp [listed], by simp [mapped], ?_, ?_, ?_⟩
  · rintro error (failed | failed)
    · exact eq_noText_of_ofSource (ofDocument_listForm pairs) scalars failed
    · refine eq_noText_of_ofSource (ofDocument_mappingForm pairs) (fun pair kept => ?_) failed
      exact scalars pair (Ordered.mem_of_mem_ofList kept)
  · intro _ _ fromList fromMapping
    obtain ⟨told, rfl⟩ := listed.mp fromList
    obtain ⟨_, rfl⟩ := mapped.mp fromMapping
    exact ⟨⟨rfl, rfl⟩, (keys_written pairs).symm, fields_eq_iff told⟩
  · intro alike told
    have same := (fields_eq_iff told).mpr fun spelling =>
      congrArg _ (newestType_eq_lastType spelling alike).symm
    have kept (pair : GivenName × Value) (member : pair ∈ Ordered.ofList pairs) : IsTold pair :=
      told pair (Ordered.mem_of_mem_ofList member)
    exact ⟨_, listed.mpr ⟨told, rfl⟩, mapped.mpr ⟨kept, by rw [same]⟩⟩

/-- The least number with more than some digits. -/
def leastLongerThan (digits : Nat) : Nat := Nat.pow 10 digits

theorem lt_length_leastLongerThan {digits : Nat} (some_ : 0 < digits) :
    digits < (toString (leastLongerThan digits)).toList.length := by
  rw [Nat.toString_eq_repr, Nat.toList_repr, ← Nat.not_le,
    Nat.length_toDigits_le_iff (by decide) some_, Nat.not_lt]
  exact Nat.le_refl _

theorem not_hasText_leastLongerThan :
    ¬(Value.int (leastLongerThan Decimal.digitLimit)).HasText := by
  have long : Decimal.digitLimit <
      (toString (Int.natAbs (leastLongerThan Decimal.digitLimit))).toList.length := by
    rw [Int.natAbs_natCast]
    exact lt_length_leastLongerThan (by decide)
  rintro ⟨content, told⟩
  rw [Value.shown, map_eq_ok_iff] at told
  · obtain ⟨chars, written, _⟩ := told
    rw [Value.quoted, Value.quotedWith, Value.intChars_eq, if_pos long] at written
    cases written
  all_goals
    intro _ same
    cases same

/-- An integer and a text that are written alike are two names of the mapping, and a type that is
replaced there need not have a text. -/
theorem forms_differ :
    ((ofSource (.ofString "post.json") (listForm [(.number 1, .string "a"),
          (.text (.ofString "1"), .string "b"), (.number 1, .string "c")])).toOption =
        some ⟨[(.ofString "1", .ofString "c")], [.ofString "id"]⟩ ∧
      (ofSource (.ofString "post.json") (mappingForm [(.number 1, .string "a"),
          (.text (.ofString "1"), .string "b"), (.number 1, .string "c")])).toOption =
        some ⟨[(.ofString "1", .ofString "b")], [.ofString "id"]⟩) ∧
    (∀ metadata, ofSource (.ofString "post.json") (listForm
        [(.text (.ofString "a"), .int (leastLongerThan Decimal.digitLimit)),
          (.text (.ofString "a"), .int 1)]) ≠ .ok metadata) ∧
      (ofSource (.ofString "post.json") (mappingForm
        [(.text (.ofString "a"), .int (leastLongerThan Decimal.digitLimit)),
          (.text (.ofString "a"), .int 1)])).toOption =
        some ⟨[(.ofString "a", .ofString "1")], [.ofString "id"]⟩ := by
  refine ⟨by decide +kernel, fun metadata listed => ?_, by decide +kernel⟩
  have told := ((ofSource_eq_ok_iff_made (ofDocument_listForm _)).mp listed).1
  exact not_hasText_leastLongerThan (told _ List.mem_cons_self).2

/-- Names that repeat, but are of one kind. -/
theorem forms_agree_on_repeated_name : ∃ metadata,
    ofSource (.ofString "post.json") (listForm [(.number 1, .string "a"),
        (.text (.ofString "id"), .null), (.number 1, .int 7)]) = .ok metadata ∧
      ofSource (.ofString "post.json") (mappingForm [(.number 1, .string "a"),
        (.text (.ofString "id"), .null), (.number 1, .int 7)]) = .ok metadata := by
  have scalars : ∀ pair ∈ [(GivenName.number 1, Value.string "a"),
      (.text (.ofString "id"), .null), (.number 1, .int 7)], pair.2.IsScalar := by
    simp [Value.string, Value.IsScalar]
  refine (forms_agree_iff scalars (.ofString "post.json")).2.2.2.2 (by decide) ?_
  simp only [List.forall_mem_cons]
  exact ⟨⟨⟨_, rfl⟩, _, rfl⟩, ⟨⟨_, rfl⟩, _, rfl⟩, ⟨⟨_, rfl⟩, _, rfl⟩, nofun⟩

end EntityMetadata

end EntityScaffold
