import EntityScaffold.Metadata.Basic
import EntityScaffold.Proofs.Attempt
import EntityScaffold.Proofs.Json.Reading

/-
Metadata whose fields have no text. The first declared field that fails is to blame: its name or its
type has no text, or it is an entry without a name that cannot be quoted. Values that a JSON text gives
always have a text, since reading them kept within the same limits.
-/

namespace EntityScaffold.EntityMetadata

/-! ### Values without a text -/

variable {document : Document} {fault : Value.TextFault}

/-- The name of a member of a mapping has no text, or its type has none. -/
inductive MemberUntold (document : Document) (member : Value × Value) (fault : Value.TextFault) :
    Prop where
  | name (untold : member.1.shown document.loops = .error fault)
  | type {name : CodeText} (told : member.1.shown document.loops = .ok name)
      (untold : member.2.shown document.loops = .error fault)

/-- The name or the type that an entry of a list gives has no text, or it gives no name and has no text
itself. -/
inductive EntryUntold (document : Document) (entry : Value) (fault : Value.TextFault) : Prop where
  | name {members : List (Value × Value)} {name : Value}
      (isMapping : document.resolve entry = .map members)
      (named : Value.get? "name" members = some name)
      (untold : name.shown document.loops = .error fault)
  | type {members : List (Value × Value)} {name type : Value} {content : CodeText}
      (isMapping : document.resolve entry = .map members)
      (named : Value.get? "name" members = some name)
      (told : name.shown document.loops = .ok content)
      (typed : Value.get? "type" members = some type)
      (untold : type.shown document.loops = .error fault)
  | nameless
      (unnamed : ∀ members, document.resolve entry = .map members →
        Value.get? "name" members = none)
      (untold : entry.quoted document.loops = .error fault)

theorem textOf_eq_error_iff {value : Value} {error : MetadataError} :
    textOf document value = .error error ↔
      ∃ fault, value.shown document.loops = .error fault ∧ .noText fault = error :=
  mapError_eq_error_iff

theorem textOf_eq_noText_iff {value : Value} :
    textOf document value = .error (.noText fault) ↔ value.shown document.loops = .error fault := by
  simp [textOf_eq_error_iff]

theorem textOf_eq_ok_iff {value : Value} {content : CodeText} :
    textOf document value = .ok content ↔ value.shown document.loops = .ok content :=
  mapError_eq_ok_iff

/-- The field that a member of a mapping gives. -/
def fieldOfMember (document : Document) (member : Value × Value) :
    Except MetadataError (CodeText × CodeText) := do
  return (← textOf document member.1, ← textOf document member.2)

theorem fieldsOfMapping_eq (document : Document) (members : List (Value × Value)) :
    fieldsOfMapping document members =
      (members.mapM (fieldOfMember document)).map Ordered.ofList := by
  unfold fieldsOfMapping
  change (members.mapM (fieldOfMember document) >>= _) = _
  cases members.mapM (fieldOfMember document) <;> rfl

theorem fieldOfMember_eq_noText_iff {member : Value × Value} :
    fieldOfMember document member = .error (.noText fault) ↔ MemberUntold document member fault := by
  unfold fieldOfMember
  simp only [bind_eq_error_iff, textOf_eq_noText_iff, textOf_eq_ok_iff]
  constructor
  · rintro (untold | ⟨name, told, untold | ⟨type, _, impossible⟩⟩)
    · exact .name untold
    · exact .type told untold
    · cases impossible
  · rintro (untold | ⟨told, untold⟩)
    · exact Or.inl untold
    · exact Or.inr ⟨_, told, Or.inl untold⟩

theorem nameless_eq_noText_iff {α : Type} {entry : Value} :
    (nameless document entry : Except MetadataError α) = .error (.noText fault) ↔
      entry.quoted document.loops = .error fault := by
  unfold nameless
  rw [bind_eq_error_iff, mapError_eq_error_iff]
  constructor
  · rintro (⟨origin, untold, same⟩ | ⟨_, _, impossible⟩)
    · cases same
      exact untold
    · cases impossible
  · exact fun untold => Or.inl ⟨fault, untold, rfl⟩

/-- The type that the members of an entry of a list give. -/
def typeOfEntry (document : Document) (members : List (Value × Value)) :
    Except MetadataError CodeText :=
  match Value.get? "type" members with
  | some type => textOf document type
  | none => .ok usualType

theorem typeOfEntry_eq_noText_iff {members : List (Value × Value)} :
    typeOfEntry document members = .error (.noText fault) ↔
      ∃ type, Value.get? "type" members = some type ∧ type.shown document.loops = .error fault := by
  unfold typeOfEntry
  cases Value.get? "type" members with
  | none => simp
  | some type => simp [textOf_eq_noText_iff]

theorem fieldOfEntry_of_named {entry name : Value} {members : List (Value × Value)}
    (isMapping : document.resolve entry = .map members)
    (named : Value.get? "name" members = some name) :
    fieldOfEntry document entry = (do
      let name ← textOf document name
      let type ← typeOfEntry document members
      return (name, type)) := by
  unfold fieldOfEntry typeOfEntry
  rw [isMapping]
  dsimp only
  rw [named]
  cases Value.get? "type" members <;> rfl

theorem fieldOfEntry_of_unnamed {entry : Value}
    (unnamed : ∀ members, document.resolve entry = .map members →
      Value.get? "name" members = none) :
    fieldOfEntry document entry = nameless document entry := by
  unfold fieldOfEntry
  split
  · next members isMapping => rw [unnamed members isMapping]
  · rfl

theorem fieldOfEntry_eq_noText_iff {entry : Value} :
    fieldOfEntry document entry = .error (.noText fault) ↔ EntryUntold document entry fault := by
  by_cases unnamed : ∀ members, document.resolve entry = .map members →
      Value.get? "name" members = none
  · rw [fieldOfEntry_of_unnamed unnamed, nameless_eq_noText_iff]
    constructor
    · exact .nameless unnamed
    · intro untold
      cases untold with
      | nameless _ untold => exact untold
      | name isMapping named _ | type isMapping named _ _ _ =>
          rw [unnamed _ isMapping] at named
          cases named
  · obtain ⟨members, isMapping, name, named⟩ : ∃ members, document.resolve entry = .map members ∧
        ∃ name, Value.get? "name" members = some name := by
      simpa [Option.ne_none_iff_exists'] using unnamed
    rw [fieldOfEntry_of_named isMapping named]
    simp only [bind_eq_error_iff, textOf_eq_noText_iff, textOf_eq_ok_iff, typeOfEntry_eq_noText_iff]
    constructor
    · rintro (untold | ⟨content, told, ⟨type, typed, untold⟩ | ⟨_, _, impossible⟩⟩)
      · exact .name isMapping named untold
      · exact .type isMapping named told typed untold
      · cases impossible
    · intro untold
      cases untold with
      | nameless unnamed' _ =>
          rw [unnamed' members isMapping] at named
          cases named
      | name isMapping' named' untold =>
          cases isMapping.symm.trans isMapping'
          cases named.symm.trans named'
          exact Or.inl untold
      | type isMapping' named' told typed untold =>
          cases isMapping.symm.trans isMapping'
          cases named.symm.trans named'
          exact Or.inr ⟨_, told, Or.inl ⟨_, typed, untold⟩⟩

/-- An entry of a list gives a name, and its name and its type have a text. -/
def EntryTold (document : Document) (entry : Value) : Prop :=
  (∃ members name, document.resolve entry = .map members ∧
    Value.get? "name" members = some name) ∧ ∀ fault, ¬EntryUntold document entry fault

/-- What can only fail for want of a text gives something just when that is not so. -/
theorem exists_eq_ok_iff_of_noText {α : Type} {result : Except MetadataError α}
    (only : ∀ error, result = .error error → ∃ fault, .noText fault = error) :
    (∃ value, result = .ok value) ↔ ∀ fault, result ≠ .error (.noText fault) := by
  rw [exists_eq_ok_iff]
  constructor
  · exact fun succeeds fault failed => succeeds _ failed
  · intro told error failed
    obtain ⟨fault, same⟩ := only error failed
    exact told fault (same ▸ failed)

theorem exists_fieldOfMember_eq_iff {member : Value × Value} :
    (∃ field, fieldOfMember document member = .ok field) ↔
      ∀ fault, ¬MemberUntold document member fault := by
  simp only [← fieldOfMember_eq_noText_iff]
  refine exists_eq_ok_iff_of_noText fun error failed => ?_
  simp only [fieldOfMember, bind_eq_error_iff, textOf_eq_error_iff] at failed
  rcases failed with ⟨fault, _, same⟩ | ⟨_, _, ⟨fault, _, same⟩ | ⟨_, _, impossible⟩⟩
  · exact ⟨fault, same⟩
  · exact ⟨fault, same⟩
  · cases impossible

theorem exists_fieldOfEntry_eq_iff {entry : Value} :
    (∃ field, fieldOfEntry document entry = .ok field) ↔ EntryTold document entry := by
  by_cases named : ∃ members name, document.resolve entry = .map members ∧
      Value.get? "name" members = some name
  · simp only [EntryTold, and_iff_right named, ← fieldOfEntry_eq_noText_iff]
    refine exists_eq_ok_iff_of_noText fun error failed => ?_
    obtain ⟨members, name, isMapping, named⟩ := named
    rw [fieldOfEntry_of_named isMapping named] at failed
    simp only [bind_eq_error_iff, textOf_eq_error_iff] at failed
    rcases failed with ⟨fault, _, same⟩ | ⟨_, _, untold | ⟨_, _, impossible⟩⟩
    · exact ⟨fault, same⟩
    · unfold typeOfEntry at untold
      split at untold
      · obtain ⟨fault, _, same⟩ := textOf_eq_error_iff.mp untold
        exact ⟨fault, same⟩
      · cases untold
    · cases impossible
  · have unnamed (members : List (Value × Value)) (isMapping : document.resolve entry = .map members) :
        Value.get? "name" members = none :=
      Option.eq_none_iff_forall_ne_some.mpr fun name given => named ⟨members, name, isMapping, given⟩
    rw [fieldOfEntry_of_unnamed unnamed]
    refine iff_of_false ?_ fun told => named told.1
    unfold nameless
    cases (entry.quoted document.loops).mapError MetadataError.noText <;> nofun

/-- Among declared fields the first one that gives no field has no text for its name or its type, or for
itself. -/
inductive FieldsUntold (document : Document) (declared : Value) (fault : Value.TextFault) : Prop where
  | member {front behind : List (Value × Value)} {member : Value × Value}
      (isMapping : document.resolve declared = .map (front ++ member :: behind))
      (told : ∀ other ∈ front, ∀ fault, ¬MemberUntold document other fault)
      (untold : MemberUntold document member fault)
  | entry {front behind : List Value} {entry : Value}
      (isList : document.resolve declared = .list (front ++ entry :: behind))
      (told : ∀ other ∈ front, EntryTold document other)
      (untold : EntryUntold document entry fault)

theorem fieldsOf_eq_noText_iff {declared : Value} :
    fieldsOf document declared = .error (.noText fault) ↔ FieldsUntold document declared fault := by
  unfold fieldsOf
  split
  · next members isMapping =>
    rw [fieldsOfMapping_eq, map_eq_error_iff, mapM_eq_error_iff]
    constructor
    · rintro ⟨front, member, behind, rfl, told, failed⟩
      exact .member isMapping (fun other within => exists_fieldOfMember_eq_iff.mp (told other within))
        (fieldOfMember_eq_noText_iff.mp failed)
    · intro untold
      cases untold with
      | member isMapping' told untold =>
          cases isMapping.symm.trans isMapping'
          exact ⟨_, _, _, rfl,
            fun other within => exists_fieldOfMember_eq_iff.mpr (told other within),
            fieldOfMember_eq_noText_iff.mpr untold⟩
      | entry isList _ _ => cases isMapping.symm.trans isList
  · next entries isList =>
    rw [map_eq_error_iff, mapM_eq_error_iff]
    constructor
    · rintro ⟨front, entry, behind, rfl, told, failed⟩
      exact .entry isList (fun other within => exists_fieldOfEntry_eq_iff.mp (told other within))
        (fieldOfEntry_eq_noText_iff.mp failed)
    · intro untold
      cases untold with
      | entry isList' told untold =>
          cases isList.symm.trans isList'
          exact ⟨_, _, _, rfl,
            fun other within => exists_fieldOfEntry_eq_iff.mpr (told other within),
            fieldOfEntry_eq_noText_iff.mpr untold⟩
      | member isMapping _ _ => cases isList.symm.trans isMapping
  · next noMapping noList =>
    refine iff_of_false ?_ fun untold => ?_
    · split <;> nofun
    · cases untold with
      | member isMapping _ _ => exact noMapping _ isMapping
      | entry isList _ _ => exact noList _ isList

/-- The fields that a document declares are left without a text. -/
def Untold (document : Document) (fault : Value.TextFault) : Prop :=
  ∃ members declared, document.resolve document.root = .map members ∧
    Value.get? "fields" members = some declared ∧ FieldsUntold document declared fault

theorem ofDocument_eq_noText_iff :
    ofDocument document = .error (.noText fault) ↔ Untold document fault := by
  unfold ofDocument
  split
  · next members isMapping =>
    generalize (checkIdentifier document (Value.get? "identifier" members)).toExcept
      "EntityMetadata" = identifier
    cases declares : Value.get? "fields" members with
    | none =>
        refine iff_of_false (by cases identifier <;> nofun) ?_
        rintro ⟨members', declared, isMapping', declares', _⟩
        cases isMapping.symm.trans isMapping'
        cases declares.symm.trans declares'
    | some declared =>
        dsimp only
        rw [bind_eq_error_iff, fieldsOf_eq_noText_iff]
        constructor
        · rintro (untold | ⟨_, _, failed⟩)
          · exact ⟨members, declared, isMapping, declares, untold⟩
          · cases identifier <;> cases failed
        · rintro ⟨members', declared', isMapping', declares', untold⟩
          cases isMapping.symm.trans isMapping'
          cases declares.symm.trans declares'
          exact Or.inl untold
  · next noMapping =>
    refine iff_of_false nofun ?_
    rintro ⟨members, _, isMapping, _⟩
    exact noMapping members isMapping

/-! ### Data that a JSON text gives -/

section

variable {root : Value} {json : Json} {depth : Nat}

/-- Values of JSON texts are no references to collections. -/
theorem resolve_toValue (document : Document) (json : Json) :
    document.resolve json.toValue = json.toValue := by
  cases json <;> rfl

/-- A value that has a text inside another one has one by itself. -/
theorem exists_shown_eq_of_quoted {loops : List (Nat × Value)} {value : Value} {chars : List Char}
    (written : value.quoted loops = .ok chars) : ∃ content, value.shown loops = .ok content := by
  unfold Value.shown
  split
  · exact ⟨_, rfl⟩
  · exact ⟨_, rfl⟩
  · exact ⟨_, rfl⟩
  · rw [written]
    exact ⟨_, rfl⟩

theorem exists_quoted_eq (within : json.IsWithin depth) (room : depth ≤ Value.textDepthLimit) :
    ∃ chars, json.toValue.quoted [] = .ok chars := within.exists_quotedWith_eq room

theorem shown_ne_error (within : json.IsWithin depth) (room : depth ≤ Value.textDepthLimit) :
    json.toValue.shown [] ≠ .error fault := by
  obtain ⟨chars, written⟩ := exists_quoted_eq within room
  obtain ⟨content, told⟩ := exists_shown_eq_of_quoted written
  rw [told]
  nofun

theorem not_memberUntold (name : CodeText) (within : json.IsWithin depth)
    (room : depth ≤ Value.textDepthLimit) : ¬MemberUntold ⟨root, []⟩ (.text name, json.toValue) fault := by
  intro untold
  cases untold with
  | name untold => cases untold
  | type _ untold => exact shown_ne_error within room untold

theorem not_entryUntold (within : json.IsWithin depth) (room : depth ≤ Value.textDepthLimit) :
    ¬EntryUntold ⟨root, []⟩ json.toValue fault := by
  have given {members : List (Value × Value)} {key : String} {value : Value}
      (isMapping : (Document.mk root []).resolve json.toValue = .map members)
      (found : Value.get? key members = some value) : value.shown [] ≠ .error fault := by
    rw [resolve_toValue, Json.toValue_eq_map_iff] at isMapping
    obtain ⟨settings, rfl, rfl⟩ := isMapping
    obtain ⟨less, item, rfl, rfl, itemWithin⟩ := within.at_key found
    exact shown_ne_error itemWithin (Nat.le_of_succ_le room)
  intro untold
  cases untold with
  | name isMapping named untold => exact given isMapping named untold
  | type isMapping _ _ typed untold => exact given isMapping typed untold
  | nameless _ untold =>
      obtain ⟨chars, written⟩ := exists_quoted_eq within room
      cases written.symm.trans untold

theorem not_fieldsUntold (within : json.IsWithin depth) (room : depth ≤ Value.textDepthLimit) :
    ¬FieldsUntold ⟨root, []⟩ json.toValue fault := by
  intro untold
  cases untold with
  | @member front behind member isMapping _ untold =>
      rw [resolve_toValue, Json.toValue_eq_map_iff] at isMapping
      obtain ⟨settings, rfl, split⟩ := isMapping
      obtain ⟨less, rfl, each⟩ := within.each_member
      have mem : member ∈ Json.toEntries settings := by
        rw [← split]
        exact List.mem_append_right front List.mem_cons_self
      rw [Json.toEntries_eq_map] at mem
      obtain ⟨setting, belongs, rfl⟩ := List.mem_map.mp mem
      exact not_memberUntold setting.1 (each setting belongs) (Nat.le_of_succ_le room) untold
  | @entry front behind entry isList _ untold =>
      rw [resolve_toValue, Json.toValue_eq_list_iff] at isList
      obtain ⟨items, rfl, split⟩ := isList
      obtain ⟨less, rfl, each⟩ := within.each_item
      have mem : entry ∈ Json.toValues items := by
        rw [← split]
        exact List.mem_append_right front List.mem_cons_self
      rw [Json.toValues_eq_map] at mem
      obtain ⟨item, belongs, rfl⟩ := List.mem_map.mp mem
      exact not_entryUntold (each item belongs) (Nat.le_of_succ_le room) untold

/-- The metadata of a JSON text is never left without a text: its fields are one level inside it. -/
theorem not_untold_of_isWithin (within : json.IsWithin Json.Limits.lax.depth) :
    ¬Untold json.toDocument fault := by
  rintro ⟨members, declared, isMapping, declares, untold⟩
  change json.toDocument.resolve json.toValue = .map members at isMapping
  rw [resolve_toValue, Json.toValue_eq_map_iff] at isMapping
  obtain ⟨settings, rfl, rfl⟩ := isMapping
  obtain ⟨less, fields, limit, rfl, fieldsWithin⟩ := within.at_key declares
  have room : less ≤ Value.textDepthLimit := Nat.le_of_eq (Nat.succ.inj limit).symm
  exact not_fieldsUntold fieldsWithin room untold

end

end EntityScaffold.EntityMetadata
