import EntityScaffold.Proofs.Metadata.Loading
import EntityScaffold.Proofs.Ordered
import Mathlib.Data.List.Forall2

/-
The shape of metadata in JSON. An object may name its identifier, by one name or by several, and may
list fields, as an object or as a list of objects with a name. Data of that shape give the metadata
they declare, and data of any other shape are complained about.
-/

namespace EntityScaffold

theorem Checked.map_eq_good_iff {α β : Type} {change : α → β} {checked : Checked α} {result : β} :
    checked.map change = .good result ↔ ∃ value, checked = .good value ∧ change value = result := by
  cases checked <;> simp [Checked.map]

namespace Json

variable {json : Json}

/-- Empty and zero values, which stand for nothing. -/
inductive IsNothing : Json → Prop where
  | null : IsNothing .null
  | no : IsNothing (.bool false)
  | zero : IsNothing (.int 0)
  | floatZero {value : Float} (zero : (value == 0) = true) : IsNothing (.float value)
  | noText : IsNothing (.text [])
  | noItems : IsNothing (.list [])
  | noMembers : IsNothing (.object [])

theorem counts_toValue_eq_false_iff : json.toValue.counts = false ↔ json.IsNothing := by
  constructor
  · intro nothing
    cases json with
    | null => exact .null
    | bool value =>
        have no : value = false := nothing
        exact no ▸ .no
    | int value =>
        have zero : value = 0 := by simpa [toValue, Value.counts] using nothing
        exact zero ▸ .zero
    | float value => exact .floatZero (by simpa [toValue, Value.counts] using nothing)
    | text content =>
        have empty : content = [] := by simpa [toValue, Value.counts] using nothing
        exact empty ▸ .noText
    | list items =>
        cases items with
        | nil => exact .noItems
        | cons item rest => cases nothing
    | object members =>
        cases members with
        | nil => exact .noMembers
        | cons member rest => cases nothing
  · rintro (_ | _ | _ | zero | _ | _ | _)
    case floatZero =>
      change (!(_ == 0)) = false
      rw [zero]
      rfl
    all_goals rfl

/-- What is written where a value stands for a name or a type. -/
def Tells (json : Json) (content : CodeText) : Prop := json.toValue.shown [] = .ok content

theorem itemsFrom_toValues_eq_good_iff {items : List Json} {index : Nat} {names : List CodeText} :
    Check.itemsFrom Check.codeText index (toValues items) = .good names ↔
      items = names.map Json.text := by
  induction items generalizing index names with
  | nil => cases names <;> simp [toValues, Check.itemsFrom]
  | cons item rest ih =>
      cases item with
      | text content =>
          have step : Check.itemsFrom Check.codeText index (toValues (.text content :: rest)) =
              (Check.itemsFrom Check.codeText (index + 1) (toValues rest)).map (content :: ·) := by
            change Checked.both (.good (content :: ·)) _ = _
            cases Check.itemsFrom Check.codeText (index + 1) (toValues rest) <;> rfl
          rw [step, Checked.map_eq_good_iff]
          simp only [ih]
          constructor
          · rintro ⟨others, rfl, rfl⟩
            rfl
          · intro same
            obtain ⟨name, others, rfl, named, rest⟩ := List.map_eq_cons_iff.mp same.symm
            cases named
            exact ⟨others, rest.symm, rfl⟩
      | _ =>
          refine iff_of_false ?_ (by cases names <;> simp)
          change Checked.both (Checked.both (.good List.cons) (.bad _)) _ ≠ _
          intro same
          cases made : Check.itemsFrom Check.codeText (index + 1) (toValues rest) <;>
            rw [made] at same <;> cases same

end Json

namespace EntityMetadata

/-- The names that are declared as the identifier, which is `id` if none are. -/
inductive DeclaresIdentifier : Option Json → List CodeText → Prop where
  | absent : DeclaresIdentifier none [CodeText.ofString "id"]
  | one (name : CodeText) : DeclaresIdentifier (some (.text name)) [name]
  | many (names : List CodeText) : DeclaresIdentifier (some (.list (names.map .text))) names

/-- The field of an entry of a list, which has a name, and the type `string` if it gives none. -/
inductive IsFieldOf (entry : Json) : CodeText × CodeText → Prop where
  | typed {name type : Json} {field : CodeText × CodeText} (named : entry.get? "name" = some name)
      (typed : entry.get? "type" = some type) (tellsName : name.Tells field.1)
      (tellsType : type.Tells field.2) : IsFieldOf entry field
  | untyped {name : Json} {content : CodeText} (named : entry.get? "name" = some name)
      (untyped : entry.get? "type" = none) (tellsName : name.Tells content) :
      IsFieldOf entry (content, CodeText.ofString "string")

/-- The fields that are declared, one after another; a name may come more than once. -/
inductive DeclaresFields : Option Json → List (CodeText × CodeText) → Prop where
  | absent : DeclaresFields none []
  | nothing {declared : Json} (isNothing : declared.IsNothing) : DeclaresFields (some declared) []
  | object {members : List (CodeText × Json)} {fields : List (CodeText × CodeText)}
      (each : List.Forall₂ (fun member field => member.1 = field.1 ∧ member.2.Tells field.2)
        members fields) : DeclaresFields (some (.object members)) fields
  | list {entries : List Json} {fields : List (CodeText × CodeText)}
      (each : List.Forall₂ IsFieldOf entries fields) : DeclaresFields (some (.list entries)) fields

/-- Metadata is what an object declares, each name where it came first with the type that came last. -/
structure IsDeclaredBy (json : Json) (metadata : EntityMetadata) : Prop where
  identifier : DeclaresIdentifier (json.get? "identifier") metadata.identifier
  fields : ∃ declared, DeclaresFields (json.get? "fields") declared ∧
    Ordered.IsMadeOf metadata.fields declared

/-- What fields may be declared by: nothing, an object, or a list of objects that each have a name. -/
inductive MayDeclareFields : Option Json → Prop where
  | absent : MayDeclareFields none
  | nothing {declared : Json} (isNothing : declared.IsNothing) : MayDeclareFields (some declared)
  | object (members : List (CodeText × Json)) : MayDeclareFields (some (.object members))
  | list {entries : List Json} (named : ∀ entry ∈ entries, ∃ name, entry.get? "name" = some name) :
      MayDeclareFields (some (.list entries))

structure HasShape (json : Json) : Prop where
  isObject : ∃ members, json = .object members
  identifier : ∃ names, DeclaresIdentifier (json.get? "identifier") names
  fields : MayDeclareFields (json.get? "fields")

variable {json : Json} {root : Value}

theorem checkIdentifier_eq_good_iff {document : Document} {declared : Option Json}
    {names : List CodeText} : checkIdentifier document (declared.map Json.toValue) = .good names ↔
      DeclaresIdentifier declared names := by
  have list (items : List Json) :
      checkIdentifier document (some (Json.list items).toValue) = .good names ↔
        items = names.map .text := by
    change (Check.itemsFrom Check.codeText 0 (Json.toValues items)).inside _ = _ ↔ _
    rw [← @Json.itemsFrom_toValues_eq_good_iff _ 0]
    cases Check.itemsFrom Check.codeText 0 (Json.toValues items) <;> simp [Checked.inside]
  constructor
  · intro good
    cases declared with
    | none =>
        cases good
        exact .absent
    | some declared =>
        cases declared with
        | text name =>
            cases good
            exact .one name
        | list items =>
            rw [(list items).mp good]
            exact .many names
        | _ => cases good
  · intro declares
    cases declares with
    | absent => rfl
    | one name => rfl
    | many names => exact (list _).mpr rfl

theorem fieldOfMember_eq_ok_iff {member : CodeText × Json} {field : CodeText × CodeText} :
    fieldOfMember ⟨root, []⟩ (.text member.1, member.2.toValue) = .ok field ↔
      member.1 = field.1 ∧ member.2.Tells field.2 := by
  have named : textOf ⟨root, []⟩ (.text member.1) = .ok member.1 := rfl
  unfold fieldOfMember Json.Tells
  rw [named, ← @textOf_eq_ok_iff ⟨root, []⟩]
  cases textOf ⟨root, []⟩ member.2.toValue with
  | error fault => exact iff_of_false nofun nofun
  | ok content =>
      change Except.ok (member.1, content) = .ok field ↔ _
      rw [Except.ok.injEq, Except.ok.injEq, Prod.ext_iff]

theorem fieldOfEntry_ne_ok {entry : Json} {field : CodeText × CodeText}
    (unnamed : entry.get? "name" = none) : fieldOfEntry ⟨root, []⟩ entry.toValue ≠ .ok field := by
  rw [fieldOfEntry_of_unnamed]
  · unfold nameless
    cases (entry.toValue.quoted []).mapError MetadataError.noText <;> nofun
  · intro members isMapping
    rw [resolve_toValue, Json.toValue_eq_map_iff] at isMapping
    obtain ⟨settings, rfl, rfl⟩ := isMapping
    rw [Json.get?_toEntries, unnamed]
    rfl

theorem fieldOfEntry_eq_ok_iff {entry : Json} {field : CodeText × CodeText} :
    fieldOfEntry ⟨root, []⟩ entry.toValue = .ok field ↔ IsFieldOf entry field := by
  cases named : entry.get? "name" with
  | none =>
      refine iff_of_false (fieldOfEntry_ne_ok named) fun isField => ?_
      cases isField with
      | typed named' | untyped named' => cases named.symm.trans named'
  | some name =>
      cases entry with
      | object members =>
          have given : Value.get? "name" (Json.toEntries members) = some name.toValue := by
            rw [Json.get?_toEntries, named]
            rfl
          rw [Json.toValue, fieldOfEntry_of_named rfl given]
          unfold typeOfEntry
          rw [Json.get?_toEntries]
          cases typed : (Json.object members).get? "type" with
          | none =>
              simp only [Option.map_none, bind_eq_ok_iff, textOf_eq_ok_iff]
              constructor
              · rintro ⟨content, told, _, usual, made⟩
                cases usual
                cases made
                exact .untyped named typed told
              · rintro (⟨_, given', _, _⟩ | ⟨named', _, told⟩)
                · cases typed.symm.trans given'
                · cases named.symm.trans named'
                  exact ⟨_, told, _, rfl, rfl⟩
          | some type =>
              simp only [Option.map_some, bind_eq_ok_iff, textOf_eq_ok_iff]
              constructor
              · rintro ⟨content, told, _, toldType, made⟩
                cases made
                exact .typed named typed told toldType
              · rintro (⟨named', typed', told, toldType⟩ | ⟨_, untyped, _⟩)
                · cases named.symm.trans named'
                  cases typed.symm.trans typed'
                  exact ⟨_, told, _, toldType, rfl⟩
                · cases typed.symm.trans untyped
      | _ => cases named

theorem declaresFields_object_iff {members : List (CodeText × Json)}
    {declared : List (CodeText × CodeText)} : DeclaresFields (some (.object members)) declared ↔
      List.Forall₂ (fun member field => member.1 = field.1 ∧ member.2.Tells field.2)
        members declared := by
  refine ⟨fun declares => ?_, .object⟩
  cases declares with
  | nothing isNothing =>
      cases isNothing
      exact .nil
  | object each => exact each

theorem declaresFields_list_iff {entries : List Json} {declared : List (CodeText × CodeText)} :
    DeclaresFields (some (.list entries)) declared ↔ List.Forall₂ IsFieldOf entries declared := by
  refine ⟨fun declares => ?_, .list⟩
  cases declares with
  | nothing isNothing =>
      cases isNothing
      exact .nil
  | list each => exact each

theorem fieldsOf_object_eq {document : Document} {members : List (CodeText × Json)} :
    fieldsOf document (Json.object members).toValue =
      ((members.map fun member => (Value.text member.1, member.2.toValue)).mapM
        (fieldOfMember document)).map Ordered.ofList := by
  rw [← Json.toEntries_eq_map]
  exact fieldsOfMapping_eq document _

theorem fieldsOf_list_eq {document : Document} {entries : List Json} :
    fieldsOf document (Json.list entries).toValue =
      ((entries.map Json.toValue).mapM (fieldOfEntry document)).map Ordered.ofList := by
  rw [← Json.toValues_eq_map]
  rfl

/-- A scalar declares no fields, and may not stand for something else. -/
theorem fieldsOf_scalar_eq_ok_iff {fields : List (CodeText × CodeText)}
    (noObject : ∀ members, json ≠ .object members) (noList : ∀ items, json ≠ .list items) :
    fieldsOf ⟨root, []⟩ json.toValue = .ok fields ↔
      ∃ declared, DeclaresFields (some json) declared ∧ Ordered.ofList declared = fields := by
  have plain : fieldsOf ⟨root, []⟩ json.toValue =
      if json.toValue.counts then .error (.fault .fieldsNotListed) else .ok [] := by
    cases json with
    | object members => exact absurd rfl (noObject members)
    | list items => exact absurd rfl (noList items)
    | _ => rfl
  rw [plain]
  constructor
  · intro given
    split at given
    · cases given
    · next nothing =>
      cases given
      refine ⟨[], .nothing (Json.counts_toValue_eq_false_iff.mp ?_), rfl⟩
      exact Bool.not_eq_true _ ▸ nothing
  · rintro ⟨declared, declares, rfl⟩
    cases declares with
    | nothing isNothing =>
        rw [Json.counts_toValue_eq_false_iff.mpr isNothing]
        rfl
    | object _ => exact absurd rfl (noObject _)
    | list _ => exact absurd rfl (noList _)

theorem fieldsOf_eq_ok_iff {fields : List (CodeText × CodeText)} :
    fieldsOf ⟨root, []⟩ json.toValue = .ok fields ↔
      ∃ declared, DeclaresFields (some json) declared ∧ Ordered.ofList declared = fields := by
  cases json with
  | object members =>
      rw [fieldsOf_object_eq, map_eq_ok_iff]
      simp only [mapM_eq_ok_iff, List.forall₂_map_left_iff, fieldOfMember_eq_ok_iff,
        declaresFields_object_iff]
  | list entries =>
      rw [fieldsOf_list_eq, map_eq_ok_iff]
      simp only [mapM_eq_ok_iff, List.forall₂_map_left_iff, fieldOfEntry_eq_ok_iff,
        declaresFields_list_iff]
  | _ => exact fieldsOf_scalar_eq_ok_iff nofun nofun

/-- The fields of an object, none if it declares none. -/
def fieldsIn (root : Value) (declared : Option Json) :
    Except MetadataError (List (CodeText × CodeText)) :=
  match declared with
  | some declared => fieldsOf ⟨root, []⟩ declared.toValue
  | none => .ok []

theorem fieldsIn_eq_ok_iff {declared : Option Json} {fields : List (CodeText × CodeText)} :
    fieldsIn root declared = .ok fields ↔
      ∃ listed, DeclaresFields declared listed ∧ Ordered.ofList listed = fields := by
  cases declared with
  | none =>
      constructor
      · intro given
        cases given
        exact ⟨[], .absent, rfl⟩
      · rintro ⟨_, _ | _, rfl⟩
        rfl
  | some declared => exact fieldsOf_eq_ok_iff

theorem ofDocument_object_eq (members : List (CodeText × Json)) :
    ofDocument (Json.object members).toDocument = (do
      let fields ← fieldsIn (Json.object members).toValue ((Json.object members).get? "fields")
      match checkIdentifier ⟨(Json.object members).toValue, []⟩
          (((Json.object members).get? "identifier").map Json.toValue) with
      | .good identifier => .ok ⟨fields, identifier⟩
      | .bad objections => .error (.fault (.invalid ⟨"EntityMetadata", objections⟩))) := by
  have isMapping : (Json.object members).toDocument.resolve (Json.object members).toDocument.root =
      .map (Json.toEntries members) := rfl
  unfold ofDocument
  rw [isMapping]
  dsimp only
  rw [Json.get?_toEntries, Json.get?_toEntries]
  change _ = fieldsIn (Json.object members).toValue _ >>= fun fields =>
    match checkIdentifier (Json.object members).toDocument _ with
    | .good identifier => Except.ok (EntityMetadata.mk fields identifier)
    | .bad objections => .error (.fault (.invalid ⟨"EntityMetadata", objections⟩))
  cases checkIdentifier (Json.object members).toDocument
      (((Json.object members).get? "identifier").map Json.toValue) <;>
    cases (Json.object members).get? "fields" <;> rfl

theorem ofDocument_eq_ok_iff {metadata : EntityMetadata} :
    ofDocument json.toDocument = .ok metadata ↔ (∃ members, json = .object members) ∧
      DeclaresIdentifier (json.get? "identifier") metadata.identifier ∧
        ∃ declared, DeclaresFields (json.get? "fields") declared ∧
          Ordered.ofList declared = metadata.fields := by
  cases json with
  | object members =>
      rw [ofDocument_object_eq, bind_eq_ok_iff,
        ← @checkIdentifier_eq_good_iff ⟨(Json.object members).toValue, []⟩,
        ← @fieldsIn_eq_ok_iff (Json.object members).toValue]
      constructor
      · rintro ⟨fields, given, made⟩
        split at made
        · next identifier checked =>
          cases made
          exact ⟨⟨members, rfl⟩, checked, given⟩
        · cases made
      · rintro ⟨_, checked, given⟩
        exact ⟨_, given, by rw [checked]⟩
  | _ => exact iff_of_false nofun nofun

/-! ### Data that a JSON text gives -/

section

variable {depth : Nat} {declared : Option Json} {text : List Char} {source : Path}

theorem exists_tells (within : json.IsWithin depth) (room : depth ≤ Value.textDepthLimit) :
    ∃ content, json.Tells content := by
  obtain ⟨chars, written⟩ := exists_quoted_eq within room
  exact exists_shown_eq_of_quoted written

theorem exists_isFieldOf_iff (within : json.IsWithin depth) (room : depth ≤ Value.textDepthLimit) :
    (∃ field, IsFieldOf json field) ↔ ∃ name, json.get? "name" = some name := by
  have told {key : String} {item : Json} (given : json.get? key = some item) :
      ∃ content, item.Tells content := by
    obtain ⟨less, rfl, inside⟩ := within.of_get? given
    exact exists_tells inside (Nat.le_of_succ_le room)
  constructor
  · rintro ⟨_, ⟨named, _, _, _⟩ | ⟨named, _, _⟩⟩ <;> exact ⟨_, named⟩
  · rintro ⟨name, named⟩
    obtain ⟨content, tellsName⟩ := told named
    cases typed : json.get? "type" with
    | none => exact ⟨_, .untyped named typed tellsName⟩
    | some type =>
        obtain ⟨kind, tellsType⟩ := told typed
        exact ⟨(content, kind), .typed named typed tellsName tellsType⟩

/-- Where texts can be written, fields are declared by whatever may declare them. -/
theorem exists_declaresFields_iff (within : ∀ json, declared = some json → json.IsWithin depth)
    (room : depth ≤ Value.textDepthLimit) :
    (∃ fields, DeclaresFields declared fields) ↔ MayDeclareFields declared := by
  constructor
  · rintro ⟨fields, _ | isNothing | each | each⟩
    · exact .absent
    · exact .nothing isNothing
    · exact .object _
    · refine .list fun entry member => ?_
      obtain ⟨less, rfl, inside⟩ := (within _ rfl).each_item
      rw [← exists_isFieldOf_iff (inside entry member) (Nat.le_of_succ_le room)]
      exact exists_forall₂_iff.mp ⟨fields, each⟩ entry member
  · rintro (_ | isNothing | members | @⟨entries, named⟩)
    · exact ⟨[], .absent⟩
    · exact ⟨[], .nothing isNothing⟩
    · obtain ⟨less, rfl, inside⟩ := (within _ rfl).each_member
      have each (member : CodeText × Json) (listed : member ∈ members) :
          ∃ field : CodeText × CodeText, member.1 = field.1 ∧ member.2.Tells field.2 := by
        obtain ⟨content, tells⟩ := exists_tells (inside member listed) (Nat.le_of_succ_le room)
        exact ⟨(member.1, content), rfl, tells⟩
      obtain ⟨fields, all⟩ := exists_forall₂_iff.mpr each
      exact ⟨fields, .object all⟩
    · obtain ⟨less, rfl, inside⟩ := (within _ rfl).each_item
      have each (entry : Json) (listed : entry ∈ entries) : ∃ field, IsFieldOf entry field :=
        (exists_isFieldOf_iff (inside entry listed) (Nat.le_of_succ_le room)).mpr
          (named entry listed)
      obtain ⟨fields, all⟩ := exists_forall₂_iff.mpr each
      exact ⟨fields, .list all⟩

theorem exists_ofDocument_eq_iff (within : json.IsWithin Json.Limits.lax.depth) :
    (∃ metadata, ofDocument json.toDocument = .ok metadata) ↔ HasShape json := by
  have inside (declared : Json) (given : json.get? "fields" = some declared) :
      declared.IsWithin Value.textDepthLimit := by
    obtain ⟨less, limit, inside⟩ := within.of_get? given
    cases limit
    exact inside
  have listed := exists_declaresFields_iff inside Nat.le.refl
  simp only [ofDocument_eq_ok_iff]
  constructor
  · rintro ⟨metadata, isObject, identifier, declared, declares, _⟩
    exact ⟨isObject, ⟨_, identifier⟩, listed.mp ⟨declared, declares⟩⟩
  · rintro ⟨isObject, ⟨names, identifier⟩, fields⟩
    obtain ⟨declared, declares⟩ := listed.mpr fields
    exact ⟨⟨Ordered.ofList declared, names⟩, isObject, identifier, declared, declares, rfl⟩

theorem ofSource_eq_ok_iff {document : Document} {metadata : EntityMetadata} :
    ofSource source document = .ok metadata ↔ ofDocument document = .ok metadata :=
  mapError_eq_ok_iff

/-- Whatever a JSON text holds, metadata are built from it exactly if it has their shape, and then
they are what it declares; otherwise it is complained about. -/
theorem built_iff_hasShape (read : Json.read Json.Limits.lax text = .ok json) (source : Path) :
    ((∃ metadata, ofSource source json.toDocument = .ok metadata) ↔ HasShape json) ∧
      (∀ metadata, ofSource source json.toDocument = .ok metadata → IsDeclaredBy json metadata) ∧
      ∀ error, ofSource source json.toDocument = .error error →
        ∃ fault, error = .metadata source fault := by
  have within := read_lax_endsWell text
  rw [read] at within
  refine ⟨?_, fun metadata built => ?_, fun error failed => ?_⟩
  · simp only [ofSource_eq_ok_iff]
    exact exists_ofDocument_eq_iff within
  · obtain ⟨_, identifier, declared, declares, made⟩ :=
      ofDocument_eq_ok_iff.mp (ofSource_eq_ok_iff.mp built)
    exact ⟨identifier, declared, declares, made ▸ Ordered.isMadeOf_ofList declared⟩
  · rcases ofSource_eq_error_iff.mp failed with ⟨fault, _, complaint⟩ | ⟨fault, untold, _⟩
    · exact ⟨fault, complaint⟩
    · exact absurd untold (not_untold_of_isWithin within)

theorem built_from_repeated_name : ∃ json,
    Json.read Json.Limits.lax ("\x7b\x22fields\x22:[\x7b\x22name\x22:\x22id\x22\x7d,".toList ++
      "\x7b\x22name\x22:5\x7d,\x7b\x22name\x22:\x22id\x22,\x22type\x22:7\x7d]\x7d".toList) = .ok json ∧
    HasShape json ∧ IsDeclaredBy json ⟨[(.ofString "id", .ofString "7"),
      (.ofString "5", .ofString "string")], [.ofString "id"]⟩ := by
  have evaluated : ((Json.read Json.Limits.lax
      ("\x7b\x22fields\x22:[\x7b\x22name\x22:\x22id\x22\x7d,".toList ++
        "\x7b\x22name\x22:5\x7d,\x7b\x22name\x22:\x22id\x22,\x22type\x22:7\x7d]\x7d".toList)).toOption.bind
      fun json => (ofSource (.ofString "post.json") json.toDocument).toOption) =
        some ⟨[(.ofString "id", .ofString "7"), (.ofString "5", .ofString "string")],
          [.ofString "id"]⟩ := by decide +kernel
  obtain ⟨json, read, built⟩ := Option.bind_eq_some_iff.mp evaluated
  have given := eq_ok_of_toOption_eq_some built
  obtain ⟨shaped, declared, _⟩ :=
    built_iff_hasShape (eq_ok_of_toOption_eq_some read) (.ofString "post.json")
  exact ⟨json, eq_ok_of_toOption_eq_some read, shaped.mp ⟨_, given⟩, declared _ given⟩

end

end EntityMetadata

end EntityScaffold
