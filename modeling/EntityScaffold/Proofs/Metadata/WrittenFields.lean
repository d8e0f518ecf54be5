import EntityScaffold.Proofs.Metadata.Loading
import EntityScaffold.Proofs.Ordered
import EntityScaffold.Proofs.Yaml.FieldLines
import EntityScaffold.Proofs.Yaml.RouteValues
import EntityScaffold.Proofs.Yaml.WordSpelling

/-
Metadata from a YAML file with one line for each field. Names and types are words without quotes, and
what is loaded is the text of what they are read as. That is the word itself, except for the words of
truth values and null, which come back as other words; those that mean the same become one field.
-/

namespace EntityScaffold

namespace Yaml

open Spelling Text

/-- The usual names of columns: small letters, digits and underscores, with no digit in front. -/
def isFieldName : List Char → Bool
  | [] => false
  | first :: rest => (isAsciiLower first || first == '_') &&
      rest.all fun char => isAsciiLower char || isAsciiDigit char || char == '_'

/-- The usual names of types: small letters. -/
def isTypeName (chars : List Char) : Bool := !chars.isEmpty && chars.all isAsciiLower

def truths : List (List Char) := ["yes".toList, "true".toList, "on".toList]

def falsehoods : List (List Char) := ["no".toList, "false".toList, "off".toList]

def nothing : List Char := "null".toList

/-- The words that are read as something else than text. -/
def reserved : List (List Char) := nothing :: (truths ++ falsehoods)

def wordValue (word : List Char) : Value :=
  if word ∈ truths then .bool true
  else if word ∈ falsehoods then .bool false
  else if word = nothing then .null
  else .text (CodeText.ofChars word)

/-- The text of what a word is read as. -/
def spoken (word : List Char) : List Char :=
  if word ∈ truths then "True".toList
  else if word ∈ falsehoods then "False".toList
  else if word = nothing then "None".toList
  else word

variable {word left right : List Char}

theorem isFieldName_of_isTypeName (named : isTypeName word = true) : isFieldName word = true := by
  cases word with
  | nil => cases named
  | cons first rest =>
      simp only [isTypeName, List.isEmpty_cons, Bool.not_false, Bool.true_and, List.all_cons,
        Bool.and_eq_true, List.all_eq_true] at named
      simp only [isFieldName, named.1, Bool.true_or, Bool.true_and, List.all_eq_true]
      exact fun char member => by rw [named.2 char member, Bool.true_or, Bool.true_or]

theorem isWordChar_of_isFieldName (named : isFieldName word = true) :
    ∀ char ∈ word, isWordChar char = true := by
  cases word with
  | nil => cases named
  | cons first rest =>
      simp only [isFieldName, Bool.and_eq_true, Bool.or_eq_true, List.all_eq_true] at named
      obtain ⟨begins, goesOn⟩ := named
      refine List.forall_mem_cons.mpr ⟨?_, fun char member => ?_⟩
      · rcases begins with lower | mark
        · simp [isWordChar, lower]
        · simp [isWordChar, mark]
      · rcases goesOn char member with (lower | digit) | mark
        · simp [isWordChar, lower]
        · simp [isWordChar, digit]
        · simp [isWordChar, mark]

theorem isPlainWord_of_isFieldName (named : isFieldName word = true) : IsPlainWord false word := by
  refine isPlainWord_of_isWordChar (isWordChar_of_isFieldName named) ?_
  rintro rfl
  cases named

/-- An integer has a digit in front, or behind its sign. -/
theorem isDigit_of_isInt (int : isInt word = true) :
    ∃ first rest, dropSign word = first :: rest ∧ isDigit first = true := by
  unfold isInt at int
  split at int
  · next same => exact ⟨_, _, same, rfl⟩
  · next same => exact ⟨_, _, same, rfl⟩
  · next same => exact ⟨_, _, same, rfl⟩
  · next same => exact ⟨_, _, same, rfl⟩
  · next same => exact ⟨_, _, same, (Bool.and_eq_true_iff.mp int).1⟩
  · cases int

theorem isInt_of_isFieldName (named : isFieldName word = true) : isInt word = false := by
  refine Bool.eq_false_iff.mpr fun int => ?_
  obtain ⟨digit, rest, unsigned, isDigit⟩ := isDigit_of_isInt int
  cases word with
  | nil => cases named
  | cons first others =>
      simp only [isFieldName, Bool.and_eq_true, Bool.or_eq_true, beq_iff_eq] at named
      have begins := named.1
      have same : digit = first := by
        unfold dropSign at unsigned
        split at unsigned
        · next sign => cases sign; exact absurd begins (by decide)
        · next sign => cases sign; exact absurd begins (by decide)
        · exact (List.cons.inj unsigned).1.symm
      subst same
      rcases begins with lower | mark
      · have least : 'a' ≤ digit := of_decide_eq_true (Bool.and_eq_true_iff.mp lower).1
        have most : digit ≤ '9' := of_decide_eq_true (Bool.and_eq_true_iff.mp isDigit).2
        exact absurd (Char.le_trans least most) (by decide)
      · subst mark
        cases isDigit

/-- Words that are not reserved are read as they are. -/
theorem ofSpelling_of_isFieldName (named : isFieldName word = true) (free : word ∉ reserved) :
    Tag.ofSpelling word = .text := by
  have markless : ∀ mark ∈ typeMarks, mark ∉ word := by
    intro mark listed inside
    have noWord : ∀ mark ∈ typeMarks, isWordChar mark = false := Text.forall_mem_of_all (by decide)
    exact ne_of_isWordChar (isWordChar_of_isFieldName named mark inside) (noWord mark listed) rfl
  have known : ∀ word ∈ trueWords ++ falseWords ++ ["".toList, "~".toList, "null".toList,
      "Null".toList, "NULL".toList], isFieldName word = true → word ∈ reserved := by decide
  have notBool : isBool word = false := by
    refine Bool.eq_false_iff.mpr fun listed => free (known word ?_ named)
    simp only [isBool, Bool.or_eq_true, List.contains_iff_mem] at listed
    exact List.mem_append_left _ (List.mem_append.mpr listed)
  have notNull : isNull word = false := Bool.eq_false_iff.mpr fun listed =>
    free (known word (List.mem_append_right _ (List.contains_iff_mem.mp listed)) named)
  rw [ofSpelling_of_markless markless, notBool, isInt_of_isFieldName named, notNull]
  rfl

/-- A word is read as a truth value, as null or as text. -/
theorem hasValue_word (named : isFieldName word = true) :
    (Spelled.plain word).HasValue ∧ (Spelled.plain word).value = wordValue word := by
  have truth (value : Bool) (isBool : Tag.ofSpelling word = .bool)
      (stands : (Scalar.boolOf (CodeText.ofChars word)).toOption = some value) :
      (Spelled.plain word).HasValue ∧ (Spelled.plain word).value = .bool value := by
    have tag := (Spelled.tag_plain word).trans isBool
    refine Spelled.hasValue_of_valueOf (by rw [tag]; rfl) (by rw [tag]; decide) ?_
    rw [tag]
    exact congrArg (Except.map Value.bool) (eq_ok_of_toOption_eq_some stands)
  have truthWords : ∀ word ∈ truths, Tag.ofSpelling word = .bool ∧
      (Scalar.boolOf (CodeText.ofChars word)).toOption = some true := by decide +kernel
  have falseWords : ∀ word ∈ falsehoods, Tag.ofSpelling word = .bool ∧
      (Scalar.boolOf (CodeText.ofChars word)).toOption = some false := by decide +kernel
  unfold wordValue
  split
  · next listed => exact truth true (truthWords word listed).1 (truthWords word listed).2
  · next noTruth =>
    split
    · next listed => exact truth false (falseWords word listed).1 (falseWords word listed).2
    · next noFalsehood =>
      split
      · next isNothing =>
        have isNull : Tag.ofSpelling nothing = .null := by decide +kernel
        have tag := (Spelled.tag_plain word).trans (isNothing ▸ isNull)
        exact Spelled.hasValue_of_valueOf (by rw [tag]; rfl) (by rw [tag]; decide) (by rw [tag]; rfl)
      · next noNothing =>
        refine Spelled.hasValue_plain (ofSpelling_of_isFieldName named ?_)
        simp [reserved, noTruth, noFalsehood, noNothing]

theorem shown_wordValue (word : List Char) (loops : List (Nat × Value)) :
    (wordValue word).shown loops = .ok (CodeText.ofChars (spoken word)) := by
  unfold wordValue spoken
  repeat' split
  all_goals rfl

theorem wordValue_cases (word : List Char) :
    (wordValue word = .bool true ∧ spoken word = "True".toList) ∨
      (wordValue word = .bool false ∧ spoken word = "False".toList) ∨
      (wordValue word = .null ∧ spoken word = "None".toList) ∨
      (wordValue word = .text (CodeText.ofChars word) ∧ spoken word = word ∧ word ∉ reserved) := by
  by_cases isTruth : word ∈ truths
  · exact Or.inl ⟨if_pos isTruth, if_pos isTruth⟩
  · by_cases isFalsehood : word ∈ falsehoods
    · simp [wordValue, spoken, isTruth, isFalsehood]
    · by_cases isNothing : word = nothing
      · subst isNothing
        exact Or.inr (Or.inr (Or.inl ⟨rfl, rfl⟩))
      · simp [wordValue, spoken, isTruth, isFalsehood, isNothing, reserved]

theorem spoken_of_free (free : word ∉ reserved) : spoken word = word := by
  simp only [reserved, List.mem_cons, List.mem_append, not_or] at free
  simp [spoken, free]

theorem spoken_not_mem_reserved (word : List Char) : spoken word ∉ reserved := by
  rcases wordValue_cases word with ⟨_, same⟩ | ⟨_, same⟩ | ⟨_, same⟩ | ⟨_, same, free⟩
  · rw [same]
    decide
  · rw [same]
    decide
  · rw [same]
    decide
  · rw [same]
    exact free

/-- Two words are one key just when they are spoken alike. -/
theorem sameKey_wordValue (leftNamed : isFieldName left = true)
    (rightNamed : isFieldName right = true) :
    (wordValue left).sameKey (wordValue right) =
      (CodeText.ofChars (spoken left) == CodeText.ofChars (spoken right)) := by
  -- the texts of truth values and of null begin with capitals, as no name does
  have apart {name capital : List Char} (named : isFieldName name = true)
      (noName : isFieldName capital = false) : CodeText.ofChars name ≠ CodeText.ofChars capital := by
    intro same
    rw [CodeText.ofChars_injective same, noName] at named
    cases named
  have capitals : ∀ capital ∈ ["True".toList, "False".toList, "None".toList],
      isFieldName capital = false := by decide
  rcases wordValue_cases left with ⟨isLeft, leftSpoken⟩ | ⟨isLeft, leftSpoken⟩ |
      ⟨isLeft, leftSpoken⟩ | ⟨isLeft, leftSpoken, _⟩ <;>
    rcases wordValue_cases right with ⟨isRight, rightSpoken⟩ | ⟨isRight, rightSpoken⟩ |
      ⟨isRight, rightSpoken⟩ | ⟨isRight, rightSpoken, _⟩ <;>
    rw [isLeft, isRight, leftSpoken, rightSpoken]
  all_goals first
    | rfl
    | exact (beq_false_of_ne (apart leftNamed (capitals _ (by simp)))).symm
    | exact (beq_false_of_ne (apart rightNamed (capitals _ (by simp))).symm).symm

namespace FieldLine

variable {line : FieldLine} {lines : List FieldLine} {width : Nat}

structure IsNamed (line : FieldLine) : Prop where
  name : isFieldName line.name = true
  type : isTypeName line.type = true

theorem IsNamed.isReadable (named : line.IsNamed) : line.IsReadable :=
  ⟨isPlainWord_of_isFieldName named.name,
    isPlainWord_of_isFieldName (isFieldName_of_isTypeName named.type)⟩

def pair (line : FieldLine) : List Char × List Char := (line.name, line.type)

theorem isAllowed_following (readable : ∀ line ∈ lines, line.IsReadable) :
    ∀ char ∈ following width lines, isAllowed char = true := by
  induction lines with
  | nil => exact List.forall_mem_singleton.mpr rfl
  | cons line rest ih =>
      obtain ⟨here, later⟩ := List.forall_mem_cons.mp readable
      have name := RouteLines.isAllowed_of_isInLine here.name.isInLine
      have type := RouteLines.isAllowed_of_isInLine here.type.isInLine
      have marks : ∀ char ∈ ['\n', ' ', ':'], isAllowed char = true := forall_mem_of_all (by decide)
      have further := ih later
      simp only [following, behindName, List.forall_mem_append, List.forall_mem_cons,
        List.mem_replicate] at marks ⊢
      simp_all

theorem isAllowed_fileText (readable : ∀ line ∈ lines, line.IsReadable) :
    (fileText width lines).all isAllowed = true := by
  have head : ∀ char ∈ identifierKey ++ usualIdentifier ++ fieldsKey ++ [':', ' ', '\n'],
      isAllowed char = true := forall_mem_of_all (by decide)
  have further := @isAllowed_following lines width readable
  refine List.all_eq_true.mpr ?_
  simp only [fileText, List.forall_mem_append, List.forall_mem_cons, List.mem_replicate] at head ⊢
  simp_all

theorem entries_of_named (named : ∀ line ∈ lines, line.IsNamed) :
    Tree.EntriesHaveValues (lines.map entry) ∧ Tree.entryValues (lines.map entry) =
      (lines.map pair).map (Prod.map wordValue wordValue) := by
  induction lines with
  | nil => exact ⟨trivial, rfl⟩
  | cons line rest ih =>
      obtain ⟨here, later⟩ := List.forall_mem_cons.mp named
      obtain ⟨nameHas, isName⟩ := hasValue_word here.name
      obtain ⟨typeHas, isType⟩ := hasValue_word (isFieldName_of_isTypeName here.type)
      obtain ⟨othersHave, others⟩ := ih later
      refine ⟨⟨nameHas, typeHas, othersHave⟩, ?_⟩
      rw [List.map_cons, entry, Tree.entryValues, Tree.value, isName, isType, others, List.map_cons,
        List.map_cons, pair, Prod.map_apply]

/-- The fields as they are read, those that are spoken alike being one. -/
def meaning (lines : List FieldLine) : Value :=
  .map (Ordered.ofListBy Value.sameKey ((lines.map pair).map (Prod.map wordValue wordValue)))

theorem load_fileText (some_ : lines ≠ []) (named : ∀ line ∈ lines, line.IsNamed)
    (short : ∀ line ∈ lines, line.name.length ≤ 1024) (indented : 0 < width) :
    load (fileText width lines) = .ok
      ⟨.map [(.string "identifier", .string "id"), (.string "fields", meaning lines)], []⟩ := by
  obtain ⟨first, rest, rfl⟩ := List.exists_cons_of_ne_nil some_
  have readable := fun line listed => (named line listed).isReadable
  have scanned := scan_fileText (isAllowed_fileText readable) readable short indented
  have keys : Tag.ofSpelling identifierKey = .text ∧ Tag.ofSpelling usualIdentifier = .text ∧
      Tag.ofSpelling fieldsKey = .text := by decide +kernel
  obtain ⟨identifierHas, isIdentifier⟩ := Spelled.hasValue_plain keys.1
  obtain ⟨usualHas, isUsual⟩ := Spelled.hasValue_plain keys.2.1
  obtain ⟨fieldsHas, isFields⟩ := Spelled.hasValue_plain keys.2.2
  obtain ⟨entriesHave, entries⟩ := entries_of_named named
  have fit : (tree (first :: rest)).fits true Node.depthLimit = true := by
    simp only [tree, Node.depthLimit, Tree.fits, Tree.entriesFit, fits_entries, Bool.and_true,
      Bool.true_or]
  have distinct : ([identifierKey, fieldsKey].map CodeText.ofChars).Nodup := by decide
  rw [Tree.load_of_scan_eq scanned fit ⟨identifierHas, usualHas, fieldsHas, entriesHave, trivial⟩,
    tree, Tree.value, Tree.entryValues, Tree.entryValues, Tree.entryValues, Tree.value, Tree.value,
    isIdentifier, isUsual, isFields, entries,
    Ordered.ofListBy_of_distinct (Spelled.pairwise_keys rfl distinct)]
  rfl

end FieldLine

end Yaml

namespace EntityMetadata

open Yaml (FieldLine spoken wordValue isFieldName)

variable {lines : List FieldLine} {width : Nat} {tree : FileTree} {source : Path}

/-- The text that a word is loaded as. -/
def said (word : List Char) : CodeText := CodeText.ofChars (spoken word)

/-- The fields as they are written. -/
def declared (lines : List FieldLine) : List (CodeText × CodeText) :=
  (lines.map FieldLine.pair).map (Prod.map CodeText.ofChars CodeText.ofChars)

/-- The fields as they are loaded, a repeated name keeping its place and taking its last type. -/
def loaded (lines : List FieldLine) : List (CodeText × CodeText) :=
  Ordered.ofList ((lines.map FieldLine.pair).map (Prod.map said said))

theorem mapM_fieldOfMember (document : Document) (pairs : List (List Char × List Char)) :
    (pairs.map (Prod.map wordValue wordValue)).mapM (fieldOfMember document) =
      .ok (pairs.map (Prod.map said said)) := by
  rw [mapM_eq_ok_iff, List.forall₂_map_left_iff, List.forall₂_map_right_iff]
  refine List.forall₂_same.mpr fun pair _ => ?_
  have told (word : List Char) : textOf document (wordValue word) = .ok (said word) :=
    textOf_eq_ok_iff.mpr (Yaml.shown_wordValue word _)
  rw [fieldOfMember, Prod.map_fst, told, Prod.map_snd, told]
  rfl

/-- Words are merged before they become texts or behind it, which makes no difference. -/
theorem fieldsOf_meaning (document : Document) (named : ∀ line ∈ lines, line.IsNamed) :
    fieldsOf document (FieldLine.meaning lines) = .ok (loaded lines) := by
  -- both are the mapping of the written words, those that are said alike being one key
  have asValues : Ordered.ofListBy Value.sameKey
        ((lines.map FieldLine.pair).map (Prod.map wordValue wordValue)) =
      (Ordered.ofListBy (fun left right => said left == said right)
        (lines.map FieldLine.pair)).map (Prod.map wordValue wordValue) := by
    refine Ordered.ofListBy_map (List.pairwise_map.mpr (List.pairwise_of_forall_mem_list ?_))
    exact fun left leftListed right rightListed =>
      Yaml.sameKey_wordValue (named left leftListed).name (named right rightListed).name
  have asTexts : loaded lines = (Ordered.ofListBy (fun left right => said left == said right)
      (lines.map FieldLine.pair)).map (Prod.map said said) :=
    Ordered.ofListBy_map (List.pairwise_of_forall fun _ _ => rfl)
  have distinct : ((loaded lines).map Prod.fst).Nodup := Ordered.nodup_keys_ofList _
  change fieldsOfMapping document _ = _
  rw [fieldsOfMapping_eq, asValues, mapM_fieldOfMember, ← asTexts]
  exact congrArg Except.ok (Ordered.ofList_of_nodup distinct)

theorem ofSource_written (named : ∀ line ∈ lines, line.IsNamed) :
    ofSource source ⟨.map [(.string "identifier", .string "id"),
        (.string "fields", FieldLine.meaning lines)], []⟩ =
      .ok ⟨loaded lines, [CodeText.ofString "id"]⟩ := by
  have identifier : Value.get? "identifier" [(.string "identifier", .string "id"),
      (.string "fields", FieldLine.meaning lines)] = some (.string "id") := rfl
  have fields : Value.get? "fields" [(.string "identifier", .string "id"),
      (.string "fields", FieldLine.meaning lines)] = some (FieldLine.meaning lines) := rfl
  unfold ofSource ofDocument
  dsimp only [Document.resolve]
  rw [fields, identifier]
  dsimp only
  rw [fieldsOf_meaning _ named]
  rfl

/-- With words that are free, all fields are loaded as they are written, and with others they are not. -/
theorem loaded_eq_declared_iff (distinct : (lines.map FieldLine.name).Nodup) :
    loaded lines = declared lines ↔
      ∀ line ∈ lines, line.name ∉ Yaml.reserved ∧ line.type ∉ Yaml.reserved := by
  constructor
  · -- no text that is loaded is reserved, and so none that is declared
    intro same line listed
    have kept : (CodeText.ofChars line.name, CodeText.ofChars line.type) ∈ loaded lines := by
      rw [same]
      exact List.mem_map_of_mem (List.mem_map_of_mem listed)
    obtain ⟨pair, _, isPair⟩ := List.mem_map.mp (Ordered.mem_of_mem_ofList kept)
    obtain ⟨isName, isType⟩ := Prod.mk.inj isPair
    rw [← CodeText.ofChars_injective isName, ← CodeText.ofChars_injective isType]
    exact ⟨Yaml.spoken_not_mem_reserved _, Yaml.spoken_not_mem_reserved _⟩
  · intro free
    have same : (lines.map FieldLine.pair).map (Prod.map said said) = declared lines := by
      rw [declared, List.map_map, List.map_map]
      refine List.map_congr_left fun line listed => ?_
      obtain ⟨name, type⟩ := free line listed
      simp [FieldLine.pair, said, Yaml.spoken_of_free name, Yaml.spoken_of_free type]
    rw [loaded, same]
    refine Ordered.ofList_of_nodup ?_
    have texts : ((lines.map FieldLine.name).map CodeText.ofChars).Nodup :=
      List.Pairwise.map CodeText.ofChars
        (fun _ _ differs same => differs (CodeText.ofChars_injective same)) distinct
    rw [List.map_map] at texts
    rw [declared, List.map_map, List.map_map]
    exact texts

/-- A YAML file with a line for each field is loaded with those names and types, in that order, just
when none of them is a word that means something else in YAML and no name is too long for a key. The
words of truth values and of null come back as the texts of their values, fields with the same value
being one; with a name that is too long the file is complained about. -/
theorem written_fields_loaded_iff (some_ : lines ≠ []) (named : ∀ line ∈ lines, line.IsNamed)
    (distinct : (lines.map FieldLine.name).Nodup) (indented : 0 < width)
    (yaml : isYamlName source = true)
    (held : HoldsText tree source (String.ofList (FieldLine.fileText width lines))) :
    (load tree source = .ok ⟨declared lines, [CodeText.ofString "id"]⟩ ↔
        ∀ line ∈ lines, line.name.length ≤ 1024 ∧
          line.name ∉ Yaml.reserved ∧ line.type ∉ Yaml.reserved) ∧
      ((∀ line ∈ lines, line.name.length ≤ 1024) →
        load tree source = .ok ⟨loaded lines, [CodeText.ofString "id"]⟩) ∧
      ((∃ line ∈ lines, 1024 < line.name.length) →
        load tree source = .error (.metadata source (.unparsable ""))) := by
  obtain ⟨content, there, read⟩ := held
  have parsed := load_of_text there read
  have whenShort (short : ∀ line ∈ lines, line.name.length ≤ 1024) :
      load tree source = .ok ⟨loaded lines, [CodeText.ofString "id"]⟩ := by
    have document := FieldLine.load_fileText some_ named short indented
    rw [← String.toList_ofList (l := FieldLine.fileText width lines)] at document
    rw [parsed, (parse_yaml_eq_ok_iff yaml).mpr document]
    exact ofSource_written named
  have whenLong (long : ∃ line ∈ lines, 1024 < line.name.length) :
      load tree source = .error (.metadata source (.unparsable "")) := by
    obtain ⟨first, rest, rfl⟩ := List.exists_cons_of_ne_nil some_
    have readable := fun line listed => (named line listed).isReadable
    have unread := Yaml.exists_load_eq_error (FieldLine.ofTokens_of_long
      (FieldLine.isAllowed_fileText readable) readable long indented)
    rw [← String.toList_ofList (l := FieldLine.fileText width (first :: rest))] at unread
    rw [parsed, (parse_yaml_eq_error_iff yaml).mpr (Or.inl ⟨unread, rfl⟩)]
    rfl
  refine ⟨⟨fun isLoaded line listed => ?_, fun free => ?_⟩, whenShort, whenLong⟩
  · have short : ∀ line ∈ lines, line.name.length ≤ 1024 := by
      intro other among
      refine Nat.not_lt.mp fun long => ?_
      rw [whenLong ⟨other, among, long⟩] at isLoaded
      cases isLoaded
    rw [whenShort short, Except.ok.injEq, EntityMetadata.mk.injEq] at isLoaded
    exact ⟨short line listed, (loaded_eq_declared_iff distinct).mp isLoaded.1 line listed⟩
  · rw [whenShort fun line listed => (free line listed).1,
      (loaded_eq_declared_iff distinct).mpr fun line listed => (free line listed).2]

/-- A file whose second field has the name of a truth value. -/
def truthNamedLines : List FieldLine :=
  [⟨"id".toList, "integer".toList⟩, ⟨"no".toList, "string".toList⟩, ⟨"off".toList, "text".toList⟩]

def truthNamedTree : FileTree :=
  ⟨[(["post.yaml"], .file (.text (String.ofList (FieldLine.fileText 2 truthNamedLines))))]⟩

theorem truth_named_field_lost :
    load truthNamedTree (.ofString "post.yaml") =
        .ok ⟨[(CodeText.ofString "id", CodeText.ofString "integer"),
          (CodeText.ofString "False", CodeText.ofString "text")], [CodeText.ofString "id"]⟩ ∧
      load truthNamedTree (.ofString "post.yaml") ≠
        .ok ⟨declared truthNamedLines, [CodeText.ofString "id"]⟩ := by
  have held : (FileTree.readContent truthNamedTree (.ofString "post.yaml")).toOption =
      some (.text (String.ofList (FieldLine.fileText 2 truthNamedLines))) := by decide +kernel
  have checked : ∀ line ∈ truthNamedLines, isFieldName line.name = true ∧
      Yaml.isTypeName line.type = true := by decide
  have named : ∀ line ∈ truthNamedLines, line.IsNamed := fun line listed =>
    ⟨(checked line listed).1, (checked line listed).2⟩
  obtain ⟨asWritten, whenShort, _⟩ := @written_fields_loaded_iff truthNamedLines 2 truthNamedTree
    (.ofString "post.yaml") (by decide) named (by decide) Nat.two_pos (by decide +kernel)
    ⟨_, eq_ok_of_toOption_eq_some held, rfl⟩
  refine ⟨whenShort (by decide), fun isLoaded => ?_⟩
  exact absurd (asWritten.mp isLoaded) (by decide)

end EntityMetadata

end EntityScaffold
