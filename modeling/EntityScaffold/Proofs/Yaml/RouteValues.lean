import EntityScaffold.Proofs.Text.Pieces
import EntityScaffold.Proofs.Text.PlainText
import EntityScaffold.Proofs.Yaml.RouteScanning
import EntityScaffold.Proofs.Yaml.TreeReading

/-
What the routes of a YAML text are loaded as. The text has the value that its lines suggest: each
name leads to the path, the controller and the methods below it. Names stand without quotes, though,
and the name of the first route may be spelled like a truth value or a number; then it is one.
-/

namespace EntityScaffold

namespace Value

theorem sameKey_text {value : Value} {text : CodeText} (differs : value ≠ .text text) :
    value.sameKey (.text text) = false := by
  cases value with
  | text other => exact beq_false_of_ne fun same => differs (congrArg Value.text same)
  | _ => rfl

end Value

namespace Yaml

namespace Spelled

variable {chars : List Char} {spelled : Spelled}

theorem tag_plain (chars : List Char) : (plain chars).tag = Tag.ofSpelling chars := by
  change Node.scalarTag.ofContent (CodeText.ofChars chars) = _
  rw [Node.scalarTag.ofContent, CodeText.toChars?_ofChars]

theorem hasValue_of_valueOf {value : Value} (isScalar : Builder.isScalarTag spelled.tag = true)
    (notFloat : spelled.tag ≠ .float)
    (stands : Scalar.valueOf spelled.tag spelled.text = .ok value) :
    spelled.HasValue ∧ spelled.value = value := by
  have same : spelled.value = value := by
    rw [Spelled.value, stands]
  exact ⟨⟨isScalar, notFloat, stands.trans (congrArg Except.ok same.symm)⟩, same⟩

theorem hasValue_of_text (isText : spelled.tag = .text) :
    spelled.HasValue ∧ spelled.value = .text spelled.text := by
  refine hasValue_of_valueOf ?_ ?_ ?_ <;> rw [isText]
  · rfl
  · decide
  · rfl

/-- Text that need not stand in quotes. -/
theorem hasValue_plain (isText : Tag.ofSpelling chars = .text) :
    (plain chars).HasValue ∧ (plain chars).value = .text (CodeText.ofChars chars) :=
  hasValue_of_text ((tag_plain chars).trans isText)

theorem hasValue_quoted (chars : List Char) :
    (quoted chars).HasValue ∧ (quoted chars).value = .text (CodeText.ofChars chars) :=
  hasValue_of_text rfl

/-- Texts are distinct keys when they are spelled differently. -/
theorem pairwise_keys {entries : List (Value × Value)} {texts : List CodeText}
    (keys : entries.map Prod.fst = texts.map Value.text) (distinct : texts.Nodup) :
    entries.Pairwise fun left right => left.1.sameKey right.1 = false := by
  refine (List.pairwise_map (R := fun left right : Value => left.sameKey right = false)).mp ?_
  rw [keys]
  refine List.pairwise_map.mpr (distinct.imp fun differs => ?_)
  exact Value.sameKey_text fun same => differs (Value.text.inj same)

end Spelled

namespace RouteLines

variable {route first : RouteLines} {routes : List RouteLines} {below : List Char}

/-- What is written below the name of a route, its scalars being texts. -/
def meaning (route : RouteLines) : Value :=
  .map [
    (.string "path", .text (CodeText.ofChars route.path)),
    (.string "defaults", .map [(.string "_controller", .text (CodeText.ofChars route.controller))]),
    (.string "methods", .list (route.methods.map fun method => .text (CodeText.ofChars method)))]

/-- The path and the methods are spelled like nothing else. -/
structure HasTexts (route : RouteLines) : Prop where
  path : Tag.ofSpelling route.path = .text
  methods : ∀ method ∈ route.methods, Tag.ofSpelling method = .text

theorem ofSpelling_keys :
    Tag.ofSpelling pathKey = .text ∧ Tag.ofSpelling defaultsKey = .text ∧
      Tag.ofSpelling controllerKey = .text ∧ Tag.ofSpelling methodsKey = .text := by
  decide +kernel

theorem items_of_texts {methods : List (List Char)}
    (texts : ∀ method ∈ methods, Tag.ofSpelling method = .text) :
    Tree.ItemsHaveValues (methods.map fun method => .scalar (.plain method)) ∧
      Tree.itemValues (methods.map fun method => .scalar (.plain method)) =
        methods.map fun method => .text (CodeText.ofChars method) := by
  induction methods with
  | nil => exact ⟨trivial, rfl⟩
  | cons method others ih =>
      obtain ⟨here, later⟩ := List.forall_mem_cons.mp texts
      obtain ⟨has, isText⟩ := Spelled.hasValue_plain here
      obtain ⟨othersHave, values⟩ := ih later
      refine ⟨⟨has, othersHave⟩, ?_⟩
      rw [List.map_cons, Tree.itemValues, Tree.value, isText, values, List.map_cons]

theorem hasValues_tree (texts : route.HasTexts) :
    route.tree.HasValues ∧ route.tree.value = route.meaning := by
  obtain ⟨pathText, defaultsText, controllerText, methodsText⟩ := ofSpelling_keys
  obtain ⟨pathKeyHas, isPathKey⟩ := Spelled.hasValue_plain pathText
  obtain ⟨defaultsKeyHas, isDefaultsKey⟩ := Spelled.hasValue_plain defaultsText
  obtain ⟨controllerKeyHas, isControllerKey⟩ := Spelled.hasValue_plain controllerText
  obtain ⟨methodsKeyHas, isMethodsKey⟩ := Spelled.hasValue_plain methodsText
  obtain ⟨pathHas, isPath⟩ := Spelled.hasValue_plain texts.path
  obtain ⟨controllerHas, isController⟩ := Spelled.hasValue_quoted route.controller
  obtain ⟨methodsHave, areMethods⟩ := items_of_texts texts.methods
  constructor
  · exact ⟨pathKeyHas, pathHas, defaultsKeyHas, ⟨controllerKeyHas, controllerHas, trivial⟩,
      methodsKeyHas, methodsHave, trivial⟩
  · have distinct : ([pathKey, defaultsKey, methodsKey].map CodeText.ofChars).Nodup := by decide
    rw [tree, Tree.value, Tree.entryValues, Tree.entryValues, Tree.entryValues, Tree.entryValues,
      Tree.value, Tree.value, Tree.value, Tree.entryValues, Tree.entryValues, Tree.value, isPathKey,
      isDefaultsKey, isControllerKey, isMethodsKey, isPath, isController, areMethods,
      Ordered.ofListBy_of_distinct (Spelled.pairwise_keys rfl distinct)]
    rfl

theorem fits_tree (route : RouteLines) (depth : Nat) : route.tree.fits true (depth + 2) = true := by
  have items (methods : List (List Char)) :
      Tree.itemsFit depth (methods.map fun method => .scalar (.plain method)) = true := by
    induction methods with
    | nil => rfl
    | cons method others ih => exact ih
  simp [tree, Tree.fits, Tree.entriesFit, items]

theorem fits_file (routes : List RouteLines) :
    (Tree.map true (routes.map entry)).fits true Node.depthLimit = true := by
  have entries : Tree.entriesFit true 489 (routes.map entry) = true := by
    induction routes with
    | nil => rfl
    | cons route rest ih =>
        rw [List.map_cons, entry, Tree.entriesFit, fits_tree, ih]
        rfl
  exact entries

theorem isAllowed_of_isInLine {chars : List Char} (inLine : ∀ char ∈ chars, isInLine char = true) :
    ∀ char ∈ chars, isAllowed char = true := by
  intro char member
  have known := inLine char member
  simp only [isInLine, Bool.and_eq_true] at known
  exact known.1.1

theorem isAllowed_text (name : ∀ char ∈ route.name, isAllowed char = true)
    (readable : route.IsReadable) (further : ∀ char ∈ below, isAllowed char = true) :
    ∀ char ∈ route.text below, isAllowed char = true := by
  have path := isAllowed_of_isInLine readable.path.isInLine
  have controller := isAllowed_of_isInLine readable.inLine
  have methods : ∀ char ∈ Text.joinWith [',', ' '] route.methods, isAllowed char = true := by
    intro char member
    rcases Text.mem_of_mem_joinWith member with between | ⟨method, listed, inside⟩
    · have known : ∀ char ∈ [',', ' '], isAllowed char = true :=
        Text.forall_mem_of_all (by decide)
      exact known char between
    · exact isAllowed_of_isInLine (readable.words method listed).1.isInLine char inside
  have keys : ∀ char ∈ pathKey ++ defaultsKey ++ controllerKey ++ methodsKey,
      isAllowed char = true := Text.forall_mem_of_all (by decide)
  have marks : ∀ char ∈ [':', '\n', ' ', '\x7b', '\x27', '\x7d', '[', ']'],
      isAllowed char = true := Text.forall_mem_of_all (by decide)
  simp only [List.forall_mem_append, List.forall_mem_cons] at keys marks
  simp only [text, behindName, fromDefaults, fromController, behindDefaults, fromMethods, indented,
    List.forall_mem_append, List.forall_mem_cons, List.mem_replicate]
  simp_all

theorem isAllowed_following (names : ∀ route ∈ routes, ∀ char ∈ route.name, isAllowed char = true)
    (readable : ∀ route ∈ routes, route.IsReadable) :
    ∀ char ∈ following routes, isAllowed char = true := by
  induction routes with
  | nil => exact List.forall_mem_singleton.mpr rfl
  | cons route rest ih =>
      obtain ⟨name, namesLater⟩ := List.forall_mem_cons.mp names
      obtain ⟨here, later⟩ := List.forall_mem_cons.mp readable
      have lineEnd : isAllowed '\n' = true := rfl
      rw [following, List.forall_mem_cons, List.forall_mem_cons]
      exact ⟨lineEnd, lineEnd, isAllowed_text name here (ih namesLater later)⟩

/-- Names that are spelled like nothing else are distinct keys. -/
theorem entries_of_texts (texts : ∀ route ∈ routes, route.HasTexts)
    (names : ∀ route ∈ routes, Tag.ofSpelling route.name = .text) :
    Tree.EntriesHaveValues (routes.map entry) ∧ Tree.entryValues (routes.map entry) =
      routes.map fun route => (.text (CodeText.ofChars route.name), route.meaning) := by
  induction routes with
  | nil => exact ⟨trivial, rfl⟩
  | cons route rest ih =>
      obtain ⟨here, later⟩ := List.forall_mem_cons.mp texts
      obtain ⟨name, namesLater⟩ := List.forall_mem_cons.mp names
      obtain ⟨has, isText⟩ := Spelled.hasValue_plain name
      obtain ⟨inTree, isTree⟩ := hasValues_tree here
      obtain ⟨othersHave, others⟩ := ih later namesLater
      refine ⟨⟨has, inTree, othersHave⟩, ?_⟩
      rw [List.map_cons, entry, Tree.entryValues, isText, isTree, others, List.map_cons]

/-- A text of routes is loaded as what it says. The first name may have a value of another kind. -/
theorem load_text (allowed : (first.text (following routes)).all isAllowed = true)
    (keys : ∀ route ∈ first :: routes, route.HasKey)
    (readable : ∀ route ∈ first :: routes, route.IsReadable)
    (texts : ∀ route ∈ first :: routes, route.HasTexts) (has : (Spelled.plain first.name).HasValue)
    (names : ∀ route ∈ routes, Tag.ofSpelling route.name = .text)
    (apart : ∀ route ∈ routes, (Spelled.plain first.name).value ≠ .text (CodeText.ofChars route.name))
    (distinct : (routes.map name).Nodup) :
    load (first.text (following routes)) =
      .ok ⟨.map (((Spelled.plain first.name).value, first.meaning) ::
        routes.map fun route => (.text (CodeText.ofChars route.name), route.meaning)), []⟩ := by
  obtain ⟨textsHere, textsLater⟩ := List.forall_mem_cons.mp texts
  obtain ⟨inTree, isTree⟩ := hasValues_tree textsHere
  obtain ⟨entriesHave, areEntries⟩ := entries_of_texts textsLater names
  have hasValues : (Tree.map true ((first :: routes).map entry)).HasValues :=
    ⟨has, inTree, entriesHave⟩
  have kept : (((Spelled.plain first.name).value, first.meaning) :: routes.map fun route =>
      (Value.text (CodeText.ofChars route.name), route.meaning)).Pairwise
        fun left right => left.1.sameKey right.1 = false := by
    refine List.pairwise_cons.mpr ⟨fun other listed => ?_, ?_⟩
    · obtain ⟨route, member, rfl⟩ := List.mem_map.mp listed
      exact Value.sameKey_text (apart route member)
    · refine @Spelled.pairwise_keys _ (routes.map fun route => CodeText.ofChars route.name)
        (by simp) (List.pairwise_map.mpr ((List.pairwise_map.mp distinct).imp fun differs same => ?_))
      exact differs (CodeText.ofChars_injective same)
  rw [Tree.load_of_scan_eq (scan_text allowed keys readable) (fits_file _) hasValues, Tree.value,
    List.map_cons, entry, Tree.entryValues, isTree, areEntries, Ordered.ofListBy_of_distinct kept]

end RouteLines

end Yaml

end EntityScaffold
