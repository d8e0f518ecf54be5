import EntityScaffold.Config
import EntityScaffold.Proofs.Generation.Steps
import EntityScaffold.Proofs.Json.Reading
import EntityScaffold.Proofs.Json.RoundTrip
import EntityScaffold.Proofs.Ordered
import EntityScaffold.Proofs.Path.Written

/-
Saving of configurations. A check leaves a configuration with a directory that was read from a text
and with extensions that begin with a dot, and the settings of such a configuration are checked to the
same one. They have a written form unless there are surrogates in the directory, and a file gives that
form back as it was written, for its lines end with line feeds only.
-/

namespace EntityScaffold

open FileTree (perform)

namespace Text

theorem normalizeNewlines_of_not_mem {chars : List Char} (absent : '\r' ∉ chars) :
    normalizeNewlines chars = chars := by
  induction chars with
  | nil => rfl
  | cons char chars ih =>
      rw [List.mem_cons, not_or] at absent
      have other : char ≠ '\r' := fun same => absent.1 same.symm
      rw [normalizeNewlines, if_neg other, ih absent.2]
      intro rest same
      exact absurd same other

end Text

theorem Check.text_string (value : String) : Check.text (.string value) = .good value := by
  change Check.stringOf (CodeText.ofString value) = _
  rw [Check.stringOf, CodeText.toString?_ofString]

namespace Config

/-- Is an extension empty, or does it begin with a dot? -/
def IsDotted (extension : String) : Prop := extension = "" ∨ extension.toList.head? = some '.'

theorem isDotted_withDot (extension : String) : IsDotted (withDot extension) := by
  unfold withDot
  split
  · next nothing => exact Or.inl (String.toList_eq_nil_iff.1 nothing)
  · next others dotted => exact Or.inr (by rw [dotted]; rfl)
  · exact Or.inr (by rw [String.toList_ofList]; rfl)

theorem withDot_of_isDotted {extension : String} (dotted : IsDotted extension) :
    withDot extension = extension := by
  unfold withDot
  split
  · rfl
  · rfl
  · next _ some noDot =>
    rcases dotted with rfl | dot
    · exact absurd rfl some
    · cases chars : extension.toList with
      | nil => exact absurd chars some
      | cons first rest =>
          rw [chars] at dot
          exact absurd (by rw [chars, Option.some.inj dot]) (noDot rest)

/-- Is the text of the skeleton directory, if there is one, Unicode? -/
def HasUnicodeDirectory (config : Config) : Prop :=
  ∀ path ∈ config.skeletonDir, path.toCodeText.IsPlain

instance (config : Config) : Decidable config.HasUnicodeDirectory :=
  inferInstanceAs (Decidable (∀ path ∈ config.skeletonDir, _))

theorem dump_eq_ok {config : Config} (unicode : config.HasUnicodeDirectory) :
    config.dump = .ok (String.ofList (Json.indentedObject config.members)) := by
  have noSurrogates : (config.skeletonDir.bind fun path => path.toCodeText.surrogates?) = none :=
    Option.bind_eq_none_iff.mpr fun path isDirectory =>
      CodeText.surrogates?_eq_none_iff.mpr (unicode path isDirectory)
  rw [dump, noSurrogates]

theorem exists_dump_eq_error {config : Config} (surrogates : ¬config.HasUnicodeDirectory) :
    ∃ position found, config.dump = .error (.unserializable position found) := by
  cases scanned : config.skeletonDir.bind fun path => path.toCodeText.surrogates? with
  | none =>
      refine absurd (fun path isDirectory => ?_) surrogates
      exact CodeText.surrogates?_eq_none_iff.mp (Option.bind_eq_none_iff.mp scanned path isDirectory)
  | some found => exact ⟨found.1, found.2, by rw [dump, scanned]⟩

theorem areSettings_members {config : Config} (unicode : config.HasUnicodeDirectory) :
    Json.AreSettings config.members := by
  have text (name value : String) :
      (∃ chars, (CodeText.ofString name, Json.string value).1 = CodeText.ofChars chars) ∧
        (CodeText.ofString name, Json.string value).2.IsSetting := ⟨⟨name.toList, rfl⟩, .text value⟩
  intro member listed
  simp only [members, List.mem_cons, List.not_mem_nil, or_false] at listed
  rcases listed with rfl | rfl | rfl | rfl | rfl
  · cases isSome : config.skeletonDir with
    | none => exact ⟨⟨_, rfl⟩, .null⟩
    | some path =>
        have written := text "skeleton_dir" path.toCodeText.toStringReplacing
        rwa [Json.string, CodeText.ofString_toStringReplacing (unicode path isSome)] at written
  · exact text _ _
  · exact text _ _
  · exact text _ _
  · exact text _ _

theorem source_mem_members (config : Config) :
    (CodeText.ofString "source_extension", Json.string config.extensions.source) ∈ config.members :=
  List.mem_cons_of_mem _ List.mem_cons_self

theorem view_mem_members (config : Config) :
    (CodeText.ofString "view_extension", Json.string config.extensions.view) ∈ config.members :=
  List.mem_cons_of_mem _ (List.mem_cons_of_mem _ List.mem_cons_self)

theorem defaultFormat_mem_members (config : Config) :
    (CodeText.ofString "default_format", Json.string config.defaultFormat.text) ∈
      config.members := by
  simp [members]

theorem controllerDir_mem_members (config : Config) :
    (CodeText.ofString "controller_dir", Json.string config.controllerDir) ∈ config.members := by
  simp [members]

theorem distinct_members (config : Config) : (config.members.map Prod.fst).Nodup := by
  simp only [members, List.map_cons, List.map_nil]
  decide

theorem read_indentedObject_members {config : Config} (unicode : config.HasUnicodeDirectory) :
    Json.read Json.Limits.strict (Json.indentedObject config.members) =
      .ok (.object config.members) :=
  Json.read_indentedObject (by decide) (areSettings_members unicode) (List.cons_ne_nil _ _)
    config.distinct_members

/-- Is a configuration as a check leaves it? Its directory was read from a text, and its extensions
have a dot in front. -/
structure IsChecked (config : Config) : Prop where
  directory : ∀ path, config.skeletonDir = some path → path.IsRead
  source : IsDotted config.extensions.source
  view : IsDotted config.extensions.view

theorem exists_good_of_withDefault {α : Type} {name : String} {usual value : α} {check : Check α}
    {given : List (Value × Value)} (good : Check.withDefault name usual check given = .good value) :
    value = usual ∨ ∃ origin, check origin = .good value := by
  unfold Check.withDefault at good
  split at good
  · next origin _ =>
    right
    refine ⟨origin, ?_⟩
    cases checked : check origin with
    | good other =>
        rw [checked] at good
        exact good
    | bad objections =>
        rw [checked] at good
        cases good
  · left
    cases good
    rfl

theorem isRead_of_optional {origin : Value} {directory : Option CodePath}
    (good : Check.optional Check.codePath origin = .good directory) :
    ∀ path, directory = some path → path.IsRead := by
  rintro path rfl
  unfold Check.optional at good
  split at good
  · cases good
  · unfold Check.codePath at good
    split at good
    · cases good
      exact CodePath.isRead_ofCodeText _
    · cases good

theorem exists_of_checkWith {format : RoutingFormat} {given : List (Value × Value)}
    {config : Config} (good : checkWith format given = .good config) :
    ∃ source view,
      Check.withDefault "skeleton_dir" none (Check.optional Check.codePath) given =
        .good config.skeletonDir ∧
      config.extensions = ⟨withDot source, withDot view⟩ := by
  unfold checkWith at good
  cases directory : Check.withDefault "skeleton_dir" none (Check.optional Check.codePath) given <;>
  cases source : Check.withDefault "source_extension" ".php" Check.text given <;>
  cases view : Check.withDefault "view_extension" ".html.twig" Check.text given <;>
  cases controllers : Check.withDefault "controller_dir" ControllerDir.topLevel Check.text given <;>
  rw [directory, source, view, controllers] at good <;> cases good
  exact ⟨_, _, rfl, rfl⟩

theorem isChecked_of_ofMembers {given : List (Value × Value)} {config : Config}
    (made : ofMembers given = .ok config) : config.IsChecked := by
  unfold ofMembers at made
  cases negotiated : formatOf given with
  | error failure =>
      rw [negotiated] at made
      cases made
  | ok format =>
      rw [negotiated] at made
      cases good : checkWith format given with
      | bad objections =>
          change Except.mapError _ ((checkWith format given).toExcept title) = _ at made
          rw [good] at made
          cases made
      | good other =>
          change Except.mapError _ ((checkWith format given).toExcept title) = _ at made
          rw [good] at made
          cases made
          obtain ⟨source, view, directory, extensions⟩ := exists_of_checkWith good
          refine ⟨?_, ?_, ?_⟩
          · intro path isSome
            rcases exists_good_of_withDefault directory with usual | ⟨origin, checked⟩
            · rw [usual] at isSome
              cases isSome
            · exact isRead_of_optional checked path isSome
          · rw [extensions]
            exact isDotted_withDot source
          · rw [extensions]
            exact isDotted_withDot view

theorem negotiateValue_text (format : RoutingFormat) :
    RoutingFormat.negotiateValue (.string format.text) = .ok format := by
  have asked : RoutingFormat.negotiate format.text = format := by cases format <;> decide
  have filled : (Value.string format.text).counts = true := by cases format <;> decide
  have isKey : (Value.string format.text).isKey = true := rfl
  change RoutingFormat.negotiateValue (.text (CodeText.ofString format.text)) = _
  unfold Value.string at filled isKey
  rw [RoutingFormat.negotiateValue, filled, isKey]
  change Except.ok
    (((CodeText.ofString format.text).toString?.map RoutingFormat.negotiate).getD _) = _
  rw [CodeText.toString?_ofString, Option.map_some, asked]
  rfl

theorem get?_members {config : Config} {key : String} {json : Json}
    (listed : (CodeText.ofString key, json) ∈ config.members) :
    Value.get? key (Json.toEntries config.members) = some json.toValue := by
  have found : config.members.lookup (CodeText.ofString key) = some json :=
    Ordered.lookup_of_mem (distinct_members config) listed
  rw [Json.get?_toEntries, Json.get?, found]
  rfl

theorem ofMembers_members {config : Config} (checked : config.IsChecked) :
    ofMembers (Json.toEntries config.members) = .ok config := by
  have text (usual : String) {name value : String}
      (listed : (CodeText.ofString name, Json.string value) ∈ config.members) :
      Check.withDefault name usual Check.text (Json.toEntries config.members) = .good value := by
    rw [Check.withDefault, get?_members listed]
    exact congrArg (Checked.inside _) (Check.text_string value)
  have directory : Check.withDefault "skeleton_dir" none (Check.optional Check.codePath)
      (Json.toEntries config.members) = .good config.skeletonDir := by
    rw [Check.withDefault, get?_members (List.mem_cons_self)]
    cases isSome : config.skeletonDir with
    | none => rfl
    | some path =>
        have read := CodePath.ofCodeText_toCodeText (checked.directory path isSome)
        exact congrArg Checked.good (congrArg some read)
  have negotiated : formatOf (Json.toEntries config.members) = .ok config.defaultFormat := by
    rw [formatOf, get?_members config.defaultFormat_mem_members]
    exact mapError_eq_ok_iff.2 (negotiateValue_text config.defaultFormat)
  have source := text ".php" config.source_mem_members
  have view := text ".html.twig" config.view_mem_members
  have controllers := text ControllerDir.topLevel config.controllerDir_mem_members
  unfold ofMembers checkWith
  rw [negotiated, directory, source, view, controllers]
  change Except.ok (Config.mk config.skeletonDir ⟨withDot _, withDot _⟩ _ _) = _
  rw [withDot_of_isDotted checked.source, withDot_of_isDotted checked.view]

theorem parse_dump {config : Config} (checked : config.IsChecked)
    (unicode : config.HasUnicodeDirectory) :
    ∃ text, config.dump = .ok text ∧ parse text = .ok config := by
  refine ⟨_, dump_eq_ok unicode, ?_⟩
  rw [parse, String.toList_ofList, read_indentedObject_members unicode]
  exact ofMembers_members checked

theorem load_eq_parse {tree : FileTree} {path : Path} {content : Content} {text : String}
    (held : tree.readContent path = .ok content) (read : content.read = .ok text) :
    load tree path = parse text := by
  unfold load
  rw [held]
  change (content.read.mapError Failure.undecodable >>= parse) = _
  rw [read]
  rfl

/-- Saving makes the directories above the file, and then it writes what there is to write. -/
theorem perform_save {config : Config} {before middle : FileTree} {path : Path}
    (made : perform (FileTree.makeDirectories path.parent) before = (.ok (), middle)) :
    perform (config.save path) before = perform (do
      let text ← Work.ofExcept config.dump
      Work.onTree .access (FileTree.writeContent path (.text text))
      return path) middle := by
  rw [save, FileTree.perform_bind, Work.perform_onTree, made]
  rfl

theorem load_save {config : Config} (checked : config.IsChecked)
    (unicode : config.HasUnicodeDirectory) {before : FileTree} {path : Path}
    (writable : before.Writable path) :
    ∃ after, perform (config.save path) before = (.ok path, after) ∧
      load after path = .ok config := by
  obtain ⟨text, dumped, parsed⟩ := parse_dump checked unicode
  obtain ⟨after, written⟩ := writable.exists_writeFile_eq (.text text)
  obtain ⟨-, held⟩ := FileTree.grows_of_writeFile_eq_ok written
  obtain ⟨_, middle, made, put⟩ := FileTree.perform_bind_eq_ok written
  have read : (Content.text text).read = .ok text := by
    have lines : '\r' ∉ text.toList := by
      rw [← Except.ok.inj ((dump_eq_ok unicode).symm.trans dumped), String.toList_ofList]
      exact Json.return_not_mem_indentedObject (areSettings_members unicode)
    rw [Content.read, Text.normalizeNewlines_of_not_mem lines, String.ofList_toList]
  refine ⟨after, ?_, ?_⟩
  · rw [perform_save made, dumped, Work.perform_ofExcept_bind]
    dsimp only
    rw [FileTree.perform_bind, Work.perform_onTree, put]
    rfl
  · rw [load_eq_parse held read]
    exact parsed

/-- Without a written form nothing is written. -/
theorem save_eq_error {config : Config} {failure : Failure} (dumped : config.dump = .error failure)
    {before : FileTree} {path : Path} (writable : before.Writable path) :
    ∃ after, perform (config.save path) before = (.error failure, after) ∧
      before.Grows after [] path.parent.ways := by
  obtain ⟨_, _, written⟩ := writable
  obtain ⟨_, middle, made, _⟩ := FileTree.perform_bind_eq_ok written
  refine ⟨middle, ?_, ?_⟩
  · rw [perform_save made, dumped, Work.perform_ofExcept_bind]
  · have grown := FileTree.grows_makeDirectories path.parent before
    rwa [made] at grown

/-- The settings of a checked configuration are checked to the same one. If the text of its directory
is Unicode, its written form is read as itself, and it comes back as it was when it is saved and loaded,
wherever a file can be written. If not, there is no written form, and saving makes directories at
most. -/
theorem loads_as_saved {given : List (Value × Value)} {config : Config}
    (made : ofMembers given = .ok config) :
    (IsDotted config.extensions.source ∧ IsDotted config.extensions.view) ∧
      ofMembers (Json.toEntries config.members) = .ok config ∧
      (config.HasUnicodeDirectory →
        (∃ text, config.dump = .ok text ∧ parse text = .ok config) ∧
        ∀ (before : FileTree) (path : Path), before.Writable path →
          ∃ after, perform (config.save path) before = (.ok path, after) ∧
            load after path = .ok config) ∧
      (¬config.HasUnicodeDirectory → ∃ position surrogates,
        config.dump = .error (.unserializable position surrogates) ∧
        ∀ (before : FileTree) (path : Path), before.Writable path →
          ∃ after, perform (config.save path) before =
              (.error (.unserializable position surrogates), after) ∧
            before.Grows after [] path.parent.ways) := by
  have checked := isChecked_of_ofMembers made
  refine ⟨⟨checked.source, checked.view⟩, ofMembers_members checked, fun unicode => ?_,
    fun surrogates => ?_⟩
  · exact ⟨parse_dump checked unicode, fun _ _ => load_save checked unicode⟩
  · obtain ⟨position, found, dumped⟩ := exists_dump_eq_error surrogates
    exact ⟨position, found, dumped, fun _ _ => save_eq_error dumped⟩

/-- Settings with quotes, backslashes, controls and characters of other scripts. -/
def unusual : List (Value × Value) := [
  (.string "skeleton_dir", .string "//a//./\x22b\x22/"),
  (.string "source_extension", .string "p\x5ch\n\rp\x07"),
  (.string "view_extension", .string ""),
  (.string "default_format", .int 3),
  (.string "controller_dir", .string "é😀\t")]

theorem writable_empty : FileTree.empty.Writable (.ofString "c.json") := by
  have fits : (perform (FileTree.writeFile (.ofString "c.json") (.text "")) .empty).1.isOk = true := by
    decide +kernel
  obtain ⟨_, after, written⟩ := exists_eq_ok_of_fst_isOk fits
  exact ⟨_, after, written⟩

theorem unusual_loads_as_saved :
    ∃ config, ofMembers unusual = .ok config ∧ config.HasUnicodeDirectory ∧
      ofMembers (Json.toEntries config.members) = .ok config ∧
      (∃ text, config.dump = .ok text ∧ parse text = .ok config) ∧
      ∃ path after, FileTree.empty.Writable path ∧
        perform (config.save path) FileTree.empty = (.ok path, after) ∧
        load after path = .ok config := by
  have good : ((ofMembers unusual).toOption.any fun config =>
      decide config.HasUnicodeDirectory) = true := by decide +kernel
  obtain ⟨config, made, isUnicode⟩ := exists_eq_ok_of_any good
  have unicode := of_decide_eq_true isUnicode
  obtain ⟨-, again, holds, -⟩ := loads_as_saved made
  obtain ⟨parsed, saved⟩ := holds unicode
  obtain ⟨after, done, loaded⟩ := saved _ _ writable_empty
  exact ⟨config, made, unicode, again, parsed, _, after, writable_empty, done, loaded⟩

/-- A skeleton directory with an octet that is part of no character. -/
def unwritable : List (Value × Value) :=
  [(.string "skeleton_dir", .text (CodeText.ofString "sk" ++ [CodePoint.ofNat 0xDCFF]))]

/-- A checked configuration need not come back where a file can be written. -/
theorem not_loaded_of_surrogate :
    ∃ config, ofMembers unwritable = .ok config ∧ FileTree.empty.Writable (.ofString "c.json") ∧
      ¬∃ after, perform (config.save (.ofString "c.json")) FileTree.empty =
          (.ok (.ofString "c.json"), after) ∧
        load after (.ofString "c.json") = .ok config := by
  have good : ((ofMembers unwritable).toOption.any fun config =>
      decide ¬config.HasUnicodeDirectory) = true := by decide +kernel
  obtain ⟨config, made, surrogates⟩ := exists_eq_ok_of_any good
  obtain ⟨position, found, dumped⟩ := exists_dump_eq_error (of_decide_eq_true surrogates)
  obtain ⟨_, failed, -⟩ := save_eq_error dumped writable_empty
  refine ⟨config, made, writable_empty, ?_⟩
  rintro ⟨after, done, -⟩
  rw [failed] at done
  cases done

end Config

end EntityScaffold
