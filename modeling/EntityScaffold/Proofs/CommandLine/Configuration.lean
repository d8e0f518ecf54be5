import EntityScaffold.Proofs.CommandLine.Report
import EntityScaffold.Proofs.Config.Saving
import EntityScaffold.Proofs.Json.Reading

/-
The configuration of a command. An environment always gives one. A file gives one, or is complained
about, unless its path holds a NUL, its content is no text, or it asks for a format by a list or an
object that is not empty: in these three cases the command ends in the middle of things. In no case has
the tree changed before the run begins.
-/

namespace EntityScaffold

open FileTree (perform)

/-! ### Settings -/

namespace Json

/-- A list or an object with something in it. -/
inductive IsFilled : Json → Prop where
  | list (item : Json) (rest : List Json) : IsFilled (.list (item :: rest))
  | object (member : CodeText × Json) (rest : List (CodeText × Json)) :
      IsFilled (.object (member :: rest))

/-- A format is asked for by any value but a list or an object that is filled. -/
theorem negotiateValue_eq_error_iff {json : Json} {kind : String} :
    RoutingFormat.negotiateValue json.toValue = .error kind ↔
      json.IsFilled ∧ kind = json.toValue.kindName := by
  have filled : json.IsFilled ↔ json.toValue.counts = true ∧ json.toValue.isKey = false := by
    constructor
    · intro isFilled
      cases isFilled <;> exact ⟨rfl, rfl⟩
    · rintro ⟨counts, noKey⟩
      cases json with
      | list items =>
          cases items with
          | nil => cases counts
          | cons item rest => exact .list item rest
      | object members =>
          cases members with
          | nil => cases counts
          | cons member rest => exact .object member rest
      | _ => cases noKey
  rw [filled]
  unfold RoutingFormat.negotiateValue
  cases json.toValue.counts with
  | false => simp
  | true =>
      cases json.toValue.isKey with
      | false => simp [eq_comm]
      | true =>
          simp only [Bool.not_true, Bool.false_eq_true, if_false]
          split <;> simp

end Json

namespace Config

variable {tree : FileTree} {path : Path} {failure : Failure} {members : List (Value × Value)}

/-- A configuration in a file ends loading by a failure that nobody expects. -/
inductive Breaks (tree : FileTree) (path : Path) : Failure → Prop where
  | nul (met : FileTree.hasNul path = true) : Breaks tree path (.access .nulByte)
  | undecodable {octets : List UInt8} {error : Text.Utf8.DecodeError}
      (held : tree.readContent path = .ok (.binary octets))
      (noText : Text.Utf8.decode octets = .error error) : Breaks tree path (.undecodable error)
  | unhashable {content : Content} {text : String} {settings : List (CodeText × Json)} {json : Json}
      (held : tree.readContent path = .ok content) (read : content.read = .ok text)
      (parsed : Json.read Json.Limits.strict text.toList = .ok (.object settings))
      (requested : (Json.object settings).get? "default_format" = some json)
      (filled : json.IsFilled) : Breaks tree path (.unhashable json.toValue.kindName)

/-- A failure that is expected: the file cannot be read, or it is invalid. -/
inductive IsExpected : Failure → Prop where
  | access (error : SystemError) (path : Path) : IsExpected (.access (.system error path))
  | invalid (error : ValidationError) : IsExpected (.invalid error)

theorem ofMembers_eq_error_iff :
    ofMembers members = .error failure ↔ formatOf members = .error failure ∨
      ∃ format error, formatOf members = .ok format ∧
        (checkWith format members).toExcept title = .error error ∧ failure = .invalid error := by
  unfold ofMembers
  rw [bind_eq_error_iff]
  refine or_congr_right (exists_congr fun format => ?_)
  rw [mapError_eq_error_iff, ← exists_and_left]
  simp only [eq_comm]

theorem formatOf_toEntries_eq_error_iff {settings : List (CodeText × Json)} :
    formatOf (Json.toEntries settings) = .error failure ↔
      ∃ json, (Json.object settings).get? "default_format" = some json ∧ json.IsFilled ∧
        failure = .unhashable json.toValue.kindName := by
  unfold formatOf
  rw [Json.get?_toEntries]
  cases (Json.object settings).get? "default_format" with
  | none => simp
  | some json =>
      simp only [Option.map_some, Option.some.injEq, exists_eq_left', mapError_eq_error_iff,
        Json.negotiateValue_eq_error_iff]
      constructor
      · rintro ⟨kind, ⟨filled, isKind⟩, same⟩
        exact ⟨filled, by rw [← same, isKind]⟩
      · rintro ⟨filled, same⟩
        exact ⟨_, ⟨filled, rfl⟩, same.symm⟩

theorem parse_eq_error_of_settings {text : String} {settings : List (CodeText × Json)}
    (parsed : Json.read Json.Limits.strict text.toList = .ok (.object settings)) :
    parse text = ofMembers (Json.toEntries settings) := by
  unfold parse
  rw [parsed]
  rfl

theorem load_eq_error_of_breaks (breaks : Breaks tree path failure) :
    load tree path = .error failure := by
  unfold load
  cases breaks with
  | nul met =>
      have refused : tree.readContent path = .error .nulByte :=
        FileTree.readContent_eq_nulByte_iff.mpr met
      exact bind_eq_error_iff.mpr (Or.inl (mapError_eq_error_iff.mpr ⟨_, refused, rfl⟩))
  | undecodable held noText =>
      have undecoded := Content.read_eq_error_iff.mpr ⟨_, rfl, noText⟩
      refine bind_eq_error_iff.mpr (Or.inr ⟨_, mapError_eq_ok_iff.mpr held, ?_⟩)
      exact bind_eq_error_iff.mpr (Or.inl (mapError_eq_error_iff.mpr ⟨_, undecoded, rfl⟩))
  | unhashable held read parsed requested filled =>
      refine bind_eq_error_iff.mpr (Or.inr ⟨_, mapError_eq_ok_iff.mpr held, ?_⟩)
      refine bind_eq_error_iff.mpr (Or.inr ⟨_, mapError_eq_ok_iff.mpr read, ?_⟩)
      rw [parse_eq_error_of_settings parsed, ofMembers_eq_error_iff]
      exact Or.inl (formatOf_toEntries_eq_error_iff.mpr ⟨_, requested, filled, rfl⟩)

/-- A configuration that does not break its loading is loaded, or fails as expected. -/
theorem breaks_of_load_eq_error (failed : load tree path = .error failure)
    (unexpected : ¬IsExpected failure) : Breaks tree path failure := by
  unfold load at failed
  rcases bind_eq_error_iff.mp failed with unread | ⟨content, held, failed⟩
  · obtain ⟨error, refused, same⟩ := mapError_eq_error_iff.mp unread
    subst same
    cases error with
    | nulByte => exact .nul (FileTree.readContent_eq_nulByte_iff.mp refused)
    | system error place => exact absurd (.access error place) unexpected
  · have held := mapError_eq_ok_iff.mp held
    rcases bind_eq_error_iff.mp failed with noText | ⟨text, read, failed⟩
    · obtain ⟨error, undecoded, same⟩ := mapError_eq_error_iff.mp noText
      subst same
      obtain ⟨octets, isBinary, failing⟩ := Content.read_eq_error_iff.mp undecoded
      exact .undecodable (isBinary ▸ held) failing
    · have read := mapError_eq_ok_iff.mp read
      unfold parse at failed
      cases parsed : Json.read Json.Limits.strict text.toList with
      | error fault =>
          rw [parsed] at failed
          cases failed
          exact absurd (.invalid _) unexpected
      | ok json =>
          rw [parsed] at failed
          cases json with
          | object settings =>
              rcases ofMembers_eq_error_iff.mp failed with unhashed | ⟨_, error, _, _, same⟩
              · obtain ⟨json, requested, filled, same⟩ := formatOf_toEntries_eq_error_iff.mp unhashed
                subst same
                exact .unhashable held read parsed requested filled
              · subst same
                exact absurd (.invalid error) unexpected
          | _ =>
              cases failed
              exact absurd (.invalid _) unexpected

/-! ### The environment -/

theorem mem_of_get?_eq_some {key : String} {value : Value}
    (found : Value.get? key members = some value) : ∃ entry ∈ members, entry.2 = value := by
  induction members with
  | nil => cases found
  | cons entry rest ih =>
      rw [Value.get?] at found
      split at found
      · exact ⟨entry, List.mem_cons_self, Option.some.inj found⟩
      · obtain ⟨other, member, same⟩ := ih found
        exact ⟨other, List.mem_cons_of_mem entry member, same⟩

/-- All values are text. -/
def AreTexts (members : List (Value × Value)) : Prop :=
  ∀ entry ∈ members, ∃ content, entry.2 = .string content

theorem AreTexts.exists_get?_eq {key : String} {value : Value} (texts : AreTexts members)
    (found : Value.get? key members = some value) : ∃ content, value = .string content := by
  obtain ⟨entry, member, same⟩ := mem_of_get?_eq_some found
  exact same ▸ texts entry member

theorem AreTexts.exists_withDefault_eq {α : Type} {check : Check α} (texts : AreTexts members)
    (takes : ∀ content, ∃ value, check (.string content) = .good value) (name : String) (usual : α) :
    ∃ value, Check.withDefault name usual check members = .good value := by
  unfold Check.withDefault
  cases found : Value.get? name members with
  | none => exact ⟨usual, rfl⟩
  | some value =>
      obtain ⟨content, isText⟩ := texts.exists_get?_eq found
      obtain ⟨checked, good⟩ := takes content
      refine ⟨checked, ?_⟩
      dsimp only
      rw [isText, good]
      rfl

theorem AreTexts.exists_formatOf_eq (texts : AreTexts members) :
    ∃ format, formatOf members = .ok format := by
  unfold formatOf
  cases found : Value.get? "default_format" members with
  | none => exact ⟨.yaml, rfl⟩
  | some value =>
      obtain ⟨content, isText⟩ := texts.exists_get?_eq found
      subst isText
      dsimp only
      unfold RoutingFormat.negotiateValue Value.string
      cases (Value.text _).counts with
      | false => exact ⟨_, rfl⟩
      | true => exact ⟨_, rfl⟩

/-- Settings that are texts make a configuration. -/
theorem AreTexts.exists_ofMembers_eq (texts : AreTexts members) :
    ∃ config, ofMembers members = .ok config := by
  have text (content : String) : ∃ value, Check.text (.string content) = .good value :=
    ⟨content, Check.text_string content⟩
  have path (content : String) :
      ∃ value, Check.optional Check.codePath (.string content) = .good value := ⟨_, rfl⟩
  obtain ⟨format, negotiated⟩ := texts.exists_formatOf_eq
  obtain ⟨skeletons, hasSkeletons⟩ := texts.exists_withDefault_eq path "skeleton_dir" none
  obtain ⟨source, hasSource⟩ := texts.exists_withDefault_eq text "source_extension" ".php"
  obtain ⟨view, hasView⟩ := texts.exists_withDefault_eq text "view_extension" ".html.twig"
  obtain ⟨directory, hasDirectory⟩ :=
    texts.exists_withDefault_eq text "controller_dir" ControllerDir.topLevel
  refine ⟨⟨skeletons, ⟨withDot source, withDot view⟩, format, directory⟩, ?_⟩
  unfold ofMembers checkWith
  rw [negotiated, hasSkeletons, hasSource, hasView, hasDirectory]
  rfl

/-- Every environment makes a configuration. -/
theorem exists_ofEnvironment_eq (environment : List (String × String)) :
    ∃ config, ofEnvironment environment = .ok config := by
  refine AreTexts.exists_ofMembers_eq fun entry member => ?_
  obtain ⟨name, _, taken⟩ := List.mem_filterMap.mp member
  dsimp only at taken
  split at taken
  · split at taken
    · cases taken
    · cases taken
      exact ⟨_, rfl⟩
  · cases taken

end Config

/-! ### Commands -/

namespace CommandLine.Command

variable {engine : Engine} {arguments : List String} {given : Given}
  {environment : List (String × String)} {before : FileTree} {failure : Failure}

/-- The configuration file of a command breaks its loading. -/
def BreaksOff (given : Given) (before : FileTree) (failure : Failure) : Prop :=
  ∃ source, given.filled? .config = some source ∧
    Config.Breaks before (Path.ofString source) failure

theorem configComplaint?_eq_none_iff :
    configComplaint? given failure = none ↔ ¬Config.IsExpected failure := by
  constructor
  · intro silent expected
    cases expected <;> cases silent
  · intro unexpected
    cases failure with
    | access error =>
        cases error with
        | nulByte => rfl
        | system error place => exact absurd (.access error place) unexpected
    | invalid error => exact absurd (.invalid error) unexpected
    | _ => rfl

/-- The command has no configuration and nothing to say about it just when its file breaks loading. -/
theorem configure_breaks_iff :
    (configure given environment before = .error failure ∧ configComplaint? given failure = none) ↔
      BreaksOff given before failure := by
  rw [configComplaint?_eq_none_iff]
  unfold configure BreaksOff
  cases given.filled? .config with
  | none =>
      obtain ⟨config, made⟩ := Config.exists_ofEnvironment_eq environment
      simp [made]
  | some source =>
      simp only [Option.some.injEq, exists_eq_left']
      constructor
      · rintro ⟨failed, unexpected⟩
        exact Config.breaks_of_load_eq_error failed unexpected
      · intro breaks
        refine ⟨Config.load_eq_error_of_breaks breaks, fun expected => ?_⟩
        cases breaks <;> cases expected

theorem perform_run (read : Reading.ofTexts arguments = .ok (.complete given)) :
    perform (run engine arguments environment) before =
      match configure given environment before with
      | .ok config => perform (execute engine given config) before
      | .error failure =>
        match configComplaint? given failure with
        | some complaint => perform (do
            return { exitCode := 1, output := ← printed (Console.error (.ofString complaint)) }) before
        | none => (.error failure, before) := by
  unfold run
  rw [read]
  dsimp only
  rw [Work.perform_get_bind]
  cases configure given environment before with
  | ok config => rfl
  | error failure =>
      dsimp only
      cases configComplaint? given failure <;> rfl

/-- A command has a configuration and runs with it, or it complains about its configuration and ends
with code 1, or the file of its configuration breaks loading, and then the command breaks off. In the
last two cases the tree is as it was, and without a file there is always a configuration. -/
theorem configured_or_reported_or_broken_off (engine : Engine)
    (read : Reading.ofTexts arguments = .ok (.complete given))
    (environment : List (String × String)) (before : FileTree) :
    ((∃ config, configure given environment before = .ok config ∧
        perform (run engine arguments environment) before =
          perform (execute engine given config) before) ∨
      (∃ failure complaint output, configure given environment before = .error failure ∧
        configComplaint? given failure = some complaint ∧
        Console.error (CodeText.ofString complaint) = .ok output ∧
        perform (run engine arguments environment) before =
          (.ok { exitCode := 1, output := output }, before)) ∨
      ∃ failure, BreaksOff given before failure) ∧
    (∀ failure, BreaksOff given before failure ↔
      configure given environment before = .error failure ∧ configComplaint? given failure = none) ∧
    (∀ failure, BreaksOff given before failure →
      perform (run engine arguments environment) before = (.error failure, before)) ∧
    (given.filled? .config = none → ∃ config, configure given environment before = .ok config) := by
  refine ⟨?_, fun _ => configure_breaks_iff.symm, fun failure breaks => ?_, fun noFile => ?_⟩
  · cases configured : configure given environment before with
    | ok config =>
        refine Or.inl ⟨config, rfl, ?_⟩
        rw [perform_run read, configured]
    | error failure =>
        cases complained : configComplaint? given failure with
        | none => exact Or.inr (Or.inr ⟨failure, configure_breaks_iff.mp ⟨configured, complained⟩⟩)
        | some complaint =>
            obtain ⟨output, prints⟩ := Console.exists_error_eq (CodeText.ofString complaint)
            refine Or.inr (Or.inl ⟨failure, complaint, output, rfl, complained, prints, ?_⟩)
            rw [perform_run read, configured]
            simp only [complained]
            rw [perform_printed_bind prints]
            rfl
  · obtain ⟨configured, silent⟩ := configure_breaks_iff.mpr breaks
    rw [perform_run read, configured]
    simp only [silent]
  · unfold configure
    rw [noFile]
    exact Config.exists_ofEnvironment_eq environment

/-- A configuration that asks for a list of formats. -/
def listedFormats : String := "\x7b\x22default_format\x22: [\x22yaml\x22]\x7d"

def asksForList (text : String) : Bool :=
  match Json.read Json.Limits.strict text.toList with
  | .ok (.object settings) =>
    match (Json.object settings).get? "default_format" with
    | some (.list (_ :: _)) => true
    | _ => false
  | _ => false

theorem breaks_of_asksForList {tree : FileTree} {path : Path} {text : String} {content : Content}
    (held : tree.readContent path = .ok content) (read : content.read = .ok text)
    (asks : asksForList text = true) :
    Config.Breaks tree path (.wrongKind "unhashable type: \x27list\x27") := by
  unfold asksForList at asks
  split at asks
  · next settings parsed =>
    split at asks
    · next item rest requested => exact .unhashable held read parsed requested (.list item rest)
    · cases asks
  · cases asks

def configuredArguments : List String :=
  ["Post", "--bundle-path", "b", "--bundle-namespace", "Acme", "--metadata", "m.json", "--config",
    "c.json"]

theorem broken_off_at_listed_formats :
    perform (run .simple configuredArguments []) ⟨[(["c.json"], .file (.text listedFormats))]⟩ =
      (.error (.wrongKind "unhashable type: \x27list\x27"),
        ⟨[(["c.json"], .file (.text listedFormats))]⟩) := by
  have accepted : (Reading.ofTexts configuredArguments).toOption =
      some (.complete {
        entity := some "Post"
        values := [(.config, "c.json"), (.metadata, "m.json"), (.bundleNameSpace, "Acme"),
          (.bundlePath, "b")] }) := by decide +kernel
  have read := eq_ok_of_toOption_eq_some accepted
  have held : (FileTree.readContent ⟨[(["c.json"], .file (.text listedFormats))]⟩
      (.ofString "c.json")).toOption = some (.text listedFormats) := by decide +kernel
  have unchanged : (Content.read (.text listedFormats)).toOption = some listedFormats := by
    decide +kernel
  have breaks := breaks_of_asksForList (eq_ok_of_toOption_eq_some held)
    (eq_ok_of_toOption_eq_some unchanged) (by decide +kernel)
  exact (configured_or_reported_or_broken_off .simple read [] _).2.2.1 _ ⟨"c.json", rfl, breaks⟩

end CommandLine.Command

end EntityScaffold
