import EntityScaffold.Metadata.Load
import EntityScaffold.Proofs.FileTree.Limits
import EntityScaffold.Proofs.Metadata.Untold
import EntityScaffold.Proofs.Yaml.Faults

/-
Loading of metadata. A file declares metadata, or it is complained about, unless its path holds a NUL,
its content is no text, or the data in it is of a kind or a size that the readers give up on. JSON data
only does so by a number of too many digits or by brackets inside each other, which one sees in the
text, and YAML data that keeps the rules of YAML by a scalar without a value.
-/

namespace EntityScaffold.EntityMetadata

variable {tree : FileTree} {source : Path} {error : LoadError}

/-- Loading ends with a failure that is no complaint about the file. -/
inductive Breaks (tree : FileTree) (source : Path) : LoadError → Prop where
  | nul (met : FileTree.hasNul source = true) : Breaks tree source .nulByte
  | undecodable {octets : List UInt8} {error : Text.Utf8.DecodeError}
      (held : tree.readContent source = .ok (.binary octets))
      (noText : Text.Utf8.decode octets = .error error) : Breaks tree source (.undecodable error)
  | json {content : Content} {text : String} {fault : Json.Fault}
      (held : tree.readContent source = .ok content) (read : content.read = .ok text)
      (named : isYamlName source = false)
      (failed : Json.read Json.Limits.lax text.toList = .error fault)
      (ofSize : fault.isOfText = false) : Breaks tree source (.noJson fault)
  | yaml {content : Content} {text : String} {fault : Yaml.LoadFault}
      (held : tree.readContent source = .ok content) (read : content.read = .ok text)
      (named : isYamlName source = true) (failed : Yaml.load text.toList = .error fault)
      (wellFormed : fault ≠ .malformed) : Breaks tree source (.noYaml fault)
  | untold {content : Content} {text : String} {document : Document} {fault : Value.TextFault}
      (held : tree.readContent source = .ok content) (read : content.read = .ok text)
      (named : isYamlName source = true) (loaded : Yaml.load text.toList = .ok document)
      (untold : Untold document fault) : Breaks tree source (.noText fault)

theorem load_of_text {content : Content} {text : String}
    (held : tree.readContent source = .ok content) (read : content.read = .ok text) :
    load tree source = (parse source text >>= ofSource source) := by
  unfold load
  rw [held]
  dsimp only
  rw [read]

theorem ofSource_eq_error_iff {document : Document} :
    ofSource source document = .error error ↔
      (∃ fault, ofDocument document = .error (.fault fault) ∧ error = .metadata source fault) ∨
        ∃ fault, Untold document fault ∧ error = .noText fault := by
  unfold ofSource
  simp only [mapError_eq_error_iff, ← ofDocument_eq_noText_iff]
  constructor
  · rintro ⟨origin, failed, rfl⟩
    cases origin with
    | fault fault => exact Or.inl ⟨fault, failed, rfl⟩
    | noText fault => exact Or.inr ⟨fault, failed, rfl⟩
  · rintro (⟨fault, failed, rfl⟩ | ⟨fault, failed, rfl⟩)
    · exact ⟨.fault fault, failed, rfl⟩
    · exact ⟨.noText fault, failed, rfl⟩

section

variable {text : String} {document : Document}

theorem parse_yaml_eq_ok_iff (named : isYamlName source = true) :
    parse source text = .ok document ↔ Yaml.load text.toList = .ok document := by
  unfold parse
  rw [if_pos named]
  split
  · next loaded => rw [loaded]; simp
  · next failed => rw [failed]; simp
  · next failed => rw [failed]; simp

theorem parse_yaml_eq_error_iff (named : isYamlName source = true) :
    parse source text = .error error ↔
      (Yaml.load text.toList = .error .malformed ∧ error = .metadata source (.unparsable "")) ∨
        ∃ fault, Yaml.load text.toList = .error fault ∧ fault ≠ .malformed ∧
          error = .noYaml fault := by
  unfold parse
  rw [if_pos named]
  split
  · next loaded => rw [loaded]; simp
  · next failed => rw [failed]; simp [Yaml.LoadFault.malformed, eq_comm]
  · next fault other failed =>
    rw [failed]
    have wellFormed : fault ≠ .malformed := fun same => other same
    simp [wellFormed, eq_comm]

theorem parse_json_eq_ok_iff (named : isYamlName source = false) :
    parse source text = .ok document ↔
      ∃ json, Json.read Json.Limits.lax text.toList = .ok json ∧ json.toDocument = document := by
  unfold parse
  rw [named, if_neg Bool.false_ne_true]
  split
  · next read => rw [read]; simp
  · next fault failed => rw [failed]; cases fault.isOfText <;> simp

theorem parse_json_eq_error_iff (named : isYamlName source = false) :
    parse source text = .error error ↔ ∃ fault,
      Json.read Json.Limits.lax text.toList = .error fault ∧
        ((fault.isOfText = true ∧
            error = .metadata source (.unparsable (" " ++ fault.message text.toList))) ∨
          (fault.isOfText = false ∧ error = .noJson fault)) := by
  unfold parse
  rw [named, if_neg Bool.false_ne_true]
  split
  · next read => rw [read]; simp
  · next fault failed =>
    rw [failed]
    simp only [Except.error.injEq, exists_eq_left']
    cases ofText : fault.isOfText with
    | true => simpa using eq_comm
    | false => simpa using eq_comm

end

theorem load_eq_error_of_breaks (breaks : Breaks tree source error) :
    load tree source = .error error := by
  cases breaks with
  | nul met =>
      unfold load
      rw [FileTree.readContent_eq_nulByte_iff.mpr met]
  | undecodable held noText =>
      unfold load
      rw [held]
      dsimp only
      rw [Content.read_eq_error_iff.mpr ⟨_, rfl, noText⟩]
  | json held read named failed ofSize =>
      rw [load_of_text held read, bind_eq_error_iff, parse_json_eq_error_iff named]
      exact Or.inl ⟨_, failed, Or.inr ⟨ofSize, rfl⟩⟩
  | yaml held read named failed wellFormed =>
      rw [load_of_text held read, bind_eq_error_iff, parse_yaml_eq_error_iff named]
      exact Or.inl (Or.inr ⟨_, failed, wellFormed, rfl⟩)
  | untold held read named loaded untold =>
      rw [load_of_text held read, bind_eq_error_iff]
      exact Or.inr ⟨_, (parse_yaml_eq_ok_iff named).mpr loaded,
        ofSource_eq_error_iff.mpr (Or.inr ⟨_, untold, rfl⟩)⟩

theorem read_lax_endsWell (text : List Char) :
    Json.EndsWell Json.Limits.lax.depth text (Json.read Json.Limits.lax text) :=
  Json.read_endsWell rfl text

section

variable {content : Content} {text : String}

theorem breaks_of_yaml_eq_error (held : tree.readContent source = .ok content)
    (read : content.read = .ok text) (named : isYamlName source = true)
    (failed : (parse source text >>= ofSource source) = .error error)
    (noComplaint : ∀ fault, error ≠ .metadata source fault) : Breaks tree source error := by
  rw [bind_eq_error_iff, parse_yaml_eq_error_iff named] at failed
  rcases failed with (⟨_, rfl⟩ | ⟨fault, failed, wellFormed, rfl⟩) | ⟨document, parsed, failed⟩
  · exact absurd rfl (noComplaint _)
  · exact .yaml held read named failed wellFormed
  · rcases ofSource_eq_error_iff.mp failed with ⟨fault, _, rfl⟩ | ⟨fault, untold, rfl⟩
    · exact absurd rfl (noComplaint fault)
    · exact .untold held read named ((parse_yaml_eq_ok_iff named).mp parsed) untold

theorem breaks_of_json_eq_error (held : tree.readContent source = .ok content)
    (read : content.read = .ok text) (named : isYamlName source = false)
    (failed : (parse source text >>= ofSource source) = .error error)
    (noComplaint : ∀ fault, error ≠ .metadata source fault) : Breaks tree source error := by
  rw [bind_eq_error_iff, parse_json_eq_error_iff named] at failed
  rcases failed with ⟨fault, failed, ⟨_, rfl⟩ | ⟨ofSize, rfl⟩⟩ | ⟨document, parsed, failed⟩
  · exact absurd rfl (noComplaint _)
  · exact .json held read named failed ofSize
  · obtain ⟨json, jsonRead, rfl⟩ := (parse_json_eq_ok_iff named).mp parsed
    have within := read_lax_endsWell text.toList
    rw [jsonRead] at within
    rcases ofSource_eq_error_iff.mp failed with ⟨fault, _, rfl⟩ | ⟨fault, untold, rfl⟩
    · exact absurd rfl (noComplaint fault)
    · exact absurd untold (not_untold_of_isWithin within)

end

theorem breaks_of_load_eq_error (failed : load tree source = .error error)
    (noComplaint : ∀ fault, error ≠ .metadata source fault) : Breaks tree source error := by
  cases held : tree.readContent source with
  | error refusal =>
      unfold load at failed
      rw [held] at failed
      cases refusal with
      | nulByte =>
          cases failed
          exact .nul (FileTree.readContent_eq_nulByte_iff.mp held)
      | system reason place =>
          cases failed
          exact absurd rfl (noComplaint _)
  | ok content =>
      cases read : content.read with
      | error undecoded =>
          unfold load at failed
          rw [held] at failed
          dsimp only at failed
          rw [read] at failed
          cases failed
          obtain ⟨octets, rfl, noText⟩ := Content.read_eq_error_iff.mp read
          exact .undecodable held noText
      | ok text =>
          rw [load_of_text held read] at failed
          cases named : isYamlName source with
          | true => exact breaks_of_yaml_eq_error held read named failed noComplaint
          | false => exact breaks_of_json_eq_error held read named failed noComplaint

theorem breaks_iff : Breaks tree source error ↔
    load tree source = .error error ∧ ∀ fault, error ≠ .metadata source fault := by
  refine ⟨fun breaks => ⟨load_eq_error_of_breaks breaks, fun fault same => ?_⟩,
    fun failed => breaks_of_load_eq_error failed.1 failed.2⟩
  subst same
  cases breaks

/-- What a file holds as text. -/
def HoldsText (tree : FileTree) (source : Path) (text : String) : Prop :=
  ∃ content, tree.readContent source = .ok content ∧ content.read = .ok text

/-- A file gives metadata, or it is complained about, or it breaks loading, which then ends with a
failure of another kind. JSON data breaks loading only where there are too many digits in a row or too
many opening brackets in the text; YAML data that breaks no rule of YAML, only where a scalar of the
text has no value of a type, or where a moment is asked of a collection. -/
theorem loaded_or_faulted_or_broken_off (tree : FileTree) (source : Path) :
    ((∃ metadata, load tree source = .ok metadata) ∨
      (∃ fault, load tree source = .error (.metadata source fault)) ∨
      ∃ error, Breaks tree source error) ∧
    (∀ error, Breaks tree source error ↔
      load tree source = .error error ∧ ∀ fault, error ≠ .metadata source fault) ∧
    (∀ fault, Breaks tree source (.noJson fault) → ∃ text, HoldsText tree source text ∧
      (Json.HasLongRun text.toList ∨ Json.Limits.lax.depth < Json.openings text.toList)) ∧
    (∀ fault, Breaks tree source (.noYaml fault) → ∃ text, HoldsText tree source text ∧
      Yaml.IsBlamed (Yaml.IsScalarIn text.toList) fault) := by
  refine ⟨?_, fun error => breaks_iff, fun fault breaks => ?_, fun fault breaks => ?_⟩
  · cases loaded : load tree source with
    | ok metadata => exact Or.inl ⟨metadata, rfl⟩
    | error error =>
        by_cases complained : ∃ fault, error = .metadata source fault
        · obtain ⟨fault, rfl⟩ := complained
          exact Or.inr (Or.inl ⟨fault, rfl⟩)
        · refine Or.inr (Or.inr ⟨error, breaks_iff.mpr ⟨loaded, fun fault same => ?_⟩⟩)
          exact complained ⟨fault, same⟩
  · cases breaks with
    | @json content text _ held read _ failed ofSize =>
        refine ⟨text, ⟨content, held, read⟩, ?_⟩
        have caused := read_lax_endsWell text.toList
        rw [failed] at caused
        cases fault with
        | tooManyDigits count => exact Or.inl caused
        | tooDeep => exact Or.inr caused
        | _ => cases ofSize
  · cases breaks with
    | @yaml content text _ held read _ failed _ =>
        exact ⟨text, ⟨content, held, read⟩, Yaml.isBlamed_of_load_eq_error failed⟩

theorem broken_off_at_stray_octet :
    load ⟨[(["post.json"], .file (.binary [0xFF]))]⟩ (.ofString "post.json") =
      .error (.undecodable ⟨.invalidStart, 0xFF, 0, 1⟩) := by
  have held : (FileTree.readContent ⟨[(["post.json"], .file (.binary [0xFF]))]⟩
      (.ofString "post.json")).toOption = some (.binary [0xFF]) := by decide +kernel
  have undecoded : Text.Utf8.decode [0xFF] = .error ⟨.invalidStart, 0xFF, 0, 1⟩ := by
    rw [Text.Utf8.decode, Text.Utf8.decodeFrom]
    rfl
  have breaks := Breaks.undecodable (eq_ok_of_toOption_eq_some held) undecoded
  exact (((loaded_or_faulted_or_broken_off _ _).2.1 _).mp breaks).1

end EntityScaffold.EntityMetadata
