import EntityScaffold.FileTree.Basic
import EntityScaffold.Validation
import EntityScaffold.Value.Printed

/-
Entity metadata: the fields of an entity with their types, in order, and the names of its identifier
fields. Metadata is declared in a data file, where fields are a mapping from names to types or a
list of entries that each have a name; names and types that are not text are taken by their written
form.
-/

namespace EntityScaffold

/-- Metadata of an entity. Names and types come from data files, where text need not be valid
Unicode. -/
structure EntityMetadata where
  fields : List (CodeText × CodeText) := []
  identifier : List CodeText := []
  deriving DecidableEq

inductive MetadataFault where
  | unreadable (error : SystemError)
  | unparsable (reason : String)
  | notAMapping
  | fieldsNotListed
  | entryWithoutName (entry : String)
  | invalid (error : ValidationError)
  deriving DecidableEq, Repr

namespace MetadataFault

def reason : MetadataFault → String
  | .unreadable error => error.reason
  | .unparsable reason => "cannot parse file:" ++ reason
  | .notAMapping => "top-level value must be a mapping"
  | .fieldsNotListed => "\x27fields\x27 must be a mapping or a list"
  | .entryWithoutName entry => "field entry without a name: " ++ entry
  | .invalid error => error.headline

end MetadataFault

/-- How reading metadata from data ends without metadata. Data may hold values that have no text. -/
inductive MetadataError where
  | fault (fault : MetadataFault)
  | noText (fault : Value.TextFault)
  deriving DecidableEq, Repr

namespace EntityMetadata

/-- Checks metadata given as a record; both members may be missing. -/
def check : Check EntityMetadata :=
  Check.record "EntityMetadata" fun members =>
    EntityMetadata.mk
      <$> Check.withDefault "fields" [] (Check.mapping Check.codeText) members
      <*> Check.withDefault "identifier" [] (Check.list Check.codeText) members

def textOf (document : Document) (value : Value) : Except MetadataError CodeText :=
  (value.shown document.loops).mapError .noText

/-- The fields of a mapping: the written forms of its keys and values. -/
def fieldsOfMapping (document : Document) (entries : List (Value × Value)) :
    Except MetadataError (List (CodeText × CodeText)) := do
  let fields ← entries.mapM fun (name, type) => do
    return (← textOf document name, ← textOf document type)
  return Ordered.ofList fields

/-- The type of a field whose entry names none. -/
def usualType : CodeText := CodeText.ofString "string"

/-- The complaint about an entry of a list that names no field. -/
def nameless {α : Type} (document : Document) (entry : Value) : Except MetadataError α := do
  let written ← (entry.quoted document.loops).mapError MetadataError.noText
  throw (.fault (.entryWithoutName (String.ofList written)))

/-- The field of one entry of a list, which has to be a mapping with a name. -/
def fieldOfEntry (document : Document) (entry : Value) :
    Except MetadataError (CodeText × CodeText) :=
  match document.resolve entry with
  | .map members =>
    match Value.get? "name" members with
    | none => nameless document entry
    | some name => do
      let name ← textOf document name
      let type ← match Value.get? "type" members with
        | some type => textOf document type
        | none => pure usualType
      return (name, type)
  | _ => nameless document entry

def fieldsOf (document : Document) (declared : Value) :
    Except MetadataError (List (CodeText × CodeText)) :=
  match document.resolve declared with
  | .map entries => fieldsOfMapping document entries
  | .list entries => (entries.mapM (fieldOfEntry document)).map Ordered.ofList
  | value => if value.counts then .error (.fault .fieldsNotListed) else .ok []

/-- The identifier of a document: one name, or a list of names, or `id` if nothing is said. -/
def checkIdentifier (document : Document) (declared : Option Value) : Checked (List CodeText) :=
  match declared with
  | none => .good [CodeText.ofString "id"]
  | some value =>
    match document.resolve value with
    | .text name => .good [name]
    | other => (Check.list Check.codeText other).inside (.member "identifier")

def ofDocument (document : Document) : Except MetadataError EntityMetadata := do
  match document.resolve document.root with
  | .map members =>
    let fields ← match Value.get? "fields" members with
      | some declared => fieldsOf document declared
      | none => pure []
    match (checkIdentifier document (Value.get? "identifier" members)).toExcept "EntityMetadata" with
    | .ok identifier => return ⟨fields, identifier⟩
    | .error error => throw (.fault (.invalid error))
  | _ => throw (.fault .notAMapping)

end EntityMetadata

end EntityScaffold
