import EntityScaffold.Console.Report
import EntityScaffold.Metadata.Load
import EntityScaffold.Skeleton.Library

/-
Failures. The scaffolder has six errors of its own, each with a message and with the files that were
written before it. Other failures come from the arguments or from the file system and end a run as
well.
-/

namespace EntityScaffold

inductive ScaffoldError where
  | invalidEntityName (entity : String)
  | multiplePrimaryKeys (identifier : List CodeText)
  | missingIdPrimaryKey
  | controllerAlreadyExists (path : Path)
  | render (skeleton : String) (path : Option Path) (reason : CodeText)
  | metadata (source : Path) (fault : MetadataFault)
  deriving DecidableEq

namespace ScaffoldError

def message : ScaffoldError → CodeText
  | .invalidEntityName entity =>
    CodeText.ofString
      ("The entity name \"" ++ entity ++ "\" must end with a class name, e.g. \"Blog.Post\".")
  | .multiplePrimaryKeys identifier =>
    CodeText.ofString
        "The CRUD generator does not support entity classes with multiple primary keys (" ++
      Text.joinWith (CodeText.ofString ", ") identifier ++ CodeText.ofString ")."
  | .missingIdPrimaryKey =>
    CodeText.ofString "The CRUD generator expects the entity to have a primary key field named \"id\"."
  | .controllerAlreadyExists path =>
    CodeText.ofString ("Unable to generate the controller as it already exists: " ++ path.toString)
  | .render skeleton path reason =>
    let target := match path with
      | some path => " -> " ++ path.toString
      | none => ""
    CodeText.ofString ("Failed to render '" ++ skeleton ++ "'" ++ target ++ ": ") ++ reason
  | .metadata source fault =>
    CodeText.ofString ("Invalid entity metadata in " ++ source.toString ++ ": " ++ fault.reason)

end ScaffoldError

inductive Failure where
  | scaffold (error : ScaffoldError) (written : List Path)
  | invalid (error : ValidationError)
  | access (error : AccessError)
  | undecodable (error : Text.Utf8.DecodeError)
  /-- Text with surrogates at a position, which no file can hold. -/
  | unencodable (position : Nat) (surrogates : List CodePoint)
  /-- Settings with such a text, which no data file can hold. -/
  | unserializable (position : Nat) (surrogates : List CodePoint)
  /-- Data of a kind that does not allow what is done to them. -/
  | wrongKind (reason : String)
  | noJson (fault : Json.Fault)
  | noYaml (fault : Yaml.LoadFault)
  | noText (fault : Value.TextFault)
  | unprintable (error : Console.MarkupError)
  /-- A row of a table whose name is a value of this kind. -/
  | noRowName (kind : String)
  /-- Something of another kind that rendering a skeleton ran into. -/
  | other (kind : String) (message : CodeText)

namespace Failure

/-- An error of the scaffolder before anything was written. -/
def ofError (error : ScaffoldError) : Failure := .scaffold error []

/-- The same failure with the files written before it. -/
def withWritten (written : List Path) : Failure → Failure
  | .scaffold error _ => .scaffold error written
  | failure => failure

def ofLoadError : LoadError → Failure
  | .metadata source fault => .ofError (.metadata source fault)
  | .nulByte => .access .nulByte
  | .undecodable error => .undecodable error
  | .noJson fault => .noJson fault
  | .noYaml fault => .noYaml fault
  | .noText fault => .noText fault

/-- A fault of a skeleton is an error of the scaffolder; other faults end the run as they are. -/
def ofRenderFault (library : Library) (skeleton : String) : Skeleton.RenderFault → Failure
  | .wrongKind reason => .wrongKind reason
  | .undecodable error => .undecodable error
  | .noText fault => .noText fault
  | .other kind message => .other kind message
  | fault => .ofError (.render skeleton none (fault.reason library.place))

def ofTableFault : Console.TableFault → Failure
  | .unprintable error => .unprintable error
  | .noText fault => .noText fault
  | .noName kind => .noRowName kind

def unhashable (kind : String) : Failure :=
  .wrongKind ("unhashable type: '" ++ kind ++ "'")

end Failure

/-- The message of an error of the file system, with the path it is about. -/
def SystemError.message (error : SystemError) (path : Path) : String :=
  "[Errno " ++ toString error.code ++ "] " ++ error.reason ++ ": " ++ Text.quoted path.toString

def AccessError.message : AccessError → String
  | .nulByte => "embedded null byte"
  | .system error path => error.message path

def Value.TextFault.message : Value.TextFault → String
  | .integerTooLong =>
    "Exceeds the limit (4300 digits) for integer string conversion; use sys.set_int_max_str_digits() to increase the limit"
  | .tooDeep => ""

/-- What is said about surrogates at a position of a text that is written to a file. -/
def unencodableMessage (position : Nat) (surrogates : List CodePoint) : String :=
  let place := match surrogates with
    | [surrogate] =>
      "character '\\u" ++ String.ofList (Text.Utf8.hexDigits 4 surrogate.value) ++
        "' in position " ++ toString position
    | _ =>
      "characters in position " ++ toString position ++ "-" ++
        toString (position + surrogates.length - 1)
  "'utf-8' codec can't encode " ++ place ++ ": surrogates not allowed"

def Failure.message : Failure → CodeText
  | .scaffold error _ => error.message
  | .invalid error => CodeText.ofString error.headline
  | .access error => CodeText.ofString error.message
  | .undecodable error => CodeText.ofString error.message
  | .unencodable position surrogates =>
    CodeText.ofString (unencodableMessage position surrogates)
  | .unserializable position surrogates =>
    CodeText.ofString
      ("Error serializing to JSON: UnicodeEncodeError: " ++ unencodableMessage position surrogates)
  | .wrongKind reason => CodeText.ofString reason
  | .noJson fault => CodeText.ofString (fault.message [])
  | .noYaml fault => CodeText.ofString fault.message
  | .noText fault => CodeText.ofString fault.message
  | .unprintable error => error.message
  | .noRowName kind =>
    CodeText.ofString
      ("unable to render " ++ kind ++ "; a string or other renderable object is required")
  | .other _ message => message

end EntityScaffold
