import EntityScaffold.FileTree.Access
import EntityScaffold.Json.Reader
import EntityScaffold.Metadata.Basic
import EntityScaffold.Yaml.Document

/-
Loading of entity metadata from a file. The suffix of the file's name decides between YAML and JSON;
any suffix but `.yaml` and `.yml`, in any case, means JSON.
-/

namespace EntityScaffold

/-- How loading ends without metadata: the file is at fault, or it could not be decoded or holds a
value that cannot be computed or has no text. -/
inductive LoadError where
  | metadata (source : Path) (fault : MetadataFault)
  | nulByte
  | undecodable (error : Text.Utf8.DecodeError)
  | noJson (fault : Json.Fault)
  | noYaml (fault : Yaml.LoadFault)
  | noText (fault : Value.TextFault)

namespace EntityMetadata

def isYamlName (path : Path) : Bool :=
  let suffix := String.ofList (Text.lower path.suffix.toList)
  suffix == ".yaml" || suffix == ".yml"

def parse (source : Path) (content : String) : Except LoadError Document :=
  if isYamlName source then
    match Yaml.load content.toList with
    | .ok document => .ok document
    | .error (.text .malformed) => .error (.metadata source (.unparsable ""))
    | .error fault => .error (.noYaml fault)
  else
    match Json.read Json.Limits.lax content.toList with
    | .ok json => .ok json.toDocument
    | .error fault =>
      if fault.isOfText then
        .error (.metadata source (.unparsable (" " ++ fault.message content.toList)))
      else .error (.noJson fault)

/-- The metadata that data from a named source declares. -/
def ofSource (source : Path) (document : Document) : Except LoadError EntityMetadata :=
  (ofDocument document).mapError fun error => match error with
    | .fault fault => .metadata source fault
    | .noText fault => .noText fault

def load (tree : FileTree) (source : Path) : Except LoadError EntityMetadata :=
  match tree.readContent source with
  | .error .nulByte => .error .nulByte
  | .error (.system error _) => .error (.metadata source (.unreadable error))
  | .ok content =>
    match content.read with
    | .error error => .error (.undecodable error)
    | .ok text => do
      let document ← parse source text
      ofSource source document

end EntityMetadata

end EntityScaffold
