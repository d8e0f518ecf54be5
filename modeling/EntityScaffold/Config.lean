import EntityScaffold.Failure
import EntityScaffold.Json.Printer
import EntityScaffold.OutputPaths
import EntityScaffold.Rendering

/-
Configuration. Settings come from a JSON file or from environment variables; a setting that is
missing has its usual value. An extension gets a dot in front unless it is empty, and any requested
format is accepted. A configuration is saved in a form that loads as itself, unless the text of its
skeleton directory is one that no file can hold.
-/

namespace EntityScaffold

structure Config where
  skeletonDir : Option CodePath := none
  extensions : Extensions := {}
  defaultFormat : RoutingFormat := .yaml
  controllerDir : String := ControllerDir.topLevel
  deriving DecidableEq, Repr

namespace Config

def title : String := "Config"

/-- An extension with a dot in front. -/
def withDot (extension : String) : String :=
  match extension.toList with
  | [] => extension
  | '.' :: _ => extension
  | chars => String.ofList ('.' :: chars)

def formatOf (members : List (Value × Value)) : Except Failure RoutingFormat :=
  match Value.get? "default_format" members with
  | some value => (RoutingFormat.negotiateValue value).mapError Failure.unhashable
  | none => .ok .yaml

/-- Checks the settings; the format has been negotiated. -/
def checkWith (format : RoutingFormat) (members : List (Value × Value)) : Checked Config :=
  (fun skeletonDir source view controllerDir =>
      ⟨skeletonDir, ⟨withDot source, withDot view⟩, format, controllerDir⟩)
    <$> Check.withDefault "skeleton_dir" none (Check.optional Check.codePath) members
    <*> Check.withDefault "source_extension" ".php" Check.text members
    <*> Check.withDefault "view_extension" ".html.twig" Check.text members
    <*> Check.withDefault "controller_dir" ControllerDir.topLevel Check.text members

def ofMembers (members : List (Value × Value)) : Except Failure Config := do
  let format ← formatOf members
  ((checkWith format members).toExcept title).mapError .invalid

def parse (text : String) : Except Failure Config :=
  match Json.read Json.Limits.strict text.toList with
  | .ok json =>
    match json.toValue with
    | .map members => ofMembers members
    | _ => .error (.invalid ⟨title, [⟨[], .notObject⟩]⟩)
  | .error _ => .error (.invalid ⟨title, [⟨[], .notJson⟩]⟩)

def members (config : Config) : List (CodeText × Json) := [
  (CodeText.ofString "skeleton_dir", match config.skeletonDir with
    | some path => .text path.toCodeText
    | none => .null),
  (CodeText.ofString "source_extension", .string config.extensions.source),
  (CodeText.ofString "view_extension", .string config.extensions.view),
  (CodeText.ofString "default_format", .string config.defaultFormat.text),
  (CodeText.ofString "controller_dir", .string config.controllerDir)]

/-- The written form of a configuration. There is none for a directory whose text has surrogates. -/
def dump (config : Config) : Except Failure String :=
  match config.skeletonDir.bind fun path => path.toCodeText.surrogates? with
  | none => .ok (String.ofList (Json.indentedObject config.members))
  | some (position, surrogates) => .error (.unserializable position surrogates)

def load (tree : FileTree) (path : Path) : Except Failure Config := do
  let content ← (tree.readContent path).mapError .access
  let text ← content.read.mapError .undecodable
  parse text

/-- Saves a configuration, and gives the path of its file. The directories above the file are there
before the written form is. -/
def save (config : Config) (path : Path) : Work Path := do
  Work.onTree .access (FileTree.makeDirectories path.parent)
  let text ← Work.ofExcept config.dump
  Work.onTree .access (FileTree.writeContent path (.text text))
  return path

def environmentNames : List (String × String) := [
  ("CRUDGEN_SKELETON_DIR", "skeleton_dir"),
  ("CRUDGEN_SOURCE_EXTENSION", "source_extension"),
  ("CRUDGEN_VIEW_EXTENSION", "view_extension"),
  ("CRUDGEN_FORMAT", "default_format"),
  ("CRUDGEN_CONTROLLER_DIR", "controller_dir")]

/-- The configuration of an environment. An empty variable counts as missing. -/
def ofEnvironment (environment : List (String × String)) : Except Failure Config :=
  ofMembers (environmentNames.filterMap fun (variableName, setting) =>
    match environment.lookup variableName with
    | some value => if value = "" then none else some (.string setting, .string value)
    | none => none)

end Config

end EntityScaffold
