import EntityScaffold.FileTree.Access
import EntityScaffold.Skeleton.Packaged
import EntityScaffold.Skeleton.Reader
import EntityScaffold.Skeleton.Render

/-
Libraries of skeletons: the packaged catalog, or a directory whose skeletons an engine renders. What
the skeletons of a directory may say, and what they may do, is up to the engine. A skeleton is asked
for by a name with slashes; its file has the suffix `.j2`. Empty components of a name and components
that name their own directory are dropped, and a name that leaves the library is not found.
-/

namespace EntityScaffold

namespace Skeleton

/-- Skeletons by their names. -/
abbrev Source := String → Except RenderFault Skeleton

/-- The components of a skeleton's file, unless its name leaves the library. -/
def fileParts? (name : String) : Option (List String) :=
  let pieces := Text.splitWhere (· == '/') (name.toList ++ ".j2".toList)
  if pieces.contains ['.', '.'] then none
  else some ((pieces.filter fun piece => piece ≠ [] && piece ≠ ['.']).map String.ofList)

/-- What a skeleton that asks what it is is told. -/
def identity (name : String) : Datum :=
  .builtIn "TemplateReference" ("<TemplateReference " ++ Text.quoted (name ++ ".j2") ++ ">")

/-- Renders the skeleton of a name in a scope; `included` renders the skeletons that it includes. -/
def renderWith (included : CodeText → Scope → Except RenderFault CodeText) (source : Source)
    (name : String) (scope : Scope) : Except RenderFault CodeText := do
  let skeleton ← source name
  let asks := firstUse? selfName skeleton = some true
  let scope := if asks then scope.assign selfName (identity name) else scope
  return (← renderPieces included scope skeleton).1

/-- Renders the skeleton of a name with the given data. A skeleton that it includes sees the same
data and includes no other. What a skeleton is told about itself cannot be among the data. -/
def renderNamed (source : Source) (name : String) (bindings : Bindings) :
    Except RenderFault CodeText := do
  if (bindings.lookup selfName).isSome then
    discard (source name)
    throw (.wrongKind "Template.render() got multiple values for argument 'self'")
  let nested := renderWith (fun _ _ => .error .notFound) source
  renderWith (fun name scope => nested name.toStringReplacing ⟨scope.bindings, false, false⟩) source
    name ⟨bindings, false, false⟩

def Packaged.source : Source := fun name =>
  match fileParts? name with
  | none => .error .notFound
  | some parts =>
    match Packaged.find? ("/".intercalate parts) with
    | some skeleton => .ok skeleton
    | none => .error .notFound

end Skeleton

/-- What renders the skeletons of a directory. It is asked for a skeleton by its name and gets the
data; it may look at the tree, and it may change it. -/
structure Engine where
  render : CodePath → String → Bindings → FileTree →
    Except Skeleton.RenderFault CodeText × FileTree

namespace Engine

/-- The text of a skeleton file, if there is such a file. -/
def readFile (tree : FileTree) (path : Path) : Except Skeleton.RenderFault String :=
  match tree.readContent path with
  | .error _ => .error .notFound
  | .ok content =>
    match content.read with
    | .ok text => .ok text
    | .error error => .error (.undecodable error)

/-- The skeletons in the files of a directory. -/
def source (directory : CodePath) (tree : FileTree) : Skeleton.Source := fun name =>
  match directory.toPath?, Skeleton.fileParts? name with
  | some path, some parts => do
    Skeleton.read (← readFile tree ⟨path.root, path.parts ++ parts⟩)
  | _, _ => .error .notFound

/-- The engine for skeletons that are written in the language of the packaged ones. -/
def simple : Engine where
  render directory name bindings tree :=
    (Skeleton.renderNamed (source directory tree) name bindings, tree)

end Engine

inductive Library where
  | packaged
  | directory (path : CodePath) (engine : Engine)

namespace Library

def place : Library → CodeText
  | .packaged => CodeText.ofString "<packaged>"
  | .directory path _ => path.toCodeText

/-- The library that is used unless a directory is given. -/
def ofDirectory? (engine : Engine) (directory : Option CodePath) : Library :=
  match directory with
  | some path => .directory path engine
  | none => .packaged

/-- Renders the skeleton of a name with the given data. The tree comes back as rendering left it. -/
def render (library : Library) (tree : FileTree) (name : String) (bindings : Bindings) :
    Except Skeleton.RenderFault CodeText × FileTree :=
  match library with
  | .packaged => (Skeleton.renderNamed Skeleton.Packaged.source name bindings, tree)
  | .directory path engine => engine.render path name bindings tree

end Library

end EntityScaffold
