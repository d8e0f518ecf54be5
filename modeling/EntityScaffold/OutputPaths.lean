import EntityScaffold.ControllerDir
import EntityScaffold.EntityName
import EntityScaffold.Path
import EntityScaffold.RoutingFormat

/-
The paths of a run. They follow from the root of the bundle, the name of the entity and the
controller directory, before anything is written. A part that begins with a separator replaces what
stands in front of it, as joining paths does.
-/

namespace EntityScaffold

/-- The five views, in the order in which they are listed. -/
inductive View where
  | index
  | show
  | new
  | edit
  | form
  deriving DecidableEq, Repr

namespace View

def text : View → String
  | .index => "index"
  | .show => "show"
  | .new => "new"
  | .edit => "edit"
  | .form => "form"

def all : List View := [.index, .show, .new, .edit, .form]

end View

structure Extensions where
  source : String := ".php"
  view : String := ".html.twig"
  deriving DecidableEq, Repr

structure OutputPaths where
  entity : EntityName
  controllerNameSpace : String
  subDir : String
  controller : Path
  test : Path
  viewDir : Path
  viewExtension : String
  routing : Option Path
  formDir : String
  deriving DecidableEq, Repr

namespace OutputPaths

def view (paths : OutputPaths) (view : View) : Path :=
  paths.viewDir.join (view.text ++ paths.viewExtension)

/-- The paths that a run may write. -/
def outputs (paths : OutputPaths) : List Path :=
  [paths.controller, paths.test, paths.viewDir] ++ View.all.map paths.view ++ paths.routing.toList

/-- Resolves all paths; an entity name without a class is refused. -/
def resolve? (root : Path) (entity controllerDir : String) (format : RoutingFormat)
    (extensions : Extensions) : Option OutputPaths := do
  let name ← EntityName.split? entity
  let directory := ControllerDir.normalize controllerDir
  let subDir := ControllerDir.viewSubDir directory
  let nameSpaceDir := EntityName.asPath name.nameSpace
  let viewDir := (root.join "Resources").join "views" |>.join (subDir ++ EntityName.asPath entity)
  let routing := if format.hasFile then
      some ((((root.join "Resources").join "config").join "routing").join
        (EntityName.fileStem entity ++ "." ++ format.text))
    else none
  return {
    entity := name
    controllerNameSpace := ControllerDir.nameSpaceOf directory
    subDir := subDir
    controller := ((root.join directory).join nameSpaceDir).join
      (name.className ++ "Controller" ++ extensions.source)
    test := (((root.join "Tests").join directory).join nameSpaceDir).join
      (name.className ++ "ControllerTest" ++ extensions.source)
    viewDir := viewDir
    viewExtension := extensions.view
    routing := routing
    formDir := subDir ++ viewDir.name }

end OutputPaths

end EntityScaffold
