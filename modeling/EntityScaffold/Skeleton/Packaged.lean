import EntityScaffold.Skeleton.Packaged.Controller
import EntityScaffold.Skeleton.Packaged.FunctionalTest
import EntityScaffold.Skeleton.Packaged.Routing
import EntityScaffold.Skeleton.Packaged.Views

/-
The catalog of skeletons that comes with the program. A skeleton is known by the path of its file.
The phrases that skeletons share have a file as well, of which two empty lines are all that is
rendered.
-/

namespace EntityScaffold.Skeleton.Packaged

def macros : Skeleton := [lines ["", ""]]

def catalog : List (String × Skeleton) := [
  ("controller.j2", controller),
  ("actions/index.j2", indexAction),
  ("actions/show.j2", showAction),
  ("actions/new.j2", newAction),
  ("actions/edit.j2", editAction),
  ("actions/delete.j2", deleteAction),
  ("config/routing.yaml.j2", yamlRouting),
  ("config/routing.xml.j2", xmlRouting),
  ("config/routing.php.j2", phpRouting),
  ("tests/test.j2", functionalTest),
  ("views/index.j2", indexView),
  ("views/show.j2", showView),
  ("views/new.j2", newView),
  ("views/edit.j2", editView),
  ("views/form.j2", formView),
  ("macros.j2", macros)]

def find? (file : String) : Option Skeleton := catalog.lookup file

end EntityScaffold.Skeleton.Packaged
