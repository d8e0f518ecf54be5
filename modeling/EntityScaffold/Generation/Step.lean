import EntityScaffold.OutputPaths
import EntityScaffold.RenderContext
import EntityScaffold.Request

/-
The steps of a run. A run writes the controller, makes the directory of the views, and writes the
index view, the other views that the plan asks for, the functional test, and the routing file if the
format has one. The form is written before the new view, which includes it.
-/

namespace EntityScaffold

/-- What a run follows from the start: its request, and what was derived from it. -/
structure GenerationPlan where
  request : GenerationRequest
  actions : ActionPlan
  format : RoutingFormat
  paths : OutputPaths
  deriving DecidableEq

inductive GenerationStep where
  | file (skeleton : String) (path : Path) (bindings : Bindings)
  | viewDirectory (path : Path)

namespace GenerationPlan

variable (plan : GenerationPlan)

/-- The fields of the entity as skeletons see them. -/
def typedFields : List (String × CodeText) := seenEntries plan.request.metadata.fields

/-- The fields with types that are strings. -/
def fields : List (String × String) :=
  plan.typedFields.map fun entry => (entry.1, entry.2.octetsReplaced)

def controllerContext : ControllerContext where
  actions := plan.actions.actions
  routePrefix := .ofString plan.request.routePrefix
  routeNamePrefix := .ofString plan.request.routeNamePrefix
  bundle := .ofString plan.request.bundle.name
  nameSpace := .ofString plan.request.bundle.nameSpace
  entity := .ofString plan.request.entity
  entityClass := .ofString plan.paths.entity.className
  entityNameSpace := .ofString plan.paths.entity.nameSpace
  controllerNameSpace := .ofString plan.paths.controllerNameSpace
  format := plan.format

def indexViewContext : IndexViewContext where
  entity := .ofString plan.request.entity
  fields := plan.request.metadata.fields
  actions := plan.actions.actions
  rowLinks := plan.actions.rowLinks
  routePrefix := .ofString plan.request.routePrefix
  routeNamePrefix := .ofString plan.request.routeNamePrefix

def showViewContext : ShowViewContext where
  entity := .ofString plan.request.entity
  fields := plan.request.metadata.fields
  actions := plan.actions.actions
  routePrefix := .ofString plan.request.routePrefix
  routeNamePrefix := .ofString plan.request.routeNamePrefix

def formViewContext : FormViewContext where
  entity := .ofString plan.request.entity
  fields := plan.request.metadata.fields
  actions := plan.actions.actions
  routePrefix := .ofString plan.request.routePrefix
  routeNamePrefix := .ofString plan.request.routeNamePrefix
  bundle := .ofString plan.request.bundle.name
  formDir := .ofString plan.paths.formDir

def functionalTestContext : FunctionalTestContext where
  actions := plan.actions.actions
  fields := plan.request.metadata.fields
  routePrefix := .ofString plan.request.routePrefix
  routeNamePrefix := .ofString plan.request.routeNamePrefix
  nameSpace := .ofString plan.request.bundle.nameSpace
  entity := .ofString plan.request.entity
  entityClass := .ofString plan.paths.entity.className
  entityNameSpace := .ofString plan.paths.entity.nameSpace
  controllerNameSpace := .ofString plan.paths.controllerNameSpace

def routingContext : RoutingContext where
  actions := plan.actions.actions
  routePrefix := .ofString plan.request.routePrefix
  routeNamePrefix := .ofString plan.request.routeNamePrefix
  bundle := .ofString plan.request.bundle.name
  entity := .ofString plan.request.entity
  entityClass := .ofString plan.paths.entity.className
  controllerNameSpace := .ofString plan.paths.controllerNameSpace

def viewSkeleton (view : View) : String := "views/" ++ view.text

def routingSkeleton (format : String) : String := "config/routing." ++ format

/-- All skeletons that a run may ask for. -/
def skeletons : List String :=
  ["controller", "tests/test"] ++ View.all.map viewSkeleton ++
    RoutingFormat.all.map fun format => routingSkeleton format.text

def formStep (view : View) : GenerationStep :=
  .file (viewSkeleton view) (plan.paths.view view) plan.formViewContext.bindings

def controllerStep : GenerationStep :=
  .file "controller" plan.paths.controller plan.controllerContext.bindings

def indexStep : GenerationStep :=
  .file (viewSkeleton .index) (plan.paths.view .index) plan.indexViewContext.bindings

/-- The views beside the index view, as the plan asks for them. -/
def viewSteps : List GenerationStep :=
  let planned (action : Action) (steps : List GenerationStep) :=
    if plan.actions.actions.contains action then steps else []
  planned .show
      [.file (viewSkeleton .show) (plan.paths.view .show) plan.showViewContext.bindings] ++
    planned .new [plan.formStep .form, plan.formStep .new] ++
    planned .edit [plan.formStep .edit]

def testStep : GenerationStep :=
  .file "tests/test" plan.paths.test plan.functionalTestContext.bindings

def routingSteps : List GenerationStep :=
  plan.paths.routing.toList.map fun path =>
    .file (routingSkeleton plan.format.text) path plan.routingContext.bindings

def steps : List GenerationStep :=
  [plan.controllerStep, .viewDirectory plan.paths.viewDir, plan.indexStep] ++ plan.viewSteps ++
    [plan.testStep] ++ plan.routingSteps

end GenerationPlan

end EntityScaffold
