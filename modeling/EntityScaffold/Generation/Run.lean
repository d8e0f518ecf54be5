import EntityScaffold.Generation.Step
import EntityScaffold.Rendering

/-
Runs. Before anything is written, the metadata are checked, the paths resolved, and a controller
that exists already is refused. Then the steps are taken in order; the first failure ends the run,
and the files written before it stay and are reported with it.
-/

namespace EntityScaffold

namespace EntityMetadata

/-- An entity needs exactly one identifier field, and that is `id`. -/
def validate (metadata : EntityMetadata) : Except ScaffoldError Unit :=
  if 1 < metadata.identifier.length then .error (.multiplePrimaryKeys metadata.identifier)
  else if metadata.identifier.contains (CodeText.ofString "id") then .ok ()
  else .error .missingIdPrimaryKey

end EntityMetadata

namespace GenerationRequest

/-- The arguments of a run, beside its bundle and its metadata, that have no usual value. -/
def requiredArguments : List String := ["entity", "format", "route_prefix", "with_write"]

/-- Names between quotes, with a word before the last one. -/
def quotedNames : List String → String
  | [] => ""
  | [name] => Text.quoted name
  | [first, second] => Text.quoted first ++ " and " ++ Text.quoted second
  | names =>
    ", ".intercalate (names.dropLast.map Text.quoted) ++ ", and " ++
      Text.quoted (names.getLast?.getD "")

def missingMessage (names : List String) : String :=
  let noun := if names.length = 1 then "argument: " else "arguments: "
  "CrudGenerator.generate() missing " ++ toString names.length ++ " required positional " ++ noun ++
    quotedNames names

/-- The request for given arguments. All that have no usual value must be there. -/
def ofArguments (bundle : Bundle) (metadata : EntityMetadata) (arguments : List (Value × Value)) :
    Except Failure GenerationRequest :=
  match requiredArguments.filter fun name => (Value.get? name arguments).isNone with
  | [] => ((checkOptions (.good bundle) (.good metadata) arguments).toExcept title).mapError .invalid
  | names => .error (.wrongKind (missingMessage names))

end GenerationRequest

/-- What runs have in common. -/
structure Generator where
  library : Library := .packaged
  extensions : Extensions := {}

structure GenerationResult where
  plan : GenerationPlan
  written : List Path
  deriving DecidableEq

namespace Generator

/-- The plan of a run, from its request alone. -/
def plan (generator : Generator) (request : GenerationRequest) :
    Except ScaffoldError GenerationPlan := do
  request.metadata.validate
  let format := RoutingFormat.negotiate request.format
  match OutputPaths.resolve? request.bundle.path request.entity request.controllerDir format
      generator.extensions with
  | some paths => return ⟨request, ActionPlan.make request.withWrite, format, paths⟩
  | none => throw (.invalidEntityName request.entity)

/-- Refuses to overwrite a controller. -/
def requireNoController (paths : OutputPaths) : Work Unit := do
  match (← get).exists? paths.controller with
  | .ok true => throw (.ofError (.controllerAlreadyExists paths.controller))
  | .ok false => pure ()
  | .error error => throw (.access error)

/-- Takes one step, and gives the paths that it wrote. -/
def takeStep (generator : Generator) : GenerationStep → Work (List Path)
  | .file skeleton path bindings => do
    return [← generator.library.renderFile skeleton path bindings]
  | .viewDirectory path => do
    Work.onTree (Library.outputFailure (GenerationPlan.viewSkeleton .index) path)
      (FileTree.makeDirectories path)
    return []

/-- Takes steps in order, after those that wrote some paths. A failure reports what was written. -/
def takeSteps (generator : Generator) (written : List Path) : List GenerationStep → Work (List Path)
  | [] => return written
  | step :: rest => do
    let paths ← ExceptT.adapt (Failure.withWritten written) (generator.takeStep step)
    generator.takeSteps (written ++ paths) rest

def run (generator : Generator) (request : GenerationRequest) : Work GenerationResult := do
  let plan ← Work.ofExcept ((generator.plan request).mapError Failure.ofError)
  requireNoController plan.paths
  let written ← generator.takeSteps [] plan.steps
  return ⟨plan, written⟩

/-- Runs for given arguments. -/
def generate (generator : Generator) (bundle : Bundle) (metadata : EntityMetadata)
    (arguments : List (Value × Value)) : Work GenerationResult := do
  generator.run (← Work.ofExcept (GenerationRequest.ofArguments bundle metadata arguments))

end Generator

end EntityScaffold
