import EntityScaffold.CommandLine.Arguments
import EntityScaffold.CommandLine.Help
import EntityScaffold.Config
import EntityScaffold.Console.Report
import EntityScaffold.EntityName
import EntityScaffold.Generation.Run

/-
The command. It reads its arguments and its configuration, runs the generator, and reports what was
written. An error of the scaffolder is reported too and makes the command fail; files that were
written before it stay and are listed.
-/

namespace EntityScaffold.CommandLine

/-- How a command ends: with a code, and with what it wrote to its two outputs. -/
structure Outcome where
  exitCode : Nat
  output : CodeText := []
  diagnostics : String := ""
  deriving DecidableEq

namespace Command

/-- What is printed; text that cannot be printed ends the command. -/
def printed (text : Except Console.MarkupError CodeText) : Work CodeText :=
  Work.ofExcept (text.mapError .unprintable)

/-- The configuration of a command: a file, or else the environment. -/
def configure (given : Given) (environment : List (String × String)) (tree : FileTree) :
    Except Failure Config :=
  match given.filled? .config with
  | some source => Config.load tree (Path.ofString source)
  | none => Config.ofEnvironment environment

/-- What is said about a configuration that cannot be used, if the command says anything itself. -/
def configComplaint? (given : Given) : Failure → Option String
  | .access (.system error _) =>
    some ("Error: cannot read configuration " ++ (given.value? .config).getD "" ++ ": " ++
      error.reason)
  | .invalid error =>
    let source := (given.filled? .config).getD "environment"
    some ("Error: invalid configuration in " ++ source ++ ":\n" ++ error.headline)
  | _ => none

def requestedFormat (given : Given) (config : Config) : String :=
  (given.filled? .format).getD config.defaultFormat.text

/-- A warning when the requested format is none of the four. -/
def formatWarning (requested : String) : Work CodeText :=
  let format := (RoutingFormat.negotiate requested).text
  if format = requested then return []
  else printed (Console.warning (CodeText.ofString
    ("Unsupported format '" ++ requested ++ "', using '" ++ format ++ "'.")))

/-- The bundle; without a display name it is named after its namespace. -/
def bundle (given : Given) : Bundle :=
  let nameSpace := (given.value? .bundleNameSpace).getD ""
  let undotted := String.ofList (nameSpace.toList.filter (· ≠ '.'))
  { name := (given.filled? .bundleName).getD undotted
    nameSpace := nameSpace
    path := Path.ofString ((given.value? .bundlePath).getD "") }

def entity (given : Given) : String := given.entity.getD ""

/-- The route prefix; unless one is given, the name of the entity as a path. -/
def routePrefix (given : Given) : String :=
  (given.value? .routePrefix).getD (EntityName.routePrefixOf (entity given))

def metadataSource (given : Given) : Path := Path.ofString ((given.value? .metadata).getD "")

def request (given : Given) (config : Config) (metadata : EntityMetadata) : GenerationRequest where
  bundle := bundle given
  entity := entity given
  metadata := metadata
  format := requestedFormat given config
  routePrefix := routePrefix given
  withWrite := given.withWrite
  controllerDir := (given.filled? .directory).getD config.controllerDir

/-- The directory of skeletons, if one is given or set. -/
def skeletonDirectory? (given : Given) (config : Config) : Option CodePath :=
  ((given.filled? .skeletonDirectory).map fun text => .ofPath (Path.ofString text)).orElse fun _ =>
    config.skeletonDir

def generator (engine : Engine) (given : Given) (config : Config) : Generator where
  library := Library.ofDirectory? engine (skeletonDirectory? given config)
  extensions := config.extensions

def generate (engine : Engine) (given : Given) (config : Config) : Work GenerationResult := do
  let loaded := EntityMetadata.load (← get) (metadataSource given)
  let metadata ← Work.ofExcept (loaded.mapError Failure.ofLoadError)
  (generator engine given config).run (request given config metadata)

def listWritten (given : Given) (written : List Path) : Work CodeText :=
  printed (Console.writtenFiles (written.map Path.toString) (bundle given).path.toString)

def reportSuccess (given : Given) (result : GenerationResult) : Work CodeText := do
  let files ← listWritten given result.written
  let plan := result.plan
  let start := if routePrefix given = "" then "/" else routePrefix given
  let table ← Work.ofExcept ((Console.summaryTable [
    (.string "Entity", .string plan.request.entity),
    (.string "Format", .string plan.format.text),
    (.string "Actions", .string (", ".intercalate (plan.actions.actions.map Action.text))),
    (.string "Route prefix", .string start),
    (.string "Files written", .string (toString result.written.length))]
    (CodeText.ofString "CRUD scaffold")).mapError .ofTableFault)
  let farewell ← printed
    (Console.success (CodeText.ofString "CRUD generation completed successfully!"))
  return files ++ table ++ farewell

def reportError (given : Given) (error : ScaffoldError) (written : List Path) : Work CodeText := do
  let complaint ← printed (Console.error (CodeText.ofString "Error: " ++ error.message))
  if written.isEmpty then return complaint
  else
    let warning ← printed (Console.warning
      (CodeText.ofString "Files generated before the failure were left in place:"))
    return complaint ++ warning ++ (← listWritten given written)

def execute (engine : Engine) (given : Given) (config : Config) : Work Outcome := do
  let warning ← formatWarning (requestedFormat given config)
  let header ← printed (Console.header (CodeText.ofString
    ("CRUD generation for " ++ (bundle given).name ++ ":" ++ entity given)))
  let announced := warning ++ header
  match ← ExceptT.lift (generate engine given config).run with
  | .ok result => return { exitCode := 0, output := announced ++ (← reportSuccess given result) }
  | .error (.scaffold error written) =>
    return { exitCode := 1, output := announced ++ (← reportError given error written) }
  | .error failure => throw failure

def refusal (error : UsageError) : String :=
  usage ++ programName ++ ": error: " ++ error.message ++ "\n"

/-- Runs the command; the skeletons of a directory are rendered by an engine. -/
def run (engine : Engine) (arguments : List String) (environment : List (String × String)) :
    Work Outcome := do
  match Reading.ofTexts arguments with
  | .error error => return { exitCode := 2, diagnostics := refusal error }
  | .ok .asksForHelp => return { exitCode := 0, output := CodeText.ofString helpText }
  | .ok (.complete given) =>
    match configure given environment (← get) with
    | .ok config => execute engine given config
    | .error failure =>
      match configComplaint? given failure with
      | some complaint =>
        return { exitCode := 1, output := ← printed (Console.error (CodeText.ofString complaint)) }
      | none => throw failure

end Command

end EntityScaffold.CommandLine
