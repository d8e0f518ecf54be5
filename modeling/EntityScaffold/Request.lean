import EntityScaffold.ControllerDir
import EntityScaffold.Metadata.Basic
import EntityScaffold.Route

/-
Requests for a run: the bundle that owns the generated files, the entity with its metadata, and the
options. Every option has a usual value.
-/

namespace EntityScaffold

structure Bundle where
  name : String
  nameSpace : String
  path : Path
  deriving DecidableEq, Repr

namespace Bundle

def check : Check Bundle :=
  Check.record "Bundle" fun members =>
    mk <$> Check.required "name" Check.text members
      <*> Check.required "namespace" Check.text members
      <*> Check.required "path" Check.path members

end Bundle

structure GenerationRequest where
  bundle : Bundle
  entity : String
  metadata : EntityMetadata
  format : String := "yaml"
  routePrefix : String := ""
  withWrite : Bool := false
  controllerDir : String := ControllerDir.topLevel
  deriving DecidableEq

namespace GenerationRequest

def title : String := "GenerationRequest"

def routeNamePrefix (request : GenerationRequest) : String := Route.namePrefix request.routePrefix

/-- Checks a request whose bundle and metadata are given or have been checked. -/
def checkOptions (bundle : Checked Bundle) (metadata : Checked EntityMetadata)
    (members : List (Value × Value)) : Checked GenerationRequest :=
  mk <$> bundle
    <*> Check.required "entity" Check.text members
    <*> metadata
    <*> Check.withDefault "format" "yaml" Check.text members
    <*> Check.withDefault "route_prefix" "" Check.text members
    <*> Check.withDefault "with_write" false Check.bool members
    <*> Check.withDefault "controller_dir" ControllerDir.topLevel Check.text members

def check (members : List (Value × Value)) : Checked GenerationRequest :=
  checkOptions (Check.required "bundle" Bundle.check members)
    (Check.required "metadata" EntityMetadata.check members) members

end GenerationRequest

end EntityScaffold
