import EntityScaffold.CommandLine.Command

/-
Places of a command: the paths that it may look at or write to. They follow from its arguments and
its configuration, so that whoever runs the command can look them up first. A path can only be
followed if the directories above it are known too.
-/

namespace EntityScaffold.CommandLine.Command

def configPlaces (given : Given) : List Path := (given.filled? .config).toList.map Path.ofString

/-- The files of the skeletons that a run may ask for, in a directory. -/
def skeletonPlaces (directory : Path) : List Path :=
  (GenerationPlan.skeletons.filterMap Skeleton.fileParts?).map fun parts =>
    ⟨directory.root, directory.parts ++ parts⟩

/-- The files that a run reads, and the paths that it may write. -/
def runPlaces (given : Given) (config : Config) : List Path :=
  let request := request given config ⟨[], []⟩
  let outputs := OutputPaths.resolve? request.bundle.path request.entity request.controllerDir
    (RoutingFormat.negotiate request.format) config.extensions
  let directory := (skeletonDirectory? given config).bind CodePath.toPath?
  metadataSource given :: directory.toList.flatMap skeletonPlaces ++
    (outputs.toList.flatMap OutputPaths.outputs)

end EntityScaffold.CommandLine.Command
