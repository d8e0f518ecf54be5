import EntityScaffold.CommandLine.Places
import EntityScaffold.Main
import EntityScaffold.Proofs.CommandLine.Configuration
import EntityScaffold.Proofs.CommandLine.DefaultRoutes
import EntityScaffold.Proofs.CommandLine.Listing
import EntityScaffold.Proofs.Config.Saving
import EntityScaffold.Proofs.ControllerDir.Folders
import EntityScaffold.Proofs.EntityName.Segments
import EntityScaffold.Proofs.FileTree.Growth
import EntityScaffold.Proofs.FileTree.Room
import EntityScaffold.Proofs.Generation.EmptyBundle
import EntityScaffold.Proofs.Generation.FieldValues
import EntityScaffold.Proofs.Generation.FieldViews
import EntityScaffold.Proofs.Generation.FormInclude
import EntityScaffold.Proofs.Generation.Rerun
import EntityScaffold.Proofs.Generation.RouteNames
import EntityScaffold.Proofs.Generation.RouteTargets
import EntityScaffold.Proofs.Generation.Succession
import EntityScaffold.Proofs.Metadata.Forms
import EntityScaffold.Proofs.Metadata.Loading
import EntityScaffold.Proofs.Metadata.Shape
import EntityScaffold.Proofs.Metadata.WrittenFields
import EntityScaffold.Proofs.OutputPaths.Containment
import EntityScaffold.Proofs.OutputPaths.NormalDirectory
import EntityScaffold.Proofs.Rendering.OutputFile
import EntityScaffold.Proofs.Text.NamingStyle
