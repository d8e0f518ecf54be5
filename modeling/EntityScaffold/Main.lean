import EntityScaffold.CommandLine.Places
import EntityScaffold.FileTree.Change

/-
The program. What stands at the places of the command is read from the file system into a tree, the
command runs on that tree with the simple engine, and what it changed is written back.
-/

namespace EntityScaffold.FileTree

/-- The code by which the system says that a directory was opened as a file. -/
def directoryCode : UInt32 := 21

def inspect (path : Path) : IO (Option FileNode) := do
  try
    let octets ← IO.FS.readBinFile path.toString
    return some (.file (.ofOctets octets.toList))
  catch
    | .inappropriateType _ code _ => return if code = directoryCode then some .directory else none
    | _ => return none

/-- The tree with what stands at a path and at the directories above it. -/
def load (tree : FileTree) (path : Path) : IO FileTree := do
  if hasNul path then return tree
  let mut loaded := tree
  for place in path.withDirectories do
    match loaded.locate place, ← inspect place with
    | .ok location, some node => if !location.isGiven then loaded := loaded.put location node
    | _, _ => pure ()
  return loaded

def loadAll (tree : FileTree) (paths : List Path) : IO FileTree := paths.foldlM load tree

def apply : Change → IO Unit
  | .directory path => IO.FS.createDirAll path
  | .file path (.text chars) => IO.FS.writeFile path chars
  | .file path (.binary octets) => IO.FS.writeBinFile path ⟨octets.toArray⟩
  | .removed path => IO.FS.removeFile path

end EntityScaffold.FileTree

namespace EntityScaffold.CommandLine.Command

def readEnvironment : IO (List (String × String)) :=
  Config.environmentNames.filterMapM fun (name, _) => do
    return (← IO.getEnv name).map fun value => (name, value)

/-- A tree with what stands at the places of a command. -/
def surroundings (arguments : List String) (environment : List (String × String)) :
    IO FileTree := do
  match Reading.ofTexts arguments with
  | .ok (.complete given) =>
    let tree ← FileTree.empty.loadAll (configPlaces given)
    match configure given environment tree with
    | .ok config => tree.loadAll (runPlaces given config)
    | .error _ => return tree
  | _ => return FileTree.empty

/-- Runs the command in the file system. What it changed before it failed stays. -/
def runInPlace (arguments : List String) : IO UInt32 := do
  let environment ← readEnvironment
  let before ← surroundings arguments environment
  let (ended, after) := (run .simple arguments environment).run.run before
  for change in before.changes after do
    FileTree.apply change
  match ended with
  | .ok outcome =>
    IO.print outcome.output.toStringReplacing
    IO.eprint outcome.diagnostics
    return outcome.exitCode.toUInt32
  | .error failure =>
    IO.eprintln failure.message.toStringReplacing
    return 1

end EntityScaffold.CommandLine.Command

def main (arguments : List String) : IO UInt32 :=
  EntityScaffold.CommandLine.Command.runInPlace arguments
