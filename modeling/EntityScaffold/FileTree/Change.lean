import EntityScaffold.FileTree.Basic

/-
What distinguishes two trees: the locations that are new or hold something else, and those that are
gone, in the order of their paths.
-/

namespace EntityScaffold

inductive Change where
  | directory (path : String)
  | file (path : String) (content : Content)
  | removed (path : String)
  deriving DecidableEq

namespace Change

def path : Change → String
  | .directory path | .file path _ | .removed path => path

end Change

namespace FileTree

/-- The changes that lead from one tree to another. -/
def changes (before after : FileTree) : List Change :=
  let added := after.entries.filterMap fun (location, node) =>
    if before.get? location = some node then none
    else match node with
      | .directory => some (Change.directory (location.text))
      | .file content => some (Change.file (location.text) content)
  let removed := before.entries.filterMap fun (location, _) =>
    if (after.get? location).isNone then some (Change.removed (location.text)) else none
  (added ++ removed).mergeSort fun left right => !(decide (right.path < left.path))

end FileTree

end EntityScaffold
