import EntityScaffold.FileTree.Basic

/-
Access to a file tree by paths. A path is followed name by name; each name but the last one must be
that of a directory, and no name may be longer than 255 octets, no path longer than 4095. A name
that contains NUL is refused before the tree is looked at.
-/

namespace EntityScaffold

inductive AccessError where
  | nulByte
  | system (error : SystemError) (path : Path)
  deriving DecidableEq, Repr

/-- A step that may fail, and may change the tree before it fails. -/
abbrev TreeAction (α : Type) := ExceptT AccessError (StateM FileTree) α

namespace FileTree

def longestName : Nat := 255

def longestPath : Nat := 4095

/-- Follows names from a directory. The last name need not stand for anything. -/
def follow (tree : FileTree) (directory : Location) : List String → Except SystemError Location
  | [] => .ok directory
  | name :: rest =>
    if longestName < name.utf8ByteSize then .error .nameTooLong
    else if name = ".." then tree.follow directory.above rest
    else
      let next := directory ++ [name]
      if rest.isEmpty then .ok next
      else match tree.get? next with
        | none => .error .notFound
        | some (.file _) => .error .notDirectory
        | some .directory => tree.follow next rest

def locate (tree : FileTree) (path : Path) : Except SystemError Location :=
  if longestPath < path.toString.utf8ByteSize then .error .nameTooLong
  else if path.isAbsolute then tree.follow Location.top path.parts
  else tree.follow [] path.parts

def hasNul (path : Path) : Bool := path.parts.any fun part => part.toList.contains '\x00'

def lookup (tree : FileTree) (path : Path) : Except SystemError FileNode := do
  let location ← tree.locate path
  match tree.get? location with
  | some node => return node
  | none => throw .notFound

/-- Does anything stand at a path? Only a path that is too long has no answer. -/
def exists? (tree : FileTree) (path : Path) : Except AccessError Bool :=
  if hasNul path then .ok false
  else match tree.lookup path with
    | .ok _ => .ok true
    | .error .nameTooLong => .error (.system .nameTooLong path)
    | .error _ => .ok false

def isDirectory (tree : FileTree) (path : Path) : Bool :=
  match tree.lookup path with
  | .ok .directory => true
  | _ => false

def readContent (tree : FileTree) (path : Path) : Except AccessError Content :=
  if hasNul path then .error .nulByte
  else match tree.lookup path with
    | .ok (.file content) => .ok content
    | .ok .directory => .error (.system .isDirectory path)
    | .error error => .error (.system error path)

def withDirectory (tree : FileTree) (path : Path) : Except SystemError FileTree := do
  let location ← tree.locate path
  match tree.get? location with
  | some _ => throw .exists
  | none => return tree.put location .directory

def withFile (tree : FileTree) (path : Path) (content : Content) : Except SystemError FileTree := do
  let location ← tree.locate path
  match tree.get? location with
  | some .directory => throw .isDirectory
  | _ => return tree.put location (.file content)

/-- Makes one directory; it may be there already. -/
def makeDirectory (path : Path) : TreeAction Unit := do
  if hasNul path then throw .nulByte
  let tree ← get
  match tree.withDirectory path with
  | .ok changed => set changed
  | .error error => if !tree.isDirectory path then throw (.system error path)

/-- Makes a directory and the directories above it, at most `depth` of them. What was made stays
when a later step fails. -/
def makeDirectoriesWithin : (depth : Nat) → Path → TreeAction Unit
  | 0, path => makeDirectory path
  | depth + 1, path => do
    if hasNul path then throw .nulByte
    let tree ← get
    match tree.withDirectory path with
    | .ok changed => set changed
    | .error .notFound =>
      if path.parts.isEmpty then throw (.system .notFound path)
      makeDirectoriesWithin depth path.parent
      makeDirectory path
    | .error error => if !tree.isDirectory path then throw (.system error path)

def makeDirectories (path : Path) : TreeAction Unit :=
  makeDirectoriesWithin path.parts.length path

def writeContent (path : Path) (content : Content) : TreeAction Unit := do
  if hasNul path then throw .nulByte
  match (← get).withFile path content with
  | .ok changed => set changed
  | .error error => throw (.system error path)

/-- Writes a file and makes the directories above it. -/
def writeFile (path : Path) (content : Content) : TreeAction Unit := do
  makeDirectories path.parent
  writeContent path content

end FileTree

end EntityScaffold
