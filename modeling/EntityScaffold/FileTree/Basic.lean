import EntityScaffold.Path
import EntityScaffold.Text.Lines
import EntityScaffold.Text.Utf8

/-
File trees. A tree says of each location whether a directory or a file stands there. A location is
the list of names that lead to it from the working directory, or from the root of the file system if
the first name is a slash; the names of the directories above the working directory are double dots.
The content of a file is text, or octets that are no text.
-/

namespace EntityScaffold

inductive Content where
  | text (chars : String)
  | binary (octets : List UInt8)
  deriving DecidableEq

namespace Content

/-- Octets are kept as text whenever they are UTF-8. -/
def ofOctets (octets : List UInt8) : Content :=
  match Text.Utf8.decode octets with
  | .ok chars => .text (String.ofList chars)
  | .error _ => .binary octets

/-- The text of a file as a reader sees it, with line feeds for all line ends. -/
def read : Content → Except Text.Utf8.DecodeError String
  | .text chars => .ok (String.ofList (Text.normalizeNewlines chars.toList))
  | .binary octets => (Text.Utf8.decode octets).map fun chars =>
    String.ofList (Text.normalizeNewlines chars)

end Content

abbrev Location := List String

namespace Location

def top : Location := ["/"]

/-- Is this the top, the working directory or a directory above it? Such a directory is always
there. -/
def isGiven (location : Location) : Bool := location == top || location.all (· == "..")

def above (location : Location) : Location :=
  if location = top then top
  else if location.isGiven then ".." :: location
  else location.dropLast

def text : Location → String
  | "/" :: rest => "/" ++ "/".intercalate rest
  | location => "/".intercalate location

end Location

inductive FileNode where
  | directory
  | file (content : Content)
  deriving DecidableEq

/-- The locations that are not always there, each with what stands there. -/
structure FileTree where
  entries : List (Location × FileNode) := []

namespace FileTree

def empty : FileTree := {}

def get? (tree : FileTree) (location : Location) : Option FileNode :=
  if location.isGiven then some .directory else tree.entries.lookup location

/-- Puts a node at a location, in place of the one that stands there. -/
def put (tree : FileTree) (location : Location) (node : FileNode) : FileTree :=
  ⟨(location, node) :: tree.entries.filter fun entry => entry.1 != location⟩

/-- Removes a location and all that stands below it. -/
def removeBelow (tree : FileTree) (location : Location) : FileTree :=
  ⟨tree.entries.filter fun entry => !location.isPrefixOf entry.1⟩

end FileTree

inductive SystemError where
  | notFound
  | exists
  | notDirectory
  | isDirectory
  | nameTooLong
  deriving DecidableEq, Repr

namespace SystemError

def code : SystemError → Nat
  | .notFound => 2
  | .exists => 17
  | .notDirectory => 20
  | .isDirectory => 21
  | .nameTooLong => 36

def reason : SystemError → String
  | .notFound => "No such file or directory"
  | .exists => "File exists"
  | .notDirectory => "Not a directory"
  | .isDirectory => "Is a directory"
  | .nameTooLong => "File name too long"

end SystemError

end EntityScaffold
