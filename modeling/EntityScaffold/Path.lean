import EntityScaffold.Text.CodePoint

/-
Paths. A path has a root and components; repeated separators and components that name their own
directory are dropped when a path is read. Two separators in front are a root of their own, three or
more count as one. The empty path names the current directory.
-/

namespace EntityScaffold

inductive Path.Root where
  | relative
  | single
  | double
  deriving DecidableEq, Repr

structure Path where
  root : Path.Root
  parts : List String
  deriving DecidableEq, Repr

namespace Path

def isSeparator (char : Char) : Bool := char == '/'

def Root.ofChars : List Char → Root
  | '/' :: '/' :: '/' :: _ => .single
  | '/' :: '/' :: _ => .double
  | '/' :: _ => .single
  | _ => .relative

def Root.text : Root → String
  | .relative => ""
  | .single => "/"
  | .double => "//"

/-- The components of a text: the non-empty pieces between separators other than a single dot. -/
def partsOf (chars : List Char) : List String :=
  ((Text.splitWhere isSeparator chars).filter fun piece => piece ≠ [] && piece ≠ ['.']).map
    String.ofList

def ofString (text : String) : Path :=
  ⟨Root.ofChars text.toList, partsOf text.toList⟩

def here : Path := ⟨.relative, []⟩

def isAbsolute (path : Path) : Bool := path.root ≠ .relative

def toString (path : Path) : String :=
  if path.root = .relative && path.parts.isEmpty then "."
  else path.root.text ++ "/".intercalate path.parts

instance : ToString Path := ⟨toString⟩

/-- A path seen from another; a path with a root is not changed by that. -/
def append (base path : Path) : Path :=
  if path.isAbsolute then path else ⟨base.root, base.parts ++ path.parts⟩

instance : Append Path := ⟨append⟩

def join (base : Path) (text : String) : Path := base ++ ofString text

/-- The last component, empty if there is none. -/
def name (path : Path) : String := path.parts.getLast?.getD ""

def parent (path : Path) : Path := ⟨path.root, path.parts.dropLast⟩

/-- The directories above a path, from the top, and the path itself. -/
def withDirectories (path : Path) : List Path :=
  (List.range (path.parts.length + 1)).map fun length => ⟨path.root, path.parts.take length⟩

/-- The end of a name from its last dot on, unless the dot is the first or the last character. -/
def suffixOf (name : List Char) : List Char :=
  let extension := (name.reverse.takeWhile (· ≠ '.')).reverse
  if extension.isEmpty || name.length ≤ extension.length + 1 then [] else '.' :: extension

def suffix (path : Path) : String := String.ofList (suffixOf path.name.toList)

/-- A path as seen from a directory above it. -/
def relativeTo? (path base : Path) : Option Path :=
  if path.root = base.root && base.parts.isPrefixOf path.parts then
    some ⟨.relative, path.parts.drop base.parts.length⟩
  else none

/-- The text of a path as seen from a directory; a path that does not lie below it is left as it is
written. -/
def relativeText (path base : String) : String :=
  match (ofString path).relativeTo? (ofString base) with
  | some inner => inner.toString
  | none => path

end Path

/-- A path whose components need not be Unicode: a surrogate in a component stands for an octet that
is part of no character. -/
structure CodePath where
  root : Path.Root
  parts : List CodeText
  deriving DecidableEq, Repr

namespace CodePath

def slash : CodePoint := CodePoint.ofChar '/'

def here : CodeText := [CodePoint.ofChar '.']

/-- The components of a text, as for a path whose components are Unicode. -/
def partsOf (text : CodeText) : List CodeText :=
  (Text.splitWhere (· == slash) text).filter fun piece => piece ≠ [] && piece ≠ here

def ofCodeText (text : CodeText) : CodePath :=
  ⟨Path.Root.ofChars text.replacing, partsOf text⟩

def ofPath (path : Path) : CodePath := ⟨path.root, path.parts.map CodeText.ofString⟩

/-- The path, if all its components are Unicode. -/
def toPath? (path : CodePath) : Option Path :=
  (path.parts.mapM CodeText.toString?).map (Path.mk path.root)

def toCodeText (path : CodePath) : CodeText :=
  if path.root = .relative && path.parts.isEmpty then here
  else CodeText.ofString path.root.text ++ Text.joinWith [slash] path.parts

end CodePath

end EntityScaffold
