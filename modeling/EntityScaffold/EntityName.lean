import EntityScaffold.Text.Case
import EntityScaffold.Text.Blank

/-
Entity names. An entity is named by dotted words, of which the last one is its class and the others
are its namespace. The class must not be empty.
-/

namespace EntityScaffold

structure EntityName where
  nameSpace : String
  className : String
  deriving DecidableEq, Repr

namespace EntityName

/-- What stands behind the last dot. -/
def classChars (dotted : List Char) : List Char := (dotted.reverse.takeWhile (· ≠ '.')).reverse

/-- What stands in front of the last dot, nothing if there is no dot. -/
def nameSpaceChars (dotted : List Char) : List Char :=
  ((dotted.reverse.dropWhile (· ≠ '.')).drop 1).reverse

/-- Splits a dotted name; a name without a class is refused. -/
def split? (dotted : String) : Option EntityName :=
  let chars := dotted.toList
  if (classChars chars).isEmpty then none
  else some ⟨String.ofList (nameSpaceChars chars), String.ofList (classChars chars)⟩

def asPath (dotted : String) : String :=
  String.ofList (Text.replaceChar '.' '/' dotted.toList)

/-- `Blog.Post` as `blog_post`. -/
def fileStem (dotted : String) : String :=
  String.ofList (Text.lower (Text.replaceChar '.' '_' dotted.toList))

/-- `Blog.Post` as `blog/post`. -/
def routePrefixOf (dotted : String) : String :=
  String.ofList (Text.lower (Text.replaceChar '.' '/' dotted.toList))

end EntityName

end EntityScaffold
