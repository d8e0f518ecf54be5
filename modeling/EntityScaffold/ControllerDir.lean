import EntityScaffold.Text.Blank

/-
Controller directories. The directory may be written with dots, slashes or backslashes between its
parts and stray separators anywhere; its normal form has one slash between parts. The empty
directory is the top-level one.
-/

namespace EntityScaffold.ControllerDir

def topLevel : String := "Controller"

def normalizeChars (written : List Char) : List Char :=
  let slashed := Text.collapseRuns (fun char => char == '\x5c' || char == '.') '/' false written
  Text.trim (· == '/') (Text.collapseRuns (· == '/') '/' false slashed)

def normalize (written : String) : String :=
  let normal := normalizeChars written.toList
  if normal.isEmpty then topLevel else String.ofList normal

/-- What precedes the parts below the top-level directory. -/
def topLevelStart : List Char := topLevel.toList ++ ['/']

/-- The sub-directory of views: nothing for the top level, and otherwise the directory below the top
level, or beside it, with a slash behind it. -/
def viewSubDir (written : String) : String :=
  let normal := normalize written
  if normal = topLevel then ""
  else if topLevelStart.isPrefixOf normal.toList then
    String.ofList (normal.toList.drop topLevelStart.length ++ ['/'])
  else normal ++ "/"

def nameSpaceOf (normal : String) : String :=
  String.ofList (Text.replaceChar '/' '.' normal.toList)

end EntityScaffold.ControllerDir
