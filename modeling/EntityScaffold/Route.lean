import EntityScaffold.Text.CodePoint

/-
Routes. A route is named after the route prefix and the action, and its path is the prefix between
slashes followed by what the action adds. The index route has the bare name and the bare path.
-/

namespace EntityScaffold.Route

/-- A prefix as the start of a path: no stray slashes and one slash in front, unless it is empty. -/
def base (written : String) : String :=
  let bare := Text.trim (· == '/') written.toList
  if bare.isEmpty then "" else String.ofList ('/' :: bare)

/-- What an action adds to the path of the prefix. -/
def tail? (action : String) : Option String :=
  [("index", "/"), ("show", "/\x7bid\x7d/show"), ("new", "/new"), ("edit", "/\x7bid\x7d/edit"),
    ("delete", "/\x7bid\x7d/delete")].lookup action

def name (written action : String) : String :=
  if action = "index" then written else written ++ "_" ++ action

/-- A prefix in the form in which route names begin with it. -/
def namePrefix (written : String) : String :=
  String.ofList (Text.replaceChar '/' '_' written.toList)

/-! ### Prefixes in which surrogates may stand alone -/

def baseText (written : CodeText) : CodeText :=
  let bare := Text.trim (· == CodePoint.ofChar '/') written
  if bare.isEmpty then [] else CodePoint.ofChar '/' :: bare

def nameText (written action : CodeText) : CodeText :=
  if action = CodeText.ofString "index" then written
  else written ++ CodeText.ofString "_" ++ action

end EntityScaffold.Route
