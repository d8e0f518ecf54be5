import EntityScaffold.Skeleton.Syntax

/-
Phrases that the skeletons of the catalog share: whole lines, choices with one side, the names of
routes, and Twig statements. A Twig statement is printed with its marks around it.
-/

namespace EntityScaffold.Skeleton.Packaged

/-- Text made of whole lines. -/
def lines (texts : List String) : Piece := .text (String.join (texts.map (· ++ "\n")))

/-- Pieces that are rendered only under a condition. -/
def when (condition : Expr) (pieces : List Piece) : Piece := .branch condition pieces []

/-- Pieces for each item of a collection. -/
def each (item : String) (collection : Expr) (body : List Piece) : Piece :=
  .each item collection body []

/-- Is an action among those that are generated? -/
def hasAction (action : String) : Expr := .contains (.name "actions") action

/-- The name of the entity with another mark between its words. -/
def entityWith (mark : Char) : Expr := .filtered (.replace '.' mark) (.name "entity")

def routeTo (action : Expr) : Expr := .routeName (.name "route_name_prefix") action

/-- A Twig expression that is printed. -/
def printed (expr : Expr) : Expr := .filtered .twigVariable expr

/-- A Twig tag. -/
def tag (statement : String) : Expr := .filtered .twigTag (.text statement)

/-- The address of an action without a record. -/
def linkTo (action : Expr) : Expr :=
  printed (.joined [.text "path('", routeTo action, .text "')"])

/-- The address of an action on the record of a row. -/
def rowLinkTo (action : Expr) : Expr :=
  printed (.joined [.text "path('", routeTo action, .text "', \x7b 'id': entity.id \x7d)"])

/-- The form partial, included with the variable that holds the form. -/
def formIncludedWith (variableName : String) : Expr :=
  printed (.joined [.text "include('", .name "bundle", .text ":", .name "form_dir",
    .text (":form.html.twig', \x7b 'form': " ++ variableName ++ " \x7d)")])

/-- Does the type of a field mean a point in time? -/
def isMoment : Expr := .oneOf (.name "type") ["date", "datetime", "time"]

/-- What is put behind a point in time to print it. -/
def dateFilter : String := "|date('Y-m-d H:i:s')"

end EntityScaffold.Skeleton.Packaged
