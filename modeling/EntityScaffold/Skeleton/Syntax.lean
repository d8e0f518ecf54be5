import EntityScaffold.Skeleton.Datum

/-
The language of skeletons. A skeleton is a list of pieces: text that is copied, expressions that are
shown, assignments, choices, loops, and other skeletons that are included.
-/

namespace EntityScaffold.Skeleton

/-- What can be done to the value of an expression. -/
inductive Filter where
  | replace (old new : Char)
  | lower
  | join (separator : CodeText)
  | humanize
  | twigVariable
  | twigTag
  /-- A filter that there is not. -/
  | unknown (name : String)
  deriving DecidableEq, Repr

inductive Expr where
  | name (name : String)
  | text (value : String)
  | constant (value : Datum)
  /-- The texts of the parts one after another. -/
  | joined (parts : List Expr)
  | filtered (filter : Filter) (expr : Expr)
  /-- The texts of the items with the text of the separator between any two. -/
  | joinedBy (items separator : Expr)
  | equals (expr : Expr) (text : String)
  | contains (collection : Expr) (text : String)
  | oneOf (expr : Expr) (texts : List String)
  | either (left right : Expr)
  | both (left right : Expr)
  | negated (expr : Expr)
  | isFirst
  | isLast
  /-- A route prefix as the start of a path. -/
  | routeBase (start : Expr)
  | routePath (start action : Expr)
  | routeName (start action : Expr)
  /-- The parts of a PHP namespace; empty ones are dropped. -/
  | nameSpace (parts : List Expr)

inductive Piece where
  | text (value : String)
  | emit (expr : Expr)
  | assign (name : String) (expr : Expr)
  | branch (condition : Expr) (yes no : List Piece)
  /-- The body for each item, or what is shown instead if there is none. -/
  | each (item : String) (collection : Expr) (body otherwise : List Piece)
  | eachEntry (key value : String) (table : Expr) (body : List Piece)
  | include (name : Expr)

/-! ### Names that are used -/

/-- The name under which a loop tells where it stands. -/
def loopName : String := "loop"

/-- The name under which a skeleton tells what it is. -/
def selfName : String := "self"

mutual

/-- Is a name read in an expression? -/
def Expr.mentions (name : String) : Expr → Bool
  | .name other => other = name
  | .text _ | .constant _ | .isFirst | .isLast => false
  | .joined parts | .nameSpace parts => anyMentions name parts
  | .filtered _ expr | .equals expr _ | .contains expr _ | .oneOf expr _ | .negated expr |
    .routeBase expr => expr.mentions name
  | .joinedBy left right | .either left right | .both left right | .routePath left right |
    .routeName left right =>
    left.mentions name || right.mentions name

def anyMentions (name : String) : List Expr → Bool
  | [] => false
  | expr :: rest => expr.mentions name || anyMentions name rest

end

/-- The first use of a name in an expression can only be that it is read. -/
def Expr.firstUse? (name : String) (expr : Expr) : Option Bool :=
  if expr.mentions name then some true else none

mutual

/-- Is a name read where it is first used, and not given a value there? -/
def Piece.firstUse? (name : String) : Piece → Option Bool
  | .text _ => none
  | .emit expr | .include expr => expr.firstUse? name
  | .assign target expr =>
    if target = name then some false else expr.firstUse? name
  | .branch condition yes no =>
    (condition.firstUse? name).or ((firstUse? name yes).or (firstUse? name no))
  | .each item collection body otherwise =>
    if item = name then some false
    else (collection.firstUse? name).or ((firstUse? name body).or (firstUse? name otherwise))
  | .eachEntry key value table body =>
    if key = name || value = name then some false
    else (table.firstUse? name).or (firstUse? name body)

def firstUse? (name : String) : List Piece → Option Bool
  | [] => none
  | piece :: rest => (piece.firstUse? name).or (firstUse? name rest)

end

end Skeleton

abbrev Skeleton := List Skeleton.Piece

end EntityScaffold
