import EntityScaffold.Route
import EntityScaffold.Skeleton.Syntax
import EntityScaffold.Text.Words

/-
Rendering. An expression is evaluated in a scope; names are looked up among the assigned ones first.
The first fault in the order of rendering ends it. An assignment holds to the end of the skeleton,
or to the end of the pass of the loop in which it stands.
-/

namespace EntityScaffold.Skeleton

/-- The names with a value, the latest first, and where in the innermost loop the scope stands. -/
structure Scope where
  bindings : List (String × Datum)
  isFirst : Bool := false
  isLast : Bool := false

namespace Scope

/-- How a class is shown. -/
def classNamed (name : String) : Datum :=
  .builtIn "type" ("<class \x27" ++ name ++ "\x27>")

/-- Names that mean something in every skeleton. -/
def builtIns : List (String × Datum) :=
  [("namespace", classNamed "jinja2.utils.Namespace"), ("range", classNamed "range"),
   ("dict", classNamed "dict"), ("cycler", classNamed "jinja2.utils.Cycler"),
   ("joiner", classNamed "jinja2.utils.Joiner"),
   ("lipsum", .builtIn "function" "<function generate_lorem_ipsum>")]

def get (scope : Scope) (name : String) : Datum :=
  match scope.bindings.lookup name with
  | some datum => datum
  | none => (builtIns.lookup name).getD (.undefined name)

def assign (scope : Scope) (name : String) (datum : Datum) : Scope :=
  { scope with bindings := (name, datum) :: scope.bindings }

end Scope

/-- The text of a datum that has to be text already. -/
def textOnly (datum : Datum) : Except RenderFault CodeText :=
  match datum with
  | .text value => .ok value
  | _ =>
    .error (.wrongKind
      ("expected string or bytes-like object, got \x27" ++ datum.kindName ++ "\x27"))

/-- Text between two marks; nothing but text can stand between them. -/
def between (opening closing : String) (datum : Datum) : Except RenderFault Datum :=
  match datum with
  | .text value => .ok (.text (CodeText.ofString opening ++ value ++ CodeText.ofString closing))
  | .undefined name => .error (.undefinedName name)
  | _ =>
    .error (.wrongKind ("can only concatenate str (not \x22" ++ datum.kindName ++ "\x22) to str"))

def replacePoint (old new : Char) (text : CodeText) : CodeText :=
  text.map fun point => if point = CodePoint.ofChar old then CodePoint.ofChar new else point

def Filter.apply (filter : Filter) (datum : Datum) : Except RenderFault Datum :=
  match filter with
  | .replace old new => do return .text (replacePoint old new (← datum.shown))
  | .lower => do return .text ((← datum.shown).mapRuns Text.lower)
  | .join separator => do
    let texts ← (← datum.items).mapM Datum.shown
    return .text (Text.joinWith separator texts)
  | .humanize => do return .text ((← textOnly datum).mapWhole Text.humanize)
  | .twigVariable => between "\x7b\x7b " " \x7d\x7d" datum
  | .twigTag => between "\x7b% " " %\x7d" datum
  | .unknown name =>
    .error (.malformed (.ofString ("No filter named " ++ Text.quoted name ++ " found.")))

/-- A route prefix without stray slashes at its ends is asked for; only text has it. A member of that
name does not help. -/
def strippable (datum : Datum) : Except RenderFault CodeText :=
  match datum with
  | .text value => .ok value
  | .undefined name => .error (.undefinedName name)
  | .table entries =>
    match entries.lookup (CodeText.ofString "strip") with
    | some member => .error (.wrongKind ("\x27" ++ member.kindName ++ "\x27 object is not callable"))
    | none => .error (.noMember datum.ownerName (CodeText.ofString "strip"))
  | _ => .error (.noMember datum.ownerName (CodeText.ofString "strip"))

/-- The non-empty parts of a namespace with a backslash between them, and for each dot. -/
def nameSpaceText (parts : List CodeText) : CodeText :=
  replacePoint '.' '\x5c' (Text.joinWith (CodeText.ofString ".") parts)

/-- The texts of the data that count. -/
def countingTexts : List Datum → Except RenderFault (List CodeText)
  | [] => .ok []
  | datum :: rest => do
    if ← datum.counts then
      let value ← datum.shown
      return value :: (← countingTexts rest)
    else countingTexts rest

/-- What every table has beside its entries. -/
def tableMembers : List (String × Datum) := [
  ("__class__", Scope.classNamed "dict"),
  ("__hash__", .null),
  ("__doc__", .string ("dict() -> new empty dictionary\n" ++
    "dict(mapping) -> new dictionary initialized from a mapping object's\n" ++
    "    (key, value) pairs\n" ++
    "dict(iterable) -> new dictionary initialized as if via:\n" ++
    "    d = \x7b\x7d\n    for k, v in iterable:\n        d[k] = v\n" ++
    "dict(**kwargs) -> new dictionary initialized with the name=value pairs\n" ++
    "    in the keyword argument list.  For example:  dict(one=1, two=2)"))]

/-- What an action adds to the path of its route. -/
def routeTail (action : Datum) : Except RenderFault CodeText :=
  match action with
  | .text action =>
    let name := action.toStringReplacing
    match Route.tail? name, tableMembers.lookup name with
    | some tail, _ => .ok (CodeText.ofString tail)
    | none, some datum => datum.shown
    | none, none => .error (.noMember "dict object" action)
  | .undefined name => .error (.undefinedName name)
  | other => do throw (.noElement "dict object" (← other.written))

mutual

def Expr.eval (scope : Scope) : Expr → Except RenderFault Datum
  | .name name => .ok (scope.get name)
  | .text value => .ok (.string value)
  | .constant datum => .ok datum
  | .joined parts => do
    let texts ← (← evalAll scope parts).mapM Datum.shown
    return .text texts.flatten
  | .filtered filter expr => do filter.apply (← expr.eval scope)
  | .joinedBy items separator => do
    let items ← items.eval scope
    (Filter.join (← (← separator.eval scope).shown)).apply items
  | .equals expr text => do return .flag (← (← expr.eval scope).isText text)
  | .contains collection text => do return .flag (← (← collection.eval scope).containsText text)
  | .oneOf expr texts => do
    let datum ← expr.eval scope
    return .flag (← texts.anyM fun text => datum.isText text)
  | .either left right => do
    let datum ← left.eval scope
    if ← datum.counts then return datum else right.eval scope
  | .both left right => do
    let datum ← left.eval scope
    if ← datum.counts then right.eval scope else return datum
  | .negated expr => do return .flag (!(← (← expr.eval scope).counts))
  | .isFirst => .ok (.flag scope.isFirst)
  | .isLast => .ok (.flag scope.isLast)
  | .routeBase start => do
    let written ← strippable (← start.eval scope)
    return .text (Route.baseText written)
  | .routePath start action => do
    let written ← strippable (← start.eval scope)
    let tail ← routeTail (← action.eval scope)
    return .text (Route.baseText written ++ tail)
  | .routeName start action => do
    let written ← (← start.eval scope).shown
    let action ← (← action.eval scope).shown
    return .text (Route.nameText written action)
  | .nameSpace parts => do
    let texts ← countingTexts (← evalAll scope parts)
    return .text (nameSpaceText texts)

def evalAll (scope : Scope) : List Expr → Except RenderFault (List Datum)
  | [] => .ok []
  | expr :: rest => do return (← expr.eval scope) :: (← evalAll scope rest)

end

/-- How a loop tells where it stands. -/
def standing (index total : Nat) : Datum :=
  .builtIn "LoopContext" ("<LoopContext " ++ toString (index + 1) ++ "/" ++ toString total ++ ">")

/-- One pass for each item, of which the first has a number; the first and the last pass of all are
marked. -/
def passes (bind : Scope → Datum → Scope) (body : Scope → Except RenderFault CodeText)
    (scope : Scope) (total index : Nat) : List Datum → Except RenderFault CodeText
  | [] => .ok []
  | item :: rest => do
    let told := scope.assign loopName (standing index total)
    let text ← body { bind told item with isFirst := index = 0, isLast := rest.isEmpty }
    return text ++ (← passes bind body scope total (index + 1) rest)

def tableEntries (datum : Datum) : Except RenderFault (List Datum) :=
  match datum with
  | .table entries => .ok (entries.map fun entry => .list [.text entry.1, entry.2])
  | .undefined name => .error (.undefinedName name)
  | _ => .error (.noMember datum.ownerName (CodeText.ofString "items"))

/-- A scope with the two components of an entry. -/
def bindEntry (key value : String) (scope : Scope) : Datum → Scope
  | .list [first, second] => (scope.assign key first).assign value second
  | _ => scope

mutual

/-- Renders one piece; `included` renders another skeleton by its name. The scope comes back with
the assignments of the piece. -/
def renderPiece (included : CodeText → Scope → Except RenderFault CodeText) (scope : Scope) :
    Piece → Except RenderFault (CodeText × Scope)
  | .text value => .ok (CodeText.ofString value, scope)
  | .emit expr => do return (← (← expr.eval scope).shown, scope)
  | .assign name expr => do return ([], scope.assign name (← expr.eval scope))
  | .branch condition yes no => do
    if ← (← condition.eval scope).counts then renderPieces included scope yes
    else renderPieces included scope no
  | .each item collection body otherwise => do
    let items ← (← collection.eval scope).items
    if items.isEmpty then
      let (text, _) ← renderPieces included scope otherwise
      return (text, scope)
    let text ← passes (fun told datum => told.assign item datum)
      (fun inner => (renderPieces included inner body).map Prod.fst) scope items.length 0 items
    return (text, scope)
  | .eachEntry key value table body => do
    let entries ← tableEntries (← table.eval scope)
    let text ← passes (bindEntry key value)
      (fun inner => (renderPieces included inner body).map Prod.fst) scope entries.length 0 entries
    return (text, scope)
  | .include name => do
    let name ← (← name.eval scope).shown
    return (← included name scope, scope)

def renderPieces (included : CodeText → Scope → Except RenderFault CodeText) (scope : Scope) :
    List Piece → Except RenderFault (CodeText × Scope)
  | [] => .ok ([], scope)
  | piece :: rest => do
    let (text, next) ← renderPiece included scope piece
    let (tail, last) ← renderPieces included next rest
    return (text ++ tail, last)

end

end EntityScaffold.Skeleton
