import EntityScaffold.Path
import EntityScaffold.RoutingFormat
import EntityScaffold.Action
import EntityScaffold.Text.Utf8
import EntityScaffold.Value.Printed

/-
Checks of loosely typed arguments. A check either gives a typed value or lists everything that is
wrong, each with the place where it is wrong; the checks of the members of a record are all made, in
the order of the members.
-/

namespace EntityScaffold

/-- A step into a value: the name of a member, or a number that is one or tells the place of an item.
-/
inductive PlaceStep where
  | member (name : String)
  | item (index : Int)
  deriving DecidableEq, Repr

inductive Complaint where
  | missing
  | notText
  | notUnicode
  | notList
  | notMapping
  | notBool
  | unreadableBool
  | notRecord (name : String)
  | notObject
  | notPath
  | notFormat
  | notAction
  | notJson
  deriving DecidableEq, Repr

namespace Complaint

/-- The word for a kind of complaint. -/
def kind : Complaint → String
  | .missing => "missing"
  | .notText => "string_type"
  | .notUnicode => "string_unicode"
  | .notList => "list_type"
  | .notMapping => "dict_type"
  | .notBool => "bool_type"
  | .unreadableBool => "bool_parsing"
  | .notRecord _ | .notObject => "model_type"
  | .notPath => "path_type"
  | .notFormat | .notAction => "enum"
  | .notJson => "json_invalid"

def message : Complaint → String
  | .missing => "Field required"
  | .notText => "Input should be a valid string"
  | .notUnicode => "Input should be a valid string, unable to parse raw data as a unicode string"
  | .notList => "Input should be a valid list"
  | .notMapping => "Input should be a valid dictionary"
  | .notBool => "Input should be a valid boolean"
  | .unreadableBool => "Input should be a valid boolean, unable to interpret input"
  | .notRecord name => "Input should be a valid dictionary or instance of " ++ name
  | .notObject => "Input should be an object"
  | .notPath => "Input is not a valid path for <class \x27pathlib.Path\x27>"
  | .notFormat => "Input should be \x27yaml\x27, \x27xml\x27, \x27php\x27 or \x27annotation\x27"
  | .notAction =>
    "Input should be \x27index\x27, \x27show\x27, \x27new\x27, \x27edit\x27 or \x27delete\x27"
  | .notJson => "Invalid JSON"

end Complaint

structure Objection where
  place : List PlaceStep
  complaint : Complaint
  deriving DecidableEq, Repr

/-- All objections to the arguments of a record. -/
structure ValidationError where
  title : String
  objections : List Objection
  deriving DecidableEq, Repr

namespace ValidationError

/-- The first line of the report on an error. -/
def headline (error : ValidationError) : String :=
  let count := error.objections.length
  toString count ++ " validation error" ++ (if count = 1 then "" else "s") ++ " for " ++ error.title

end ValidationError

inductive Checked (α : Type) where
  | good (value : α)
  | bad (objections : List Objection)

namespace Checked

variable {α β : Type}

def map (f : α → β) : Checked α → Checked β
  | .good value => .good (f value)
  | .bad objections => .bad objections

/-- Both checks are made, and the objections of both are kept. -/
def both (f : Checked (α → β)) (x : Checked α) : Checked β :=
  match f, x with
  | .good f, .good value => .good (f value)
  | .good _, .bad objections => .bad objections
  | .bad objections, .good _ => .bad objections
  | .bad left, .bad right => .bad (left ++ right)

instance : Applicative Checked where
  pure := .good
  seq f x := both f (x ())

def object (complaint : Complaint) : Checked α := .bad [⟨[], complaint⟩]

/-- A check made one step further inside. -/
def inside (step : PlaceStep) : Checked α → Checked α
  | .good value => .good value
  | .bad objections => .bad (objections.map fun objection =>
    { objection with place := step :: objection.place })

/-- The value that a word stands for. Surrogates make no words. -/
def word (complaint : Complaint) (meaning? : List Char → Option α) (text : CodeText) : Checked α :=
  match text.toChars? with
  | none => object .notUnicode
  | some chars =>
    match meaning? chars with
    | some value => .good value
    | none => object complaint

def toExcept (title : String) : Checked α → Except ValidationError α
  | .good value => .ok value
  | .bad objections => .error ⟨title, objections⟩

end Checked

/-- A check of one value. -/
abbrev Check (α : Type) := Value → Checked α

namespace Check

/-- The string of a text. Names, options and paths are Unicode strings throughout: a text with
surrogates has none, and it is refused where a string is wanted. -/
def stringOf (text : CodeText) : Checked String :=
  match text.toString? with
  | some string => .good string
  | none => .object .notUnicode

/-- Text, or octets that are UTF-8. -/
def text : Check String
  | .text content => stringOf content
  | .bytes octets =>
    match Text.Utf8.decode octets with
    | .ok chars => .good (String.ofList chars)
    | .error _ => .object .notUnicode
  | _ => .object .notText

/-- Code points, or octets that are UTF-8. -/
def codeText : Check CodeText
  | .text content => .good content
  | .bytes octets =>
    match Text.Utf8.decode octets with
    | .ok chars => .good (CodeText.ofChars chars)
    | .error _ => .object .notUnicode
  | _ => .object .notText

def path : Check Path
  | .text content => (stringOf content).map Path.ofString
  | _ => .object .notPath

def codePath : Check CodePath
  | .text content => .good (CodePath.ofCodeText content)
  | _ => .object .notPath

def optional {α : Type} (check : Check α) : Check (Option α)
  | .null => .good none
  | value => (check value).map some

def boolWord? (word : List Char) : Option Bool :=
  let lowered := String.ofList (word.map Char.toLower)
  if ["1", "on", "t", "true", "y", "yes"].contains lowered then some true
  else if ["0", "off", "f", "false", "n", "no"].contains lowered then some false
  else none

/-- A number of 64 bits is read as a truth value, which it need not be; others are of another kind.
-/
def boolNumber (number : Int) : Checked Bool :=
  if number = 0 then .good false
  else if number = 1 then .good true
  else if Value.fitsWord number then .object .unreadableBool
  else .object .notBool

/-- A truth value, a word for one, or the numbers zero and one. -/
def bool : Check Bool
  | .bool value => .good value
  | .text content => Checked.word .unreadableBool boolWord? content
  | .int value => boolNumber value
  | .float value =>
    match Value.exactInt? value with
    | some number => if number = Value.leastWord then .object .notBool else boolNumber number
    | none => .object .notBool
  | _ => .object .notBool

def itemsFrom {α : Type} (check : Check α) (index : Nat) : List Value → Checked (List α)
  | [] => .good []
  | item :: rest =>
    List.cons <$> (check item).inside (.item index) <*> itemsFrom check (index + 1) rest

/-- A list; the members of a set are listed too. -/
def list {α : Type} (check : Check α) : Check (List α)
  | .list items | .set items => itemsFrom check 0 items
  | _ => .object .notList

/-- The step to the value under a key; a key that is neither text nor a number of 64 bits is named by
its written form. -/
def stepTo (key : Value) : PlaceStep :=
  match key with
  | .text name => .member name.toStringReplacing
  | _ =>
    match key.asInt? with
    | some value => if Value.fitsWord value then .item value else named
    | none => named
where
  named : PlaceStep :=
    match key.quoted [] with
    | .ok chars => .member (String.ofList chars)
    | .error _ => .member "<unprintable int object>"

/-- The entries of a mapping whose keys and values pass one check. -/
def entries {α : Type} (check : Check α) : List (Value × Value) → Checked (List (α × α))
  | [] => .good []
  | (key, value) :: rest =>
    let checkedKey := ((check key).inside (.member "[key]")).inside (stepTo key)
    let checkedValue := (check value).inside (stepTo key)
    List.cons <$> (Prod.mk <$> checkedKey <*> checkedValue) <*> entries check rest

def mapping {α : Type} (check : Check α) : Check (List (α × α))
  | .map content => entries check content
  | _ => .object .notMapping

def action : Check Action
  | .text content =>
    Checked.word .notAction (fun word => Action.ofText? (String.ofList word)) content
  | _ => .object .notAction

def routingFormat : Check RoutingFormat
  | .text content =>
    Checked.word .notFormat (fun word => RoutingFormat.ofText? (String.ofList word)) content
  | _ => .object .notFormat

def record {α : Type} (name : String) (members : List (Value × Value) → Checked α) : Check α
  | .map entries => members entries
  | _ => .object (.notRecord name)

def required {α : Type} (name : String) (check : Check α) (members : List (Value × Value)) :
    Checked α :=
  Checked.inside (.member name)
    (match Value.get? name members with
      | some value => check value
      | none => .object .missing)

/-- A member with a usual value. -/
def withDefault {α : Type} (name : String) (usual : α) (check : Check α)
    (members : List (Value × Value)) : Checked α :=
  match Value.get? name members with
  | some value => (check value).inside (.member name)
  | none => .good usual

end Check

end EntityScaffold
