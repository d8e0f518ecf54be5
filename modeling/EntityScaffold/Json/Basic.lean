import EntityScaffold.Value.Basic

/-
Values of JSON texts. Integers are unbounded and distinct from floating-point numbers; the members
of an object keep their order and have distinct names.
-/

namespace EntityScaffold

inductive Json where
  | null
  | bool (value : Bool)
  | int (value : Int)
  | float (value : Float)
  | text (value : CodeText)
  | list (items : List Json)
  | object (members : List (CodeText × Json))
  deriving Inhabited

namespace Json

def string (value : String) : Json := .text (CodeText.ofString value)

mutual

def toValue : Json → Value
  | .null => .null
  | .bool value => .bool value
  | .int value => .int value
  | .float value => .float value
  | .text value => .text value
  | .list items => .list (toValues items)
  | .object members => .map (toEntries members)

def toValues : List Json → List Value
  | [] => []
  | item :: rest => toValue item :: toValues rest

def toEntries : List (CodeText × Json) → List (Value × Value)
  | [] => []
  | (name, item) :: rest => (.text name, toValue item) :: toEntries rest

end

/-- A JSON value as a document; no collection of it contains itself. -/
def toDocument (json : Json) : Document := ⟨json.toValue, []⟩

def get? (json : Json) (name : String) : Option Json :=
  match json with
  | .object members => members.lookup (CodeText.ofString name)
  | _ => none

end Json

end EntityScaffold
