import EntityScaffold.Value.Printed

/-
Data that a skeleton is filled with. A name without a value is a datum too; it does no harm until
its text, its truth or its items are asked for. A few names mean something in every skeleton.
-/

namespace EntityScaffold

namespace Skeleton

inductive Datum where
  | undefined (name : String)
  | null
  | flag (value : Bool)
  | whole (value : Int)
  | real (value : Float)
  | text (value : CodeText)
  | list (items : List Datum)
  | table (entries : List (CodeText × Datum))
  /-- A value of a kind of its own that is only good for being shown. -/
  | builtIn (kind shown : String)
  deriving Inhabited

/-- Why a skeleton gives no text. It may be missing, malformed, or ask for what its data do not
have; data of the wrong kind, files that are no text, and whatever else a skeleton may run into are
faults of another sort. -/
inductive RenderFault where
  | notFound
  | malformed (reason : CodeText)
  | undefinedName (name : String)
  | noMember (owner : String) (member : CodeText)
  | noElement (owner element : String)
  | wrongKind (reason : String)
  | undecodable (error : Text.Utf8.DecodeError)
  | noText (fault : Value.TextFault)
  | other (kind : String) (message : CodeText)
  deriving DecidableEq, Repr

/-- What is reported on a fault; `place` is where skeletons are looked for. -/
def RenderFault.reason (place : CodeText) : RenderFault → CodeText
  | .notFound => CodeText.ofString "skeleton not found in " ++ place
  | .malformed reason => reason
  | .undefinedName name => CodeText.ofString (Text.quoted name ++ " is undefined")
  | .noMember owner member =>
    CodeText.ofString (Text.quoted owner ++ " has no attribute " ++
      String.ofList (Text.quotedPoints (member.map CodePoint.value)))
  | .noElement owner element => CodeText.ofString (owner ++ " has no element " ++ element)
  | .wrongKind reason => CodeText.ofString reason
  | .undecodable error => CodeText.ofString error.message
  | .noText _ => []
  | .other _ message => message

namespace Datum

def string (value : String) : Datum := .text (CodeText.ofString value)

def kindName : Datum → String
  | .undefined _ => "StrictUndefined"
  | .null => "NoneType"
  | .flag _ => "bool"
  | .whole _ => "int"
  | .real _ => "float"
  | .text _ => "str"
  | .list _ => "list"
  | .table _ => "dict"
  | .builtIn kind _ => kind

/-- What a datum without a member is called. -/
def ownerName : Datum → String
  | .null => "None"
  | datum => datum.kindName ++ " object"

mutual

def toValue : Datum → Value
  | .undefined name => .string name
  | .null => .null
  | .flag value => .bool value
  | .whole value => .int value
  | .real value => .float value
  | .text value => .text value
  | .list items => .list (toValues items)
  | .table entries => .map (toEntries entries)
  | .builtIn _ shown => .string shown

def toValues : List Datum → List Value
  | [] => []
  | item :: rest => toValue item :: toValues rest

def toEntries : List (CodeText × Datum) → List (Value × Value)
  | [] => []
  | (name, item) :: rest => (.text name, toValue item) :: toEntries rest

end

/-- The written form of a datum that is no text. -/
def written (datum : Datum) : Except RenderFault String :=
  ((datum.toValue.quoted []).map String.ofList).mapError .noText

def shown : Datum → Except RenderFault CodeText
  | .undefined name => .error (.undefinedName name)
  | .text value => .ok value
  | .builtIn _ value => .ok (CodeText.ofString value)
  | datum => datum.written.map CodeText.ofString

/-- Does a datum count as true? Empty data do not. -/
def counts : Datum → Except RenderFault Bool
  | .undefined name => .error (.undefinedName name)
  | .null => .ok false
  | .flag value => .ok value
  | .whole value => .ok (value ≠ 0)
  | .real value => .ok (!(value == 0))
  | .text value => .ok (!value.isEmpty)
  | .list items => .ok (!items.isEmpty)
  | .table entries => .ok (!entries.isEmpty)
  | .builtIn _ _ => .ok true

def items : Datum → Except RenderFault (List Datum)
  | .undefined name => .error (.undefinedName name)
  | .list items => .ok items
  | .table entries => .ok (entries.map fun entry => .text entry.1)
  | .text value => .ok (value.map fun point => .text [point])
  | datum => .error (.wrongKind ("\x27" ++ datum.kindName ++ "\x27 object is not iterable"))

/-- Is a datum a given text? -/
def isText (wanted : String) : Datum → Except RenderFault Bool
  | .undefined name => .error (.undefinedName name)
  | .text value => .ok (value = CodeText.ofString wanted)
  | _ => .ok false

/-- Is one of the items a given text? -/
def anyIsText (wanted : String) : List Datum → Except RenderFault Bool
  | [] => .ok false
  | item :: rest => do if ← item.isText wanted then return true else anyIsText wanted rest

def isInfix (inner : CodeText) : CodeText → Bool
  | [] => inner.isEmpty
  | point :: rest => inner.isPrefixOf (point :: rest) || isInfix inner rest

/-- Does a datum contain a text: as an item, as a name, or as a part? -/
def containsText (wanted : String) : Datum → Except RenderFault Bool
  | .undefined name => .error (.undefinedName name)
  | .list items => anyIsText wanted items
  | .table entries => .ok (entries.any fun entry => entry.1 == CodeText.ofString wanted)
  | .text value => .ok (isInfix (CodeText.ofString wanted) value)
  | datum =>
    .error (.wrongKind ("argument of type \x27" ++ datum.kindName ++ "\x27 is not iterable"))

end Datum

end Skeleton

/-- What a skeleton is filled with: data by their names. -/
abbrev Bindings := List (String × Skeleton.Datum)

end EntityScaffold
