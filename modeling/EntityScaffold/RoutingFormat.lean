import EntityScaffold.Value.Basic

/-
Formats of the routing configuration. A format is requested by any value: the four words choose a
format, and everything else means YAML. A collection that is not empty cannot be looked up.
-/

namespace EntityScaffold

inductive RoutingFormat where
  | yaml
  | xml
  | php
  | annotations
  deriving DecidableEq, Repr

namespace RoutingFormat

def text : RoutingFormat → String
  | .yaml => "yaml"
  | .xml => "xml"
  | .php => "php"
  | .annotations => "annotation"

def all : List RoutingFormat := [.yaml, .xml, .php, .annotations]

/-- Routes that are annotations live in the controller; every other format has a file. -/
def hasFile : RoutingFormat → Bool
  | .annotations => false
  | _ => true

def ofText? (text : String) : Option RoutingFormat := all.find? (·.text == text)

def negotiate (requested : String) : RoutingFormat := (ofText? requested).getD .yaml

/-- The format that a value asks for. The error is the kind of a collection. -/
def negotiateValue (requested : Value) : Except String RoutingFormat :=
  if !requested.counts then .ok .yaml
  else if !requested.isKey then .error requested.kindName
  else match requested with
    | .text content => .ok ((content.toString?.map negotiate).getD .yaml)
    | _ => .ok .yaml

end RoutingFormat

end EntityScaffold
