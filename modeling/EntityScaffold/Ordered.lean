/-
Mappings that keep the order of first insertion: a repeated key keeps its place and takes the last
value.
-/

namespace EntityScaffold.Ordered

variable {κ ν : Type}

/-- Puts a value under a key; `same` tells which keys are one. -/
def insertBy (same : κ → κ → Bool) (key : κ) (value : ν) : List (κ × ν) → List (κ × ν)
  | [] => [(key, value)]
  | entry :: rest =>
    if same entry.1 key then (entry.1, value) :: rest
    else entry :: insertBy same key value rest

def ofListBy (same : κ → κ → Bool) (entries : List (κ × ν)) : List (κ × ν) :=
  entries.foldl (fun built entry => insertBy same entry.1 entry.2 built) []

def insert [BEq κ] (key : κ) (value : ν) : List (κ × ν) → List (κ × ν) :=
  insertBy (· == ·) key value

def ofList [BEq κ] (entries : List (κ × ν)) : List (κ × ν) :=
  ofListBy (· == ·) entries

end EntityScaffold.Ordered
