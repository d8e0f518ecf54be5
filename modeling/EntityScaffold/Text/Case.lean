import EntityScaffold.Text.Blank
import EntityScaffold.Text.CaseTables

/-
Lower and upper case of full Unicode. Lower case depends on the context in one place: a capital
sigma at the end of a word becomes the final letter `ς`, elsewhere the medial letter `σ`.
-/

namespace EntityScaffold.Text

def CaseRun.covers (run : CaseRun) (point : Nat) : Bool :=
  run.first ≤ point && point ≤ run.last && (point - run.first) % run.stride == 0

/-- The image of a code point under a table of runs; a code point in no run is its own image. -/
def shiftCase (runs : List CaseRun) (point : Nat) : Nat :=
  match runs.find? (·.covers point) with
  | some run => point + run.up - run.down
  | none => point

/-- The image of a character under a table of runs and a table of longer images. -/
def mapCase (runs : List CaseRun) (expansions : List (Nat × List Nat)) (char : Char) : List Char :=
  match expansions.find? (·.1 == char.toNat) with
  | some expansion => expansion.2.map Char.ofNat
  | none => [Char.ofNat (shiftCase runs char.toNat)]

def lowerChar : Char → List Char := mapCase lowerRuns lowerExpansions

def upperChar : Char → List Char := mapCase upperRuns upperExpansions

def isCased (char : Char) : Bool := inRanges casedRanges char.toNat

def isCaseIgnorable (char : Char) : Bool := inRanges caseIgnorableRanges char.toNat

/-- Is the nearest character that is not case-ignorable a cased one? -/
def meetsCased (chars : List Char) : Bool :=
  match chars.dropWhile isCaseIgnorable with
  | [] => false
  | char :: _ => isCased char

/-- A sigma is final after a cased character and not before one, case-ignorable characters apart. -/
def isFinalSigma (before after : List Char) : Bool :=
  meetsCased before && !meetsCased after

/-- Lower case of a text, `before` being the reversed text in front of it. -/
def lowerAfter (before : List Char) : List Char → List Char
  | [] => []
  | char :: rest =>
    (if char = 'Σ' then [if isFinalSigma before rest then 'ς' else 'σ'] else lowerChar char) ++
      lowerAfter (char :: before) rest

def lower (chars : List Char) : List Char := lowerAfter [] chars

/-- The text with its first character in upper case. -/
def capitalizeFirst : List Char → List Char
  | [] => []
  | char :: rest => upperChar char ++ rest

end EntityScaffold.Text
