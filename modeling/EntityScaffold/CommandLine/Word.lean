import EntityScaffold.CommandLine.Flag
import EntityScaffold.Text.Digits

/-
Words of a command line. A word is a flag, perhaps with a value behind an equals sign, or an
operand. The name of a flag may be cut short as long as only one name begins that way. Behind two
dashes that stand alone every word is an operand.
-/

namespace EntityScaffold.CommandLine

inductive Word where
  | operand (text : String)
  | named (flag : Flag) (name : String) (value : Option String)
  | unknownFlag (text : String)
  | separator
  deriving DecidableEq, Repr

inductive UsageError where
  | ambiguous (text : String) (names : List String)
  | missingValue (flag : Flag)
  | unwantedValue (flag : Flag) (value : String)
  | missing (titles : List String)
  | unrecognized (texts : List String)
  deriving DecidableEq, Repr

namespace Word

/-- A word at its first equals sign. -/
def splitValue (chars : List Char) : List Char × Option (List Char) :=
  let name := chars.takeWhile (· ≠ '=')
  if name.length < chars.length then (name, some (chars.drop (name.length + 1))) else (chars, none)

/-- What stands behind the short name of the flag for help. The name may be repeated; a value behind an
equals sign and a dash are kept, and anything else is of no account. -/
def behindShortName : List Char → Option String
  | 'h' :: rest => behindShortName rest
  | '=' :: value => some (String.ofList value)
  | '-' :: rest => some (String.ofList ('-' :: rest))
  | _ => none

/-- The flags that a word may mean by the start of a name, or by a short name with something behind
it. -/
def candidates (chars : List Char) : List (String × Flag × Option String) :=
  match chars with
  | '-' :: '-' :: _ =>
    let (start, value) := splitValue chars
    Flag.table.filterMap fun (name, flag) =>
      if start.isPrefixOf name.toList then some (name, flag, value.map String.ofList) else none
  | _ =>
    Flag.table.filterMap fun (name, flag) =>
      if name.toList = chars.take 2 then some (name, flag, behindShortName (chars.drop 2))
      else if chars.isPrefixOf name.toList then some (name, flag, none)
      else none

/-- Digits with at most one point among them or in front of them, behind one dash; a line end may
follow. -/
def isNegativeNumber (chars : List Char) : Bool :=
  match chars with
  | '-' :: digits =>
    let digits := if digits.getLast? = some '\n' then digits.dropLast else digits
    let whole := digits.dropWhile Text.isDecimalDigit
    match whole with
    | [] => !digits.isEmpty
    | '.' :: fraction => !fraction.isEmpty && fraction.all Text.isDecimalDigit
    | _ => false
  | _ => false

/-- The flag that a word names in full, with the value behind its first equals sign. -/
def inFull? (text : String) : Option Word :=
  match Flag.ofName? text with
  | some flag => some (.named flag text none)
  | none =>
    match splitValue text.toList with
    | (name, some value) =>
      (Flag.ofName? (String.ofList name)).map fun flag =>
        .named flag (String.ofList name) (some (String.ofList value))
    | _ => none

/-- A word that begins with a dash and names no flag in full. -/
def classifyDashed (text : String) : Except UsageError Word :=
  match candidates text.toList with
  | [(name, flag, value)] => .ok (.named flag name value)
  | [] =>
    if isNegativeNumber text.toList || text.toList.contains ' ' then .ok (.operand text)
    else .ok (.unknownFlag text)
  | several => .error (.ambiguous text (several.map Prod.fst))

def classify (text : String) : Except UsageError Word :=
  match text.toList with
  | '-' :: rest =>
    match inFull? text with
    | some word => .ok word
    | none => if rest.isEmpty then .ok (.operand text) else classifyDashed text
  | _ => .ok (.operand text)

def ofTexts : List String → Except UsageError (List Word)
  | [] => .ok []
  | text :: rest =>
    if text = "--" then .ok (.separator :: rest.map .operand)
    else do
      let word ← classify text
      return word :: (← ofTexts rest)

end Word

end EntityScaffold.CommandLine
