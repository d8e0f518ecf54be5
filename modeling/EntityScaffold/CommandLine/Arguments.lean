import EntityScaffold.CommandLine.Word
import EntityScaffold.Text.Quoted

/-
Arguments. The words of a command line are taken one by one; the first operand is the entity, a flag
given again takes the last value, and what nobody takes is reported at the end, unless something
that is required is missing.
-/

namespace EntityScaffold.CommandLine

namespace UsageError

def message : UsageError → String
  | .ambiguous text names =>
    "ambiguous option: " ++ text ++ " could match " ++ ", ".intercalate names
  | .missingValue flag => "argument " ++ flag.title ++ ": expected one argument"
  | .unwantedValue flag value =>
    "argument " ++ flag.title ++ ": ignored explicit argument " ++ Text.quoted value
  | .missing titles => "the following arguments are required: " ++ ", ".intercalate titles
  | .unrecognized texts => "unrecognized arguments: " ++ " ".intercalate texts

end UsageError

/-- What the words have said so far. -/
structure Given where
  entity : Option String := none
  values : List (Flag × String) := []
  withWrite : Bool := false
  leftOver : List String := []
  deriving DecidableEq, Repr

namespace Given

def value? (given : Given) (flag : Flag) : Option String := given.values.lookup flag

/-- Is the value of a flag given and not empty? -/
def filled? (given : Given) (flag : Flag) : Option String :=
  (given.value? flag).filter (· ≠ "")

def setValue (given : Given) (flag : Flag) (value : String) : Given :=
  { given with values := (flag, value) :: given.values }

def leave (given : Given) (text : String) : Given :=
  { given with leftOver := given.leftOver ++ [text] }

def missing (given : Given) : List String :=
  (if given.entity.isNone then [operandName] else []) ++
    (Flag.all.filter fun flag => flag.isRequired && (given.value? flag).isNone).map Flag.title

end Given

inductive Reading where
  | asksForHelp
  | complete (given : Given)
  deriving DecidableEq, Repr

namespace Reading

def takeWords (given : Given) : List Word → Except UsageError Reading
  | [] => .ok (.complete given)
  | .unknownFlag text :: rest => takeWords (given.leave text) rest
  | .operand text :: .separator :: rest =>
    if given.entity.isNone then takeWords { given with entity := some text } rest
    else takeWords ((given.leave text).leave "--") rest
  | .operand text :: rest =>
    if given.entity.isNone then takeWords { given with entity := some text } rest
    else takeWords (given.leave text) rest
  | .separator :: .operand text :: rest =>
    if given.entity.isNone then takeWords { given with entity := some text } rest
    else takeWords ((given.leave "--").leave text) rest
  | .separator :: rest => takeWords (given.leave "--") rest
  | .named .help _ none :: _ => .ok .asksForHelp
  | .named .help _ (some value) :: _ => .error (.unwantedValue .help value)
  | .named .withWrite _ none :: rest => takeWords { given with withWrite := true } rest
  | .named .withWrite _ (some value) :: _ => .error (.unwantedValue .withWrite value)
  | .named flag _ (some value) :: rest => takeWords (given.setValue flag value) rest
  | .named flag _ none :: .operand value :: rest => takeWords (given.setValue flag value) rest
  | .named flag _ none :: _ => .error (.missingValue flag)

def ofTexts (texts : List String) : Except UsageError Reading := do
  match ← takeWords {} (← Word.ofTexts texts) with
  | .asksForHelp => return .asksForHelp
  | .complete given =>
    if !given.missing.isEmpty then throw (.missing given.missing)
    else if !given.leftOver.isEmpty then throw (.unrecognized given.leftOver)
    else return .complete given

end Reading

end EntityScaffold.CommandLine
