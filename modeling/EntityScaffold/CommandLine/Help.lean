import EntityScaffold.CommandLine.Flag

/-
The help text. The usage is broken in front of a part that does not fit into the line; the help of a
flag stands beside it, or below it if the flag leaves no room.
-/

namespace EntityScaffold.CommandLine

def programName : String := "crudgen"

def helpWidth : Nat := 198

def helpColumn : Nat := 24

def blanks (count : Nat) : String := String.ofList (List.replicate count ' ')

def invocation (name : String) (flag : Flag) : String :=
  match flag.valueWord? with
  | some word => name ++ " " ++ word
  | none => name

/-- A flag in the usage, in brackets unless it is required. -/
def usagePart (flag : Flag) : String :=
  let shown := invocation (flag.names.headD "") flag
  if flag.isRequired then shown else "[" ++ shown ++ "]"

/-- Parts on lines, `used` characters of the current one being taken. The current line comes last
first. -/
def fillLines (indent : Nat) (used : Nat) (current : List String) : List String → List String
  | [] => if current.isEmpty then [] else [" ".intercalate current.reverse]
  | part :: rest =>
    if helpWidth < used + 1 + part.length && !current.isEmpty then
      " ".intercalate current.reverse :: fillLines indent (indent + part.length) [part] rest
    else fillLines indent (used + part.length + 1) (part :: current) rest

/-- The usage, its lines indented behind the name of the program. -/
def usage : String :=
  let start := "usage: "
  let indent := start.length + programName.length + 1
  let flagLines := fillLines indent (start.length - 1) [] (programName :: Flag.all.map usagePart)
  let rest := (flagLines.drop 1 ++ [operandName]).map (blanks indent ++ ·)
  start ++ "\n".intercalate (flagLines.headD "" :: rest) ++ "\n"

/-- One entry of the help: what it is about, and its line. -/
def helpEntry (shown line : String) : String :=
  if shown.length ≤ helpColumn - 4 then
    "  " ++ shown ++ blanks (helpColumn - 2 - shown.length) ++ line ++ "\n"
  else "  " ++ shown ++ "\n" ++ blanks helpColumn ++ line ++ "\n"

def flagEntry (flag : Flag) : String :=
  helpEntry (", ".intercalate (flag.names.map fun name => invocation name flag)) flag.helpLine

def examples : String :=
  "Examples:\n" ++
  "  crudgen Blog.Post --bundle-path src/BlogBundle --bundle-namespace Acme.BlogBundle \\\n" ++
  "      --metadata post.yaml\n" ++
  "  crudgen Blog.Post ... --with-write --format xml --route-prefix admin/post\n"

def helpText : String :=
  usage ++ "\n" ++
  "Generate a CRUD controller, views, tests and routing for an entity\n\n" ++
  "positional arguments:\n" ++ helpEntry operandName operandHelp ++ "\n" ++
  "options:\n" ++ String.join (Flag.all.map flagEntry) ++ "\n" ++
  examples

end EntityScaffold.CommandLine
