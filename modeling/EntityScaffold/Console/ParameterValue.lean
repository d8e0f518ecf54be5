import EntityScaffold.Console.ParameterToken

/-
Values among the parameters of a handler: numbers, texts, words, and values in brackets, joined by
operators. What a value is does not matter to the text that is printed, so values are only
recognised. Where the tokens stop being a value, a few mistakes have a name of their own.
-/

namespace EntityScaffold.Console

/-- What a value is, as far as mistakes tell. -/
inductive Shape where
  | name (word : String)
  | constant (word : String)
  | literal
  | ellipsis
  | formatted
  | attribute
  | call
  | operation
  /-- A comparison; one by membership has what stands in front of the first word. -/
  | comparison (member : Option Shape)
  | conditional
  | function
  | awaited
  | yielded
  | named
  | starred (inner : Shape)
  | tuple (items : List Shape)
  | generator
  | set
  | setLoop
  | table
  | tableLoop

namespace Shape

def title : Shape → String
  | .name _ => "name"
  | .constant word => word
  | .literal => "literal"
  | .ellipsis => "ellipsis"
  | .formatted => "f-string expression"
  | .attribute => "attribute"
  | .call => "function call"
  | .operation => "expression"
  | .comparison _ => "comparison"
  | .conditional => "conditional expression"
  | .function => "lambda"
  | .awaited => "await expression"
  | .yielded => "yield expression"
  | .named => "named expression"
  | .starred _ => "starred"
  | .tuple _ => "tuple"
  | .generator => "generator expression"
  | .set => "set display"
  | .setLoop => "set comprehension"
  | .table => "dict literal"
  | .tableLoop => "dict comprehension"

mutual

/-- The part of a value that a loop cannot give its items to. -/
def notTarget? : Shape → Option Shape
  | .name _ | .attribute | .comparison none => none
  | .comparison (some member) => member.notTarget?
  | .starred inner => inner.notTarget?
  | .tuple items => firstNotTarget? items
  | shape => some shape

def firstNotTarget? : List Shape → Option Shape
  | [] => none
  | shape :: rest => shape.notTarget?.or (firstNotTarget? rest)

end

end Shape

/-- Why the reading of a value ends: it cannot go on, or it has met a mistake with a name. -/
inductive Halt where
  | stuck
  | fault (fault : ParameterFault)

/-- Where the reading of values stands: in front of some tokens, behind a token with some open
brackets. Mistakes may be reported or not. -/
structure Standing where
  rest : List PlacedToken
  opened : List ParameterToken.OpenBracket := []
  reports : Bool := true

namespace Parameters

abbrev Reader := StateT Standing (Except Halt)

def stuck {α : Type} : Reader α := throw .stuck

def complain {α : Type} (fault : ParameterFault) : Reader α := do
  if (← get).reports then throw (.fault fault) else stuck

/-- What can be read, or nothing; a mistake stays one. -/
def attempt {α : Type} (reader : Reader α) : Reader (Option α) := fun standing =>
  match reader standing with
  | .ok (value, after) => .ok (some value, after)
  | .error .stuck => .ok (none, standing)
  | .error halt => .error halt

/-- Reads without reporting mistakes. -/
def silently {α : Type} (reader : Reader α) : Reader α := do
  let reports := (← get).reports
  modify fun standing => { standing with reports := false }
  let value ← reader
  modify fun standing => { standing with reports := reports }
  return value

/-- The next tokens, at most `count`, if the last of them can be read. -/
def upcoming (count : Nat) : Reader (List ParameterToken) := do
  let next := ((← get).rest.take count).map PlacedToken.token
  match next.getLast? with
  | some (.broken fault) => throw (.fault fault)
  | _ => return next

def next? : Reader (Option ParameterToken) := return (← upcoming 1).head?

def sees (token : ParameterToken) : Reader Bool := return (← next?) = some token

def advance : Reader Unit := do
  match (← get).rest with
  | [] => stuck
  | placed :: rest =>
    modify fun standing => { standing with rest := rest, opened := placed.opened }

/-- Passes a token if it stands here. -/
def passes (token : ParameterToken) : Reader Bool := do
  if ← sees token then
    advance
    return true
  return false

def expect (token : ParameterToken) : Reader Unit := do
  if !(← passes token) then stuck

def reservedWords : List String := [
  "False", "None", "True", "and", "as", "assert", "async", "await", "break", "class", "continue",
  "def", "del", "elif", "else", "except", "finally", "for", "from", "global", "if", "import", "in",
  "is", "lambda", "nonlocal", "not", "or", "pass", "raise", "return", "try", "while", "with", "yield"]

def isName (token : ParameterToken) : Bool :=
  match token with
  | .word word => !reservedWords.contains word
  | _ => false

def isText (token : ParameterToken) : Bool :=
  match token with
  | .text _ _ => true
  | _ => false

/-- Names that mean something at the start of a statement. -/
def softWords : List String := ["_", "case", "match"]

/-- Is a word such a name, or the start of one? -/
def isSoft (word : String) : Bool := softWords.any fun soft => word.toList.isPrefixOf soft.toList

/-- Words of old statements that look like a name in front of a value. -/
def oldWords : List String := ["print", "exec"]

/-- Marks between operands of a calculation. -/
def calculations : List String :=
  ["+", "-", "*", "/", "//", "%", "@", "&", "|", "^", "<<", ">>"]

def comparisons : List String := ["==", "!=", "<=", "<", ">=", ">"]

/-- Passes what compares two values; tells whether it asks for a member. -/
def comparator : Reader (Option Bool) := do
  match ← next? with
  | some (.mark symbol) =>
    if comparisons.contains symbol then
      advance
      return some false
    return none
  | some (.word "in") => do
    advance
    return some true
  | some (.word "not") => do
    if (← upcoming 2) = [.word "not", .word "in"] then
      advance
      advance
      return some false
    return none
  | some (.word "is") => do
    advance
    discard (passes (.word "not"))
    return some false
  | _ => return none

def adjacentTexts (fuel : Nat) : Reader (List (TextKind × Option ParameterFault)) := do
  match fuel, ← next? with
  | fuel + 1, some (.text kind fault) => do
    advance
    return (kind, fault) :: (← adjacentTexts fuel)
  | _, _ => return []

/-- What is wrong with adjacent texts, of which the first is of octets or not: all have to be alike.
-/
def textsFault? (isOctets : Bool) :
    List (TextKind × Option ParameterFault) → Option ParameterFault
  | [] => none
  | (kind, fault) :: rest =>
    fault.or (if (kind == .octets) != isOctets then some .mixedTexts else textsFault? isOctets rest)

/-- Is this a name in front of a text, or a word with a meaning of its own? A value may stand behind
it. -/
def asksForValue : List ParameterToken → Bool
  | .word word :: second :: _ =>
    isSoft word || (isName (.word word) && isText second)
  | _ => false

/-- Is this a word of an old statement? -/
def isOldWord (shape : Shape) : Bool :=
  match shape with
  | .name word => oldWords.contains word
  | _ => false

/-- Does a name go on with what stands behind it, so that its values are looked at anyway? -/
def goesOn (start : List ParameterToken) : Bool :=
  match start with
  | .word _ :: .mark symbol :: _ => ["(", "+", "-", "*"].contains symbol
  | _ => false

/-- What stands at a place of a call: a value, the items of one, a value with a name, or the entries of
one. -/
inductive PlaceKind where
  | plain
  | starred
  | named
  | unpacked
  deriving DecidableEq, Repr

/-- What has a name cannot be followed by what has none. -/
def PlaceKind.fault? (before : List PlaceKind) : PlaceKind → Option ParameterFault
  | .plain =>
    if before.contains .unpacked then some .placeBehindUnpacking
    else if before.contains .named then some .placeBehindName
    else none
  | .starred => if before.contains .unpacked then some .unpackedBehindUnpacking else none
  | _ => none

mutual

/-- A value: a choice by a condition, a function, or what calculations and comparisons give. -/
def value (fuel : Nat) : Reader Shape := do
  match fuel with
  | 0 => stuck
  | fuel + 1 => do
    if ← sees (.word "lambda") then function fuel
    else
      let start ← get
      let shape ← disjunction fuel
      if (← get).reports then besideValue fuel start shape
      if ← sees (.word "if") then
        match ← attempt (choice fuel) with
        | some _ => return .conditional
        | none => return shape
      return shape

/-- Looks for a value that stands beside another without a comma, and for values behind a name. What
was looked at for one mistake is not looked into again for others. -/
def besideValue (fuel : Nat) (start : Standing) (shape : Shape) : Reader Unit := do
  match fuel with
  | 0 => return ()
  | fuel + 1 => do
    let here ← get
    let first := (start.rest.take 2).map PlacedToken.token
    if !asksForValue first then
      match ← attempt (silently (value fuel)) with
      | some _ =>
        if !isOldWord shape && !(← get).opened.isEmpty then throw (.fault .missingComma)
      | none => pure ()
    match first with
    | .word word :: _ =>
      if isName (.word word) && !goesOn first then
        set start
        advance
        let found ← attempt (if asksForValue first then discard (values fuel) else seenValues fuel)
        if found.isSome && oldWords.contains word then throw (.fault (.missingBrackets word))
    | _ => pure ()
    set here

/-- Values of which the first was looked into already. -/
def seenValues (fuel : Nat) : Reader Unit := do
  match fuel with
  | 0 => stuck
  | fuel + 1 => do
    let start ← get
    if ← passes (.mark "*") then discard (calculation fuel)
    else if ← sees (.word "lambda") then discard (function fuel)
    else
      besideValue fuel start (← silently (disjunction fuel))
      if ← sees (.word "if") then discard (attempt (choice fuel))
    if ← passes (.mark ",") then discard (attempt (values fuel))

def choice (fuel : Nat) : Reader Unit := do
  match fuel with
  | 0 => stuck
  | fuel + 1 => do
    advance
    discard (disjunction fuel)
    if ← passes (.word "else") then discard (value fuel)
    else if ← sees (.mark ":") then stuck
    else complain .missingElse

def values (fuel : Nat) : Reader (List Shape) := do
  match fuel with
  | 0 => stuck
  | fuel + 1 => do
    let shape ← if ← passes (.mark "*") then (Shape.starred <$> calculation fuel) else value fuel
    if ← passes (.mark ",") then
      match ← attempt (values fuel) with
      | some shapes => return shape :: shapes
      | none => return [shape]
    return [shape]

def disjunction (fuel : Nat) : Reader Shape := do
  match fuel with
  | 0 => stuck
  | fuel + 1 => do
    let shape ← if ← passes (.word "not") then (do discard (negated fuel); return .operation)
      else compared fuel
    if (← sees (.word "and")) || (← sees (.word "or")) then
      match ← attempt (do advance; disjunction fuel) with
      | some _ => return .operation
      | none => return shape
    return shape

/-- What stands behind a negation. -/
def negated (fuel : Nat) : Reader Unit := do
  match fuel with
  | 0 => stuck
  | fuel + 1 => do
    if ← passes (.word "not") then negated fuel else discard (compared fuel)

def compared (fuel : Nat) : Reader Shape := do
  match fuel with
  | 0 => stuck
  | fuel + 1 => do
    let shape ← calculation fuel
    match ← attempt (comparison fuel) with
    | some true => return .comparison (some shape)
    | some false => return .comparison none
    | none => return shape

/-- What compares two values, and what follows it; tells whether the first asks for a member. -/
def comparison (fuel : Nat) : Reader Bool := do
  match fuel with
  | 0 => stuck
  | fuel + 1 => do
    match ← comparator with
    | none => stuck
    | some asksMember => do
      discard (calculation fuel)
      discard (attempt (comparison fuel))
      return asksMember

def calculation (fuel : Nat) : Reader Shape := do
  match fuel with
  | 0 => stuck
  | fuel + 1 => do
    let shape ← signed fuel
    match ← next? with
    | some (.mark symbol) =>
      if calculations.contains symbol then
        match ← attempt (do advance; calculation fuel) with
        | some _ => return .operation
        | none => return shape
      return shape
    | _ => return shape

def signed (fuel : Nat) : Reader Shape := do
  match fuel with
  | 0 => stuck
  | fuel + 1 => do
    match ← next? with
    | some (.mark "+") | some (.mark "-") | some (.mark "~") => do
      advance
      discard (signed fuel)
      return .operation
    | _ => do
      let isAwaited ← passes (.word "await")
      let shape ← primary fuel
      let shape := if isAwaited then .awaited else shape
      if ← sees (.mark "**") then
        match ← attempt (do advance; signed fuel) with
        | some _ => return .operation
        | none => return shape
      return shape

def primary (fuel : Nat) : Reader Shape := do
  match fuel with
  | 0 => stuck
  | fuel + 1 => do behind fuel (← atom fuel)

/-- Members and calls behind a value. -/
def behind (fuel : Nat) (shape : Shape) : Reader Shape := do
  match fuel with
  | 0 => stuck
  | fuel + 1 => do
    match ← next? with
    | some (.mark ".") => do
      match ← upcoming 2 with
      | [_, name] =>
        if isName name then
          advance
          advance
          behind fuel .attribute
        else return shape
      | _ => return shape
    | some (.mark "(") => do
      match ← attempt (do advance; places fuel []) with
      | some _ => behind fuel .call
      | none => return shape
    | some (.mark "\x7b") => do
      if (← get).reports then
        let here ← get
        discard (attempt (do advance; looseLoop fuel))
        set here
      return shape
    | _ => return shape

/-- Looks for a loop in braces that has no one value to be made for. -/
def looseLoop (fuel : Nat) : Reader Unit := do
  match fuel with
  | 0 => stuck
  | fuel + 1 => do
    if ← passes (.mark "*") then discard (starredFirst fuel "\x7d")
    else
      discard (element fuel)
      expect (.mark ",")
      discard (elements fuel "\x7d")

def atom (fuel : Nat) : Reader Shape := do
  match fuel with
  | 0 => stuck
  | fuel + 1 => do
    match ← next? with
    | some (.word word) => do
      if ["True", "False", "None"].contains word then
        advance
        return .constant word
      if reservedWords.contains word then stuck
      advance
      return .name word
    | some (.number fault) => do
      match fault with
      | some fault => throw (.fault fault)
      | none => pure ()
      advance
      return .literal
    | some (.text kind _) => do
      let texts ← adjacentTexts (← get).rest.length
      match textsFault? (kind == .octets) texts with
      | some fault => throw (.fault fault)
      | none => return if texts.any (·.1 == .formatted) then .formatted else .literal
    | some (.mark "...") => do
      advance
      return .ellipsis
    | some (.mark "(") => do
      advance
      bracketed fuel
    | some (.mark "\x7b") => do
      advance
      braced fuel
    | _ => stuck

/-- A value that may get a name, from where it starts. -/
def element (fuel : Nat) : Reader Shape := do
  match fuel with
  | 0 => stuck
  | fuel + 1 => do
    let start ← get
    element? fuel start (← value fuel)

/-- What stands behind a value that may get a name. -/
def element? (fuel : Nat) (start : Standing) (shape : Shape) : Reader Shape := do
  match fuel with
  | 0 => stuck
  | fuel + 1 => do
    let here ← get
    let isName := (start.rest.head?.map fun placed => isName placed.token).getD false &&
      here.rest.length + 1 = start.rest.length
    if ← sees (.mark ":=") then
      advance
      if isName then
        discard (value fuel)
        return .named
      discard (value fuel)
      complain (.notNameable shape.title)
    if ← sees (.mark "=") then
      if !here.reports then stuck
      set start
      let isConstant := match start.rest.head?.map PlacedToken.token with
        | some (.word word) => reservedWords.contains word
        | _ => false
      if isConstant then stuck
      if (← attempt (silently (listed fuel))).isSome then stuck
      set start
      let left ← calculation fuel
      expect (.mark "=")
      discard (calculation fuel)
      if (← sees (.mark "=")) || (← sees (.mark ":=")) then stuck
      throw (.fault (if isName then .missingEquals else .notAssignableHere left.title))
    return shape

/-- The start of several values, or of none, in round brackets. -/
def listed (fuel : Nat) : Reader Unit := do
  match fuel with
  | 0 => stuck
  | fuel + 1 => do
    expect (.mark "(")
    if ← passes (.mark ")") then return ()
    discard (passes (.mark "*"))
    discard (element fuel)
    if !(← passes (.mark ",")) then loops fuel

/-- What stands between round brackets, from behind the first. -/
def bracketed (fuel : Nat) : Reader Shape := do
  match fuel with
  | 0 => stuck
  | fuel + 1 => do
    if ← passes (.mark ")") then return .tuple []
    if ← passes (.word "yield") then
      if ← passes (.word "from") then discard (value fuel)
      else discard (attempt (values fuel))
      expect (.mark ")")
      return .yielded
    if ← passes (.mark "**") then
      discard (value fuel)
      expect (.mark ")")
      complain .doubleStarred
    if ← passes (.mark "*") then return .tuple (← starredFirst fuel ")")
    let shape ← element fuel
    if ← passes (.mark ")") then return shape
    if ← passes (.mark ",") then return .tuple (shape :: (← elements fuel ")"))
    loops fuel
    expect (.mark ")")
    return .generator

/-- Values behind a star that is the first in brackets; a comma has to follow. -/
def starredFirst (fuel : Nat) (closing : String) : Reader (List Shape) := do
  match fuel with
  | 0 => stuck
  | fuel + 1 => do
    let start ← get
    match ← attempt (calculation fuel) with
    | some shape =>
      if ← passes (.mark ",") then return .starred shape :: (← elements fuel closing)
      if closing ≠ ")" then
        if ← passes (.mark closing) then return [.starred shape]
    | none => pure ()
    if !start.reports then stuck
    set start
    match ← attempt (value fuel) with
    | none => throw (.fault .loneStar)
    | some _ =>
      if closing = ")" then
        if ← passes (.mark ")") then throw (.fault .starred)
      loops fuel
      throw (.fault .unpackedInLoop)

/-- Values between commas, up to a closing bracket. -/
def elements (fuel : Nat) (closing : String) : Reader (List Shape) := do
  match fuel with
  | 0 => stuck
  | fuel + 1 => do
    if ← passes (.mark closing) then return []
    looseTarget fuel closing
    let shape ← if ← passes (.mark "*") then (Shape.starred <$> calculation fuel)
      else element fuel
    if ← passes (.mark ",") then return shape :: (← elements fuel closing)
    looseTarget fuel closing
    expect (.mark closing)
    return [shape]

/-- Complains about a loop in braces that stands behind more than one value. -/
def looseTarget (fuel : Nat) (closing : String) : Reader Unit := do
  match fuel with
  | 0 => stuck
  | fuel + 1 => do
    if closing ≠ ")" && ((← sees (.word "for")) || (← sees (.word "async"))) then
      loops fuel
      complain .looseTarget

/-- What stands between braces, from behind the first. -/
def braced (fuel : Nat) : Reader Shape := do
  match fuel with
  | 0 => stuck
  | fuel + 1 => do
    let closing := "\x7d"
    if ← passes (.mark closing) then return .table
    if ← passes (.mark "**") then
      discard (calculation fuel)
      if (← sees (.word "for")) || (← sees (.word "async")) then
        loops fuel
        expect (.mark closing)
        complain .tableUnpackedInLoop
      entriesBehind fuel
      return .table
    if ← passes (.mark "*") then
      discard (starredFirst fuel closing)
      return .set
    let start ← get
    let shape ← value fuel
    if ← passes (.mark ":") then
      entry fuel
      if (← sees (.word "for")) || (← sees (.word "async")) then
        loops fuel
        expect (.mark closing)
        return .tableLoop
      entriesBehind fuel
      return .table
    discard (element? fuel start shape)
    if ← passes (.mark ",") then
      discard (elements fuel closing)
      return .set
    if ← passes (.mark closing) then return .set
    loops fuel
    expect (.mark closing)
    return .setLoop

/-- The value of an entry, from behind the colon. -/
def entry (fuel : Nat) : Reader Unit := do
  match fuel with
  | 0 => stuck
  | fuel + 1 => do
    if ← passes (.mark "*") then
      discard (calculation fuel)
      throw (.fault .starredEntry)
    if (← sees (.mark "\x7d")) || (← sees (.mark ",")) then throw (.fault .missingEntry)
    discard (value fuel)

/-- Entries behind an entry, up to the closing brace. -/
def entriesBehind (fuel : Nat) : Reader Unit := do
  match fuel with
  | 0 => stuck
  | fuel + 1 => do
    if ← passes (.mark "\x7d") then return ()
    expect (.mark ",")
    if ← passes (.mark "\x7d") then return ()
    if ← passes (.mark "**") then
      discard (calculation fuel)
      entriesBehind fuel
    else
      match ← attempt (silently (value fuel)) with
      | some _ => if !(← passes (.mark ":")) then throw (.fault .missingColon)
      | none =>
        discard (value fuel)
        expect (.mark ":")
      entry fuel
      entriesBehind fuel

/-- Values for the places of a call, from behind the bracket or a comma; `before` holds what stands
at the places before. -/
def places (fuel : Nat) (before : List PlaceKind) : Reader Unit := do
  match fuel with
  | 0 => stuck
  | fuel + 1 => do
    if ← passes (.mark ")") then return ()
    let kind ← place fuel before.isEmpty
    match PlaceKind.fault? before kind with
    | some fault =>
      discard (attempt (do expect (.mark ","); places fuel []))
      complain fault
    | none => pure ()
    if ← passes (.mark ",") then places fuel (kind :: before) else expect (.mark ")")

def place (fuel : Nat) (isFirst : Bool) : Reader PlaceKind := do
  match fuel with
  | 0 => stuck
  | fuel + 1 => do
    if ← passes (.mark "*") then
      match ← attempt (value fuel) with
      | some _ =>
        if isFirst && ((← sees (.word "for")) || (← sees (.word "async"))) then
          loops fuel
          complain .unpackedInLoop
        return .starred
      | none => throw (.fault .loneStar)
    if ← passes (.mark "**") then
      discard (value fuel)
      return .unpacked
    let isWord := match ← next? with
      | some (.word word) => isName (.word word) || ["True", "False", "None"].contains word
      | _ => false
    match ← upcoming (if isWord then 2 else 1) with
    | [.word word, .mark "="] =>
      if isName (.word word) then
        advance
        advance
        discard (value fuel)
        if (← sees (.word "for")) || (← sees (.word "async")) then
          loops fuel
          complain .missingEquals
        return .named
      if ["True", "False", "None"].contains word then complain (.notAssignable word)
      stuck
    | [.word word, .mark ":="] => do
      if !isName (.word word) then stuck
      advance
      advance
      discard (value fuel)
    | _ => do
      discard (value fuel)
      if ← sees (.mark "=") then complain .assignedPlace
      if ← sees (.mark ":=") then stuck
      if (← sees (.word "for")) || (← sees (.word "async")) then
        loops fuel
        if !(isFirst && (← sees (.mark ")"))) then complain .looseLoop
    return .plain

/-- Loops behind the value that they are made for. -/
def loops (fuel : Nat) : Reader Unit := do
  match fuel with
  | 0 => stuck
  | fuel + 1 => do
    discard (passes (.word "async"))
    expect (.word "for")
    targets fuel
    discard (disjunction fuel)
    conditions fuel
    if (← sees (.word "for")) || (← sees (.word "async")) then loops fuel

def targets (fuel : Nat) : Reader Unit := do
  match fuel with
  | 0 => stuck
  | fuel + 1 => do
    let start ← get
    let found ← attempt (silently (do
      let shapes ← targetList fuel
      expect (.word "in")
      if (Shape.firstNotTarget? shapes).isSome then stuck))
    if found.isNone then
      if !start.reports then stuck
      match Shape.firstNotTarget? (← values fuel) with
      | some shape => throw (.fault (.notAssignable shape.title))
      | none => stuck

def targetList (fuel : Nat) : Reader (List Shape) := do
  match fuel with
  | 0 => stuck
  | fuel + 1 => do
    discard (passes (.mark "*"))
    let shape ← calculation fuel
    if ← passes (.mark ",") then
      if ← sees (.word "in") then return [shape]
      return shape :: (← targetList fuel)
    return [shape]

def conditions (fuel : Nat) : Reader Unit := do
  match fuel with
  | 0 => stuck
  | fuel + 1 => do
    if ← passes (.word "if") then
      discard (disjunction fuel)
      conditions fuel

def function (fuel : Nat) : Reader Shape := do
  match fuel with
  | 0 => stuck
  | fuel + 1 => do
    advance
    if !(← passes (.mark ":")) then functionPlaces fuel
    discard (value fuel)
    return .function

/-- The places of a function, up to the colon. -/
def functionPlaces (fuel : Nat) : Reader Unit := do
  match fuel with
  | 0 => stuck
  | fuel + 1 => do
    let isStarred ← passes (.mark "*")
    let isDoubleStarred ← passes (.mark "**")
    match ← next? with
    | some token =>
      if isName token then
        advance
        if ← passes (.mark "=") then
          if isStarred || isDoubleStarred then stuck
          discard (value fuel)
      else if isDoubleStarred then stuck
      else if isStarred then
        if ← sees (.mark ":") then complain .loneStarPlace
      else
        if ← passes (.mark "(") then bracketedPlaces fuel
        expect (.mark "/")
    | none => stuck
    if ← passes (.mark ":") then return ()
    expect (.mark ",")
    if !(← passes (.mark ":")) then functionPlaces fuel

/-- Places of a function in brackets, where none may stand. -/
def bracketedPlaces (fuel : Nat) : Reader Unit := do
  match fuel with
  | 0 => stuck
  | fuel + 1 => do
    match ← next? with
    | some token => if isName token then advance else stuck
    | none => stuck
    if ← passes (.mark ",") then
      if !(← sees (.mark ")")) then bracketedPlaces fuel
    expect (.mark ")")
    complain .bracketedPlaces

end

def whole (fuel : Nat) : Reader Unit := do
  match fuel with
  | 0 => stuck
  | fuel + 1 => do
    discard (value fuel)
    if ← passes (.mark ",") then
      match ← next? with
      | none | some (.mark "\n") => pure ()
      | _ => whole fuel
    discard (passes (.mark "\n"))
    if (← next?).isSome then stuck

def valueFault? (chars : List Char) : Option ParameterFault :=
  match PlacedToken.ofText chars with
  | .error fault => some fault
  | .ok tokens =>
    match (whole (32 * (tokens.length + 1))).run ⟨tokens, [], true⟩ with
    | .ok _ => none
    | .error .stuck => some .invalid
    | .error (.fault fault) => some fault

end Parameters

end EntityScaffold.Console
