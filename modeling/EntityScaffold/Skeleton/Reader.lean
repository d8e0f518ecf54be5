import EntityScaffold.Skeleton.Syntax
import EntityScaffold.Skeleton.Token

/-
Reading of skeletons. An expression is a name, a text or a number with filters behind it. Loops and
choices enclose what stands up to the tag that ends them. A skeleton that was read may still use
filters that there are not.
-/

namespace EntityScaffold.Skeleton

namespace Reader

abbrev Parser := StateT TokenStream (Except RenderFault)

def fail {α : Type} (reason : String) : Parser α := throw (.malformed (.ofString reason))

def current? : Parser (Option Token) := return (← get).tokens.head?

/-- Goes on to the next token. A fault behind the last one is met when that one is passed. -/
def advance : Parser Unit := do
  let stream ← get
  match stream.tokens.tail, stream.fault with
  | [], some fault => throw fault
  | rest, _ => set { stream with tokens := rest }

/-- What a token, or else the end, is called. -/
def shown (token : Option Token) : String := (token.map Token.shown).getD "end of template"

/-- Complains that another token was expected. -/
def failExpecting {α : Type} (wanted : String) : Option Token → Parser α
  | none => fail ("unexpected end of template, expected " ++ Text.quoted wanted ++ ".")
  | some token =>
    fail ("expected token " ++ Text.quoted wanted ++ ", got " ++ Text.quoted token.shown)

/-- Passes a token that has to be there. -/
def expect (isWanted : Token → Bool) (wanted : String) : Parser Unit := do
  let token ← current?
  if (token.map isWanted).getD false then advance else failExpecting wanted token

def isOperator (symbol : String) : Token → Bool
  | .operator other => other = symbol
  | _ => false

def isName (name : String) : Token → Bool
  | .name other => other = name
  | _ => false

def isClosing (mark : Mark) : Token → Bool
  | .closing other => other = mark
  | _ => false

def expectOperator (symbol : String) : Parser Unit := expect (isOperator symbol) symbol

def expectName (name : String) : Parser Unit := expect (isName name) name

def expectClosing (mark : Mark) : Parser Unit := expect (isClosing mark) (Token.closingName mark)

def sees (isWanted : Token → Bool) : Parser Bool :=
  return ((← current?).map isWanted).getD false

/-! ### Expressions -/

/-- Names that always mean the same. -/
def constants : List (String × Datum) :=
  [("true", .flag true), ("True", .flag true), ("false", .flag false), ("False", .flag false),
    ("none", .null), ("None", .null)]

/-- An expression with the filter of a name behind it, which may have arguments in brackets. -/
def applied (name : String) (arguments : List Expr) (expr : Expr) : Expr :=
  match name, arguments with
  | "humanize", [] => .filtered .humanize expr
  | "twig_var", [] => .filtered .twigVariable expr
  | "twig_tag", [] => .filtered .twigTag expr
  | "lower", [] => .filtered .lower expr
  | "join", [] => .filtered (.join []) expr
  | "join", [separator] => .joinedBy expr separator
  | _, _ => .filtered (.unknown name) expr

/-- Texts next to each other are one text. -/
def adjacentTexts (fuel : Nat) : Parser CodeText := do
  match fuel, ← current? with
  | fuel + 1, some (.text value) => do
    advance
    return value ++ (← adjacentTexts fuel)
  | _, _ => return []

/-- Does a list of values end here? Some names end it as well. -/
def endsValues (names : List String) : Option Token → Bool
  | some (.closing _) => true
  | some (.operator ")") => true
  | some (.name name) => names.contains name
  | _ => false

def requireValue (names : List String) : Parser Unit := do
  let token ← current?
  if endsValues names token then
    fail ("Expected an expression, got " ++ Text.quoted (shown token))

mutual

/-- What an expression begins with. -/
def operand (fuel : Nat) : Parser Expr := do
  match fuel, ← current? with
  | _, some (.name name) => do
    advance
    return match constants.lookup name with
      | some datum => .constant datum
      | none => .name name
  | fuel, some (.text value) => do
    advance
    return .constant (.text (value ++ (← adjacentTexts fuel)))
  | _, some (.whole value) => do
    advance
    return .constant (.whole value)
  | _, some (.real value) => do
    advance
    return .constant (.real value)
  | fuel + 1, some (.operator "(") => do
    advance
    let expr ← expression fuel
    expectOperator ")"
    return expr
  | _, token => fail ("unexpected " ++ Text.quoted (shown token))

/-- An expression with the filters behind it. -/
def expression (fuel : Nat) : Parser Expr := do
  match fuel with
  | 0 => fail "unexpected \x27end of template\x27"
  | fuel + 1 => do
    if ← sees (isName "not") then
      advance
      return .negated (← expression fuel)
    let expr ← operand fuel
    filtered fuel expr

/-- Filters behind an expression. -/
def filtered (fuel : Nat) (expr : Expr) : Parser Expr := do
  match fuel, ← current? with
  | fuel + 1, some (.operator "|") => do
    advance
    match ← current? with
    | some (.name name) => do
      advance
      let given ← if ← sees (isOperator "(") then arguments fuel false else pure []
      filtered fuel (applied name given expr)
    | token => failExpecting "name" token
  | _, _ => return expr

/-- The arguments of a filter, behind one or not. -/
def arguments (fuel : Nat) (isBehind : Bool) : Parser (List Expr) := do
  match fuel with
  | 0 => return []
  | fuel + 1 => do
    if isBehind then
      if ← sees (isOperator ")") then
        advance
        return []
      expectOperator ","
    else advance
    if ← sees (isOperator ")") then
      advance
      return []
    let expr ← expression fuel
    return expr :: (← arguments fuel true)

end

/-- A value that has to be there; some names end it. -/
def value (fuel : Nat) (names : List String) : Parser Expr := do
  requireValue names
  expression fuel

/-! ### Statements -/

/-- The tags that end the blocks around a place, and the names of those blocks, the innermost first.
-/
structure Around where
  endings : List (List String) := []
  blocks : List String := []

namespace Around

def enter (around : Around) (block : String) (endings : List String) : Around :=
  ⟨endings :: around.endings, block :: around.blocks⟩

/-- What is said about a tag that stands in the wrong place, or about the end of the skeleton inside
a block. -/
def fault (around : Around) (tag : Option String) : RenderFault :=
  let found := match tag with
    | some name => "Encountered unknown tag " ++ Text.quoted name ++ "."
    | none => "Unexpected end of template."
  let wanted := match around.endings with
    | [] => ""
    | endings :: _ =>
      let listed := " or ".intercalate (endings.map Text.quoted)
      if (tag.map around.endings.flatten.contains).getD false then
        " You probably made a nesting mistake. Jinja is expecting this tag, but currently looking for " ++
          listed ++ "."
      else " Jinja was looking for the following tags: " ++ listed ++ "."
  let innermost := match around.blocks with
    | [] => ""
    | block :: _ =>
      " The innermost block that needs to be closed is " ++ Text.quoted block ++ "."
  .malformed (.ofString (found ++ wanted ++ innermost))

end Around

/-- The name that a loop gives to its items. -/
def loopItem (fuel : Nat) : Parser String := do
  requireValue ["in"]
  match ← operand fuel with
  | .name name => return name
  | _ => fail "can't assign to \x27const\x27"

mutual

/-- Pieces up to a tag that ends the innermost block, or to the end. -/
def pieces (fuel : Nat) (around : Around) : Parser (List Piece) := do
  match fuel, ← current? with
  | fuel + 1, some (.copied chars) => do
    advance
    return .text (String.ofList chars) :: (← pieces fuel around)
  | fuel + 1, some (.opening .printing) => do
    advance
    let expr ← value fuel []
    expectClosing .printing
    return .emit expr :: (← pieces fuel around)
  | fuel + 1, some (.opening _) => do
    advance
    if ← sees fun token => (around.endings.headD []).any (isName · token) then return []
    let piece ← statement fuel around
    expectClosing .statement
    return piece :: (← pieces fuel around)
  | _, _ => return []

def statement (fuel : Nat) (around : Around) : Parser Piece := do
  match fuel, ← current? with
  | fuel + 1, some (.name "for") => do
    advance
    let item ← loopItem fuel
    expectName "in"
    let collection ← value fuel ["recursive"]
    let body ← block fuel (around.enter "for" ["endfor", "else"])
    let isEnded ← sees (isName "endfor")
    advance
    if isEnded then return .each item collection body []
    let otherwise ← block fuel (around.enter "for" ["endfor"])
    advance
    return .each item collection body otherwise
  | fuel + 1, some (.name "if") => do
    advance
    choice fuel around
  | _, some (.name name) => throw (around.fault (some name))
  | _, _ => fail "tag name expected"

/-- A choice from its condition on. -/
def choice (fuel : Nat) (around : Around) : Parser Piece := do
  match fuel with
  | 0 => fail "tag name expected"
  | fuel + 1 => do
    let condition ← value fuel []
    let yes ← block fuel (around.enter "if" ["elif", "else", "endif"])
    let isNext ← sees (isName "elif")
    let isLast ← sees (isName "else")
    advance
    if isNext then return .branch condition yes [← choice fuel around]
    if !isLast then return .branch condition yes []
    let no ← block fuel (around.enter "if" ["endif"])
    advance
    return .branch condition yes no

/-- The inside of a block, from the end of the tag that begins it to the name of one that ends it. -/
def block (fuel : Nat) (inside : Around) : Parser (List Piece) := do
  match fuel with
  | 0 => return []
  | fuel + 1 => do
    if ← sees (isOperator ":") then advance
    expectClosing .statement
    let inner ← pieces fuel inside
    match ← current? with
    | none => throw (inside.fault none)
    | some _ => return inner

end

def skeleton (stream : TokenStream) : Except RenderFault Skeleton := do
  match stream.tokens, stream.fault with
  | [], some fault => throw fault
  | tokens, _ =>
    let (read, _) ← (pieces (8 * (tokens.length + 1)) {}).run stream
    return read

end Reader

/-! ### Checks -/

/-- The filter of an expression that there is not, the last one first. -/
def Expr.unknownFilter? : Expr → Option String
  | .filtered (.unknown missing) _ => some missing
  | .filtered _ expr | .negated expr => expr.unknownFilter?
  | .joinedBy items separator => items.unknownFilter?.or separator.unknownFilter?
  | _ => none

/-- An expression must not use a filter that there is not, but what depends on a choice may. -/
def Expr.fault? (isChosen : Bool) (expr : Expr) : Option RenderFault :=
  if isChosen then none
  else expr.unknownFilter?.map fun missing =>
    .malformed (.ofString ("No filter named " ++ Text.quoted missing ++ "."))

mutual

/-- Is one of the loops in a piece over items with a name? -/
def Piece.loopsOver (name : String) : Piece → Bool
  | .each item _ body otherwise => item = name || loopOver name body || loopOver name otherwise
  | .branch _ yes no => loopOver name yes || loopOver name no
  | .eachEntry _ _ _ body => loopOver name body
  | _ => false

def loopOver (name : String) : List Piece → Bool
  | [] => false
  | piece :: rest => piece.loopsOver name || loopOver name rest

end

mutual

/-- The first fault of a piece that was read. A loop whose inside asks where it stands must not give
that name to its items. -/
def Piece.fault? (isChosen : Bool) : Piece → Option RenderFault
  | .emit expr => expr.fault? isChosen
  | .branch _ yes no => (fault? true yes).or (fault? true no)
  | .each item collection body otherwise =>
    let tells := firstUse? loopName body = some true
    let hides := item = loopName || loopOver loopName body || loopOver loopName otherwise
    if tells && hides then
      some (.malformed (.ofString "Can't assign to special loop variable in for-loop target"))
    else (collection.fault? isChosen).or ((fault? false body).or (fault? false otherwise))
  | _ => none

def fault? (isChosen : Bool) : List Piece → Option RenderFault
  | [] => none
  | piece :: rest => (piece.fault? isChosen).or (fault? isChosen rest)

end

def read (source : String) : Except RenderFault Skeleton := do
  let skeleton ← Reader.skeleton (TokenStream.ofChars source.toList)
  match fault? false skeleton with
  | some fault => throw fault
  | none => return skeleton

end EntityScaffold.Skeleton
