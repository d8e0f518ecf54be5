import EntityScaffold.Text.Escape
import EntityScaffold.Text.NameTable
import EntityScaffold.Text.Printable

/-
Tokens of a handler's parameters: words, numbers, texts, and marks. Brackets have to match. A line
end counts outside brackets only, and what stands behind a number sign is no part of a line.
-/

namespace EntityScaffold.Console

inductive ParameterFault where
  | nul
  | neverClosed (bracket : Char)
  | unmatched (bracket : Char)
  /-- A bracket that closes another, which may stand on a line before. -/
  | mismatched (closing opening : Char) (line : Option Nat)
  | tooNested
  | unterminated (line : Nat)
  | unterminatedBlock (line : Nat)
  | badNumber (kind : String)
  | badDigit (digit : Char) (kind : String)
  | leadingZeros
  | tooManyDigits (count : Nat)
  | strayBackslash
  | badChar (char : Char)
  | mixedTexts
  | octetsBeyondAscii
  | badEscape (fault : Text.EscapeFault)
  | badOctetEscape (position : Nat)
  | missingComma
  | missingElse
  | missingEquals
  | missingBrackets (word : String)
  | missingColon
  | missingEntry
  | starredEntry
  | loneStar
  | starred
  | doubleStarred
  | unpackedInLoop
  | tableUnpackedInLoop
  | looseTarget
  | bracketedPlaces
  | loneStarPlace
  | looseLoop
  | placeBehindName
  | placeBehindUnpacking
  | unpackedBehindUnpacking
  | assignedPlace
  | notAssignable (shape : String)
  | notAssignableHere (shape : String)
  | notNameable (shape : String)
  | invalid
  deriving DecidableEq, Repr

namespace ParameterFault

def escapeMessage (fault : Text.EscapeFault) : String :=
  "(unicode error) 'unicodeescape' codec can't decode bytes in position " ++
    toString fault.start ++ "-" ++ toString (fault.start + fault.length - 1) ++ ": " ++ fault.reason

def charMessage (char : Char) : String :=
  let number := String.ofList ((Text.Utf8.hexDigits 4 char.toNat).map Char.toUpper)
  if Text.isPrintablePoint char.toNat then
    "invalid character '" ++ char.toString ++ "' (U+" ++ number ++ ")"
  else "invalid non-printable character U+" ++ number

def message : ParameterFault → String
  | .nul => "source code string cannot contain null bytes"
  | .neverClosed bracket => "'" ++ bracket.toString ++ "' was never closed"
  | .unmatched bracket => "unmatched '" ++ bracket.toString ++ "'"
  | .mismatched closing opening line =>
    let place := match line with
      | some line => " on line " ++ toString line
      | none => ""
    "closing parenthesis '" ++ closing.toString ++ "' does not match opening parenthesis '" ++
      opening.toString ++ "'" ++ place
  | .tooNested => "too many nested parentheses"
  | .unterminated line =>
    "unterminated string literal (detected at line " ++ toString line ++ ")"
  | .unterminatedBlock line =>
    "unterminated triple-quoted string literal (detected at line " ++ toString line ++ ")"
  | .badNumber kind => "invalid " ++ kind ++ " literal"
  | .badDigit digit kind => "invalid digit '" ++ digit.toString ++ "' in " ++ kind ++ " literal"
  | .leadingZeros =>
    "leading zeros in decimal integer literals are not permitted; use an 0o prefix for octal integers"
  | .tooManyDigits count =>
    "Exceeds the limit (4300 digits) for integer string conversion: value has " ++
      toString count ++ " digits; use sys.set_int_max_str_digits() to increase the limit" ++
      " - Consider hexadecimal for huge integer literals to avoid decimal conversion limits."
  | .strayBackslash => "unexpected character after line continuation character"
  | .badChar char => charMessage char
  | .mixedTexts => "cannot mix bytes and nonbytes literals"
  | .octetsBeyondAscii => "bytes can only contain ASCII literal characters"
  | .badEscape fault => escapeMessage fault
  | .badOctetEscape position =>
    "(value error) invalid \\x escape at position " ++ toString position
  | .missingComma => "invalid syntax. Perhaps you forgot a comma?"
  | .missingElse => "expected 'else' after 'if' expression"
  | .missingEquals => "invalid syntax. Maybe you meant '==' or ':=' instead of '='?"
  | .missingBrackets word =>
    "Missing parentheses in call to '" ++ word ++ "'. Did you mean " ++ word ++ "(...)?"
  | .missingColon => "':' expected after dictionary key"
  | .missingEntry => "expression expected after dictionary key and ':'"
  | .starredEntry => "cannot use a starred expression in a dictionary value"
  | .loneStar => "Invalid star expression"
  | .starred => "cannot use starred expression here"
  | .doubleStarred => "cannot use double starred expression here"
  | .unpackedInLoop => "iterable unpacking cannot be used in comprehension"
  | .tableUnpackedInLoop => "dict unpacking cannot be used in dict comprehension"
  | .looseTarget => "did you forget parentheses around the comprehension target?"
  | .loneStarPlace => "named arguments must follow bare *"
  | .bracketedPlaces => "Lambda expression parameters cannot be parenthesized"
  | .looseLoop => "Generator expression must be parenthesized"
  | .placeBehindName => "positional argument follows keyword argument"
  | .placeBehindUnpacking => "positional argument follows keyword argument unpacking"
  | .unpackedBehindUnpacking =>
    "iterable argument unpacking follows keyword argument unpacking"
  | .assignedPlace => "expression cannot contain assignment, perhaps you meant \x22==\x22?"
  | .notAssignable shape => "cannot assign to " ++ shape
  | .notAssignableHere shape =>
    "cannot assign to " ++ shape ++ " here. Maybe you meant '==' instead of '='?"
  | .notNameable shape => "cannot use assignment expressions with " ++ shape
  | .invalid => "invalid syntax"

end ParameterFault

/-- A text of characters, a text of octets, or a text with values in it. -/
inductive TextKind where
  | plain
  | octets
  | formatted
  deriving DecidableEq, Repr

inductive ParameterToken where
  | word (name : String)
  | number (fault : Option ParameterFault)
  /-- A text; a fault inside it counts when the text is reached. -/
  | text (kind : TextKind) (fault : Option ParameterFault)
  | mark (symbol : String)
  /-- The end of what can be read; whoever comes there meets the fault. -/
  | broken (fault : ParameterFault)
  deriving DecidableEq, Repr

namespace ParameterToken

/-! ### Words -/

/-- Words are first cut out by a coarse rule, and looked at then. -/
def isCoarseStart (char : Char) : Bool := char.isAlpha || char == '_' || 0x80 ≤ char.toNat

def isCoarsePart (char : Char) : Bool := isCoarseStart char || char.isDigit

/-! ### Numbers -/

/-- Does a word stand at the start of a text, with nothing behind it that would go on with it? -/
def startsWithWord (word : String) (chars : List Char) : Bool :=
  word.toList.isPrefixOf chars &&
    !((chars.drop word.length).head?.map isCoarsePart).getD false

/-- May this follow a number at once? Some words between values may. -/
def mayFollowNumber (chars : List Char) : Bool :=
  !(chars.head?.map fun char => char.isAlphanum || char == '_').getD false ||
    ["and", "else", "for", "or", "not"].any (startsWithWord · chars) ||
    ["if", "in", "is"].any fun word => word.toList.isPrefixOf chars

def endNumber (kind : String) (rest : List Char) : Except ParameterFault (List Char) :=
  if mayFollowNumber rest then .ok rest else .error (.badNumber kind)

/-- What stands behind groups of digits with single underscores in front of them. -/
def afterGroups (fuel : Nat) (kind : String) (isDigit : Char → Bool) (chars : List Char) :
    Except ParameterFault (List Char) :=
  match fuel with
  | 0 => .ok chars
  | fuel + 1 =>
    let digits := match chars with
      | '_' :: digits => digits
      | _ => chars
    match digits with
    | digit :: _ =>
      if isDigit digit then
        match digits.dropWhile isDigit with
        | '_' :: rest => afterGroups fuel kind isDigit ('_' :: rest)
        | rest => .ok rest
      else if digit.isDigit then .error (.badDigit digit kind)
      else .error (.badNumber kind)
    | [] => .error (.badNumber kind)

/-- What stands behind a number in a base other than ten. -/
def afterBased (kind : String) (isDigit : Char → Bool) (chars : List Char) :
    Except ParameterFault (List Char) := do
  let rest ← afterGroups (chars.length + 1) kind isDigit chars
  match rest with
  | digit :: _ => if digit.isDigit then throw (.badDigit digit kind)
  | [] => pure ()
  endNumber kind rest

def afterDigits (chars : List Char) : Except ParameterFault (List Char) :=
  match chars.dropWhile Char.isDigit with
  | '_' :: rest => afterGroups (rest.length + 1) "decimal" Char.isDigit ('_' :: rest)
  | rest => .ok rest

def afterExponent (chars : List Char) : Except ParameterFault (List Char) := do
  match chars with
  | letter :: rest =>
    if letter.toLower = 'e' then
      let (signed, digits) := match rest with
        | '+' :: digits | '-' :: digits => (true, digits)
        | _ => (false, rest)
      if (digits.head?.map Char.isDigit).getD false then imaginary (← afterDigits digits)
      else if signed then throw (.badNumber "decimal")
      else endNumber "decimal" chars
    else imaginary chars
  | [] => return []
where
  imaginary : List Char → Except ParameterFault (List Char)
    | letter :: rest =>
      if letter.toLower = 'j' then endNumber "imaginary" rest
      else endNumber "decimal" (letter :: rest)
    | [] => .ok []

def afterPoint (chars : List Char) : Except ParameterFault (List Char) := do
  if (chars.head?.map Char.isDigit).getD false then afterExponent (← afterDigits chars)
  else afterExponent chars

def afterWhole (chars : List Char) : Except ParameterFault (List Char) := do
  let rest ← afterDigits chars
  let digits := chars.take (chars.length - rest.length)
  let isZero := digits.all fun char => char == '0' || char == '_'
  match rest with
  | '.' :: rest => afterPoint rest
  | letter :: _ =>
    if letter.toLower = 'e' || letter.toLower = 'j' then afterExponent rest
    else if chars.head? = some '0' && !isZero then throw .leadingZeros
    else endNumber "decimal" rest
  | [] => if chars.head? = some '0' && !isZero then throw .leadingZeros else return []

def afterNumber (chars : List Char) : Except ParameterFault (List Char) :=
  match chars with
  | '.' :: rest => afterPoint rest
  | '0' :: letter :: rest =>
    match letter.toLower with
    | 'x' => afterBased "hexadecimal" (Decimal.isDigitOf 16) rest
    | 'o' => afterBased "octal" (Decimal.isDigitOf 8) rest
    | 'b' => afterBased "binary" (Decimal.isDigitOf 2) rest
    | _ => afterWhole chars
  | _ => afterWhole chars

/-- A number; one of very many digits is at fault when it is reached. -/
def ofNumber (spelling : List Char) : ParameterToken :=
  let digits := spelling.filter (· ≠ '_')
  .number (if digits.all Char.isDigit && Decimal.digitLimit < digits.length
    then some (.tooManyDigits digits.length) else none)

/-! ### Texts -/

/-- The inside of a text up to `ending`, and what stands behind it. A text in single marks ends on
its line. -/
def splitText? (ending : List Char) : List Char → Option (List Char × List Char)
  | [] => none
  | char :: rest =>
    if ending.isPrefixOf (char :: rest) then some ([], (char :: rest).drop ending.length)
    else if char = '\n' && ending.length = 1 then none
    else if char = Text.Escape.backslash then
      match rest with
      | [] => none
      | next :: rest =>
        (splitText? ending rest).map fun (inner, after) => (char :: next :: inner, after)
    else (splitText? ending rest).map fun (inner, after) => (char :: inner, after)

/-- Where a text of octets holds an escape with too few digits. -/
def badOctetEscape? (position : Nat) : List Char → Option Nat
  | '\x5c' :: 'x' :: first :: second :: rest =>
    if Decimal.isDigitOf 16 first && Decimal.isDigitOf 16 second then
      badOctetEscape? (position + 4) rest
    else some position
  | '\x5c' :: 'x' :: _ => some position
  | '\x5c' :: _ :: rest => badOctetEscape? (position + 2) rest
  | _ :: rest => badOctetEscape? (position + 1) rest
  | [] => none

/-- What is wrong inside a text. -/
def textFault? (kind : TextKind) (isRaw : Bool) (inner : List Char) : Option ParameterFault :=
  match kind with
  | .octets =>
    if inner.any fun char => 0x80 ≤ char.toNat then some .octetsBeyondAscii
    else if isRaw then none
    else (badOctetEscape? 0 inner).map .badOctetEscape
  | .plain =>
    if isRaw then none
    else match Text.Escape.read (Text.Escape.longForm inner) with
      | .ok _ => none
      | .error fault => some (.badEscape fault)
  | .formatted => none

/-- The kind of a text by the letters in front of it, and whether backslashes mean nothing in it. -/
def textKind? (letters : List Char) : Option (TextKind × Bool) :=
  match String.ofList (letters.map Char.toLower) with
  | "" | "u" => some (.plain, false)
  | "r" => some (.plain, true)
  | "b" => some (.octets, false)
  | "br" | "rb" => some (.octets, true)
  | "f" => some (.formatted, false)
  | "fr" | "rf" => some (.formatted, true)
  | _ => none

/-! ### Marks -/

def longMarks : List String :=
  ["...", "**=", "//=", "<<=", ">>=", "**", "//", "<<", ">>", "<=", ">=", "==", "!=", "->", ":=",
    "<>", "+=", "-=", "*=", "/=", "%=", "&=", "|=", "^=", "@="]

def nestingLimit : Nat := 200

structure OpenBracket where
  bracket : Char
  line : Nat
  deriving DecidableEq, Repr

/-- The brackets that are open behind a mark on a line, the innermost first. -/
def bracketsAfter (opened : List OpenBracket) (mark : Char) (line : Nat) :
    Except ParameterFault (List OpenBracket) :=
  if mark = '(' || mark = '\x7b' then
    if nestingLimit ≤ opened.length then .error .tooNested else .ok (⟨mark, line⟩ :: opened)
  else if mark = ')' || mark = '\x7d' then
    match opened with
    | [] => .error (.unmatched mark)
    | ⟨bracket, begun⟩ :: rest =>
      if (bracket = '(') = (mark = ')') then .ok rest
      else .error (.mismatched mark bracket (if begun = line then none else some begun))
  else .ok opened

end ParameterToken

/-- A token with the brackets that are open behind it, the innermost first. -/
structure PlacedToken where
  token : ParameterToken
  opened : List ParameterToken.OpenBracket
  deriving Repr

namespace PlacedToken

open ParameterToken

def lineEnds (chars : List Char) : Nat := chars.count '\n'

/-- The tokens of a text from a line on; `isBlank` tells that nothing has stood on the line. Each
token takes a character at least, so the fuel need not exceed their number by more than one. -/
def ofChars (fuel line : Nat) (isBlank : Bool) (opened : List OpenBracket) (chars : List Char) :
    Except ParameterFault (List PlacedToken) :=
  match fuel, chars with
  | 0, _ => .ok []
  | _, [] =>
    .ok (match opened with
      | [] => []
      | innermost :: _ => [⟨.broken (.neverClosed innermost.bracket), opened⟩])
  | fuel + 1, char :: rest => do
    if char = ' ' || char = '\t' || char = '\x0c' then ofChars fuel line isBlank opened rest
    else if char = '\n' then
      let behind ← ofChars fuel (line + 1) true opened rest
      return if opened.isEmpty && !isBlank then ⟨.mark "\n", []⟩ :: behind else behind
    else if char = '#' then ofChars fuel line isBlank opened (rest.dropWhile (· ≠ '\n'))
    else if char = Text.Escape.backslash then
      match rest with
      | '\n' :: rest => ofChars fuel (line + 1) isBlank opened rest
      | _ => return [⟨.broken .strayBackslash, opened⟩]
    else
      let letters := chars.takeWhile isCoarsePart
      let isText := match (chars.drop letters.length).head? with
        | some quote => quote == '\x27' || quote == '\x22'
        | none => false
      match (if isText then textKind? letters else none) with
      | some (kind, isRaw) =>
        let quoted := chars.drop letters.length
        let quote := quoted.headD '\x27'
        let isBlock := [quote, quote, quote].isPrefixOf quoted
        let ending := if isBlock then [quote, quote, quote] else [quote]
        match splitText? ending (quoted.drop ending.length) with
        | some (inner, behind) =>
          return ⟨.text kind (textFault? kind isRaw inner), opened⟩ ::
            (← ofChars fuel (line + lineEnds inner) false opened behind)
        | none =>
          throw (if isBlock then .unterminatedBlock (line + lineEnds chars)
            else .unterminated line)
      | none =>
        if isCoarseStart char then
          match Text.badNameChar? letters with
          | some bad => throw (.badChar bad)
          | none =>
            return ⟨.word (String.ofList letters), opened⟩ ::
              (← ofChars fuel line false opened (chars.drop letters.length))
        else if char.isDigit || (char = '.' && (rest.head?.map Char.isDigit).getD false) then
          let behind ← afterNumber chars
          return ⟨ofNumber (chars.take (chars.length - behind.length)), opened⟩ ::
            (← ofChars fuel line false opened behind)
        else if !Text.isPrintablePoint char.toNat then throw (.badChar char)
        else
          match longMarks.find? fun symbol => symbol.toList.isPrefixOf chars with
          | some symbol =>
            return ⟨.mark symbol, opened⟩ ::
              (← ofChars fuel line false opened (chars.drop symbol.length))
          | none =>
            let opened ← bracketsAfter opened char line
            return ⟨.mark char.toString, opened⟩ :: (← ofChars fuel line false opened rest)

/-- A line end in one character. -/
def unifyLineEnds : List Char → List Char
  | '\r' :: '\n' :: rest => '\n' :: unifyLineEnds rest
  | '\r' :: rest => '\n' :: unifyLineEnds rest
  | char :: rest => char :: unifyLineEnds rest
  | [] => []

def ofText (chars : List Char) : Except ParameterFault (List PlacedToken) :=
  let chars := unifyLineEnds (chars.dropWhile fun char => char == ' ' || char == '\t')
  if chars.contains '\x00' then .error .nul else ofChars (chars.length + 1) 1 true [] chars

end PlacedToken

end EntityScaffold.Console
