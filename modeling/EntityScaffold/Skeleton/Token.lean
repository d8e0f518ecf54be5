import EntityScaffold.Skeleton.Datum
import EntityScaffold.Text.Escape
import EntityScaffold.Text.NameTable

/-
Tokens of a skeleton: text that is copied, and the words of the code under its marks. Comments are
dropped. A line that holds only a statement or a comment leaves nothing behind: the blanks in front
of it and the line end behind it belong to it. A dash inside a mark takes all blanks beside the mark
along, and a plus sign none. Tokens are read one by one, so that a fault counts only when it is
reached.
-/

namespace EntityScaffold.Skeleton

/-- The text of a skeleton is cut at marks; each mark has a character of its own beside the brace.
-/
inductive Mark where
  | printing
  | statement
  | comment
  deriving DecidableEq, Repr

namespace Mark

/-- The character behind the opening brace. -/
def openingChar : Mark → Char
  | .printing => '\x7b'
  | .statement => '%'
  | .comment => '#'

def closing : Mark → List Char
  | .printing => ['\x7d', '\x7d']
  | .statement => ['%', '\x7d']
  | .comment => ['#', '\x7d']

def ofOpeningChar? (char : Char) : Option Mark :=
  [printing, statement, comment].find? fun mark => mark.openingChar == char

/-- Does what stands under the mark take the rest of its line with it? -/
def ownsLine : Mark → Bool
  | .printing => false
  | _ => true

end Mark

/-- What is asked for beside a mark: nothing, to drop all blanks, or to keep all. -/
inductive Sign where
  | none
  | drop
  | keep
  deriving DecidableEq, Repr

inductive Token where
  | copied (chars : List Char)
  | opening (mark : Mark)
  | closing (mark : Mark)
  | name (value : String)
  | text (value : CodeText)
  | whole (value : Nat)
  | real (value : Float)
  | operator (symbol : String)

namespace Token

/-- What the end of the code under a mark is called. -/
def closingName : Mark → String
  | .printing => "end of print statement"
  | .statement => "end of statement block"
  | .comment => "end of comment"

def shown : Token → String
  | .copied _ => "template data / text"
  | .opening .printing => "begin of print statement"
  | .opening .statement => "begin of statement block"
  | .opening .comment => "begin of comment"
  | .closing mark => closingName mark
  | .name value => value
  | .text _ => "string"
  | .whole _ => "integer"
  | .real _ => "float"
  | .operator symbol => symbol

end Token

/-- Tokens up to the end of a skeleton, or up to a fault. -/
structure TokenStream where
  tokens : List Token
  fault : Option RenderFault := none

namespace TokenStream

def empty : TokenStream := ⟨[], none⟩

def failing (reason : String) : TokenStream := ⟨[], some (.malformed (.ofString reason))⟩

def cons (token : Token) (stream : TokenStream) : TokenStream :=
  { stream with tokens := token :: stream.tokens }

end TokenStream

/-! ### Quoted text -/

namespace Quotation

/-- The text that characters between quotes stand for, or what is wrong with them. -/
def read (chars : List Char) : Except String CodeText :=
  (Text.Escape.read (chars.flatMap Text.Escape.shortForm)).mapError Text.EscapeFault.reason

/-- How many characters stand in front of the closing quote, if there is one. -/
def quotedLength? (quote : Char) : List Char → Option Nat
  | [] => none
  | '\x5c' :: rest =>
    match rest with
    | [] => none
    | _ :: rest => (quotedLength? quote rest).map (· + 2)
  | char :: rest => if char = quote then some 0 else (quotedLength? quote rest).map (· + 1)

end Quotation

/-! ### Cutting -/

namespace Scan

/-- The text in front of the first mark, the mark, and what follows it. -/
def splitText : List Char → List Char × Option (Mark × List Char)
  | char :: next :: rest =>
    match (if char = '\x7b' then Mark.ofOpeningChar? next else none) with
    | some mark => ([], some (mark, rest))
    | none =>
      let (copied, found) := splitText (next :: rest)
      (char :: copied, found)
  | chars => (chars, none)

/-- The sign behind an opening mark, and what follows it. -/
def takeSign : List Char → Sign × List Char
  | '-' :: rest => (.drop, rest)
  | '+' :: rest => (.keep, rest)
  | chars => (.none, chars)

/-- The text without the blanks at its end, if nothing else stands on its last line; `lineStart`
says that the text itself begins a line. -/
def withoutIndentation (lineStart : Bool) (text : List Char) : List Char :=
  let lastLine := (text.reverse.takeWhile (· ≠ '\n')).reverse
  if lastLine.all Text.isBlank && (lineStart || lastLine.length < text.length) then
    text.take (text.length - lastLine.length)
  else text

/-- What is copied of the text in front of a mark. -/
def kept (lineStart : Bool) (mark : Mark) (sign : Sign) (text : List Char) : List Char :=
  match sign with
  | .drop => Text.trimEnd Text.isBlank text
  | .keep => text
  | .none => if mark.ownsLine then withoutIndentation lineStart text else text

/-- What is left behind a closing mark, and whether a line begins there. -/
def behind (mark : Mark) (sign : Sign) (chars : List Char) : Bool × List Char :=
  match sign with
  | .drop => (false, chars.dropWhile Text.isBlank)
  | .keep => (false, chars)
  | .none =>
    match chars with
    | '\n' :: rest => if mark.ownsLine then (true, rest) else (false, chars)
    | _ => (false, chars)

/-- The sign in a closing mark and what follows the mark, if a text begins with it. A printed
expression is not closed with a plus sign. -/
def closed? (mark : Mark) (chars : List Char) : Option (Sign × List Char) :=
  if mark.closing.isPrefixOf chars then some (.none, chars.drop 2)
  else match chars with
    | '-' :: rest => if mark.closing.isPrefixOf rest then some (.drop, rest.drop 2) else none
    | '+' :: rest =>
      if mark.ownsLine && mark.closing.isPrefixOf rest then some (.keep, rest.drop 2) else none
    | _ => none

/-- What follows a comment. -/
def afterComment? : List Char → Option (Sign × List Char)
  | [] => none
  | char :: rest =>
    match closed? .comment (char :: rest) with
    | some found => some found
    | none => afterComment? rest

/-- Operators, the longer ones first. -/
def operators : List String :=
  ["//", "**", "==", "!=", ">=", "<=", "+", "-", "/", "*", "%", "~", "[", "]", "(", ")", "\x7b",
    "\x7d", ">", "<", "=", ".", ":", "|", ",", ";"]

/-- The bracket that closes another. -/
def closerOf? : String → Option String
  | "(" => some ")"
  | "[" => some "]"
  | "\x7b" => some "\x7d"
  | _ => none

def isCloser (symbol : String) : Bool := [")", "]", "\x7d"].contains symbol

/-- The brackets that are to be closed behind an operator, the innermost first. -/
def closersAfter (closers : List String) (symbol : String) : Except String (List String) :=
  match closerOf? symbol with
  | some closer => .ok (closer :: closers)
  | none =>
    if isCloser symbol then
      match closers with
      | [] => .error ("unexpected '" ++ symbol ++ "'")
      | closer :: rest =>
        if closer = symbol then .ok rest
        else .error ("unexpected '" ++ symbol ++ "', expected '" ++ closer ++ "'")
    else .ok closers

/-- Digits, in which single underscores may stand between two. -/
def digitsLength (isDigit : Char → Bool) : List Char → Nat
  | [] => 0
  | '_' :: char :: rest => if isDigit char then digitsLength isDigit rest + 2 else 0
  | char :: rest => if isDigit char then digitsLength isDigit rest + 1 else 0

/-- The length of the number that a text begins with, if it has a point or an exponent. -/
def realLength? (chars : List Char) : Option Nat :=
  let whole := if chars.head? = some '_' then 0 else digitsLength Char.isDigit chars
  let fraction := match chars.drop whole with
    | '.' :: rest =>
      let length := if rest.head? = some '_' then 0 else digitsLength Char.isDigit rest
      if length = 0 then 0 else length + 1
    | _ => 0
  let exponent := match chars.drop (whole + fraction) with
    | mark :: rest =>
      let sign := if rest.head? = some '+' || rest.head? = some '-' then 1 else 0
      let digits := rest.drop sign
      let length := if digits.head? = some '_' then 0 else digitsLength Char.isDigit digits
      if mark.toLower = 'e' && length ≠ 0 then length + sign + 1 else 0
    | [] => 0
  if whole = 0 || fraction + exponent = 0 then none else some (whole + fraction + exponent)

/-- The length of the integer that a text begins with, and its base. -/
def wholeLength? (chars : List Char) : Option (Nat × Nat) :=
  let marked (base : Nat) :=
    let length := digitsLength (Decimal.isDigitOf base) (chars.drop 2)
    if length = 0 then none else some (length + 2, base)
  match chars with
  | '0' :: letter :: _ =>
    let found := if letter.toLower = 'b' then marked 2
      else if letter.toLower = 'o' then marked 8
      else if letter.toLower = 'x' then marked 16
      else none
    found.orElse fun _ => some (digitsLength (· == '0') chars, 10)
  | ['0'] => some (1, 10)
  | char :: _ => if char.isDigit then some (digitsLength Char.isDigit chars, 10) else none
  | [] => none

/-- A number without its underscores. -/
def ungrouped (chars : List Char) : List Char := chars.filter (· ≠ '_')

end Scan

/-- Where the reading of tokens stands: in text, at the start of a line or not, or in code under a
mark with brackets that are to be closed. -/
inductive Place where
  | text (lineStart : Bool)
  | code (mark : Mark) (closers : List String)

/-- Reads tokens; `total` is the length of the whole skeleton. Each step consumes a character, so the
fuel need not exceed the number of characters. -/
def tokensFrom (total : Nat) (fuel : Nat) (place : Place) (chars : List Char) : TokenStream :=
  match fuel with
  | 0 => .empty
  | fuel + 1 =>
    match place with
    | .text lineStart =>
      match Scan.splitText chars with
      | (copied, none) => .cons (.copied copied) .empty
      | (copied, some (mark, inner)) =>
        let (sign, inner) := Scan.takeSign inner
        let copied := Token.copied (Scan.kept lineStart mark sign copied)
        match mark with
        | .comment =>
          match Scan.afterComment? inner with
          | some (sign, after) =>
            let (lineStart, after) := Scan.behind mark sign after
            .cons copied (tokensFrom total fuel (.text lineStart) after)
          | none =>
            .cons copied (if inner.isEmpty then .empty else .failing "Missing end of comment tag")
        | _ => .cons copied (.cons (.opening mark) (tokensFrom total fuel (.code mark []) inner))
    | .code mark closers =>
      match chars, (if closers.isEmpty then Scan.closed? mark chars else none) with
      | _, some (sign, after) =>
        let (lineStart, after) := Scan.behind mark sign after
        .cons (.closing mark) (tokensFrom total fuel (.text lineStart) after)
      | [], none => .empty
      | char :: rest, none =>
        if Text.isBlank char then tokensFrom total fuel place rest
        else match Scan.realLength? chars, Scan.wholeLength? chars with
        | some length, _ =>
          let value := Decimal.readFloat? (CodeText.ofChars (Scan.ungrouped (chars.take length)))
          .cons (.real (value.getD 0)) (tokensFrom total fuel place (chars.drop length))
        | none, some (length, base) =>
          let digits := Scan.ungrouped (chars.take length)
          let value := Decimal.natOfDigits base (if base = 10 then digits else digits.drop 2)
          .cons (.whole value) (tokensFrom total fuel place (chars.drop length))
        | none, none =>
          if Text.isNameChar char then
            let name := chars.takeWhile Text.isNameChar
            if (Text.badNameChar? name).isSome then .failing "Invalid character in identifier"
            else .cons (.name (String.ofList name))
              (tokensFrom total fuel place (chars.drop name.length))
          else
            let isQuote := char = '\x27' || char = '\x22'
            match (if isQuote then Quotation.quotedLength? char rest else none) with
            | some length =>
              match Quotation.read (rest.take length) with
              | .ok value => .cons (.text value) (tokensFrom total fuel place (rest.drop (length + 1)))
              | .error reason => .failing reason
            | none =>
              match Scan.operators.find? fun symbol => symbol.toList.isPrefixOf chars with
              | none =>
                .failing ("unexpected char " ++ Text.quoted char.toString ++ " at " ++
                  toString (total - chars.length))
              | some symbol =>
                match Scan.closersAfter closers symbol with
                | .error reason => .failing reason
                | .ok closers =>
                  .cons (.operator symbol)
                    (tokensFrom total fuel (.code mark closers) (chars.drop symbol.length))

def TokenStream.ofChars (chars : List Char) : TokenStream :=
  tokensFrom chars.length (chars.length + 1) (.text true) chars

end EntityScaffold.Skeleton
