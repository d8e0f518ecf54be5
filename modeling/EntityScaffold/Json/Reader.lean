import EntityScaffold.Decimal.Reading
import EntityScaffold.Json.Basic
import EntityScaffold.Json.Fault

/-
Reading of JSON texts. Besides the grammar of the standard, the words `NaN`, `Infinity` and
`-Infinity` are numbers. A repeated member name keeps its place and takes the last value. How deeply
values may be nested, and whether half a surrogate pair may stand alone, is for the caller to say.
-/

namespace EntityScaffold.Json

/-- What is read: at most `depth` lists and objects inside each other, where those without items may
not count, and perhaps halves of surrogate pairs as they stand. -/
structure Limits where
  depth : Nat
  countsEmpty : Bool
  allowsSurrogates : Bool
  deriving DecidableEq, Repr

namespace Limits

/-- The limits for data. -/
def lax : Limits := ⟨991, true, true⟩

/-- The limits for settings. -/
def strict : Limits := ⟨200, false, false⟩

end Limits

/-- A place in a text: its position and the characters from there on. -/
structure Cursor where
  position : Nat
  rest : List Char

namespace Cursor

def advance (cursor : Cursor) (count : Nat) : Cursor :=
  ⟨cursor.position + count, cursor.rest.drop count⟩

def isJsonBlank (char : Char) : Bool :=
  char == ' ' || char == '\t' || char == '\n' || char == '\r'

def skipBlanks (cursor : Cursor) : Cursor :=
  cursor.advance (cursor.rest.takeWhile isJsonBlank).length

end Cursor

/-- The character that a letter after a backslash stands for. -/
def simpleEscape? (char : Char) : Option Char :=
  if char = '\x22' || char = '\x5c' || char = '/' then some char
  else if char = 'b' then some '\x08'
  else if char = 'f' then some '\x0c'
  else if char = 'n' then some '\n'
  else if char = 'r' then some '\r'
  else if char = 't' then some '\t'
  else none

/-- The number that four hexadecimal digits spell. -/
def hexFour? (first second third fourth : Char) : Option Nat :=
  let digits := [first, second, third, fourth]
  if digits.all (Decimal.isDigitOf 16) then some (Decimal.natOfDigits 16 digits) else none

def isHighSurrogate (code : Nat) : Bool := 0xD800 ≤ code && code ≤ 0xDBFF

def isLowSurrogate (code : Nat) : Bool := 0xDC00 ≤ code && code ≤ 0xDFFF

def joinSurrogates (high low : Nat) : Nat := 0x10000 + (high - 0xD800) * 0x400 + (low - 0xDC00)

def readText (start position : Nat) : List Char → Except Fault (CodeText × Cursor)
  | [] => .error (.unterminatedText start)
  | '\x22' :: rest => .ok ([], ⟨position + 1, rest⟩)
  | '\x5c' :: 'u' :: first :: second :: third :: fourth :: next :: rest =>
    match hexFour? first second third fourth with
    | none => .error (.invalidCodeEscape (position + 1))
    | some code => do
      let alone : Except Fault (CodeText × Cursor) := do
        let (content, cursor) ← readText start (position + 6) (next :: rest)
        return (CodePoint.ofNat code :: content, cursor)
      match next, rest with
      | '\x5c', 'u' :: low1 :: low2 :: low3 :: low4 :: after :: rest =>
        if isHighSurrogate code then
          match hexFour? low1 low2 low3 low4 with
          | none => .error (.invalidCodeEscape (position + 7))
          | some low =>
            if isLowSurrogate low then do
              let (content, cursor) ← readText start (position + 12) (after :: rest)
              return (CodePoint.ofNat (joinSurrogates code low) :: content, cursor)
            else alone
        else alone
      | _, _ => alone
  | '\x5c' :: 'u' :: _ => .error (.invalidCodeEscape (position + 1))
  | '\x5c' :: escaped :: rest =>
    match simpleEscape? escaped with
    | none => .error (.invalidEscape position)
    | some char => do
      let (content, cursor) ← readText start (position + 2) rest
      return (CodePoint.ofChar char :: content, cursor)
  | ['\x5c'] => .error (.unterminatedText start)
  | char :: rest =>
    if char.toNat < 0x20 then .error (.controlCharacter position)
    else do
      let (content, cursor) ← readText start (position + 1) rest
      return (CodePoint.ofChar char :: content, cursor)

/-- The digits of a fraction, if the text begins with a point and a digit. -/
def fractionDigits (chars : List Char) : List Char :=
  match chars with
  | '.' :: rest => rest.takeWhile (Decimal.isDigitOf 10)
  | _ => []

/-- The sign and digits of an exponent, and the number of characters that it takes; none if the text
does not begin with an exponent that has a digit. -/
def exponent? (chars : List Char) : Option (Int × Nat) :=
  match chars with
  | mark :: rest =>
    if mark = 'e' || mark = 'E' then
      let (negative, signs, digitsFrom) := match rest with
        | '-' :: after => (true, 1, after)
        | '+' :: after => (false, 1, after)
        | _ => (false, 0, rest)
      let digits := digitsFrom.takeWhile (Decimal.isDigitOf 10)
      if digits.isEmpty then none
      else
        let size : Int := Decimal.natOfDigits 10 digits
        some (if negative then -size else size, 1 + signs + digits.length)
    else none
  | [] => none

/-- Reads a number; a zero in front takes no further digit. -/
def readNumber (cursor : Cursor) : Except Fault (Json × Cursor) :=
  let (negative, body) := match cursor.rest with
    | '-' :: rest => (true, rest)
    | _ => (false, cursor.rest)
  let run := body.takeWhile (Decimal.isDigitOf 10)
  let whole := match run with
    | '0' :: _ => ['0']
    | _ => run
  if whole.isEmpty then .error (.expectedValue cursor.position)
  else
    let afterWhole := body.drop whole.length
    let fraction := fractionDigits afterWhole
    let fractionLength := if fraction.isEmpty then 0 else fraction.length + 1
    let power := exponent? (afterWhole.drop fractionLength)
    let powerLength := match power with
      | some (_, length) => length
      | none => 0
    let next := cursor.advance
      ((if negative then 1 else 0) + whole.length + fractionLength + powerLength)
    if fraction.isEmpty && power.isNone then
      if Decimal.digitLimit < whole.length then .error (.tooManyDigits whole.length)
      else
        let size : Int := Decimal.natOfDigits 10 whole
        .ok (.int (if negative then -size else size), next)
    else
      let exponent : Int := match power with
        | some (value, _) => value
        | none => 0
      let size := Decimal.nearestFloat (whole ++ fraction) (exponent - fraction.length)
      .ok (.float (if negative then -size else size), next)

def words : List (List Char × Json) :=
  [("null".toList, .null), ("true".toList, .bool true), ("false".toList, .bool false),
   ("NaN".toList, .float (0.0 / 0.0)), ("Infinity".toList, .float (1.0 / 0.0)),
   ("-Infinity".toList, .float (-1.0 / 0.0))]

def readWord? (cursor : Cursor) : Option (Json × Cursor) :=
  (words.find? fun word => word.1.isPrefixOf cursor.rest).map fun word =>
    (word.2, cursor.advance word.1.length)

def readQuoted (limits : Limits) (position : Nat) (rest : List Char) :
    Except Fault (CodeText × Cursor) := do
  let (content, next) ← readText position (position + 1) rest
  if limits.allowsSurrogates || content.toChars?.isSome then return (content, next)
  else throw (.surrogate position)

mutual

/-- Reads one value. Each step into a value or past a delimiter takes one unit of `fuel`, each list
and object one unit of `depth`. -/
def readValue (limits : Limits) : (fuel depth : Nat) → Cursor → Except Fault (Json × Cursor)
  | 0, _, cursor => .error (.expectedValue cursor.position)
  | fuel + 1, depth, cursor =>
    match cursor.rest with
    | [] => .error (.expectedValue cursor.position)
    | '\x22' :: rest => do
      let (content, next) ← readQuoted limits cursor.position rest
      return (.text content, next)
    | '\x7b' :: _ => do
      if depth = 0 && limits.countsEmpty then throw .tooDeep
      let inside := (cursor.advance 1).skipBlanks
      match inside.rest with
      | '\x7d' :: _ => return (.object [], inside.advance 1)
      | _ =>
        if depth = 0 then throw .tooDeep
        let (members, next) ← readMembers limits fuel (depth - 1) [] inside
        return (.object members, next)
    | '[' :: _ => do
      if depth = 0 && limits.countsEmpty then throw .tooDeep
      let inside := (cursor.advance 1).skipBlanks
      match inside.rest with
      | ']' :: _ => return (.list [], inside.advance 1)
      | _ =>
        if depth = 0 then throw .tooDeep
        let (items, next) ← readItems limits fuel (depth - 1) inside
        return (.list items, next)
    | _ =>
      match readWord? cursor with
      | some result => .ok result
      | none => readNumber cursor

def readItems (limits : Limits) : (fuel depth : Nat) → Cursor → Except Fault (List Json × Cursor)
  | 0, _, cursor => .error (.expectedValue cursor.position)
  | fuel + 1, depth, cursor => do
    let (item, after) ← readValue limits fuel depth cursor
    let next := after.skipBlanks
    match next.rest with
    | ']' :: _ => return ([item], next.advance 1)
    | ',' :: _ =>
      let (items, last) ← readItems limits fuel depth (next.advance 1).skipBlanks
      return (item :: items, last)
    | _ => .error (.expectedComma next.position)

/-- Reads the members of an object up to its end; `members` are those already read. -/
def readMembers (limits : Limits) : (fuel depth : Nat) → (members : List (CodeText × Json)) →
    Cursor → Except Fault (List (CodeText × Json) × Cursor)
  | 0, _, _, cursor => .error (.expectedName cursor.position)
  | fuel + 1, depth, members, cursor =>
    match cursor.rest with
    | '\x22' :: rest => do
      let (name, afterName) ← readQuoted limits cursor.position rest
      let colon := afterName.skipBlanks
      match colon.rest with
      | ':' :: _ =>
        let (item, afterItem) ← readValue limits fuel depth (colon.advance 1).skipBlanks
        let extended := Ordered.insert name item members
        let next := afterItem.skipBlanks
        match next.rest with
        | '\x7d' :: _ => return (extended, next.advance 1)
        | ',' :: _ => readMembers limits fuel depth extended (next.advance 1).skipBlanks
        | _ => .error (.expectedComma next.position)
      | _ => .error (.expectedColon colon.position)
    | _ => .error (.expectedName cursor.position)

end

/-- Reads a whole text, which holds one value and blanks. -/
def read (limits : Limits) (source : List Char) : Except Fault Json :=
  match source with
  | '\uFEFF' :: _ => .error .byteOrderMark
  | _ => do
    let start := (Cursor.mk 0 source).skipBlanks
    let (json, next) ← readValue limits (2 * source.length + 2) limits.depth start
    let last := next.skipBlanks
    if last.rest.isEmpty then return json else throw (.extraData last.position)

end EntityScaffold.Json
