import EntityScaffold.Decimal.Reading

/-
The types of YAML nodes. A plain scalar without a tag has the type that its spelling shows: a word
for a truth value or for null, a number in one of several bases, a date, or one of the marks that
mean something in YAML itself. Anything else is text. One line feed behind a spelling, which only
scalars with a lone exclamation mark for a tag can have, makes no difference.
-/

namespace EntityScaffold.Yaml

inductive Tag where
  | null
  | bool
  | int
  | float
  | text
  | binary
  | timestamp
  | sequence
  | mapping
  | orderedMapping
  | pairs
  | set
  | merge
  | value
  | other (name : List Char)
  deriving DecidableEq

namespace Tag

def standardStart : List Char := "tag:yaml.org,2002:".toList

def standardNames : List (List Char × Tag) :=
  [("null".toList, .null), ("bool".toList, .bool), ("int".toList, .int), ("float".toList, .float),
   ("str".toList, .text), ("binary".toList, .binary), ("timestamp".toList, .timestamp),
   ("seq".toList, .sequence), ("map".toList, .mapping), ("omap".toList, .orderedMapping),
   ("pairs".toList, .pairs), ("set".toList, .set), ("merge".toList, .merge),
   ("value".toList, .value)]

def ofName (name : List Char) : Tag :=
  if standardStart.isPrefixOf name then
    (standardNames.lookup (name.drop standardStart.length)).getD (.other name)
  else .other name

end Tag

namespace Spelling

/-- A spelling without the line feed at its end. A line feed alone is kept. -/
def withoutLineEnd (chars : List Char) : List Char :=
  if 1 < chars.length && chars.getLast? == some '\n' then chars.dropLast else chars

def isDigit (char : Char) : Bool := '0' ≤ char && char ≤ '9'

def isDigitOrMark (char : Char) : Bool := isDigit char || char == '_'

def dropSign (chars : List Char) : List Char :=
  match chars with
  | '+' :: rest | '-' :: rest => rest
  | _ => chars

def trueWords : List (List Char) :=
  ["yes".toList, "Yes".toList, "YES".toList, "true".toList, "True".toList, "TRUE".toList,
   "on".toList, "On".toList, "ON".toList]

def falseWords : List (List Char) :=
  ["no".toList, "No".toList, "NO".toList, "false".toList, "False".toList, "FALSE".toList,
   "off".toList, "Off".toList, "OFF".toList]

def isBool (chars : List Char) : Bool := trueWords.contains chars || falseWords.contains chars

def isNull (chars : List Char) : Bool :=
  ["".toList, "~".toList, "null".toList, "Null".toList, "NULL".toList].contains chars

/-- Groups of base sixty, each behind a colon: one digit, or two of which the first is below six. -/
def isSixties : List Char → Bool
  | [':', unit] => isDigit unit
  | [':', ten, unit] => (isDigit ten && ten ≤ '5') && isDigit unit
  | ':' :: ten :: ':' :: rest => isDigit ten && isSixties (':' :: rest)
  | ':' :: ten :: unit :: ':' :: rest =>
    (isDigit ten && ten ≤ '5') && isDigit unit && isSixties (':' :: rest)
  | _ => false

def isInt (chars : List Char) : Bool :=
  match dropSign chars with
  | ['0'] => true
  | '0' :: 'b' :: rest =>
    !rest.isEmpty && rest.all fun char => char == '0' || char == '1' || char == '_'
  | '0' :: 'x' :: rest =>
    !rest.isEmpty && rest.all fun char => Decimal.isDigitOf 16 char || char == '_'
  | '0' :: rest => rest.all fun char => Decimal.isDigitOf 8 char || char == '_'
  | first :: rest =>
    isDigit first &&
      (let tail := rest.dropWhile isDigitOrMark
       tail.isEmpty || isSixties tail)
  | [] => false

/-- An exponent, whose sign is not optional, or nothing. -/
def isExponent (chars : List Char) : Bool :=
  match chars with
  | [] => true
  | mark :: sign :: digits =>
    (mark == 'e' || mark == 'E') && (sign == '+' || sign == '-') && !digits.isEmpty &&
      digits.all isDigit
  | _ => false

def isFloat (chars : List Char) : Bool :=
  let body := dropSign chars
  if [".inf".toList, ".Inf".toList, ".INF".toList].contains body then true
  else if [".nan".toList, ".NaN".toList, ".NAN".toList].contains chars then true
  else match chars with
    | '.' :: first :: rest => isDigit first && isExponent (rest.dropWhile isDigitOrMark)
    | _ =>
      match body with
      | first :: rest =>
        isDigit first &&
          (match rest.dropWhile isDigitOrMark with
            | '.' :: fraction => isExponent (fraction.dropWhile isDigitOrMark)
            | tail =>
              let groups := tail.takeWhile (· ≠ '.')
              (match tail.drop groups.length with
                | '.' :: fraction => isSixties groups && fraction.all isDigitOrMark
                | _ => false))
      | [] => false

/-- The parts of a date or moment as they are spelled. -/
structure Stamp where
  year : List Char
  month : List Char
  day : List Char
  time : Option (List Char × List Char × List Char)
  fraction : List Char
  zone : Option (Bool × List Char × List Char)

/-- Between `least` and `most` digits, as many as there are. -/
def takeDigits? (least most : Nat) (chars : List Char) : Option (List Char × List Char) :=
  let run := (chars.takeWhile isDigit).take most
  if least ≤ run.length then some (run, chars.drop run.length) else none

def takeChar? (wanted : Char) (chars : List Char) : Option (List Char) :=
  match chars with
  | char :: rest => if char == wanted then some rest else none
  | [] => none

def isBlankChar (char : Char) : Bool := char == ' ' || char == '\t'

/-- Reads a zone at the end of a moment. The first component tells whether the offset is negative; a
`Z` has no digits. -/
def zone? (chars : List Char) : Option (Option (Bool × List Char × List Char)) :=
  match chars with
  | [] => some none
  | _ =>
    match chars.dropWhile isBlankChar with
    | ['Z'] => some (some (false, [], []))
    | sign :: rest =>
      if sign == '+' || sign == '-' then do
        let (hour, afterHour) ← takeDigits? 1 2 rest
        match afterHour with
        | [] => some (some (sign == '-', hour, []))
        | ':' :: rest => do
          let (minute, last) ← takeDigits? 2 2 rest
          if last.isEmpty then some (some (sign == '-', hour, minute)) else none
        | _ => none
      else none
    | [] => none

def stamp? (chars : List Char) : Option Stamp := do
  let (year, rest) ← takeDigits? 4 4 chars
  let (month, rest) ← takeDigits? 1 2 (← takeChar? '-' rest)
  let (day, rest) ← takeDigits? 1 2 (← takeChar? '-' rest)
  if rest.isEmpty then return ⟨year, month, day, none, [], none⟩
  else
    let clock ← match rest with
      | 'T' :: rest | 't' :: rest => some rest
      | _ =>
        let blanks := rest.takeWhile isBlankChar
        if blanks.isEmpty then none else some (rest.drop blanks.length)
    let (hour, rest) ← takeDigits? 1 2 clock
    let (minute, rest) ← takeDigits? 2 2 (← takeChar? ':' rest)
    let (second, rest) ← takeDigits? 2 2 (← takeChar? ':' rest)
    let (fraction, rest) := match rest with
      | '.' :: rest => (rest.takeWhile isDigit, rest.dropWhile isDigit)
      | _ => ([], rest)
    let zone ← zone? rest
    return ⟨year, month, day, some (hour, minute, second), fraction, zone⟩

/-- A date without time needs two digits for month and day. -/
def isTimestamp (chars : List Char) : Bool :=
  match stamp? chars with
  | none => false
  | some stamp => stamp.time.isSome || (stamp.month.length = 2 && stamp.day.length = 2)

/-- The marks that begin an alias, an anchor or a tag. -/
def marks : List (List Char) := [['!'], ['&'], ['*']]

end Spelling

/-- The type of a scalar by its spelling. A mark has a type of its own, without values. -/
def Tag.ofSpelling (chars : List Char) : Tag :=
  let spelling := Spelling.withoutLineEnd chars
  if Spelling.isBool spelling then .bool
  else if Spelling.isFloat spelling then .float
  else if Spelling.isInt spelling then .int
  else if spelling = ['<', '<'] then .merge
  else if Spelling.isNull spelling then .null
  else if Spelling.isTimestamp spelling then .timestamp
  else if spelling = ['='] then .value
  else if Spelling.marks.contains spelling then .other (Tag.standardStart ++ "yaml".toList)
  else .text

end EntityScaffold.Yaml
