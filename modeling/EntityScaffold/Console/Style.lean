import EntityScaffold.Console.ColorTable
import EntityScaffold.Decimal.Numeral

/-
Descriptions of styles. A style turns attributes on or off, and may have a colour, a background and
a link. Two descriptions of one style have the same canonical name, which lists the attributes in a
fixed order, each by its full name; a description of no style is its own name, in small letters.
-/

namespace EntityScaffold.Console

structure Style where
  /-- Attributes that are turned on or off; of two entries for one attribute the first counts. -/
  attributes : List (String × Bool) := []
  color : Option CodeText := none
  background : Option CodeText := none
  link : Option CodeText := none

inductive StyleFault where
  | unknown
  /-- A colour with a component that is no number. -/
  | noNumber
  deriving DecidableEq, Repr

namespace Style

def attributeNames : List String :=
  ["bold", "dim", "italic", "underline", "blink", "blink2", "reverse", "conceal", "strike",
    "underline2", "frame", "encircle", "overline"]

def shortNames : List (String × String) := [
  ("b", "bold"), ("d", "dim"), ("i", "italic"), ("u", "underline"), ("r", "reverse"),
  ("c", "conceal"), ("s", "strike"), ("o", "overline"), ("uu", "underline2")]

/-- The attribute of a full or a short name. -/
def attribute? (name : CodeText) : Option String :=
  name.toString?.bind fun name =>
    if attributeNames.contains name then some name else shortNames.lookup name

def colorNames : List (List Char) :=
  "default".toList :: Text.fieldsOf Text.isBlank colorWords.toList

/-- What stands between a word with an opening bracket and a closing bracket. -/
def enclosed? (word : String) (chars : List Char) : Option (List Char) :=
  let front := (word ++ "(").toList
  if front.isPrefixOf chars && chars.getLast? = some ')' then
    some ((chars.drop front.length).dropLast)
  else none

/-- A number of the palette, with at most three digits. -/
def isPaletteNumber (digits : List Char) : Bool :=
  !digits.isEmpty && digits.length ≤ 3 && digits.all Char.isDigit &&
    Decimal.natOfDigits 10 digits ≤ 255

/-- Are these three components of at most 255 each? A component without digits is no number. -/
def checkComponents (chars : List Char) : Except StyleFault Unit := do
  let isPart (char : Char) := char == ',' || (Text.decimalValue? char).isSome
  let components := Text.splitWhere (· == ',') chars
  if chars.isEmpty || !chars.all isPart || components.length ≠ 3 then throw .unknown
  let sizes ← components.mapM fun component =>
    (Decimal.readInteger 10 (CodeText.ofChars component)).mapError fun _ => StyleFault.noNumber
  if sizes.all (· ≤ 255) then return () else throw .unknown

/-- A colour by name, by six hexadecimal digits, by number or by components, in small letters. -/
def readColor (word : CodeText) : Except StyleFault CodeText := do
  let lowered := word.mapRuns Text.lower
  match lowered.toChars? with
  | none => throw .unknown
  | some chars =>
    let isHexadecimal (char : Char) := char.isDigit || ('a' ≤ char && char ≤ 'f')
    let isHexColor := match chars with
      | '#' :: digits => digits.length = 6 && digits.all isHexadecimal
      | _ => false
    if colorNames.contains chars || isHexColor then return lowered
    match enclosed? "color" chars, enclosed? "rgb" chars with
    | some digits, _ => if isPaletteNumber digits then return lowered else throw .unknown
    | none, some components =>
      checkComponents components
      return lowered
    | none, none => throw .unknown

/-- Adds what words say to a style. -/
def addWords (style : Style) : List CodeText → Except StyleFault Style
  | [] => return style
  | word :: rest =>
    let lowered := word.mapRuns Text.lower
    if lowered = CodeText.ofString "on" then
      match rest with
      | [] => throw .unknown
      | color :: rest => do
        let background ← readColor color
        { style with background := some background }.addWords rest
    else if lowered = CodeText.ofString "not" then
      match rest with
      | [] => throw .unknown
      | name :: rest =>
        match attribute? name with
        | some name => { style with attributes := (name, false) :: style.attributes }.addWords rest
        | none => throw .unknown
    else if lowered = CodeText.ofString "link" then
      match rest with
      | [] => throw .unknown
      | link :: rest => { style with link := some link }.addWords rest
    else match attribute? lowered with
      | some name => { style with attributes := (name, true) :: style.attributes }.addWords rest
      | none => do
        let color ← readColor lowered
        { style with color := some color }.addWords rest

/-- The canonical description of a style. -/
def name (style : Style) : CodeText :=
  let attributes := attributeNames.filterMap fun name =>
    (style.attributes.lookup name).map fun isOn =>
      CodeText.ofString (if isOn then name else "not " ++ name)
  let background := style.background.toList.flatMap fun color => [CodeText.ofString "on", color]
  let link := style.link.toList.flatMap fun link => [CodeText.ofString "link", link]
  let words := attributes ++ style.color.toList ++ background ++ link
  if words.isEmpty then CodeText.ofString "none" else Text.joinWith (CodeText.ofString " ") words

def canonicalName (description : CodeText) : Except StyleFault CodeText :=
  let trimmed := Text.trim CodePoint.isBlank description
  if trimmed = CodeText.ofString "none" then return trimmed
  else match addWords {} (Text.fieldsOf CodePoint.isBlank description) with
    | .ok style => return style.name
    | .error .unknown => return CodeText.mapRuns Text.lower trimmed
    | .error fault => throw fault

end Style

end EntityScaffold.Console
