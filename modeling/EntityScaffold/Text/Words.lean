import EntityScaffold.Text.Case

/-
Naming styles. A field name in any style is broken into words in three steps: a break in front of
each capitalised word, a break between a small letter or digit and a capital, and one break for each
run of dashes, dots and blanks. `snakeCase` writes the breaks as `_`; `humanize` writes them as
spaces and capitalises the first word.
-/

namespace EntityScaffold.Text

def isAsciiUpper (char : Char) : Bool := 'A' ≤ char && char ≤ 'Z'

def isAsciiLower (char : Char) : Bool := 'a' ≤ char && char ≤ 'z'

def isAsciiDigit (char : Char) : Bool := '0' ≤ char && char ≤ '9'

/-- A break between any character of a line and a capital that small letters follow. The small
letters are consumed with the capital, so that two breaks never share a character. -/
def breakBeforeCapitalised : List Char → List Char
  | char :: capital :: small :: rest =>
    if char ≠ '\n' && isAsciiUpper capital && isAsciiLower small then
      char :: '_' :: capital :: small ::
        (rest.takeWhile isAsciiLower ++ breakBeforeCapitalised (rest.dropWhile isAsciiLower))
    else char :: breakBeforeCapitalised (capital :: small :: rest)
  | chars => chars
termination_by chars => chars.length
decreasing_by
  · have shorter := (List.dropWhile_suffix (l := rest) isAsciiLower).length_le
    simp only [List.length_cons]
    omega
  · simp

/-- A break between a small letter or digit and a capital. -/
def breakBeforeCapital : List Char → List Char
  | char :: capital :: rest =>
    if (isAsciiLower char || isAsciiDigit char) && isAsciiUpper capital then
      char :: '_' :: breakBeforeCapital (capital :: rest)
    else char :: breakBeforeCapital (capital :: rest)
  | chars => chars

/-- The characters that separate words: the dash, the dot and the blanks. -/
def isWordSeparator (char : Char) : Bool := char == '-' || char == '.' || isBlank char

/-- `SomeThing` and `some-thing` as `some_thing`. -/
def snakeCase (name : List Char) : List Char :=
  lower (collapseRuns isWordSeparator '_' false
    (breakBeforeCapital (breakBeforeCapitalised name)))

/-- `created_at` and `createdAt` as `Created at`. -/
def humanize (name : List Char) : List Char :=
  capitalizeFirst (trim isBlank (replaceChar '_' ' ' (snakeCase name)))

end EntityScaffold.Text
