import EntityScaffold.Decimal.Numeral
import EntityScaffold.Text.Blank
import EntityScaffold.Text.CharacterName.Aliases
import EntityScaffold.Text.CharacterName.Alphabets
import EntityScaffold.Text.CharacterName.Ancient
import EntityScaffold.Text.CharacterName.EastAsia
import EntityScaffold.Text.CharacterName.Pictures
import EntityScaffold.Text.CharacterName.Scripts
import EntityScaffold.Text.CharacterName.Syllables
import EntityScaffold.Text.CharacterName.Symbols

/-
Characters by name. Syllables of Hangul have names put together from those of their letters, unified
ideographs are named by number, and the other names stand in tables, where case does not matter.
In a table the words for the characters of a row follow each other. A number behind `@` says where a
row begins, a word with a colon behind it begins the names of the words that follow, and a low line
stands for a blank.
-/

namespace EntityScaffold.Text.CharacterName

/-- The character of a name in the words of a table. `point` is the character that the next word
names, `ending` what is left of the name behind the beginning that applies, if it has that
beginning. -/
def findWord (name : List Char) :
    (point : Nat) → (ending : Option (List Char)) → List (List Char) → Option Nat
  | _, _, [] => none
  | point, ending, word :: words =>
    if word.head? = some '@' then
      findWord name (Decimal.natOfDigits 16 (word.drop 1)) ending words
    else if word.getLast? = some ':' then
      let front := word.dropLast
      let ending := if front.isPrefixOf name then some (name.drop front.length) else none
      findWord name point ending words
    else if ending = some word then some point
    else findWord name (point + 1) ending words

def inTable? (name : List Char) (table : String) : Option Nat :=
  findWord name 0 (some name) (fieldsOf isBlank table.toList)

def tables : List String :=
  [furtherNames, alphabetNames, syllableNames, symbolNames, eastAsianNames, ancientNames,
   scriptNames, pictureNames]

def capital (char : Char) : Char :=
  if 'a' ≤ char && char ≤ 'z' then Char.ofNat (char.toNat - 0x20) else char

/-- The letters that a syllable of Hangul begins with, without which it may begin. -/
def leadingLetters : List String :=
  ["G", "GG", "N", "D", "DD", "R", "M", "B", "BB", "S", "SS", "", "J", "JJ", "C", "K", "T", "P", "H"]

def vowels : List String :=
  ["A", "AE", "YA", "YAE", "EO", "E", "YEO", "YE", "O", "WA", "WAE", "OE", "YO", "U", "WEO", "WE",
   "WI", "YU", "EU", "YI", "I"]

/-- The letters that a syllable of Hangul ends with, without which it may end. -/
def trailingLetters : List String :=
  ["", "G", "GG", "GS", "N", "NJ", "NH", "D", "L", "LG", "LM", "LB", "LS", "LT", "LP", "LH", "M",
   "B", "BS", "S", "SS", "NG", "J", "C", "K", "T", "P", "H"]

/-- The place of the longest of some words that a text begins with, and what stands behind it. -/
def longestFront? (words : List String) (text : List Char) : Option (Nat × List Char) :=
  let fits := words.zipIdx.filter fun (word, _) => word.toList.isPrefixOf text
  let best := fits.foldl
    (fun (best : Option (String × Nat)) fit =>
      if best.all fun (word, _) => word.length < fit.1.length then some fit else best) none
  best.map fun (word, place) => (place, text.drop word.length)

/-- The syllable of Hangul that is written in letters. -/
def hangul? (letters : List Char) : Option Nat := do
  let (leading, rest) ← longestFront? leadingLetters letters
  let (vowel, rest) ← longestFront? vowels rest
  let (trailing, rest) ← longestFront? trailingLetters rest
  if rest.isEmpty then
    some (0xAC00 + (leading * vowels.length + vowel) * trailingLetters.length + trailing)
  else none

def ideographRanges : List (Nat × Nat) :=
  [(0x3400, 0x4DBF), (0x4E00, 0x9FFF), (0x20000, 0x2A6DF), (0x2A700, 0x2B738), (0x2B740, 0x2B81D),
   (0x2B820, 0x2CEA1), (0x2CEB0, 0x2EBE0), (0x30000, 0x3134A)]

/-- The unified ideograph of a number of four or five digits. -/
def ideograph? (digits : List Char) : Option Nat :=
  let isDigit (char : Char) := Decimal.isDigitOf 16 char && capital char = char
  let point := Decimal.natOfDigits 16 digits
  if (digits.length = 4 || digits.length = 5) && digits.all isDigit &&
      inRanges ideographRanges point then
    some point
  else none

def find? (name : List Char) : Option Nat :=
  let hangulFront := "HANGUL SYLLABLE ".toList
  let ideographFront := "CJK UNIFIED IDEOGRAPH-".toList
  if hangulFront.isPrefixOf name then hangul? (name.drop hangulFront.length)
  else if ideographFront.isPrefixOf name then ideograph? (name.drop ideographFront.length)
  else if name.contains '_' then none
  else
    let word := (name.map capital).map fun char => if char = ' ' then '_' else char
    tables.findSome? (inTable? word)

end EntityScaffold.Text.CharacterName
