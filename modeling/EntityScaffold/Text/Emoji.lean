import EntityScaffold.Text.Case
import EntityScaffold.Text.CodePoint
import EntityScaffold.Text.EmojiTable

/-
Emoji by name. A name between two colons, without blanks, stands for an emoji if there is one of
that name in any case; the name may end in the form that is asked for, as text or as a picture.
-/

namespace EntityScaffold.Text

/-- The words of a text as pairs. -/
def pairsOf : List (List Char) → List (List Char × List Char)
  | first :: second :: rest => (first, second) :: pairsOf rest
  | _ => []

def emojiTable : List (List Char × List Char) := pairsOf (fieldsOf isBlank emojiWords.toList)

/-- The forms in which an emoji can be asked for, each with the character that selects it. -/
def emojiForms : List (List Char × Char) :=
  [("-text".toList, '\uFE0E'), ("-emoji".toList, '\uFE0F')]

def emojiNamed? (name : List Char) : Option (List Char) :=
  let form := emojiForms.find? fun (ending, _) => ending.isSuffixOf name
  match form with
  | some (ending, selector) =>
    (emojiTable.lookup (lower (name.take (name.length - ending.length)))).map (· ++ [selector])
  | none => emojiTable.lookup (lower name)

/-- The name that a colon in front of a text begins, if another colon ends it. -/
def colonName? (text : CodeText) : Option CodeText :=
  let colon := CodePoint.ofChar ':'
  let name := text.takeWhile fun point => point ≠ colon && !point.isBlank
  if text[name.length]? = some colon then some name else none

/-- A text with emoji for their names. Colons that enclose another name do not begin one. -/
def replaceEmoji : CodeText → CodeText
  | [] => []
  | point :: rest =>
    let colon := CodePoint.ofChar ':'
    if point = colon then
      match colonName? rest with
      | some name =>
        let emoji := (name.toChars?.bind emojiNamed?).map CodeText.ofChars
        emoji.getD (colon :: name ++ [colon]) ++ replaceEmoji (rest.drop (name.length + 1))
      | none => point :: replaceEmoji rest
    else point :: replaceEmoji rest
termination_by text => text.length
decreasing_by
  · simp only [List.length_drop, List.length_cons]
    omega
  · simp
  · simp

end EntityScaffold.Text
