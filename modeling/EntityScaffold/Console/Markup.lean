import EntityScaffold.Console.Cells
import EntityScaffold.Console.Parameters
import EntityScaffold.Console.Style
import EntityScaffold.Text.Emoji
import EntityScaffold.Text.Quoted

/-
Markup of printed text. A tag stands in square brackets and begins with a small letter or one of
three marks; it opens a style, or closes one that is open. Styles have no visible effect, so only
the text is left, but a closing tag has to close something, and the parameters of a handler have to
be a value. A backslash in front of a tag makes it text.
-/

namespace EntityScaffold.Console

/-- A piece of marked-up text: plain text, or what could be a tag behind some backslashes. -/
inductive MarkupPiece where
  | text (points : CodeText)
  | tag (backslashes : Nat) (content : CodeText)
  deriving DecidableEq

inductive MarkupError where
  | unmatched (tag : CodeText) (position : Nat)
  | nothingOpen (position : Nat)
  /-- The part of a handler's parameters that is no value. -/
  | badParameters (part whole : CodeText) (fault : ParameterFault)
  /-- A colour with a component that is no number. -/
  | badColor
  deriving DecidableEq

def MarkupError.message : MarkupError → CodeText
  | .unmatched tag position =>
    CodeText.ofString "closing tag '[" ++ tag ++
      CodeText.ofString ("]' at position " ++ toString position ++ " doesn't match any open tag")
  | .nothingOpen position =>
    CodeText.ofString ("closing tag '[/]' at position " ++ toString position ++
      " has nothing to close")
  | .badParameters part whole fault =>
    let quoted (text : CodeText) := String.ofList (Text.quotedPoints (text.map CodePoint.value))
    CodeText.ofString ("error parsing " ++ quoted part ++ " in " ++ quoted whole ++ "; " ++
      fault.message)
  | .badColor => CodeText.ofString "invalid literal for int() with base 10: ''"

namespace Markup

def backslash : CodePoint := CodePoint.ofChar '\x5c'

def opening : CodePoint := CodePoint.ofChar '['

def closing : CodePoint := CodePoint.ofChar ']'

def startsTag (point : CodePoint) : Bool :=
  match point.toChar? with
  | some char => ('a' ≤ char && char ≤ 'z') || char == '#' || char == '/' || char == '@'
  | none => false

/-- The content of a tag behind its opening bracket, and what follows the tag. -/
def tagContent? : CodeText → Option (CodeText × CodeText)
  | [] => none
  | point :: rest =>
    if startsTag point then
      let content := rest.takeWhile fun next => next ≠ opening && next ≠ closing
      match rest.dropWhile fun next => next ≠ opening && next ≠ closing with
      | bracket :: after => if bracket = closing then some (point :: content, after) else none
      | [] => none
    else none

theorem tagContent?_length {text content after : CodeText}
    (found : tagContent? text = some (content, after)) : after.length < text.length := by
  cases text with
  | nil => simp [tagContent?] at found
  | cons point rest =>
    simp only [tagContent?] at found
    split at found
    · split at found
      · rename_i bracket ending isEnding
        split at found
        · simp only [Option.some.injEq, Prod.mk.injEq] at found
          have shorter := (List.dropWhile_suffix (l := rest)
            fun next => next ≠ opening && next ≠ closing).length_le
          rw [isEnding, found.2] at shorter
          simp only [List.length_cons] at shorter ⊢
          omega
        · simp at found
      · simp at found
    · simp at found

/-- Plain text in front of other pieces; text next to text is one piece. -/
def addText (points : CodeText) : List MarkupPiece → List MarkupPiece
  | .text more :: pieces => .text (points ++ more) :: pieces
  | pieces => if points.isEmpty then pieces else .text points :: pieces

/-- The pieces of a text, `backslashes` being those that stand directly in front of it. -/
def piecesFrom (backslashes : Nat) (text : CodeText) : List MarkupPiece :=
  let before := List.replicate backslashes backslash
  match text with
  | [] => addText before []
  | point :: rest =>
    if point = backslash then piecesFrom (backslashes + 1) rest
    else if point = opening then
      match _found : tagContent? rest with
      | some (content, after) => .tag backslashes content :: piecesFrom 0 after
      | none => addText (before ++ [point]) (piecesFrom 0 rest)
    else addText (before ++ [point]) (piecesFrom 0 rest)
termination_by text.length
decreasing_by
  · simp
  · have shorter := tagContent?_length _found
    simp only [List.length_cons]
    omega
  · simp
  · simp

def pieces (text : CodeText) : List MarkupPiece := piecesFrom 0 text

/-- A backslash at the end that would change the tag behind it is doubled. -/
def guardEnd (text : CodeText) : CodeText :=
  match text.reverse with
  | last :: rest =>
    if last = backslash && rest.head? ≠ some backslash then text ++ [backslash] else text
  | [] => text

/-- Text that is printed as it is: what could be a tag gets a backslash more than twice as many as
it had. -/
def escape (text : CodeText) : CodeText :=
  guardEnd ((pieces text).flatMap fun
    | .text plain => plain
    | .tag backslashes content =>
      List.replicate (2 * backslashes + 1) backslash ++ opening :: content ++ [closing])

/-- Plain text as it is shown: a backslash in front of a bracket is dropped, and emoji are put for
their names. -/
def showText (text : CodeText) : CodeText := Text.replaceEmoji (dropGuards text)
where
  /-- Drops the backslash in front of each bracket. -/
  dropGuards : CodeText → CodeText
    | [] => []
    | point :: rest =>
      if point = backslash && rest.head? = some opening then dropGuards rest
      else point :: dropGuards rest

/-- A tag that opens a style, with what follows an equals sign in it. -/
structure OpenTag where
  name : CodeText
  parameters : Option CodeText
  deriving DecidableEq

/-- The name by which a style is opened and closed. -/
def styleName (description : CodeText) : Except MarkupError CodeText :=
  (Style.canonicalName description).mapError fun _ => .badColor

/-- The parameters of a handler are looked at when it is closed. -/
def OpenTag.close (tag : OpenTag) : Except MarkupError Unit :=
  let parameters := tag.parameters.getD []
  if tag.name.head? = some (CodePoint.ofChar '@') && !parameters.isEmpty then
    match Parameters.fault? parameters with
    | some (part, fault) => .error (.badParameters part parameters fault)
    | none => .ok ()
  else .ok ()

/-- The open tags after a tag, the latest first. -/
def openAfter (opened : List OpenTag) (position : Nat) (content : CodeText) :
    Except MarkupError (List OpenTag) := do
  let equals := CodePoint.ofChar '='
  let name := content.takeWhile (· ≠ equals)
  if name.head? = some (CodePoint.ofChar '/') then
    let described := Text.trim CodePoint.isBlank name.tail
    if described.isEmpty then
      match opened with
      | [] => throw (.nothingOpen position)
      | tag :: rest =>
        tag.close
        return rest
    else
      let name ← styleName described
      match opened.find? (·.name = name) with
      | some tag =>
        tag.close
        return opened.eraseP (·.name = name)
      | none => throw (.unmatched content position)
  else
    let parameters := match content.drop name.length with
      | [] => none
      | _ :: parameters => some parameters
    return ⟨← styleName name, parameters⟩ :: opened

/-- The text that pieces leave, read from a position on with some tags open. -/
def render (opened : List OpenTag) (position : Nat) :
    List MarkupPiece → Except MarkupError CodeText
  | [] => .ok []
  | .text plain :: rest => do
    return showText plain ++ (← render opened (position + plain.length) rest)
  | .tag backslashes content :: rest => do
    let literal := List.replicate (backslashes / 2) backslash
    let next := position + backslashes + content.length + 2
    if backslashes % 2 = 1 then
      return literal ++ showText (opening :: content ++ [closing]) ++ (← render opened next rest)
    else
      let opened ← openAfter opened (position + backslashes) content
      return literal ++ (← render opened next rest)

end Markup

/-- The text that marked-up text leaves, without control characters. -/
def plainText (markup : CodeText) : Except MarkupError CodeText :=
  (Markup.render [] 0 (Markup.pieces markup)).map strip

def styled (style : String) (text : CodeText) : CodeText :=
  CodeText.ofString ("[" ++ style ++ "]") ++ text ++ CodeText.ofString ("[/" ++ style ++ "]")

end EntityScaffold.Console
