import EntityScaffold.Decimal.Reading
import EntityScaffold.Text.Utf8
import EntityScaffold.Yaml.Cursor
import EntityScaffold.Yaml.Token

/-
Anchors, aliases, tags and directives: the tokens that consist of an indicator and a name.
-/

namespace EntityScaffold.Yaml

/-- The characters that may follow the name of an anchor or an alias. -/
def endsAnchor (char : Char) : Bool :=
  isWordEnd char || ['?', ':', ',', ']', '\x7d', '%', '@', '\x60'].contains char

def readAnchorName (cursor : Cursor) : Except Fault (List Char × Cursor) :=
  let (name, next) := cursor.step.takeWhile isNameChar
  if !name.isEmpty && endsAnchor next.peek then .ok (name, next) else .error .malformed

/-- The characters of a tag besides escapes. -/
def isUriChar (char : Char) : Bool :=
  isNameChar char ||
    [';', '/', '?', ':', '@', '&', '=', '+', '$', ',', '.', '!', '~', '*', '\x27', '(', ')', '[',
      ']'].contains char

/-- The octets of a run of escapes, each a percent sign and two hexadecimal digits. -/
def readUriOctets : (fuel : Nat) → Cursor → Except Fault (List UInt8 × Cursor)
  | 0, cursor => .ok ([], cursor)
  | fuel + 1, cursor =>
    match cursor.rest with
    | '%' :: high :: low :: _ =>
      if Decimal.isDigitOf 16 high && Decimal.isDigitOf 16 low then do
        let (octets, last) ← readUriOctets fuel (cursor.advance 3)
        return ((Decimal.natOfDigits 16 [high, low]).toUInt8 :: octets, last)
      else .error .malformed
    | '%' :: _ => .error .malformed
    | _ => .ok ([], cursor)

/-- Reads the characters of a tag; the octets of a run of escapes must be UTF-8. -/
def readUriParts : (fuel : Nat) → Cursor → Except Fault (List Char × Cursor)
  | 0, cursor => .ok ([], cursor)
  | fuel + 1, cursor =>
    let (run, next) := cursor.takeWhile isUriChar
    if next.peek == '%' then do
      let (octets, after) ← readUriOctets next.rest.length next
      match Text.Utf8.decode octets with
      | .error _ => throw .malformed
      | .ok escaped =>
        let (tail, last) ← readUriParts fuel after
        return (run ++ escaped ++ tail, last)
    else .ok (run, next)

def readUri (cursor : Cursor) : Except Fault (List Char × Cursor) := do
  if isUriChar cursor.peek || cursor.peek == '%' then
    readUriParts (cursor.rest.length + 1) cursor
  else throw .malformed

/-- Reads a tag handle: one exclamation mark, or a name between two. -/
def readHandle (cursor : Cursor) : Except Fault (List Char × Cursor) :=
  if cursor.peek != '!' then .error .malformed
  else
    let next := cursor.step
    if next.peek == ' ' then .ok (['!'], next)
    else
      let (name, last) := next.takeWhile isNameChar
      if last.peek == '!' then .ok ('!' :: (name ++ ['!']), last.step) else .error .malformed

/-- Does another exclamation mark follow before the next blank? -/
def hasSecondMark (chars : List Char) : Bool :=
  (chars.takeWhile fun char => !isSpaceOrEnd char).contains '!'

/-- Reads a tag: in full between angle brackets, a lone exclamation mark, or a handle and a suffix.
-/
def readTag (cursor : Cursor) : Except Fault (Token × Cursor) := do
  let next := cursor.step
  let (token, last) ←
    if next.peek == '<' then do
      let (suffix, after) ← readUri next.step
      if after.peek == '>' then pure (Token.tag none suffix, after.step) else throw .malformed
    else if isWordEnd next.peek then pure (Token.tag none ['!'], next)
    else do
      let (handle, after) ←
        if hasSecondMark next.rest then readHandle cursor else pure (['!'], next)
      let (suffix, last) ← readUri after
      pure (Token.tag (some handle) suffix, last)
  if isSpaceOrEnd last.peek then return (token, last) else throw .malformed

/-- Reads a number of the version, which has a limit on its length. -/
def readDirectiveNumber (cursor : Cursor) : Except Fault (Nat × Cursor) :=
  let (digits, next) := cursor.takeWhile (Decimal.isDigitOf 10)
  if digits.isEmpty then .error .malformed
  else if Decimal.digitLimit < digits.length then .error (.versionTooLong digits.length)
  else .ok (Decimal.natOfDigits 10 digits, next)

/-- Reads what follows the name of a directive. Directives of unknown name are skipped. -/
def readDirectiveBody (name : List Char) (cursor : Cursor) : Except Fault (Token × Cursor) := do
  if name = "YAML".toList then
    let (major, point) ← readDirectiveNumber cursor.skipSpaces
    if point.peek != '.' then throw .malformed
    let (_, last) ← readDirectiveNumber point.step
    if isSpaceOrEnd last.peek then return (.versionDirective major, last) else throw .malformed
  else if name = "TAG".toList then
    let (handle, afterHandle) ← readHandle cursor.skipSpaces
    if afterHandle.peek != ' ' then throw .malformed
    let (start, last) ← readUri afterHandle.skipSpaces
    if isSpaceOrEnd last.peek then return (.tagDirective handle start, last) else throw .malformed
  else return (.otherDirective, cursor.skipLine)

def readDirective (cursor : Cursor) : Except Fault (Token × Cursor) := do
  let (name, next) := cursor.step.takeWhile isNameChar
  if name.isEmpty || !isSpaceOrEnd next.peek then throw .malformed
  let (token, after) ← readDirectiveBody name next
  let last := after.skipSpaces.skipComment
  if !isLineEnd last.peek then throw .malformed
  match last.takeBreak? with
  | some (_, start) => return (token, start)
  | none => return (token, last)

end EntityScaffold.Yaml
