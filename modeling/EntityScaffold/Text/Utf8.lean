/-
UTF-8. A decoder that stops at the first octet which rules the rest out, and says where and why.
The least and greatest second octet of a sequence depend on its first one, which shuts out overlong
forms, surrogates and numbers beyond the last code point.
-/

namespace EntityScaffold.Text.Utf8

/-- Why octets are no text: the octet that cannot start a character, the octets of a character that
another octet breaks off, or the octets of a character at the end of the input. -/
inductive Fault
  | invalidStart
  | invalidContinuation
  | unexpectedEnd
  deriving DecidableEq, Repr

/-- The undecodable octets `start, …, start + length - 1`, the first of them being `octet`. -/
structure DecodeError where
  fault : Fault
  octet : UInt8
  start : Nat
  length : Nat
  deriving DecidableEq, Repr

/-- A number in hexadecimal with at least `width` digits, small letters. -/
def hexDigits (width value : Nat) : List Char :=
  let digits := Nat.toDigits 16 value
  List.replicate (width - digits.length) '0' ++ digits

def DecodeError.message (error : DecodeError) : String :=
  let place :=
    if error.length ≤ 1 then
      "byte 0x" ++ String.ofList (hexDigits 2 error.octet.toNat) ++ " in position " ++
        toString error.start
    else
      "bytes in position " ++ toString error.start ++ "-" ++
        toString (error.start + error.length - 1)
  let reason := match error.fault with
    | .invalidStart => "invalid start byte"
    | .invalidContinuation => "invalid continuation byte"
    | .unexpectedEnd => "unexpected end of data"
  "'utf-8' codec can't decode " ++ place ++ ": " ++ reason

/-- What the first octet of a character asks for: how many octets follow, the range of the first of
them, and the value bits of the first octet itself. -/
structure Lead where
  following : Nat
  least : Nat
  greatest : Nat
  bits : Nat

def lead? (octet : Nat) : Option Lead :=
  if octet < 0x80 then some ⟨0, 0x80, 0xBF, octet⟩
  else if octet < 0xC2 then none
  else if octet < 0xE0 then some ⟨1, 0x80, 0xBF, octet - 0xC0⟩
  else if octet = 0xE0 then some ⟨2, 0xA0, 0xBF, 0⟩
  else if octet = 0xED then some ⟨2, 0x80, 0x9F, 0xD⟩
  else if octet < 0xF0 then some ⟨2, 0x80, 0xBF, octet - 0xE0⟩
  else if octet = 0xF0 then some ⟨3, 0x90, 0xBF, 0⟩
  else if octet < 0xF4 then some ⟨3, 0x80, 0xBF, octet - 0xF0⟩
  else if octet = 0xF4 then some ⟨3, 0x80, 0x8F, 4⟩
  else none

/-- Reads `following` more octets of a character whose value so far is `value`; `taken` counts the
octets already read. -/
def readFollowing : (following : Nat) → (least greatest value taken : Nat) → List UInt8 →
    Except (Fault × Nat) (Nat × Nat × List UInt8)
  | 0, _, _, value, taken, rest => .ok (value, taken, rest)
  | _ + 1, _, _, _, taken, [] => .error (.unexpectedEnd, taken)
  | following + 1, least, greatest, value, taken, octet :: rest =>
    if least ≤ octet.toNat && octet.toNat ≤ greatest then
      readFollowing following 0x80 0xBF (value * 64 + (octet.toNat - 0x80)) (taken + 1) rest
    else .error (.invalidContinuation, taken)

theorem readFollowing_length {following least greatest value taken : Nat} {octets : List UInt8}
    {result : Nat × Nat × List UInt8}
    (read : readFollowing following least greatest value taken octets = .ok result) :
    result.2.2.length ≤ octets.length := by
  induction following generalizing least greatest value taken octets with
  | zero =>
    simp only [readFollowing, Except.ok.injEq] at read
    subst read
    exact Nat.le_refl _
  | succ following step =>
    cases octets with
    | nil => simp [readFollowing] at read
    | cons octet rest =>
      simp only [readFollowing] at read
      split at read
      · exact Nat.le_succ_of_le (step read)
      · cases read

/-- The characters of octets that begin at position `position` of the input. -/
def decodeFrom (position : Nat) : List UInt8 → Except DecodeError (List Char)
  | [] => .ok []
  | octet :: rest =>
    match lead? octet.toNat with
    | none => .error ⟨.invalidStart, octet, position, 1⟩
    | some lead =>
      match _read : readFollowing lead.following lead.least lead.greatest lead.bits 1 rest with
      | .error (fault, taken) => .error ⟨fault, octet, position, taken⟩
      | .ok (value, taken, remaining) => do
        let chars ← decodeFrom (position + taken) remaining
        return Char.ofNat value :: chars
termination_by octets => octets.length
decreasing_by
  have shorter : remaining.length ≤ rest.length := readFollowing_length _read
  simp only [List.length_cons]
  omega

def decode (octets : List UInt8) : Except DecodeError (List Char) := decodeFrom 0 octets

end EntityScaffold.Text.Utf8
