/-
Base 64. Characters outside the alphabet are passed over, and a padding mark ends the text as soon
as it completes a group of four.
-/

namespace EntityScaffold.Text.Base64

def sextet? (char : Char) : Option Nat :=
  if 'A' ≤ char && char ≤ 'Z' then some (char.toNat - 'A'.toNat)
  else if 'a' ≤ char && char ≤ 'z' then some (char.toNat - 'a'.toNat + 26)
  else if '0' ≤ char && char ≤ '9' then some (char.toNat - '0'.toNat + 52)
  else if char = '+' then some 62
  else if char = '/' then some 63
  else none

/-- The octets of a text; `filled` sextets of the current group are known, `left` holds the bits
that no octet has taken yet, and `marks` counts padding marks. An incomplete group is refused. -/
def decodeFrom (filled left marks : Nat) : List Char → Option (List UInt8)
  | [] => if filled = 0 then some [] else none
  | char :: rest =>
    if char = '=' then
      if 2 ≤ filled && 4 ≤ filled + (marks + 1) then some []
      else decodeFrom filled left (if 2 ≤ filled then marks + 1 else marks) rest
    else match sextet? char with
      | none => decodeFrom filled left marks rest
      | some bits =>
        match filled with
        | 0 => decodeFrom 1 bits 0 rest
        | 1 => (decodeFrom 2 (bits % 16) 0 rest).map ((left * 4 + bits / 16).toUInt8 :: ·)
        | 2 => (decodeFrom 3 (bits % 4) 0 rest).map ((left * 16 + bits / 4).toUInt8 :: ·)
        | _ => (decodeFrom 0 0 0 rest).map ((left * 64 + bits).toUInt8 :: ·)

def decode (chars : List Char) : Option (List UInt8) := decodeFrom 0 0 0 chars

end EntityScaffold.Text.Base64
