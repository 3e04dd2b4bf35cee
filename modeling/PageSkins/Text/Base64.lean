/-!
# Base 64

Bytes written with 64 characters. The two last ones of the alphabet may be those for
addresses or the usual ones.
-/

namespace PageSkins.Text.Base64

def sextet? (c : Char) : Option Nat :=
  if 'A' ≤ c ∧ c ≤ 'Z' then some (c.toNat - 65)
  else if 'a' ≤ c ∧ c ≤ 'z' then some (c.toNat - 71)
  else if '0' ≤ c ∧ c ≤ '9' then some (c.toNat + 4)
  else if c = '+' ∨ c = '-' then some 62
  else if c = '/' ∨ c = '_' then some 63
  else none

/-- Where a reader stands in a group of four characters. -/
structure Place where
  /-- Characters of the group read so far. -/
  read : Nat := 0
  /-- Bits that belong to the next byte. -/
  bits : Nat := 0
  /-- Signs that fill the group up. -/
  fills : Nat := 0
  /-- Whether such a sign has been read. After it no other character may follow. -/
  filled : Bool := false

/-- The bytes of a text of whole groups. -/
def decodeFrom (p : Place) : List Char → Option (List UInt8)
  | [] => if p.read = 0 then some [] else none
  | '=' :: s =>
    if p.read < 2 then decodeFrom { p with filled := true } s
    else if p.read + p.fills + 1 ≥ 4 then (if s.isEmpty then some [] else none)
    else decodeFrom { p with fills := p.fills + 1, filled := true } s
  | c :: s =>
    match sextet? c with
    | none => none
    | some n =>
      if p.filled then none
      else match p.read with
        | 0 => decodeFrom { p with read := 1, bits := n } s
        | 1 => (decodeFrom { p with read := 2, bits := n % 16 } s).map ((p.bits * 4 + n / 16).toUInt8 :: ·)
        | 2 => (decodeFrom { p with read := 3, bits := n % 4 } s).map ((p.bits * 16 + n / 4).toUInt8 :: ·)
        | _ => (decodeFrom { p with read := 0, bits := 0 } s).map ((p.bits * 64 + n).toUInt8 :: ·)

def decode? (s : List Char) : Option (List UInt8) :=
  if s.head? = some '=' then none else decodeFrom {} s

/-- The bytes of a text that may lack the signs at its end. -/
def decodeUnfilled? (s : List Char) : Option (List UInt8) :=
  decode? (s ++ List.replicate ((4 - s.length % 4) % 4) '=')

end PageSkins.Text.Base64
