/-!
# Text as bytes

Each character takes one to four bytes, in the shortest form; bytes that are no character
can be refused or replaced.
-/

namespace PageSkins.Text

def encodeChar (c : Char) : List UInt8 :=
  let n := c.toNat
  if n < 0x80 then [n.toUInt8]
  else if n < 0x800 then [(0xC0 + n / 64).toUInt8, (0x80 + n % 64).toUInt8]
  else if n < 0x10000 then [(0xE0 + n / 4096).toUInt8, (0x80 + n / 64 % 64).toUInt8, (0x80 + n % 64).toUInt8]
  else [(0xF0 + n / 262144).toUInt8, (0x80 + n / 4096 % 64).toUInt8, (0x80 + n / 64 % 64).toUInt8,
    (0x80 + n % 64).toUInt8]

def encodeUtf8 (s : List Char) : List UInt8 := s.flatMap encodeChar

/-- What a first byte announces: how many bytes follow, its own share of the number, and the range of the byte
after it. -/
def leadByte? (b : UInt8) : Option (Nat × Nat × Nat × Nat) :=
  let n := b.toNat
  if n < 0x80 then some (0, n, 0, 0)
  else if n < 0xC2 then none
  else if n < 0xE0 then some (1, n - 0xC0, 0x80, 0xBF)
  else if n = 0xE0 then some (2, 0, 0xA0, 0xBF)
  else if n = 0xED then some (2, 0xD, 0x80, 0x9F)
  else if n < 0xF0 then some (2, n - 0xE0, 0x80, 0xBF)
  else if n = 0xF0 then some (3, 0, 0x90, 0xBF)
  else if n < 0xF4 then some (3, n - 0xF0, 0x80, 0xBF)
  else if n = 0xF4 then some (3, 4, 0x80, 0x8F)
  else none

/-- Reads bytes that follow a first one. Of a sequence that breaks off, all that fits is taken. -/
def takeFollowing : Nat → Nat → Nat → Nat → List UInt8 → Option Nat × List UInt8
  | 0, value, _, _, bs => (some value, bs)
  | left + 1, value, low, high, b :: bs =>
    if low ≤ b.toNat ∧ b.toNat ≤ high then takeFollowing left (value * 64 + b.toNat % 64) 0x80 0xBF bs
    else (none, b :: bs)
  | _ + 1, _, _, _, [] => (none, [])

/-- Bytes as characters, `none` for bytes that are no character. The fuel bounds the number of bytes. -/
def decodeBytes : Nat → List UInt8 → List (Option Char)
  | 0, _ => []
  | _, [] => []
  | fuel + 1, b :: bs =>
    match leadByte? b with
    | none => none :: decodeBytes fuel bs
    | some (left, value, low, high) =>
      let (n, rest) := takeFollowing left value low high bs
      n.map Char.ofNat :: decodeBytes fuel rest

def decodeUtf8? (bs : List UInt8) : Option (List Char) := (decodeBytes bs.length bs).mapM id

/-- The text of bytes, with the replacement character for all that is none. -/
def decodeLossy (bs : List UInt8) : List Char := (decodeBytes bs.length bs).map fun c => c.getD '\ufffd'

end PageSkins.Text
