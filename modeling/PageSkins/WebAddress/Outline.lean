import PageSkins.WebAddress

/-!
# A first look at an address

Whether an address names a scheme and a host at all. This is more lenient than reading, but
some hosts are refused already here.
-/

namespace PageSkins.WebAddress

/-- What a first look tells. -/
inductive Outline where
  | complete
  | incomplete
  | badHost
deriving Repr, DecidableEq

/-- Characters whose compatibility form holds a mark that has a meaning in addresses. -/
def hidesMark (c : Char) : Bool :=
  c.toNat ∈ [0x2047, 0x2048, 0x2049, 0x2100, 0x2101, 0x2105, 0x2106, 0x2A74, 0xFE13, 0xFE16, 0xFE55, 0xFE56,
    0xFE5F, 0xFE6B, 0xFF03, 0xFF0F, 0xFF1A, 0xFF1F, 0xFF20]

/-- An address of a version to come: `v`, its number, a point and some text. -/
def isFutureHost : List Char → Bool
  | 'v' :: s =>
    let version := s.takeWhile fun c => (hexValue? c).isSome
    match s.drop version.length with
    | '.' :: rest => !version.isEmpty && !rest.isEmpty && !rest.contains '\n'
    | _ => false
  | _ => false

/-- A host that may stand in brackets. A zone may follow it after a percent sign. -/
def isBracketHost (s : List Char) : Bool :=
  if s.head? = some 'v' then isFutureHost s
  else
    let address := s.takeWhile (· != '%')
    let zoned := match s.drop address.length with
      | _ :: zone => !zone.isEmpty && !zone.contains '%'
      | [] => true
    zoned && (Host.eight? address).isSome

def takesHost (s : List Char) : Bool :=
  let opened := s.contains '['
  let closed := s.contains ']'
  opened == closed && !s.any hidesMark &&
    (!opened || isBracketHost (((s.dropWhile (· != '[')).drop 1).takeWhile (· != ']')))

def outline (s : List Char) : Outline :=
  let s := (s.dropWhile fun c => c.toNat ≤ 0x20).filter fun c => c ∉ ['\t', '\n', '\r']
  let (named, rest) := match splitScheme s with
    | some (_, rest) => (true, rest)
    | none => (false, s)
  match rest with
  | '/' :: '/' :: rest =>
    let host := rest.takeWhile fun c => c ∉ ['/', '?', '#']
    if !takesHost host then .badHost
    else if named && !host.isEmpty then .complete
    else .incomplete
  | _ => .incomplete

end PageSkins.WebAddress
