import PageSkins.Text.Case
import PageSkins.Text.Utf8
import PageSkins.Decimal.Notation

/-!
# Web addresses in normal form

Scheme and host are in small letters, numeric hosts in their usual notation, there is no
default port, a path has no dots, and everything outside the allowed characters is
percent-encoded. A label of a host beyond ASCII is put into small letters, character by
character, and encoded; full-width characters and the full stops of other scripts count as those
of ASCII. Labels are not mapped or normalised any further, and one that comes encoded is not
decoded and checked.
-/

namespace PageSkins.WebAddress

open PageSkins.Text

/-- Why a text is not taken as a web address. -/
inductive Fault where
  | malformed
  | scheme
  | tooLong
deriving Repr, DecidableEq

/-- How a scheme is read further. -/
inductive SchemeKind where
  | web
  | file
  | other
deriving Repr, DecidableEq

def schemeKind (s : String) : SchemeKind :=
  if ["http", "https", "ws", "wss", "ftp"].contains s then .web else if s = "file" then .file else .other

def defaultPort? (scheme : String) : Option Nat :=
  [("http", 80), ("https", 443), ("ws", 80), ("wss", 443), ("ftp", 21)].lookup scheme

def percent (c : Char) : List Char :=
  (encodeChar c).flatMap fun b =>
    let hex (n : Nat) : Char := (Nat.digitChar n).toUpper
    ['%', hex (b.toNat / 16), hex (b.toNat % 16)]

/-- Characters that are encoded everywhere: control characters and all beyond ASCII. -/
def isControl (c : Char) : Bool := c.toNat < 0x20 || c.toNat ≥ 0x7F

def encodedInFragment (c : Char) : Bool := isControl c || c ∈ [' ', '"', '<', '>', '\x60']

def encodedInPath (c : Char) : Bool := encodedInFragment c || c ∈ ['#', '?', '\x7b', '\x7d']

def encodedInUser (c : Char) : Bool :=
  encodedInPath c || c ∈ ['/', ':', ';', '=', '@', '[', '\\', ']', '^', '|']

def encodedInQuery (c : Char) : Bool := isControl c || c ∈ [' ', '"', '#', '<', '>', '\'']

def encode (which : Char → Bool) (s : List Char) : List Char :=
  s.flatMap fun c => if which c then percent c else [c]

def hexValue? (c : Char) : Option Nat :=
  if c.isDigit then some (c.toNat - 48)
  else if 'a' ≤ c ∧ c ≤ 'f' then some (c.toNat - 87)
  else if 'A' ≤ c ∧ c ≤ 'F' then some (c.toNat - 55)
  else none

/-- The bytes of a text with its percent signs read. -/
def percentDecode : List Char → List UInt8
  | '%' :: a :: b :: s =>
    match hexValue? a, hexValue? b with
    | some x, some y => (x * 16 + y).toUInt8 :: percentDecode s
    | _, _ => 0x25 :: percentDecode (a :: b :: s)
  | c :: s => encodeChar c ++ percentDecode s
  | [] => []

namespace Host

/-- The number that a part of a numeric host stands for: in base sixteen after `0x`, in base eight after a
zero. -/
def number? (s : List Char) : Option Nat :=
  let inBase (base : Nat) (ds : List Char) : Option Nat := do
    let vs ← ds.mapM hexValue?
    if vs.all (· < base) then some (vs.foldl (fun n d => n * base + d) 0) else none
  match s with
  | [] => none
  | '0' :: 'x' :: ds | '0' :: 'X' :: ds => inBase 16 ds
  | '0' :: d :: ds => inBase 8 (d :: ds)
  | ds => inBase 10 ds

def splitAt (sep : Char) : List Char → List (List Char)
  | [] => [[]]
  | c :: s =>
    if c = sep then [] :: splitAt sep s
    else match splitAt sep s with
      | part :: rest => (c :: part) :: rest
      | [] => [[c]]

def parts (s : List Char) : List (List Char) :=
  let ps := splitAt '.' s
  if ps.length > 1 ∧ ps.getLast? = some [] then ps.dropLast else ps

/-- Whether a host is taken as a number: its last part is one. -/
def isNumeric (s : List Char) : Bool :=
  match (parts s).getLast? with
  | some last => (!last.isEmpty && last.all Char.isDigit) || (number? last).isSome
  | none => false

/-- The usual notation of a numeric host of four bytes. -/
def ofNumbers? (s : List Char) : Option (List Char) := do
  let ps := parts s
  if ps.length > 4 then none
  else
    let ns ← ps.mapM number?
    let last ← ns.getLast?
    let first := ns.dropLast
    if first.any (· > 255) ∨ last ≥ Nat.pow 256 (4 - first.length) then none
    else
      let value := first.foldl (fun (acc, place) n => (acc + n * Nat.pow 256 place, place - 1)) (last, 3) |>.1
      let byte (k : Nat) : List Char := Decimal.natDigits (value / Nat.pow 256 k % 256)
      some (byte 3 ++ '.' :: byte 2 ++ '.' :: byte 1 ++ '.' :: byte 0)

def group? (s : List Char) : Option Nat :=
  if s.isEmpty ∨ s.length > 4 then none
  else (s.mapM hexValue?).map fun vs => vs.foldl (fun n d => n * 16 + d) 0

def byte? (s : List Char) : Option Nat :=
  if s.isEmpty ∨ s.length > 3 ∨ !s.all Char.isDigit ∨ (s.length > 1 ∧ s.head? = some '0') then none
  else
    let n := s.foldl (fun n c => n * 10 + (c.toNat - 48)) 0
    if n ≤ 255 then some n else none

/-- The groups of one side of a long numeric host. The last may be four bytes in short notation. -/
def groups? (s : List Char) : Option (List Nat) :=
  if s.isEmpty then some []
  else
    let ps := splitAt ':' s
    match ps.getLast? with
    | some last =>
      if last.contains '.' then do
        let init ← ps.dropLast.mapM group?
        match ← (splitAt '.' last).mapM byte? with
        | [a, b, c, d] => return init ++ [a * 256 + b, c * 256 + d]
        | _ => none
      else ps.mapM group?
    | none => some []

def splitGap : List Char → Option (List Char × List Char)
  | ':' :: ':' :: s => some ([], s)
  | c :: s => (splitGap s).map fun (a, b) => (c :: a, b)
  | [] => none

/-- The eight groups of a long numeric host. One run of zeros may be left out. -/
def eight? (s : List Char) : Option (List Nat) := do
  match splitGap s with
  | none =>
    let gs ← groups? s
    if gs.length = 8 then some gs else none
  | some (a, b) =>
    if a.contains '.' then none
    else
      let before ← groups? a
      let after ← groups? b
      let n := before.length + after.length
      if n < 8 then some (before ++ List.replicate (8 - n) 0 ++ after) else none

def hexText (n : Nat) : List Char := Nat.toDigits 16 n

/-- The length of the run of zeros at the start. -/
def zeroRun (gs : List Nat) : Nat := (gs.takeWhile (· == 0)).length

/-- Where the longest run of zeros starts, the first of equals, and how long it is. -/
def longestGap (gs : List Nat) : Nat × Nat :=
  (List.range gs.length).foldl (fun (at', len) i =>
    let n := zeroRun (gs.drop i)
    if n > len then (i, n) else (at', len)) (0, 0)

def joinGroups (gs : List Nat) : List Char := [':'].intercalate (gs.map hexText)

/-- The usual notation of a long numeric host. -/
def ofGroups (gs : List Nat) : List Char :=
  let (at', len) := longestGap gs
  let inside := if len ≥ 2 then joinGroups (gs.take at') ++ ':' :: ':' :: joinGroups (gs.drop (at' + len))
    else joinGroups gs
  '[' :: inside ++ [']']

def isForbidden (c : Char) : Bool :=
  c.toNat ≤ 0x20 || c.toNat = 0x7F || c ∈ ['#', '%', '/', ':', '<', '>', '?', '@', '[', '\\', ']', '^', '|']

/-- A character of a host as it counts: full stops of other scripts and wide letters as their ASCII forms, and
some that do not count at all. -/
def foldChar (c : Char) : List Char :=
  let n := c.toNat
  if n = 0x3002 ∨ n = 0xFF0E ∨ n = 0xFF61 then ['.']
  else if 0xFF01 ≤ n ∧ n ≤ 0xFF5E then [(Char.ofNat (n - 0xFEE0)).toLower]
  else if n = 0xAD ∨ n = 0x200B ∨ n = 0x2060 ∨ n = 0xFEFF then []
  else if n < 0x80 then [c.toLower]
  else Text.lower [c]

/-- The adaption of the bias in the encoding of letters beyond ASCII. The fuel bounds the size of the delta. -/
def adapt (delta points : Nat) (first : Bool) : Nat :=
  let delta := if first then delta / 700 else delta / 2
  go 64 (delta + delta / points) 0
where
  go : Nat → Nat → Nat → Nat
    | 0, _, k => k
    | fuel + 1, delta, k => if delta > 455 then go fuel (delta / 35) (k + 36) else k + 36 * delta / (delta + 38)

def digit36 (n : Nat) : Char := if n < 26 then Char.ofNat (97 + n) else Char.ofNat (22 + n)

/-- A number with digits of varying weight. -/
def varint (bias : Nat) : Nat → Nat → Nat → List Char
  | 0, _, _ => []
  | fuel + 1, k, q =>
    let t := if k ≤ bias then 1 else if k ≥ bias + 26 then 26 else k - bias
    if q < t then [digit36 q] else digit36 (t + (q - t) % (36 - t)) :: varint bias fuel (k + 36) ((q - t) / (36 - t))

structure Encoder where
  next : Nat := 128
  delta : Nat := 0
  bias : Nat := 72
  done : Nat
  out : List Char := []

/-- Encodes every occurrence of the least character not yet done. -/
def encodeStep (basic : Nat) (label : List Nat) (e : Encoder) : Encoder :=
  match (label.filter (· ≥ e.next)).min? with
  | none => e
  | some m =>
    let e := { e with delta := e.delta + (m - e.next) * (e.done + 1), next := m }
    let e := label.foldl (fun e c =>
      if c < m then { e with delta := e.delta + 1 }
      else if c = m then
        { e with
          out := e.out ++ varint e.bias 64 36 e.delta
          bias := adapt e.delta (e.done + 1) (e.done == basic)
          delta := 0
          done := e.done + 1 }
      else e) e
    { e with delta := e.delta + 1, next := m + 1 }

def encodeLabel (label : List Char) : List Char :=
  if label.all (·.toNat < 128) then label
  else
    let basic := label.filter (·.toNat < 128)
    let points := label.map Char.toNat
    let start : Encoder := { done := basic.length }
    let e := (List.range label.length).foldl (fun e _ => encodeStep basic.length points e) start
    "xn--".toList ++ basic ++ (if basic.isEmpty then [] else ['-']) ++ e.out

def read? (s : List Char) : Option (List Char) :=
  match s with
  | '[' :: r =>
    match r.getLast? with
    | some ']' => (eight? r.dropLast).map ofGroups
    | _ => none
  | _ => do
    let shown ← decodeUtf8? (percentDecode s)
    let domain := ['.'].intercalate ((splitAt '.' (shown.flatMap foldChar)).map encodeLabel)
    if domain.isEmpty ∨ domain.any isForbidden then none
    else if isNumeric domain then ofNumbers? domain
    else some domain

def isOpaque (s : List Char) : Bool :=
  match s with
  | '[' :: r =>
    match r.getLast? with
    | some ']' => (eight? r.dropLast).isSome
    | _ => false
  | _ => !s.any fun c =>
    c = '\x00' || c ∈ ['\t', '\n', '\r', ' ', '#', '/', ':', '<', '>', '?', '@', '[', '\\', ']', '^', '|']

end Host

/-- The scheme of an address in small letters, and what follows its colon. -/
def splitScheme (s : List Char) : Option (String × List Char) :=
  let name := s.takeWhile (· != ':')
  match s.dropWhile (· != ':') with
  | _ :: rest =>
    if name.head?.any Char.isAlpha && name.all fun c => c.isAlphanum || c ∈ ['+', '-', '.'] then
      some (String.ofList (name.map Char.toLower), rest)
    else none
  | [] => none

/-- Characters that end the host and what stands with it. -/
def endsAuthority (web : Bool) (c : Char) : Bool := c ∈ ['/', '?', '#'] || (web && c = '\\')

/-- What stands before the last `@`, and after it. -/
def splitUser (s : List Char) : Option (List Char × List Char) :=
  if s.contains '@' then
    let host := (s.reverse.takeWhile (· != '@')).reverse
    some (s.take (s.length - host.length - 1), host)
  else none

def userText (s : List Char) : List Char :=
  let name := encode encodedInUser (s.takeWhile (· != ':'))
  let password := encode encodedInUser ((s.dropWhile (· != ':')).drop 1)
  let text := if password.isEmpty then name else name ++ ':' :: password
  if text.isEmpty then [] else text ++ ['@']

/-- The host, and the port after it. A colon inside brackets is part of the host. -/
def splitPort : (inside : Bool) → List Char → List Char × Option (List Char)
  | _, [] => ([], none)
  | inside, c :: s =>
    if c = ':' ∧ !inside then ([], some s)
    else
      let (host, port) := splitPort (if c = '[' then true else if c = ']' then false else inside) s
      (c :: host, port)

/-- A port that is no default, as text. -/
def portText? (scheme : String) (s : List Char) : Option (List Char) :=
  if !s.all Char.isDigit then none
  else
    let n := s.foldl (fun n c => n * 10 + (c.toNat - 48)) 0
    if n > 65535 then none
    else if s.isEmpty ∨ defaultPort? scheme = some n then some []
    else some (':' :: Decimal.natDigits n)

def authority? (scheme : String) (s : List Char) : Option (List Char) := do
  let (user, rest) := (splitUser s).getD ([], s)
  let (host, port) := splitPort false rest
  let host ← Host.read? host
  let port ← portText? scheme (port.getD [])
  return userText user ++ host ++ port

/-- A segment that stands for the one it is in. -/
def isDot (s : List Char) : Bool := ["." , "%2e"].contains (String.ofList (s.map Char.toLower))

/-- A segment that stands for the one above. -/
def isDots (s : List Char) : Bool := ["..", "%2e.", ".%2e", "%2e%2e"].contains (String.ofList (s.map Char.toLower))

/-- The segments of a path without dots. `above` holds those before, last first. -/
def resolve : (above : List (List Char)) → List (List Char) → List (List Char)
  | above, [] => above.reverse
  | above, [last] =>
    if isDots last then ([] :: above.drop 1).reverse
    else if isDot last then ([] :: above).reverse
    else (last :: above).reverse
  | above, s :: rest =>
    if isDots s then resolve (above.drop 1) rest else if isDot s then resolve above rest else resolve (s :: above) rest

/-- A path in normal form. It starts with a slash. -/
def pathText (s : List Char) : List Char :=
  let s := s.map fun c => if c = '\\' then '/' else c
  let segments := Host.splitAt '/' (match s with
    | '/' :: r => r
    | r => r)
  (resolve [] (segments.map (encode encodedInPath))).flatMap fun seg => '/' :: seg

def restText (s : List Char) : List Char :=
  let path := s.takeWhile fun c => c != '?' && c != '#'
  let rest := s.dropWhile fun c => c != '?' && c != '#'
  let query := match rest with
    | '?' :: q => '?' :: encode encodedInQuery (q.takeWhile (· != '#'))
    | _ => []
  let fragment := match rest.dropWhile (· != '#') with
    | _ :: f => '#' :: encode encodedInFragment f
    | [] => []
  pathText path ++ query ++ fragment

def webText? (scheme : String) (s : List Char) : Option (List Char) := do
  let s := s.dropWhile fun c => c = '/' || c = '\\'
  let front := s.takeWhile fun c => !endsAuthority true c
  let authority ← authority? scheme front
  return scheme.toList ++ "://".toList ++ authority ++ restText (s.drop front.length)

def isWellFormed (kind : SchemeKind) (scheme : String) (s : List Char) : Bool :=
  match kind with
  | .web => (webText? scheme s).isSome
  | .file => true
  | .other =>
    match s with
    | '/' :: '/' :: r =>
      let front := r.takeWhile fun c => !endsAuthority false c
      let (host, port) := splitPort false ((splitUser front).elim front (·.2))
      Host.isOpaque host && (portText? scheme (port.getD [])).isSome &&
        !(host.isEmpty && (port.isSome || front.contains '@'))
    | _ => true

/-- White space and control characters at the ends do not count, nor do tabs and line breaks anywhere. -/
def clean (s : List Char) : List Char :=
  let isEdge (c : Char) : Bool := c.toNat ≤ 0x20
  (((s.dropWhile isEdge).reverse.dropWhile isEdge).reverse).filter fun c => c ∉ ['\t', '\n', '\r']

/-- The most bytes that an address may take before it is read. -/
def maxLength : Nat := 2083

/-- The normal form of a web address. -/
def read (s : List Char) : Except Fault String :=
  if (encodeUtf8 s).length > maxLength then .error .tooLong
  else
    match splitScheme (clean s) with
    | none => .error .malformed
    | some (scheme, rest) =>
      if scheme = "http" ∨ scheme = "https" then
        match webText? scheme rest with
        | some t => .ok (String.ofList t)
        | none => .error .malformed
      else if isWellFormed (schemeKind scheme) scheme rest then .error .scheme
      else .error .malformed

/-- An address without slashes at its end. -/
def withoutSlashes (s : String) : String := String.ofList (s.toList.reverse.dropWhile (· == '/')).reverse

end PageSkins.WebAddress
