import PageSkins.Failure
import PageSkins.Json.Reader
import PageSkins.Text.Base64
import PageSkins.Text.Blank
import PageSkins.Decimal.Number

/-!
# Access tokens

A token of three parts can tell when it expires; it is only read for that and not verified.
Any other token is left to the backend.
-/

namespace PageSkins

open PageSkins.Text PageSkins.Decimal

/-- Who asks a backend, and how much its clock may differ. -/
structure Credentials where
  token : Option String := none
  leeway : Number := .int 30

namespace Credentials

/-- Credentials with a token without the blanks around it. -/
def make (token : Option String) (leeway : Number) : Except Failure Credentials :=
  match token with
  | none => .ok ⟨none, leeway⟩
  | some s =>
    let t := trim s.toList
    if t.isEmpty then .error (.refusal .authentication "Access token cannot be empty")
    else .ok ⟨some (String.ofList t), leeway⟩

def isAnonymous (c : Credentials) : Bool := c.token.isNone

/-- Text without what follows its last `sep`, and what follows. -/
def cutLast (sep : Char) (s : List Char) : Option (List Char × List Char) :=
  let tail := (s.reverse.takeWhile (· != sep)).reverse
  if s.contains sep then some (s.take (s.length - tail.length - 1), tail) else none

/-- Text before its first `sep`, and what follows. -/
def cutFirst (sep : Char) (s : List Char) : Option (List Char × List Char) :=
  if s.contains sep then some (s.takeWhile (· != sep), (s.dropWhile (· != sep)).drop 1) else none

def claims? (part : List UInt8) : Option Fields := do
  let text ← decodeUtf8? (match part with
    | 0xEF :: 0xBB :: 0xBF :: rest => rest
    | bytes => bytes)
  match Json.read text with
  | .ok (.map fs) => some fs
  | _ => none

/-- Whether every extension that the head of a token calls critical is known and there. -/
def criticalKnown (head : Fields) : Bool :=
  match head.find? "crit" with
  | none => true
  | some (.list vs) => !vs.isEmpty && vs.all fun v => v.text? = some "b64" && head.has "b64"
  | some _ => false

/-- Whether the head of a token is one: its key is named by text, and its body is written as usual. -/
def headFits (head : Fields) : Bool :=
  ((head.find? "kid").all fun v => v.text?.isSome) && criticalKnown head &&
    !(head.find? "b64").any fun v => v matches .bool false

def body? (token : List Char) : Option Fields := do
  let (signed, signature) ← cutLast '.' token
  let (head, body) ← cutFirst '.' signed
  let head ← claims? (← Base64.decodeUnfilled? head)
  let body ← Base64.decodeUnfilled? body
  let _ ← Base64.decodeUnfilled? signature
  if headFits head then claims? body else none

/-- When the token expires, in seconds since the start of 1970. -/
def expiresAt (c : Credentials) : Except Overrun (Option Float) :=
  match (c.token.bind fun t => body? t.toList).map fun fs => Fields.get fs "exp" with
  | some (.int n) => some <$> Number.double? n
  | some (.float x) => .ok (some x)
  | some (.bool b) => .ok (some (if b then 1.0 else 0.0))
  | _ => .ok none

def isExpired (c : Credentials) (now : Number) : Except Overrun Bool := do
  match ← c.expiresAt with
  | none => return false
  | some t => return (← Number.add (.float t) c.leeway).compare? now == some .lt

/-- The headers that authorize a request. An expired token is not sent. -/
def headers (c : Credentials) (now : Number) : Except Failure (List (String × String)) :=
  match c.token with
  | none => .ok []
  | some t =>
    match c.isExpired now, c.expiresAt with
    | .error o, _ | _, .error o => .error (.ofOverrun o)
    | .ok true, .ok at' =>
      .error (.refused .tokenExpired "Access token has expired" [("expired_at", at'.elim .null .float)] [])
    | .ok false, .ok _ => .ok [("Authorization", "Bearer " ++ t)]

end Credentials
end PageSkins
