import PageSkins.Markup.Reference

/-!
# Safe addresses

An address of a link or image is safe if it names no scheme, or one that fetches a page or
writes a letter. It is judged by what a browser makes of it, with references read and all
that a browser passes over left out, but it is kept as it was written.
-/

namespace PageSkins.Markup.Address

def decode (s : List Char) : Except Reference.TooLong (List Char) := do
  let (first, parts) := Reference.splitAmpersands s
  let parts ← parts.mapM fun part =>
    match part with
    | '&' :: r =>
      match Reference.body? r with
      | none => .ok part
      | some body =>
        match Reference.meaning body with
        | .tooLong => .error .mk
        | .none => .ok part
        | .chars cs => .ok (cs ++ r.drop (body.length + 1))
    | r => .ok r
  return first ++ parts.flatten

/-- Characters that are not passed over: visible ASCII without the grave accent. -/
def counts (c : Char) : Bool := '!' ≤ c && c ≤ '~' && c != '\x60'

def isSchemeChar (c : Char) : Bool := c.isAlphanum || c = '+' || c = '-' || c = '.'

/-- The scheme of an address and what follows its colon. A name followed by digits only is a host with a port. -/
def splitScheme (s : List Char) : Option (List Char) × List Char :=
  let name := s.takeWhile (· != ':')
  match s.dropWhile (· != ':') with
  | [] => (none, s)
  | _ :: rest =>
    if name = "http".toList then (some name, rest)
    else if !name.isEmpty && name.all isSchemeChar && (rest.isEmpty || !rest.all Char.isDigit) then
      (some name, rest)
    else (none, s)

/-- Whether a host in brackets is closed, and opened. -/
def hasWholeHost : List Char → Bool
  | '/' :: '/' :: s =>
    let host := s.takeWhile fun c => c != '/' && c != '?' && c != '#'
    host.contains '[' == host.contains ']'
  | _ => true

def safeSchemes : List (List Char) := ["http", "https", "mailto"].map String.toList

def isSafe (s : List Char) : Except Reference.TooLong Bool := do
  let shown := ((← decode s).filter counts).map Char.toLower
  let (scheme, rest) := splitScheme shown
  return hasWholeHost rest && scheme.all safeSchemes.contains

end PageSkins.Markup.Address
