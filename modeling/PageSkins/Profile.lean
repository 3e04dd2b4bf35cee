import PageSkins.Record.Check
import PageSkins.Text.Blank
import PageSkins.WebAddress

/-!
# Profiles

A profile tells how one backend is reached.
-/

namespace PageSkins

open PageSkins.Check

/-- A backend under a name. The address is in its normal form. -/
structure Profile where
  name : String
  apiUrl : String
  accessToken : Option String := none
  timeout : Int := 30
  retries : Int := 3
  active : Bool := false
deriving Repr, DecidableEq

namespace Profile

def address : Check.Reader String
  | .text s =>
    match WebAddress.read s.toList with
    | .ok url => .ok url
    | .error .malformed => .fail .addressMalformed
    | .error .scheme => .fail .addressScheme
    | .error .tooLong => .fail .addressTooLong
  | _ => .fail .notAddress

/-- An access token. It is one word; blanks around it are dropped. -/
def token : Check.Reader String := fun v => (text v).also fun s =>
  let t := Text.trim s.toList
  if t.isEmpty then .fail (.refused "Access token cannot be empty")
  else if t.any Text.isBlank then .fail (.refused "Access token cannot contain whitespace")
  else .ok (String.ofList t)

def seconds : Check.Reader Int := fun v => (integer v).also fun n =>
  if n ≤ 0 then .fail (.refused "Timeout must be greater than 0")
  else if n > 300 then .fail (.refused "Timeout cannot exceed 300 seconds")
  else .ok n

def retryCount : Check.Reader Int := fun v => (integer v).also fun n =>
  if n < 0 then .fail (.refused "Retry attempts cannot be negative")
  else if n > 10 then .fail (.refused "Retry attempts cannot exceed 10")
  else .ok n

def check (fs : Fields) : Checked Profile :=
  Profile.mk <$> required fs "name" text <*> required fs "api_url" address
    <*> orElse fs "access_token" none (optional token)
    <*> orElse fs "timeout" 30 seconds <*> orElse fs "retry_attempts" 3 retryCount
    <*> orElse fs "active" false flag

/-- The address without slashes at its end. -/
def baseUrl (p : Profile) : String := WebAddress.withoutSlashes p.apiUrl

def toFields (p : Profile) : Fields := [
  ("name", .text p.name), ("api_url", .text p.baseUrl),
  ("access_token", p.accessToken.elim .null .text), ("timeout", .int p.timeout),
  ("retry_attempts", .int p.retries), ("active", .bool p.active)]

/-- What is shown of a profile: whether it is the `selected` one, and that it has a token but not the token. -/
def shown (selected : Option String) (p : Profile) : Fields := [
  ("name", .text p.name), ("api_url", .text p.baseUrl), ("timeout", .int p.timeout),
  ("retry_attempts", .int p.retries), ("active", .bool (selected = some p.name)),
  ("has_token", .bool p.accessToken.isSome)]

end Profile
end PageSkins
