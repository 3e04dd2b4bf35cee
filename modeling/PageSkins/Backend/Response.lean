import PageSkins.Failure
import PageSkins.Decimal.Reader
import PageSkins.Json.Reader

/-!
# Answers of a backend

An answer with an error status is a failure of the kind of its status, and tells the
endpoint that was asked.
-/

namespace PageSkins.Backend

structure Request where
  verb : String := "GET"
  url : String
  headers : List (String × String)
  timeout : Decimal.Number

/-- The body of an answer. -/
inductive Body where
  | empty
  | json (v : Value)
  | other

def Body.ofText (s : List Char) : Body :=
  if s.isEmpty then .empty
  else match Json.read s with
    | .ok v => .json v
    | .error _ => .other

structure Response where
  status : Int
  body : Body := .empty
  headers : List (String × String) := []

namespace Response

/-- The value of a header. Of a name that stands twice the last value counts; case does not. -/
def header? (r : Response) (name : String) : Option String :=
  let lower (s : String) : String := String.ofList (s.toList.map Char.toLower)
  (r.headers.reverse.find? fun h => lower h.1 = lower name).map (·.2)

def fields (r : Response) : Fields :=
  match r.body with
  | .json (.map fs) => fs
  | _ => []

/-- What the backend says about an error. -/
def message (r : Response) : Value :=
  let e := r.fields.get "error"
  if e.isTruthy then e else r.fields.get "message"

/-- A number of seconds in digits. What is no digit at all is no number; digits that make no decimal number are
refused, and so are too many. -/
def seconds (s : List Char) : Except Failure (Option Int) :=
  if s.isEmpty || !s.all Text.isAnyDigit then .ok none
  else if s.all Text.isDecimal && s.length ≤ Value.maxDigits then .ok (Decimal.readInt? s)
  else .error (.mishap .badValue "The digits make no number")

def failure (r : Response) (endpoint : String) : Failure :=
  let kind := ApiKind.ofStatus r.status
  let statusText := String.ofList (Decimal.intText r.status)
  let fail (message : Value) (retryAfter : Option Int) : Failure :=
    .api (.make kind message (some r.status) r.fields endpoint retryAfter)
  match kind with
  | .rateLimit =>
    let after := (r.header? "Retry-After").getD ""
    let hint := if after.isEmpty then "" else ", retry after: " ++ after ++ " seconds"
    match seconds after.toList with
    | .ok n => fail (.text ("Rate limit exceeded" ++ hint)) n
    | .error f => f
  | .server => fail (.text ("Server error: " ++ statusText)) none
  | .general => fail (if r.message.isTruthy then r.message else .text ("HTTP " ++ statusText)) none
  | _ => fail r.message none

/-- The value that an answer gives. An empty body gives null. -/
def read (r : Response) (endpoint : String) : Except Failure Value :=
  if 400 ≤ r.status then .error (r.failure endpoint)
  else match r.body with
    | .empty => .ok .null
    | .json v => .ok v
    | .other =>
      .error (.api (.make .general (.text "Invalid JSON response: the body is no document") (some r.status) [] endpoint
        none))

end Response
end PageSkins.Backend
