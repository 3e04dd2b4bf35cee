import PageSkins.Decimal.Number
import PageSkins.Disk
import PageSkins.Record.Report

/-!
# Failures

What can go wrong, and how it is told to a user.
-/

namespace PageSkins

/-- What an answer of a backend with an error status means. -/
inductive ApiKind where
  | general
  | badRequest
  | unauthorized
  | forbidden
  | notFound
  | server
  | rateLimit
deriving Repr, DecidableEq

namespace ApiKind

/-- The meaning of a status. From 500 on the backend itself has failed. -/
def ofStatus (status : Int) : ApiKind :=
  if status = 400 then .badRequest
  else if status = 401 then .unauthorized
  else if status = 403 then .forbidden
  else if status = 404 then .notFound
  else if status = 429 then .rateLimit
  else if 500 ≤ status then .server
  else .general

def isRetryable : ApiKind → Bool
  | .server | .rateLimit => true
  | _ => false

def defaultMessage : ApiKind → String
  | .general => "Request failed"
  | .badRequest => "Bad request"
  | .unauthorized => "Unauthorized - check your access token"
  | .forbidden => "Forbidden - insufficient permissions"
  | .notFound => "Resource not found"
  | .server => "Server error"
  | .rateLimit => "Rate limit exceeded"

end ApiKind

/-- An answer with an error status. -/
structure ApiFailure where
  kind : ApiKind := .general
  /-- What the backend says; it need not be text. -/
  message : Value
  status : Option Int := none
  response : Fields := []
  endpoint : String := ""
  /-- After how many seconds the backend wants to be asked again. -/
  retryAfter : Option Int := none

/-- The failure of a kind, with the usual message where there is none. -/
def ApiFailure.make (kind : ApiKind) (message : Value) (status : Option Int) (response : Fields)
    (endpoint : String) (retryAfter : Option Int) : ApiFailure :=
  ⟨kind, if message.isTruthy then message else .text kind.defaultMessage, status, response, endpoint, retryAfter⟩

/-- What can go wrong on the way to a backend and back. -/
inductive NetworkKind where
  | general
  | http
  | connection
  | proxy
  | secure
  | timeout
  | connectTimeout
  | readTimeout
  | addressMissing
  | redirects
  | schemeMissing
  | schemeUnknown
  | address
  | header
  | proxyAddress
  | chunked
  | encoding
  | stream
  | retries
  | rewind
  | json
deriving Repr, DecidableEq

namespace NetworkKind

def isConnection : NetworkKind → Bool
  | .connection | .proxy | .secure | .connectTimeout => true
  | _ => false

def isTimeout : NetworkKind → Bool
  | .timeout | .connectTimeout | .readTimeout => true
  | _ => false

end NetworkKind

/-- What the library's own refusals are about. -/
inductive Topic where
  | general
  | config
  | authentication
  | tokenExpired
  | validation
  | breakerOpen
deriving Repr, DecidableEq

/-- Failures that no refusal of the library stands for. -/
inductive Mishap where
  /-- A value of one kind stands where one of another kind is needed. -/
  | wrongKind
  /-- A value is asked for a part that values of its kind do not have. -/
  | noSuchPart
  | badValue
  | overflow
  | zeroDivision
  | notText
  | disk (r : Disk.Refusal)
  /-- A failure that something else reports, by its name, and whether it is one of a bad value. -/
  | named (name : String) (isBadValue : Bool)
deriving Repr, DecidableEq

inductive Failure where
  | refused (topic : Topic) (message : String) (details : Fields) (issues : List Issue)
  | api (answer : ApiFailure)
  | network (kind : NetworkKind) (message : String)
  /-- No attempt came to an end; `last` is the failure of the last one. -/
  | exhausted (message : String) (attempts : Value) (last : Option Failure)
  | file (message : String) (path : String) (operation : String) (details : Fields)
  | invalid (issues : List Issue)
  | mishap (kind : Mishap) (message : String)

namespace Failure

def refusal (topic : Topic) (message : String) : Failure := .refused topic message [] []

/-- A refusal because of issues, which are told after a colon. -/
def ofIssues (topic : Topic) (message : String) (issues : List Issue) : Failure :=
  .refused topic (message ++ ": " ++ issueWords issues) [] issues

/-- An error of the disk. A path that no path may be is a bad value. -/
def ofDisk (e : Disk.Error) : Failure :=
  match e.refusal with
  | .badPath => .mishap .badValue e.refusal.text
  | r => .mishap (.disk r) e.message

def text : Failure → String
  | .refused _ m _ _ | .exhausted m _ _ | .file m _ _ _ | .network _ m | .mishap _ m => m
  | .api a =>
    let m := String.ofList a.message.plain
    if a.endpoint.isEmpty then m else m ++ " (" ++ a.endpoint ++ ")"
  | .invalid issues => issueWords issues

/-- A line with a label, if there is something to say. -/
def line (label : String) (text : String) : String := if text.isEmpty then "" else "\n" ++ label ++ ": " ++ text

def literal (v : Value) : String := String.ofList v.literal

def detailLine (label : String) (details : Fields) : String :=
  if details.isEmpty then "" else line label (literal (.map details))

/-- A number for a line. Zero is not worth one. -/
def numberText : Option Int → String
  | some n => if n = 0 then "" else String.ofList (Decimal.intText n)
  | none => ""

/-- A failure as it is told to a user, with all details if `debug` is set. -/
def report (debug : Bool) : Failure → String
  | .file m path operation _ => "File error: " ++ m ++ line "File" path ++ line "Operation" operation
  | .api a =>
    let m := String.ofList a.message.plain
    if a.kind = .rateLimit then
      let n := numberText a.retryAfter
      "Rate limit exceeded: " ++ m ++ (if n.isEmpty then "" else line "Retry after" (n ++ "s"))
    else
      "API error: " ++ m ++ (if debug then line "Status code" (numberText a.status) ++ detailLine "Response" a.response
        else "")
  | .refused _ m details _ => "Error: " ++ m ++ (if debug then detailLine "Details" details else "")
  | .exhausted m attempts _ => "Error: " ++ m ++ (if debug then detailLine "Details" [("attempts", attempts)] else "")
  | f => "Unexpected error: " ++ f.text

/-- Whether a failure is one that the library reports itself. -/
def isOwn : Failure → Bool
  | .refused .. | .api _ | .exhausted .. | .file .. => true
  | _ => false

def isNetwork : Failure → Bool
  | .network .. => true
  | _ => false

def isBadValue : Failure → Bool
  | .invalid _ | .mishap .badValue _ | .mishap .notText _ | .mishap (.named _ true) _ => true
  | _ => false

def isRetryable : Failure → Bool
  | .network k _ => k.isConnection || k.isTimeout
  | .api a => a.kind.isRetryable
  | _ => false

/-- The failure of a run in which all attempts failed, the last one with `last`. -/
def ofRetries (retries : Int) (last : Option Failure) : Failure :=
  .exhausted ("Maximum retries (" ++ String.ofList (Decimal.intText retries) ++ ") exceeded") (.int (retries + 1)) last

def breakerOpen (failures : Nat) : Failure :=
  .refused .breakerOpen "Circuit breaker is open" [("failure_count", .int failures)] []

def ofOverrun : Decimal.Overrun → Failure
  | .tooLarge => .mishap .overflow "A number is too large"
  | .zeroDivision => .mishap .zeroDivision "A negative power of zero"

/-- After how many seconds a new attempt is wanted. -/
def retryAfter : Failure → Option Int
  | .api a => if a.kind = .rateLimit then a.retryAfter else none
  | _ => none

end Failure
end PageSkins
