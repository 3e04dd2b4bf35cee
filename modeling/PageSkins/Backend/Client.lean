import PageSkins.Backend.Response
import PageSkins.Breaker
import PageSkins.Environment
import PageSkins.Profile
import PageSkins.Resolver
import PageSkins.Token

/-!
# The client of a backend

Every request is tried again as long as that may help, and stands behind a breaker. The
records of a blog are fetched one by one; of these only the blog itself has to be there.
-/

namespace PageSkins.Backend

open PageSkins.Decimal

structure Client where
  url : String
  credentials : Credentials
  timeout : Number := .int 30
  retry : Retry Number
  metrics : Retry.Metrics Number := .empty
  breaker : Breaker Number := { threshold := 5, recovery := .float 60.0 }

/-- What a client is made from where there is no profile. -/
structure Target where
  apiUrl : Option String := none
  accessToken : Option String := none
  timeout : Number := .int 30
  retries : Int := 3

namespace Client

def retryOf (retries : Int) : Retry Number :=
  { retries, baseDelay := .float 0.5, maxDelay := .float 30.0, factor := .float 2.0, jitter := true }

def forUrl (url : String) (token : Option String) (timeout : Number) (retries : Int) : Except Failure Client := do
  let credentials ← Credentials.make token (.int 30)
  return { url := WebAddress.withoutSlashes url, credentials, timeout, retry := retryOf retries }

/-- A client for a profile. The environment goes before the profile. -/
def ofProfile (e : Environment) (p : Profile) : Except Failure Client :=
  forUrl (e.apiUrl?.getD p.apiUrl) (e.accessToken? <|> p.accessToken) (.int p.timeout) p.retries

/-- A client for a target. The environment goes before it. -/
def ofTarget (e : Environment) (t : Target) : Except Failure Client :=
  match e.apiUrl? <|> t.apiUrl.filter fun s => !s.isEmpty with
  | some url => forUrl url (e.accessToken? <|> t.accessToken) t.timeout t.retries
  | none => .error (.mishap .badValue ("Either profile, api_url or " ++ Environment.urlName ++ " must be provided"))

/-- Failures that count against the backend. -/
def counts : Failure → Bool
  | .network .. | .exhausted .. => true
  | .api a => a.kind = .server
  | _ => false

def stats (c : Client) : Value :=
  .map [("retry_stats", c.metrics.toValue), ("circuit_breaker_stats", c.breaker.toValue)]

end Client

/-- A server, which answers requests and may change with each. -/
abbrev Server (σ : Type) := Request → σ → Except Failure Response × σ

/-- A client at work with a server in some state. -/
structure Exchange (σ : Type) where
  client : Client
  server : σ
  /-- A clock that never goes back, for the breaker. -/
  clock : Number := .int 0
  /-- The time of day, for tokens. -/
  now : Number
  requests : List Request := []
  delays : List Number := []
  /-- Random numbers between zero and one, one for each delay. -/
  draws : Nat → Float := fun _ => 0.0
  log : List String := []

/-- Work of a client. What happened before a failure stays. -/
abbrev Talk (σ : Type) := ExceptT Failure (StateM (Exchange σ))

namespace Exchange

variable {σ : Type}

def send (serve : Server σ) (request : Request) (endpoint : String) (x : Exchange σ) :
    Except Failure Value × Exchange σ :=
  let (answer, server) := serve request x.server
  (answer.bind fun r => r.read endpoint, { x with server, requests := x.requests ++ [request] })

/-- The random number for a delay to come, counted from zero. -/
def draw (x : Exchange σ) (n : Nat) : Float := x.draws (x.delays.length + n)

def ending (retries : Int) : Retry.Outcome Failure Value → Except Failure Value
  | .done v => .ok v
  | .failed f => .error f
  | .exhausted last => .error (.ofRetries retries last)
  | .overrun o => .error (.ofOverrun o)

/-- Sends a request until it is answered or there is no more point in it. -/
def sendRepeatedly (serve : Server σ) (request : Request) (endpoint : String) (x : Exchange σ) :
    Except Failure Value × Exchange σ :=
  let retry := x.client.retry
  let (run, x) := retry.executeWith (fun attempt => .float (x.draw attempt))
    ⟨Failure.isRetryable, Failure.retryAfter⟩ (send serve request endpoint) x
  (ending retry.retries run.outcome,
    { x with client.metrics := x.client.metrics.count run, delays := x.delays ++ run.delays })

def sendGuarded (serve : Server σ) (request : Request) (endpoint : String) (x : Exchange σ) :
    Except Failure Value × Exchange σ :=
  match x.client.breaker.start x.clock with
  | none => (.error (.breakerOpen x.client.breaker.failures), x)
  | some (breaker, ticket) =>
    let (result, x) := sendRepeatedly serve request endpoint { x with client.breaker := breaker }
    let ending : Breaker.Ending := match result with
      | .ok _ => .success
      | .error f => if Client.counts f then .failure else .other
    let breaker := x.client.breaker
    (result, { x with
      client.breaker := breaker.finish x.clock ticket ending
      log := x.log ++ breaker.reports ticket ending })

def ask (serve : Server σ) (endpoint : String) (x : Exchange σ) : Except Failure Value × Exchange σ :=
  match x.client.credentials.headers x.now with
  | .error f => (.error f, x)
  | .ok authorization =>
    sendGuarded serve
      ⟨"GET", x.client.url ++ endpoint, ("Accept", "application/json") :: authorization, x.client.timeout⟩ endpoint x

end Exchange

namespace Talk

variable {σ : Type}

def ask (serve : Server σ) (endpoint : String) : Talk σ Value := fun x => x.ask serve endpoint

def record {α : Type} (check : Fields → Checked α) : Value → Except Failure α
  | .map fs =>
    match check fs with
    | .ok a => .ok a
    | .bad issues => .error (.invalid issues)
  | _ => .error (.mishap .wrongKind "The body holds no record")

/-- The record that a value is, if it is not empty. -/
def optionalRecord {α : Type} (check : Fields → Checked α) (v : Value) : Except Failure (Option α) :=
  if v.isTruthy then some <$> record check v else .ok none

def blog (serve : Server σ) (id : String) : Talk σ Blog := do
  record Blog.check (← ask serve ("/api/blogs/" ++ id))

def application (serve : Server σ) (blogId : String) : Talk σ (Option SkinApplication) := do
  optionalRecord SkinApplication.check (← ask serve ("/api/skins/blog/" ++ blogId))

def skin (serve : Server σ) (id : String) : Talk σ Skin := do
  record Skin.check (← ask serve ("/api/skins/" ++ id))

def isNotFound : Failure → Bool
  | .api a => a.kind = .notFound
  | _ => false

/-- The custom skin of a blog. A blog that is not found has none. -/
def customSkin (serve : Server σ) (blogId : String) : Talk σ (Option CustomSkin) := do
  let v ← tryCatch (ask serve ("/api/skins/custom/" ++ blogId)) fun f =>
    if isNotFound f then pure .null else throw f
  optionalRecord CustomSkin.check v

/-- Failures in place of which the defaults are shown. -/
def isTolerable (f : Failure) : Bool := f.isOwn || f.isNetwork || f.isBadValue

/-- Nothing in place of a record that cannot be fetched. -/
def orNothing {α : Type} (label key : String) (fetch : Talk σ (Option α)) : Talk σ (Option α) :=
  tryCatch fetch fun f =>
    if isTolerable f then do
      modify fun x =>
        { x with log := x.log ++ ["Failed to fetch " ++ label ++ " for " ++ key ++ ", using defaults"] }
      return none
    else throw f

def outcome {α : Type} (work : Talk σ α) : Talk σ (Except Failure α) :=
  tryCatch (.ok <$> work) fun f => pure (.error f)

/-- The base skin of an application: the one that comes with it, or else the one that it names. -/
def baseSkin (serve : Server σ) : Option SkinApplication → Talk σ (Option Skin)
  | none => pure none
  | some a =>
    match a.skin, a.skinId.filter fun id => !id.isEmpty with
    | some s, _ => pure (some s)
    | none, some id => orNothing "skin" id (some <$> skin serve id)
    | none, none => pure none

/-- The records of a blog. All are asked for, even if the blog cannot be fetched. -/
def records (serve : Server σ) (blogId : String) : Talk σ SkinRecords := do
  let blog ← outcome (blog serve blogId)
  let application ← outcome (orNothing "skin application" blogId (application serve blogId))
  let customSkin ← outcome (orNothing "custom skin" blogId (customSkin serve blogId))
  let blog ← blog
  let application ← application
  let customSkin ← customSkin
  return { blog, application, customSkin, baseSkin := ← baseSkin serve application }

def isAlive (serve : Server σ) : Talk σ Bool :=
  tryCatch (do let _ ← ask serve "/health"; return true) fun f =>
    if f.isOwn || f.isNetwork then pure false else throw f

end Talk
end PageSkins.Backend
