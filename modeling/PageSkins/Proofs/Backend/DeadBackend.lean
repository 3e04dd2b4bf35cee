import PageSkins.Proofs.Backend.Parts

/-!
# A backend that is down

A client that gets nothing but failures that may pass gives up after five questions, each
sent as often as it may be. With more than 1024 retries it is otherwise: after that many the
delay is no number any more, the breaker does not count what comes of that, and every
question is sent 1025 times.
-/

namespace PageSkins.Backend

open PageSkins.Decimal

variable {σ : Type}

/-- An answer that tells that a backend is down, or has too much to do, but not for how long. -/
def IsDown : Except Failure Response → Prop
  | .ok r => (500 ≤ r.status ∧ r.status < 600) ∨
      (r.status = 429 ∧ r.header? "Retry-After" = none)
  | .error (.network kind _) => kind.isConnection = true ∨ kind.isTimeout = true
  | .error _ => False

def Server.Down (serve : Server σ) : Prop := ∀ request s, IsDown (serve request s).1

/-- A client as it is made, with some number of retries. -/
inductive Client.Made : Int → Client → Prop where
  | ofProfile {e : Environment} {p : Profile} {c : Client} (made : Client.ofProfile e p = .ok c) :
      Made p.retries c
  | ofTarget {e : Environment} {t : Target} {c : Client} (made : Client.ofTarget e t = .ok c) :
      Made t.retries c

theorem Client.settings_forUrl {url : String} {token : Option String} {timeout : Number}
    {retries : Int} {c : Client} (h : Client.forUrl url token timeout retries = .ok c) :
    c.retry = Client.retryOf retries ∧ c.breaker = { threshold := 5, recovery := .float 60.0 } := by
  obtain ⟨credentials, -, made⟩ := ok_of_bind h
  cases made
  exact ⟨rfl, rfl⟩

theorem Client.Made.settings {retries : Int} {c : Client} (h : Client.Made retries c) :
    c.retry = Client.retryOf retries ∧ c.breaker = { threshold := 5, recovery := .float 60.0 } := by
  cases h with
  | ofProfile made => exact Client.settings_forUrl made
  | @ofTarget e t c made =>
    unfold Client.ofTarget at made
    split at made
    · exact Client.settings_forUrl made
    · cases made

/-! ### One request -/

/-- What is read from an answer of a backend that is down may pass, and tells no time to wait. -/
theorem Response.read_of_isDown {r : Response} (h : IsDown (.ok r)) (endpoint : String) :
    ∃ f, r.read endpoint = .error f ∧ f.isRetryable = true ∧ f.retryAfter = none := by
  have status : 400 ≤ r.status := by
    obtain ⟨low, -⟩ | ⟨busy, -⟩ := h <;> omega
  refine ⟨r.failure endpoint, if_pos status, ?_⟩
  obtain ⟨low, high⟩ | ⟨busy, untold⟩ := h
  · have kind : ApiKind.ofStatus r.status = .server := by
      unfold ApiKind.ofStatus
      repeat rw [if_neg (by omega)]
      rw [if_pos low]
    simp [failure, kind, ApiFailure.make, Failure.isRetryable, ApiKind.isRetryable,
      Failure.retryAfter]
  · have kind : ApiKind.ofStatus r.status = .rateLimit := by
      rw [busy]
      rfl
    simp [failure, kind, untold, seconds, ApiFailure.make, Failure.isRetryable,
      ApiKind.isRetryable, Failure.retryAfter]

namespace Exchange

variable {serve : Server σ} (request : Request) (endpoint : String) {x y : Exchange σ}
  {retries : Int}

theorem vain_send (down : serve.Down) :
    Retry.Vain ⟨Failure.isRetryable, Failure.retryAfter⟩ (send serve request endpoint) := by
  intro x
  have answered := down request x.server
  cases answer : (serve request x.server).1 with
  | ok r =>
    rw [answer] at answered
    obtain ⟨f, read, again, untold⟩ := Response.read_of_isDown answered endpoint
    exact ⟨f, by simpa [send, answer, Except.bind] using read, again, untold⟩
  | error f =>
    rw [answer] at answered
    cases f with
    | network kind message =>
      refine ⟨.network kind message, by simp [send, answer, Except.bind], ?_, rfl⟩
      simpa [Failure.isRetryable, IsDown] using answered
    | _ => exact answered.elim

/-- A client can double its delay no more than 1023 times. -/
theorem delaysEnd_retryOf (retries : Int) (draws : Nat → Float) :
    (Client.retryOf retries).DelaysEnd (fun n => .float (draws n)) 1024 .tooLarge := by
  constructor
  · intro attempt early
    have power : Amount.power (Number.float 2.0) attempt =
        .ok (.float (ofInt (Int.pow 2 attempt))) := (power_two attempt).trans (if_pos early)
    obtain ⟨cut, least⟩ := Retry.least_float (0.5 * ofInt (Int.pow 2 attempt)) 30.0
    refine ⟨.float (cut + cut * draws attempt), ?_⟩
    simp only [Retry.delay, Client.retryOf, power]
    change (do Amount.add (Retry.least _ _) (← Amount.mul (Retry.least _ _) _)) = _
    rw [least]
    rfl
  · have power : Amount.power (Number.float 2.0) ((1024 : Nat) : Int) = .error .tooLarge :=
      power_two 1024
    simp only [Retry.delay, Client.retryOf, power]
    rfl

/-- A request to a backend that is down is sent until no retry is left, and then fails in a way
that counts. With too many retries it is sent 1025 times, and fails in a way that does not. -/
theorem sendRepeatedly_of_down (down : serve.Down) (some_left : 0 ≤ retries)
    (retry : x.client.retry = Client.retryOf retries) :
    let sent := x.sendRepeatedly serve request endpoint
    sent.2.requests.length = x.requests.length + min retries.toNat 1024 + 1 ∧
      ∃ f, sent.1 = .error f ∧ Client.counts f = decide (retries ≤ 1024) := by
  have left : x.client.retry.retries = retries := by rw [retry]; rfl
  obtain ⟨made, exhausted, overrun⟩ := Retry.executeWith_of_vain
    (fun x : Exchange σ => x.requests.length) (vain_send request endpoint down)
    (retry ▸ delaysEnd_retryOf retries x.draw) (fun s => by simp [send]) (left ▸ some_left) x
  rw [left] at made exhausted overrun
  refine ⟨made, ?_⟩
  by_cases few : retries ≤ 1024
  · obtain ⟨e, outcome⟩ := exhausted few
    exact ⟨.ofRetries x.client.retry.retries (some e), congrArg (ending _) outcome,
      (decide_eq_true few).symm⟩
  · exact ⟨.ofOverrun .tooLarge, congrArg (ending _) (overrun (not_le.1 few)),
      (decide_eq_false few).symm⟩

/-! ### One question after another -/

def sent (retries : Int) (questions : Nat) : Nat :=
  if retries ≤ 1024 then min questions 5 * (retries.toNat + 1) else questions * 1025

def slackAfter (retries : Int) (questions : Nat) : Nat :=
  if retries ≤ 1024 then 5 - questions else 5

theorem sent_succ_of_left {retries : Int} {questions : Nat}
    (left : 0 < slackAfter retries questions) :
    sent retries (questions + 1) = sent retries questions + (min retries.toNat 1024 + 1) := by
  unfold slackAfter at left
  unfold sent
  split at left
  · rename_i few
    rw [if_pos few, if_pos few, Nat.min_eq_left (by omega), Nat.min_eq_left (by omega),
      Nat.min_eq_left (by omega), Nat.succ_mul]
  · rename_i many
    rw [if_neg many, if_neg many, Nat.min_eq_right (by omega), Nat.succ_mul]

/-- Without slack no more requests are sent. -/
theorem sent_succ_of_none_left {retries : Int} {questions : Nat}
    (none_left : slackAfter retries questions = 0) :
    sent retries (questions + 1) = sent retries questions ∧
      slackAfter retries (questions + 1) = 0 := by
  unfold slackAfter at none_left ⊢
  unfold sent
  split at none_left
  · rename_i few
    rw [if_pos few, if_pos few, if_pos few, Nat.min_eq_right (by omega),
      Nat.min_eq_right (by omega)]
    exact ⟨rfl, by omega⟩
  · cases none_left

theorem slackAfter_succ (retries : Int) (questions : Nat) :
    slackAfter retries (questions + 1) = Breaker.spend 5 (slackAfter retries questions)
      (if decide (retries ≤ 1024) then .failure else .other) := by
  unfold slackAfter
  by_cases few : retries ≤ 1024
  · simp only [few, if_true, decide_true, Breaker.spend]
    omega
  · simp [few, Breaker.spend]

/-- An exchange after some questions that a backend which is down was asked since `x`. -/
structure AskedInVain (retries : Int) (x : Exchange σ) (questions : Nat) (y : Exchange σ) : Prop
    extends Since x y where
  slack : y.slack = slackAfter retries questions
  requests : y.requests.length = x.requests.length + sent retries questions

variable {questions : Nat}

theorem askedInVain_made (made : Client.Made retries x.client) : AskedInVain retries x 0 x := by
  obtain ⟨-, breaker⟩ := made.settings
  constructor
  case toSince => exact .refl (reached_of_new breaker).usual
  case slack =>
    rw [Exchange.slack, breaker, Breaker.slack_of_closed rfl]
    unfold slackAfter
    split <;> rfl
  case requests => simp [sent]

/-- One question more is refused, or sent as often as it may be. -/
theorem AskedInVain.ask (h : AskedInVain retries x questions y) (down : serve.Down)
    (some_left : 0 ≤ retries) (retry : x.client.retry = Client.retryOf retries)
    (authorized : x.Authorized) :
    AskedInVain retries x (questions + 1) (y.ask serve endpoint).2 ∧
      ∃ f, (y.ask serve endpoint).1 = .error f := by
  have authorized_now := h.still.terms.authorized authorized
  obtain none_left | left := Nat.eq_zero_or_pos y.slack
  · rw [ask_refused serve endpoint h.usual authorized_now none_left]
    obtain ⟨no_more, still_none⟩ := sent_succ_of_none_left (h.slack.symm.trans none_left)
    refine ⟨⟨h.toSince, ?_, ?_⟩, _, rfl⟩
    · rw [none_left, still_none]
    · rw [no_more, h.requests]
  · obtain ⟨authorization, headers⟩ := h.still.terms.authorized authorized
    obtain ⟨same, requests⟩ := ask_passed serve endpoint h.usual headers left
    obtain ⟨made, f, failed, counted⟩ := sendRepeatedly_of_down (x := y.entered)
      (y.request authorization endpoint) endpoint down some_left (h.still.terms.2.1.trans retry)
    rw [← same] at failed
    rw [← requests] at made
    have ended : callEnding (y.ask serve endpoint).1 =
        if decide (retries ≤ 1024) then .failure else .other := by
      rw [failed, callEnding, counted]
    refine ⟨⟨h.toSince.ask serve endpoint, ?_, ?_⟩, f, failed⟩
    · rw [slack_ask serve endpoint h.usual authorized_now left, ended, h.slack, slackAfter_succ]
    · rw [made, sent_succ_of_left (h.slack ▸ left)]
      change y.requests.length + _ + 1 = _
      rw [h.requests]
      omega

end Exchange

/-! ### One operation after another -/

inductive Operation where
  | blog (id : String)
  | application (blogId : String)
  | skin (id : String)
  | customSkin (blogId : String)
  | records (blogId : String)
  | health

namespace Operation

open Exchange

/-- How many questions an operation asks where none is answered. -/
def questions : Operation → Nat
  | .records _ => 3
  | _ => 1

def perform (serve : Server σ) (x : Exchange σ) : Operation → Exchange σ
  | .blog id => ((Talk.blog serve id).run x).2
  | .application blogId => ((Talk.application serve blogId).run x).2
  | .skin id => ((Talk.skin serve id).run x).2
  | .customSkin blogId => ((Talk.customSkin serve blogId).run x).2
  | .records blogId => ((Talk.records serve blogId).run x).2
  | .health => ((Talk.isAlive serve).run x).2

variable {serve : Server σ} {x y : Exchange σ} {retries : Int} {asked : Nat}

theorem state_isAlive : ((Talk.isAlive serve).run x).2 = (x.ask serve "/health").2 := by
  have asked : ((Talk.ask serve "/health").run x) = x.ask serve "/health" := rfl
  rw [Talk.isAlive, Talk.run_tryCatch, Talk.run_bind, asked]
  cases x.ask serve "/health" with
  | mk answer y =>
    cases answer with
    | ok v => rfl
    | error f =>
      dsimp only
      split
      · rfl
      · rfl

/-- Where the blog cannot be fetched, no base skin is asked for. -/
theorem state_records {blogId : String} {f : Failure}
    (failed : ((Talk.blog serve blogId).run x).1 = .error f) :
    ((Talk.records serve blogId).run x).2 = Talk.reach serve blogId x Talk.Part.all := by
  simp only [Talk.records, Talk.run_bind, Talk.run_outcome, Talk.run_lift, failed]
  rfl

/-- Fetching one of the records asks in vain too; what it writes to the log does not count. -/
theorem askedInVain_fetch (down : serve.Down) (some_left : 0 ≤ retries)
    (retry : x.client.retry = Client.retryOf retries) (authorized : x.Authorized)
    (blogId : String) (p : Talk.Part) (h : AskedInVain retries x asked y) :
    AskedInVain retries x (asked + 1) ((Talk.fetch serve blogId p).run y).2 := by
  obtain ⟨log, fetched⟩ := Talk.state_fetch serve blogId y p
  have part_asked := (h.ask (p.endpoint blogId) down some_left retry authorized).1
  rw [fetched]
  exact ⟨part_asked.toSince.logged log, part_asked.slack, part_asked.requests⟩

/-- An operation asks its questions in vain. -/
theorem askedInVain_perform (down : serve.Down) (some_left : 0 ≤ retries)
    (retry : x.client.retry = Client.retryOf retries) (authorized : x.Authorized)
    (operation : Operation) (h : AskedInVain retries x asked y) :
    AskedInVain retries x (asked + operation.questions) (operation.perform serve y) := by
  have ask : ∀ (endpoint : String) {asked : Nat} {y : Exchange σ},
      AskedInVain retries x asked y →
        AskedInVain retries x (asked + 1) (y.ask serve endpoint).2 ∧
          ∃ f, (y.ask serve endpoint).1 = .error f :=
    fun endpoint _ _ h => h.ask endpoint down some_left retry authorized
  cases operation with
  | blog id =>
    rw [perform, Talk.blog, Talk.run_bind_read]
    exact (ask _ h).1
  | application blogId =>
    rw [perform, Talk.application, Talk.run_bind_read]
    exact (ask _ h).1
  | skin id =>
    rw [perform, Talk.skin, Talk.run_bind_read]
    exact (ask _ h).1
  | customSkin blogId =>
    rw [perform, Talk.customSkin, Talk.run_bind_read, Talk.run_forgiving]
    exact (ask _ h).1
  | health =>
    rw [perform, state_isAlive]
    exact (ask _ h).1
  | records blogId =>
    obtain ⟨-, f, failed⟩ := ask ("/api/blogs/" ++ blogId) h
    have no_blog : ((Talk.blog serve blogId).run y).1 = .error f := by
      rw [Talk.blog, Talk.run_bind_read]
      change (y.ask serve ("/api/blogs/" ++ blogId)).1 >>= _ = _
      rw [failed]
      rfl
    have fetch (p : Talk.Part) {asked : Nat} {y : Exchange σ} (h : AskedInVain retries x asked y) :=
      askedInVain_fetch down some_left retry authorized blogId p h
    rw [perform, state_records no_blog]
    exact fetch _ (fetch _ (fetch _ h))

theorem askedInVain_performAll (down : serve.Down) (some_left : 0 ≤ retries)
    (made : Client.Made retries x.client) (authorized : x.Authorized)
    (operations : List Operation) (h : AskedInVain retries x asked y) :
    AskedInVain retries x (asked + (operations.map questions).sum)
      (operations.foldl (perform serve) y) := by
  induction operations generalizing asked y with
  | nil => exact h
  | cons operation operations ih =>
    have performed :=
      ih (askedInVain_perform down some_left made.settings.1 authorized operation h)
    rwa [Nat.add_assoc] at performed

/-- However a new client is asked by one operation after another, a backend that is down gets
the first five questions as often as each may be sent, and no more. With too many retries it
gets all of them. -/
theorem requests_of_down (down : serve.Down) (some_left : 0 ≤ retries)
    (made : Client.Made retries x.client) (authorized : x.Authorized)
    (operations : List Operation) :
    (operations.foldl (perform serve) x).requests.length = x.requests.length +
      if retries ≤ 1024 then min (operations.map questions).sum 5 * (retries.toNat + 1)
      else (operations.map questions).sum * 1025 := by
  have asked := askedInVain_performAll down some_left made authorized operations
    (askedInVain_made made)
  rw [asked.requests, Nat.zero_add]
  rfl

def unreachable : Server Unit := fun _ s => (.error (.network .connection "refused"), s)

def waiting (retries : Int) : Exchange Unit where
  client :=
    { url := "https://blog.example.com", credentials := {}, retry := Client.retryOf retries }
  server := ()
  now := .int 0

theorem down_unreachable : unreachable.Down := fun _ _ => .inl rfl

theorem made_waiting (retries : Int) : Client.Made retries (waiting retries).client :=
  .ofTarget (e := {}) (t := { apiUrl := some "https://blog.example.com", retries }) rfl

theorem requests_of_down_unreachable :
    unreachable.Down ∧ (0 : Int) ≤ 2 ∧ Client.Made 2 (waiting 2).client ∧
      (waiting 2).Authorized ∧
      ([.records "blog-1", .health, .skin "night", .blog "blog-2"].foldl (perform unreachable)
        (waiting 2)).requests.length = 15 :=
  ⟨down_unreachable, by decide, made_waiting 2, ⟨[], rfl⟩,
    requests_of_down down_unreachable (by decide) (made_waiting 2) ⟨[], rfl⟩ _⟩

theorem not_requests_unreachable :
    ([.blog "blog-1"].foldl (perform unreachable) (waiting 1025)).requests.length ≠
      min 1 5 * (1025 + 1) := by
  have asked := askedInVain_performAll down_unreachable (by decide) (made_waiting 1025) ⟨[], rfl⟩
    [.blog "blog-1"] (askedInVain_made (made_waiting 1025))
  rw [asked.requests]
  decide

end Operation

end PageSkins.Backend
