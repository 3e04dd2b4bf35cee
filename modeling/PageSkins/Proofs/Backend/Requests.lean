import PageSkins.Backend.Client
import PageSkins.Proofs.Breaker
import PageSkins.Proofs.Retrying

/-!
# Requests

What can go wrong with a request, and what it leaves as it was. Whatever a backend answers,
a request fails in a way that the defaults make up for, unless a delay between two attempts
is too large to be a number. To the breaker of a client a request is one call, however often
it is sent.
-/

namespace PageSkins.Backend

open PageSkins.Decimal
open Talk (isTolerable)

variable {σ : Type}

/-- A server fails on the way only, as a network does. -/
def Server.IsNetwork (serve : Server σ) : Prop :=
  ∀ request s f, (serve request s).1 = .error f → f.isNetwork = true

/-! ### Failures of an attempt -/

theorem not_isTolerable_ofOverrun (o : Overrun) : isTolerable (.ofOverrun o) = false := by
  cases o with
  | tooLarge => rfl
  | zeroDivision => rfl

/-- The failures of an attempt. A bad value is what goes wrong with a number of seconds. -/
inductive OfAttempt : Failure → Prop
  | network (kind : NetworkKind) (message : String) : OfAttempt (.network kind message)
  | api (answer : ApiFailure) : OfAttempt (.api answer)
  | badValue (message : String) : OfAttempt (.mishap .badValue message)

/-- The defaults make up for every failure of an attempt. -/
theorem OfAttempt.isTolerable {f : Failure} (h : OfAttempt f) : isTolerable f = true := by
  cases h with
  | network kind message => rfl
  | api answer => rfl
  | badValue message => rfl

theorem ofAttempt_of_isNetwork {f : Failure} (h : f.isNetwork = true) : OfAttempt f := by
  cases f with
  | network kind message => exact .network kind message
  | _ => cases h

namespace Response

theorem ofAttempt_of_seconds {s : List Char} {f : Failure} (h : seconds s = .error f) :
    OfAttempt f := by
  unfold seconds at h
  split at h
  · cases h
  · split at h
    · cases h
    · cases h
      exact .badValue _

theorem ofAttempt_failure (r : Response) (endpoint : String) :
    OfAttempt (r.failure endpoint) := by
  unfold failure
  dsimp only
  split
  · split
    · exact .api _
    · rename_i bad
      exact ofAttempt_of_seconds bad
  · exact .api _
  · exact .api _
  · exact .api _

theorem ofAttempt_of_read {r : Response} {endpoint : String} {f : Failure}
    (h : r.read endpoint = .error f) : OfAttempt f := by
  unfold read at h
  split at h
  · cases h
    exact r.ofAttempt_failure endpoint
  · cases body : r.body with
    | empty =>
      rw [body] at h
      cases h
    | json v =>
      rw [body] at h
      cases h
    | other =>
      rw [body] at h
      cases h
      exact .api _

end Response

/-! ### Failures of a request -/

/-- A wait that cannot be counted: after an attempt that failed in a way that may pass, the
delay is too large. -/
def Uncountable (retry : Retry Number) (o : Overrun) : Prop :=
  ∃ (f : Failure) (attempt : Nat) (random : Float), f.isRetryable = true ∧
    (attempt : Int) < retry.retries ∧
    retry.delay (.float random) attempt f.retryAfter = .error o

/-- The failures that a request can end with. -/
def Foreseen (retry : Retry Number) (f : Failure) : Prop :=
  isTolerable f = true ∨ ∃ o, f = .ofOverrun o ∧ Uncountable retry o

namespace Exchange

variable {serve : Server σ} {request : Request} {endpoint : String} {x : Exchange σ} {f : Failure}

theorem ofAttempt_of_send (network : serve.IsNetwork)
    (h : (x.send serve request endpoint).1 = .error f) : OfAttempt f := by
  cases answer : (serve request x.server).1 with
  | error g =>
    have same : Except.error g = Except.error (α := Value) f := by
      simpa [send, answer, Except.bind] using h
    cases same
    exact ofAttempt_of_isNetwork (network _ _ _ answer)
  | ok r =>
    have read : r.read endpoint = .error f := by
      simpa [send, answer, Except.bind] using h
    exact Response.ofAttempt_of_read read

/-- A run of attempts fails as one of them does, or because all of them failed, or because there
is no delay after one. -/
theorem failure_of_ending (network : serve.IsNetwork) {retry : Retry Number}
    {draws : Nat → Float} {outcome : Retry.Outcome Failure Value}
    (arises : retry.Arises (fun n => .float (draws n))
      ⟨Failure.isRetryable, Failure.retryAfter⟩ (send serve request endpoint) outcome)
    (h : ending retry.retries outcome = .error f) :
    OfAttempt f ∨ (∃ last, f = .ofRetries retry.retries last) ∨
      ∃ o, f = .ofOverrun o ∧ Uncountable retry o := by
  cases arises with
  | done ended => cases h
  | failed ended final =>
    cases h
    exact .inl (ofAttempt_of_send network ended)
  | exhausted ended again =>
    cases h
    exact .inr (.inl ⟨_, rfl⟩)
  | unattempted none_left =>
    cases h
    exact .inr (.inl ⟨_, rfl⟩)
  | overrun ended again left late =>
    cases h
    exact .inr (.inr ⟨_, rfl, _, _, _, again, left, late⟩)

theorem foreseen_of_sendRepeatedly (network : serve.IsNetwork)
    (h : (x.sendRepeatedly serve request endpoint).1 = .error f) : Foreseen x.client.retry f := by
  obtain attempted | ⟨last, rfl⟩ | overrun :=
    failure_of_ending network (Retry.executeWith_arises x) h
  · exact .inl attempted.isTolerable
  · exact .inl rfl
  · exact .inr overrun

theorem foreseen_of_sendGuarded (network : serve.IsNetwork)
    (h : (x.sendGuarded serve request endpoint).1 = .error f) : Foreseen x.client.retry f := by
  cases started : x.client.breaker.start x.clock with
  | none =>
    simp only [sendGuarded, started] at h
    cases h
    exact .inl rfl
  | some entered =>
    simp only [sendGuarded, started] at h
    exact foreseen_of_sendRepeatedly (x := { x with client.breaker := entered.1 }) network h

def Authorized (x : Exchange σ) : Prop :=
  ∃ authorization, x.client.credentials.headers x.now = .ok authorization

theorem foreseen_of_ask (network : serve.IsNetwork) (authorized : x.Authorized)
    (h : (x.ask serve endpoint).1 = .error f) : Foreseen x.client.retry f := by
  obtain ⟨authorization, authorized⟩ := authorized
  simp only [ask, authorized] at h
  exact foreseen_of_sendGuarded network h

/-- Whoever gets an answer has said who asks. -/
theorem authorized_of_ask {v : Value} (h : (x.ask serve endpoint).1 = .ok v) : x.Authorized := by
  cases authorized : x.client.credentials.headers x.now with
  | ok authorization => exact ⟨authorization, authorized⟩
  | error f =>
    simp only [ask, authorized] at h
    cases h

/-! ### What a request leaves as it was -/

/-- Two exchanges on the same terms: the same credentials at the same time of day, and the same
attempts. -/
def SameTerms (x y : Exchange σ) : Prop :=
  y.client.credentials = x.client.credentials ∧ y.client.retry = x.client.retry ∧ y.now = x.now

theorem SameTerms.refl (x : Exchange σ) : SameTerms x x := ⟨rfl, rfl, rfl⟩

theorem SameTerms.symm {x y : Exchange σ} (terms : SameTerms x y) : SameTerms y x :=
  ⟨terms.1.symm, terms.2.1.symm, terms.2.2.symm⟩

theorem SameTerms.trans {x y z : Exchange σ} (first : SameTerms x y) (second : SameTerms y z) :
    SameTerms x z :=
  ⟨second.1.trans first.1, second.2.1.trans first.2.1, second.2.2.trans first.2.2⟩

theorem SameTerms.authorized {x y : Exchange σ} (terms : SameTerms x y) (h : x.Authorized) :
    y.Authorized := by
  obtain ⟨authorization, authorized⟩ := h
  exact ⟨authorization, by rw [terms.1, terms.2.2, authorized]⟩

def SameClient (x y : Exchange σ) : Prop :=
  y.client = x.client ∧ y.clock = x.clock ∧ y.now = x.now

theorem send_sameClient {y : Exchange σ} (h : SameClient x y) :
    SameClient x (y.send serve request endpoint).2 := h

theorem attempts_sameClient (serve : Server σ) (request : Request) (endpoint : String)
    (x : Exchange σ) :
    SameClient x (x.client.retry.executeWith (fun n => .float (x.draw n))
      ⟨Failure.isRetryable, Failure.retryAfter⟩ (send serve request endpoint) x).2 :=
  Retry.executeWith_keeps (P := SameClient x) (fun _ => send_sameClient) x ⟨rfl, rfl, rfl⟩

/-- Attempts change neither the terms nor the breaker of a client, and no time passes for it. -/
theorem sendRepeatedly_keeps (serve : Server σ) (request : Request) (endpoint : String)
    (x : Exchange σ) :
    SameTerms x (x.sendRepeatedly serve request endpoint).2 ∧
      (x.sendRepeatedly serve request endpoint).2.client.breaker = x.client.breaker ∧
      (x.sendRepeatedly serve request endpoint).2.clock = x.clock := by
  obtain ⟨client, clock, now⟩ := attempts_sameClient serve request endpoint x
  have credentials := congrArg Client.credentials client
  have retry := congrArg Client.retry client
  have breaker := congrArg Client.breaker client
  exact ⟨⟨credentials, retry, now⟩, breaker, clock⟩

theorem sendGuarded_sameTerms : SameTerms x (x.sendGuarded serve request endpoint).2 := by
  cases started : x.client.breaker.start x.clock with
  | none =>
    simp only [sendGuarded, started]
    exact .refl x
  | some entered =>
    have kept := (sendRepeatedly_keeps serve request endpoint
      { x with client.breaker := entered.1 }).1
    simp only [sendGuarded, started]
    exact kept

theorem ask_sameTerms : SameTerms x (x.ask serve endpoint).2 := by
  cases authorized : x.client.credentials.headers x.now with
  | ok authorization =>
    simp only [ask, authorized]
    exact sendGuarded_sameTerms
  | error f =>
    simp only [ask, authorized]
    exact .refl x

/-- The failures of a question that is asked later on the same terms. -/
theorem SameTerms.foreseen {y : Exchange σ} (terms : SameTerms x y) (network : serve.IsNetwork)
    (authorized : x.Authorized) (h : (y.ask serve endpoint).1 = .error f) :
    Foreseen x.client.retry f := by
  rw [← terms.2.1]
  exact foreseen_of_ask network (terms.authorized authorized) h

/-! ### A request as a call of the breaker -/

def callEnding : Except Failure Value → Breaker.Ending
  | .ok _ => .success
  | .error f => if Client.counts f then .failure else .other

/-- A request past the breaker is one call of it, and one that is refused changes nothing. -/
theorem sendGuarded_call (serve : Server σ) (request : Request) (endpoint : String)
    (x : Exchange σ) :
    let done := x.sendGuarded serve request endpoint
    let called := x.client.breaker.call ⟨x.clock, x.clock, callEnding done.1⟩
    done.2.client.breaker = called.2 ∧ ∀ f, called.1 = .error f → done = (.error f, x) := by
  intro done called
  cases allowed : x.client.breaker.allows x.clock with
  | false =>
    have refused : done = (.error (.breakerOpen x.client.breaker.failures), x) := by
      simp [done, sendGuarded, Breaker.start, allowed]
    have called_eq : called = (.error (.breakerOpen x.client.breaker.failures), x.client.breaker) :=
      Breaker.call_of_refuses allowed
    rw [refused, called_eq]
    refine ⟨rfl, ?_⟩
    rintro f ⟨⟩
    rfl
  | true =>
    have started : x.client.breaker.start x.clock = some x.client.breaker.enter := by
      simp [Breaker.start, allowed]
    have called_eq : called = (.ok (callEnding done.1), x.client.breaker.enter.1.finish x.clock
        x.client.breaker.enter.2 (callEnding done.1)) :=
      Breaker.call_of_allows allowed
    rw [called_eq]
    constructor
    · obtain ⟨-, breaker, clock⟩ := sendRepeatedly_keeps serve request endpoint
        { x with client.breaker := x.client.breaker.enter.1 }
      simp only [done, sendGuarded, started, breaker, clock]
      rfl
    · rintro f ⟨⟩

end Exchange

end PageSkins.Backend
