import PageSkins.Proofs.Backend.Requests
import PageSkins.Proofs.Breaker.Slack
import PageSkins.Proofs.Decimal.Doubles

/-!
# A client while its clock stands still

Questions that are asked at one moment differ by the slack that the breaker has left. With
some slack a question is let through, and how it ends tells what is left; without any it is
refused and leaves everything as it was.
-/

namespace PageSkins.Backend.Exchange

open PageSkins.Decimal

variable {σ : Type}

/-- The breaker is one that every client has, in a state that calls can bring it into. -/
structure Usual (x : Exchange σ) : Prop where
  threshold : x.client.breaker.threshold = 5
  recovery : x.client.breaker.recovery = .float 60.0
  sound : x.client.breaker.Sound

/-- Calls, which may have overlapped, have brought the breaker to stand as it does. -/
def Reached (x : Exchange σ) : Prop :=
  ∃ (start : Number) (actions : List (Breaker.Action Number)),
    let traffic := (Breaker.Traffic.quiet 5 (.float 60.0) start).run actions
    x.client.breaker = traffic.breaker ∧ x.clock = traffic.now

/-- How many failures in a row the breaker still lets through. -/
def slack (x : Exchange σ) : Nat := x.client.breaker.slack x.clock

/-- The same client at the same moment, with what it has gone through meanwhile. -/
structure StandsStill (x y : Exchange σ) : Prop where
  terms : SameTerms x y
  url : y.client.url = x.client.url
  clock : y.clock = x.clock

/-- An exchange after some questions since `x`, at the same moment. -/
structure Since (x y : Exchange σ) : Prop where
  still : StandsStill x y
  usual : y.Usual

def request (x : Exchange σ) (authorization : List (String × String)) (endpoint : String) :
    Request :=
  ⟨"GET", x.client.url ++ endpoint, ("Accept", "application/json") :: authorization,
    x.client.timeout⟩

def entered (x : Exchange σ) : Exchange σ := { x with client.breaker := x.client.breaker.enter.1 }

/-- What comes back from an endpoint if the breaker lets the question through. -/
def answer (serve : Server σ) (endpoint : String) (x : Exchange σ) : Except Failure Value :=
  match x.client.credentials.headers x.now with
  | .error f => .error f
  | .ok authorization =>
    (x.entered.sendRepeatedly serve (x.request authorization endpoint) endpoint).1

variable (serve : Server σ) (endpoint : String) {x y z : Exchange σ}

theorem StandsStill.refl (x : Exchange σ) : StandsStill x x := ⟨.refl x, rfl, rfl⟩

theorem StandsStill.trans (first : StandsStill x y) (second : StandsStill y z) :
    StandsStill x z :=
  ⟨first.terms.trans second.terms, second.url.trans first.url, second.clock.trans first.clock⟩

theorem sendRepeatedly_standsStill (request : Request) (x : Exchange σ) :
    StandsStill x (x.sendRepeatedly serve request endpoint).2 := by
  obtain ⟨terms, -, clock⟩ := sendRepeatedly_keeps serve request endpoint x
  have url := congrArg Client.url (attempts_sameClient serve request endpoint x).1
  exact ⟨terms, url, clock⟩

/-! ### Refused, or let through -/

/-- Whatever opens the breaker of a client at this moment, no call gets in any more. -/
theorem Usual.steady (h : x.Usual) : x.client.breaker.Steady x.clock where
  sound := h.sound
  firm := by
    intro b recovery opened
    obtain ⟨passed, difference, below⟩ := sub_self_below x.clock
    simp only [Breaker.allows, opened, difference, recovery, h.recovery, below]

theorem Usual.slack_le (h : x.Usual) : x.slack ≤ 5 := by
  have most := h.steady.slack_le
  rwa [h.threshold] at most

theorem ask_refused (usual : x.Usual) (authorized : x.Authorized) (no_slack : x.slack = 0) :
    x.ask serve endpoint = (.error (.breakerOpen x.client.breaker.failures), x) := by
  obtain ⟨authorization, authorized⟩ := authorized
  have called := usual.steady.call_of_no_slack no_slack
  simp only [ask, authorized]
  refine (sendGuarded_call serve (x.request authorization endpoint) endpoint x).2 _ ?_
  rw [called]

/-- A question that is let through is sent, and spends slack by how it ends. -/
theorem ask_passed (usual : x.Usual) {authorization : List (String × String)}
    (authorized : x.client.credentials.headers x.now = .ok authorization) (left : 0 < x.slack) :
    let sent := x.entered.sendRepeatedly serve (x.request authorization endpoint) endpoint
    (x.ask serve endpoint).1 = sent.1 ∧ (x.ask serve endpoint).2.requests = sent.2.requests := by
  have allowed := usual.steady.allows_iff.2 left
  have started : x.client.breaker.start x.clock = some x.client.breaker.enter := by
    simp [Breaker.start, allowed]
  simp only [ask, authorized, sendGuarded, started]
  exact ⟨rfl, rfl⟩

theorem ask_unauthorized (h : ¬ x.Authorized) :
    ∃ f, x.client.credentials.headers x.now = .error f ∧ x.ask serve endpoint = (.error f, x) := by
  cases headers : x.client.credentials.headers x.now with
  | ok authorization => exact absurd ⟨authorization, headers⟩ h
  | error f => exact ⟨f, rfl, by simp only [ask, headers]⟩

/-- A question gets its answer unless the breaker has no slack left for it. -/
theorem ask_answer (usual : x.Usual) (left : x.Authorized → 0 < x.slack) :
    (x.ask serve endpoint).1 = x.answer serve endpoint := by
  by_cases authorized : x.Authorized
  · obtain ⟨authorization, headers⟩ := authorized
    have passed := ask_passed serve endpoint usual headers (left ⟨authorization, headers⟩)
    rw [passed.1, answer, headers]
  · obtain ⟨f, headers, asked⟩ := ask_unauthorized serve endpoint authorized
    rw [asked, answer, headers]

theorem ask_standsStill : StandsStill x (x.ask serve endpoint).2 := by
  cases authorized : x.client.credentials.headers x.now with
  | error f =>
    simp only [ask, authorized]
    exact .refl x
  | ok authorization =>
    cases started : x.client.breaker.start x.clock with
    | none =>
      simp only [ask, authorized, sendGuarded, started]
      exact .refl x
    | some started' =>
      have kept := sendRepeatedly_standsStill serve endpoint (x.request authorization endpoint)
        { x with client.breaker := started'.1 }
      simp only [ask, authorized, sendGuarded, started]
      exact ⟨kept.terms, kept.url, kept.clock⟩

theorem breaker_ask (authorized : x.Authorized) :
    (x.ask serve endpoint).2.client.breaker =
      (x.client.breaker.call ⟨x.clock, x.clock, callEnding (x.ask serve endpoint).1⟩).2 := by
  obtain ⟨authorization, authorized⟩ := authorized
  simp only [ask, authorized]
  exact (sendGuarded_call serve (x.request authorization endpoint) endpoint x).1

theorem Usual.ask (usual : x.Usual) : (x.ask serve endpoint).2.Usual := by
  by_cases authorized : x.Authorized
  · have breaker := breaker_ask serve endpoint authorized
    constructor
    case threshold => rw [breaker, Breaker.settings_call.1, usual.threshold]
    case recovery => rw [breaker, Breaker.settings_call.2, usual.recovery]
    case sound =>
      rw [breaker]
      exact (usual.steady.call _).sound
  · obtain ⟨f, -, asked⟩ := ask_unauthorized serve endpoint authorized
    rw [asked]
    exact usual

theorem slack_ask (usual : x.Usual) (authorized : x.Authorized) (left : 0 < x.slack) :
    (x.ask serve endpoint).2.slack =
      Breaker.spend 5 x.slack (callEnding (x.ask serve endpoint).1) := by
  have spent := usual.steady.slack_call left (callEnding (x.ask serve endpoint).1)
  rw [usual.threshold] at spent
  rw [slack, breaker_ask serve endpoint authorized, (ask_standsStill serve endpoint).clock]
  exact spent

theorem Since.refl (usual : x.Usual) : Since x x := ⟨.refl x, usual⟩

theorem Since.ask (since : Since x y) : Since x (y.ask serve endpoint).2 :=
  ⟨since.still.trans (ask_standsStill serve endpoint), since.usual.ask serve endpoint⟩

theorem Since.logged (since : Since x y) (log : List String) : Since x { y with log } :=
  ⟨⟨since.still.terms, since.still.url, since.still.clock⟩,
    ⟨since.usual.threshold, since.usual.recovery, since.usual.sound⟩⟩

/-! ### What calls can bring a client into -/

theorem reached_of_new (h : x.client.breaker = { threshold := 5, recovery := .float 60.0 }) :
    x.Reached := ⟨x.clock, [], h, rfl⟩

theorem Reached.usual (h : x.Reached) : x.Usual := by
  obtain ⟨start, actions, breaker, -⟩ := h
  have settings := (Breaker.Traffic.quiet 5 (.float 60.0) start).settings_run actions
  have sound : (Breaker.Traffic.quiet 5 (.float 60.0) start).breaker.Sound :=
    ⟨show (1 : Int) ≤ 5 by decide, fun _ => show (0 : Int) < 5 by decide⟩
  constructor
  case threshold =>
    rw [breaker, settings.1]
    rfl
  case recovery =>
    rw [breaker, settings.2]
    rfl
  case sound =>
    rw [breaker]
    exact Breaker.Traffic.sound_run sound actions

theorem Reached.ask (h : x.Reached) : (x.ask serve endpoint).2.Reached := by
  by_cases authorized : x.Authorized
  · obtain ⟨start, actions, breaker, clock⟩ := h
    let before := (Breaker.Traffic.quiet 5 (.float 60.0) start).run actions
    let ending := callEnding (x.ask serve endpoint).1
    have called := before.breaker_run_call ending
    refine ⟨start, actions ++ [.ask, .finish before.inFlight.length ending], ?_, ?_⟩
    · rw [Breaker.Traffic.run_append, breaker_ask serve endpoint authorized, breaker, clock]
      exact called.1.symm
    · rw [Breaker.Traffic.run_append, (ask_standsStill serve endpoint).clock, clock]
      exact called.2.symm
  · obtain ⟨f, -, asked⟩ := ask_unauthorized serve endpoint authorized
    rw [asked]
    exact h

/-- A client stays within reach whatever it asks. -/
theorem Reached.asks (h : x.Reached) (endpoints : List String) :
    (endpoints.foldl (fun y endpoint => (y.ask serve endpoint).2) x).Reached := by
  induction endpoints generalizing x with
  | nil => exact h
  | cons endpoint endpoints ih => exact ih (h.ask serve endpoint)

end PageSkins.Backend.Exchange
