import PageSkins.Proofs.Breaker

/-!
# Calls in flight at the same time

A call takes two steps at a breaker, and other calls may take theirs in between. Every list
of actions is one order in which that can happen: calls ask to be let in, calls in flight
end, and time passes. A breaker that opened keeps calls out until it has recovered, unless
a call succeeds meanwhile: one that was let in before and ends late closes the breaker again.
-/

namespace PageSkins.Breaker

inductive Event (τ : Type) where
  | admitted (time : τ)
  | opened (time : τ)
  | succeeded (time : τ)
deriving DecidableEq

def Event.time {τ : Type} : Event τ → τ
  | .admitted time | .opened time | .succeeded time => time

/-- A breaker at some time, the calls in flight, and what happened so far, the last event
first. -/
structure Traffic (τ : Type) where
  breaker : Breaker τ
  now : τ
  inFlight : List Ticket := []
  past : List (Event τ) := []

/-- What may happen next. Time that goes back does not. -/
inductive Action (τ : Type) where
  | ask
  /-- The call at a place among those in flight ends. -/
  | finish (place : Nat) (ending : Ending)
  | wait (later : τ)

/-- A breaker that can be closed, and has seen too few failures to open while it is. -/
structure Sound {τ : Type} (b : Breaker τ) : Prop where
  positive : 1 ≤ b.threshold
  few : b.state = .closed → (b.failures : Int) < b.threshold

/-- When the breaker opened, as long as no call has succeeded since. -/
def coolingSince {τ : Type} : List (Event τ) → Option τ
  | [] => none
  | .admitted _ :: past => coolingSince past
  | .opened time :: _ => some time
  | .succeeded _ :: _ => none

/-! ### What the steps of a call keep -/

section Steps

variable {τ : Type} {b : Breaker τ}

theorem Sound.enter (h : b.Sound) : b.enter.1.Sound where
  positive := by
    rw [b.settings_enter.1]
    exact h.positive
  few := by
    by_cases shut : b.state = .closed
    · simpa [enter_of_closed shut] using h.few
    · simp [enter_of_not_closed shut]

theorem Sound.finish (h : b.Sound) (now : τ) (ticket : Ticket) (ending : Ending) :
    (b.finish now ticket ending).Sound where
  positive := by
    rw [(b.settings_finish now ticket ending).1]
    exact h.positive
  few := by
    rw [(b.settings_finish now ticket ending).1]
    cases ending with
    | success => exact fun _ => h.positive
    | other => exact h.few
    | failure =>
      simp only [Breaker.finish]
      split
      · simp
      · rename_i still
        exact fun _ => not_le.1 fun many => still (.inr many)

end Steps

namespace Traffic

variable {τ : Type} [Amount τ]

def ended (b : Breaker τ) (now : τ) (ticket : Ticket) (ending : Ending) : List (Event τ) :=
  if b.opens ticket ending then [.opened now]
  else if ending = .success then [.succeeded now]
  else []

/-- A call that is refused changes nothing, and neither does the end of one that is not in
flight. -/
def next (s : Traffic τ) : Action τ → Traffic τ
  | .ask => match s.breaker.start s.now with
    | some (breaker, ticket) =>
      { s with breaker, inFlight := s.inFlight ++ [ticket], past := .admitted s.now :: s.past }
    | none => s
  | .finish place ending => match s.inFlight[place]? with
    | some ticket =>
      { s with
        breaker := s.breaker.finish s.now ticket ending
        inFlight := s.inFlight.eraseIdx place
        past := ended s.breaker s.now ticket ending ++ s.past }
    | none => s
  | .wait later => { s with now := if Amount.less s.now later then later else s.now }

def run (s : Traffic τ) (actions : List (Action τ)) : Traffic τ := actions.foldl next s

/-- What every step of a call keeps holds of the breaker throughout. -/
theorem run_keeps {P : Breaker τ → Prop} (entered : ∀ b : Breaker τ, P b → P b.enter.1)
    (finished : ∀ (b : Breaker τ) now ticket ending, P b → P (b.finish now ticket ending))
    (actions : List (Action τ)) {s : Traffic τ} (start : P s.breaker) :
    P (s.run actions).breaker := by
  induction actions generalizing s with
  | nil => exact start
  | cons action actions ih =>
    apply ih
    cases action with
    | ask =>
      cases allowed : s.breaker.allows s.now with
      | true => simpa [next, Breaker.start, allowed] using entered _ start
      | false => simpa [next, Breaker.start, allowed] using start
    | finish place ending =>
      cases found : s.inFlight[place]? with
      | some ticket => simpa [next, found] using finished _ _ _ _ start
      | none => simpa [next, found] using start
    | wait later => exact start

theorem settings_run (s : Traffic τ) (actions : List (Action τ)) :
    (s.run actions).breaker.threshold = s.breaker.threshold ∧
      (s.run actions).breaker.recovery = s.breaker.recovery := by
  apply run_keeps (P := fun b =>
    b.threshold = s.breaker.threshold ∧ b.recovery = s.breaker.recovery)
  case entered =>
    intro b kept
    exact ⟨b.settings_enter.1.trans kept.1, b.settings_enter.2.trans kept.2⟩
  case finished =>
    intro b now ticket ending kept
    have settings := b.settings_finish now ticket ending
    exact ⟨settings.1.trans kept.1, settings.2.trans kept.2⟩
  case start => exact ⟨rfl, rfl⟩

/-- A call with no other in between is two actions, one after the other. -/
theorem breaker_run_call (s : Traffic τ) (ending : Ending) :
    (s.run [.ask, .finish s.inFlight.length ending]).breaker =
        (s.breaker.call ⟨s.now, s.now, ending⟩).2 ∧
      (s.run [.ask, .finish s.inFlight.length ending]).now = s.now := by
  cases allowed : s.breaker.allows s.now with
  | true =>
    rw [call_of_allows allowed]
    simp [run, next, Breaker.start, allowed]
  | false =>
    rw [call_of_refuses allowed]
    simp [run, next, Breaker.start, allowed]

theorem run_append (s : Traffic τ) (before later : List (Action τ)) :
    s.run (before ++ later) = (s.run before).run later :=
  List.foldl_append

theorem sound_run {s : Traffic τ} (start : s.breaker.Sound) (actions : List (Action τ)) :
    (s.run actions).breaker.Sound :=
  run_keeps (P := Sound) (fun _ => Sound.enter) (fun _ now ticket ending sound =>
    sound.finish now ticket ending) actions start

end Traffic

/-! ### The end of a call -/

section Ends

variable {τ : Type} {b : Breaker τ} {ticket : Ticket} {ending : Ending}

theorem opens_iff :
    b.opens ticket ending = true ↔
      ending = .failure ∧ (ticket.trial = true ∨ b.threshold ≤ (b.failures + 1 : Nat)) := by
  simp [opens]

/-- A breaker that a call opens stands open from then on. -/
theorem state_finish_of_opens (now : τ) (h : b.opens ticket ending = true) :
    (b.finish now ticket ending).state = .opened now := by
  obtain ⟨rfl, reason⟩ := opens_iff.1 h
  simp only [finish]
  rw [if_pos reason]

/-- A call that neither opens the breaker nor succeeds leaves it standing as it did. -/
theorem state_finish_of_not_opens (now : τ) (h : b.opens ticket ending = false)
    (failed : ending ≠ .success) :
    (b.finish now ticket ending).state = b.state := by
  cases ending with
  | success => exact absurd rfl failed
  | other => rfl
  | failure =>
    have unreasoned : ¬ (ticket.trial = true ∨ b.threshold ≤ (b.failures + 1 : Nat)) := by
      intro reason
      cases h.symm.trans (opens_iff.2 ⟨rfl, reason⟩)
    simp only [finish]
    rw [if_neg unreasoned]

theorem failures_finish (b : Breaker τ) (now : τ) (ticket : Ticket) :
    (b.finish now ticket .failure).failures = b.failures + 1 := by
  unfold finish
  dsimp only
  split
  · rfl
  · rfl

end Ends

/-! ### The past of a breaker, in exact time -/

/-- As long as no call succeeds, the breaker has to recover from when it opened, or later. -/
theorem coolingSince_of_opened {τ : Type} [LinearOrder τ] {opened : τ}
    {between before : List (Event τ)}
    (ordered : (between ++ .opened opened :: before).Pairwise fun e earlier =>
      earlier.time ≤ e.time)
    (quiet : ∀ time, .succeeded time ∉ between) :
    ∃ since, coolingSince (between ++ .opened opened :: before) = some since ∧ opened ≤ since := by
  induction between with
  | nil => exact ⟨opened, rfl, le_rfl⟩
  | cons e between ih =>
    obtain ⟨later, rest⟩ := List.pairwise_cons.1 ordered
    cases e with
    | admitted time => exact ih rest fun time found => quiet time (.tail _ found)
    | opened time => exact ⟨time, rfl, later (.opened opened) (by simp)⟩
    | succeeded time => exact absurd (.head _) (quiet time)

namespace Traffic

variable {τ : Type} [Field τ] [LinearOrder τ]

/-- No call was let in before the breaker had recovered, unless one had succeeded meanwhile. -/
def Guarded (recovery : τ) (past : List (Event τ)) : Prop :=
  ∀ later between before admitted opened,
    past = later ++ .admitted admitted :: (between ++ .opened opened :: before) →
      admitted < opened + recovery → ∃ time, .succeeded time ∈ between

/-- How a breaker stands is told from its past, in which no time goes back. -/
structure Tells (s : Traffic τ) : Prop where
  closed : s.breaker.state = .closed ↔ coolingSince s.past = none
  opened : ∀ since, s.breaker.state = .opened since → coolingSince s.past = some since
  halfOpen : s.breaker.state = .halfOpen →
    ∃ since, coolingSince s.past = some since ∧ since + s.breaker.recovery ≤ s.now
  elapsed : ∀ e ∈ s.past, e.time ≤ s.now
  ordered : s.past.Pairwise fun e earlier => earlier.time ≤ e.time

variable {s : Traffic τ} {past : List (Event τ)} {recovery : τ}

theorem guarded_cons {e : Event τ} (h : Guarded recovery past)
    (last : ∀ admitted between opened before, e = .admitted admitted →
      past = between ++ .opened opened :: before → admitted < opened + recovery →
        ∃ time, .succeeded time ∈ between) :
    Guarded recovery (e :: past) := by
  intro later between before admitted opened split early
  cases later with
  | nil =>
    obtain ⟨rfl, rest⟩ := List.cons.inj split
    exact last admitted between opened before rfl rest early
  | cons e' later =>
    obtain ⟨rfl, rest⟩ := List.cons.inj split
    exact h later between before admitted opened rest early

/-- What happens now comes after all that happened before. -/
theorem Tells.elapsed_cons (h : s.Tells) {e : Event τ} (here : e.time = s.now) :
    ∀ e' ∈ e :: s.past, e'.time ≤ s.now := by
  intro e' found
  obtain rfl | before := List.mem_cons.1 found
  · exact here.le
  · exact h.elapsed e' before

theorem Tells.ordered_cons (h : s.Tells) {e : Event τ} (here : e.time = s.now) :
    (e :: s.past).Pairwise fun e earlier => earlier.time ≤ e.time :=
  List.pairwise_cons.2 ⟨fun e' before => here ▸ h.elapsed e' before, h.ordered⟩

/-- The end of a call is told from the past as it is then. -/
theorem Tells.finish (h : s.Tells) (ticket : Ticket) (ending : Ending) (inFlight : List Ticket) :
    Tells { s with
      breaker := s.breaker.finish s.now ticket ending
      inFlight
      past := ended s.breaker s.now ticket ending ++ s.past } := by
  have settings := s.breaker.settings_finish s.now ticket ending
  cases opening : s.breaker.opens ticket ending with
  | true =>
    have state := state_finish_of_opens s.now opening
    simp only [ended, opening, if_true, List.singleton_append]
    constructor
    case closed => simp [state, coolingSince]
    case opened => simp [state, coolingSince]
    case halfOpen => simp [state]
    case elapsed => exact h.elapsed_cons rfl
    case ordered => exact h.ordered_cons rfl
  | false =>
    by_cases succeeded : ending = .success
    · subst succeeded
      simp only [ended, opening, Bool.false_eq_true, if_false, if_true, List.singleton_append]
      constructor
      case closed => simp [Breaker.finish, coolingSince]
      case opened => simp [Breaker.finish]
      case halfOpen => simp [Breaker.finish]
      case elapsed => exact h.elapsed_cons rfl
      case ordered => exact h.ordered_cons rfl
    · have state := state_finish_of_not_opens s.now opening succeeded
      simp only [ended, opening, Bool.false_eq_true, if_false, if_neg succeeded, List.nil_append]
      constructor
      case closed => exact state ▸ h.closed
      case opened => exact state ▸ h.opened
      case halfOpen =>
        intro trial
        rw [settings.2]
        exact h.halfOpen (state ▸ trial)
      case elapsed => exact h.elapsed
      case ordered => exact h.ordered

theorem Tells.wait (h : s.Tells) {later : τ} (order : s.now ≤ later) :
    Tells { s with now := later } where
  closed := h.closed
  opened := h.opened
  halfOpen := by
    intro trial
    obtain ⟨since, cooling, recovered⟩ := h.halfOpen trial
    exact ⟨since, cooling, recovered.trans order⟩
  elapsed := fun e before => (h.elapsed e before).trans order
  ordered := h.ordered

variable [IsStrictOrderedRing τ]

theorem allows_opened_iff {b : Breaker τ} {now since : τ} (h : b.state = .opened since) :
    b.allows now = true ↔ since + b.recovery ≤ now := by
  rw [allows_opened h, decide_eq_true_iff, le_sub_iff_add_le, add_comm]

/-- A breaker lets a call in unless it is still recovering. -/
theorem Tells.allows_iff (h : s.Tells) :
    s.breaker.allows s.now = true ↔
      ∀ since, coolingSince s.past = some since → since + s.breaker.recovery ≤ s.now := by
  cases state : s.breaker.state with
  | closed =>
    have calm := h.closed.1 state
    simp [allows, state, calm]
  | opened since =>
    simp [allows_opened_iff state, h.opened since state]
  | halfOpen =>
    obtain ⟨since, cooling, recovered⟩ := h.halfOpen state
    simp [allows, state, cooling, recovered]

/-- A call that is let in turns a breaker that has recovered half open. -/
theorem Tells.enter (h : s.Tells) (allowed : s.breaker.allows s.now = true)
    (inFlight : List Ticket) :
    Tells { s with
      breaker := s.breaker.enter.1
      inFlight
      past := .admitted s.now :: s.past } := by
  by_cases shut : s.breaker.state = .closed
  · rw [enter_of_closed shut]
    exact ⟨h.closed, h.opened, h.halfOpen, h.elapsed_cons rfl, h.ordered_cons rfl⟩
  · obtain ⟨since, cooling⟩ := Option.ne_none_iff_exists'.1 fun calm => shut (h.closed.2 calm)
    have recovered := h.allows_iff.1 allowed since cooling
    rw [enter_of_not_closed shut]
    constructor
    case closed => simp [coolingSince, cooling]
    case opened => simp
    case halfOpen => exact fun _ => ⟨since, cooling, recovered⟩
    case elapsed => exact h.elapsed_cons rfl
    case ordered => exact h.ordered_cons rfl

/-- A call that is let in keeps the past guarded. -/
theorem Tells.guarded_enter (h : s.Tells) (allowed : s.breaker.allows s.now = true)
    (guarded : Guarded s.breaker.recovery s.past) :
    Guarded s.breaker.recovery (.admitted s.now :: s.past) := by
  refine guarded_cons guarded ?_
  rintro _ between opened before ⟨⟩ past early
  by_contra quiet
  obtain ⟨since, cooling, later⟩ := coolingSince_of_opened (past ▸ h.ordered)
    fun time found => quiet ⟨time, found⟩
  have recovered := h.allows_iff.1 allowed since (past ▸ cooling)
  exact absurd early (not_lt.2 ((add_le_add_left later _).trans recovered))

/-- Whatever happens next, how a breaker stands is told from its past, and that is guarded. -/
theorem Tells.next (h : s.Tells) (guarded : Guarded s.breaker.recovery s.past)
    (action : Action τ) :
    (s.next action).Tells ∧ Guarded (s.next action).breaker.recovery (s.next action).past := by
  cases action with
  | ask =>
    cases allowed : s.breaker.allows s.now with
    | true =>
      have entered := h.enter allowed (s.inFlight ++ [s.breaker.enter.2])
      simp only [Traffic.next, Breaker.start, allowed, if_true]
      refine ⟨entered, ?_⟩
      rw [s.breaker.settings_enter.2]
      exact h.guarded_enter allowed guarded
    | false =>
      simp only [Traffic.next, Breaker.start, allowed, Bool.false_eq_true, if_false]
      exact ⟨h, guarded⟩
  | finish place ending =>
    cases found : s.inFlight[place]? with
    | some ticket =>
      simp only [Traffic.next, found]
      refine ⟨h.finish ticket ending _, ?_⟩
      rw [(s.breaker.settings_finish s.now ticket ending).2]
      unfold ended
      split
      · exact guarded_cons guarded (by simp)
      · split
        · exact guarded_cons guarded (by simp)
        · exact guarded
    | none =>
      simp only [Traffic.next, found]
      exact ⟨h, guarded⟩
  | wait later =>
    refine ⟨h.wait ?_, guarded⟩
    split
    · rename_i forward
      exact (of_decide_eq_true forward).le
    · exact le_rfl

theorem Tells.run (h : s.Tells) (guarded : Guarded s.breaker.recovery s.past)
    (actions : List (Action τ)) :
    (s.run actions).Tells ∧ Guarded (s.run actions).breaker.recovery (s.run actions).past := by
  induction actions generalizing s with
  | nil => exact ⟨h, guarded⟩
  | cons action actions ih =>
    obtain ⟨tells, still⟩ := h.next guarded action
    exact ih tells still

def quiet (threshold : Int) (recovery start : τ) : Traffic τ :=
  { breaker := { threshold, recovery }, now := start }

/-- How a breaker keeps calls out after it opened: until it has recovered, unless a call
succeeds first. -/
structure KeepsOut (s : Traffic τ) : Prop where
  admits : s.breaker.allows s.now = true ↔
    ∀ since, coolingSince s.past = some since → since + s.breaker.recovery ≤ s.now
  guarded : Guarded s.breaker.recovery s.past

/-- However calls overlap, a breaker keeps them out until it has recovered, unless a call
succeeds first. -/
theorem run_keepsOut (threshold : Int) (recovery start : τ) (actions : List (Action τ)) :
    ((quiet threshold recovery start).run actions).KeepsOut := by
  have tells : (quiet threshold recovery start).Tells := by
    constructor <;> simp [quiet, coolingSince]
  obtain ⟨told, guarded⟩ := tells.run (by simp [Guarded, quiet]) actions
  exact ⟨told.allows_iff, guarded⟩

/-- A call fails and opens the breaker, and nine units of time pass. -/
def early : Traffic ℚ := (quiet 1 10 0).run [.ask, .finish 0 .failure, .wait 9]

theorem run_keepsOut_early : early.KeepsOut ∧ early.breaker.allows early.now = false := by
  have keeps : early.KeepsOut := run_keepsOut 1 10 0 _
  have cooling : coolingSince early.past = some 0 := by
    decide +kernel
  refine ⟨keeps, Bool.eq_false_iff.2 fun allowed => ?_⟩
  have recovered := keeps.admits.1 allowed 0 cooling
  revert recovered
  decide +kernel

/-- Two calls are let in. The first one fails and opens the breaker, the second one succeeds,
and a third one is let in before any time has passed. -/
def lateSuccess : List (Action ℚ) :=
  [.ask, .ask, .finish 0 .failure, .finish 0 .success, .ask]

theorem not_coolDown_lateSuccess :
    ¬ ∀ later between before admitted opened,
      ((quiet 1 (10 : ℚ) 0).run lateSuccess).past =
          later ++ .admitted admitted :: (between ++ .opened opened :: before) →
        opened + 10 ≤ admitted := by
  intro cools
  have past : ((quiet 1 (10 : ℚ) 0).run lateSuccess).past =
      [] ++ .admitted 0 :: ([.succeeded 0] ++ .opened 0 :: [.admitted 0, .admitted 0]) := by
    decide +kernel
  have late : (0 : ℚ) + 10 ≤ 0 := cools _ _ _ _ _ past
  revert late
  decide +kernel

end Traffic
end PageSkins.Breaker
