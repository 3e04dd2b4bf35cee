import Mathlib.Algebra.Order.Field.Basic
import Mathlib.Algebra.Order.Ring.Rat
import Mathlib.Algebra.Field.Rat
import PageSkins.Breaker
import PageSkins.Failure
import PageSkins.Proofs.ExactAmount

/-!
# What a breaker remembers

A breaker keeps a state, a count and a time. Over calls that come one after another
these say no more and no less than the calls that ran: how many failures there were
since the last success, and when the last one was. Whether a call is let through is
told from that history alone. Calls in flight at the same time are not treated here.
-/

namespace PageSkins.Breaker

/-- A call by itself: when it asks to be let through, when what it runs ends, and how. -/
structure Call (τ : Type) where
  started : τ
  finished : τ
  ending : Ending
deriving DecidableEq

variable {τ : Type}

/-- A whole call with no other in between. A call that is refused runs nothing. -/
def call [Amount τ] (b : Breaker τ) (c : Call τ) : Except Failure Ending × Breaker τ :=
  match b.start c.started with
  | some (entered, ticket) => (.ok c.ending, entered.finish c.finished ticket c.ending)
  | none => (.error (.breakerOpen b.failures), b)

def after [Amount τ] (b : Breaker τ) : List (Call τ) → Breaker τ
  | [] => b
  | c :: past => ((after b past).call c).2

/-- Those of some calls that were let through, the last one first. -/
def ran [Amount τ] (b : Breaker τ) : List (Call τ) → List (Call τ)
  | [] => []
  | c :: past => match ((after b past).call c).1 with
    | .ok _ => c :: ran b past
    | .error _ => ran b past

/-- How many of some calls failed since the last success. -/
def failuresSince : List (Call τ) → Nat
  | [] => 0
  | c :: past => match c.ending with
    | .success => 0
    | .failure => failuresSince past + 1
    | .other => failuresSince past

def lastFailure (calls : List (Call τ)) : Option τ :=
  (calls.find? fun c => c.ending = .failure).map Call.finished

def InOrder [LE τ] (calls : List (Call τ)) : Prop :=
  (calls.flatMap fun c => [c.finished, c.started]).Pairwise (· ≥ ·)

/-! ### One call -/

section Call

variable {b : Breaker τ}

theorem enter_of_closed (h : b.state = .closed) : b.enter = (b, ⟨false⟩) := by
  simp [enter, h]

/-- A breaker that is not closed lets a call through as a trial only. -/
theorem enter_of_not_closed (h : b.state ≠ .closed) :
    b.enter = ({ b with state := .halfOpen }, ⟨true⟩) := by
  obtain ⟨threshold, recovery, state, failures⟩ := b
  cases state with
  | closed => exact absurd rfl h
  | opened since => rfl
  | halfOpen => rfl

theorem settings_enter (b : Breaker τ) :
    b.enter.1.threshold = b.threshold ∧ b.enter.1.recovery = b.recovery := by
  by_cases shut : b.state = .closed
  · simp [enter_of_closed shut]
  · simp [enter_of_not_closed shut]

theorem settings_finish (b : Breaker τ) (now : τ) (ticket : Ticket) (ending : Ending) :
    (b.finish now ticket ending).threshold = b.threshold ∧
      (b.finish now ticket ending).recovery = b.recovery := by
  cases ending with
  | success => exact ⟨rfl, rfl⟩
  | other => exact ⟨rfl, rfl⟩
  | failure =>
    unfold finish
    dsimp only
    split
    · exact ⟨rfl, rfl⟩
    · exact ⟨rfl, rfl⟩

variable [Amount τ] {c : Call τ}

theorem call_of_allows (h : b.allows c.started = true) :
    b.call c = (.ok c.ending, b.enter.1.finish c.finished b.enter.2 c.ending) := by
  simp [call, start, h]

theorem call_of_refuses (h : b.allows c.started = false) :
    b.call c = (.error (.breakerOpen b.failures), b) := by
  simp [call, start, h]

theorem settings_call :
    (b.call c).2.threshold = b.threshold ∧ (b.call c).2.recovery = b.recovery := by
  cases allowed : b.allows c.started with
  | false => simp [call_of_refuses allowed]
  | true =>
    rw [call_of_allows allowed]
    obtain ⟨finished_threshold, finished_recovery⟩ :=
      b.enter.1.settings_finish c.finished b.enter.2 c.ending
    obtain ⟨entered_threshold, entered_recovery⟩ := b.settings_enter
    exact ⟨finished_threshold.trans entered_threshold, finished_recovery.trans entered_recovery⟩

end Call

/-! ### The history of the calls that ran -/

section History

variable {c : Call τ} {past : List (Call τ)}

theorem failuresSince_success (h : c.ending = .success) : failuresSince (c :: past) = 0 := by
  simp [failuresSince, h]

theorem failuresSince_failure (h : c.ending = .failure) :
    failuresSince (c :: past) = failuresSince past + 1 := by
  simp [failuresSince, h]

theorem failuresSince_other (h : c.ending = .other) :
    failuresSince (c :: past) = failuresSince past := by
  simp [failuresSince, h]

theorem lastFailure_failure (h : c.ending = .failure) :
    lastFailure (c :: past) = some c.finished := by
  simp [lastFailure, h]

theorem lastFailure_other (h : c.ending ≠ .failure) :
    lastFailure (c :: past) = lastFailure past := by
  simp [lastFailure, h]

/-- A call at the end of a run starts after all that came before, and ends after it started. -/
theorem inOrder_cons [Preorder τ] (h : InOrder (c :: past)) :
    c.started ≤ c.finished ∧ (∀ d ∈ past, d.finished ≤ c.started) ∧ InOrder past := by
  simp only [InOrder, List.flatMap_cons, List.cons_append, List.nil_append, List.pairwise_cons,
    List.mem_cons, List.mem_flatMap] at h
  obtain ⟨fromFinished, fromStarted, order⟩ := h
  refine ⟨fromFinished _ (.inl rfl), fun d earlier => fromStarted _ ?_, order⟩
  exact ⟨d, earlier, by simp⟩

/-- A run is over at some time. -/
theorem exists_end [Preorder τ] [Nonempty τ] (h : InOrder past) :
    ∃ now, ∀ c ∈ past, c.finished ≤ now := by
  cases past with
  | nil =>
    obtain ⟨now⟩ := ‹Nonempty τ›
    exact ⟨now, by simp⟩
  | cons c past =>
    obtain ⟨forward, earlier, -⟩ := inOrder_cons h
    refine ⟨c.finished, fun d done => ?_⟩
    obtain rfl | before := List.mem_cons.1 done
    · exact le_rfl
    · exact (earlier d before).trans forward

end History

/-! ### Runs of calls -/

section Runs

variable [Amount τ] {b : Breaker τ} {c : Call τ} {past : List (Call τ)}

theorem settings_after (b : Breaker τ) (past : List (Call τ)) :
    (after b past).threshold = b.threshold ∧ (after b past).recovery = b.recovery := by
  induction past with
  | nil => exact ⟨rfl, rfl⟩
  | cons c past ih =>
    have kept := (after b past).settings_call (c := c)
    exact ⟨kept.1.trans ih.1, kept.2.trans ih.2⟩

theorem ran_of_allows (h : (after b past).allows c.started = true) :
    ran b (c :: past) = c :: ran b past := by
  simp [ran, call_of_allows h]

/-- A call that is refused leaves no trace. -/
theorem ran_of_refuses (h : (after b past).allows c.started = false) :
    ran b (c :: past) = ran b past ∧ after b (c :: past) = after b past := by
  simp [ran, after, call_of_refuses h]

end Runs

/-! ### What a breaker remembers, in exact time -/

variable [Field τ] [LinearOrder τ]

/-- A call is due: there were too few failures, or the last one is long enough ago. -/
def Due (b : Breaker τ) (calls : List (Call τ)) (now : τ) : Prop :=
  (failuresSince calls : Int) < b.threshold ∨
    ∃ since, lastFailure calls = some since ∧ b.recovery ≤ now - since

/-- A breaker remembers the calls that ran up to a time. -/
structure Remembers (b : Breaker τ) (calls : List (Call τ)) (now : τ) : Prop where
  failures : b.failures = failuresSince calls
  closed : b.state = .closed ↔ (failuresSince calls : Int) < b.threshold
  opened : ∀ since, b.state = .opened since → lastFailure calls = some since
  halfOpen : b.state = .halfOpen →
    ∃ since, lastFailure calls = some since ∧ b.recovery ≤ now - since

variable {b : Breaker τ} {calls : List (Call τ)} {now later : τ} {c : Call τ}

theorem allows_opened {since : τ} (h : b.state = .opened since) :
    b.allows now = decide (b.recovery ≤ now - since) := by
  simp only [allows, h]
  rfl

/-- A closed breaker remembers failures that are too few to open it. -/
theorem remembers_closed (shut : b.state = .closed) (failures : b.failures = failuresSince calls)
    (few : (failuresSince calls : Int) < b.threshold) : b.Remembers calls now where
  failures := failures
  closed := ⟨fun _ => few, fun _ => shut⟩
  opened := by
    intro since away
    cases shut.symm.trans away
  halfOpen := by
    intro away
    cases shut.symm.trans away

/-- A success leaves nothing to remember. -/
theorem remembers_success (ended : τ) (ticket : Ticket) (positive : 1 ≤ b.threshold)
    (h : c.ending = .success) : (b.finish ended ticket .success).Remembers (c :: calls) now := by
  have none_since : failuresSince (c :: calls) = 0 := failuresSince_success h
  apply remembers_closed rfl
  · rw [none_since]
    rfl
  · rw [none_since]
    exact positive

/-- A breaker that opens remembers the failure that opened it. -/
theorem remembers_opened (away : b.state = .opened c.finished)
    (failures : b.failures = failuresSince calls + 1) (many : b.threshold ≤ b.failures)
    (h : c.ending = .failure) : b.Remembers (c :: calls) now where
  failures := by
    rw [failuresSince_failure h, failures]
  closed := by
    rw [failuresSince_failure h, ← failures, away]
    simp only [reduceCtorEq, false_iff]
    omega
  opened := by
    intro since open'
    cases away.symm.trans open'
    exact lastFailure_failure h
  halfOpen := by
    intro trial
    cases away.symm.trans trial

/-- A closed breaker remembers the next call: one failure more may open it. -/
theorem Remembers.call_closed (h : b.Remembers calls now) (positive : 1 ≤ b.threshold)
    (shut : b.state = .closed) (ticket : Ticket) (usual : ticket.trial = false) :
    (b.finish c.finished ticket c.ending).Remembers (c :: calls) c.finished := by
  have failures := h.failures
  have few := h.closed.1 shut
  cases ending : c.ending with
  | success => exact remembers_success c.finished ticket positive ending
  | failure =>
    simp only [finish, usual, Bool.false_eq_true, false_or]
    split
    · rename_i many
      exact remembers_opened rfl (congrArg (· + 1) failures) many ending
    · rename_i still
      have counted : failuresSince (c :: calls) = b.failures + 1 := by
        rw [failuresSince_failure ending, failures]
      refine remembers_closed (b := { b with failures := b.failures + 1 }) shut counted.symm ?_
      rw [counted]
      exact not_le.1 still
  | other =>
    rw [← failuresSince_other ending] at failures few
    exact remembers_closed shut failures few

variable [IsStrictOrderedRing τ]

/-- A trial that is due stays due. -/
theorem recovered_mono {since : τ} (h : b.recovery ≤ now - since) (order : now ≤ later) :
    b.recovery ≤ later - since :=
  h.trans (sub_le_sub_right order since)

theorem Remembers.mono (h : b.Remembers calls now) (order : now ≤ later) :
    b.Remembers calls later where
  failures := h.failures
  closed := h.closed
  opened := h.opened
  halfOpen := by
    intro trial
    obtain ⟨since, last, recovered⟩ := h.halfOpen trial
    exact ⟨since, last, recovered_mono recovered order⟩

/-- What a breaker lets through is what is due by the history. -/
theorem Remembers.allows_iff (h : b.Remembers calls now) (order : now ≤ later) :
    b.allows later = true ↔ b.Due calls later := by
  cases state : b.state with
  | closed =>
    have few := h.closed.1 state
    simp [allows, state, Due, few]
  | opened since =>
    have many : ¬ (failuresSince calls : Int) < b.threshold := by
      intro few
      cases state.symm.trans (h.closed.2 few)
    simp [allows_opened state, Due, many, h.opened since state]
  | halfOpen =>
    obtain ⟨since, last, recovered⟩ := h.halfOpen state
    have due : b.Due calls later := .inr ⟨since, last, recovered_mono recovered order⟩
    simp [allows, state, due]

/-- A breaker in a trial that was due remembers it. A trial that is neither a success nor a
failure leaves the breaker half open, and the next call is a trial again. -/
theorem Remembers.call_trial (h : b.Remembers calls now) (positive : 1 ≤ b.threshold)
    (away : b.state = .halfOpen) (ticket : Ticket) (trial : ticket.trial = true)
    (forward : now ≤ c.finished) :
    (b.finish c.finished ticket c.ending).Remembers (c :: calls) c.finished := by
  have failures := h.failures
  have many : ¬ (failuresSince calls : Int) < b.threshold := by
    intro few
    cases away.symm.trans (h.closed.2 few)
  cases ending : c.ending with
  | success => exact remembers_success c.finished ticket positive ending
  | failure =>
    simp only [finish, trial, true_or, if_true]
    refine remembers_opened rfl (congrArg (· + 1) failures) ?_ ending
    dsimp only
    omega
  | other =>
    rw [← failuresSince_other ending] at failures many
    constructor
    case failures => exact failures
    case closed => simp [finish, away, many]
    case opened =>
      intro since open'
      cases away.symm.trans open'
    case halfOpen =>
      intro _
      obtain ⟨since, last, recovered⟩ := h.halfOpen away
      rw [← lastFailure_other (c := c) (by simp [ending])] at last
      exact ⟨since, last, recovered_mono recovered forward⟩

/-- A breaker that lets a trial through remembers the same. -/
theorem Remembers.halfOpened (h : b.Remembers calls now) (away : b.state ≠ .closed)
    (order : now ≤ later) (allowed : b.allows later = true) :
    Remembers { b with state := .halfOpen } calls later := by
  have many : ¬ (failuresSince calls : Int) < b.threshold := fun few => away (h.closed.2 few)
  constructor
  case failures => exact h.failures
  case closed => simp [many]
  case opened =>
    rintro since ⟨⟩
  case halfOpen =>
    intro _
    exact ((h.allows_iff order).1 allowed).resolve_left many

/-- Once a call that was let through has ended, the breaker remembers it too. -/
theorem Remembers.call (h : b.Remembers calls now) (positive : 1 ≤ b.threshold)
    (order : now ≤ c.started) (forward : c.started ≤ c.finished)
    (allowed : b.allows c.started = true) :
    (b.call c).2.Remembers (c :: calls) c.finished := by
  rw [call_of_allows allowed]
  by_cases shut : b.state = .closed
  · rw [enter_of_closed shut]
    exact h.call_closed positive shut ⟨false⟩ rfl
  · rw [enter_of_not_closed shut]
    exact (h.halfOpened shut order allowed).call_trial positive rfl ⟨true⟩ rfl forward

/-- After calls that came one after another a new breaker remembers those that ran. -/
theorem remembers_after {threshold : Int} (recovery : τ) (positive : 1 ≤ threshold)
    {past : List (Call τ)} (order : InOrder past) (ended : ∀ c ∈ past, c.finished ≤ now) :
    (after { threshold, recovery } past).Remembers (ran { threshold, recovery } past) now := by
  induction past generalizing now with
  | nil =>
    apply remembers_closed rfl rfl
    exact positive
  | cons c past ih =>
    obtain ⟨forward, earlier, before⟩ := inOrder_cons order
    have past_end : c.finished ≤ now := ended c List.mem_cons_self
    cases allowed : (after { threshold, recovery } past).allows c.started with
    | true =>
      rw [ran_of_allows allowed]
      have kept := (settings_after { threshold, recovery } past).1
      have remembered := (ih before earlier).call (kept ▸ positive) le_rfl forward allowed
      exact remembered.mono past_end
    | false =>
      obtain ⟨ran_eq, after_eq⟩ := ran_of_refuses allowed
      rw [ran_eq, after_eq]
      exact (ih before earlier).mono (forward.trans past_end)

/-- What a breaker does after some calls is told from the calls that ran: how often they failed
since the last success, and when they failed last. -/
structure FollowsHistory (b : Breaker τ) (past : List (Call τ)) : Prop where
  failures : (after b past).failures = failuresSince (ran b past)
  closed : (after b past).state = .closed ↔ (failuresSince (ran b past) : Int) < b.threshold
  runs : ∀ c : Call τ, InOrder (c :: past) →
    (((after b past).call c).1 = .ok c.ending ↔ b.Due (ran b past) c.started)
  refuses : ∀ c : Call τ, InOrder (c :: past) → ¬ b.Due (ran b past) c.started →
    (after b past).call c = (.error (.breakerOpen (failuresSince (ran b past))), after b past)

/-- A breaker that opens after one failure or more follows the history of its calls. -/
theorem after_followsHistory {threshold : Int} {recovery : τ} (positive : 1 ≤ threshold)
    {past : List (Call τ)} (order : InOrder past) :
    FollowsHistory { threshold, recovery } past := by
  obtain ⟨threshold_eq, recovery_eq⟩ := settings_after { threshold, recovery } past
  have allows_iff : ∀ c : Call τ, InOrder (c :: past) →
      ((after { threshold, recovery } past).allows c.started = true ↔
        Due { threshold, recovery } (ran { threshold, recovery } past) c.started) := by
    intro c next
    have remembered := remembers_after recovery positive order (inOrder_cons next).2.1
    rw [remembered.allows_iff le_rfl, Due, Due, threshold_eq, recovery_eq]
  obtain ⟨now, ended⟩ := exists_end order
  have remembered := remembers_after recovery positive order ended
  constructor
  case failures =>
    exact remembered.failures
  case closed =>
    rw [remembered.closed, threshold_eq]
  case runs =>
    intro c next
    rw [← allows_iff c next]
    cases allowed : (after { threshold, recovery } past).allows c.started with
    | true => simp [call_of_allows allowed]
    | false => simp [call_of_refuses allowed]
  case refuses =>
    intro c next notDue
    have refused := Bool.eq_false_iff.2 (mt (allows_iff c next).1 notDue)
    rw [call_of_refuses refused, remembered.failures]

def cautious : Breaker ℚ := { threshold := 2, recovery := 60 }

/-- Two failures with something else in between, a call too early, a trial that is neither a
success nor a failure, and a trial that fails. -/
def relapse : List (Call ℚ) :=
  [⟨67, 68, .failure⟩, ⟨65, 66, .other⟩, ⟨10, 10, .success⟩, ⟨4, 5, .failure⟩, ⟨2, 3, .other⟩,
    ⟨0, 1, .failure⟩]

theorem after_followsHistory_relapse :
    (1 : Int) ≤ 2 ∧ InOrder relapse ∧ FollowsHistory cautious relapse ∧
      (after cautious relapse).failures = 3 ∧
      (after cautious relapse).call ⟨127, 128, .success⟩ =
        (.error (.breakerOpen 3), after cautious relapse) ∧
      ((after cautious relapse).call ⟨128, 129, .success⟩).1 = .ok .success := by
  have order : InOrder (⟨128, 129, .success⟩ :: relapse) ∧
      InOrder (⟨127, 128, .success⟩ :: relapse) := by
    unfold InOrder
    decide +kernel
  have follows : FollowsHistory cautious relapse :=
    after_followsHistory (by decide) (inOrder_cons order.1).2.2
  have failures : failuresSince (ran cautious relapse) = 3 := by
    decide +kernel
  have last : lastFailure (ran cautious relapse) = some 68 := by
    decide +kernel
  have early : ¬ cautious.Due (ran cautious relapse) 127 := by
    rw [Due, failures, last]
    rintro (few | ⟨_, ⟨⟩, recovered⟩)
    · revert few
      decide
    · revert recovered
      decide +kernel
  have due : cautious.Due (ran cautious relapse) 128 := .inr ⟨68, last, by decide +kernel⟩
  refine ⟨by decide, (inOrder_cons order.1).2.2, follows, follows.failures.trans failures, ?_, ?_⟩
  · exact failures ▸ follows.refuses _ order.2 early
  · exact (follows.runs _ order.1).2 due

end PageSkins.Breaker
