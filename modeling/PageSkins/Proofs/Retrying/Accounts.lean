import Mathlib.Algebra.Order.Ring.Rat
import Mathlib.Algebra.Field.Rat
import Mathlib.Algebra.BigOperators.Group.List.Basic
import PageSkins.Failure
import PageSkins.Proofs.ExactAmount
import PageSkins.Proofs.Retrying

/-!
# The accounts of repeated attempts

After any calls, each a run of attempts, the counts say how many calls there were, how many
of them succeeded and failed, and how often there was a wait. The total of the delays is
short of what was waited: a run that ends with a failure that another attempt would not
mend leaves its delays out.
-/

namespace PageSkins.Retry

variable {τ σ ε α : Type}

/-- A call: what it attempts, what is asked about its failures, and the random numbers for its
delays. -/
structure Task (τ σ ε α : Type) where
  act : σ → Except ε α × σ
  judge : Judge ε
  draws : Nat → τ

/-- The runs of some calls, one after another. Each finds the state that the one before left. -/
def runs [Amount τ] (r : Retry τ) : List (Task τ σ ε α) → σ → List (Run τ ε α)
  | [], _ => []
  | task :: tasks, s =>
    let (run, s) := r.executeWith task.draws task.judge task.act s
    run :: runs r tasks s

def counted [Amount τ] (runs : List (Run τ ε α)) : Metrics τ := runs.foldl Metrics.count .empty

namespace Run

def succeeded (run : Run τ ε α) : Bool := run.outcome matches .done _

/-- The run ended with a failure that another attempt would not mend. -/
def cutShort (run : Run τ ε α) : Bool := run.outcome matches .failed _

def overran (run : Run τ ε α) : Bool := run.outcome matches .overrun _

end Run

def waits (runs : List (Run τ ε α)) : List τ := runs.flatMap Run.delays

theorem waits_append_run (runs : List (Run τ ε α)) (run : Run τ ε α) :
    waits (runs ++ [run]) = waits runs ++ run.delays := by
  simp [waits]

variable [Field τ] [LinearOrder τ]

/-- The books of some calls balance, apart from the delays of the runs that were cut short. -/
structure Balanced (calls : Nat) (runs : List (Run τ ε α)) (m : Metrics τ) : Prop where
  total : m.runs = calls
  ended : m.runs = m.successes + m.failures
  successes : m.successes = runs.countP Run.succeeded
  retries : m.retries = (waits runs).length
  delays : m.totalDelay + (waits (runs.filter Run.cutShort)).sum = (waits runs).sum

/-! ### One run -/

theorem sum_eq (start : τ) (ds : List τ) : sum start ds = start + ds.sum := by
  induction ds generalizing start with
  | nil => simp [sum]
  | cons d ds ih =>
    calc sum start (d :: ds) = sum (start + d) ds := rfl
      _ = start + d + ds.sum := ih _
      _ = start + (d :: ds).sum := by rw [List.sum_cons, add_assoc]

/-- In exact arithmetic there is a delay after every attempt. -/
theorem delay_ne_error (r : Retry τ) (random : τ) (attempt : Nat) (hint : Option Int)
    (o : Decimal.Overrun) : r.delay random attempt hint ≠ .error o := by
  have powers : Amount.power r.factor attempt = .ok (r.factor ^ (attempt : Int)) := by
    simp [Amount.power]
  unfold delay
  split
  · rintro ⟨⟩
  · rw [powers]
    dsimp only [Amount.mul, Amount.add, bind, Except.bind]
    split
    · rintro ⟨⟩
    · rintro ⟨⟩

theorem not_overran_executeWith (r : Retry τ) (task : Task τ σ ε α) (s : σ) :
    (r.executeWith task.draws task.judge task.act s).1.overran = false := by
  have arises : Arises r task.draws task.judge task.act _ := executeWith_arises s
  revert arises
  rw [Run.overran]
  cases (r.executeWith task.draws task.judge task.act s).1.outcome with
  | done a => exact fun _ => rfl
  | failed e => exact fun _ => rfl
  | exhausted last => exact fun _ => rfl
  | overrun o =>
    rintro (_ | _ | _ | _ | ⟨-, -, -, late⟩)
    exact absurd late (delay_ne_error _ _ _ _ _)

/-! ### Counting a run -/

section Count

variable (m : Metrics τ) (run : Run τ ε α)

theorem count_runs : (m.count run).runs = m.runs + 1 := by
  obtain ⟨outcome, ds⟩ := run
  cases outcome <;> rfl

theorem count_retries : (m.count run).retries = m.retries + run.delays.length := by
  obtain ⟨outcome, ds⟩ := run
  cases outcome <;> rfl

theorem count_successes :
    (m.count run).successes = m.successes + if run.succeeded then 1 else 0 := by
  obtain ⟨outcome, ds⟩ := run
  cases outcome <;> rfl

variable {run}

theorem count_failures (ended : run.overran = false) :
    (m.count run).failures = m.failures + if run.succeeded then 0 else 1 := by
  obtain ⟨outcome, ds⟩ := run
  cases outcome with
  | overrun o => cases ended
  | _ => rfl

/-- A run that was cut short leaves its delays out. -/
theorem count_totalDelay (ended : run.overran = false) :
    (m.count run).totalDelay = m.totalDelay + if run.cutShort then 0 else run.delays.sum := by
  have zero : (Amount.zero : τ) = 0 := rfl
  have added : sum m.totalDelay [sum Amount.zero run.delays] = m.totalDelay + run.delays.sum := by
    simp [sum_eq, zero]
  obtain ⟨outcome, ds⟩ := run
  cases outcome with
  | done a => exact added
  | exhausted last => exact added
  | failed e => exact (add_zero _).symm
  | overrun o => cases ended

end Count

/-! ### The books of some calls -/

theorem balanced_nil : Balanced 0 ([] : List (Run τ ε α)) Metrics.empty := by
  constructor
  case total => rfl
  case ended => rfl
  case successes => rfl
  case retries => rfl
  case delays => exact add_zero 0

/-- Books that balance do so after another run that came to an end. -/
theorem Balanced.count {calls : Nat} {before : List (Run τ ε α)} {m : Metrics τ}
    (h : Balanced calls before m) {run : Run τ ε α} (ended : run.overran = false) :
    Balanced (calls + 1) (before ++ [run]) (m.count run) := by
  constructor
  case total => rw [count_runs, h.total]
  case ended =>
    rw [count_runs, count_successes, count_failures m ended, h.ended]
    split <;> omega
  case successes =>
    rw [count_successes, h.successes, List.countP_append, List.countP_singleton]
  case retries =>
    rw [count_retries, h.retries, waits_append_run, List.length_append]
  case delays =>
    rw [count_totalDelay m ended, waits_append_run, List.sum_append, ← h.delays,
      List.filter_append]
    cases short : run.cutShort with
    | true => simp [short, waits, add_assoc]
    | false => simp [short, waits, add_right_comm]

theorem balanced_from (r : Retry τ) (tasks : List (Task τ σ ε α)) (s : σ) {calls : Nat}
    {before : List (Run τ ε α)} {m : Metrics τ} (h : Balanced calls before m) :
    Balanced (calls + tasks.length) (before ++ runs r tasks s)
      ((runs r tasks s).foldl Metrics.count m) := by
  induction tasks generalizing s calls before m with
  | nil => simpa [runs] using h
  | cons task tasks ih =>
    have counted := ih (r.executeWith task.draws task.judge task.act s).2
      (h.count (not_overran_executeWith r task s))
    simpa [runs, add_assoc, add_comm 1] using counted

/-- The counts after any calls balance, whatever they attempted and however they ended, and the
total of the delays is what was waited if and only if the runs that were cut short waited for
nothing. -/
theorem balanced_runs (r : Retry τ) (tasks : List (Task τ σ ε α)) (s : σ) :
    Balanced tasks.length (runs r tasks s) (counted (runs r tasks s)) ∧
      ((counted (runs r tasks s)).totalDelay = (waits (runs r tasks s)).sum ↔
        (waits ((runs r tasks s).filter Run.cutShort)).sum = 0) := by
  have balanced : Balanced tasks.length (runs r tasks s) (counted (runs r tasks s)) := by
    have from_start := balanced_from r tasks s balanced_nil
    rwa [Nat.zero_add, List.nil_append] at from_start
  refine ⟨balanced, ?_⟩
  rw [← balanced.delays]
  exact left_eq_add

def patient : Retry ℚ :=
  { retries := 3, baseDelay := 1 / 2, maxDelay := 30, factor := 2, jitter := false }

def missing : Task ℚ Nat Failure Unit where
  act
    | 0 => (.error (.network .timeout "slow"), 1)
    | n => (.error (.api { kind := .notFound, message := .text "missing" }), n)
  judge := ⟨Failure.isRetryable, Failure.retryAfter⟩
  draws _ := 0

theorem not_totalDelay_missing :
    (waits (runs patient [missing] 0)).sum = 1 / 2 ∧
      (counted (runs patient [missing] 0)).totalDelay ≠ (waits (runs patient [missing] 0)).sum := by
  decide +kernel

end PageSkins.Retry
