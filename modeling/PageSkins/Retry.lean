import PageSkins.Decimal.Number
import PageSkins.Value

/-!
# Repeated attempts

After a failure that may pass the next attempt waits, longer each time, up to a longest
delay; a failure can say itself how long. Times are of any kind of number.
-/

namespace PageSkins

open PageSkins.Decimal

/-- Numbers that time is counted in. An operation fails where a number would be too large. -/
class Amount (τ : Type) where
  ofInt : Int → Except Overrun τ
  zero : τ
  add : τ → τ → Except Overrun τ
  sub : τ → τ → Except Overrun τ
  mul : τ → τ → Except Overrun τ
  power : τ → Int → Except Overrun τ
  /-- Whether the first is less than the second. -/
  less : τ → τ → Bool
  /-- Whether the first is at most the second. -/
  atMost : τ → τ → Bool

/-- Whole seconds given by a failure are a double, and so is the start of all sums. -/
instance : Amount Number where
  ofInt n := do return .float (← Number.double? n)
  zero := .float 0.0
  add := Number.add
  sub := Number.sub
  mul := Number.mul
  power := Number.power
  less a b := a.compare? b == some .lt
  atMost a b := match a.compare? b with
    | some o => o.isLE
    | none => false

structure Retry (τ : Type) where
  /-- How many attempts follow the first one. -/
  retries : Int
  baseDelay : τ
  maxDelay : τ
  /-- By what each delay is longer than the one before. -/
  factor : τ
  /-- Whether delays are stretched at random. -/
  jitter : Bool

namespace Retry

variable {τ : Type} [Amount τ]

/-- The smaller of two numbers, the first of equal ones. -/
def least (a b : τ) : τ := if Amount.less b a then b else a

/-- The delay before the attempt after number `attempt`, counted from zero. `random` lies between zero and one;
`hint` is what the failure asks for. -/
def delay (r : Retry τ) (random : τ) (attempt : Int) (hint : Option Int) : Except Overrun τ :=
  match hint.filter (· != 0) with
  | some n => do return least (← Amount.ofInt n) r.maxDelay
  | none => do
    let d := least (← Amount.mul r.baseDelay (← Amount.power r.factor attempt)) r.maxDelay
    if r.jitter then Amount.add d (← Amount.mul d random) else return d

/-- How a run of attempts ends. -/
inductive Outcome (ε α : Type) where
  | done (value : α)
  /-- A failure that another attempt would not mend. -/
  | failed (e : ε)
  /-- All attempts failed, the last one with `last`. Without any attempt there is none. -/
  | exhausted (last : Option ε)
  /-- A delay was too large. -/
  | overrun (o : Overrun)

/-- A run of attempts: its end, and the delays in between. -/
structure Run (τ ε α : Type) where
  outcome : Outcome ε α
  delays : List τ := []

structure Judge (ε : Type) where
  isRetryable : ε → Bool
  hint : ε → Option Int

/-- Attempts from number `attempt` on, with `left` more to follow. An attempt changes the state `σ`. The delay after each
attempt has a random number of its own. -/
def attempts {σ ε α : Type} (r : Retry τ) (draws : Nat → τ) (judge : Judge ε) (act : σ → Except ε α × σ) :
    (left attempt : Nat) → σ → Run τ ε α × σ
  | left, attempt, s =>
    match act s with
    | (.ok a, s) => (⟨.done a, []⟩, s)
    | (.error e, s) =>
      if !judge.isRetryable e then (⟨.failed e, []⟩, s)
      else match left with
        | 0 => (⟨.exhausted (some e), []⟩, s)
        | left + 1 =>
          match r.delay (draws attempt) attempt (judge.hint e) with
          | .error o => (⟨.overrun o, []⟩, s)
          | .ok d =>
            let (run, s) := attempts r draws judge act left (attempt + 1) s
            ({ run with delays := d :: run.delays }, s)

/-- A whole run. With less than no retries there is no attempt. -/
def executeWith {σ ε α : Type} (r : Retry τ) (draws : Nat → τ) (judge : Judge ε) (act : σ → Except ε α × σ) (s : σ) :
    Run τ ε α × σ :=
  if r.retries < 0 then (⟨.exhausted none, []⟩, s) else attempts r draws judge act r.retries.toNat 0 s

/-- A whole run with one random number for all delays. -/
def execute {σ ε α : Type} (r : Retry τ) (random : τ) (judge : Judge ε) (act : σ → Except ε α × σ) (s : σ) :
    Run τ ε α × σ :=
  r.executeWith (fun _ => random) judge act s

structure Metrics (τ : Type) where
  runs : Nat := 0
  successes : Nat := 0
  failures : Nat := 0
  retries : Nat := 0
  totalDelay : τ

def Metrics.empty : Metrics τ := { totalDelay := Amount.zero }

/-- A sum of delays. One that would be too large is left out. -/
def sum (start : τ) (ds : List τ) : τ := ds.foldl (fun t d => ((Amount.add t d).toOption).getD t) start

/-- Counts a run. The delays of a run that ended with a failure of its own are not summed up. -/
def Metrics.count {ε α : Type} (m : Metrics τ) (run : Run τ ε α) : Metrics τ :=
  let m := { m with runs := m.runs + 1, retries := m.retries + run.delays.length }
  let withDelays (m : Metrics τ) : Metrics τ :=
    { m with totalDelay := sum m.totalDelay [sum Amount.zero run.delays] }
  match run.outcome with
  | .done _ => withDelays { m with successes := m.successes + 1 }
  | .failed _ => { m with failures := m.failures + 1 }
  | .exhausted _ => withDelays { m with failures := m.failures + 1 }
  | .overrun _ => m

def Metrics.successRate (m : Metrics τ) : Float :=
  if m.runs = 0 then 0.0 else Float.ofNat m.successes / Float.ofNat m.runs

end Retry

def Value.ofNumber : Number → Value
  | .int n => .int n
  | .float x => .float x

def Retry.Metrics.toValue (m : Retry.Metrics Number) : Value := .map [
  ("total_operations", .int m.runs), ("successful_operations", .int m.successes), ("failed_operations", .int m.failures),
  ("total_retry_attempts", .int m.retries), ("total_delay_time", .ofNumber m.totalDelay),
  ("success_rate", .float m.successRate)]

end PageSkins
