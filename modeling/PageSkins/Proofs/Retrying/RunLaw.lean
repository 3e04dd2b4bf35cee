import Mathlib.Data.Nat.Find
import PageSkins.Backend.Client
import PageSkins.Proofs.Retrying.Accounts
import PageSkins.Proofs.Retrying.Delays

/-!
# The law of a run

An operation ends in some way each time it is called. A run calls it until an ending settles
the matter or no retry is left, waits after each call but the last, and ends as the last call
does. The law holds as long as there is a delay wherever one is needed. In exact arithmetic
there always is; a delay that would be too large to be a number stops the run instead, with a
failure of its own.
-/

namespace PageSkins.Retry

open PageSkins.Decimal

variable {τ ε α : Type}

/-! ### Scripts -/

/-- An operation that ends as a script says, call after call. Its state is the number of calls. -/
def scripted (script : Nat → Except ε α) (calls : Nat) : Except ε α × Nat :=
  (script calls, calls + 1)

namespace Judge

/-- No further call follows an ending that settles the matter. -/
def settles (judge : Judge ε) : Except ε α → Bool
  | .ok _ => true
  | .error e => !judge.isRetryable e

/-- The delay that an ending asks for. -/
def hintOf (judge : Judge ε) : Except ε α → Option Int
  | .ok _ => none
  | .error e => judge.hint e

/-- The number of the last call: the first one whose ending settles the matter, or the number of
retries where there is none before it. -/
def last (judge : Judge ε) (script : Nat → Except ε α) (retries : Nat) : Nat :=
  Nat.find (p := fun i => judge.settles (script i) = true ∨ i = retries) ⟨retries, .inr rfl⟩

/-- The end of a run whose last call ended so. -/
def conclusion (judge : Judge ε) : Except ε α → Outcome ε α
  | .ok a => .done a
  | .error e => if judge.isRetryable e then .exhausted (some e) else .failed e

theorem settles_last_or_eq (judge : Judge ε) (script : Nat → Except ε α) (retries : Nat) :
    judge.settles (script (judge.last script retries)) = true ∨
      judge.last script retries = retries :=
  Nat.find_spec (p := fun i => judge.settles (script i) = true ∨ i = retries) _

variable {judge : Judge ε} {script : Nat → Except ε α} {retries : Nat}

theorem last_le : judge.last script retries ≤ retries :=
  Nat.find_le (.inr rfl)

/-- The endings before the last one may all pass. -/
theorem again_of_lt_last {i : Nat} (early : i < judge.last script retries) :
    ∃ e, script i = .error e ∧ judge.isRetryable e = true := by
  have unsettled : judge.settles (script i) ≠ true :=
    fun settled => Nat.find_min _ early (.inl settled)
  cases ended : script i with
  | ok a => simp [ended, settles] at unsettled
  | error e => exact ⟨e, rfl, by simpa [ended, settles] using unsettled⟩

end Judge

section Scripted

variable [Amount τ] {r : Retry τ} {draws : Nat → τ} {judge : Judge ε}
  {script : Nat → Except ε α}

/-- The delay after a call. -/
def wait (r : Retry τ) (draws : Nat → τ) (judge : Judge ε) (script : Nat → Except ε α)
    (i : Nat) : Except Overrun τ :=
  r.delay (draws i) i (judge.hintOf (script i))

/-- After `n` calls that may pass, each with its delay, the run goes on from call number `n`. -/
theorem attempts_scripted_add {n : Nat} {d : Nat → τ}
    (again : ∀ i < n, ∃ e, script i = .error e ∧ judge.isRetryable e = true)
    (waits : ∀ i < n, r.wait draws judge script i = .ok (d i)) (left : Nat) :
    r.attempts draws judge (scripted script) (left + n) 0 0 =
      let rest := r.attempts draws judge (scripted script) left n n
      ({ rest.1 with delays := (List.range n).map d ++ rest.1.delays }, rest.2) := by
  -- the last of the `n` calls is taken off, which leaves the others one retry more
  induction n generalizing left with
  | zero => rfl
  | succ n ih =>
    obtain ⟨e, failed, retryable⟩ := again n (Nat.lt_succ_self n)
    have waited := waits n (Nat.lt_succ_self n)
    rw [wait, failed] at waited
    have earlier := ih (fun i early => again i (Nat.lt_succ_of_lt early))
      (fun i early => waits i (Nat.lt_succ_of_lt early)) (left + 1)
    have call : (scripted script n).1 = .error e := failed
    rw [attempts_again call retryable waited] at earlier
    rw [← Nat.add_assoc, Nat.add_right_comm]
    simpa [scripted, List.range_succ] using earlier

/-- The run of a script, and how often it calls the operation. -/
def scriptedRun (r : Retry τ) (draws : Nat → τ) (judge : Judge ε) (script : Nat → Except ε α) :
    Run τ ε α × Nat :=
  r.executeWith draws judge (scripted script) 0

/-- A run ends as it does from a call on that every call before it leads to. -/
theorem scriptedRun_eq {n : Nat} {d : Nat → τ} {outcome : Outcome ε α}
    (within : (n : Int) ≤ r.retries)
    (again : ∀ i < n, ∃ e, script i = .error e ∧ judge.isRetryable e = true)
    (waits : ∀ i < n, r.wait draws judge script i = .ok (d i))
    (rest : r.attempts draws judge (scripted script) (r.retries.toNat - n) n n =
      (⟨outcome, []⟩, n + 1)) :
    r.scriptedRun draws judge script = (⟨outcome, (List.range n).map d⟩, n + 1) := by
  have some_left : ¬r.retries < 0 := by omega
  have total : r.retries.toNat = r.retries.toNat - n + n := by omega
  rw [scriptedRun, executeWith, if_neg some_left, total, attempts_scripted_add again waits, rest]
  simp

/-- A call that settles the matter is the last one, and so is one with no retry left. -/
theorem attempts_scripted_last {left n : Nat}
    (final : judge.settles (script n) = true ∨ left = 0) :
    r.attempts draws judge (scripted script) left n n =
      (⟨judge.conclusion (script n), []⟩, n + 1) := by
  cases ended : script n with
  | ok a =>
    have call : (scripted script n).1 = .ok a := ended
    exact attempts_done call
  | error e =>
    have call : (scripted script n).1 = .error e := ended
    cases again : judge.isRetryable e with
    | false =>
      rw [Judge.conclusion, again]
      exact attempts_failed call again
    | true =>
      obtain rfl : left = 0 := by simpa [ended, Judge.settles, again] using final
      rw [Judge.conclusion, again]
      exact attempts_last call again

end Scripted

/-! ### The law -/

section Law

open Backend.Exchange (ending)

variable [Amount τ]

/-- What a run of a script gives. -/
def result (r : Retry τ) (draws : Nat → τ) (judge : Judge Failure)
    (script : Nat → Except Failure Value) : Except Failure Value :=
  ending r.retries (r.scriptedRun draws judge script).1.outcome

/-- A run calls the operation up to call number `n`, and there is a delay after each call before
that one. -/
structure Reaches (r : Retry τ) (draws : Nat → τ) (judge : Judge Failure)
    (script : Nat → Except Failure Value) (n : Nat) : Prop where
  calls : (r.scriptedRun draws judge script).2 = n + 1
  delays : (r.scriptedRun draws judge script).1.delays.map .ok =
    (List.range n).map (r.wait draws judge script)

/-- A run ends as call number `n` says. A failure that may pass becomes one that tells how many
calls there were, and how the last one failed. -/
structure EndsWith (r : Retry τ) (draws : Nat → τ) (judge : Judge Failure)
    (script : Nat → Except Failure Value) (n : Nat) : Prop
    extends Reaches r draws judge script n where
  value : ∀ v, script n = .ok v → r.result draws judge script = .ok v
  failure : ∀ e, script n = .error e → judge.isRetryable e = false →
    r.result draws judge script = .error e
  exhausted : ∀ e, script n = .error e → judge.isRetryable e = true →
    ∃ message, r.result draws judge script =
      .error (.exhausted message (.int (r.retries + 1)) (some e))

/-- A run stops after call number `n`, since the delay after it is no number. -/
structure StopsAt (r : Retry τ) (draws : Nat → τ) (judge : Judge Failure)
    (script : Nat → Except Failure Value) (n : Nat) (o : Overrun) : Prop
    extends Reaches r draws judge script n where
  overrun : r.result draws judge script = .error (.ofOverrun o)

variable {r : Retry τ} {draws : Nat → τ} {judge : Judge Failure}
  {script : Nat → Except Failure Value}

/-- Delays that exist are those of some function. -/
theorem exists_delays {n : Nat} (waits : ∀ i < n, ∃ d, r.wait draws judge script i = .ok d) :
    ∃ d : Nat → τ, ∀ i < n, r.wait draws judge script i = .ok (d i) := by
  have : Nonempty τ := ⟨Amount.zero⟩
  choose! d waited using waits
  exact ⟨d, waited⟩

theorem reaches_of_eq {n : Nat} {d : Nat → τ} {outcome : Outcome Failure Value}
    (waits : ∀ i < n, r.wait draws judge script i = .ok (d i))
    (run : r.scriptedRun draws judge script = (⟨outcome, (List.range n).map d⟩, n + 1)) :
    r.Reaches draws judge script n where
  calls := by rw [run]
  delays := by
    rw [run, List.map_map]
    exact List.map_congr_left fun i early => (waits i (List.mem_range.1 early)).symm

/-- Where there is a delay before each call but the first, the run ends by the law. -/
theorem endsWith_last (some_left : 0 ≤ r.retries)
    (waits : ∀ i < judge.last script r.retries.toNat, ∃ d, r.wait draws judge script i = .ok d) :
    r.EndsWith draws judge script (judge.last script r.retries.toNat) := by
  obtain ⟨d, waited⟩ := exists_delays waits
  have within : judge.last script r.retries.toNat ≤ r.retries.toNat := Judge.last_le
  have final := Judge.settles_last_or_eq judge script r.retries.toNat
  have run := scriptedRun_eq (by omega) (fun i => Judge.again_of_lt_last) waited
    (attempts_scripted_last (final.imp_right fun all => by omega))
  constructor
  case toReaches => exact reaches_of_eq waited run
  case value =>
    intro v ended
    rw [result, run, ended]
    rfl
  case failure =>
    intro e ended final
    rw [result, run, ended, Judge.conclusion, final]
    rfl
  case exhausted =>
    intro e ended again
    rw [result, run, ended, Judge.conclusion, again]
    exact ⟨_, rfl⟩

/-- A call without a delay after it is the last one, whatever the law says. -/
theorem stopsAt_of_late {n : Nat} {o : Overrun} (some_left : 0 ≤ r.retries)
    (early : n < judge.last script r.retries.toNat)
    (waits : ∀ i < n, ∃ d, r.wait draws judge script i = .ok d)
    (late : r.wait draws judge script n = .error o) : r.StopsAt draws judge script n o := by
  obtain ⟨d, waited⟩ := exists_delays waits
  have within : judge.last script r.retries.toNat ≤ r.retries.toNat := Judge.last_le
  obtain ⟨e, failed, again⟩ := Judge.again_of_lt_last early
  have left : r.retries.toNat - n = r.retries.toNat - n - 1 + 1 := by omega
  rw [wait, failed] at late
  have call : (scripted script n).1 = .error e := failed
  have stopped : r.attempts draws judge (scripted script) (r.retries.toNat - n) n n =
      (⟨.overrun o, []⟩, n + 1) := by
    rw [left]
    exact attempts_late call again late
  have run := scriptedRun_eq (by omega)
    (fun i before => Judge.again_of_lt_last (before.trans early)) waited stopped
  constructor
  case toReaches => exact reaches_of_eq waited run
  case overrun =>
    rw [result, run]
    rfl

end Law

/-! ### Exact arithmetic -/

section Exact

variable [Field τ] [LinearOrder τ] {r : Retry τ} {draws : Nat → τ} {judge : Judge Failure}
  {script : Nat → Except Failure Value}

theorem exists_wait (i : Nat) : ∃ d, r.wait draws judge script i = .ok d := by
  cases waited : r.wait draws judge script i with
  | ok d => exact ⟨d, rfl⟩
  | error o => exact absurd waited (delay_ne_error _ _ _ _ _)

/-- In exact arithmetic every run ends by the law. -/
theorem endsWith_last_of_exact (some_left : 0 ≤ r.retries) :
    r.EndsWith draws judge script (judge.last script r.retries.toNat) :=
  endsWith_last some_left fun i _ => exists_wait i

end Exact

/-! ### All runs -/

/-- A run calls its operation until the first ending that settles the matter or until no retry is
left, waits in between, and ends as the last call says, if and only if there is a delay after each
call before that one. At the first call without a delay it stops with a failure of its own. -/
theorem endsWith_last_iff [Amount τ] {r : Retry τ} {draws : Nat → τ} {judge : Judge Failure}
    {script : Nat → Except Failure Value} (some_left : 0 ≤ r.retries) :
    (r.EndsWith draws judge script (judge.last script r.retries.toNat) ↔
      ∀ i < judge.last script r.retries.toNat, ∃ d, r.wait draws judge script i = .ok d) ∧
    ∀ n < judge.last script r.retries.toNat, ∀ o,
      (∀ i < n, ∃ d, r.wait draws judge script i = .ok d) →
      r.wait draws judge script n = .error o → r.StopsAt draws judge script n o := by
  refine ⟨⟨fun law i early => ?_, endsWith_last some_left⟩,
    fun n early o => stopsAt_of_late some_left early⟩
  have listed : r.wait draws judge script i ∈
      (List.range (judge.last script r.retries.toNat)).map (r.wait draws judge script) :=
    List.mem_map_of_mem (List.mem_range.2 early)
  rw [← law.delays] at listed
  obtain ⟨d, -, waited⟩ := List.mem_map.1 listed
  exact ⟨d, waited.symm⟩

/-- What is asked about the failures of a request. -/
def usual : Judge Failure := ⟨Failure.isRetryable, Failure.retryAfter⟩

/-- No answer in time, then a server in trouble, then an answer. -/
def flaky : Nat → Except Failure Value
  | 0 => .error (.network .timeout "slow")
  | 1 => .error (.api { kind := .server, message := .text "Server error: 503", status := some 503 })
  | _ => .ok (.text "here")

theorem endsWith_last_iff_flaky :
    0 ≤ patient.retries ∧ usual.last flaky patient.retries.toNat = 2 ∧
      patient.EndsWith (fun _ => 0) usual flaky 2 := by
  have last : usual.last flaky patient.retries.toNat = 2 :=
    (Nat.find_eq_iff _).2 (by decide)
  have law : patient.EndsWith (fun _ => 0) usual flaky (usual.last flaky patient.retries.toNat) :=
    (endsWith_last_iff (by decide)).1.2 fun i _ => exists_wait i
  rw [last] at law
  exact ⟨by decide, last, law⟩

/-- A number of seconds beyond every double. -/
def eternity : Int := .ofNat (Nat.pow 10 400)

theorem ofInt_eternity : Amount.ofInt (τ := Number) eternity = .error .tooLarge := by
  have beyond : (ofInt eternity).isInf = true := by decide +kernel
  have uncounted : Number.double? eternity = .error .tooLarge := by
    simp only [Number.double?, beyond, if_true]
  change Number.double? eternity >>= _ = _
  rw [uncounted]
  rfl

/-- Too many requests, and an eternity to wait. -/
def crowded (_ : Nat) : Except Failure Value :=
  .error (.api (.make .rateLimit (.text "Rate limit exceeded") (some 429) [] "/" (some eternity)))

theorem not_endsWith_crowded :
    ¬(Backend.Client.retryOf 1).EndsWith (fun _ => .int 0) usual crowded
      (usual.last crowded 1) := by
  have early : 0 < usual.last crowded 1 := by
    refine Nat.pos_of_ne_zero fun first => ?_
    have final := Judge.settles_last_or_eq usual crowded 1
    rw [first] at final
    revert final
    decide
  have late : (Backend.Client.retryOf 1).wait (fun _ => .int 0) usual crowded 0 =
      .error .tooLarge := by
    change Retry.delay _ _ _ (some eternity) = _
    rw [delay_of_hint _ _ _ (by decide +kernel), ofInt_eternity]
    rfl
  have stopped := stopsAt_of_late (by decide) early
    (fun i before => absurd before i.not_lt_zero) late
  intro law
  have calls := law.calls.symm.trans stopped.calls
  omega

end PageSkins.Retry
