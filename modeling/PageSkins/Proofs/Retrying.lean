import PageSkins.Retry

/-!
# How a run of attempts ends

Each end of a run is the end of one of its attempts, or there is no attempt. What every
attempt leaves as it was, the whole run leaves as it was. The random numbers that stretch the
delays do not decide how a run ends.
-/

namespace PageSkins.Retry

variable {τ : Type} [Amount τ] {σ ε α : Type}

/-- Where the end of a run comes from. An attempt that is made again failed in a way that
may pass, and has attempts left after it. -/
inductive Arises (r : Retry τ) (draws : Nat → τ) (judge : Judge ε) (act : σ → Except ε α × σ) :
    Outcome ε α → Prop where
  | done {s : σ} {a : α} (ended : (act s).1 = .ok a) : Arises r draws judge act (.done a)
  | failed {s : σ} {e : ε} (ended : (act s).1 = .error e)
      (final : judge.isRetryable e = false) : Arises r draws judge act (.failed e)
  | exhausted {s : σ} {e : ε} (ended : (act s).1 = .error e)
      (again : judge.isRetryable e = true) : Arises r draws judge act (.exhausted (some e))
  | unattempted (none_left : r.retries < 0) : Arises r draws judge act (.exhausted none)
  | overrun {s : σ} {e : ε} {attempt : Nat} {o : Decimal.Overrun} (ended : (act s).1 = .error e)
      (again : judge.isRetryable e = true) (left : (attempt : Int) < r.retries)
      (late : r.delay (draws attempt) attempt (judge.hint e) = .error o) :
      Arises r draws judge act (.overrun o)

variable {r : Retry τ} {draws : Nat → τ} {judge : Judge ε} {act : σ → Except ε α × σ}

theorem attempts_arises {left attempt : Nat} (s : σ) (total : (attempt + left : Int) = r.retries) :
    Arises r draws judge act (r.attempts draws judge act left attempt s).1.outcome := by
  fun_induction attempts r draws judge act left attempt s with
  | case1 left attempt s a s' acted => exact .done (congrArg Prod.fst acted)
  | case2 left attempt s e s' acted final =>
    exact .failed (congrArg Prod.fst acted) (by simpa using final)
  | case3 attempt s e s' acted again =>
    exact .exhausted (congrArg Prod.fst acted) (by simpa using again)
  | case4 attempt s e s' acted again left o late =>
    exact .overrun (congrArg Prod.fst acted) (by simpa using again) (by omega) late
  | case5 attempt s e s' acted again left d waited run s'' rest ih =>
    have arises := ih (by omega)
    rw [rest] at arises
    exact arises

theorem executeWith_arises (s : σ) :
    Arises r draws judge act (r.executeWith draws judge act s).1.outcome := by
  by_cases none_left : r.retries < 0
  · simp only [executeWith, none_left, if_true]
    exact .unattempted none_left
  · simp only [executeWith, none_left, if_false]
    exact attempts_arises s (by omega)

theorem attempts_keeps {P : σ → Prop} (keeps : ∀ s, P s → P (act s).2) {left attempt : Nat}
    (s : σ) (start : P s) : P (r.attempts draws judge act left attempt s).2 := by
  have acted_keeps {s s' : σ} {ended : Except ε α} (acted : act s = (ended, s')) (start : P s) :
      P s' := by
    have kept := keeps s start
    rwa [acted] at kept
  fun_induction attempts r draws judge act left attempt s with
  | case1 left attempt s a s' acted => exact acted_keeps acted start
  | case2 left attempt s e s' acted final => exact acted_keeps acted start
  | case3 attempt s e s' acted again => exact acted_keeps acted start
  | case4 attempt s e s' acted again left o late => exact acted_keeps acted start
  | case5 attempt s e s' acted again left d waited run s'' rest ih =>
    have kept := ih (acted_keeps acted start)
    rwa [rest] at kept

/-- What every attempt keeps, the run keeps. -/
theorem executeWith_keeps {P : σ → Prop} (keeps : ∀ s, P s → P (act s).2) (s : σ) (start : P s) :
    P (r.executeWith draws judge act s).2 := by
  by_cases none_left : r.retries < 0
  · simpa only [executeWith, none_left, if_true]
  · simp only [executeWith, none_left, if_false]
    exact attempts_keeps keeps s start

/-! ### One attempt -/

section OneAttempt

variable {left attempt : Nat} {s : σ} {a : α} {e : ε}

theorem attempts_done (h : (act s).1 = .ok a) :
    r.attempts draws judge act left attempt s = (⟨.done a, []⟩, (act s).2) := by
  unfold attempts
  revert h
  cases act s with
  | mk result t =>
    rintro rfl
    rfl

theorem attempts_failed (h : (act s).1 = .error e) (final : judge.isRetryable e = false) :
    r.attempts draws judge act left attempt s = (⟨.failed e, []⟩, (act s).2) := by
  unfold attempts
  revert h
  cases act s with
  | mk result t =>
    rintro rfl
    simp [final]

variable (h : (act s).1 = .error e) (again : judge.isRetryable e = true)
include h again

theorem attempts_last :
    r.attempts draws judge act 0 attempt s = (⟨.exhausted (some e), []⟩, (act s).2) := by
  unfold attempts
  revert h
  cases act s with
  | mk result t =>
    rintro rfl
    simp [again]

theorem attempts_late {o : Decimal.Overrun}
    (late : r.delay (draws attempt) attempt (judge.hint e) = .error o) :
    r.attempts draws judge act (left + 1) attempt s = (⟨.overrun o, []⟩, (act s).2) := by
  unfold attempts
  revert h
  cases act s with
  | mk result t =>
    rintro rfl
    simp [again, late]

theorem attempts_again {d : τ} (delay : r.delay (draws attempt) attempt (judge.hint e) = .ok d) :
    r.attempts draws judge act (left + 1) attempt s =
      let rest := r.attempts draws judge act left (attempt + 1) (act s).2
      ({ rest.1 with delays := d :: rest.1.delays }, rest.2) := by
  conv =>
    lhs
    unfold attempts
  revert h
  cases act s with
  | mk result t =>
    rintro rfl
    simp [again, delay]

end OneAttempt

/-! ### Runs that end the same -/

/-- With two sequences of random numbers the delays are there, or too large, after the same
attempts. -/
def SameWaits (r : Retry τ) (draws draws' : Nat → τ) : Prop :=
  ∀ (attempt : Nat) (hint : Option Int),
    (∃ o, r.delay (draws attempt) attempt hint = .error o ∧
      r.delay (draws' attempt) attempt hint = .error o) ∨
    ∃ d d', r.delay (draws attempt) attempt hint = .ok d ∧
      r.delay (draws' attempt) attempt hint = .ok d'

section Alike

variable {draws' : Nat → τ} {act' : σ → Except ε α × σ}

theorem attempts_alike (waits : r.SameWaits draws draws')
    (same : ∀ s s', (act s).1 = (act' s').1) (left attempt : Nat) (s s' : σ) :
    (r.attempts draws judge act left attempt s).1.outcome =
      (r.attempts draws' judge act' left attempt s').1.outcome := by
  cases ended : (act s).1 with
  | ok a => rw [attempts_done ended, attempts_done ((same s s').symm.trans ended)]
  | error e =>
    have ended' := (same s s').symm.trans ended
    cases again : judge.isRetryable e with
    | false => rw [attempts_failed ended again, attempts_failed ended' again]
    | true =>
      cases left with
      | zero => rw [attempts_last ended again, attempts_last ended' again]
      | succ left =>
        obtain ⟨o, late, late'⟩ | ⟨d, d', delay, delay'⟩ := waits attempt (judge.hint e)
        · rw [attempts_late ended again late, attempts_late ended' again late']
        · rw [attempts_again ended again delay, attempts_again ended' again delay']
          exact attempts_alike waits same left (attempt + 1) (act s).2 (act' s').2

/-- Attempts that end the same in any state make runs that end the same. -/
theorem executeWith_alike (waits : r.SameWaits draws draws')
    (same : ∀ s s', (act s).1 = (act' s').1) (s s' : σ) :
    (r.executeWith draws judge act s).1.outcome =
      (r.executeWith draws' judge act' s').1.outcome := by
  unfold executeWith
  split
  · rfl
  · exact attempts_alike waits same _ _ s s'

end Alike

/-! ### Delays that are stretched at random -/

section Stretched

open Decimal (Number)

theorem least_float (a b : Float) : ∃ c, least (Number.float a) (.float b) = .float c := by
  unfold least
  split
  · exact ⟨b, rfl⟩
  · exact ⟨a, rfl⟩

/-- A delay that is stretched by a double becomes one. -/
theorem stretched_float (d : Number) (u : Float) :
    (do Amount.add d (← Amount.mul d (.float u))) =
      d.toDouble.map fun x => Number.float (x + x * u) := by
  cases d with
  | float x => rfl
  | int n =>
    cases given : Number.double? n with
    | error o =>
      simp [Amount.mul, Number.mul, Number.combine, Number.toDouble, given, bind, Except.bind,
        Except.map]
    | ok x =>
      simp [Amount.mul, Amount.add, Number.mul, Number.add, Number.combine, Number.toDouble, given,
        bind, Except.bind, pure, Except.pure, Except.map]

/-- By whatever doubles the delays are stretched, they are there after the same attempts. -/
theorem sameWaits_float (r : Retry Number) (draws draws' : Nat → Float) :
    r.SameWaits (fun n => .float (draws n)) (fun n => .float (draws' n)) := by
  intro attempt hint
  unfold delay
  split
  · rename_i n _
    cases Amount.ofInt (τ := Number) n with
    | error o => exact .inl ⟨o, rfl, rfl⟩
    | ok wanted => exact .inr ⟨_, _, rfl, rfl⟩
  · cases Amount.power r.factor attempt with
    | error o => exact .inl ⟨o, rfl, rfl⟩
    | ok power =>
      dsimp only [bind, Except.bind]
      cases Amount.mul r.baseDelay power with
      | error o => exact .inl ⟨o, rfl, rfl⟩
      | ok grown =>
        cases r.jitter with
        | false => exact .inr ⟨_, _, rfl, rfl⟩
        | true =>
          have stretched := stretched_float (least grown r.maxDelay)
          cases double : (least grown r.maxDelay).toDouble with
          | error o =>
            rw [double] at stretched
            exact .inl ⟨o, stretched (draws attempt), stretched (draws' attempt)⟩
          | ok x =>
            rw [double] at stretched
            exact .inr ⟨_, _, stretched (draws attempt), stretched (draws' attempt)⟩

end Stretched

/-! ### Attempts that never succeed -/

section Vain

variable {limit : Nat} {o : Decimal.Overrun} {made : σ → Nat}

/-- Every attempt fails in a way that may pass, and none says how long to wait. -/
def Vain (judge : Judge ε) (act : σ → Except ε α × σ) : Prop :=
  ∀ s, ∃ e, (act s).1 = .error e ∧ judge.isRetryable e = true ∧ judge.hint e = none

/-- There is a delay after each attempt before some number, and none after that one. -/
def DelaysEnd (r : Retry τ) (draws : Nat → τ) (limit : Nat) (o : Decimal.Overrun) : Prop :=
  (∀ attempt < limit, ∃ d, r.delay (draws attempt) attempt none = .ok d) ∧
    r.delay (draws limit) limit none = .error o

/-- Vain attempts are made until none is left, or until there is no delay after one. -/
theorem attempts_of_vain (vain : Vain judge act) (delays : DelaysEnd r draws limit o)
    (counts : ∀ s, made (act s).2 = made s + 1) (left attempt : Nat) (s : σ)
    (early : attempt ≤ limit) :
    made (r.attempts draws judge act left attempt s).2 =
        made s + min left (limit - attempt) + 1 ∧
      (attempt + left ≤ limit →
        ∃ e, (r.attempts draws judge act left attempt s).1.outcome = .exhausted (some e)) ∧
      (limit < attempt + left →
        (r.attempts draws judge act left attempt s).1.outcome = .overrun o) := by
  induction left generalizing attempt s with
  | zero =>
    obtain ⟨e, failed, again, -⟩ := vain s
    rw [attempts_last failed again]
    refine ⟨(counts s).trans (by omega), fun _ => ⟨e, rfl⟩, fun late => ?_⟩
    omega
  | succ left ih =>
    obtain ⟨e, failed, again, unhinted⟩ := vain s
    obtain before | rfl := Nat.lt_or_eq_of_le early
    · obtain ⟨d, delay⟩ := delays.1 attempt before
      obtain ⟨total, exhausted, overrun⟩ := ih (attempt + 1) (act s).2 before
      rw [attempts_again failed again (unhinted ▸ delay)]
      refine ⟨?_, fun enough => exhausted (by omega), fun late => overrun (by omega)⟩
      dsimp only
      rw [total, counts s]
      omega
    · rw [attempts_late failed again (unhinted ▸ delays.2)]
      refine ⟨(counts s).trans (by omega), fun enough => ?_, fun _ => rfl⟩
      omega

/-- A run of vain attempts makes all of them, or stops where there is no delay. -/
theorem executeWith_of_vain (made : σ → Nat) (vain : Vain judge act)
    (delays : DelaysEnd r draws limit o) (counts : ∀ s, made (act s).2 = made s + 1)
    (some_left : 0 ≤ r.retries) (s : σ) :
    made (r.executeWith draws judge act s).2 = made s + min r.retries.toNat limit + 1 ∧
      (r.retries ≤ limit →
        ∃ e, (r.executeWith draws judge act s).1.outcome = .exhausted (some e)) ∧
      (limit < r.retries → (r.executeWith draws judge act s).1.outcome = .overrun o) := by
  obtain ⟨total, exhausted, overrun⟩ :=
    attempts_of_vain vain delays counts r.retries.toNat 0 s (Nat.zero_le limit)
  unfold executeWith
  rw [if_neg (by omega)]
  exact ⟨total, fun enough => exhausted (by omega), fun late => overrun (by omega)⟩

end Vain

end PageSkins.Retry
