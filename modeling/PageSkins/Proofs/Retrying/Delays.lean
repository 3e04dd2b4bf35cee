import Mathlib.Algebra.Order.Field.Basic
import Mathlib.Algebra.Order.Ring.Rat
import Mathlib.Algebra.Field.Rat
import PageSkins.Proofs.ExactAmount

/-!
# The longest delay

A delay that a failure asks for, and one that grows from call to call, are both cut off at the
longest delay. One that grows is stretched at random only after that, so a stretched delay may
be longer: up to twice the longest one. All in exact arithmetic.
-/

namespace PageSkins.Retry

variable {τ : Type}

section Kinds

variable [Amount τ] (r : Retry τ) (random : τ) (attempt : Int)

/-- A failure that asks for a delay gets it, up to the longest one. -/
theorem delay_of_hint {n : Int} (asked : n ≠ 0) :
    r.delay random attempt (some n) =
      (Amount.ofInt n).map fun wanted => least wanted r.maxDelay := by
  have kept : (some n).filter (· != 0) = some n := by simpa using asked
  rw [delay, kept]
  change (Amount.ofInt n >>= fun wanted => pure (least wanted r.maxDelay)) = _
  cases Amount.ofInt (τ := τ) n with
  | ok wanted => rfl
  | error o => rfl

/-- A failure that asks for no time at all is like one that asks for nothing. -/
theorem delay_of_unasked {hint : Option Int} (unasked : ¬∃ n ∈ hint, n ≠ 0) :
    r.delay random attempt hint = r.delay random attempt none := by
  cases hint with
  | none => rfl
  | some n =>
    obtain rfl : n = 0 := by_contra fun asked => unasked ⟨n, rfl, asked⟩
    rfl

end Kinds

variable [Field τ] [LinearOrder τ]

/-- No time is negative, and no delay is shorter than the one before. -/
structure Moderate (r : Retry τ) : Prop where
  baseDelay : 0 ≤ r.baseDelay
  maxDelay : 0 ≤ r.maxDelay
  factor : 1 ≤ r.factor

/-- The delay that has grown up to an attempt, before it is cut off and stretched. -/
def grown (r : Retry τ) (attempt : Int) : τ := r.baseDelay * r.factor ^ attempt

theorem least_eq_min (a b : τ) : least a b = min a b := by
  have less : Amount.less b a = decide (b < a) := rfl
  simp only [least, less, decide_eq_true_eq, min_comm a b, min_def_lt]

section

variable [IsStrictOrderedRing τ] {r : Retry τ}

theorem Moderate.grown_nonneg (moderate : r.Moderate) (attempt : Int) : 0 ≤ r.grown attempt :=
  mul_nonneg moderate.baseDelay (zpow_nonneg (zero_le_one.trans moderate.factor) attempt)

theorem Moderate.delay_none (moderate : r.Moderate) (random : τ) (attempt : Int) :
    r.delay random attempt none =
      .ok (min (r.grown attempt) r.maxDelay * if r.jitter then 1 + random else 1) := by
  have positive : r.factor ≠ 0 := (zero_lt_one.trans_le moderate.factor).ne'
  have power : Amount.power r.factor attempt = .ok (r.factor ^ attempt) := by
    simp [Amount.power, positive]
  have cut : least (r.baseDelay * r.factor ^ attempt) r.maxDelay =
      min (r.grown attempt) r.maxDelay := least_eq_min _ _
  unfold delay
  rw [Option.filter_none, power]
  dsimp only [Amount.mul, Amount.add, bind, Except.bind]
  rw [cut]
  cases r.jitter with
  | false => simp [pure, Except.pure]
  | true => simp [mul_add]

/-- A delay that is stretched after it was cut off stays below the longest one if there is no
stretch, or if the delay is short enough. -/
theorem stretched_le_iff {grown longest stretch : τ} (grown_nonneg : 0 ≤ grown)
    (longest_nonneg : 0 ≤ longest) (stretch_nonneg : 0 ≤ stretch) :
    min grown longest * (1 + stretch) ≤ longest ↔
      stretch = 0 ∨ longest = 0 ∨ grown * (1 + stretch) ≤ longest := by
  have stretched_ge : 1 ≤ 1 + stretch := le_add_of_nonneg_right stretch_nonneg
  constructor
  · intro within
    obtain short | long := le_total grown longest
    · rw [min_eq_left short] at within
      exact .inr (.inr within)
    · rw [min_eq_right long, mul_one_add, add_le_iff_nonpos_right] at within
      obtain none | unstretched :=
        mul_eq_zero.1 (within.antisymm (mul_nonneg longest_nonneg stretch_nonneg))
      · exact .inr (.inl none)
      · exact .inl unstretched
  · rintro (rfl | rfl | within)
    · rw [add_zero, mul_one]
      exact min_le_right _ _
    · rw [min_eq_right grown_nonneg, zero_mul]
    · exact (mul_le_mul_of_nonneg_right (min_le_left _ _)
        (zero_le_one.trans stretched_ge)).trans within

/-- There is always a delay. It is not negative, and no longer than the longest one with its
stretch. It is no longer than the longest one itself if and only if a failure asks for it, or
nothing is stretched, or the stretch fits in. -/
theorem delay_le_maxDelay_iff (moderate : r.Moderate) {random : τ} (random_nonneg : 0 ≤ random)
    (attempt : Int) (hint : Option Int) (hint_nonneg : ∀ n ∈ hint, 0 ≤ n) :
    ∃ d, r.delay random attempt hint = .ok d ∧ 0 ≤ d ∧ d ≤ r.maxDelay * (1 + random) ∧
      (d ≤ r.maxDelay ↔ (∃ n ∈ hint, n ≠ 0) ∨ r.jitter = false ∨ random = 0 ∨ r.maxDelay = 0 ∨
        r.grown attempt * (1 + random) ≤ r.maxDelay) := by
  have one_le : 1 ≤ 1 + random := le_add_of_nonneg_right random_nonneg
  have maxDelay_le : r.maxDelay ≤ r.maxDelay * (1 + random) :=
    le_mul_of_one_le_right moderate.maxDelay one_le
  by_cases asked : ∃ n ∈ hint, n ≠ 0
  · obtain ⟨n, rfl, given⟩ := asked
    have wanted : (0 : τ) ≤ n := Int.cast_nonneg (hint_nonneg n rfl)
    refine ⟨min (n : τ) r.maxDelay, ?_, le_min wanted moderate.maxDelay,
      (min_le_right _ _).trans maxDelay_le, ?_⟩
    · rw [delay_of_hint r random attempt given]
      exact congrArg Except.ok (least_eq_min _ _)
    · exact iff_of_true (min_le_right _ _) (.inl ⟨n, rfl, given⟩)
  · rw [delay_of_unasked r random attempt asked, moderate.delay_none]
    have cut_nonneg : 0 ≤ min (r.grown attempt) r.maxDelay :=
      le_min (moderate.grown_nonneg attempt) moderate.maxDelay
    have cut_le : min (r.grown attempt) r.maxDelay ≤ r.maxDelay := min_le_right _ _
    cases stretched : r.jitter with
    | false =>
      rw [if_neg Bool.false_ne_true, mul_one]
      exact ⟨_, rfl, cut_nonneg, cut_le.trans maxDelay_le, iff_of_true cut_le (.inr (.inl rfl))⟩
    | true =>
      rw [if_pos rfl]
      refine ⟨_, rfl, mul_nonneg cut_nonneg (zero_le_one.trans one_le),
        mul_le_mul_of_nonneg_right cut_le (zero_le_one.trans one_le), ?_⟩
      rw [stretched_le_iff (moderate.grown_nonneg attempt) moderate.maxDelay random_nonneg]
      simp only [asked, Bool.true_eq_false, false_or]

end

/-- The retries of the library, with a stretch. -/
def restless : Retry ℚ :=
  { retries := 3, baseDelay := 1 / 2, maxDelay := 30, factor := 2, jitter := true }

theorem moderate_restless : restless.Moderate := by
  constructor
  all_goals decide +kernel

theorem delay_le_maxDelay_iff_restless :
    restless.Moderate ∧ (0 : ℚ) ≤ 1 / 2 ∧ (∀ n ∈ some (7 : Int), 0 ≤ n) ∧
      ∃ d, restless.delay (1 / 2) 6 (some 7) = .ok d ∧ d ≤ restless.maxDelay := by
  have half : (0 : ℚ) ≤ 1 / 2 := by decide +kernel
  have seven : ∀ n ∈ some (7 : Int), 0 ≤ n := by
    rintro n ⟨⟩
    decide
  obtain ⟨d, delay, -, -, within⟩ := delay_le_maxDelay_iff moderate_restless half 6 (some 7) seven
  exact ⟨moderate_restless, half, seven, d, delay, within.2 (.inl ⟨7, rfl, by decide⟩)⟩

theorem not_delay_le_maxDelay_restless :
    restless.Moderate ∧ (0 : ℚ) ≤ 1 / 2 ∧ (1 / 2 : ℚ) < 1 ∧
      restless.delay (1 / 2) 6 none = .ok 45 ∧ ¬(45 ≤ restless.maxDelay) := by
  refine ⟨moderate_restless, by decide +kernel, by decide +kernel, ?_, by decide +kernel⟩
  rw [moderate_restless.delay_none]
  exact congrArg Except.ok (by decide +kernel)

end PageSkins.Retry
