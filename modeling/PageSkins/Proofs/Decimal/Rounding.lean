import Mathlib.Algebra.Group.Nat.Defs
import PageSkins.Decimal.Binary

/-!
# Rounding of doubles

A double that is zero, or positive and not too small, is a natural number of units of `2 ^ -56`.
In these units the order of such doubles is that of the numbers, and sums and products are those
of the numbers, rounded to 53 bits.
-/

namespace PageSkins.Decimal

open Float.Model Float.Model.UnpackedFloat

/-! ### Rounding to 53 bits -/

variable {a d m n : Nat}

theorem roundDiv_of_lt (h : 2 * (a % d) < d) : roundDiv a d = a / d := by
  rw [roundDiv, Nat.compare_eq_lt.2 h]

theorem roundDiv_of_eq (h : 2 * (a % d) = d) : roundDiv a d = a / d + a / d % 2 := by
  rw [roundDiv, Nat.compare_eq_eq.2 h]
  dsimp only
  split
  · rename_i even
    rw [beq_iff_eq.1 even, Nat.add_zero]
  · rename_i odd
    rw [beq_iff_eq] at odd
    omega

theorem roundDiv_of_gt (h : d < 2 * (a % d)) : roundDiv a d = a / d + 1 := by
  rw [roundDiv, Nat.compare_eq_gt.2 h]

theorem roundDiv_bounds (a d : Nat) : a / d ≤ roundDiv a d ∧ roundDiv a d ≤ a / d + 1 := by
  obtain less | same | more := Nat.lt_trichotomy (2 * (a % d)) d
  · rw [roundDiv_of_lt less]
    omega
  · rw [roundDiv_of_eq same]
    omega
  · rw [roundDiv_of_gt more]
    omega

/-- What is shifted out of a mantissa is kept as its first bit, and whether there is more. -/
theorem shiftRight_succ (m n : Nat) : (⟨m, false, false⟩ : ExtendedMantissa) >>> (n + 1) =
    ⟨m / 2 ^ (n + 1), m / 2 ^ n % 2 != 0, m % 2 ^ n != 0⟩ := by
  induction n with
  | zero =>
    change ExtendedMantissa.mk (m / 2) (m % 2 != 0) false = _
    rw [Nat.pow_zero, Nat.mod_one, Nat.div_one]
    rfl
  | succ n ih =>
    change ExtendedMantissa.shiftRightOne ((⟨m, false, false⟩ : ExtendedMantissa) >>> (n + 1)) = _
    have more : (m / 2 ^ n % 2 != 0 || m % 2 ^ n != 0) = (m % 2 ^ (n + 1) != 0) := by
      have some' := Nat.two_pow_pos n
      rw [Bool.eq_iff_iff, Bool.or_eq_true, bne_iff_ne, bne_iff_ne, bne_iff_ne, Nat.mod_pow_succ]
      obtain zero | one := Nat.mod_two_eq_zero_or_one (m / 2 ^ n)
      · rw [zero]
        omega
      · rw [one]
        omega
    rw [ih, ExtendedMantissa.shiftRightOne, more, Nat.div_div_eq_div_mul, ← Nat.pow_succ]

theorem roundedMantissa_shiftRight (m n : Nat) :
    ((⟨m, false, false⟩ : ExtendedMantissa) >>> n).roundedMantissa = roundDiv m (2 ^ n) := by
  cases n with
  | zero =>
    have whole : 2 * (m % 2 ^ 0) < 2 ^ 0 := by omega
    rw [roundDiv_of_lt whole, Nat.pow_zero, Nat.div_one]
    rfl
  | succ n =>
    have cut := Nat.mod_pow_succ (x := m) (b := 2) (k := n)
    have rest := Nat.mod_lt m (Nat.two_pow_pos n)
    have double : 2 ^ (n + 1) = 2 * 2 ^ n := by rw [Nat.pow_succ, Nat.mul_comm]
    rw [shiftRight_succ]
    obtain zero | one := Nat.mod_two_eq_zero_or_one (m / 2 ^ n)
    · -- the first bit that is lost is not set, so no more than half is lost
      rw [zero] at cut ⊢
      rw [roundDiv_of_lt (by omega)]
      cases m % 2 ^ n != 0 with
      | false => rfl
      | true => rfl
    · rw [one] at cut ⊢
      by_cases exact' : m % 2 ^ n = 0
      · rw [roundDiv_of_eq (by omega), exact']
        rfl
      · have more : (m % 2 ^ n != 0) = true := bne_iff_ne.2 exact'
        rw [roundDiv_of_gt (by omega), more]
        rfl

/-! ### Numbers of 53 bits -/

/-- A number rounded to 53 bits. Of two that are as near the even one is taken. -/
def nearest (a : Nat) : Nat := roundDiv a (2 ^ (a.log2 - 52)) * 2 ^ (a.log2 - 52)

theorem nearest_eq (bits : a.log2 = 52 + n) : nearest a = roundDiv a (2 ^ n) * 2 ^ n := by
  rw [nearest, bits, Nat.add_sub_cancel_left]

theorem log2_normal (low : 2 ^ 52 ≤ m) (high : m < 2 ^ 53) : m.log2 = 52 :=
  (Nat.log2_eq_iff (by omega)).2 ⟨low, high⟩

theorem log2_long (long : 2 ^ 52 ≤ a) : a.log2 = 52 + (a.log2 - 52) := by
  have bits := (Nat.le_log2 (by omega)).2 long
  omega

theorem log2_scale (some' : a ≠ 0) (k : Nat) : (a * 2 ^ k).log2 = a.log2 + k := by
  obtain ⟨low, high⟩ := (Nat.log2_eq_iff some').1 rfl
  refine (Nat.log2_eq_iff (Nat.mul_ne_zero some' (Nat.ne_of_gt (Nat.two_pow_pos k)))).2 ⟨?_, ?_⟩
  · rw [Nat.pow_add]
    exact Nat.mul_le_mul_right _ low
  · rw [Nat.add_right_comm, Nat.pow_add]
    exact Nat.mul_lt_mul_of_pos_right high (Nat.two_pow_pos k)

/-- What is left of a number has 53 bits. -/
theorem div_normal (bits : a.log2 = 52 + n) : 2 ^ 52 ≤ a / 2 ^ n ∧ a / 2 ^ n < 2 ^ 53 := by
  have some' : a ≠ 0 := by
    rintro rfl
    rw [Nat.log2_zero] at bits
    omega
  obtain ⟨low, high⟩ := (Nat.log2_eq_iff some').1 bits
  constructor
  · rw [Nat.le_div_iff_mul_le (Nat.two_pow_pos n), ← Nat.pow_add]
    exact low
  · rw [Nat.div_lt_iff_lt_mul (Nat.two_pow_pos n), ← Nat.pow_add, Nat.add_right_comm 52 1 n]
    exact high

theorem nearest_of_dvd (h : 2 ^ (a.log2 - 52) ∣ a) : nearest a = a := by
  have whole : 2 * (a % 2 ^ (a.log2 - 52)) < 2 ^ (a.log2 - 52) := by
    rw [Nat.mod_eq_zero_of_dvd h]
    exact Nat.two_pow_pos _
  rw [nearest, roundDiv_of_lt whole]
  exact Nat.div_mul_cancel h

/-- A number with no more than 53 bits before its zeros is not changed. -/
theorem nearest_short (short : m < 2 ^ 53) (k : Nat) : nearest (m * 2 ^ k) = m * 2 ^ k := by
  by_cases some' : m = 0
  · rw [some', Nat.zero_mul]
    rfl
  · have bits := (Nat.log2_lt some').2 short
    apply nearest_of_dvd
    rw [log2_scale some']
    exact Nat.dvd_mul_left_of_dvd (Nat.pow_dvd_pow 2 (by omega)) m

theorem roundDiv_scale {c : Nat} (pos : 0 < c) : roundDiv (a * c) (d * c) = roundDiv a d := by
  have rest : a * c % (d * c) = a % d * c := Nat.mul_mod_mul_right c a d
  have whole : a * c / (d * c) = a / d := Nat.mul_div_mul_right a d pos
  have scaled : 2 * (a * c % (d * c)) = 2 * (a % d) * c := by rw [rest, Nat.mul_assoc]
  obtain less | same | more := Nat.lt_trichotomy (2 * (a % d)) d
  · rw [roundDiv_of_lt less, roundDiv_of_lt, whole]
    rw [scaled]
    exact Nat.mul_lt_mul_of_pos_right less pos
  · rw [roundDiv_of_eq same, roundDiv_of_eq, whole]
    rw [scaled, same]
  · rw [roundDiv_of_gt more, roundDiv_of_gt, whole]
    rw [scaled]
    exact Nat.mul_lt_mul_of_pos_right more pos

theorem nearest_scale (long : 2 ^ 52 ≤ a) (k : Nat) : nearest (a * 2 ^ k) = nearest a * 2 ^ k := by
  have bits := log2_long long
  have bits' : (a * 2 ^ k).log2 = 52 + (a.log2 - 52 + k) := by
    rw [log2_scale (by omega)]
    omega
  rw [nearest_eq bits, nearest_eq bits', Nat.pow_add, roundDiv_scale (Nat.two_pow_pos k), Nat.mul_assoc]

/-- Off by one part in `2 ^ 52` at most. -/
structure Near (a b : Nat) : Prop where
  upper : a * 2 ^ 52 ≤ b * 2 ^ 52 + b
  lower : b * 2 ^ 52 ≤ a * 2 ^ 52 + b

theorem nearest_near (a : Nat) : Near (nearest a) a := by
  by_cases long : 2 ^ 52 ≤ a
  · have bits := log2_long long
    obtain ⟨least, most⟩ := roundDiv_bounds a (2 ^ (a.log2 - 52))
    have low := Nat.mul_le_mul_right (2 ^ (a.log2 - 52)) least
    have high := Nat.mul_le_mul_right (2 ^ (a.log2 - 52)) most
    have last := Nat.mod_lt a (Nat.two_pow_pos (a.log2 - 52))
    have parts := Nat.div_add_mod' a (2 ^ (a.log2 - 52))
    have share := (Nat.le_div_iff_mul_le (Nat.two_pow_pos (a.log2 - 52))).1 (div_normal bits).1
    rw [Nat.add_mul, Nat.one_mul] at high
    rw [nearest_eq bits]
    constructor
    · omega
    · omega
  · have short := nearest_short (m := a) (by omega) 0
    rw [Nat.pow_zero, Nat.mul_one] at short
    rw [short]
    constructor
    · omega
    · omega

/-! ### Rounding of doubles -/

theorem targetExponent_eq (t : Int) : Format.binary64.targetExponent t = max (t - 53) (-1074) := rfl

/-- A mantissa of 53 bits or more is shifted so that 53 are left. -/
theorem shiftToTargetExponent_eq {m n : Nat} {e : Int} (bits : m.log2 = 52 + n) (small : -1074 ≤ e) :
    shiftToTargetExponent .binary64 m e .exact =
      ((⟨m, false, false⟩ : ExtendedMantissa) >>> n, e + n) := by
  have amount : (Format.binary64.targetExponent (totalExponent m e) - e).toNat = n := by
    rw [targetExponent_eq, totalExponent, bits]
    omega
  unfold shiftToTargetExponent shiftToExponent
  dsimp only
  rw [amount]
  rfl

theorem roundWithAccuracy_eq {m r : Nat} {e e₁ e₂ : Int} {em₁ em₂ : ExtendedMantissa}
    (first : shiftToTargetExponent .binary64 m e .exact = (em₁, e₁))
    (second : shiftToTargetExponent .binary64 em₁.roundedMantissa e₁ .exact = (em₂, e₂))
    (final : em₂.mantissa = r) (pos : 0 < r) :
    roundWithAccuracy .binary64 .positive m e .exact = .finite .positive r e₂ pos := by
  subst final
  unfold roundWithAccuracy
  rw [first]
  dsimp only
  rw [second]
  exact dif_neg (Nat.ne_of_gt pos)

theorem roundWithAccuracy_normal {e : Int} (bits : m.log2 = 52 + n) (small : -1074 ≤ e) :
    ∃ (r k : Nat) (pos : 0 < r),
      roundWithAccuracy .binary64 .positive m e .exact = .finite .positive r (e + k) pos ∧
        2 ^ 52 ≤ r ∧ r < 2 ^ 53 ∧ n ≤ k ∧ r * 2 ^ k = nearest m := by
  obtain ⟨low, high⟩ := div_normal bits
  obtain ⟨least, most⟩ := roundDiv_bounds m (2 ^ n)
  have first := shiftToTargetExponent_eq bits small
  have rounded := roundedMantissa_shiftRight m n
  generalize ((⟨m, false, false⟩ : ExtendedMantissa) >>> n) = em at first rounded
  have small' : -1074 ≤ e + n := by omega
  rw [nearest_eq bits, ← rounded]
  by_cases fits : em.roundedMantissa < 2 ^ 53
  · have bits' : em.roundedMantissa.log2 = 52 + 0 := log2_normal (by omega) fits
    have second := shiftToTargetExponent_eq bits' small'
    have final : ((⟨em.roundedMantissa, false, false⟩ : ExtendedMantissa) >>> 0).mantissa =
        em.roundedMantissa := rfl
    refine ⟨em.roundedMantissa, n, by omega, ?_, by omega, fits, Nat.le_refl n, rfl⟩
    rw [roundWithAccuracy_eq first second final (by omega), Int.natCast_zero, Int.add_zero]
  · -- the mantissa was rounded up to a power of two, which is shifted once more
    have full : em.roundedMantissa = 2 ^ 53 := by omega
    have second := shiftToTargetExponent_eq (full ▸ Nat.log2_two_pow : _ = 52 + 1) small'
    have final : ((⟨em.roundedMantissa, false, false⟩ : ExtendedMantissa) >>> 1).mantissa =
        2 ^ 52 := by
      rw [full]
      rfl
    refine ⟨2 ^ 52, n + 1, by omega, ?_, Nat.le_refl _, by omega, Nat.le_succ n, ?_⟩
    · rw [roundWithAccuracy_eq first second final (by omega), Int.add_assoc]
      rfl
    · rw [full, ← Nat.pow_add, ← Nat.pow_add, Nat.add_comm n 1, ← Nat.add_assoc]

/-! ### Doubles kept in bits -/

theorem unpackSign_packComponents {spec : Format} {sign exponent mantissa} :
    unpackSign (packComponents spec sign exponent mantissa) = sign.toBitVec := by
  ext i hi
  obtain rfl : i = 0 := by omega
  have above : ¬ spec.mantissaBitsWithoutImplicit + spec.exponentBits <
      spec.mantissaBitsWithoutImplicit := by omega
  unfold unpackSign packComponents
  simp [BitVec.getElem_append, Nat.add_comm, above]

theorem pack_normal {m : Nat} {e : Int} (pos : 0 < m) (low : 2 ^ 52 ≤ m) (high : m < 2 ^ 53)
    (small : -1074 ≤ e) (large : e ≤ 971) :
    UnpackedFloat.pack .binary64 (.finite .positive m e pos) =
      packComponents .binary64 .positive (BitVec.ofNat 11 (e + 1075).toNat) (BitVec.ofNat 52 m) := by
  have exponent : e + (Format.binary64.exponentBias : Int) +
      (Format.binary64.mantissaBitsWithoutImplicit : Int) = e + 1075 := Int.add_assoc e 1023 52
  unfold UnpackedFloat.pack
  dsimp only
  rw [exponent, if_neg (by omega), log2_normal low high]
  exact if_pos rfl

theorem toNat_implicit (y : BitVec 52) : (1#1 ++ y).toNat = 2 ^ 52 + y.toNat := by
  rw [BitVec.toNat_append, ← Nat.shiftLeft_add_eq_or_of_lt y.isLt]
  rfl

theorem unpack_normal {v : BitVec Format.binary64.numBits} (positive : unpackSign v = 0#1)
    (small : 0 < (unpackExponent v).toNat) (large : (unpackExponent v).toNat < 2047) :
    ∃ pos, UnpackedFloat.unpack .binary64 v =
      .finite .positive (1#1 ++ unpackMantissa v).toNat ((unpackExponent v).toNat - 1075) pos := by
  have finite : unpackExponent v ≠ -1#11 := by
    intro infinite
    rw [infinite] at large
    exact absurd large (by decide)
  have some' : unpackExponent v ≠ 0#11 := by
    intro none
    rw [none] at small
    exact absurd small (by decide)
  refine ⟨Nat.lt_of_lt_of_eq (Nat.add_pos_left (Nat.two_pow_pos 52) _) (toNat_implicit _).symm, ?_⟩
  unfold UnpackedFloat.unpack
  dsimp only
  rw [if_neg finite, if_neg some', positive]
  rfl

theorem unpack_pack_normal {m : Nat} {e : Int} (pos : 0 < m) (low : 2 ^ 52 ≤ m) (high : m < 2 ^ 53)
    (small : -1074 ≤ e) (large : e ≤ 971) :
    (Float.Model.pack (.finite .positive m e pos)).unpack = .finite .positive m e pos := by
  have same {m' : Nat} {e' : Int} {pos' : 0 < m'} (hm : m' = m) (he : e' = e) :
      finite .positive m' e' pos' = .finite .positive m e pos := by
    subst hm he
    rfl
  obtain ⟨v, packed⟩ : ∃ v, UnpackedFloat.pack .binary64 (.finite .positive m e pos) = v := ⟨_, rfl⟩
  have parts := (pack_normal pos low high small large).symm.trans packed
  have positive : unpackSign v = 0#1 := by
    rw [← parts, unpackSign_packComponents]
    rfl
  have exponent : (unpackExponent v).toNat = (e + 1075).toNat := by
    have fits : (e + 1075).toNat < 2 ^ 11 := by omega
    rw [← parts, unpackExponent_packComponents, BitVec.toNat_ofNat]
    exact Nat.mod_eq_of_lt fits
  have mantissa : (1#1 ++ unpackMantissa v).toNat = m := by
    rw [← parts, unpackMantissa_packComponents]
    refine (toNat_implicit _).trans ?_
    rw [BitVec.toNat_ofNat]
    omega
  obtain ⟨pos', unpacked⟩ := unpack_normal positive (by omega) (by omega)
  change UnpackedFloat.unpack .binary64 (UnpackedFloat.pack .binary64 (.finite .positive m e pos)) = _
  rw [packed, unpacked]
  exact same mantissa (by omega)

/-! ### Units -/

/-- A double that is zero, or positive with the usual 53 bits, as a number of units of `2 ^ -56`. -/
inductive Counts : UnpackedFloat → Nat → Prop where
  | zero : Counts (.zero .positive) 0
  | normal {m k : Nat} (pos : 0 < m) (low : 2 ^ 52 ≤ m) (high : m < 2 ^ 53) (large : k ≤ 200) :
      Counts (.finite .positive m (k - 56) pos) (m * 2 ^ k)

/-- The number of units, if there is one. -/
def units? : UnpackedFloat → Option Nat
  | .zero .positive => some 0
  | .finite .positive m e _ =>
    if 2 ^ 52 ≤ m ∧ m < 2 ^ 53 ∧ -56 ≤ e ∧ e ≤ 140 then some (m * 2 ^ (e + 56).toNat) else none
  | _ => none

variable {u w : UnpackedFloat} {a b : Nat}

theorem counts_of_units? (h : units? u = some a) : Counts u a := by
  cases u with
  | notANumber => cases h
  | infinity sign => cases h
  | zero sign =>
    cases sign with
    | negative => cases h
    | positive =>
      obtain rfl := Option.some.inj h
      exact .zero
  | finite sign m e pos =>
    cases sign with
    | negative => cases h
    | positive =>
      obtain ⟨⟨low, high, small, large⟩, same⟩ := Option.ite_none_right_eq_some.1 h
      obtain rfl := Option.some.inj same
      have exponent : e = ((e + 56).toNat : Int) - 56 := by omega
      have counts := Counts.normal pos low high (k := (e + 56).toNat) (by omega)
      rw [← exponent] at counts
      exact counts

theorem Counts.unpack_pack (h : Counts u a) : (Float.Model.pack u).unpack = u := by
  cases h with
  | zero => rfl
  | normal pos low high large => exact unpack_pack_normal pos low high (by omega) (by omega)

theorem normal_lt {m m' k k' : Nat} (high : m < 2 ^ 53) (low : 2 ^ 52 ≤ m') (less : k < k') :
    m * 2 ^ k < m' * 2 ^ k' := by
  calc m * 2 ^ k < 2 ^ 53 * 2 ^ k := Nat.mul_lt_mul_of_pos_right high (Nat.two_pow_pos k)
    _ = 2 ^ 52 * 2 ^ (k + 1) := by rw [← Nat.pow_add, ← Nat.pow_add, Nat.add_comm k 1, ← Nat.add_assoc]
    _ ≤ m' * 2 ^ k' := Nat.mul_le_mul low (Nat.pow_le_pow_right (by decide) less)

/-- Doubles are ordered as their units. -/
theorem Counts.lt_iff (hu : Counts u a) (hw : Counts w b) : u.lt w = true ↔ a < b := by
  unfold UnpackedFloat.lt
  rw [beq_iff_eq]
  cases hu with
  | zero =>
    cases hw with
    | zero => exact iff_of_false nofun (Nat.lt_irrefl 0)
    | normal pos low high large =>
      exact iff_of_true rfl (Nat.mul_pos pos (Nat.two_pow_pos _))
  | normal pos low high large =>
    rename_i m k
    cases hw with
    | zero => exact iff_of_false nofun (Nat.not_lt_zero _)
    | normal pos' low' high' large' =>
      rename_i m' k'
      change some ((compare ((k : Int) - 56) (k' - 56)).then (compare m m')) = some .lt ↔ _
      rw [Option.some_inj]
      obtain less | rfl | more := Nat.lt_trichotomy k k'
      · rw [Int.compare_eq_lt.2 (by omega)]
        exact iff_of_true rfl (normal_lt high low' less)
      · rw [Int.compare_eq_eq.2 rfl, Nat.mul_lt_mul_right (Nat.two_pow_pos k)]
        exact Nat.compare_eq_lt
      · rw [Int.compare_eq_gt.2 (by omega)]
        exact iff_of_false nofun (Nat.lt_asymm (normal_lt high' low more))

/-- A double of that many units is not rounded. -/
theorem Counts.nearest_eq (h : Counts u a) : nearest a = a := by
  cases h with
  | zero => rfl
  | normal pos low high large => exact nearest_short high _

/-- Where a mantissa is rounded, the double counts the units rounded. The exponent is that of the
product of two mantissas, in units each; `t = k + 56` is that of one in units. -/
theorem counts_roundWithAccuracy {t : Nat} (long : 2 ^ 52 ≤ m) (large : 2 ^ 52 ≤ a)
    (bounded : a < 2 ^ 200) (units : m * 2 ^ t = a * 2 ^ 56) :
    Counts (roundWithAccuracy .binary64 .positive m (t - 112) .exact) (nearest a) := by
  have bits := log2_long long
  obtain ⟨r, k, pos, rounded, low, high, last, value⟩ :=
    roundWithAccuracy_normal bits (e := (t : Int) - 112) (by omega)
  -- the units rounded have 53 bits too, so what is left is a whole number of them
  have above : 56 ≤ t + k := by
    have size : 2 ^ (52 + 56) < 2 ^ (m.log2 + 1 + t) := by
      calc 2 ^ (52 + 56) ≤ a * 2 ^ 56 := by
            rw [Nat.pow_add]
            exact Nat.mul_le_mul_right _ large
        _ = m * 2 ^ t := units.symm
        _ < 2 ^ (m.log2 + 1 + t) := by
            rw [Nat.pow_add]
            exact Nat.mul_lt_mul_of_pos_right Nat.lt_log2_self (Nat.two_pow_pos t)
    have less := (Nat.pow_lt_pow_iff_right (by decide)).1 size
    omega
  have count : r * 2 ^ (t + k - 56) = nearest a := by
    apply Nat.eq_of_mul_eq_mul_right (Nat.two_pow_pos 56)
    rw [Nat.mul_assoc, ← Nat.pow_add, Nat.sub_add_cancel above, Nat.add_comm t k, Nat.pow_add,
      ← Nat.mul_assoc, value, ← nearest_scale long, units, nearest_scale large]
  have small : t + k - 56 ≤ 200 := by
    have close := (nearest_near a).upper
    have size : 2 ^ (52 + (t + k - 56)) < 2 ^ 201 := by
      calc 2 ^ (52 + (t + k - 56)) ≤ r * 2 ^ (t + k - 56) := by
            rw [Nat.pow_add]
            exact Nat.mul_le_mul_right _ low
        _ < 2 ^ 201 := by omega
    have less := (Nat.pow_lt_pow_iff_right (by decide)).1 size
    omega
  have exponent : (t : Int) - 112 + k = ((t + k - 56 : Nat) : Int) - 56 := by omega
  rw [rounded, ← count, exponent]
  exact .normal pos low high small

/-! ### Sums and products -/

theorem round_eq (long : 2 ^ 52 ≤ m) (e : Int) :
    UnpackedFloat.round .binary64 .positive m e = roundWithAccuracy .binary64 .positive m e .exact := by
  have amount : (e - Format.binary64.targetExponent (totalExponent m e)).toNat = 0 := by
    rw [targetExponent_eq, totalExponent, log2_long long]
    omega
  unfold UnpackedFloat.round decreaseExponent
  dsimp only
  rw [amount, Nat.shiftLeft_zero, Int.natCast_zero, Int.sub_zero]

theorem add_normal {m m' k k' : Nat} (pos : 0 < m) (pos' : 0 < m') :
    (finite .positive m (k - 56) pos).add .binary64 (.finite .positive m' (k' - 56) pos') =
      UnpackedFloat.round .binary64 .positive (m * 2 ^ (k - min k k') + m' * 2 ^ (k' - min k k'))
        ((min k k' : Nat) - 56) := by
  have exponent : min ((k : Int) - 56) (k' - 56) = ((min k k' : Nat) : Int) - 56 := by omega
  have amount : ((k : Int) - 56 - ((min k k' : Nat) - 56)).toNat = k - min k k' := by omega
  have amount' : ((k' : Int) - 56 - ((min k k' : Nat) - 56)).toNat = k' - min k k' := by omega
  unfold UnpackedFloat.add decreaseExponent
  dsimp only
  rw [exponent, amount, amount', Nat.shiftLeft_eq, Nat.shiftLeft_eq]
  generalize sum : m * 2 ^ (k - min k k') + m' * 2 ^ (k' - min k k') = n
  have some' : 0 < n := by
    rw [← sum]
    exact Nat.add_pos_left (Nat.mul_pos pos (Nat.two_pow_pos _)) _
  have int : Sign.positive.apply (m * 2 ^ (k - min k k') : Nat) +
      Sign.positive.apply (m' * 2 ^ (k' - min k k') : Nat) = (n : Int) := by
    rw [← sum]
    rfl
  rw [int]
  unfold UnpackedFloat.normalize
  rw [Int.compare_eq_gt.2 (by omega)]
  rfl

theorem Counts.add (hu : Counts u a) (hw : Counts w b) (bounded : a + b < 2 ^ 200) :
    Counts (u.add .binary64 w) (nearest (a + b)) := by
  cases hu with
  | zero =>
    rw [Nat.zero_add, hw.nearest_eq]
    cases hw with
    | zero => exact .zero
    | normal pos low high large => exact .normal pos low high large
  | normal pos low high large =>
    rename_i m k
    cases hw with
    | zero =>
      rw [Nat.add_zero, nearest_short high]
      exact .normal pos low high large
    | normal pos' low' high' large' =>
      rename_i m' k'
      have shared {m k l : Nat} (less : l ≤ k) : m * 2 ^ (k - l) * 2 ^ l = m * 2 ^ k := by
        rw [Nat.mul_assoc, ← Nat.pow_add, Nat.sub_add_cancel less]
      have sum : (m * 2 ^ (k - min k k') + m' * 2 ^ (k' - min k k')) * 2 ^ min k k' =
          m * 2 ^ k + m' * 2 ^ k' := by
        rw [Nat.add_mul, shared (Nat.min_le_left k k'), shared (Nat.min_le_right k k')]
      have long : 2 ^ 52 ≤ m * 2 ^ (k - min k k') + m' * 2 ^ (k' - min k k') :=
        Nat.le_add_right_of_le (Nat.le_trans low (Nat.le_mul_of_pos_right m (Nat.two_pow_pos _)))
      have exponent : ((min k k' : Nat) : Int) - 56 = ((min k k' + 56 : Nat) : Int) - 112 := by omega
      rw [add_normal, round_eq long, exponent]
      refine counts_roundWithAccuracy long ?_ bounded ?_
      · rw [← sum]
        exact Nat.le_trans long (Nat.le_mul_of_pos_right _ (Nat.two_pow_pos _))
      · rw [Nat.pow_add, ← Nat.mul_assoc, sum]

/-- A double times one that is a whole number. -/
theorem Counts.mul (hu : Counts u a) (hw : Counts w (n * 2 ^ 56)) (bounded : a * n < 2 ^ 200) :
    Counts (u.mul .binary64 w) (nearest (a * n)) := by
  generalize whole : n * 2 ^ 56 = b at hw
  cases hu with
  | zero =>
    rw [Nat.zero_mul]
    cases hw with
    | zero => exact .zero
    | normal pos low high large => exact .zero
  | normal pos low high large =>
    rename_i m k
    cases hw with
    | zero =>
      obtain rfl : n = 0 := by omega
      rw [Nat.mul_zero]
      exact .zero
    | normal pos' low' high' large' =>
      rename_i m' k'
      have some' : n ≠ 0 := by
        rintro rfl
        have size := Nat.mul_pos pos' (Nat.two_pow_pos k')
        omega
      have exponent : (k : Int) - 56 + (k' - 56) = ((k + k' : Nat) : Int) - 112 := by omega
      change Counts (roundWithAccuracy .binary64 .positive (m * m') (k - 56 + (k' - 56)) .exact) _
      rw [exponent]
      refine counts_roundWithAccuracy ?_ ?_ bounded ?_
      · exact Nat.le_trans low (Nat.le_mul_of_pos_right m pos')
      · rw [Nat.mul_assoc]
        exact Nat.le_trans low (Nat.le_mul_of_pos_right m
          (Nat.mul_pos (Nat.two_pow_pos k) (Nat.pos_of_ne_zero some')))
      · rw [Nat.mul_assoc _ n, whole, Nat.pow_add]
        exact Nat.mul_mul_mul_comm m m' _ _

/-! ### Floating-point numbers -/

variable {x y : Float}

theorem counts_add (hx : Counts x.toModel.unpack a) (hy : Counts y.toModel.unpack b)
    (bounded : a + b < 2 ^ 200) : Counts (x + y).toModel.unpack (nearest (a + b)) := by
  have sum : (x + y).toModel = .pack (x.toModel.unpack.add .binary64 y.toModel.unpack) := rfl
  have counts := hx.add hy bounded
  rw [sum, counts.unpack_pack]
  exact counts

theorem counts_mul (hx : Counts x.toModel.unpack a) (hy : Counts y.toModel.unpack (n * 2 ^ 56))
    (bounded : a * n < 2 ^ 200) : Counts (x * y).toModel.unpack (nearest (a * n)) := by
  have product : (x * y).toModel = .pack (x.toModel.unpack.mul .binary64 y.toModel.unpack) := rfl
  have counts := hx.mul hy bounded
  rw [product, counts.unpack_pack]
  exact counts

theorem lt_iff_of_counts (hx : Counts x.toModel.unpack a) (hy : Counts y.toModel.unpack b) :
    x < y ↔ a < b := by
  rw [← hx.lt_iff hy]
  exact decide_eq_true_iff

/-- A whole number of no more than 53 bits is filled up to these. -/
theorem counts_normalize (short : n < 2 ^ 53) :
    Counts (UnpackedFloat.normalize .binary64 n 0 .positive) (n * 2 ^ 56) := by
  by_cases some' : n = 0
  · rw [some']
    exact .zero
  · have bits := (Nat.log2_lt some').2 short
    have amount : (0 - Format.binary64.targetExponent (totalExponent n 0)).toNat = 52 - n.log2 := by
      rw [targetExponent_eq, totalExponent]
      omega
    have exponent : (0 : Int) - (52 - n.log2 : Nat) = ((60 + n.log2 : Nat) : Int) - 112 := by omega
    have long : 2 ^ 52 ≤ n * 2 ^ (52 - n.log2) := by
      calc 2 ^ 52 = 2 ^ n.log2 * 2 ^ (52 - n.log2) := by
            rw [← Nat.pow_add]
            congr 1
            omega
        _ ≤ n * 2 ^ (52 - n.log2) := Nat.mul_le_mul_right _ (Nat.log2_self_le some')
    unfold UnpackedFloat.normalize
    rw [Int.compare_eq_gt.2 (by omega)]
    change Counts (UnpackedFloat.round .binary64 .positive n 0) _
    unfold UnpackedFloat.round decreaseExponent
    dsimp only
    rw [amount, exponent, Nat.shiftLeft_eq, ← nearest_short short 56]
    refine counts_roundWithAccuracy long (by omega) (by omega) ?_
    rw [Nat.mul_assoc, Nat.mul_assoc, ← Nat.pow_add, ← Nat.pow_add]
    congr 2
    omega

theorem counts_ofInt (short : n < 2 ^ 53) : Counts (ofInt n).toModel.unpack (n * 2 ^ 56) := by
  have whole : ofInt n = n.toUInt64.toFloat * Float.ofBits 0x3FF0000000000000 := by
    rw [ofInt, if_neg (by omega), Int.natAbs_natCast, Float.ofScientific, dif_pos ⟨short, by decide⟩]
    rfl
  have one : Counts (Float.ofBits 0x3FF0000000000000).toModel.unpack (1 * 2 ^ 56) :=
    counts_of_units? (by decide +kernel)
  have model : n.toUInt64.toFloat.toModel =
      .pack (UnpackedFloat.normalize .binary64 n.toUInt64.toNat 0 .positive) := rfl
  have same : n.toUInt64.toNat = n := by
    rw [Nat.toUInt64_eq, UInt64.toNat_ofNat']
    omega
  have counts := counts_normalize short
  have first : Counts n.toUInt64.toFloat.toModel.unpack (n * 2 ^ 56) := by
    rw [model, same, counts.unpack_pack]
    exact counts
  have product := counts_mul first one (by omega)
  rw [Nat.mul_one, nearest_short short] at product
  rw [whole]
  exact product

end PageSkins.Decimal
