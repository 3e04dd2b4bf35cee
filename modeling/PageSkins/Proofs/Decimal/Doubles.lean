import PageSkins.Retry

/-!
# Doubles that clocks and delays meet

The logic knows the bits of a double. That is enough for two facts: what is left when a
double is taken from itself, and where the powers of two end.
-/

namespace PageSkins.Decimal

open Float.Model

/-- A double taken from itself leaves zero, or nothing that is a number. -/
theorem unpacked_sub_self (format : Format) (u : UnpackedFloat) :
    u.sub format u = .notANumber ∨ u.sub format u = .zero .positive := by
  cases u with
  | notANumber => exact .inl rfl
  | infinity sign =>
    cases sign with
    | negative => exact .inl rfl
    | positive => exact .inl rfl
  | zero sign =>
    cases sign with
    | negative => exact .inr rfl
    | positive => exact .inr rfl
  | finite sign mantissa exponent positive =>
    right
    let shifted := (UnpackedFloat.decreaseExponent mantissa exponent (min exponent exponent)).1
    change UnpackedFloat.normalize format (sign.apply shifted - sign.apply shifted) _ .positive = _
    rw [Int.sub_self]
    rfl

/-- No time above zero passes between two readings of a clock that stands still. -/
theorem sub_self_below (now : Number) :
    ∃ passed, Amount.sub now now = .ok passed ∧ Amount.atMost (.float 60.0) passed = false := by
  cases now with
  | int n =>
    refine ⟨.int (n - n), rfl, ?_⟩
    rw [Int.sub_self]
    decide +kernel
  | float x =>
    refine ⟨.float (x - x), rfl, ?_⟩
    have difference :
        x - x = .ofModel (pack (x.toModel.unpack.sub .binary64 x.toModel.unpack)) := rfl
    rw [difference]
    obtain nothing | zero := unpacked_sub_self .binary64 x.toModel.unpack
    · rw [nothing]
      decide +kernel
    · rw [zero]
      decide +kernel

theorem powerOfDouble_of_binaryExponent {x : Float} {k : Nat}
    (h : Number.binaryExponent? x = some k) (n : Nat) :
    Number.powerOfDouble x n =
      if k * n < 1024 then .ok (ofInt (Int.pow 2 (k * n))) else .error .tooLarge := by
  unfold Number.powerOfDouble
  rw [h]

/-- The powers of two are doubles below `2 ^ 1024`, and there they end. -/
theorem power_two (n : Nat) :
    Number.power (.float 2.0) n =
      if n < 1024 then .ok (.float (ofInt (Int.pow 2 n))) else .error .tooLarge := by
  have exponent : Number.binaryExponent? 2.0 = some 1 := by
    decide +kernel
  rw [Number.power, powerOfDouble_of_binaryExponent exponent, Nat.one_mul]
  split
  · rfl
  · rfl

end PageSkins.Decimal
