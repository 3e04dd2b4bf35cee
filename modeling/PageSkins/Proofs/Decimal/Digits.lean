import PageSkins.Decimal.Notation

/-!
# Digits read back

The digits that a number is written with give the number back, in every base up to the
number of digits there are, and a number other than zero has no zero in front.
-/

namespace PageSkins.Decimal

variable {b n : Nat} {c : Char}

theorem mem_toDigits (hb : 1 < b) (h : c ∈ Nat.toDigits b n) : ∃ d < b, c = d.digitChar := by
  induction n using Nat.strongRecOn with
  | ind n ih =>
    rw [Nat.toDigits_eq_if hb] at h
    split at h
    · rename_i small
      exact ⟨n, small, List.mem_singleton.1 h⟩
    · rename_i large
      rcases List.mem_append.1 h with h | h
      · exact ih (n / b) (Nat.div_lt_self (by omega) hb) h
      · exact ⟨n % b, Nat.mod_lt n (by omega), List.mem_singleton.1 h⟩

/-- Digits are read by any function that knows the digits of the base. -/
theorem foldl_toDigits (hb : 1 < b) {value : Char → Nat}
    (reads : ∀ d < b, value d.digitChar = d) (n : Nat) :
    (Nat.toDigits b n).foldl (fun m c => m * b + value c) 0 = n := by
  induction n using Nat.strongRecOn with
  | ind n ih =>
    rw [Nat.toDigits_eq_if hb]
    split
    · rename_i small
      simp [reads n small]
    · rename_i large
      have whole := ih (n / b) (Nat.div_lt_self (by omega) hb)
      rw [List.foldl_append, whole, List.foldl_cons, List.foldl_nil,
        reads _ (Nat.mod_lt n (by omega)), Nat.mul_comm]
      exact Nat.div_add_mod n b

theorem head_toDigits (hb : 1 < b) (hn : 0 < n) : (Nat.toDigits b n).head? ≠ some '0' := by
  induction n using Nat.strongRecOn with
  | ind n ih =>
    rw [Nat.toDigits_eq_if hb]
    split
    · rw [List.head?_cons, ne_eq, Option.some.injEq, Nat.digitChar_eq_zero]
      omega
    · rename_i large
      have rest := ih (n / b) (Nat.div_lt_self hn hb) (Nat.div_pos (by omega) (by omega))
      obtain ⟨d, ds, front⟩ := List.exists_cons_of_ne_nil (Nat.toDigits_ne_nil (n := n / b) (b := b))
      rw [front] at rest ⊢
      exact rest

theorem isDigit_of_mem_natDigits (h : c ∈ natDigits n) : c.isDigit = true :=
  Nat.isDigit_of_mem_toDigits (by decide) (by decide) h

theorem natDigits_ne_nil (n : Nat) : natDigits n ≠ [] := Nat.toDigits_ne_nil

theorem foldl_natDigits (n : Nat) :
    (natDigits n).foldl (fun m c => m * 10 + (c.toNat - 48)) 0 = n :=
  foldl_toDigits (by decide) (by decide) n

end PageSkins.Decimal
