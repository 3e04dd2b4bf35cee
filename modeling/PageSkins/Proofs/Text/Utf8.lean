import Mathlib.Tactic.Basic
import PageSkins.Text.Utf8

/-!
# Text as bytes and back

The bytes of a text are read as that text again, and a text of ASCII takes a byte for
each character.
-/

namespace PageSkins.Text

theorem toNat_toUInt8 {b : Nat} (hb : b < 256) : b.toUInt8.toNat = b := by
  simp only [Nat.toUInt8, UInt8.toNat_ofNat']
  omega

/-! ### Bytes that follow a first one -/

theorem takeFollowing_cons {left value low high : Nat} {b : Nat} (hb : b < 256)
    (above : low ≤ b) (below : b ≤ high) (bs : List UInt8) :
    takeFollowing (left + 1) value low high (b.toUInt8 :: bs) =
      takeFollowing left (value * 64 + b % 64) 0x80 0xBF bs := by
  rw [takeFollowing, toNat_toUInt8 hb, if_pos ⟨above, below⟩]

theorem range_of_char (c : Char) :
    c.toNat < 0xD800 ∨ (0xDFFF < c.toNat ∧ c.toNat < 0x110000) := c.valid

/-- A first byte and those that it announces, where the first has its range. -/
theorem decodeBytes_cons {fuel first left value low high n : Nat} {bs rest : List UInt8}
    (lead : leadByte? first.toUInt8 = some (left, value, low, high))
    (follow : takeFollowing left value low high bs = (some n, rest)) :
    decodeBytes (fuel + 1) (first.toUInt8 :: bs) = some (Char.ofNat n) :: decodeBytes fuel rest := by
  rw [decodeBytes, lead]
  dsimp only
  rw [follow]
  rfl

theorem leadByte?_two {n : Nat} (low : 0x80 ≤ n) (high : n < 0x800) :
    leadByte? (0xC0 + n / 64).toUInt8 = some (1, n / 64, 0x80, 0xBF) := by
  unfold leadByte?
  rw [toNat_toUInt8 (by omega)]
  simp only [show ¬ 192 + n / 64 < 128 by omega, show ¬ 192 + n / 64 < 194 by omega,
    show 192 + n / 64 < 224 by omega, if_false, if_true]
  simp

/-- The range of the byte after a first one of three: no shorter form and no surrogate. -/
theorem leadByte?_three {n : Nat} (low : 0x800 ≤ n) (high : n < 0x10000)
    (range : n < 0xD800 ∨ 0xDFFF < n) :
    ∃ lo hi, leadByte? (0xE0 + n / 4096).toUInt8 = some (2, n / 4096, lo, hi) ∧
      lo ≤ 0x80 + n / 64 % 64 ∧ 0x80 + n / 64 % 64 ≤ hi := by
  unfold leadByte?
  rw [toNat_toUInt8 (by omega)]
  simp only [show ¬ 224 + n / 4096 < 128 by omega, show ¬ 224 + n / 4096 < 194 by omega,
    show ¬ 224 + n / 4096 < 224 by omega, if_false]
  by_cases least : n / 4096 = 0
  · exact ⟨0xA0, 0xBF, by simp [least], by omega, by omega⟩
  · by_cases surrogate : n / 4096 = 0xD
    · exact ⟨0x80, 0x9F, by simp [surrogate], by omega, by omega⟩
    · refine ⟨0x80, 0xBF, ?_, by omega, by omega⟩
      rw [if_neg (by omega), if_neg (by omega), if_pos (by omega)]
      simp

theorem leadByte?_four {n : Nat} (low : 0x10000 ≤ n) (high : n < 0x110000) :
    ∃ lo hi, leadByte? (0xF0 + n / 262144).toUInt8 = some (3, n / 262144, lo, hi) ∧
      lo ≤ 0x80 + n / 4096 % 64 ∧ 0x80 + n / 4096 % 64 ≤ hi := by
  unfold leadByte?
  rw [toNat_toUInt8 (by omega)]
  simp only [show ¬ 240 + n / 262144 < 128 by omega, show ¬ 240 + n / 262144 < 194 by omega,
    show ¬ 240 + n / 262144 < 224 by omega, show ¬ 240 + n / 262144 = 224 by omega,
    show ¬ 240 + n / 262144 = 237 by omega, show ¬ 240 + n / 262144 < 240 by omega, if_false]
  by_cases least : n / 262144 = 0
  · exact ⟨0x90, 0xBF, by simp [least], by omega, by omega⟩
  · by_cases last : n / 262144 = 4
    · exact ⟨0x80, 0x8F, by simp [last], by omega, by omega⟩
    · refine ⟨0x80, 0xBF, ?_, by omega, by omega⟩
      rw [if_neg (by omega), if_pos (by omega)]
      simp

/-- A character's bytes are read as that character. -/
theorem decodeBytes_encodeChar (c : Char) (fuel : Nat) (bs : List UInt8) :
    decodeBytes (fuel + 1) (encodeChar c ++ bs) = some c :: decodeBytes fuel bs := by
  have range := range_of_char c
  unfold encodeChar
  dsimp only
  generalize number : c.toNat = n at range
  have whole : Char.ofNat n = c := by rw [← number, Char.ofNat_toNat]
  split
  · rename_i one
    have lead : leadByte? n.toUInt8 = some (0, n, 0, 0) := by
      unfold leadByte?
      rw [toNat_toUInt8 (by omega), if_pos one]
    rw [List.cons_append, List.nil_append, decodeBytes_cons lead rfl, whole]
  · rename_i more
    split
    · rename_i two
      rw [List.cons_append, decodeBytes_cons (leadByte?_two (by omega) two), ← whole]
      rw [List.cons_append, takeFollowing_cons (by omega) (by omega) (by omega), takeFollowing]
      rw [show n / 64 * 64 + (128 + n % 64) % 64 = n by omega, List.nil_append]
    · split
      · rename_i three
        obtain ⟨lo, hi, lead, above, below⟩ :=
          leadByte?_three (n := n) (by omega) (by omega) (by omega)
        rw [List.cons_append, decodeBytes_cons lead, ← whole]
        rw [List.cons_append, takeFollowing_cons (by omega) above below, List.cons_append,
          takeFollowing_cons (by omega) (by omega) (by omega), takeFollowing, List.nil_append]
        congr 2
        omega
      · obtain ⟨lo, hi, lead, above, below⟩ := leadByte?_four (n := n) (by omega) (by omega)
        rw [List.cons_append, decodeBytes_cons lead, ← whole]
        rw [List.cons_append, takeFollowing_cons (by omega) above below, List.cons_append,
          takeFollowing_cons (by omega) (by omega) (by omega), List.cons_append,
          takeFollowing_cons (by omega) (by omega) (by omega), takeFollowing, List.nil_append]
        congr 2
        omega

/-! ### Whole texts -/

theorem decodeBytes_encodeUtf8 {s : List Char} {fuel : Nat} (enough : s.length ≤ fuel) :
    decodeBytes fuel (encodeUtf8 s) = s.map some := by
  induction s generalizing fuel with
  | nil => cases fuel <;> rfl
  | cons c s ih =>
    obtain ⟨fuel, rfl⟩ : ∃ n, fuel = n + 1 := ⟨fuel - 1, by simp at enough; omega⟩
    rw [encodeUtf8, List.flatMap_cons, decodeBytes_encodeChar]
    exact congrArg _ (ih (Nat.le_of_succ_le_succ enough))

theorem length_encodeChar (c : Char) : 0 < (encodeChar c).length := by
  unfold encodeChar
  dsimp only
  repeat' split
  all_goals exact Nat.succ_pos _

theorem length_le_encodeUtf8 (s : List Char) : s.length ≤ (encodeUtf8 s).length := by
  induction s with
  | nil => exact Nat.le_refl _
  | cons c s ih =>
    have one := length_encodeChar c
    rw [encodeUtf8, List.flatMap_cons, List.length_append, List.length_cons]
    unfold encodeUtf8 at ih
    omega

theorem decodeUtf8?_encodeUtf8 (s : List Char) : decodeUtf8? (encodeUtf8 s) = some s := by
  rw [decodeUtf8?, decodeBytes_encodeUtf8 (length_le_encodeUtf8 s)]
  induction s with
  | nil => rfl
  | cons c s ih =>
    rw [List.map_cons, List.mapM_cons, ih]
    rfl

theorem length_encodeUtf8_of_ascii {s : List Char} (h : ∀ c ∈ s, c.toNat < 0x80) :
    (encodeUtf8 s).length = s.length := by
  induction s with
  | nil => rfl
  | cons c s ih =>
    have one : (encodeChar c).length = 1 := by
      unfold encodeChar
      dsimp only
      rw [if_pos (h c List.mem_cons_self), List.length_singleton]
    have rest := ih fun d hd => h d (List.mem_cons_of_mem c hd)
    unfold encodeUtf8 at rest ⊢
    rw [List.flatMap_cons, List.length_append, one, rest, List.length_cons, Nat.add_comm]

end PageSkins.Text
