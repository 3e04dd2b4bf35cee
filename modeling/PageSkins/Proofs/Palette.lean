import PageSkins.Palette
import PageSkins.Proofs.Decimal.Rounding
import PageSkins.Proofs.Lists

/-!
# Light and dark colours

The brightness of a colour is a sum of three products of doubles, each of them rounded. Where the
exact sum is not the threshold, it is so far from it that rounding does not matter. Where it is,
the colour should count as light, but for 46 colours the rounded sum falls short of the threshold.
-/

namespace PageSkins.Rgb

open PageSkins.Decimal PageSkins.Text

variable {c : Rgb} {s : List Char}

/-! ### Parts of colours -/

structure InRange (c : Rgb) : Prop where
  red : c.red ≤ 255
  green : c.green ≤ 255
  blue : c.blue ≤ 255

theorem hexDigit?_le {d : Char} {n : Nat} (h : hexDigit? d = some n) : n ≤ 15 := by
  have toNat_le {d e : Char} (less : d ≤ e) : d.toNat ≤ e.toNat := UInt32.le_iff_toNat_le.1 less
  unfold hexDigit? at h
  split at h
  · rename_i digit
    have high : d.toNat ≤ 57 := toNat_le digit.2
    have value := Option.some.inj h
    omega
  split at h
  · rename_i lower
    have high : d.toNat ≤ 102 := toNat_le lower.2
    have value := Option.some.inj h
    omega
  split at h
  · rename_i upper
    have high : d.toNat ≤ 70 := toNat_le upper.2
    have value := Option.some.inj h
    omega
  · cases h

theorem inRange_of_ofHex? (h : ofHex? s = some c) : c.InRange := by
  obtain ⟨digits, read, h⟩ := Option.bind_eq_some_iff.1 h
  have small : ∀ n ∈ digits, n ≤ 15 := by
    intro n hn
    obtain ⟨d, -, value⟩ := exists_of_mem_mapM read hn
    exact hexDigit?_le value
  split at h
  · obtain rfl := Option.some.inj h
    simp only [List.forall_mem_cons] at small
    constructor
    all_goals
      dsimp only
      omega
  · obtain rfl := Option.some.inj h
    simp only [List.forall_mem_cons] at small
    constructor
    all_goals
      dsimp only
      omega
  · cases h

theorem part?_le {x : Float} {n : Nat} (h : part? x = some n) : n ≤ 255 := by
  obtain ⟨k, -, rfl⟩ := Option.map_eq_some_iff.1 h
  exact Nat.min_le_left _ _

theorem inRange_of_read (h : read s = .color c) : c.InRange := by
  have black : Rgb.black.InRange := ⟨Nat.zero_le _, Nat.zero_le _, Nat.zero_le _⟩
  unfold read at h
  dsimp only at h
  split at h
  · rename_i hex
    obtain rfl := Reading.color.inj h
    split at hex
    · exact inRange_of_ofHex? hex
    · cases hex
  split at h
  · split at h
    · split at h
      · rename_i red green blue
        obtain rfl := Reading.color.inj h
        exact ⟨part?_le red, part?_le green, part?_le blue⟩
      · cases h
    · obtain rfl := Reading.color.inj h
      exact black
  · obtain rfl := Reading.color.inj h
    exact black

/-! ### Brightness in units -/

/-- The luma of a colour in thousandths. -/
def luma (c : Rgb) : Nat := 299 * c.red + 587 * c.green + 114 * c.blue

/-- The weights of the parts in units of `2 ^ -56`; they are rounded too. -/
def redWeight : Nat := 21545220617340452

@[inherit_doc redWeight]
def greenWeight : Nat := 42297807700263696

@[inherit_doc redWeight]
def blueWeight : Nat := 8214565720323785

/-- The brightness of a colour in units of `2 ^ -56`. -/
def brightnessUnits (c : Rgb) : Nat :=
  nearest (nearest (nearest (redWeight * c.red) + nearest (greenWeight * c.green)) +
    nearest (blueWeight * c.blue))

/-- What a part adds to the brightness is no more than twice the weight of 255. -/
theorem counts_part {x : Float} {weight n : Nat} (hx : Counts x.toModel.unpack weight)
    (light : weight < 2 ^ 56) (small : n ≤ 255) :
    Counts (x * ofInt n).toModel.unpack (nearest (weight * n)) ∧ nearest (weight * n) < 2 ^ 65 := by
  have exact' : weight * n ≤ 2 ^ 56 * 255 := Nat.mul_le_mul (Nat.le_of_lt light) small
  have rounded := (nearest_near (weight * n)).upper
  constructor
  · exact counts_mul hx (counts_ofInt (by omega)) (by omega)
  · omega

theorem counts_brightness (h : c.InRange) : Counts c.brightness.toModel.unpack c.brightnessUnits := by
  have weights : Counts (0.299 : Float).toModel.unpack redWeight ∧
      Counts (0.587 : Float).toModel.unpack greenWeight ∧
      Counts (0.114 : Float).toModel.unpack blueWeight :=
    ⟨counts_of_units? (by decide +kernel), counts_of_units? (by decide +kernel),
      counts_of_units? (by decide +kernel)⟩
  obtain ⟨red, hr⟩ := counts_part weights.1 (by decide) h.red
  obtain ⟨green, hg⟩ := counts_part weights.2.1 (by decide) h.green
  obtain ⟨blue, hb⟩ := counts_part weights.2.2 (by decide) h.blue
  have sum := (nearest_near (nearest (redWeight * c.red) + nearest (greenWeight * c.green))).upper
  exact counts_add (counts_add red green (by omega)) blue (by omega)

theorem isDark_iff_units (h : c.InRange) : c.isDark = true ↔ c.brightnessUnits < 2 ^ 63 := by
  have half : Counts (128.0 : Float).toModel.unpack (2 ^ 63) := counts_of_units? (by decide +kernel)
  unfold isDark
  rw [decide_eq_true_iff]
  exact lt_iff_of_counts (counts_brightness h) half

/-- All that is lost or won by rounding is less than half a thousandth. -/
theorem brightnessUnits_near (h : c.InRange) :
    1000 * c.brightnessUnits < c.luma * 2 ^ 56 + 2 ^ 55 ∧
      c.luma * 2 ^ 56 < 1000 * c.brightnessUnits + 2 ^ 55 := by
  obtain ⟨hr, hg, hb⟩ := h
  obtain ⟨red, red'⟩ := nearest_near (redWeight * c.red)
  obtain ⟨green, green'⟩ := nearest_near (greenWeight * c.green)
  obtain ⟨blue, blue'⟩ := nearest_near (blueWeight * c.blue)
  obtain ⟨first, first'⟩ :=
    nearest_near (nearest (redWeight * c.red) + nearest (greenWeight * c.green))
  obtain ⟨second, second'⟩ := nearest_near (nearest (nearest (redWeight * c.red) +
    nearest (greenWeight * c.green)) + nearest (blueWeight * c.blue))
  unfold brightnessUnits luma
  unfold redWeight greenWeight blueWeight at *
  constructor
  · omega
  · omega

/-! ### The threshold -/

/-- The colours right at the threshold whose brightness is rounded to less. -/
def roundedDown : List Rgb := [
  ⟨8, 200, 72⟩, ⟨12, 190, 113⟩, ⟨19, 201, 38⟩, ⟨23, 191, 79⟩, ⟨24, 160, 236⟩, ⟨34, 192, 45⟩,
  ⟨38, 182, 86⟩, ⟨42, 172, 127⟩, ⟨49, 183, 52⟩, ⟨53, 173, 93⟩, ⟨57, 163, 134⟩, ⟨64, 174, 59⟩,
  ⟨72, 154, 141⟩, ⟨75, 175, 25⟩, ⟨79, 165, 66⟩, ⟨87, 145, 148⟩, ⟨90, 166, 32⟩, ⟨94, 156, 73⟩,
  ⟨98, 146, 114⟩, ⟨102, 136, 155⟩, ⟨105, 157, 39⟩, ⟨113, 137, 121⟩, ⟨116, 158, 5⟩,
  ⟨117, 127, 162⟩, ⟨120, 148, 46⟩, ⟨128, 128, 128⟩, ⟨131, 149, 12⟩, ⟨132, 118, 169⟩,
  ⟨135, 139, 53⟩, ⟨143, 119, 135⟩, ⟨146, 140, 19⟩, ⟨154, 120, 101⟩, ⟨158, 110, 142⟩,
  ⟨161, 131, 26⟩, ⟨169, 111, 108⟩, ⟨176, 122, 33⟩, ⟨177, 91, 190⟩, ⟨184, 102, 115⟩,
  ⟨195, 103, 81⟩, ⟨199, 93, 122⟩, ⟨202, 114, 6⟩, ⟨210, 94, 88⟩, ⟨225, 85, 95⟩, ⟨240, 76, 102⟩,
  ⟨251, 77, 68⟩, ⟨255, 67, 109⟩]

/-- The colours right at the threshold of a given red part are found by the rest that their green
part leaves when it is divided by 114. -/
def atThreshold (red k : Nat) : Rgb :=
  let green := (106 + 83 * red) % 114 + 114 * k
  ⟨red, green, (128000 - 299 * red - 587 * green) / 114⟩

theorem exists_atThreshold (h : c.InRange) (same : c.luma = 128000) :
    ∃ k < 3, c = atThreshold c.red k := by
  obtain ⟨red, green, blue⟩ := c
  obtain ⟨hr, hg, hb⟩ := h
  unfold luma at same
  dsimp only at hr hg hb same
  have rest : green % 114 = (106 + 83 * red) % 114 := by omega
  have parts : green = (106 + 83 * red) % 114 + 114 * (green / 114) := by omega
  refine ⟨green / 114, by omega, ?_⟩
  unfold atThreshold
  dsimp only
  rw [← parts]
  congr 1
  omega

theorem atThreshold_rounded : ∀ red < 256, ∀ k < 3,
    (atThreshold red k).green ≤ 255 ∧ (atThreshold red k).blue ≤ 255 ∧
        (atThreshold red k).luma = 128000 →
      ((atThreshold red k).brightnessUnits < 2 ^ 63 ↔ atThreshold red k ∈ roundedDown) := by
  decide +kernel

theorem luma_of_mem_roundedDown : ∀ c ∈ roundedDown, c.luma = 128000 := by
  decide

/-- A colour counts as dark if its luma is below the threshold, or if it is one of those that are
rounded down from there. -/
theorem isDark_iff (h : read s = .color c) :
    (c.isDark = true ↔ c.luma < 128000 ∨ c ∈ roundedDown) ∧
      ∀ c ∈ roundedDown, c.luma = 128000 := by
  have range := inRange_of_read h
  obtain ⟨least, most⟩ := brightnessUnits_near range
  refine ⟨?_, luma_of_mem_roundedDown⟩
  rw [isDark_iff_units range]
  by_cases same : c.luma = 128000
  · obtain ⟨k, hk, at'⟩ := exists_atThreshold range same
    have red := range.red
    have rounded := atThreshold_rounded c.red (by omega) k hk
    rw [← at'] at rounded
    rw [rounded ⟨range.green, range.blue, same⟩]
    constructor
    · intro down
      exact .inr down
    · rintro (below | down)
      · omega
      · exact down
  · have other : c ∉ roundedDown := fun down => same (luma_of_mem_roundedDown c down)
    constructor
    · intro dark
      left
      omega
    · rintro (below | down)
      · omega
      · exact absurd down other

/-- A middle grey. -/
theorem isDark_iff_grey : read "#808080".toList = .color ⟨128, 128, 128⟩ ∧
    ((isDark ⟨128, 128, 128⟩ = true ↔
      luma ⟨128, 128, 128⟩ < 128000 ∨ (⟨128, 128, 128⟩ : Rgb) ∈ roundedDown) ∧
        ∀ c ∈ roundedDown, c.luma = 128000) :=
  ⟨by decide, isDark_iff (s := "#808080".toList) (by decide)⟩

/-- It counts as dark, although its luma is not below the threshold. -/
theorem not_isDark_iff_grey : read "#808080".toList = .color ⟨128, 128, 128⟩ ∧
    ¬(isDark ⟨128, 128, 128⟩ = true ↔ luma ⟨128, 128, 128⟩ < 128000) := by
  have dark : isDark ⟨128, 128, 128⟩ = true := by decide +kernel
  refine ⟨by decide, ?_⟩
  intro same
  exact absurd (same.1 dark) (by decide)

end PageSkins.Rgb
