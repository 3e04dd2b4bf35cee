import Mathlib.Algebra.Group.Nat.Defs
import PageSkins.Proofs.Decimal.Digits
import PageSkins.Proofs.WebAddress.Paths

/-!
# Numeric hosts

The usual notation of a numeric host is read as the host that it was written for: four
bytes between full stops, or eight groups in brackets, the longest run of zeros left out.
-/

namespace PageSkins.WebAddress.Host

/-! ### Four bytes -/

def shortText (a b c d : Nat) : List Char :=
  Decimal.natDigits a ++ '.' :: Decimal.natDigits b ++ '.' :: Decimal.natDigits c ++
    '.' :: Decimal.natDigits d

theorem notMem_natDigits {c : Char} (h : c.isDigit = false) (n : Nat) :
    c ∉ Decimal.natDigits n := fun hc => by
  simp [Decimal.isDigit_of_mem_natDigits hc] at h

theorem mem_shortText {a b c d : Nat} {x : Char} (h : x ∈ shortText a b c d) :
    x ∈ ".0123456789".toList := by
  have digit {n : Nat} (hx : x ∈ Decimal.natDigits n) : x ∈ ".0123456789".toList := by
    obtain ⟨k, hk, rfl⟩ := Decimal.mem_toDigits (by decide) hx
    exact (by decide : ∀ k < 10, Nat.digitChar k ∈ ".0123456789".toList) k hk
  have point (hx : x = '.') : x ∈ ".0123456789".toList := hx ▸ List.mem_cons_self
  simp only [shortText, List.mem_append, List.mem_cons] at h
  rcases h with ((h | h | h) | h | h) | h | h
  · exact digit h
  · exact point h
  · exact digit h
  · exact point h
  · exact digit h
  · exact point h
  · exact digit h

theorem parts_shortText (a b c d : Nat) : parts (shortText a b c d) =
    [Decimal.natDigits a, Decimal.natDigits b, Decimal.natDigits c, Decimal.natDigits d] := by
  have stop (n : Nat) : '.' ∉ Decimal.natDigits n := notMem_natDigits (by decide) n
  unfold parts shortText
  rw [List.append_assoc, List.append_assoc, List.cons_append, List.cons_append, splitAt_append_cons (stop a), splitAt_append_cons (stop b), splitAt_append_cons (stop c),
    splitAt_of_notMem (stop d)]
  dsimp only
  rw [if_neg]
  rintro ⟨-, last⟩
  exact Decimal.natDigits_ne_nil d (Option.some.inj last)

theorem hexValue?_of_isDigit {c : Char} (h : c.isDigit = true) :
    hexValue? c = some (c.toNat - 48) := by
  rw [hexValue?, if_pos h]

theorem toNat_of_isDigit {c : Char} (h : c.isDigit = true) : 48 ≤ c.toNat ∧ c.toNat ≤ 57 := by
  simpa [Char.isDigit, UInt32.le_iff_toNat_le] using h

/-- Digits are taken as a decimal number unless a zero stands before others. -/
theorem number?_of_digits {ds : List Char} (ne : ds ≠ []) (h : ∀ c ∈ ds, c.isDigit = true)
    (zero : ds.head? = some '0' → ds = ['0']) :
    number? ds = some (ds.foldl (fun n c => n * 10 + (c.toNat - 48)) 0) := by
  have small : (ds.map fun c => c.toNat - 48).all (· < 10) = true := by
    rw [List.all_eq_true]
    intro n hn
    obtain ⟨c, hc, rfl⟩ := List.mem_map.1 hn
    have bound := toNat_of_isDigit (h c hc)
    exact decide_eq_true (by omega)
  obtain ⟨c, ds, rfl⟩ := List.exists_cons_of_ne_nil ne
  by_cases first : c = '0'
  · subst first
    obtain rfl : ds = [] := (List.cons.inj (zero rfl)).2
    rfl
  · unfold number?
    split
    · rename_i none
      cases none
    · rename_i hex
      exact absurd (List.cons.inj hex).1 first
    · rename_i hex
      exact absurd (List.cons.inj hex).1 first
    · rename_i octal
      exact absurd (List.cons.inj octal).1 first
    · dsimp only
      rw [mapM_eq_some_map fun c hc => hexValue?_of_isDigit (h c hc)]
      simp only [Option.bind_eq_bind, Option.bind_some, small, if_true, List.foldl_map]

theorem number?_natDigits (n : Nat) : number? (Decimal.natDigits n) = some n := by
  have read := number?_of_digits (Decimal.natDigits_ne_nil n)
    (fun c hc => Decimal.isDigit_of_mem_natDigits hc) ?_
  · rw [read, Decimal.foldl_natDigits]
  · intro zero
    cases n with
    | zero => rfl
    | succ n => exact absurd zero (Decimal.head_toDigits (by decide) (Nat.succ_pos n))

theorem isNumeric_shortText (a b c d : Nat) : isNumeric (shortText a b c d) = true := by
  unfold isNumeric
  rw [parts_shortText]
  simp [number?_natDigits]

def valueText (v : Nat) : List Char :=
  shortText (v / Nat.pow 256 3 % 256) (v / Nat.pow 256 2 % 256) (v / Nat.pow 256 1 % 256)
    (v / Nat.pow 256 0 % 256)

theorem valueText_of_bytes {a b c d : Nat} (ha : a < 256) (hb : b < 256) (hc : c < 256)
    (hd : d < 256) :
    valueText (d + a * Nat.pow 256 3 + b * Nat.pow 256 2 + c * Nat.pow 256 1) =
      shortText a b c d := by
  have third : Nat.pow 256 3 = 16777216 := rfl
  have second : Nat.pow 256 2 = 65536 := rfl
  have first : Nat.pow 256 1 = 256 := rfl
  have zeroth : Nat.pow 256 0 = 1 := rfl
  rw [valueText, third, second, first, zeroth]
  congr 1 <;> omega

theorem ofNumbers?_shortText {a b c d : Nat} (ha : a < 256) (hb : b < 256) (hc : c < 256)
    (hd : d < 256) : ofNumbers? (shortText a b c d) = some (shortText a b c d) := by
  have read : [Decimal.natDigits a, Decimal.natDigits b, Decimal.natDigits c,
      Decimal.natDigits d].mapM number? = some [a, b, c, d] := by
    simp [number?_natDigits]
  have bounded : ¬ (([a, b, c].any (· > 255)) = true ∨ d ≥ Nat.pow 256 1) := by
    simp
    omega
  unfold ofNumbers?
  rw [parts_shortText]
  dsimp only
  rw [if_neg (by simp), read]
  refine (if_neg bounded).trans ?_
  change some (valueText (d + a * Nat.pow 256 3 + b * Nat.pow 256 2 + c * Nat.pow 256 1)) = _
  rw [valueText_of_bytes ha hb hc hd]

theorem exists_shortText {s t : List Char} (h : ofNumbers? s = some t) :
    ∃ a b c d, a < 256 ∧ b < 256 ∧ c < 256 ∧ d < 256 ∧ t = shortText a b c d := by
  unfold ofNumbers? at h
  dsimp only at h
  split at h
  · cases h
  obtain ⟨ns, -, h⟩ := Option.bind_eq_some_iff.1 h
  obtain ⟨last, -, h⟩ := Option.bind_eq_some_iff.1 h
  split at h
  · cases h
  · have byte (v k : Nat) : v / Nat.pow 256 k % 256 < 256 := Nat.mod_lt _ (by decide)
    exact ⟨_, _, _, _, byte _ 3, byte _ 2, byte _ 1, byte _ 0, (Option.some.inj h).symm⟩

/-! ### Eight groups -/

theorem hexValue?_digitChar : ∀ d < 16, hexValue? d.digitChar = some d := by decide

theorem mapM_hexText (n : Nat) :
    ∃ vs, (hexText n).mapM hexValue? = some vs ∧ vs.foldl (fun m d => m * 16 + d) 0 = n := by
  have reads : ∀ d < 16, (hexValue? d.digitChar).getD 0 = d := by decide
  refine ⟨_, mapM_eq_some_map (g := fun c => (hexValue? c).getD 0) fun c hc => ?_, ?_⟩
  · obtain ⟨d, hd, rfl⟩ := Decimal.mem_toDigits (by decide) hc
    rw [hexValue?_digitChar d hd]
    rfl
  · rw [List.foldl_map]
    exact Decimal.foldl_toDigits (by decide) reads n

abbrev IsGroup (n : Nat) : Prop := n < 65536

theorem hexText_ne_nil (n : Nat) : hexText n ≠ [] := Nat.toDigits_ne_nil

theorem group?_hexText {n : Nat} (h : IsGroup n) : group? (hexText n) = some n := by
  have short : (hexText n).length ≤ 4 :=
    (Nat.length_toDigits_le_iff (by decide) (by decide)).2 h
  obtain ⟨vs, read, value⟩ := mapM_hexText n
  unfold group?
  rw [if_neg, read, Option.map_some, value]
  rw [List.isEmpty_iff, not_or]
  exact ⟨hexText_ne_nil n, by omega⟩

theorem mem_hexText {n : Nat} {c : Char} (h : c ∈ hexText n) : c ∈ "0123456789abcdef".toList := by
  obtain ⟨d, hd, rfl⟩ := Decimal.mem_toDigits (by decide) h
  exact (by decide : ∀ d < 16, Nat.digitChar d ∈ "0123456789abcdef".toList) d hd

theorem notMem_hexText {c : Char} (h : c ∉ "0123456789abcdef".toList) (n : Nat) :
    c ∉ hexText n := mt mem_hexText h

theorem joinGroups_cons (g h : Nat) (gs : List Nat) :
    joinGroups (g :: h :: gs) = hexText g ++ ':' :: joinGroups (h :: gs) := by
  simp [joinGroups, List.intercalate]

theorem joinGroups_singleton (g : Nat) : joinGroups [g] = hexText g := by
  simp [joinGroups, List.intercalate]

theorem splitAt_joinGroups (g : Nat) (gs : List Nat) :
    splitAt ':' (joinGroups (g :: gs)) = (g :: gs).map hexText := by
  have colon (n : Nat) : ':' ∉ hexText n := notMem_hexText (by decide) n
  induction gs generalizing g with
  | nil => rw [joinGroups_singleton, splitAt_of_notMem (colon g)]; rfl
  | cons h gs ih => rw [joinGroups_cons, splitAt_append_cons (colon g), ih h]; rfl

theorem mapM_group? {gs : List Nat} (h : ∀ g ∈ gs, IsGroup g) :
    (gs.map hexText).mapM group? = some gs := by
  have read : gs.mapM (group? ∘ hexText) = some (gs.map id) :=
    mapM_eq_some_map fun g hg => group?_hexText (h g hg)
  rw [List.mapM_map, read, List.map_id]

theorem mem_joinGroups {gs : List Nat} {c : Char} (h : c ∈ joinGroups gs) :
    c = ':' ∨ c ∈ "0123456789abcdef".toList := by
  match gs with
  | [] => cases h
  | [g] =>
    rw [joinGroups_singleton] at h
    exact .inr (mem_hexText h)
  | g :: k :: gs =>
    rw [joinGroups_cons] at h
    rcases List.mem_append.1 h with h | h
    · exact .inr (mem_hexText h)
    · rcases List.mem_cons.1 h with rfl | h
      · exact .inl rfl
      · exact mem_joinGroups h

/-- Groups start with a digit. -/
theorem exists_joinGroups (g : Nat) (gs : List Nat) :
    ∃ c s, joinGroups (g :: gs) = c :: s ∧ c ≠ ':' := by
  obtain ⟨c, s, front⟩ := List.exists_cons_of_ne_nil (hexText_ne_nil g)
  have ne : c ≠ ':' := by
    rintro rfl
    exact notMem_hexText (by decide) g (front ▸ List.mem_cons_self)
  cases gs with
  | nil => exact ⟨c, s, by rw [joinGroups_singleton, front], ne⟩
  | cons h gs => exact ⟨c, s ++ ':' :: joinGroups (h :: gs), by rw [joinGroups_cons, front]; rfl, ne⟩

theorem groups?_joinGroups {gs : List Nat} (h : ∀ g ∈ gs, IsGroup g) :
    groups? (joinGroups gs) = some gs := by
  cases gs with
  | nil => rfl
  | cons g gs =>
    obtain ⟨c, s, front, -⟩ := exists_joinGroups g gs
    unfold groups?
    rw [if_neg (by rw [front]; exact Bool.false_ne_true)]
    dsimp only
    rw [splitAt_joinGroups]
    obtain ⟨last, hl⟩ : ∃ last, (g :: gs).getLast? = some last := by
      simp [List.getLast?_cons]
    have point : (hexText last).contains '.' = false := by
      rw [List.contains_eq_mem, decide_eq_false_iff_not]
      exact notMem_hexText (by decide) last
    rw [List.getLast?_map, hl]
    simp only [Option.map_some, point, Bool.false_eq_true, if_false]
    exact mapM_group? h

theorem splitGap_of_notMem {a : List Char} (h : ':' ∉ a) (t : List Char) :
    splitGap (a ++ t) = (splitGap t).map fun (x, y) => (a ++ x, y) := by
  induction a with
  | nil => simp
  | cons c a ih =>
    obtain ⟨ne, rest⟩ := not_or.1 (mt List.mem_cons.2 h)
    rw [List.cons_append, splitGap, ih rest, Option.map_map]
    · rfl
    · rintro s same -
      exact ne same.symm

theorem splitGap_colon {c : Char} (h : c ≠ ':') (s : List Char) :
    splitGap (':' :: c :: s) = (splitGap (c :: s)).map fun (x, y) => (':' :: x, y) := by
  rw [splitGap]
  rintro t - same
  exact h (List.cons.inj same).1

/-- Groups that stand before hold no gap. -/
theorem splitGap_joinGroups (gs : List Nat) (t : List Char) :
    splitGap (joinGroups gs ++ t) = (splitGap t).map fun (x, y) => (joinGroups gs ++ x, y) := by
  have colon (n : Nat) : ':' ∉ hexText n := notMem_hexText (by decide) n
  match gs with
  | [] => simp [joinGroups]
  | [g] => rw [joinGroups_singleton, splitGap_of_notMem (colon g)]
  | g :: h :: gs =>
    obtain ⟨c, s, front, ne⟩ := exists_joinGroups h gs
    have ih := splitGap_joinGroups (h :: gs) t
    rw [joinGroups_cons, List.append_assoc, splitGap_of_notMem (colon g), List.cons_append, front,
      List.cons_append, splitGap_colon ne, ← List.cons_append, ← front, ih, Option.map_map,
      Option.map_map]
    simp only [Function.comp_def, List.append_assoc, List.cons_append]

theorem notMem_joinGroups {gs : List Nat} {c : Char} (colon : c ≠ ':')
    (h : c ∉ "0123456789abcdef".toList) : c ∉ joinGroups gs := fun hc => by
  rcases mem_joinGroups hc with same | hc
  · exact colon same
  · exact h hc

/-! ### The gap -/

theorem zeros_of_zeroRun {gs : List Nat} {len : Nat} (h : len ≤ zeroRun gs) :
    gs = List.replicate len 0 ++ gs.drop len := by
  induction len generalizing gs with
  | zero => rfl
  | succ len ih =>
    cases gs with
    | nil => exact absurd h (Nat.not_succ_le_zero len)
    | cons g gs =>
      unfold zeroRun at h
      rw [List.takeWhile_cons] at h
      split at h
      · rename_i zero
        have rest := ih (Nat.le_of_succ_le_succ h)
        rw [List.drop_succ_cons, List.replicate_succ, List.cons_append, ← rest, eq_of_beq zero]
      · exact absurd h (Nat.not_succ_le_zero len)

/-- What is left out is a run of zeros. -/
theorem longestGap_le (gs : List Nat) :
    (longestGap gs).2 ≤ zeroRun (gs.drop (longestGap gs).1) := by
  unfold longestGap
  refine List.foldlRecOn (motive := fun p : Nat × Nat => p.2 ≤ zeroRun (gs.drop p.1)) _ _
    (Nat.zero_le _) fun p hp i _ => ?_
  dsimp only
  split
  · exact Nat.le_refl _
  · exact hp

/-- Groups with a gap for the longest run of zeros, if there is one. -/
def insideText (gs : List Nat) : List Char :=
  if (longestGap gs).2 ≥ 2 then
    joinGroups (gs.take (longestGap gs).1) ++
      ':' :: ':' :: joinGroups (gs.drop ((longestGap gs).1 + (longestGap gs).2))
  else joinGroups gs

theorem mem_insideText {gs : List Nat} {c : Char} (h : c ∈ insideText gs) :
    c ∈ ":0123456789abcdef".toList := by
  have group {gs : List Nat} (h : c ∈ joinGroups gs) : c ∈ ":0123456789abcdef".toList := by
    rcases mem_joinGroups h with rfl | h
    · exact List.mem_cons_self
    · exact List.mem_cons_of_mem _ h
  unfold insideText at h
  split at h
  · rcases List.mem_append.1 h with h | h
    · exact group h
    · rcases List.mem_cons.1 h with rfl | h
      · exact List.mem_cons_self
      · rcases List.mem_cons.1 h with rfl | h
        · exact List.mem_cons_self
        · exact group h
  · exact group h

theorem ofGroups_eq (gs : List Nat) : ofGroups gs = '[' :: insideText gs ++ [']'] := rfl

theorem eight?_insideText {gs : List Nat} (eight : gs.length = 8) (h : ∀ g ∈ gs, IsGroup g) :
    eight? (insideText gs) = some gs := by
  have gap := longestGap_le gs
  unfold insideText
  generalize longestGap gs = p at gap
  obtain ⟨start, len⟩ := p
  dsimp only at gap ⊢
  split
  · rename_i long
    have point : (joinGroups (gs.take start)).contains '.' = false := by
      rw [List.contains_eq_mem, decide_eq_false_iff_not]
      exact notMem_joinGroups (by decide) (by decide)
    have zeros := zeros_of_zeroRun gap
    rw [List.drop_drop] at zeros
    have bound : len ≤ (gs.drop start).length := gap.trans (List.takeWhile_prefix _).length_le
    rw [List.length_drop] at bound
    -- what is missing from eight groups is as long as the run of zeros that was left out
    have left : 8 - ((gs.take start).length + (gs.drop (start + len)).length) = len := by
      rw [List.length_take, List.length_drop]
      omega
    unfold eight?
    rw [splitGap_joinGroups]
    simp only [splitGap, Option.map_some, List.append_nil, point, Bool.false_eq_true, if_false]
    rw [groups?_joinGroups fun g hg => h g (List.mem_of_mem_take hg),
      groups?_joinGroups fun g hg => h g (List.mem_of_mem_drop hg)]
    simp only [Option.bind_eq_bind, Option.bind_some]
    rw [if_pos (by omega), left, List.append_assoc, ← zeros, List.take_append_drop]
  · have none : splitGap (joinGroups gs) = none := by
      have all := splitGap_joinGroups gs []
      rwa [List.append_nil] at all
    unfold eight?
    rw [none]
    dsimp only
    rw [groups?_joinGroups h]
    exact if_pos eight

theorem hexValue?_lt {c : Char} {v : Nat} (h : hexValue? c = some v) : v < 16 := by
  unfold hexValue? at h
  split at h
  · rename_i digit
    have bound := toNat_of_isDigit digit
    have value := Option.some.inj h
    omega
  split at h
  · rename_i small
    have bound : c.toNat ≤ 102 := small.2
    have value := Option.some.inj h
    omega
  split at h
  · rename_i capital
    have bound : c.toNat ≤ 70 := capital.2
    have value := Option.some.inj h
    omega
  · cases h

theorem foldl_lt_pow {vs : List Nat} (h : ∀ v ∈ vs, v < 16) (n : Nat) :
    vs.foldl (fun m d => m * 16 + d) n < (n + 1) * 16 ^ vs.length := by
  induction vs generalizing n with
  | nil => simp
  | cons v vs ih =>
    have first := h v List.mem_cons_self
    rw [List.foldl_cons, List.length_cons, Nat.pow_succ']
    calc _ < (n * 16 + v + 1) * 16 ^ vs.length := ih (fun w hw => h w (List.mem_cons_of_mem v hw)) _
      _ ≤ ((n + 1) * 16) * 16 ^ vs.length := Nat.mul_le_mul_right _ (by omega)
      _ = (n + 1) * (16 * 16 ^ vs.length) := Nat.mul_assoc _ _ _

theorem isGroup_of_group? {s : List Char} {n : Nat} (h : group? s = some n) : IsGroup n := by
  unfold group? at h
  split at h
  · cases h
  rename_i short
  obtain ⟨vs, read, rfl⟩ := Option.map_eq_some_iff.1 h
  have digits : ∀ v ∈ vs, v < 16 := fun v hv => by
    obtain ⟨c, -, value⟩ := exists_of_mem_mapM read hv
    exact hexValue?_lt value
  have width : vs.length ≤ 4 := by
    rw [length_of_mapM read]
    exact Nat.le_of_not_lt (not_or.1 short).2
  calc _ < (0 + 1) * 16 ^ vs.length := foldl_lt_pow digits 0
    _ ≤ (0 + 1) * 16 ^ 4 := Nat.mul_le_mul_left _ (Nat.pow_le_pow_right (by decide) width)

theorem byte?_lt {s : List Char} {n : Nat} (h : byte? s = some n) : n < 256 := by
  unfold byte? at h
  split at h
  · cases h
  dsimp only at h
  split at h
  · rename_i bound
    rw [← Option.some.inj h]
    exact Nat.lt_succ_of_le bound
  · cases h

theorem isGroup_of_groups? {s : List Char} {gs : List Nat} (h : groups? s = some gs) :
    ∀ g ∈ gs, IsGroup g := by
  have each {ps : List (List Char)} {gs : List Nat} (read : ps.mapM group? = some gs) :
      ∀ g ∈ gs, IsGroup g := fun g hg => by
    obtain ⟨p, -, value⟩ := exists_of_mem_mapM read hg
    exact isGroup_of_group? value
  unfold groups? at h
  split at h
  · rw [← Option.some.inj h]
    exact List.forall_mem_nil _
  dsimp only at h
  split at h
  · split at h
    · obtain ⟨init, front, h⟩ := Option.bind_eq_some_iff.1 h
      obtain ⟨bytes, read, h⟩ := Option.bind_eq_some_iff.1 h
      split at h
      · rename_i a b c d
        have byte : ∀ n ∈ [a, b, c, d], n < 256 := fun n hn => by
          obtain ⟨p, -, value⟩ := exists_of_mem_mapM read hn
          exact byte?_lt value
        simp only [List.forall_mem_cons] at byte
        obtain ⟨ha, hb, hc, hd, -⟩ := byte
        rw [← Option.some.inj h, List.forall_mem_append, List.forall_mem_cons,
          List.forall_mem_cons]
        exact ⟨each front, show _ < _ by omega, show _ < _ by omega, List.forall_mem_nil _⟩
      · cases h
    · exact each h
  · rw [← Option.some.inj h]
    exact List.forall_mem_nil _

/-- What a long host is read as: eight groups. -/
theorem groups_of_eight? {s : List Char} {gs : List Nat} (h : eight? s = some gs) :
    gs.length = 8 ∧ ∀ g ∈ gs, IsGroup g := by
  unfold eight? at h
  split at h
  · obtain ⟨gs', read, h⟩ := Option.bind_eq_some_iff.1 h
    split at h
    · rename_i eight
      obtain rfl := Option.some.inj h
      exact ⟨eight, isGroup_of_groups? read⟩
    · cases h
  · split at h
    · cases h
    obtain ⟨before, front, h⟩ := Option.bind_eq_some_iff.1 h
    obtain ⟨after, back, h⟩ := Option.bind_eq_some_iff.1 h
    dsimp only at h
    split at h
    · rename_i room
      obtain rfl := Option.some.inj h
      constructor
      · rw [List.length_append, List.length_append, List.length_replicate]
        omega
      · intro g hg
        rcases List.mem_append.1 hg with hg | hg
        · rcases List.mem_append.1 hg with hg | hg
          · exact isGroup_of_groups? front g hg
          · rw [List.eq_of_mem_replicate hg]
            exact Nat.succ_pos _
        · exact isGroup_of_groups? back g hg
    · cases h

end PageSkins.WebAddress.Host
