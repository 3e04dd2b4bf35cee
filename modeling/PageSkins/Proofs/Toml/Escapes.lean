import PageSkins.Proofs.Json.Texts
import PageSkins.Proofs.Lists
import PageSkins.Proofs.Text.Utf8
import PageSkins.Proofs.Toml.Pairs

/-!
# Texts with the escapes of JSON

A text that is written in ASCII with the escapes of JSON is read as that text in a document,
unless it has a character that takes two escapes: a surrogate stands for no character there.
-/

namespace PageSkins.Toml

open PageSkins.Json

/-- Characters that a single 16-bit unit stands for. -/
def Basic (c : Char) : Prop := c.toNat < 0x10000

instance : DecidablePred Basic := fun c => inferInstanceAs (Decidable (c.toNat < 0x10000))

variable {out rest s : List Char} {c : Char}

/-! ### Escapes -/

theorem hexNumber?_digitChar {ds : List Nat} (h : ∀ d ∈ ds, d < 16) :
    hexNumber? (ds.map Nat.digitChar) = some (Decimal.ofDigits 16 ds) := by
  unfold hexNumber?
  rw [List.mapM_map, mapM_eq_some_map (g := id), List.map_id]
  · rfl
  · intro d hd
    have below := h d hd
    clear hd
    revert d
    decide

/-- A unit in a document is a character, unless it is a surrogate. -/
theorem escaped?_unit {n : Nat} (h : n < 0x10000) :
    ∃ a b c d, unitEscape n = ['\\', 'u', a, b, c, d] ∧
      escaped? [a, b, c, d] = if n < 0xD800 ∨ 0xDFFF < n then some (Char.ofNat n) else none := by
  refine ⟨_, _, _, _, congrArg (fun s => '\\' :: 'u' :: s) (hexDigits_four h), ?_⟩
  have digits : ∀ d ∈ [n / 16 / 16 / 16, n / 16 / 16 % 16, n / 16 % 16, n % 16], d < 16 := by
    simp only [List.forall_mem_cons]
    refine ⟨by omega, by omega, by omega, by omega, List.forall_mem_nil _⟩
  have number : Decimal.ofDigits 16 [n / 16 / 16 / 16, n / 16 / 16 % 16, n / 16 % 16, n % 16] = n := by
    simp only [Decimal.ofDigits, List.foldl_cons, List.foldl_nil]
    omega
  have read := hexNumber?_digitChar digits
  rw [number] at read
  simp only [List.map_cons, List.map_nil] at read
  rw [escaped?, read]
  change (if n < 0xD800 ∨ (0xDFFF < n ∧ n < 0x110000) then _ else _) = _
  have bound : n < 0x110000 := by omega
  simp only [bound, and_true]

theorem quotedBody_unit (a b c d : Char) :
    quotedBody false .text out ('\\' :: 'u' :: a :: b :: c :: d :: rest) =
      match escaped? [a, b, c, d] with
      | some x => quotedBody false .text (x :: out) rest
      | none => .error .malformed := by
  rw [quotedBody.eq_def]
  dsimp only
  rw [if_neg nofun, if_neg (fun h => absurd h.1 nofun)]
  rfl

theorem quotedBody_shortEscape {x : Char} (short : Toml.shortEscape? c = some x) :
    quotedBody false .text out ('\\' :: c :: rest) = quotedBody false .text (x :: out) rest := by
  have unit : c ≠ 'u' ∧ c ≠ 'U' := by
    constructor
    all_goals
      rintro rfl
      cases short
  rw [quotedBody.eq_def]
  dsimp only
  rw [if_neg nofun, if_neg (fun h => absurd h.1 nofun)]
  split
  all_goals simp_all

/-- A unit that is no surrogate is read as its character. -/
theorem quotedBody_unitEscape {n : Nat} (h : n < 0xD800 ∨ 0xDFFF < n ∧ n < 0x10000) :
    quotedBody false .text out (unitEscape n ++ rest) =
      quotedBody false .text (Char.ofNat n :: out) rest := by
  obtain ⟨a, b, d, e, text, read⟩ := escaped?_unit (n := n) (by omega)
  rw [text]
  simp only [List.cons_append, List.nil_append]
  rw [quotedBody_unit, read, if_pos (by omega)]

theorem quotedBody_surrogate {n : Nat} (low : 0xD800 ≤ n) (high : n ≤ 0xDFFF) :
    quotedBody false .text out (unitEscape n ++ rest) = .error .malformed := by
  obtain ⟨a, b, d, e, text, read⟩ := escaped?_unit (n := n) (by omega)
  rw [text]
  simp only [List.cons_append, List.nil_append]
  rw [quotedBody_unit, read, if_neg (by omega)]

theorem digitChar_visible : ∀ d < 16, 0x20 ≤ d.digitChar.toNat := by decide

theorem unitEscape_visible {n : Nat} (h : n < 0x10000) : ∀ d ∈ unitEscape n, 0x20 ≤ d.toNat := by
  rw [unitEscape, hexDigits_four h]
  simp only [List.forall_mem_cons]
  exact ⟨by decide, by decide, digitChar_visible _ (by omega), digitChar_visible _ (by omega),
    digitChar_visible _ (by omega), digitChar_visible _ (by omega), List.forall_mem_nil _⟩

/-! ### Characters -/

/-- How a character is written with the escapes of JSON. -/
inductive Written (c : Char) : List Char → Prop where
  | plain (quote : c ≠ '"') (escape : c ≠ '\\') (low : 0x20 ≤ c.toNat) (high : c.toNat < 0x7F) :
    Written c [c]
  | short {e : Char} (means : Toml.shortEscape? e = some c) (visible : 0x20 ≤ e.toNat)
      (basic : Basic c) : Written c ['\\', e]
  | unit (basic : Basic c) : Written c (unitEscape c.toNat)
  | pair {high low : Nat} (wide : ¬Basic c) (lead : 0xD800 ≤ high ∧ high < 0xDC00)
      (trail : 0xDC00 ≤ low ∧ low < 0xE000) : Written c (unitEscape high ++ unitEscape low)

theorem written_quotedChar (c : Char) : Written c (Json.quotedChar true c) := by
  have signs : ∀ x ∈ shortEscapes,
      Toml.shortEscape? x.1 = some x.2 ∧ 0x20 ≤ x.1.toNat ∧ Basic x.2 := by decide
  have inQuotes := inQuotes_quotedChar true c
  generalize Json.quotedChar true c = w at inQuotes ⊢
  cases inQuotes with
  | short listed =>
    obtain ⟨means, visible, basic⟩ := signs _ listed
    exact .short means visible basic
  | control low => exact .unit (Nat.lt_trans low (by decide))
  | wide beyond =>
    have bound : c.toNat < 0x110000 := by
      have range := Text.range_of_char c
      omega
    unfold wideEscape
    dsimp only
    split
    · rename_i basic
      exact .unit basic
    · rename_i wide
      exact .pair wide ⟨by omega, by omega⟩ ⟨by omega, by omega⟩
  | plain quote escape visible shown => exact .plain quote escape visible (shown rfl)

namespace Written

variable {w : List Char} (h : Written c w)
include h

/-- A character that takes a single unit is spelled by what is written for it. -/
theorem spells (basic : Basic c) : Spells w [c] := by
  have range := Text.range_of_char c
  intro out rest
  rw [List.reverse_singleton, List.singleton_append]
  cases h with
  | plain quote escape low high =>
    have last : c ≠ '\x7f' := by
      rintro rfl
      exact absurd high (by decide)
    have shown : isControl c = false := by simp [isControl, last, low]
    exact spells_literal ⟨quote, escape, shown⟩ out rest
  | short means => exact quotedBody_shortEscape means
  | unit _ =>
    have single : c.toNat < 0x10000 := basic
    rw [quotedBody_unitEscape (by omega), Char.ofNat_toNat]
  | pair wide => exact absurd basic wide

/-- The first of the two units that stand for any other character is a surrogate. -/
theorem unread (wide : ¬Basic c) (out rest : List Char) :
    quotedBody false .text out (w ++ rest) = .error .malformed := by
  cases h with
  | plain _ _ _ high => exact absurd (Nat.lt_trans high (by decide)) wide
  | short _ _ basic => exact absurd basic wide
  | unit basic => exact absurd basic wide
  | pair _ lead _ => rw [List.append_assoc, quotedBody_surrogate (by omega) (by omega)]

/-- Only visible characters are written. -/
theorem visible : ∀ d ∈ w, 0x20 ≤ d.toNat := by
  cases h with
  | plain _ _ low _ => exact List.forall_mem_singleton.2 low
  | short _ visible _ => exact List.forall_mem_cons.2 ⟨by decide, List.forall_mem_singleton.2 visible⟩
  | unit basic => exact unitEscape_visible basic
  | pair _ lead trail =>
    exact List.forall_mem_append.2 ⟨unitEscape_visible (by omega), unitEscape_visible (by omega)⟩

/-- Nothing is written with a quote first. -/
theorem first : ∃ d ds, w = d :: ds ∧ d ≠ '"' := by
  cases h with
  | plain quote _ _ _ => exact ⟨_, _, rfl, quote⟩
  | short | unit | pair => exact ⟨_, _, rfl, by decide⟩

end Written

/-! ### Whole texts -/

theorem spells_quoted (basic : ∀ c ∈ s, Basic c) : Spells (s.flatMap (Json.quotedChar true)) s :=
  .flatMap fun c hc => (written_quotedChar c).spells (basic c hc)

/-- A text is not read beyond a character that takes two units. -/
theorem quotedBody_quoted_wide (wide : ¬∀ c ∈ s, Basic c) :
    quotedBody false .text out (s.flatMap (Json.quotedChar true) ++ rest) = .error .malformed := by
  rcases forall_or_break (fun c => decide (Basic c)) s with all | ⟨a, c, b, rfl, before, stop⟩
  · exact absurd (fun c hc => of_decide_eq_true (all c hc)) wide
  · have basic : ∀ x ∈ a, Basic x := fun x hx => of_decide_eq_true (before x hx)
    rw [List.flatMap_append, List.flatMap_cons, List.append_assoc, List.append_assoc,
      spells_quoted basic, (written_quotedChar c).unread (of_decide_eq_false stop)]

end PageSkins.Toml
