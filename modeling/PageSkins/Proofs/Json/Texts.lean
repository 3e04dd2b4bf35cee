import Mathlib.Tactic.Basic
import PageSkins.Json.Reader
import PageSkins.Json.Writer
import PageSkins.Proofs.Decimal.Digits

/-!
# Texts in quotes

A text that is written in quotes is read as that text, whether characters beyond ASCII
stand for themselves or are written as one escape or as the two of a pair of surrogates.
-/

namespace PageSkins.Json

/-! ### Escapes -/

/-- The last of several digits, and those before it. -/
theorem hexDigits_succ (width n : Nat) :
    hexDigits (width + 2) n = hexDigits (width + 1) (n / 16) ++ [Nat.digitChar (n % 16)] := by
  unfold hexDigits Decimal.padZeros
  by_cases one : n < 16
  · have single : Nat.toDigits 16 n = [Nat.digitChar n] := by
      rw [Nat.toDigits_eq_if (by decide), if_pos one]
    have none : Nat.toDigits 16 0 = ['0'] := rfl
    rw [Nat.div_eq_of_lt one, Nat.mod_eq_of_lt one, single, none]
    change List.replicate (width + 1) '0' ++ _ = List.replicate width '0' ++ ['0'] ++ _
    rw [List.replicate_succ']
  · have more : Nat.toDigits 16 n = Nat.toDigits 16 (n / 16) ++ [Nat.digitChar (n % 16)] := by
      rw [Nat.toDigits_eq_if (by decide), if_neg one]
    rw [more, List.length_append, List.length_singleton, Nat.succ_sub_succ, List.append_assoc]

theorem hexDigits_one {n : Nat} (h : n < 16) : hexDigits 1 n = [Nat.digitChar n] := by
  unfold hexDigits
  rw [Nat.toDigits_eq_if (by decide), if_pos h]
  rfl

theorem hexDigits_four {n : Nat} (h : n < 0x10000) : hexDigits 4 n =
    [Nat.digitChar (n / 16 / 16 / 16), Nat.digitChar (n / 16 / 16 % 16), Nat.digitChar (n / 16 % 16),
      Nat.digitChar (n % 16)] := by
  rw [hexDigits_succ, hexDigits_succ, hexDigits_succ, hexDigits_one (by omega)]
  rfl

theorem hexValue?_digitChar : ∀ d < 16, hexValue? d.digitChar = some d := by decide

/-- The four digits of a unit. -/
theorem exists_unitEscape {n : Nat} (h : n < 0x10000) :
    ∃ a b c d, unitEscape n = ['\\', 'u', a, b, c, d] ∧ hexUnit? a b c d = some n := by
  refine ⟨_, _, _, _, congrArg (fun s => '\\' :: 'u' :: s) (hexDigits_four h), ?_⟩
  unfold hexUnit?
  rw [hexValue?_digitChar _ (by omega), hexValue?_digitChar _ (by omega),
    hexValue?_digitChar _ (by omega), hexValue?_digitChar _ (by omega)]
  refine congrArg some ?_
  simp only [Decimal.ofDigits, List.foldl_cons, List.foldl_nil]
  omega

variable {out rest : List Char}

/-- A unit that is no surrogate is read as a character, whatever follows. -/
theorem stringBody_unitEscape {n : Nat} (h : n < 0xD800 ∨ 0xDFFF < n ∧ n < 0x10000) :
    stringBody out (unitEscape n ++ rest) = stringBody (Char.ofNat n :: out) rest := by
  obtain ⟨a, b, c, d, text, read⟩ := exists_unitEscape (n := n) (by omega)
  have plain : unitChar n = Char.ofNat n := if_neg (by omega)
  rw [text]
  by_cases another : ∃ e f g h r, rest = '\\' :: 'u' :: e :: f :: g :: h :: r
  · obtain ⟨e, f, g, h, r, rfl⟩ := another
    simp only [List.cons_append, List.nil_append]
    rw [stringBody.eq_3, read]
    cases hexUnit? e f g h with
    | none => exact congrArg (fun x => stringBody (x :: out) _) plain
    | some low =>
      dsimp only
      rw [if_neg (by omega), plain]
  · simp only [List.cons_append, List.nil_append]
    rw [stringBody, read]
    · dsimp only
      rw [plain]
    · rintro e f g h r rfl
      exact another ⟨e, f, g, h, r, rfl⟩

/-- Two surrogates are read as the character that they stand for. -/
theorem stringBody_surrogates {c : Char} (wide : 0x10000 ≤ c.toNat) :
    stringBody out (wideEscape c ++ rest) = stringBody (c :: out) rest := by
  have bound : c.toNat < 0x110000 := by
    have range : c.toNat < 0xD800 ∨ (0xDFFF < c.toNat ∧ c.toNat < 0x110000) := c.valid
    omega
  obtain ⟨a, b, e, d, high, readHigh⟩ :=
    exists_unitEscape (n := 0xD800 + (c.toNat - 0x10000) / 0x400) (by omega)
  obtain ⟨f, g, h, i, low, readLow⟩ :=
    exists_unitEscape (n := 0xDC00 + (c.toNat - 0x10000) % 0x400) (by omega)
  have number : 0x10000 + (0xD800 + (c.toNat - 0x10000) / 0x400 - 0xD800) * 0x400 +
      (0xDC00 + (c.toNat - 0x10000) % 0x400 - 0xDC00) = c.toNat := by omega
  unfold wideEscape
  dsimp only
  rw [if_neg (by omega), high, low]
  simp only [List.cons_append, List.nil_append]
  rw [stringBody.eq_3, readHigh, readLow]
  dsimp only
  rw [if_pos (by omega), joinSurrogates, number, Char.ofNat_toNat]

theorem stringBody_plain {c : Char} (quote : c ≠ '"') (escape : c ≠ '\\') (visible : 0x20 ≤ c.toNat) :
    stringBody out (c :: rest) = stringBody (c :: out) rest := by
  rw [stringBody, if_neg (Nat.not_lt_of_le visible)]
  · exact quote
  · rintro _ _ _ _ _ _ _ _ _ same -
    exact escape same
  · rintro _ _ _ _ _ same -
    exact escape same
  · rintro _ _ same -
    exact escape same

theorem stringBody_shortEscape {c x : Char} (short : shortEscape? c = some x) (unit : c ≠ 'u') :
    stringBody out ('\\' :: c :: rest) = stringBody (x :: out) rest := by
  rw [stringBody, short]
  · rintro _ _ _ _ _ _ _ _ _ same -
    exact unit same
  · rintro _ _ _ _ _ same -
    exact unit same

/-! ### Whole texts -/

def shortEscapes : List (Char × Char) :=
  [('"', '"'), ('\\', '\\'), ('n', '\n'), ('r', '\r'), ('t', '\t'), ('b', '\x08'), ('f', '\x0c')]

/-- How a character is written in quotes. -/
inductive InQuotes (ascii : Bool) (c : Char) : List Char → Prop where
  | short {e : Char} (listed : (e, c) ∈ shortEscapes) : InQuotes ascii c ['\\', e]
  | control (low : c.toNat < 0x20) : InQuotes ascii c (unitEscape c.toNat)
  | wide (beyond : 0x7F ≤ c.toNat) : InQuotes ascii c (wideEscape c)
  | plain (quote : c ≠ '"') (escape : c ≠ '\\') (visible : 0x20 ≤ c.toNat)
      (shown : ascii = true → c.toNat < 0x7F) : InQuotes ascii c [c]

theorem inQuotes_quotedChar (ascii : Bool) (c : Char) : InQuotes ascii c (quotedChar ascii c) := by
  unfold quotedChar
  iterate 7
    split
    · subst c
      exact .short (by decide)
  split
  · rename_i low
    exact .control low
  split
  · rename_i wide
    exact .wide (of_decide_eq_true (Bool.and_eq_true_iff.1 wide).2)
  · rename_i quote escape _ _ _ _ _ visible plain
    refine .plain quote escape (Nat.le_of_not_lt visible) ?_
    rintro rfl
    simpa using plain

/-- What stands for a character in quotes is read as that character. -/
theorem stringBody_quotedChar (ascii : Bool) (c : Char) :
    stringBody out (quotedChar ascii c ++ rest) = stringBody (c :: out) rest := by
  have range : c.toNat < 0xD800 ∨ (0xDFFF < c.toNat ∧ c.toNat < 0x110000) := c.valid
  have signs : ∀ x ∈ shortEscapes, shortEscape? x.1 = some x.2 ∧ x.1 ≠ 'u' := by decide
  have written := inQuotes_quotedChar ascii c
  generalize quotedChar ascii c = w at written ⊢
  cases written with
  | short listed => exact stringBody_shortEscape (signs _ listed).1 (signs _ listed).2
  | control low => rw [stringBody_unitEscape (by omega), Char.ofNat_toNat]
  | wide beyond =>
    by_cases wide : c.toNat < 0x10000
    · unfold wideEscape
      dsimp only
      rw [if_pos wide, stringBody_unitEscape (by omega), Char.ofNat_toNat]
    · exact stringBody_surrogates (Nat.le_of_not_lt wide)
  | plain quote escape visible => exact stringBody_plain quote escape visible

theorem stringBody_flatMap (ascii : Bool) (s : List Char) :
    stringBody out (s.flatMap (quotedChar ascii) ++ '"' :: rest) =
      .ok (String.ofList (out.reverse ++ s), rest) := by
  induction s generalizing out with
  | nil =>
    rw [List.flatMap_nil, List.nil_append, List.append_nil, stringBody]
  | cons c s ih =>
    rw [List.flatMap_cons, List.append_assoc, stringBody_quotedChar, ih, List.reverse_cons,
      List.append_assoc, List.singleton_append]

/-- A text in quotes is read as that text. -/
theorem stringBody_quoted (ascii : Bool) (s : String) (rest : List Char) :
    ∃ body, quoted ascii s.toList = '"' :: body ∧ stringBody [] (body ++ rest) = .ok (s, rest) := by
  refine ⟨s.toList.flatMap (quotedChar ascii) ++ ['"'], rfl, ?_⟩
  rw [List.append_assoc, List.singleton_append, stringBody_flatMap, List.reverse_nil,
    List.nil_append, String.ofList_toList]

end PageSkins.Json
