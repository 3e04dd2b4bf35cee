import Mathlib.Data.List.Infix
import Mathlib.Data.List.MinMax
import PageSkins.Markup.Reference

/-!
# Values as a browser reads them

A browser reads the references in the value of an attribute: those by number, with a
semicolon or without, and those by name, where some old names need no semicolon. Each
character that it comes to is marked here by whether a reference stands for it. A run
of characters that stand for themselves is a piece of the value as it is written.
-/

namespace PageSkins.Markup

/-- A character that a browser reads, and whether a reference stands for it. -/
structure Glyph where
  char : Char
  referenced : Bool
deriving Repr, DecidableEq

namespace Reference

/-- What the numbers from 128 to 159 are taken for: what stood there in an old encoding. -/
def legacyCodes : List Nat := [
  0x20AC, 0x81, 0x201A, 0x192, 0x201E, 0x2026, 0x2020, 0x2021, 0x2C6, 0x2030, 0x160, 0x2039, 0x152,
  0x8D, 0x17D, 0x8F, 0x90, 0x2018, 0x2019, 0x201C, 0x201D, 0x2022, 0x2013, 0x2014, 0x2DC, 0x2122,
  0x161, 0x203A, 0x153, 0x9D, 0x17E, 0x178]

def browserChar (n : Nat) : Char :=
  if n = 0 ∨ 0x110000 ≤ n ∨ 0xD800 ≤ n ∧ n < 0xE000 then '\ufffd'
  else if n < 0x80 then Char.ofNat n
  else Char.ofNat (legacyCodes.getD (n - 0x80) n)

/-- The number at the start of a text, and how many characters it takes up with the semicolon that may
follow it. -/
def numberAt? (isDigit : Char → Bool) (number : List Char → Nat) (s : List Char) :
    Option (List Char × Nat) :=
  let digits := s.takeWhile isDigit
  if digits.isEmpty then none
  else some ([browserChar (number digits)],
    digits.length + if (s.drop digits.length).head? = some ';' then 1 else 0)

/-- The names as they are spelled, with their semicolon where they need it. -/
def spellings : List (List Char × List Char) :=
  named.map (fun e => (e.1.toList ++ [';'], e.2)) ++ bare.map fun e => (e.1.toList, e.2)

/-- The longest name at the start of a text. Without its semicolon it is no reference before an equals sign,
a letter or a digit. -/
def nameAt? (s : List Char) : Option (List Char × Nat) := do
  let e ← (spellings.filter fun e => e.1.isPrefixOf s).argmax fun e => e.1.length
  let goesOn := (s.drop e.1.length).head?.any fun c => c = '=' || c.isAlphanum
  if e.1.getLast? ≠ some ';' && goesOn then none else some (e.2, e.1.length)

/-- What the reference after an ampersand stands for, and how many characters it takes up. -/
def readAt? : List Char → Option (List Char × Nat)
  | '#' :: 'x' :: s | '#' :: 'X' :: s =>
    (numberAt? isHexDigit hexNumber s).map fun r => (r.1, r.2 + 2)
  | '#' :: s => (numberAt? Char.isDigit meaning.decimalNumber s).map fun r => (r.1, r.2 + 1)
  | s => nameAt? s

/-- What a browser reads past the first characters, which are passed over. -/
def glyphsFrom : Nat → List Char → List Glyph
  | _, [] => []
  | skip + 1, _ :: s => glyphsFrom skip s
  | 0, c :: s =>
    match if c = '&' then readAt? s else none with
    | some (d :: ds, n) => (d :: ds).map (⟨·, true⟩) ++ glyphsFrom n s
    | _ => ⟨c, false⟩ :: glyphsFrom 0 s

def glyphs (value : List Char) : List Glyph := glyphsFrom 0 value

/-! ### Characters that stand for themselves -/

section Plain

variable {run : List Glyph} (plain : ∀ g ∈ run, g.referenced = false)

include plain

theorem eq_nil_of_prefix_referenced {c : Char} {gs : List Glyph} (h : run <+: ⟨c, true⟩ :: gs) :
    run = [] := by
  rcases List.prefix_cons_iff.1 h with rfl | ⟨run', rfl, -⟩
  · rfl
  · exact absurd (plain _ List.mem_cons_self) Bool.noConfusion

theorem infix_of_referenced {cs : List Char} {gs : List Glyph} (some' : run ≠ [])
    (h : run <:+: cs.map (⟨·, true⟩) ++ gs) : run <:+: gs := by
  induction cs with
  | nil => exact h
  | cons c cs ih =>
    rcases List.infix_cons_iff.1 h with first | later
    · exact absurd (eq_nil_of_prefix_referenced plain first) some'
    · exact ih later

theorem prefix_of_glyphsFrom {s : List Char} {skip : Nat} (h : run <+: glyphsFrom skip s) :
    run.map Glyph.char <+: s.drop skip := by
  induction s generalizing skip run with
  | nil =>
    rw [glyphsFrom, List.prefix_nil] at h
    rw [h]
    exact List.nil_prefix
  | cons c s ih =>
    cases skip with
    | succ skip =>
      rw [glyphsFrom] at h
      exact ih plain h
    | zero =>
      rw [glyphsFrom] at h
      split at h
      · rw [eq_nil_of_prefix_referenced plain h]
        exact List.nil_prefix
      · rcases List.prefix_cons_iff.1 h with rfl | ⟨run', rfl, later⟩
        · exact List.nil_prefix
        · have others := ih (fun g hg => plain g (List.mem_cons_of_mem _ hg)) later
          exact List.cons_prefix_cons.2 ⟨rfl, others⟩

theorem infix_of_glyphsFrom {s : List Char} {skip : Nat} (some' : run ≠ [])
    (h : run <:+: glyphsFrom skip s) : run.map Glyph.char <:+: s := by
  induction s generalizing skip with
  | nil =>
    rw [glyphsFrom, List.infix_nil] at h
    exact absurd h some'
  | cons c s ih =>
    cases skip with
    | succ skip =>
      rw [glyphsFrom] at h
      exact List.infix_cons (ih h)
    | zero =>
      have whole := @prefix_of_glyphsFrom run plain (c :: s) 0
      rw [glyphsFrom] at h whole
      split at h
      · exact List.infix_cons (ih (infix_of_referenced plain some' h))
      · rename_i other
        rcases List.infix_cons_iff.1 h with first | later
        · split at whole
          · rename_i d ds n found
            exact absurd found (other d ds n)
          · exact (whole first).isInfix
        · exact List.infix_cons (ih later)

/-- Characters that stand for themselves side by side are written side by side. -/
theorem infix_of_glyphs {value : List Char} (some' : run ≠ []) (h : run <:+: glyphs value) :
    run.map Glyph.char <:+: value :=
  infix_of_glyphsFrom plain some' h

end Plain

end Reference
end PageSkins.Markup
