import PageSkins.Proofs.Markup.ReadReferences
import PageSkins.Proofs.Markup.ReducedMarkup

/-!
# Values spelled with references

A value in which every ampersand begins a reference that stands for something
has one reading: a browser finds the characters that stand for themselves and
those that the references stand for, in their order. Only characters that count
in an address are followed here, so line breaks and zero characters, which change
when markup is read, do not matter.
-/

namespace PageSkins.Markup

open Address (counts)
open Reference (Stands)

/-- The first text spells the second, as far as the characters of an address go: every ampersand in it
begins a reference that stands for something. -/
inductive Spells : List Char → List Char → Prop
  | nil : Spells [] []
  | char {c : Char} {w s : List Char} (plain : c ≠ '&') (rest : Spells w s) :
      Spells (c :: w) ([c].filter counts ++ s)
  | reference {body cs w s : List Char} (stands : Stands body cs) (rest : Spells w s) :
      Spells ('&' :: (body ++ ';' :: w)) (cs.filter counts ++ s)

namespace Spells

variable {w s u t : List Char}

theorem append (h : Spells w s) (h' : Spells u t) : Spells (w ++ u) (s ++ t) := by
  induction h with
  | nil => exact h'
  | char plain rest ih =>
    rw [List.append_assoc]
    exact .char plain ih
  | reference stands rest ih =>
    have whole := Spells.reference stands ih
    simpa using whole

/-- A text without ampersands spells itself. -/
theorem of_notMem (h : '&' ∉ w) : Spells w (w.filter counts) := by
  induction w with
  | nil => exact .nil
  | cons c w ih =>
    have first : c ≠ '&' := fun e => h (e ▸ List.mem_cons_self)
    have rest := Spells.char first (ih fun hm => h (List.mem_cons_of_mem _ hm))
    rwa [← List.filter_append, List.singleton_append] at rest

/-! ### What a browser reads -/

theorem glyphsFrom_eq_drop (n : Nat) (w : List Char) :
    Reference.glyphsFrom n w = Reference.glyphsFrom 0 (w.drop n) := by
  induction n generalizing w with
  | zero => rfl
  | succ n ih =>
    cases w with
    | nil => simp [Reference.glyphsFrom]
    | cons c w => rw [Reference.glyphsFrom, ih, List.drop_succ_cons]

/-- Characters before the first ampersand stand for themselves. -/
theorem glyphsFrom_append {u : List Char} (plain : '&' ∉ u) (w : List Char) :
    Reference.glyphsFrom 0 (u ++ w) = u.map (⟨·, false⟩) ++ Reference.glyphsFrom 0 w := by
  induction u with
  | nil => rfl
  | cons c u ih =>
    have first : c ≠ '&' := fun e => plain (e ▸ List.mem_cons_self)
    rw [List.cons_append, Reference.glyphsFrom, if_neg first]
    exact congrArg (_ :: ·) (ih fun hm => plain (List.mem_cons_of_mem _ hm))

theorem glyphsFrom_reference {d : Char} {ds w : List Char} {n : Nat}
    (read : Reference.readAt? w = some (d :: ds, n)) :
    Reference.glyphsFrom 0 ('&' :: w) = (d :: ds).map (⟨·, true⟩) ++ Reference.glyphsFrom n w := by
  rw [Reference.glyphsFrom, if_pos rfl, read]

/-- A browser reads what is spelled. -/
theorem glyphs (h : Spells w s) : ((Reference.glyphs w).map Glyph.char).filter counts = s := by
  unfold Reference.glyphs
  induction h with
  | nil => rfl
  | char plain rest ih =>
    rw [Reference.glyphsFrom, if_neg plain]
    dsimp only
    rw [List.map_cons, ← List.singleton_append, List.filter_append, ih]
  | @reference body cs w s stands rest ih =>
    obtain ⟨d, ds, read, same⟩ := stands.readAt? w
    have after : (body ++ ';' :: w).drop (body.length + 1) = w := by
      rw [← List.drop_drop, List.drop_left]
      rfl
    have shown : ((d :: ds).map (⟨·, true⟩ : Char → Glyph)).map Glyph.char = d :: ds := by
      rw [List.map_map]
      exact List.map_id' _
    rw [glyphsFrom_reference read, glyphsFrom_eq_drop, after, List.map_append, List.filter_append, ih,
      shown, same]

/-! ### Reading markup again -/

theorem cons_other {c : Char} (plain : c ≠ '&') (other : counts c = false) (h : Spells w s) :
    Spells (c :: w) s := by
  have whole := Spells.char plain h
  rwa [List.filter_cons_of_neg (by simp [other]), List.filter_nil, List.nil_append] at whole

theorem normalizeBreaks (h : Spells w s) : Spells (Markup.normalizeBreaks w) s := by
  induction h with
  | nil => exact .nil
  | @char c w s plain rest ih =>
    by_cases break' : c = '\r'
    · have off : ['\r'].filter counts = [] := by decide
      rw [break', off, List.nil_append]
      cases w with
      | nil => exact ih.cons_other (by decide) (by decide)
      | cons d w =>
        by_cases feed : d = '\n'
        · rw [feed] at ih ⊢
          rw [normalizeBreaks_cons (by decide)] at ih
          rwa [Markup.normalizeBreaks]
        · have single : Markup.normalizeBreaks ('\r' :: d :: w) = '\n' :: Markup.normalizeBreaks (d :: w) := by
            rw [Markup.normalizeBreaks]
            rintro r heq
            exact feed (List.cons.inj heq).1
          rw [single]
          exact ih.cons_other (by decide) (by decide)
    · rw [normalizeBreaks_cons break']
      exact .char plain ih
  | @reference body cs w s stands rest ih =>
    have none' : '\r' ∉ '&' :: (body ++ [';']) := by
      intro hm
      have inside : '\r' ∈ body := by simpa using hm
      exact absurd (stands.stop _ inside) (by decide)
    have layout : ∀ v, '&' :: (body ++ ';' :: v) = '&' :: (body ++ [';']) ++ v := by simp
    rw [layout, normalizeBreaks_append none', ← layout]
    exact .reference stands ih

theorem visible (h : Spells w s) : Spells (w.map Markup.visible) s := by
  induction h with
  | nil => exact .nil
  | @char c w s plain rest ih =>
    rw [List.map_cons]
    by_cases zero : c = '\x00'
    · have off : ['\x00'].filter counts = [] := by decide
      rw [zero, off, List.nil_append]
      exact ih.cons_other (by decide) (by decide)
    · rw [visible_of_ne zero]
      exact .char plain ih
  | @reference body cs w s stands rest ih =>
    have same : body.map Markup.visible = body := by
      have each : ∀ c ∈ body, Markup.visible c = c := by
        intro c hc
        apply visible_of_ne
        rintro rfl
        rcases stands.plain _ hc with e | e <;> cases e
      exact (List.map_congr_left each).trans (List.map_id' _)
    rw [List.map_cons, List.map_append, same, List.map_cons]
    exact .reference stands ih

end Spells
end PageSkins.Markup
