import PageSkins.Proofs.Stylesheet

/-!
# Other spellings of a style

A text is another spelling of a first one where pieces of it are exchanged for pieces
that no dangerous construct reaches into, and blanks for blanks. What occurs in the
other spelling occurs in the first as well.
-/

namespace PageSkins.Stylesheet

open Text

/-- The first character stands in no construct, and no construct begins at any of them. -/
def veils (u : List Char) : Bool :=
  dangerous.all fun p => u.head?.any p.avoids && u.all fun c => !p.begins c

/-- The second text is another spelling of the first. -/
inductive Respelled : List Char → List Char → Prop
  | nil : Respelled [] []
  | cons (c : Char) {s t : List Char} (rest : Respelled s t) : Respelled (c :: s) (c :: t)
  | veiled (u : List Char) {w s t : List Char} (veil : veils w = true) (rest : Respelled s t) :
      Respelled (u ++ s) (w ++ t)
  | blanks {x y : Char} {u w s t : List Char} (before : ∀ c ∈ x :: u, isBlank c = true)
      (after : ∀ c ∈ y :: w, isBlank c = true) (rest : Respelled s t) :
      Respelled (x :: (u ++ s)) (y :: (w ++ t))

namespace Respelled

theorem refl (s : List Char) : Respelled s s := by
  induction s with
  | nil => exact nil
  | cons c s ih => exact cons c ih

theorem append {s t s' t' : List Char} (h : Respelled s t) (h' : Respelled s' t') :
    Respelled (s ++ s') (t ++ t') := by
  induction h with
  | nil => exact h'
  | cons c _ ih => exact cons c ih
  | veiled u veil _ ih =>
    rw [List.append_assoc, List.append_assoc]
    exact veiled u veil ih
  | blanks before after _ ih =>
    rw [List.cons_append, List.cons_append, List.append_assoc, List.append_assoc]
    exact blanks before after ih

/-- A text is spelled otherwise character by character where each character stays or is veiled. -/
theorem flatMap {f : Char → List Char} (h : ∀ c, f c = [c] ∨ veils (f c) = true) (s : List Char) :
    Respelled s (s.flatMap f) := by
  induction s with
  | nil => exact nil
  | cons c s ih =>
    rw [List.flatMap_cons]
    rcases h c with same | veil
    · rw [same]
      exact cons c ih
    · exact veiled [c] veil ih

end Respelled

/-! ### Matching -/

theorem cons_of_veils {p : Pattern} (hp : p ∈ dangerous) {w : List Char} (h : veils w = true) :
    ∃ c r, w = c :: r ∧ p.avoids c = true := by
  have known := List.all_eq_true.1 h p hp
  cases w with
  | nil => cases known
  | cons c r => exact ⟨c, r, rfl, (Bool.and_eq_true_iff.1 known).1⟩

theorem begins_of_veils {p : Pattern} (hp : p ∈ dangerous) {w : List Char} (h : veils w = true) :
    ∀ c ∈ w, p.begins c = false := by
  have known := (Bool.and_eq_true_iff.1 (List.all_eq_true.1 h p hp)).2
  intro c hc
  rw [← Bool.not_eq_true']
  exact List.all_eq_true.1 known c hc

theorem begins_of_isBlank {p : Pattern} (hp : p ∈ dangerous) {c : Char} (h : isBlank c = true) :
    p.begins c = false := by
  cases begins : p.begins c with
  | false => rfl
  | true =>
    rw [Pattern.isBlank_of_begins (framed_of_dangerous p hp) begins] at h
    cases h

/-- Past the blanks at the start the texts are spelled alike still, or no construct goes on in the second. -/
theorem Respelled.dropWhile {p : Pattern} (hp : p ∈ dangerous) {q : Pattern}
    (framed : q.framed false = true) (part : ∀ a ∈ q, a ∈ p) {s t : List Char} (h : Respelled s t) :
    Respelled (s.dropWhile isBlank) (t.dropWhile isBlank) ∨
      q.restOf? (t.dropWhile isBlank) = none := by
  induction h with
  | nil => exact Or.inl nil
  | @cons c s t rest ih =>
    by_cases hc : isBlank c = true
    · rw [List.dropWhile_cons_of_pos hc, List.dropWhile_cons_of_pos hc]
      exact ih
    · rw [List.dropWhile_cons_of_neg hc, List.dropWhile_cons_of_neg hc]
      exact Or.inl (cons c rest)
  | @veiled u w s t veil _ _ =>
    -- a letter has to come next, and the piece exchanged begins with none
    obtain ⟨d, q, rfl, -, -⟩ := Pattern.framed_false_cases framed
    obtain ⟨c, r, rfl, hc⟩ := cons_of_veils hp veil
    have shown : ¬ isBlank c = true := by
      rw [Pattern.isBlank_of_avoids hc]
      exact Bool.false_ne_true
    refine Or.inr ?_
    rw [List.cons_append, List.dropWhile_cons_of_neg shown, Pattern.restOf?,
      if_neg (Pattern.ne_of_avoids hc (part _ List.mem_cons_self))]
  | @blanks x y u w s t before after _ ih =>
    rw [← List.cons_append, List.dropWhile_append_of_pos before, ← List.cons_append,
      List.dropWhile_append_of_pos after]
    exact ih

/-- How another spelling can begin. -/
theorem Respelled.cons_cases {p : Pattern} (hp : p ∈ dangerous) {s t : List Char} {x : Char}
    (h : Respelled s (x :: t)) : (∃ s', s = x :: s' ∧ Respelled s' t) ∨ p.avoids x = true ∨
      ∃ y u s' w t', s = y :: (u ++ s') ∧ t = w ++ t' ∧ (∀ c ∈ y :: u, isBlank c = true) ∧
        (∀ c ∈ x :: w, isBlank c = true) ∧ Respelled s' t' := by
  generalize whole : x :: t = r at h
  cases h with
  | nil => cases whole
  | @cons c s t rest =>
    cases whole
    exact Or.inl ⟨s, rfl, rest⟩
  | veiled u veil _ =>
    obtain ⟨c, r, rfl, hc⟩ := cons_of_veils hp veil
    rw [List.cons_append] at whole
    rw [(List.cons.inj whole).1]
    exact Or.inr (Or.inl hc)
  | @blanks y _ u w s t before after rest =>
    cases whole
    exact Or.inr (Or.inr ⟨y, u, s, w, t, rfl, rfl, before, after, rest⟩)

/-- What a step of a construct takes of another spelling, it takes of the first. -/
theorem Respelled.takes {p : Pattern} (hp : p ∈ dangerous) {a : Atom} {q : List Atom} {after : Bool}
    (framed : Pattern.framed after (a :: q) = true) (part : ∀ b ∈ a :: q, b ∈ p)
    {s t t' : List Char} (h : Respelled s t) (taken : Pattern.Takes a t t') :
    ∃ s', Pattern.Takes a s s' ∧ (Respelled s' t' ∨ Pattern.restOf? q t' = none) := by
  have below : ∀ b ∈ q, b ∈ p := fun b hb => part b (List.mem_cons_of_mem _ hb)
  cases taken with
  | @letter d x same t =>
    simp only [Pattern.framed, Bool.and_eq_true, Bool.not_eq_true'] at framed
    rcases h.cons_cases hp with ⟨s', rfl, alike⟩ | hx | ⟨y, u, s', w, t', rfl, rfl, -, blank, -⟩
    · exact ⟨s', .letter same s', Or.inl alike⟩
    · exact absurd same (Pattern.ne_of_avoids hx (part _ List.mem_cons_self))
    · have shown := Pattern.isBlank_of_letter framed.1 same
      rw [blank x List.mem_cons_self] at shown
      cases shown
  | blanks =>
    simp only [Pattern.framed, Bool.and_eq_true] at framed
    exact ⟨_, .blanks s, h.dropWhile hp framed.2 below⟩
  | @someBlanks x blank t =>
    simp only [Pattern.framed, Bool.and_eq_true] at framed
    rcases h.cons_cases hp with ⟨s', rfl, alike⟩ | hx | ⟨y, u, s', w, t', rfl, rfl, before, after, alike⟩
    · exact ⟨_, .someBlanks blank s', alike.dropWhile hp framed.2 below⟩
    · rw [Pattern.isBlank_of_avoids hx] at blank
      cases blank
    · refine ⟨_, .someBlanks (before y List.mem_cons_self) (u ++ s'), ?_⟩
      rw [List.dropWhile_append_of_pos fun c hc => before c (List.mem_cons_of_mem _ hc),
        List.dropWhile_append_of_pos fun c hc => after c (List.mem_cons_of_mem _ hc)]
      exact alike.dropWhile hp framed.2 below

/-- What matches at the start of another spelling matches at the start of the first, and what follows is
another spelling of what follows there. -/
theorem Respelled.restOf? {p : Pattern} (hp : p ∈ dangerous) {q : Pattern} {after : Bool}
    (framed : q.framed after = true) (part : ∀ a ∈ q, a ∈ p) {s t rest : List Char}
    (h : Respelled s t) (found : q.restOf? t = some rest) :
    ∃ rest', q.restOf? s = some rest' ∧ Respelled rest' rest := by
  induction q generalizing after s t with
  | nil =>
    cases found
    exact ⟨s, rfl, h⟩
  | cons a q ih =>
    obtain ⟨t', taken, found⟩ := Pattern.restOf?_cons_iff.1 found
    obtain ⟨s', there, alike | none'⟩ := h.takes hp framed part taken
    · obtain ⟨after', inner⟩ := Pattern.framed_of_cons framed
      obtain ⟨rest', left, alike⟩ := ih inner (fun b hb => part b (List.mem_cons_of_mem _ hb)) alike found
      exact ⟨rest', Pattern.restOf?_cons_iff.2 ⟨s', there, left⟩, alike⟩
    · rw [found] at none'
      cases none'

theorem Respelled.occursIn {p : Pattern} (hp : p ∈ dangerous) {s t : List Char}
    (h : Respelled s t) (found : p.occursIn t = true) : p.occursIn s = true := by
  have framed := framed_of_dangerous p hp
  induction h with
  | nil => exact found
  | @cons c s t rest ih =>
    rw [Pattern.occursIn, Bool.or_eq_true] at found ⊢
    rcases found with here | later
    · obtain ⟨r, here⟩ := Option.isSome_iff_exists.1 here
      obtain ⟨r', there, -⟩ := (Respelled.cons c rest).restOf? hp framed (fun _ ha => ha) here
      exact Or.inl (by rw [there]; rfl)
    · exact Or.inr (ih later)
  | veiled u veil _ ih =>
    rw [Pattern.occursIn_append framed (begins_of_veils hp veil)] at found
    exact Pattern.occursIn_of_suffix (ih found) (List.suffix_append _ _)
  | @blanks x y u w s t _ after _ ih =>
    rw [← List.cons_append,
      Pattern.occursIn_append framed fun c hc => begins_of_isBlank hp (after c hc)] at found
    exact Pattern.occursIn_of_suffix (ih found) (List.suffix_append (x :: u) s)

/-- Another spelling of a harmless text is harmless. -/
theorem Respelled.isDangerous {s t : List Char} (h : Respelled s t) (harmless : isDangerous s = false) :
    isDangerous t = false := by
  rw [isDangerous_eq_false_iff] at harmless ⊢
  intro p hp
  cases found : p.occursIn t with
  | false => rfl
  | true =>
    rw [← harmless p hp]
    exact (h.occursIn hp found).symm

end PageSkins.Stylesheet
