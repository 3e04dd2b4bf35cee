import Mathlib.Data.List.Infix
import Mathlib.Data.List.TakeWhile
import PageSkins.Proofs.Lists
import PageSkins.Text.Fold

/-!
# Matching patterns

A pattern matches a text by its letters, in any of their variants, and by any number
of blanks where it allows them. The search finds a match wherever there is one, if
letters stand on either side of all blanks and no letter is blank. No match goes past
a character that stands in no pattern, so replacing the matches of a pattern by
something that begins and ends with such a character leaves none and makes none.
-/

namespace PageSkins

namespace Text

/-- A blank is a variant of itself alone. -/
theorem foldLetter_of_isBlank {c : Char} (h : isBlank c = true) : foldLetter c = c := by
  have shown : ∀ d ∈ ['\u017f', '\u0130', '\u0131', '\u212a'], isBlank d = false :=
    forall_mem_of_all (by decide)
  have apart : ∀ d ∈ ['\u017f', '\u0130', '\u0131', '\u212a'], c ≠ d := by
    rintro d hd rfl
    rw [shown c hd] at h
    cases h
  have small : c.toLower = c := by
    unfold Char.toLower
    rw [dif_neg]
    rintro ⟨low, high⟩
    have low : 65 ≤ c.toNat := low
    have high : c.toNat ≤ 90 := high
    simp [isBlank, blankRanges, Ranges.has] at h
    omega
  unfold foldLetter
  rw [if_neg (apart _ (by decide)), if_neg, if_neg (apart _ (by decide)), small]
  rintro (same | same)
  · exact apart _ (by decide) same
  · exact apart _ (by decide) same

namespace Pattern

/-- The text is a match from its first character to its last. -/
def Matches : Pattern → List Char → Prop
  | [], s => s = []
  | .letter c :: p, s => ∃ x t, s = x :: t ∧ foldLetter x = c ∧ Matches p t
  | .blanks :: p, s => ∃ u t, s = u ++ t ∧ (∀ x ∈ u, isBlank x = true) ∧ Matches p t
  | .someBlanks :: p, s =>
    ∃ x u t, s = x :: (u ++ t) ∧ (∀ y ∈ x :: u, isBlank y = true) ∧ Matches p t

/-- Letters stand on either side of all blanks, and no letter is blank. What is left of a
pattern may begin with blanks after a letter only. -/
def framed (afterLetter : Bool) : Pattern → Bool
  | [] => afterLetter
  | .letter c :: p => !isBlank c && framed true p
  | .blanks :: p => afterLetter && framed false p
  | .someBlanks :: p => afterLetter && framed false p

/-- The character is not blank and no variant of a letter of the pattern. -/
def avoids (p : Pattern) (c : Char) : Bool :=
  !isBlank c && !p.contains (.letter (foldLetter c))

def begins (p : Pattern) (c : Char) : Bool := p.head? == some (.letter (foldLetter c))

/-! ### Searching -/

theorem framed_false_cases {p : Pattern} (h : p.framed false = true) :
    ∃ c q, p = .letter c :: q ∧ isBlank c = false ∧ framed true q = true := by
  cases p with
  | nil => cases h
  | cons a p =>
    cases a with
    | letter c =>
      simp only [framed, Bool.and_eq_true, Bool.not_eq_true'] at h
      exact ⟨c, p, rfl, h⟩
    | blanks => cases h
    | someBlanks => cases h

theorem isBlank_of_letter {c x : Char} (hc : isBlank c = false) (h : foldLetter x = c) :
    isBlank x = false := by
  cases blank : isBlank x with
  | false => rfl
  | true =>
    rw [← h, foldLetter_of_isBlank blank, blank] at hc
    cases hc

/-- What is left of a text when a step has taken its part of the start. -/
inductive Takes : Atom → List Char → List Char → Prop
  | letter {c x : Char} (same : foldLetter x = c) (s : List Char) : Takes (.letter c) (x :: s) s
  | blanks (s : List Char) : Takes .blanks s (s.dropWhile isBlank)
  | someBlanks {x : Char} (blank : isBlank x = true) (s : List Char) :
      Takes .someBlanks (x :: s) (s.dropWhile isBlank)

variable {a : Atom} {q : List Atom}

theorem restOf?_cons_iff {s rest : List Char} :
    restOf? (a :: q) s = some rest ↔ ∃ t, Takes a s t ∧ restOf? q t = some rest := by
  constructor
  · intro h
    cases a with
    | letter c =>
      cases s with
      | nil => cases h
      | cons x s =>
        rw [restOf?] at h
        split at h
        · rename_i same
          exact ⟨s, .letter same s, h⟩
        · cases h
    | blanks => exact ⟨_, .blanks s, h⟩
    | someBlanks =>
      cases s with
      | nil => cases h
      | cons x s =>
        rw [restOf?] at h
        split at h
        · rename_i blank
          exact ⟨_, .someBlanks blank s, h⟩
        · cases h
  · rintro ⟨t, taken, h⟩
    cases taken with
    | letter same =>
      rw [restOf?, if_pos same]
      exact h
    | blanks => exact h
    | someBlanks blank =>
      rw [restOf?, if_pos blank]
      exact h

theorem framed_of_cons {after : Bool} (h : framed after (a :: q) = true) :
    ∃ after', framed after' q = true := by
  cases a with
  | letter c => exact ⟨true, (Bool.and_eq_true_iff.1 h).2⟩
  | blanks => exact ⟨false, (Bool.and_eq_true_iff.1 h).2⟩
  | someBlanks => exact ⟨false, (Bool.and_eq_true_iff.1 h).2⟩

/-- The blanks before a match end where it begins: a letter has to come after blanks. -/
theorem dropWhile_matches (framed : framed false q = true) {u t : List Char}
    (hu : ∀ x ∈ u, isBlank x = true) (h : Matches q t) (rest : List Char) :
    (u ++ t ++ rest).dropWhile isBlank = t ++ rest := by
  obtain ⟨c, q, rfl, hc, -⟩ := framed_false_cases framed
  obtain ⟨x, t, rfl, hx, -⟩ := h
  have shown : ¬ isBlank x = true := by
    rw [isBlank_of_letter hc hx]
    exact Bool.false_ne_true
  rw [List.append_assoc, List.dropWhile_append_of_pos hu, List.cons_append,
    List.dropWhile_cons_of_neg shown]

theorem takes_of_matches {after : Bool} (framed : framed after (a :: q) = true) {mid : List Char}
    (h : Matches (a :: q) mid) (rest : List Char) :
    ∃ mid', Takes a (mid ++ rest) (mid' ++ rest) ∧ Matches q mid' := by
  cases a with
  | letter c =>
    obtain ⟨x, t, rfl, hx, ht⟩ := h
    exact ⟨t, .letter hx (t ++ rest), ht⟩
  | blanks =>
    obtain ⟨u, t, rfl, hu, ht⟩ := h
    have left := dropWhile_matches (Bool.and_eq_true_iff.1 framed).2 hu ht rest
    exact ⟨t, left ▸ Takes.blanks (u ++ t ++ rest), ht⟩
  | someBlanks =>
    obtain ⟨x, u, t, rfl, hu, ht⟩ := h
    have left := dropWhile_matches (Bool.and_eq_true_iff.1 framed).2
      (fun y hy => hu y (List.mem_cons_of_mem _ hy)) ht rest
    exact ⟨t, left ▸ Takes.someBlanks (hu x List.mem_cons_self) (u ++ t ++ rest), ht⟩

/-- A match at the start of a text is found, and what follows it is left. -/
theorem restOf?_of_matches {p : Pattern} {after : Bool} (framed : p.framed after = true)
    {mid : List Char} (h : p.Matches mid) (rest : List Char) :
    p.restOf? (mid ++ rest) = some rest := by
  induction p generalizing after mid with
  | nil =>
    rw [h]
    rfl
  | cons a p ih =>
    obtain ⟨mid', taken, hm⟩ := takes_of_matches framed h rest
    obtain ⟨after', below⟩ := framed_of_cons framed
    exact restOf?_cons_iff.2 ⟨mid' ++ rest, taken, ih below hm⟩

theorem matches_of_takes {s mid rest : List Char} (taken : Takes a s (mid ++ rest))
    (h : Matches q mid) : ∃ mid', s = mid' ++ rest ∧ Matches (a :: q) mid' := by
  generalize left : mid ++ rest = t at taken
  cases taken with
  | @letter c x same =>
    rw [← left]
    exact ⟨x :: mid, rfl, x, mid, rfl, same, h⟩
  | blanks =>
    refine ⟨s.takeWhile isBlank ++ mid, ?_, _, _, rfl, fun x hx => List.mem_takeWhile_imp hx, h⟩
    rw [List.append_assoc, left, List.takeWhile_append_dropWhile]
  | @someBlanks x blank s =>
    refine ⟨x :: (s.takeWhile isBlank ++ mid), ?_, x, _, _, rfl, fun y hy => ?_, h⟩
    · rw [List.cons_append, List.append_assoc, left, List.takeWhile_append_dropWhile]
    · rcases List.mem_cons.1 hy with rfl | hy
      · exact blank
      · exact List.mem_takeWhile_imp hy

/-- What is found at the start of a text is a match. -/
theorem matches_of_restOf? {p : Pattern} {s rest : List Char} (h : p.restOf? s = some rest) :
    ∃ mid, s = mid ++ rest ∧ p.Matches mid := by
  induction p generalizing s with
  | nil =>
    cases h
    exact ⟨[], rfl, rfl⟩
  | cons a p ih =>
    obtain ⟨t, taken, found⟩ := restOf?_cons_iff.1 h
    obtain ⟨mid, rfl, hm⟩ := ih found
    exact matches_of_takes taken hm

/-- The search finds a match if and only if there is one. -/
theorem occursIn_iff {p : Pattern} (framed : p.framed false = true) {s : List Char} :
    p.occursIn s = true ↔ ∃ mid, mid <:+: s ∧ p.Matches mid := by
  have start : ∀ s : List Char,
      (p.restOf? s).isSome = true ↔ ∃ mid, mid <+: s ∧ p.Matches mid := by
    intro s
    constructor
    · intro found
      obtain ⟨rest, h⟩ := Option.isSome_iff_exists.1 found
      obtain ⟨mid, rfl, hm⟩ := matches_of_restOf? h
      exact ⟨mid, List.prefix_append _ _, hm⟩
    · rintro ⟨mid, ⟨rest, rfl⟩, hm⟩
      rw [restOf?_of_matches framed hm]
      rfl
  induction s with
  | nil =>
    rw [occursIn, start]
    simp only [List.prefix_nil, List.infix_nil]
  | cons c s ih =>
    rw [occursIn, Bool.or_eq_true, start]
    constructor
    · rintro (⟨mid, here, hm⟩ | found)
      · exact ⟨mid, here.isInfix, hm⟩
      · obtain ⟨mid, later, hm⟩ := ih.1 found
        exact ⟨mid, List.infix_cons later, hm⟩
    · rintro ⟨mid, there, hm⟩
      rcases List.infix_cons_iff.1 there with here | later
      · exact Or.inl ⟨mid, here, hm⟩
      · exact Or.inr (ih.2 ⟨mid, later, hm⟩)

/-! ### Characters of no pattern -/

theorem ne_of_avoids {p : Pattern} {c d : Char} (h : p.avoids c = true) (hd : .letter d ∈ p) :
    foldLetter c ≠ d := by
  rintro rfl
  simp only [avoids, Bool.and_eq_true, Bool.not_eq_true'] at h
  rw [List.contains_iff_mem.2 hd] at h
  cases h.2

theorem isBlank_of_avoids {p : Pattern} {c : Char} (h : p.avoids c = true) :
    isBlank c = false := by
  simp only [avoids, Bool.and_eq_true, Bool.not_eq_true'] at h
  exact h.1

theorem avoids_of_cons {a : Atom} {p : List Atom} {c : Char} (h : avoids (a :: p) c = true) :
    avoids p c = true := by
  simp only [avoids, List.contains_cons, Bool.and_eq_true, Bool.not_eq_true',
    Bool.or_eq_false_iff] at h ⊢
  exact ⟨h.1, h.2.2⟩

theorem begins_of_restOf? {p : Pattern} (framed : p.framed false = true) {c : Char}
    {s rest : List Char} (h : p.restOf? (c :: s) = some rest) : p.begins c = true := by
  obtain ⟨d, q, rfl, -, -⟩ := framed_false_cases framed
  rw [restOf?] at h
  split at h
  · rename_i hc
    rw [begins, hc]
    exact beq_self_eq_true _
  · cases h

theorem restOf?_nil {p : Pattern} (framed : p.framed false = true) : p.restOf? [] = none := by
  obtain ⟨d, q, rfl, -, -⟩ := framed_false_cases framed
  rfl

/-- Characters that no match begins with can be passed over. -/
theorem occursIn_append {p : Pattern} (framed : p.framed false = true) {u : List Char}
    (h : ∀ c ∈ u, p.begins c = false) (s : List Char) : p.occursIn (u ++ s) = p.occursIn s := by
  induction u with
  | nil => rfl
  | cons c u ih =>
    have none : p.restOf? (c :: (u ++ s)) = none := by
      cases found : p.restOf? (c :: (u ++ s)) with
      | none => rfl
      | some rest =>
        have := begins_of_restOf? framed found
        rw [h c List.mem_cons_self] at this
        cases this
    rw [List.cons_append, occursIn, none, ih fun d hd => h d (List.mem_cons_of_mem _ hd)]
    rfl

theorem dropWhile_append_cons {c : Char} (shown : isBlank c = false) (u s : List Char) :
    (u ++ c :: s).dropWhile isBlank = u.dropWhile isBlank ++ c :: s := by
  rw [List.dropWhile_append]
  split
  · rename_i blank
    rw [List.isEmpty_iff.1 blank, List.dropWhile_cons_of_neg, List.nil_append]
    rw [shown]
    exact Bool.false_ne_true
  · rfl

/-- No step takes anything from a character that stands in no pattern on. -/
theorem takes_append_cons {c : Char} (h : avoids (a :: q) c = true) {u s t : List Char} :
    Takes a (u ++ c :: s) t ↔ ∃ v, t = v ++ c :: s ∧ Takes a u v := by
  constructor
  · intro taken
    generalize whole : u ++ c :: s = w at taken
    cases taken with
    | blanks =>
      rw [← whole, dropWhile_append_cons (isBlank_of_avoids h)]
      exact ⟨_, rfl, .blanks u⟩
    | @letter d x same =>
      cases u with
      | nil =>
        cases whole
        exact absurd same (ne_of_avoids h List.mem_cons_self)
      | cons y u =>
        rw [List.cons_append] at whole
        obtain ⟨rfl, rfl⟩ := List.cons.inj whole
        exact ⟨u, rfl, .letter same u⟩
    | @someBlanks x blank =>
      cases u with
      | nil =>
        cases whole
        rw [isBlank_of_avoids h] at blank
        cases blank
      | cons y u =>
        rw [List.cons_append] at whole
        obtain ⟨rfl, rfl⟩ := List.cons.inj whole
        rw [dropWhile_append_cons (isBlank_of_avoids h)]
        exact ⟨_, rfl, .someBlanks blank u⟩
  · rintro ⟨v, rfl, taken⟩
    cases taken with
    | letter same => exact .letter same (v ++ c :: s)
    | blanks =>
      rw [← dropWhile_append_cons (isBlank_of_avoids h)]
      exact .blanks (u ++ c :: s)
    | @someBlanks x blank u =>
      rw [← dropWhile_append_cons (isBlank_of_avoids h)]
      exact .someBlanks blank (u ++ c :: s)

theorem restOf?_append_iff {q : Pattern} {c : Char} (h : q.avoids c = true) {u s rest : List Char} :
    q.restOf? (u ++ c :: s) = some rest ↔ ∃ r, q.restOf? u = some r ∧ r ++ c :: s = rest := by
  induction q generalizing u with
  | nil =>
    constructor
    · intro found
      exact ⟨u, rfl, Option.some.inj found⟩
    · rintro ⟨r, found, rfl⟩
      cases found
      rfl
  | cons a q ih =>
    have below := avoids_of_cons h
    rw [restOf?_cons_iff]
    constructor
    · rintro ⟨t, taken, found⟩
      obtain ⟨v, rfl, there⟩ := (takes_append_cons h).1 taken
      obtain ⟨r, left, rest⟩ := (ih below).1 found
      exact ⟨r, restOf?_cons_iff.2 ⟨v, there, left⟩, rest⟩
    · rintro ⟨r, found, rest⟩
      obtain ⟨v, taken, found⟩ := restOf?_cons_iff.1 found
      exact ⟨v ++ c :: s, (takes_append_cons h).2 ⟨v, rfl, taken⟩, (ih below).2 ⟨r, found, rest⟩⟩

/-- No match goes past a character that stands in no pattern. -/
theorem restOf?_append {q : Pattern} {c : Char} (h : q.avoids c = true) (u s : List Char) :
    q.restOf? (u ++ c :: s) = (q.restOf? u).map (· ++ c :: s) := by
  apply Option.ext
  intro rest
  rw [restOf?_append_iff h, Option.map_eq_some_iff]

theorem occursIn_append_cons {p : Pattern} (framed : p.framed false = true) {c : Char}
    (h : p.avoids c = true) (u s : List Char) :
    p.occursIn (u ++ c :: s) = (p.occursIn u || p.occursIn s) := by
  induction u with
  | nil =>
    have first := restOf?_append h [] s
    have empty : p.occursIn [] = false := by
      rw [occursIn, restOf?_nil framed]
      rfl
    rw [restOf?_nil framed] at first
    rw [List.nil_append] at first ⊢
    rw [empty, occursIn, first]
    rfl
  | cons x u ih =>
    have first := restOf?_append h (x :: u) s
    rw [List.cons_append] at first ⊢
    rw [occursIn, first, Option.isSome_map, ih, occursIn, Bool.or_assoc]

/-! ### Replacing -/

section Replacing

variable {p q : Pattern} {m : List Char}

theorem length_restOf? {q : Pattern} {s rest : List Char} (h : q.restOf? s = some rest) :
    rest.length ≤ s.length := by
  obtain ⟨mid, rfl, -⟩ := matches_of_restOf? h
  rw [List.length_append]
  omega

/-- A match that is found takes in the character that it begins with. -/
theorem length_of_framed (framed : p.framed false = true) {c : Char} {s rest : List Char}
    (h : p.restOf? (c :: s) = some rest) : rest.length ≤ s.length := by
  obtain ⟨d, q, rfl, -, -⟩ := framed_false_cases framed
  rw [restOf?] at h
  split at h
  · exact length_restOf? h
  · cases h

theorem replace_nil : p.replace m [] = [] := by
  rw [replace]

theorem replace_cons_none {c : Char} {s : List Char} (h : p.restOf? (c :: s) = none) :
    p.replace m (c :: s) = c :: p.replace m s := by
  rw [replace, h]

theorem replace_cons_some (framed : p.framed false = true) {c : Char} {s rest : List Char}
    (h : p.restOf? (c :: s) = some rest) : p.replace m (c :: s) = m ++ p.replace m rest := by
  rw [replace, h]
  exact dif_pos (length_of_framed framed h)

theorem isBlank_of_begins (framed : p.framed false = true) {c : Char} (h : p.begins c = true) :
    isBlank c = false := by
  obtain ⟨d, q, rfl, hd, -⟩ := framed_false_cases framed
  rw [begins, List.head?_cons, beq_iff_eq] at h
  cases h
  exact isBlank_of_letter hd rfl

/-- Blanks at the start stay where they are. -/
theorem dropWhile_replace (framed : p.framed false = true) {c : Char} {m : List Char}
    (hc : isBlank c = false) (s : List Char) :
    (p.replace (c :: m) s).dropWhile isBlank = p.replace (c :: m) (s.dropWhile isBlank) := by
  induction s with
  | nil => rw [List.dropWhile_nil, replace_nil, List.dropWhile_nil]
  | cons x s ih =>
    by_cases hx : isBlank x = true
    · have kept : p.restOf? (x :: s) = none := by
        cases found : p.restOf? (x :: s) with
        | none => rfl
        | some rest =>
          rw [isBlank_of_begins framed (begins_of_restOf? framed found)] at hx
          cases hx
      rw [replace_cons_none kept, List.dropWhile_cons_of_pos hx, List.dropWhile_cons_of_pos hx, ih]
    · rw [List.dropWhile_cons_of_neg hx]
      cases found : p.restOf? (x :: s) with
      | none => rw [replace_cons_none found, List.dropWhile_cons_of_neg hx]
      | some rest =>
        rw [replace_cons_some framed found, List.cons_append, List.dropWhile_cons_of_neg]
        rw [hc]
        exact Bool.false_ne_true

theorem replace_eq_cons (framed : p.framed false = true) {c x : Char} {m s t : List Char}
    (h : p.replace (c :: m) s = x :: t) :
    (∃ s', s = x :: s' ∧ t = p.replace (c :: m) s') ∨ x = c := by
  cases s with
  | nil =>
    rw [replace_nil] at h
    cases h
  | cons y s =>
    cases found : p.restOf? (y :: s) with
    | none =>
      rw [replace_cons_none found] at h
      cases h
      exact Or.inl ⟨s, rfl, rfl⟩
    | some rest =>
      rw [replace_cons_some framed found] at h
      exact Or.inr (List.cons.inj h).1.symm

/-- A step takes after the replacement what it took before it. -/
theorem takes_replace (framed : p.framed false = true) {a : Atom} {q : List Atom} {c : Char}
    {m s t : List Char} (hc : avoids (a :: q) c = true) (taken : Takes a (p.replace (c :: m) s) t) :
    ∃ t', t = p.replace (c :: m) t' ∧ Takes a s t' := by
  have plain := isBlank_of_avoids hc
  generalize whole : p.replace (c :: m) s = w at taken
  cases taken with
  | letter same =>
    obtain ⟨s', rfl, rfl⟩ | rfl := replace_eq_cons framed whole
    · exact ⟨s', rfl, .letter same s'⟩
    · exact absurd same (ne_of_avoids hc List.mem_cons_self)
  | blanks =>
    rw [← whole, dropWhile_replace framed plain]
    exact ⟨_, rfl, .blanks s⟩
  | someBlanks blank =>
    obtain ⟨s', rfl, rfl⟩ | rfl := replace_eq_cons framed whole
    · rw [dropWhile_replace framed plain]
      exact ⟨_, rfl, .someBlanks blank s'⟩
    · rw [plain] at blank
      cases blank

/-- A match after the replacement was one before it. -/
theorem restOf?_replace (framed : p.framed false = true) {c : Char} {m : List Char}
    (hc : q.avoids c = true) {s : List Char} (h : (q.restOf? (p.replace (c :: m) s)).isSome = true) :
    (q.restOf? s).isSome = true := by
  obtain ⟨rest, found⟩ := Option.isSome_iff_exists.1 h
  refine Option.isSome_iff_exists.2 ?_
  clear h
  induction q generalizing s with
  | nil => exact ⟨s, rfl⟩
  | cons a q ih =>
    obtain ⟨t, taken, found⟩ := restOf?_cons_iff.1 found
    obtain ⟨t', rfl, taken'⟩ := takes_replace framed hc taken
    obtain ⟨rest', there⟩ := ih (avoids_of_cons hc) found
    exact ⟨rest', restOf?_cons_iff.2 ⟨t', taken', there⟩⟩

variable {c : Char} {m : List Char}

theorem occursIn_of_suffix {s t : List Char} (h : q.occursIn t = true) (hs : t <:+ s) :
    q.occursIn s = true := by
  induction s with
  | nil => rwa [List.suffix_nil.1 hs] at h
  | cons x s ih =>
    rcases List.suffix_cons_iff.1 hs with rfl | hs
    · exact h
    · rw [occursIn, ih hs, Bool.or_true]

theorem suffix_of_restOf? {s rest : List Char} (h : q.restOf? s = some rest) : rest <:+ s := by
  obtain ⟨mid, rfl, -⟩ := matches_of_restOf? h
  exact List.suffix_append _ _

/-- Taking out one pattern makes no match of another, if what is put in its place takes part in none. -/
theorem occursIn_of_replace (framed : p.framed false = true) (hc : q.avoids c = true)
    (passed : ∀ s, q.occursIn (c :: m ++ s) = q.occursIn s) {s : List Char}
    (h : q.occursIn (p.replace (c :: m) s) = true) : q.occursIn s = true := by
  induction s using replace.induct p with
  | case1 => rwa [replace_nil] at h
  | case2 x s rest found _ ih =>
    rw [replace_cons_some framed found, passed] at h
    exact occursIn_of_suffix (ih h) (suffix_of_restOf? found)
  | case3 x s rest found long _ => exact absurd (length_of_framed framed found) long
  | case4 x s found ih =>
    rw [replace_cons_none found, occursIn, Bool.or_eq_true, ← replace_cons_none found] at h
    rw [occursIn, Bool.or_eq_true]
    exact h.imp (restOf?_replace framed hc) ih

/-- A pattern that was taken out does not occur. -/
theorem occursIn_replace (framed : p.framed false = true) (hc : p.avoids c = true)
    (passed : ∀ s, p.occursIn (c :: m ++ s) = p.occursIn s) (s : List Char) :
    p.occursIn (p.replace (c :: m) s) = false := by
  induction s using replace.induct p with
  | case1 =>
    rw [replace_nil, occursIn, restOf?_nil framed]
    rfl
  | case2 x s rest found _ ih => rw [replace_cons_some framed found, passed, ih]
  | case3 x s rest found long _ => exact absurd (length_of_framed framed found) long
  | case4 x s found ih =>
    have start : (p.restOf? (p.replace (c :: m) (x :: s))).isSome = false := by
      cases again : (p.restOf? (p.replace (c :: m) (x :: s))).isSome with
      | false => rfl
      | true =>
        have before := restOf?_replace framed hc again
        rw [found] at before
        cases before
    rw [replace_cons_none found] at start ⊢
    rw [occursIn, start, ih]
    rfl

/-- Where a pattern does not occur there is nothing to take out. -/
theorem replace_of_not_occursIn {s : List Char} (h : p.occursIn s = false) : p.replace m s = s := by
  induction s with
  | nil => exact replace_nil
  | cons x s ih =>
    rw [occursIn, Bool.or_eq_false_iff, Option.isSome_eq_false_iff, Option.isNone_iff_eq_none] at h
    rw [replace_cons_none h.1, ih h.2]

end Replacing

end Pattern
end Text

end PageSkins
