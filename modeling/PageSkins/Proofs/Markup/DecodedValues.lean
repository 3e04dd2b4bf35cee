import PageSkins.Proofs.Failing
import PageSkins.Proofs.Markup.SpelledValues
import PageSkins.Proofs.Markup.WrittenValues

/-!
# Values with their references read

An address is judged by its value with the references read, and its value is
written with the references settled. Both go through the value part by part, from
one ampersand to the next, and look for a reference at the same places. So what is
written spells what is judged, up to a first place at which they may part: a double
quote between a number and its semicolon is passed over in the one and escaped in
the other. Where they part the semicolon is left over.
-/

namespace PageSkins.Markup

open Address (counts decode)
open Reference (TooLong splitAmpersands body? meaning Stands isStop)

/-! ### Where a reference ends -/

namespace Reference

/-- A body is read with the gap between it and its semicolon, whatever follows. -/
structure Ends (body gap : List Char) : Prop where
  short : gap.length ≤ 1
  inside : ∀ c ∈ gap, isStop c = false
  reads : ∀ u, body? (body ++ (gap ++ ';' :: u)) = some body

theorem Ends.of_reads {body : List Char} (h : Reads body) : Ends body [] :=
  ⟨Nat.zero_le 1, fun _ hc => (List.not_mem_nil hc).elim, h⟩

theorem digitsOf_closed {allowed : Char → Bool} {s rest : List Char}
    (h : (digitsOf allowed s).2 = ';' :: rest) :
    ∃ gap, s = (digitsOf allowed s).1 ++ (gap ++ ';' :: rest) ∧ gap.length ≤ 1 ∧
      (∀ c ∈ gap, isStop c = false) ∧
      ∀ u, digitsOf allowed ((digitsOf allowed s).1 ++ (gap ++ ';' :: u)) =
        ((digitsOf allowed s).1, ';' :: u) := by
  induction s with
  | nil => cases h
  | cons c s ih =>
    by_cases stop : isStop c = true
    · rw [digitsOf, if_pos stop] at h ⊢
      cases h
      refine ⟨[], rfl, Nat.zero_le 1, fun _ hd => (List.not_mem_nil hd).elim, fun u => ?_⟩
      simp [digitsOf, stop]
    · by_cases digit : allowed c = true
      · rw [digitsOf, if_neg stop, if_pos digit] at h ⊢
        obtain ⟨gap, split, short, inside, again⟩ := ih h
        refine ⟨gap, congrArg (c :: ·) split, short, inside, fun u => ?_⟩
        dsimp only
        rw [List.cons_append, digitsOf, if_neg stop, if_pos digit, again u]
      · rw [digitsOf, if_neg stop, if_neg digit] at h ⊢
        dsimp only at h
        refine ⟨[c], by rw [h]; rfl, Nat.le_refl 1, ?_, fun u => ?_⟩
        · intro d hd
          rw [List.mem_singleton.1 hd]
          exact Bool.eq_false_iff.2 stop
        · rw [List.nil_append, List.singleton_append, digitsOf, if_neg stop, if_neg digit]

/-- A body is followed by its semicolon, with one character between them at most. -/
theorem body?_closed {s body : List Char} (h : body? s = some body) :
    ∃ gap rest, s = body ++ (gap ++ ';' :: rest) ∧ Ends body gap := by
  cases bodyAt_of_body? h with
  | @hex m tail rest mark closed =>
    obtain ⟨gap, split, short, inside, again⟩ := digitsOf_closed closed
    refine ⟨gap, rest, congrArg ('#' :: m :: ·) split, short, inside, fun u => ?_⟩
    rw [List.cons_append, List.cons_append, body?_hex mark, again u]
    rfl
  | @decimal tail rest small large closed =>
    obtain ⟨gap, split, short, inside, again⟩ := digitsOf_closed closed
    refine ⟨gap, rest, congrArg ('#' :: ·) split, short, inside, fun u => ?_⟩
    have head : ((digitsOf Char.isDigit tail).1 ++ (gap ++ ';' :: u)).head? = tail.head? := by
      conv_rhs => rw [split]
      simp [List.head?_append]
    rw [List.cons_append, body?_decimal (by rw [head]; exact small) (by rw [head]; exact large),
      again u]
    rfl
  | @name _ _ rest named some' letters =>
    obtain ⟨split, -⟩ := lettersOf_some letters
    exact ⟨[], rest, split, .of_reads (reads_of_body? h)⟩

/-- More text does not change which body is read. -/
theorem body?_append {s body : List Char} (h : body? s = some body) (t : List Char) :
    body? (s ++ t) = some body := by
  obtain ⟨gap, rest, rfl, ends⟩ := body?_closed h
  have layout : body ++ (gap ++ ';' :: rest) ++ t = body ++ (gap ++ ';' :: (rest ++ t)) := by simp
  rw [layout]
  exact ends.reads (rest ++ t)

theorem semicolon_mem_of_body? {s body : List Char} (h : body? s = some body) : ';' ∈ s := by
  obtain ⟨gap, rest, rfl, -⟩ := body?_closed h
  simp

theorem drop_body (body gap u : List Char) :
    (body ++ (gap ++ ';' :: u)).drop (body.length + 1) = (gap ++ ';' :: u).drop 1 := by
  rw [← List.drop_drop, List.drop_left]

/-- No reference that stands for something is read at the start of the text. -/
def Bare (s : List Char) : Prop :=
  ∀ r t body, s = r ++ t → '&' ∉ r → body? r = some body → meaning body = .none

/-! ### Part by part -/

/-- A text with each of its parts, from one ampersand to the next, replaced. -/
def inParts (f : List Char → Except TooLong (List Char)) (s : List Char) :
    Except TooLong (List Char) := do
  let (first, parts) := splitAmpersands s
  return first ++ (← parts.mapM f).flatten

section

variable {f : List Char → Except TooLong (List Char)} {r s t u w : List Char}

theorem inParts_append (plain : '&' ∉ u) :
    inParts f (u ++ s) = .ok w ↔ ∃ w', inParts f s = .ok w' ∧ w = u ++ w' := by
  have same : inParts f (u ++ s) = (inParts f s).map (u ++ ·) := by
    unfold inParts
    rw [splitAmpersands_append plain]
    dsimp only
    cases (splitAmpersands s).2.mapM f with
    | error e => rfl
    | ok parts => exact congrArg Except.ok (List.append_assoc _ _ _)
  rw [same]
  cases inParts f s with
  | error e => simp [Except.map]
  | ok w' => simp [Except.map, eq_comm]

theorem inParts_cons {c : Char} (plain : c ≠ '&') :
    inParts f (c :: s) = .ok w ↔ ∃ w', inParts f s = .ok w' ∧ w = c :: w' :=
  @inParts_append f s [c] w fun hm => plain (List.mem_singleton.1 hm).symm

/-- A text goes up to its first ampersand, and from there on. -/
theorem exists_cut (s : List Char) :
    ∃ r t, s = r ++ t ∧ '&' ∉ r ∧ (splitAmpersands t).1 = [] := by
  induction s with
  | nil => exact ⟨[], [], rfl, List.not_mem_nil, rfl⟩
  | cons c s ih =>
    by_cases amp : c = '&'
    · exact ⟨[], c :: s, rfl, List.not_mem_nil, by simp [splitAmpersands, amp]⟩
    · obtain ⟨r, t, rfl, plain, cut⟩ := ih
      refine ⟨c :: r, t, rfl, fun hm => ?_, cut⟩
      rcases List.mem_cons.1 hm with same | hm
      · exact amp same.symm
      · exact plain hm

theorem inParts_ampersand (plain : '&' ∉ r) (cut : (splitAmpersands t).1 = []) :
    inParts f ('&' :: (r ++ t)) = .ok w ↔
      ∃ part rest, f ('&' :: r) = .ok part ∧ inParts f t = .ok rest ∧ w = part ++ rest := by
  have split : splitAmpersands ('&' :: (r ++ t)) = ([], ('&' :: r) :: (splitAmpersands t).2) := by
    rw [splitAmpersands, splitAmpersands_append plain, cut]
    simp
  unfold inParts
  rw [split]
  dsimp only
  rw [cut, List.mapM_cons]
  cases f ('&' :: r) with
  | error e => simp [bind, Except.bind]
  | ok part =>
    cases (splitAmpersands t).2.mapM f with
    | error e => simp [bind, Except.bind]
    | ok parts => simp [bind, Except.bind, pure, Except.pure, eq_comm]

end

end Reference

open Reference (inParts inParts_append inParts_cons inParts_ampersand exists_cut Ends Bare)

/-! ### Reading the references -/

namespace Address

def decodePart (part : List Char) : Except TooLong (List Char) :=
  match part with
  | '&' :: r =>
    match body? r with
    | none => .ok part
    | some body =>
      match meaning body with
      | .tooLong => .error .mk
      | .none => .ok part
      | .chars cs => .ok (cs ++ r.drop (body.length + 1))
  | r => .ok r

theorem decode_eq (s : List Char) : decode s = inParts decodePart s := rfl

theorem decode_cons {c : Char} {s d : List Char} (plain : c ≠ '&') (h : decode (c :: s) = .ok d) :
    ∃ d', decode s = .ok d' ∧ d = c :: d' := (inParts_cons plain).1 h

/-- Where no reference is read up to the first ampersand, none is read from less of the text. -/
theorem bare_of_cut {r t : List Char} (cut : (splitAmpersands t).1 = [])
    (none : ∀ body, body? r = some body → meaning body = .none) : Bare (r ++ t) := by
  intro r' t' body same plain read
  obtain ⟨x, rfl⟩ : ∃ x, r = r' ++ x := by
    cases t with
    | nil => exact ⟨t', by rw [← same, List.append_nil]⟩
    | cons c t =>
      have amp : c = '&' := by
        by_contra other
        simp [splitAmpersands, other] at cut
      rw [amp] at same
      obtain ⟨x, before, -⟩ := exists_append_of_notMem plain same.symm
      exact ⟨x, before⟩
  exact none body (Reference.body?_append read x)

/-- An ampersand stays where no reference is read, or it goes with the reference. -/
theorem decode_ampersand {v d : List Char} (h : decode ('&' :: v) = .ok d) :
    (∃ d', Bare v ∧ decode v = .ok d' ∧ d = '&' :: d') ∨
    ∃ body cs gap rest d', Stands body cs ∧ Ends body gap ∧ v = body ++ (gap ++ ';' :: rest) ∧
      decode ((gap ++ ';' :: rest).drop 1) = .ok d' ∧ d = cs ++ d' := by
  rw [decode_eq] at h
  obtain ⟨r, t, rfl, plain, cut⟩ := exists_cut v
  obtain ⟨part, later, first, others, rfl⟩ := (inParts_ampersand plain cut).1 h
  have stays : (∀ body, body? r = some body → meaning body = .none) →
      decodePart ('&' :: r) = .ok ('&' :: r) →
      ∃ d', Bare (r ++ t) ∧ decode (r ++ t) = .ok d' ∧ part ++ later = '&' :: d' := by
    intro none same
    rw [same] at first
    cases first
    exact ⟨r ++ later, bare_of_cut cut none, (inParts_append plain).2 ⟨later, others, rfl⟩, rfl⟩
  cases read : body? r with
  | none => exact .inl (stays (by simp [read]) (by simp only [decodePart, read]))
  | some body =>
    cases means : meaning body with
    | tooLong =>
      simp only [decodePart, read, means] at first
      cases first
    | none => exact .inl (stays (by simp [read, means]) (by simp only [decodePart, read, means]))
    | chars cs =>
      simp only [decodePart, read, means] at first
      cases first
      obtain ⟨gap, rest, rfl, ends⟩ := Reference.body?_closed read
      have layout : body ++ (gap ++ ';' :: rest) ++ t = body ++ (gap ++ ';' :: (rest ++ t)) := by simp
      have after : (gap ++ ';' :: (rest ++ t)).drop 1 = (gap ++ ';' :: rest).drop 1 ++ t := by
        cases gap <;> simp
      have plain' : '&' ∉ (gap ++ ';' :: rest).drop 1 :=
        fun hm => plain (List.mem_append_right _ (List.mem_of_mem_drop hm))
      refine .inr ⟨body, cs, gap, rest ++ t, (gap ++ ';' :: rest).drop 1 ++ later, ⟨⟨_, read⟩, means⟩,
        ends, layout, ?_, ?_⟩
      · rw [after]
        exact (inParts_append plain').2 ⟨later, others, rfl⟩
      · rw [Reference.drop_body, List.append_assoc]

end Address

/-! ### Settling the references -/

namespace Writer

def escapeMarks (value : List Char) : List Char :=
  value.flatMap fun c => if c = '<' then "&lt;".toList else if c = '"' then "&quot;".toList else [c]

theorem settle_escaped (v : List Char) :
    settle (escapeQuotes (escapeValue v)) = inParts settlePart (escapeMarks v) := by
  rw [escapeMarks, ← plainAmpersands_escaped]
  rfl

theorem escapeMarks_cons (c : Char) (v : List Char) : escapeMarks (c :: v) =
    (if c = '<' then "&lt;".toList else if c = '"' then "&quot;".toList else [c]) ++ escapeMarks v :=
  List.flatMap_cons

theorem escapeMarks_append {u : List Char} (bracket : '<' ∉ u) (quote : '"' ∉ u) (v : List Char) :
    escapeMarks (u ++ v) = u ++ escapeMarks v := by
  induction u with
  | nil => rfl
  | cons c u ih =>
    have first : c ≠ '<' ∧ c ≠ '"' :=
      ⟨fun e => bracket (e ▸ List.mem_cons_self), fun e => quote (e ▸ List.mem_cons_self)⟩
    rw [List.cons_append, escapeMarks_cons, if_neg first.1, if_neg first.2,
      ih (fun hm => bracket (List.mem_cons_of_mem _ hm)) fun hm => quote (List.mem_cons_of_mem _ hm)]
    rfl

/-- What stands before the first ampersand was not escaped. -/
theorem prefix_of_escapeMarks {v r t : List Char} (h : escapeMarks v = r ++ t) (plain : '&' ∉ r) :
    ∃ t', v = r ++ t' := by
  induction r generalizing v with
  | nil => exact ⟨v, rfl⟩
  | cons c r ih =>
    have other : c ≠ '&' := fun e => plain (e ▸ List.mem_cons_self)
    cases v with
    | nil => cases h
    | cons d v =>
      rw [escapeMarks_cons] at h
      split at h
      · exact absurd (List.cons.inj h).1.symm other
      · split at h
        · exact absurd (List.cons.inj h).1.symm other
        · obtain ⟨rfl, later⟩ := List.cons.inj h
          obtain ⟨t', rfl⟩ := ih later fun hm => plain (List.mem_cons_of_mem _ hm)
          exact ⟨t', rfl⟩

theorem bare_escapeMarks {v : List Char} (h : Bare v) : Bare (escapeMarks v) := by
  intro r t body same plain read
  obtain ⟨t', rfl⟩ := prefix_of_escapeMarks same plain
  exact h r t' body rfl plain read

/-- An ampersand at which no reference is read is escaped. -/
theorem settle_bare {s w : List Char} (bare : Bare s) (h : inParts settlePart ('&' :: s) = .ok w) :
    ∃ w', inParts settlePart s = .ok w' ∧ w = "&amp;".toList ++ w' := by
  obtain ⟨r, t, rfl, plain, cut⟩ := exists_cut s
  obtain ⟨part, later, first, others, rfl⟩ := (inParts_ampersand plain cut).1 h
  have escaped : settlePart ('&' :: r) = .ok ("&amp;".toList ++ r) := by
    cases read : body? r with
    | none => simp only [settlePart, read]
    | some body => simp only [settlePart, read, bare r t body rfl plain read]
  rw [escaped] at first
  cases first
  exact ⟨r ++ later, (inParts_append plain).2 ⟨later, others, rfl⟩, List.append_assoc _ _ _⟩

/-- A reference that stands for something stays, without the gap before its semicolon. -/
theorem settle_stands {body cs gap s w : List Char} (stands : Stands body cs) (ends : Ends body gap)
    (h : inParts settlePart ('&' :: (body ++ (gap ++ ';' :: s))) = .ok w) :
    ∃ w', inParts settlePart ((gap ++ ';' :: s).drop 1) = .ok w' ∧
      w = '&' :: (body ++ ';' :: w') := by
  obtain ⟨r, t, rfl, plain, cut⟩ := exists_cut s
  have stop : isStop '&' = true := by decide
  have inside : '&' ∉ gap := fun hm => by rw [ends.inside _ hm] at stop; cases stop
  have plain' : '&' ∉ body ++ (gap ++ ';' :: r) := by
    have off : '&' ∉ body := fun hm => by rw [stands.stop _ hm] at stop; cases stop
    simp [off, inside, plain]
  have layout : body ++ (gap ++ ';' :: (r ++ t)) = body ++ (gap ++ ';' :: r) ++ t := by simp
  have after : (gap ++ ';' :: (r ++ t)).drop 1 = (gap ++ ';' :: r).drop 1 ++ t := by
    cases gap <;> simp
  rw [layout] at h
  obtain ⟨part, later, first, others, rfl⟩ := (inParts_ampersand plain' cut).1 h
  simp only [settlePart, ends.reads, stands.means, Reference.drop_body] at first
  cases first
  refine ⟨(gap ++ ';' :: r).drop 1 ++ later, ?_, by simp⟩
  rw [after]
  refine (inParts_append fun hm => ?_).2 ⟨later, others, rfl⟩
  exact plain' (List.mem_append_right _ (List.mem_of_mem_drop hm))

/-! ### What is written for a value -/

theorem spells_ampersand {w s : List Char} (h : Spells w s) :
    Spells ("&amp;".toList ++ w) ('&' :: s) := by
  have on : ['&'].filter counts = ['&'] := by decide
  have whole := Spells.reference Reference.stands_amp h
  rw [on] at whole
  exact whole

theorem exists_spells_settlePart {part w : List Char} (h : IsPart part)
    (settled : settlePart part = .ok w) : ∃ t, Spells w t := by
  obtain ⟨r, rfl, plain⟩ := h
  have escaped : ∃ t, Spells ("&amp;".toList ++ r) t := ⟨_, spells_ampersand (.of_notMem plain)⟩
  cases read : body? r with
  | none =>
    simp only [settlePart, read] at settled
    cases settled
    exact escaped
  | some body =>
    cases means : meaning body with
    | tooLong =>
      simp only [settlePart, read, means] at settled
      cases settled
    | none =>
      simp only [settlePart, read, means] at settled
      cases settled
      exact escaped
    | chars cs =>
      simp only [settlePart, read, means] at settled
      cases settled
      rw [List.cons_append]
      have after : '&' ∉ r.drop (body.length + 1) := fun hm => plain (List.mem_of_mem_drop hm)
      exact ⟨_, .reference ⟨⟨r, read⟩, means⟩ (.of_notMem after)⟩

/-- Whatever is settled spells something. -/
theorem exists_spells {s w : List Char} (h : inParts settlePart s = .ok w) : ∃ t, Spells w t := by
  obtain ⟨parts, settled, h⟩ := ok_of_bind h
  cases h
  obtain ⟨first, cut⟩ := isPart_splitAmpersands s
  have later : ∀ {ps : List (List Char)}, (∀ part ∈ ps, IsPart part) → ∀ {ws : List (List Char)},
      List.Forall₂ (fun part w => settlePart part = .ok w) ps ws → ∃ t, Spells ws.flatten t := by
    intro ps cut ws h
    induction h with
    | nil => exact ⟨[], .nil⟩
    | cons first _ ih =>
      obtain ⟨t, ht⟩ := exists_spells_settlePart (cut _ List.mem_cons_self) first
      obtain ⟨u, hu⟩ := ih fun part hp => cut part (List.mem_cons_of_mem _ hp)
      exact ⟨t ++ u, ht.append hu⟩
  obtain ⟨t, ht⟩ := later cut (forall₂_of_mapM settled)
  exact ⟨_, (Spells.of_notMem first).append ht⟩

end Writer

/-! ### What is written and what is judged -/

/-- The first text is the second, or they part where the first has an ampersand, and then a double quote or a
semicolon is left in the second. -/
def Follows (s d : List Char) : Prop :=
  s = d ∨ ∃ common rest rest', s = common ++ '&' :: rest ∧ d = common ++ rest' ∧ ('"' ∈ d ∨ ';' ∈ d)

namespace Follows

variable {s d : List Char}

theorem append (u : List Char) (h : Follows s d) : Follows (u ++ s) (u ++ d) := by
  rcases h with rfl | ⟨common, rest, rest', rfl, rfl, left⟩
  · exact .inl rfl
  · exact .inr ⟨u ++ common, rest, rest', by simp, by simp,
      left.imp (List.mem_append_right u) (List.mem_append_right u)⟩

theorem filter (h : Follows s d) : Follows (s.filter counts) (d.filter counts) := by
  have on : ∀ c ∈ ['&', '"', ';'], counts c = true := forall_mem_of_all (by decide)
  rcases h with rfl | ⟨common, rest, rest', rfl, rfl, left⟩
  · exact .inl rfl
  · refine .inr ⟨common.filter counts, rest.filter counts, rest'.filter counts, ?_, ?_, ?_⟩
    · rw [List.filter_append, List.filter_cons_of_pos (on _ (by decide))]
    · rw [List.filter_append]
    · exact left.imp (fun hm => List.mem_filter.2 ⟨hm, on _ (by decide)⟩)
        fun hm => List.mem_filter.2 ⟨hm, on _ (by decide)⟩

end Follows

namespace Reference

theorem Ends.gap_cases {body gap : List Char} (h : Ends body gap) : gap = [] ∨ ∃ g, gap = [g] := by
  cases gap with
  | nil => exact .inl rfl
  | cons g gap =>
    cases gap with
    | nil => exact .inr ⟨g, rfl⟩
    | cons g' gap => exact absurd h.short (by simp)

end Reference

namespace Address

/-- Reading the references keeps every double quote, or it leaves a semicolon over. -/
theorem mem_of_decode : ∀ (v : List Char) {d : List Char}, decode v = .ok d → '"' ∈ v →
    '"' ∈ d ∨ ';' ∈ d
  | [], d, h, quote => (List.not_mem_nil quote).elim
  | c :: v, d, h, quote => by
    by_cases amp : c = '&'
    · rw [amp] at h quote
      have quote : '"' ∈ v := by simpa using quote
      rcases decode_ampersand h with ⟨d', -, later, rfl⟩ |
        ⟨body, cs, gap, rest, d', stands, ends, split, later, rfl⟩
      · exact (mem_of_decode v later quote).imp (List.mem_cons_of_mem _) (List.mem_cons_of_mem _)
      · have shorter : rest.length < v.length := by simp [split]; omega
        rw [split] at quote
        rcases ends.gap_cases with rfl | ⟨g, rfl⟩
        · have quote : '"' ∈ rest := by
            rcases List.mem_append.1 quote with hm | hm
            · rcases stands.plain _ hm with e | e <;> cases e
            · simpa using hm
          exact (mem_of_decode rest later quote).imp (List.mem_append_right cs) (List.mem_append_right cs)
        · obtain ⟨d'', -, rfl⟩ := decode_cons (by decide) later
          exact .inr (List.mem_append_right cs List.mem_cons_self)
    · obtain ⟨d', later, rfl⟩ := decode_cons amp h
      rcases List.mem_cons.1 quote with rfl | quote
      · exact .inl List.mem_cons_self
      · exact (mem_of_decode v later quote).imp (List.mem_cons_of_mem _) (List.mem_cons_of_mem _)
termination_by v => v.length

/-- A value and what is read from it part at the first reference. -/
theorem parts_of_decode {v : List Char} : ∀ {d : List Char}, decode v = .ok d →
    v = d ∨ ∃ common rest rest', v = common ++ '&' :: rest ∧ d = common ++ rest' := by
  induction v with
  | nil =>
    intro d h
    cases h
    exact .inl rfl
  | cons c v ih =>
    intro d h
    have longer : ∀ d', decode v = .ok d' → c :: v = c :: d' ∨
        ∃ common rest rest', c :: v = common ++ '&' :: rest ∧ c :: d' = common ++ rest' := by
      intro d' later
      rcases ih later with rfl | ⟨common, rest, rest', rfl, rfl⟩
      · exact .inl rfl
      · exact .inr ⟨c :: common, rest, rest', rfl, rfl⟩
    by_cases amp : c = '&'
    · rw [amp] at h longer ⊢
      rcases decode_ampersand h with ⟨d', -, later, rfl⟩ | ⟨_, _, _, _, _, _, _, _, _, _⟩
      · exact longer d' later
      · exact .inr ⟨[], v, d, rfl, rfl⟩
    · obtain ⟨d', later, rfl⟩ := decode_cons amp h
      exact longer d' later

theorem follows_decode {v d : List Char} (h : decode v = .ok d) (quote : '"' ∈ v) : Follows v d := by
  rcases parts_of_decode h with same | ⟨common, rest, rest', split, split'⟩
  · exact .inl same
  · exact .inr ⟨common, rest, rest', split, split', mem_of_decode v h quote⟩

end Address

namespace Writer

open Address (follows_decode decode_ampersand decode_cons)

theorem spells_escapeValue (v : List Char) : Spells (escapeValue v) (v.filter counts) := by
  induction v with
  | nil => exact .nil
  | cons c v ih =>
    have split : (c :: v).filter counts = [c].filter counts ++ v.filter counts :=
      @List.filter_append _ counts [c] v
    rw [escapeValue_cons, split]
    by_cases amp : c = '&'
    · rw [if_pos amp, amp]
      exact Spells.reference Reference.stands_amp ih
    · by_cases bracket : c = '<'
      · rw [if_neg amp, if_pos bracket, bracket]
        exact Spells.reference Reference.stands_lt ih
      · rw [if_neg amp, if_neg bracket]
        exact Spells.char amp ih

/-- Between single quotes what is written spells the value itself. -/
theorem spells_single {v d : List Char} (hd : decode v = .ok d) (quote : '"' ∈ v) :
    ∃ s, Spells (escapeValue v) s ∧ Follows s (d.filter counts) :=
  ⟨_, spells_escapeValue v, (follows_decode hd quote).filter⟩

theorem bare_before_ampersand {body cs s : List Char} (stands : Stands body cs) :
    Bare (body ++ '&' :: s) := by
  intro r t body' same plain read
  obtain ⟨x, rfl, -⟩ := exists_append_of_notMem plain same.symm
  have inside : ';' ∈ r ++ x := List.mem_append_left x (Reference.semicolon_mem_of_body? read)
  exact absurd (stands.stop _ inside) (by decide)

/-- No reference that stands for something holds a bracket or a double quote, but there may be one in the gap
before its semicolon. -/
theorem escapeMarks_reference {body cs gap : List Char} (stands : Stands body cs) (ends : Ends body gap)
    (quote : '"' ∉ gap) (v : List Char) :
    escapeMarks (body ++ (gap ++ ';' :: v)) = body ++ (gap ++ ';' :: escapeMarks v) := by
  have bracket : '<' ∉ body ∧ '<' ∉ gap := by
    have stop : isStop '<' = true := by decide
    constructor
    · intro hm
      rw [stands.stop _ hm] at stop
      cases stop
    · intro hm
      rw [ends.inside _ hm] at stop
      cases stop
  have quote' : '"' ∉ body := by
    intro hm
    rcases stands.plain _ hm with e | e <;> cases e
  rw [escapeMarks_append bracket.1 quote', escapeMarks_append bracket.2 quote]
  rfl

theorem escapeMarks_drop {body gap : List Char} (ends : Ends body gap) (v : List Char) :
    (gap ++ ';' :: escapeMarks v).drop 1 = escapeMarks ((gap ++ ';' :: v).drop 1) := by
  rcases ends.gap_cases with rfl | ⟨g, rfl⟩
  · rfl
  · rfl

/-- With a double quote in the gap there is no reference any more once the quote is escaped. -/
theorem spells_quote {body cs v w : List Char} (stands : Stands body cs)
    (hw : inParts settlePart ('&' :: escapeMarks (body ++ '"' :: v)) = .ok w) :
    ∃ s, Spells w ('&' :: s) := by
  have quote : '"' ∉ body ∧ '<' ∉ body := by
    constructor <;> intro hm <;> rcases stands.plain _ hm with e | e <;> cases e
  rw [escapeMarks_append quote.2 quote.1] at hw
  obtain ⟨w', settled, rfl⟩ := settle_bare (bare_before_ampersand stands) hw
  obtain ⟨s, spells⟩ := exists_spells settled
  exact ⟨s, spells_ampersand spells⟩

/-- A character that is no ampersand is written as itself or by its reference. -/
theorem spells_char {c : Char} {v w : List Char} (amp : c ≠ '&')
    (hw : inParts settlePart (escapeMarks (c :: v)) = .ok w) :
    ∃ w', inParts settlePart (escapeMarks v) = .ok w' ∧
      ∀ s, Spells w' s → Spells w ([c].filter counts ++ s) := by
  rw [escapeMarks_cons] at hw
  by_cases bracket : c = '<'
  · rw [if_pos bracket] at hw
    obtain ⟨w', settled, rfl⟩ := settle_stands Reference.stands_lt (.of_reads Reference.reads_lt) hw
    rw [bracket]
    exact ⟨w', settled, fun s spells => .reference Reference.stands_lt spells⟩
  · rw [if_neg bracket] at hw
    by_cases quote : c = '"'
    · rw [if_pos quote] at hw
      obtain ⟨w', settled, rfl⟩ :=
        settle_stands Reference.stands_quot (.of_reads Reference.reads_quot) hw
      rw [quote]
      exact ⟨w', settled, fun s spells => .reference Reference.stands_quot spells⟩
    · rw [if_neg quote] at hw
      obtain ⟨w', settled, rfl⟩ := (inParts_cons amp).1 hw
      exact ⟨w', settled, fun s spells => .char amp spells⟩

/-- Between double quotes what is written spells the value with its references read, up to a double quote
that stands between a number and its semicolon. -/
theorem spells_settled (v : List Char) {w d : List Char}
    (hw : inParts settlePart (escapeMarks v) = .ok w) (hd : decode v = .ok d) :
    ∃ s, Spells w s ∧ Follows s (d.filter counts) := by
  match v with
  | [] =>
    cases hw
    cases hd
    exact ⟨[], .nil, .inl rfl⟩
  | c :: v =>
    by_cases amp : c = '&'
    · rw [amp] at hw hd
      have hw : inParts settlePart ('&' :: escapeMarks v) = .ok w := hw
      rcases decode_ampersand hd with ⟨d', bare, later, rfl⟩ |
        ⟨body, cs, gap, rest, d', stands, ends, split, later, rfl⟩
      · obtain ⟨w', settled, rfl⟩ := settle_bare (bare_escapeMarks bare) hw
        obtain ⟨s, spells, follows⟩ := spells_settled v settled later
        exact ⟨_, spells_ampersand spells, follows.append ['&']⟩
      · rw [List.filter_append]
        by_cases quote : '"' ∈ gap
        · obtain rfl : gap = ['"'] := by
            rcases ends.gap_cases with rfl | ⟨g, rfl⟩
            · cases quote
            · rw [List.mem_singleton.1 quote]
          rw [split] at hw
          obtain ⟨s, spells⟩ := spells_quote stands hw
          obtain ⟨d'', -, rfl⟩ := decode_cons (by decide) later
          have left : ';' ∈ (';' :: d'').filter counts :=
            List.mem_filter.2 ⟨List.mem_cons_self, by decide⟩
          exact ⟨_, spells, .inr ⟨[], s, _, rfl, rfl, .inr (List.mem_append_right _ left)⟩⟩
        · have shorter : ((gap ++ ';' :: rest).drop 1).length < v.length := by
            rw [split]
            simp
            omega
          rw [split, escapeMarks_reference stands ends quote] at hw
          obtain ⟨w', settled, rfl⟩ := settle_stands stands ends hw
          rw [escapeMarks_drop ends] at settled
          obtain ⟨s, spells, follows⟩ := spells_settled ((gap ++ ';' :: rest).drop 1) settled later
          exact ⟨_, .reference stands spells, follows.append _⟩
    · obtain ⟨w', settled, spelled⟩ := spells_char amp hw
      obtain ⟨d', later, rfl⟩ := decode_cons amp hd
      obtain ⟨s, spells, follows⟩ := spells_settled v settled later
      have split : (c :: d').filter counts = [c].filter counts ++ d'.filter counts :=
        @List.filter_append _ counts [c] d'
      rw [split]
      exact ⟨_, spelled s spells, follows.append _⟩
termination_by v.length

/-- Between double quotes what is written spells what is judged, unless the two part. -/
theorem spells_double {v w d : List Char} (hw : settle (escapeQuotes (escapeValue v)) = .ok w)
    (hd : decode v = .ok d) : ∃ s, Spells w s ∧ Follows s (d.filter counts) := by
  rw [settle_escaped] at hw
  exact spells_settled v hw hd

end Writer

end PageSkins.Markup
