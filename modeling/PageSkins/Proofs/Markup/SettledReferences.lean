import PageSkins.Markup.Writer
import PageSkins.Proofs.Failing
import PageSkins.Proofs.Markup.ReadReferences

/-!
# Settled references

Settling a value leaves everything before its first ampersand in place and
brings in no characters but those of `&amp;`. A part that is settled is settled
once more as itself.
-/

namespace PageSkins.Markup.Writer

theorem plainAmpersands_append {s : List Char} (h : '&' ∉ s) (t : List Char) :
    plainAmpersands (s ++ t) = s ++ plainAmpersands t := by
  induction s with
  | nil => rfl
  | cons c s ih =>
    have hc : c ≠ '&' := fun e => h (e ▸ List.mem_cons_self)
    rw [List.cons_append, plainAmpersands, ih (fun hm => h (List.mem_cons_of_mem _ hm))]
    · rfl
    · rintro t' rfl
      exact absurd rfl hc

theorem mem_plainAmpersands {s : List Char} : ∀ {c : Char}, c ∈ plainAmpersands s → c ∈ s := by
  induction s using plainAmpersands.induct with
  | case1 s ih =>
    intro c hc
    rw [plainAmpersands] at hc
    rcases List.mem_cons.1 hc with rfl | hc
    · exact List.mem_cons_self
    · simp [ih hc]
  | case2 c s other ih =>
    intro d hd
    rw [plainAmpersands] at hd
    · rcases List.mem_cons.1 hd with rfl | hd
      · exact List.mem_cons_self
      · exact List.mem_cons_of_mem _ (ih hd)
    · exact other
  | case3 =>
    intro c hc
    cases hc

/-- The characters that settling may bring in. -/
def ampersand : List Char := "&amp;".toList

theorem mem_settlePart {part settled : List Char} (h : settlePart part = .ok settled) :
    ∀ c ∈ settled, c ∈ part ∨ c ∈ ampersand := by
  intro c hc
  unfold settlePart at h
  split at h
  · rename_i r
    have escaped : ∀ e ∈ "&amp;".toList ++ r, e ∈ '&' :: r ∨ e ∈ ampersand := by
      intro e he
      rcases List.mem_append.1 he with he | he
      · exact Or.inr he
      · exact Or.inl (List.mem_cons_of_mem _ he)
    dsimp only at h
    split at h
    · cases h
      exact escaped c hc
    · rename_i body hbody
      split at h
      · cases h
      · cases h
        exact escaped c hc
      · cases h
        rcases List.mem_cons.1 hc with rfl | hc
        · exact Or.inl List.mem_cons_self
        · rcases List.mem_append.1 hc with hc | hc
          · exact Or.inl (List.mem_cons_of_mem _ ((Reference.body?_some hbody).1.subset hc))
          · rcases List.mem_cons.1 hc with rfl | hc
            · exact Or.inr (by decide)
            · exact Or.inl (List.mem_cons_of_mem _ (List.mem_of_mem_drop hc))
  · cases h
    exact Or.inl hc

theorem mem_settleParts {parts settled : List (List Char)}
    (h : List.Forall₂ (fun part w => settlePart part = .ok w) parts settled) :
    ∀ c ∈ settled.flatten, c ∈ parts.flatten ∨ c ∈ ampersand := by
  induction h with
  | nil =>
    intro c hc
    cases hc
  | cons first _ ih =>
    intro c hc
    rw [List.flatten_cons] at hc ⊢
    rcases List.mem_append.1 hc with hc | hc
    · rcases mem_settlePart first c hc with old | new
      · exact Or.inl (List.mem_append_left _ old)
      · exact Or.inr new
    · rcases ih c hc with old | new
      · exact Or.inl (List.mem_append_right _ old)
      · exact Or.inr new

/-- What stands before the first ampersand stays; of what follows only the characters are known. -/
theorem settle_append {s t settled : List Char} (h : '&' ∉ s) (hs : settle (s ++ t) = .ok settled) :
    ∃ u, settled = s ++ u ∧ ∀ c ∈ u, c ∈ t ∨ c ∈ ampersand := by
  unfold settle at hs
  rw [plainAmpersands_append h, Reference.splitAmpersands_append h] at hs
  dsimp only at hs
  obtain ⟨parts, hps, hs⟩ := ok_of_bind hs
  cases hs
  refine ⟨(Reference.splitAmpersands (plainAmpersands t)).1 ++ parts.flatten,
    by rw [List.append_assoc], ?_⟩
  have whole := Reference.splitAmpersands_flatten (plainAmpersands t)
  intro c hc
  rcases List.mem_append.1 hc with hc | hc
  · left
    apply mem_plainAmpersands
    rw [← whole]
    exact List.mem_append_left _ hc
  · rcases mem_settleParts (forall₂_of_mapM hps) c hc with old | new
    · left
      apply mem_plainAmpersands
      rw [← whole]
      exact List.mem_append_right _ old
    · exact Or.inr new

theorem settle_of_notMem {s : List Char} (h : '&' ∉ s) : settle s = .ok s := by
  have plain : plainAmpersands s = s := by
    have := plainAmpersands_append h []
    simpa [plainAmpersands] using this
  unfold settle
  rw [plain, Reference.splitAmpersands_of_notMem h]
  simp [pure, Except.pure, bind, Except.bind]

theorem mem_settle {s settled : List Char} (h : settle s = .ok settled) :
    ∀ c ∈ settled, c ∈ s ∨ c ∈ ampersand := by
  obtain ⟨u, rfl, known⟩ := settle_append (s := []) (t := s) (List.not_mem_nil) h
  exact known

/-! ### Parts that are settled -/

/-- An ampersand and what follows it up to the next. -/
def IsPart (part : List Char) : Prop := ∃ r, part = '&' :: r ∧ '&' ∉ r

theorem isPart_splitAmpersands (s : List Char) : '&' ∉ (Reference.splitAmpersands s).1 ∧
    ∀ part ∈ (Reference.splitAmpersands s).2, IsPart part := by
  induction s with
  | nil => exact ⟨List.not_mem_nil, fun part hp => (List.not_mem_nil hp).elim⟩
  | cons c s ih =>
    obtain ⟨first, parts⟩ := ih
    rw [Reference.splitAmpersands]
    dsimp only
    by_cases amp : c = '&'
    · rw [if_pos amp]
      refine ⟨List.not_mem_nil, fun part hp => ?_⟩
      rcases List.mem_cons.1 hp with rfl | hp
      · exact ⟨_, rfl, first⟩
      · exact parts part hp
    · rw [if_neg amp]
      refine ⟨fun hm => ?_, parts⟩
      rcases List.mem_cons.1 hm with hm | hm
      · exact amp hm.symm
      · exact first hm

/-- Cutting finds the parts that were put together. -/
theorem splitAmpersands_parts {first : List Char} (h : '&' ∉ first) {parts : List (List Char)}
    (hp : ∀ part ∈ parts, IsPart part) :
    Reference.splitAmpersands (first ++ parts.flatten) = (first, parts) := by
  have later : Reference.splitAmpersands parts.flatten = ([], parts) := by
    induction parts with
    | nil => rfl
    | cons part parts ih =>
      obtain ⟨r, rfl, plain⟩ := hp part List.mem_cons_self
      rw [List.flatten_cons, List.cons_append, Reference.splitAmpersands,
        Reference.splitAmpersands_append plain,
        ih fun other ho => hp other (List.mem_cons_of_mem _ ho)]
      simp
  rw [Reference.splitAmpersands_append h, later, List.append_nil]

/-- A reference that stands for something is settled already. -/
theorem settlePart_reference {body : List Char} (reads : Reference.Reads body)
    (known : ∃ t, Reference.meaning body = .chars t) (r : List Char) :
    settlePart ('&' :: (body ++ ';' :: r)) = .ok ('&' :: (body ++ ';' :: r)) := by
  obtain ⟨t, ht⟩ := known
  have rest : (body ++ ';' :: r).drop (body.length + 1) = r := by
    rw [← List.drop_drop, List.drop_left]
    rfl
  simp only [settlePart, reads r, ht, rest]
  rfl

theorem settlePart_settled {part w : List Char} (h : IsPart part) (hw : settlePart part = .ok w) :
    IsPart w ∧ settlePart w = .ok w := by
  obtain ⟨r, rfl, plain⟩ := h
  have escaped : IsPart ("&amp;".toList ++ r) ∧
      settlePart ("&amp;".toList ++ r) = .ok ("&amp;".toList ++ r) := by
    have known : ∃ t, Reference.meaning ['a', 'm', 'p'] = .chars t := ⟨_, Reference.stands_amp.means⟩
    refine ⟨⟨"amp;".toList ++ r, rfl, ?_⟩, settlePart_reference Reference.reads_amp known r⟩
    simp [plain]
  cases hb : Reference.body? r with
  | none =>
    simp only [settlePart, hb] at hw
    cases hw
    exact escaped
  | some body =>
    cases ht : Reference.meaning body with
    | tooLong =>
      simp only [settlePart, hb, ht] at hw
      cases hw
    | none =>
      simp only [settlePart, hb, ht] at hw
      cases hw
      exact escaped
    | chars t =>
      simp only [settlePart, hb, ht] at hw
      cases hw
      have inside : '&' ∉ body := fun hm => plain ((Reference.body?_some hb).1.subset hm)
      have after : '&' ∉ r.drop (body.length + 1) := fun hm => plain (List.mem_of_mem_drop hm)
      rw [List.cons_append]
      refine ⟨⟨_, rfl, ?_⟩, settlePart_reference (Reference.reads_of_body? hb) ⟨t, ht⟩ _⟩
      simp [inside, after]

theorem settleParts_settled {parts settled : List (List Char)}
    (h : List.Forall₂ (fun part w => settlePart part = .ok w) parts settled)
    (cut : ∀ part ∈ parts, IsPart part) :
    ∀ part ∈ settled, IsPart part ∧ settlePart part = .ok part := by
  induction h with
  | nil => exact fun part hp => (List.not_mem_nil hp).elim
  | cons first _ ih =>
    intro part hp
    rcases List.mem_cons.1 hp with rfl | hp
    · exact settlePart_settled (cut _ List.mem_cons_self) first
    · exact ih (fun other ho => cut other (List.mem_cons_of_mem _ ho)) part hp

theorem ampersand_mem_plainAmpersands {s : List Char} (h : '&' ∈ s) : '&' ∈ plainAmpersands s := by
  induction s using plainAmpersands.induct with
  | case1 s ih =>
    rw [plainAmpersands]
    exact List.mem_cons_self
  | case2 c s other ih =>
    rw [plainAmpersands]
    · rcases List.mem_cons.1 h with same | later
      · exact List.mem_cons.2 (Or.inl same)
      · exact List.mem_cons_of_mem _ (ih later)
    · exact other
  | case3 => cases h

/-- No ampersand is ever settled away. -/
theorem ampersand_mem_settle {s w : List Char} (h : settle s = .ok w) (amp : '&' ∈ s) : '&' ∈ w := by
  have amp := ampersand_mem_plainAmpersands amp
  unfold settle at h
  generalize plainAmpersands s = t at h amp
  dsimp only at h
  obtain ⟨settled, parts, h⟩ := ok_of_bind h
  cases h
  obtain ⟨first, cut⟩ := isPart_splitAmpersands t
  have known := settleParts_settled (forall₂_of_mapM parts) cut
  cases settled with
  | nil =>
    have none : (Reference.splitAmpersands t).2 = [] :=
      List.forall₂_nil_right_iff.1 (forall₂_of_mapM parts)
    have whole := Reference.splitAmpersands_flatten t
    rw [none, List.flatten_nil, List.append_nil] at whole
    rw [whole] at first
    exact absurd amp first
  | cons part settled =>
    obtain ⟨⟨r, rfl, -⟩, -⟩ := known part List.mem_cons_self
    exact List.mem_append_right _ (List.mem_append_left _ List.mem_cons_self)

end PageSkins.Markup.Writer
