import PageSkins.Proofs.Markup.AllowList

/-!
# Attributes that are written exactly

The writer tells where it is by the pieces alone. A tag goes on to a lone closing
bracket, and in a tag what follows an equals sign is settled. So a value that is a
lone closing bracket ends the tag for the writer, and it settles none of the values
that follow in it. Without such a value a tag is written exactly: the names as they
stand, and every value between double quotes settled.
-/

namespace PageSkins.Markup

namespace Writer

/-! ### One piece -/

section

variable {q : List Char} {ps : List (List Char)} {out : List Char}

theorem next_of_join (close : q ≠ ['>']) (h : join true false (q :: ps) = .ok out) :
    ∃ rest, join true (decide (q = ['='])) ps = .ok rest ∧ out = q ++ rest := by
  rw [join, if_pos rfl, if_neg close, if_neg Bool.false_ne_true] at h
  obtain ⟨rest, later, h⟩ := ok_of_bind h
  cases h
  exact ⟨rest, later, rfl⟩

theorem settled_of_join (close : q ≠ ['>']) (quote : q ≠ ['"']) (h : join true true (q :: ps) = .ok out) :
    ∃ w rest, settle q = .ok w ∧ join true false ps = .ok rest ∧ out = w ++ rest := by
  rw [join, if_pos rfl, if_neg close, if_pos rfl, if_neg quote] at h
  obtain ⟨w, settled, h⟩ := ok_of_bind h
  obtain ⟨rest, later, h⟩ := ok_of_bind h
  cases h
  exact ⟨w, rest, settled, later, rfl⟩

theorem quote_of_join (h : join true true (['"'] :: ps) = .ok out) :
    ∃ rest, join true true ps = .ok rest ∧ out = '"' :: rest := by
  rw [join, if_pos rfl, if_neg (by decide), if_pos rfl, if_pos rfl] at h
  obtain ⟨rest, later, h⟩ := ok_of_bind h
  cases h
  exact ⟨rest, later, rfl⟩

/-- A piece that settling leaves alone is joined as it stands, and no value is next after it. -/
theorem plain_of_join {v : Bool} (close : q ≠ ['>']) (quote : q ≠ ['"']) (equals : q ≠ ['='])
    (plain : '&' ∉ q) (h : join true v (q :: ps) = .ok out) :
    ∃ rest, join true false ps = .ok rest ∧ out = q ++ rest := by
  cases v with
  | false =>
    have next := next_of_join close h
    rwa [decide_eq_false equals] at next
  | true =>
    obtain ⟨w, rest, settled, later, rfl⟩ := settled_of_join close quote h
    rw [settle_of_notMem plain] at settled
    cases settled
    exact ⟨rest, later, rfl⟩

end

/-! ### One attribute -/

theorem escaped_ne_bracket {v : List Char} (open' : v ≠ ['>']) : escapeQuotes (escapeValue v) ≠ ['>'] := by
  intro e
  have same := plainAmpersands_escaped v
  rw [e] at same
  have some' : ∀ c : Char, (if c = '<' then "&lt;".toList else
      if c = '"' then "&quot;".toList else [c]) ≠ [] := by
    intro c
    split
    · decide
    · split
      · decide
      · exact List.cons_ne_nil c []
  cases v with
  | nil => cases same
  | cons c v =>
    rw [List.flatMap_cons] at same
    split at same
    · cases same
    · split at same
      · cases same
      · obtain ⟨rfl, nothing⟩ := List.cons.inj same
        cases v with
        | nil => exact open' rfl
        | cons d v => exact some' d (List.flatMap_eq_nil_iff.1 nothing.symm d List.mem_cons_self)

theorem ne_singleton_of_notMem {q : List Char} {d : Char} (h : d ∉ q) : q ≠ [d] := by
  rintro rfl
  exact h List.mem_cons_self

variable {p : Policy} {a : Attribute} {ps : List (List Char)} {out : List Char}

/-- After the equals sign the value is written between its quotes. -/
theorem value_of_join (open' : a.value ≠ ['>'])
    (h : join true true ([a.quoted.quote] ::
      (if a.single then escapeValue a.value else escapeQuotes (escapeValue a.value)) ::
        [a.quoted.quote] :: ps) = .ok out) :
    a.Settled ∧ ∃ rest, join true false ps = .ok rest ∧
      out = a.quoted.quote :: (a.written ++ a.quoted.quote :: rest) := by
  cases single : a.single with
  | true =>
    have quote := Attribute.quote_of_single single
    have other : ∀ d, d ≠ '"' → escapeValue a.value ≠ [d] := fun _ => Attribute.escapeValue_ne single
    rw [quote, single, if_pos rfl] at h
    obtain ⟨_, h₁, rfl⟩ := plain_of_join (by decide) (by decide) (by decide) (by decide) h
    obtain ⟨_, h₂, rfl⟩ := next_of_join (other _ (by decide)) h₁
    rw [decide_eq_false (other _ (by decide))] at h₂
    obtain ⟨rest, later, rfl⟩ := next_of_join (by decide) h₂
    refine ⟨fun off => ?_, rest, later, ?_⟩
    · rw [single] at off
      cases off
    · rw [quote, Attribute.written_of_single single]
      rfl
  | false =>
    have quote := Attribute.quote_of_double single
    rw [quote, single, if_neg Bool.false_ne_true] at h
    have inside : '"' ∉ escapeQuotes (escapeValue a.value) := by
      intro hm
      rcases mem_escapeQuotes hm with ⟨-, off⟩ | new
      · exact off rfl
      · exact absurd new (by decide)
    obtain ⟨_, h₁, rfl⟩ := quote_of_join h
    obtain ⟨w, _, settled, h₂, rfl⟩ :=
      settled_of_join (escaped_ne_bracket open') (ne_singleton_of_notMem inside) h₁
    obtain ⟨rest, later, rfl⟩ := next_of_join (by decide) h₂
    obtain ⟨rfl, exact'⟩ := Attribute.settled_of_ok settled single
    refine ⟨exact', rest, later, ?_⟩
    rw [quote]
    rfl

theorem attribute_of_join (fits : a.Fits p) (open' : a.value ≠ ['>']) {v : Bool}
    (h : join true v (attributePieces a ++ ps) = .ok out) :
    a.Settled ∧ ∃ rest, join true false ps = .ok rest ∧ out = a.quoted.text ++ rest := by
  have name : ∀ d, isNameChar d = false → a.name.toList ≠ [d] := by
    intro d hd
    refine ne_singleton_of_notMem fun hm => ?_
    rw [fits.tight d hm] at hd
    cases hd
  rw [attributePieces_eq] at h
  obtain ⟨_, h₁, rfl⟩ := plain_of_join (by decide) (by decide) (by decide) (by decide) h
  obtain ⟨_, h₂, rfl⟩ := next_of_join (name _ (by decide)) h₁
  rw [decide_eq_false (name _ (by decide))] at h₂
  obtain ⟨_, h₃, rfl⟩ := next_of_join (by decide) h₂
  obtain ⟨settled, rest, later, rfl⟩ := value_of_join open' h₃
  exact ⟨settled, rest, later, by simp [Quoted.text, Attribute.quoted]⟩

/-! ### All attributes of a tag -/

/-- Without a value that is a lone bracket every attribute is written exactly. -/
theorem writes_settled {F : Attribute → Prop} {Q : Quoted → Prop} (open' : ∀ a, F a → a.value ≠ ['>'])
    (each : ∀ a, a.Fits p → F a → a.Settled → Q a.quoted) : Writes p F Q := by
  intro attributes ha
  induction attributes with
  | nil =>
    intro v ps out h
    exact ⟨true, v, [], out, fun q hq => (List.not_mem_nil hq).elim, h, rfl⟩
  | cons a attributes ih =>
    intro v ps out h
    rw [List.flatMap_cons, List.append_assoc] at h
    obtain ⟨fits, has⟩ := ha a List.mem_cons_self
    obtain ⟨settled, rest, later, rfl⟩ := attribute_of_join fits (open' a has) h
    obtain ⟨b', v', qs, rest', known, last, rfl⟩ :=
      ih (fun b hb => ha b (List.mem_cons_of_mem _ hb)) _ _ _ later
    refine ⟨b', v', a.quoted :: qs, rest', fun q hq => ?_, last, by simp⟩
    rcases List.mem_cons.1 hq with rfl | hq
    · exact ⟨settled.readable fits.named fits.tight, each a fits has settled⟩
    · exact known q hq

end Writer
end PageSkins.Markup
