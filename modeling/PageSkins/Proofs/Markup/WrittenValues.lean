import PageSkins.Proofs.Markup.ReducedMarkup
import PageSkins.Proofs.Markup.SettledReferences

/-!
# Values that are written

Between double quotes a value is escaped and then settled, so its references
stay references and writing it once more changes nothing. Between single quotes
it is only escaped, so its ampersands are escaped again each time.
-/

namespace PageSkins.Markup

namespace Writer

/-- A value with the ampersands and opening brackets escaped. -/
def escapeValue (value : List Char) : List Char :=
  value.flatMap fun c =>
    if c = '&' then "&amp;".toList else if c = '<' then "&lt;".toList else [c]

/-- A value with the double quotes escaped. -/
def escapeQuotes (value : List Char) : List Char :=
  value.flatMap fun c => if c = '"' then "&quot;".toList else [c]

theorem escapeValue_cons (c : Char) (s : List Char) : escapeValue (c :: s) =
    (if c = '&' then "&amp;".toList else if c = '<' then "&lt;".toList else [c]) ++ escapeValue s :=
  List.flatMap_cons

theorem escapeQuotes_cons (c : Char) (s : List Char) : escapeQuotes (c :: s) =
    (if c = '"' then "&quot;".toList else [c]) ++ escapeQuotes s :=
  List.flatMap_cons

theorem escapeQuotes_append (s t : List Char) :
    escapeQuotes (s ++ t) = escapeQuotes s ++ escapeQuotes t := List.flatMap_append

/-- The characters that escaping a value may bring in. -/
def valueEscapes : List Char := "&amp;lt;quot;".toList

theorem mem_escapeValue {s : List Char} {c : Char} (h : c ∈ escapeValue s) :
    (c ∈ s ∧ c ≠ '<') ∨ c ∈ valueEscapes := by
  obtain ⟨d, hd, hc⟩ := List.mem_flatMap.1 h
  have ampersand : ∀ e ∈ "&amp;".toList, e ∈ valueEscapes := forall_mem_of_all (by decide)
  have opening : ∀ e ∈ "&lt;".toList, e ∈ valueEscapes := forall_mem_of_all (by decide)
  split at hc
  · exact Or.inr (ampersand c hc)
  · split at hc
    · exact Or.inr (opening c hc)
    · rename_i bracket
      rw [List.mem_singleton.1 hc]
      exact Or.inl ⟨hd, bracket⟩

theorem mem_escapeQuotes {s : List Char} {c : Char} (h : c ∈ escapeQuotes s) :
    (c ∈ s ∧ c ≠ '"') ∨ c ∈ valueEscapes := by
  obtain ⟨d, hd, hc⟩ := List.mem_flatMap.1 h
  have known : ∀ e ∈ "&quot;".toList, e ∈ valueEscapes := forall_mem_of_all (by decide)
  split at hc
  · exact Or.inr (known c hc)
  · rename_i quote
    rw [List.mem_singleton.1 hc]
    exact Or.inl ⟨hd, quote⟩

theorem escapeValue_of_notMem {s : List Char} (amp : '&' ∉ s) (bracket : '<' ∉ s) :
    escapeValue s = s := by
  induction s with
  | nil => rfl
  | cons c s ih =>
    have first : c ≠ '&' ∧ c ≠ '<' :=
      ⟨fun e => amp (e ▸ List.mem_cons_self), fun e => bracket (e ▸ List.mem_cons_self)⟩
    rw [escapeValue_cons, if_neg first.1, if_neg first.2,
      ih (fun hm => amp (List.mem_cons_of_mem _ hm)) fun hm => bracket (List.mem_cons_of_mem _ hm)]
    rfl

theorem escapeQuotes_of_notMem {s : List Char} (quote : '"' ∉ s) : escapeQuotes s = s := by
  induction s with
  | nil => rfl
  | cons c s ih =>
    have other : c ≠ '"' := fun e => quote (e ▸ List.mem_cons_self)
    rw [escapeQuotes_cons, if_neg other, ih fun hm => quote (List.mem_cons_of_mem _ hm)]
    rfl

/-- An apostrophe or a double quote stays in an escaped value, and none is brought in. -/
theorem contains_escapeValue {q : Char} (hq : q = '"' ∨ q = '\'') (s : List Char) :
    (escapeValue s).contains q = s.contains q := by
  have other : q ∉ valueEscapes ∧ q ≠ '&' ∧ q ≠ '<' := by
    rcases hq with rfl | rfl
    · decide
    · decide
  rw [Bool.eq_iff_iff, List.contains_iff_mem, List.contains_iff_mem]
  constructor
  · intro h
    rcases mem_escapeValue h with old | new
    · exact old.1
    · exact absurd new other.1
  · intro h
    refine List.mem_flatMap.2 ⟨q, h, ?_⟩
    rw [if_neg other.2.1, if_neg other.2.2]
    exact List.mem_singleton_self q

/-- Where there is something to escape, the escapes are escaped in turn. -/
theorem any_escapeValue {s : List Char} (h : (s.any fun c => c = '&' || c = '<') = true) :
    ((escapeValue s).any fun c => c = '&' || c = '<') = true := by
  obtain ⟨c, hc, special⟩ := List.any_eq_true.1 h
  refine List.any_eq_true.2 ⟨'&', List.mem_flatMap.2 ⟨c, hc, ?_⟩, by decide⟩
  by_cases amp : c = '&'
  · rw [if_pos amp]
    decide
  · rw [Bool.or_eq_true, decide_eq_true_iff, decide_eq_true_iff] at special
    rw [if_neg amp, if_pos (special.resolve_left amp)]
    decide

/-! ### Settled values -/

/-- Reading the ampersands of an escaped value back leaves its brackets and double quotes escaped. -/
theorem plainAmpersands_escaped (s : List Char) : plainAmpersands (escapeQuotes (escapeValue s)) =
    s.flatMap fun c =>
      if c = '<' then "&lt;".toList else if c = '"' then "&quot;".toList else [c] := by
  induction s with
  | nil => rfl
  | cons c s ih =>
    rw [escapeValue_cons, escapeQuotes_append, List.flatMap_cons, ← ih]
    by_cases amp : c = '&'
    · rw [amp]
      rfl
    · by_cases bracket : c = '<'
      · rw [bracket]
        rfl
      · rw [if_neg amp, if_neg bracket, if_neg bracket]
        by_cases quote : c = '"'
        · rw [quote]
          rfl
        · have plain : '&' ∉ [c] := fun hm => amp (List.mem_singleton.1 hm).symm
          have same : escapeQuotes [c] = [c] :=
            escapeQuotes_of_notMem fun hm => quote (List.mem_singleton.1 hm).symm
          rw [if_neg quote, same, plainAmpersands_append plain]

theorem plainAmpersands_escaped_of_notMem {s : List Char} (bracket : '<' ∉ s) (quote : '"' ∉ s) :
    plainAmpersands (escapeQuotes (escapeValue s)) = s := by
  have each : ∀ c ∈ s, (if c = '<' then "&lt;".toList else
      if c = '"' then "&quot;".toList else [c]) = [c] := by
    intro c hc
    rw [if_neg fun e => bracket (by rwa [e] at hc), if_neg fun e => quote (by rwa [e] at hc)]
  rw [plainAmpersands_escaped, List.flatMap_congr each, List.flatMap_singleton']

theorem mem_settle_escaped {s w : List Char} (h : settle (escapeQuotes (escapeValue s)) = .ok w)
    {c : Char} (hc : c ∈ w) : (c ∈ s ∧ c ≠ '<' ∧ c ≠ '"') ∨ c ∈ valueEscapes := by
  have known : ∀ e ∈ ampersand, e ∈ valueEscapes := forall_mem_of_all (by decide)
  rcases mem_settle h c hc with old | new
  · rcases mem_escapeQuotes old with ⟨old, quote⟩ | new
    · rcases mem_escapeValue old with ⟨old, bracket⟩ | new
      · exact Or.inl ⟨old, bracket, quote⟩
      · exact Or.inr new
    · exact Or.inr new
  · exact Or.inr (known c new)

/-- What is written for a value is written for it again. -/
theorem settle_settled {s w : List Char} (h : settle (escapeQuotes (escapeValue s)) = .ok w) :
    settle (escapeQuotes (escapeValue w)) = .ok w := by
  have other : '<' ∉ valueEscapes ∧ '"' ∉ valueEscapes := by decide
  have bracket : '<' ∉ w := by
    intro hm
    rcases mem_settle_escaped h hm with ⟨-, off, -⟩ | new
    · exact off rfl
    · exact other.1 new
  have quote : '"' ∉ w := by
    intro hm
    rcases mem_settle_escaped h hm with ⟨-, -, off⟩ | new
    · exact off rfl
    · exact other.2 new
  unfold settle at h ⊢
  rw [plainAmpersands_escaped_of_notMem bracket quote]
  generalize plainAmpersands (escapeQuotes (escapeValue s)) = t at h
  dsimp only at h
  obtain ⟨settled, parts, h⟩ := ok_of_bind h
  cases h
  obtain ⟨first, cut⟩ := isPart_splitAmpersands t
  have again := settleParts_settled (forall₂_of_mapM parts) cut
  rw [splitAmpersands_parts first fun part hp => (again part hp).1]
  dsimp only
  rw [mapM_of_fixed fun part hp => (again part hp).2]
  rfl

end Writer

/-! ### Attributes -/

namespace Attribute

open Writer

/-- The value is written between single quotes. -/
def single (a : Attribute) : Bool := a.value.contains '"' && !a.value.contains '\''

def written (a : Attribute) : List Char :=
  if a.single then escapeValue a.value
  else match settle (escapeQuotes (escapeValue a.value)) with
    | .ok value => value
    | .error _ => a.value

def quoted (a : Attribute) : Quoted := ⟨a.name.toList, if a.single then '\'' else '"', a.written⟩

/-- What an attribute is read back as. -/
def reread (a : Attribute) : Attribute := { a with value := a.written }

/-- Something is escaped again each time the attribute is written. -/
def drifts (a : Attribute) : Bool := a.single && a.value.any fun c => c = '&' || c = '<'

variable {a : Attribute}

theorem written_of_single (h : a.single = true) : a.written = escapeValue a.value := by
  rw [written, if_pos h]

theorem quotes_of_single (h : a.single = true) : '"' ∈ a.value ∧ '\'' ∉ a.value := by
  obtain ⟨double, other⟩ := Bool.and_eq_true_iff.1 h
  refine ⟨List.contains_iff_mem.1 double, fun hm => ?_⟩
  rw [List.contains_iff_mem.2 hm] at other
  cases other

theorem quote_of_single (h : a.single = true) : a.quoted.quote = '\'' := by
  rw [quoted, h]
  rfl

theorem quote_of_double (h : a.single = false) : a.quoted.quote = '"' := by
  rw [quoted, h]
  rfl

theorem escapeValue_ne (h : a.single = true) {d : Char} (hd : d ≠ '"') :
    escapeValue a.value ≠ [d] := by
  intro e
  have double : '"' ∈ escapeValue a.value := by
    rw [← List.contains_iff_mem, contains_escapeValue (Or.inl rfl), List.contains_iff_mem]
    exact (quotes_of_single h).1
  rw [e] at double
  exact hd (List.mem_singleton.1 double).symm

/-- Between double quotes the value that is written is settled. -/
def Settled (a : Attribute) : Prop :=
  a.single = false → settle (escapeQuotes (escapeValue a.value)) = .ok a.written

theorem written_of_ok (double : a.single = false) {w : List Char}
    (h : settle (escapeQuotes (escapeValue a.value)) = .ok w) : a.written = w := by
  simp only [written, double, h]
  rfl

/-- A value that cannot be settled is written as it is. -/
theorem reread_of_error (double : a.single = false) {e : Reference.TooLong}
    (h : settle (escapeQuotes (escapeValue a.value)) = .error e) : a.reread = a := by
  simp only [reread, written, double, h]
  rfl

theorem settled_of_ok {w : List Char} (h : settle (escapeQuotes (escapeValue a.value)) = .ok w)
    (double : a.single = false) : a.written = w ∧ a.Settled := by
  have written := written_of_ok double h
  exact ⟨written, fun _ => by rw [h, written]⟩

/-- A value is not closed before its end. -/
theorem Settled.closed (h : a.Settled) : a.quoted.quote ∉ a.quoted.value := by
  cases single : a.single with
  | true =>
    rw [quote_of_single single, quoted, written_of_single single, ← List.contains_iff_mem,
      contains_escapeValue (Or.inr rfl), List.contains_iff_mem]
    exact (quotes_of_single single).2
  | false =>
    rw [quote_of_double single]
    intro hm
    rcases mem_settle_escaped (h single) hm with ⟨-, -, off⟩ | new
    · exact off rfl
    · exact absurd new (by decide)

theorem Settled.readable (h : a.Settled) (named : a.name.toList ≠ [])
    (tight : ∀ c ∈ a.name.toList, isNameChar c = true) : a.quoted.Readable := by
  refine ⟨named, tight, ?_, h.closed⟩
  cases single : a.single with
  | true => exact .inr (quote_of_single single)
  | false => exact .inl (quote_of_double single)

theorem single_reread (a : Attribute) : a.reread.single = a.single := by
  cases h : a.single with
  | true =>
    have same : a.reread.single =
        ((escapeValue a.value).contains '"' && !(escapeValue a.value).contains '\'') := by
      rw [single, reread, written_of_single h]
    rw [same, contains_escapeValue (Or.inl rfl), contains_escapeValue (Or.inr rfl)]
    exact h
  | false =>
    cases hw : settle (escapeQuotes (escapeValue a.value)) with
    | error e => rw [reread_of_error h hw, h]
    | ok w =>
      have same : a.reread.value = w := written_of_ok h hw
      have quote : w.contains '"' = false := by
        rw [List.contains_eq_mem]
        refine decide_eq_false fun hm => ?_
        rcases mem_settle_escaped hw hm with ⟨-, -, off⟩ | new
        · exact off rfl
        · exact absurd new (by decide)
      rw [single, same, quote, Bool.false_and]

/-- Between double quotes an attribute is written for good. -/
theorem written_reread (h : a.single = false) : a.reread.written = a.written := by
  cases hw : settle (escapeQuotes (escapeValue a.value)) with
  | error e => rw [reread_of_error h hw]
  | ok w =>
    have first := written_of_ok h hw
    have again := settle_settled hw
    have value : a.reread.value = w := first
    have off := (single_reread a).trans h
    simp only [written, value, off, again]
    rw [← written, first]
    rfl

/-- An attribute that does not drift is written as it was. -/
theorem quoted_reread (h : a.drifts = false) : a.reread.quoted = a.quoted := by
  have same : a.reread.written = a.written := by
    cases hs : a.single with
    | false => exact written_reread hs
    | true =>
      rw [drifts, hs, Bool.true_and, List.any_eq_false] at h
      have amp : '&' ∉ a.value := fun hm => h _ hm (by decide)
      have bracket : '<' ∉ a.value := fun hm => h _ hm (by decide)
      have value : a.reread = a := by
        rw [reread, written_of_single hs, escapeValue_of_notMem amp bracket]
      rw [value]
  rw [quoted, quoted, single_reread, same]
  rfl

end Attribute

end PageSkins.Markup
