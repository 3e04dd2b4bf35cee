import Mathlib.Data.List.TakeWhile
import PageSkins.Proofs.Markup.WrittenValues

/-!
# Markup that is written

A tree fits a policy when its elements and attributes are kept and the names of
its attributes read back as themselves. The pieces of such a tree, whichever of
them the writer settles, make reduced markup, with attributes as they may be
written for those of the tree.
-/

namespace PageSkins.Markup

/-- The attribute is kept, and its name reads back as itself. -/
structure Attribute.Fits (p : Policy) (a : Attribute) : Prop where
  kept : p.keepsAttribute a.name = true
  named : a.name.toList ≠ []
  tight : ∀ c ∈ a.name.toList, isNameChar c = true

/-- The attribute `q` may be written for `a`: its name and its escaped value may each be settled. -/
structure Attribute.WrittenAs (a : Attribute) (q : Quoted) : Prop where
  name : q.name = a.name.toList ∨ Writer.settle a.name.toList = .ok q.name
  value : ∃ w, (w = Writer.escapeValue a.value ∨
      w = Writer.escapeQuotes (Writer.escapeValue a.value)) ∧
    (q.value = w ∨ Writer.settle w = .ok q.value)

/-! ### Names that are kept -/

def smallChar (c : Char) : Char := if c = '\u212a' then 'k' else c.toLower

theorem toList_smallName (name : String) : (smallName name).toList = name.toList.map smallChar := by
  rw [smallName, String.toList_ofList, List.map_eq_flatMap]
  refine List.flatMap_congr fun c _ => ?_
  by_cases h : c = '\u212a'
  · simp [smallChar, h]
  · simp [smallChar, h]

theorem isNameChar_of_smallChar {c : Char} (h : isNameChar (smallChar c) = true) :
    isNameChar c = true := by
  cases hc : isNameChar c with
  | true => rfl
  | false =>
    have ending : c ∈ [' ', '\t', '\n', '\x0c', '\r', '/', '>', '=', '\x00'] := by
      simp only [isNameChar, isSpace, Bool.and_eq_false_iff, Bool.not_eq_false', bne_eq_false_iff_eq,
        Bool.or_eq_true, decide_eq_true_eq] at hc
      simpa only [List.mem_cons, List.not_mem_nil, or_false, or_assoc] using hc
    have same : ∀ d ∈ [' ', '\t', '\n', '\x0c', '\r', '/', '>', '=', '\x00'],
        isNameChar (smallChar d) = false := forall_mem_of_all (by decide)
    rw [same c ending] at h
    cases h

theorem keepsAttribute_cases {p : Policy} {name : String} (h : p.keepsAttribute name = true) :
    smallName name ∈ contentAttributes ++ formAttributes ∨
      "data-".toList <+: (smallName name).toList := by
  simp only [Policy.keepsAttribute, Bool.or_eq_true, Bool.and_eq_true, List.contains_iff_mem,
    List.isPrefixOf_iff_prefix] at h
  rcases h with (content | ⟨-, form⟩) | data
  · exact Or.inl (List.mem_append_left _ content)
  · exact Or.inl (List.mem_append_right _ form)
  · exact Or.inr data

/-- The first character of a kept name may stand in a name. -/
theorem keepsAttribute_cons {p : Policy} {name : String} (h : p.keepsAttribute name = true) :
    ∃ c r, name.toList = c :: r ∧ isNameChar c = true := by
  have first : ∃ d r, (smallName name).toList = d :: r ∧ isNameChar d = true := by
    rcases keepsAttribute_cases h with listed | ⟨r, data⟩
    · have known : ∀ n ∈ contentAttributes ++ formAttributes,
          n.toList.head?.any isNameChar = true := by decide
      have first := known _ listed
      cases hn : (smallName name).toList with
      | nil =>
        rw [hn] at first
        cases first
      | cons d r =>
        rw [hn] at first
        exact ⟨d, r, rfl, first⟩
    · exact ⟨'d', _, data.symm, by decide⟩
  obtain ⟨d, r, hd, ok⟩ := first
  rw [toList_smallName] at hd
  obtain ⟨c, r', hn, rfl, -⟩ := List.map_eq_cons_iff.1 hd
  exact ⟨c, r', hn, isNameChar_of_smallChar ok⟩

/-- A kept name is kept when it is settled. -/
theorem keepsAttribute_settle {p : Policy} {name : String} (h : p.keepsAttribute name = true)
    {settled : List Char} (hs : Writer.settle name.toList = .ok settled) :
    p.keepsAttribute (String.ofList settled) = true := by
  rcases keepsAttribute_cases h with listed | data
  · have known : ∀ n ∈ contentAttributes ++ formAttributes, '&' ∉ n.toList := by decide
    have plain : '&' ∉ name.toList := by
      intro hm
      apply known _ listed
      rw [toList_smallName]
      exact List.mem_map.2 ⟨'&', hm, by decide⟩
    rw [Writer.settle_of_notMem plain] at hs
    cases hs
    rw [String.ofList_toList]
    exact h
  · rw [toList_smallName] at data
    obtain ⟨r, data⟩ := data
    obtain ⟨u, v, hn, hu, -⟩ := List.map_eq_append_iff.1 data.symm
    have plain : '&' ∉ u := by
      intro hm
      have : smallChar '&' ∈ "data-".toList := by
        rw [← hu]
        exact List.mem_map_of_mem hm
      exact absurd this (by decide)
    rw [hn] at hs
    obtain ⟨w, rfl, -⟩ := Writer.settle_append plain hs
    have small : (smallName (String.ofList (u ++ w))).toList = "data-".toList ++ w.map smallChar := by
      rw [toList_smallName, ← hu, ← List.map_append]
      exact congrArg _ String.toList_ofList
    have start : "data-".toList.isPrefixOf (smallName (String.ofList (u ++ w))).toList = true := by
      rw [List.isPrefixOf_iff_prefix, small]
      exact List.prefix_append _ _
    simp only [Policy.keepsAttribute, start, Bool.or_true]

theorem Attribute.Fits.settle {p : Policy} {a : Attribute} (h : a.Fits p) {settled : List Char}
    (hs : Writer.settle a.name.toList = .ok settled) :
    p.keepsAttribute (String.ofList settled) = true ∧ settled ≠ [] ∧
      ∀ c ∈ settled, isNameChar c = true := by
  have kept := keepsAttribute_settle h.kept hs
  refine ⟨kept, ?_, ?_⟩
  · obtain ⟨c, r, hn, -⟩ := keepsAttribute_cons kept
    rw [String.toList_ofList] at hn
    rw [hn]
    exact List.cons_ne_nil c r
  · have brought : ∀ c ∈ Writer.ampersand, isNameChar c = true := forall_mem_of_all (by decide)
    intro c hc
    rcases Writer.mem_settle hs c hc with old | new
    · exact h.tight c old
    · exact brought c new

theorem Attribute.WrittenAs.kept {p : Policy} {a : Attribute} {q : Quoted} (h : a.WrittenAs q)
    (ha : a.Fits p) : q.Kept p := by
  rcases h.name with same | settled
  · rw [Quoted.Kept, same, String.ofList_toList]
    exact ha.kept
  · exact (ha.settle settled).1

mutual

/-- Elements and attributes of the tree are kept, and its attributes have the property. -/
def Tree.Fits (p : Policy) (F : Attribute → Prop) : Tree → Prop
  | .text _ => True
  | .comment => True
  | .element name _ attributes children =>
    p.keepsElement name = true ∧ (∀ a ∈ attributes, a.Fits p ∧ F a) ∧ Tree.AllFit p F children

def Tree.AllFit (p : Policy) (F : Attribute → Prop) : List Tree → Prop
  | [] => True
  | t :: rest => t.Fits p F ∧ Tree.AllFit p F rest

end

theorem Tree.allFit_append {p : Policy} {F : Attribute → Prop} {ts us : List Tree}
    (ht : Tree.AllFit p F ts) (hu : Tree.AllFit p F us) : Tree.AllFit p F (ts ++ us) := by
  induction ts with
  | nil => exact hu
  | cons t ts ih =>
    rw [Tree.AllFit] at ht
    rw [List.cons_append, Tree.AllFit]
    exact ⟨ht.1, ih ht.2⟩

namespace Writer

/-- The pieces put side by side, some of them settled. -/
def Joined : List (List Char) → List Char → Prop
  | [], out => out = []
  | p :: ps, out => ∃ q rest, out = q ++ rest ∧ (q = p ∨ settle p = .ok q) ∧ Joined ps rest

theorem join_cons {q : List Char} {ps : List (List Char)} {b v : Bool} {out : List Char}
    (h : join b v (q :: ps) = .ok out) :
    ∃ b' v' u rest, (u = q ∨ settle q = .ok u) ∧ join b' v' ps = .ok rest ∧ out = u ++ rest := by
  have same : ∀ b' v', (do return q ++ (← join b' v' ps)) = Except.ok out →
      ∃ b' v' u rest, (u = q ∨ settle q = .ok u) ∧ join b' v' ps = .ok rest ∧ out = u ++ rest := by
    intro b' v' hb
    obtain ⟨rest, later, hb⟩ := ok_of_bind hb
    cases hb
    exact ⟨b', v', q, rest, Or.inl rfl, later, rfl⟩
  unfold join at h
  split at h
  · split at h
    · exact same _ _ h
    · split at h
      · split at h
        · exact same _ _ h
        · obtain ⟨u, value, h⟩ := ok_of_bind h
          obtain ⟨rest, later, h⟩ := ok_of_bind h
          cases h
          exact ⟨true, false, u, rest, Or.inr value, later, rfl⟩
      · exact same _ _ h
  · exact same _ _ h

theorem joined_of_join {ps qs : List (List Char)} {b v : Bool} {out : List Char}
    (h : join b v (ps ++ qs) = .ok out) :
    ∃ b' v' u rest, Joined ps u ∧ join b' v' qs = .ok rest ∧ out = u ++ rest := by
  induction ps generalizing b v out with
  | nil => exact ⟨b, v, [], out, rfl, h, rfl⟩
  | cons p ps ih =>
    obtain ⟨b₁, v₁, q, rest, hq, later, rfl⟩ := join_cons h
    obtain ⟨b', v', u, rest', joined, last, rfl⟩ := ih later
    exact ⟨b', v', q ++ u, rest', ⟨q, u, rfl, hq, joined⟩, last, by rw [List.append_assoc]⟩

theorem joined_append {ps qs : List (List Char)} {out : List Char} (h : Joined (ps ++ qs) out) :
    ∃ u v, out = u ++ v ∧ Joined ps u ∧ Joined qs v := by
  induction ps generalizing out with
  | nil => exact ⟨[], out, rfl, rfl, h⟩
  | cons p ps ih =>
    obtain ⟨q, rest, rfl, hq, later⟩ := h
    obtain ⟨u, v, rfl, hu, hv⟩ := ih later
    exact ⟨q ++ u, v, by rw [List.append_assoc], ⟨q, u, rfl, hq, hu⟩, hv⟩

theorem joined_cons {p : List Char} {ps : List (List Char)} {out : List Char} (plain : '&' ∉ p)
    (h : Joined (p :: ps) out) : ∃ rest, out = p ++ rest ∧ Joined ps rest := by
  obtain ⟨q, rest, rfl, same | settled, later⟩ := h
  · rw [same]
    exact ⟨rest, rfl, later⟩
  · rw [settle_of_notMem plain] at settled
    cases settled
    exact ⟨rest, rfl, later⟩

/-- A character that settling cannot bring in stands in no piece, so it does not stand in the whole. -/
theorem notMem_joined {c : Char} (hc : c ∉ ampersand) {ps : List (List Char)} {out : List Char}
    (h : Joined ps out) (clean : ∀ p ∈ ps, c ∉ p) : c ∉ out := by
  induction ps generalizing out with
  | nil =>
    rw [h]
    exact List.not_mem_nil
  | cons p ps ih =>
    obtain ⟨q, rest, rfl, hq, later⟩ := h
    intro hm
    rcases List.mem_append.1 hm with hm | hm
    · rcases hq with same | settled
      · rw [same] at hm
        exact clean p List.mem_cons_self hm
      · rcases mem_settle settled c hm with old | new
        · exact clean p List.mem_cons_self old
        · exact hc new
    · exact ih later (fun p hp => clean p (List.mem_cons_of_mem _ hp)) hm

/-! ### Text -/

theorem notMem_piece {c : Char} {s : List Char} (h : c ∉ s) : ∀ p ∈ piece s, c ∉ p := by
  intro p hp
  unfold piece at hp
  split at hp
  · cases hp
  · rw [List.mem_singleton.1 hp]
    exact h

theorem mem_runCons {s body : List Char} {rest : List Run}
    (h : Run.reference body ∈ Run.cons s rest) : Run.reference body ∈ rest := by
  unfold Run.cons at h
  split at h
  · rcases List.mem_cons.1 h with h | h
    · cases h
    · exact List.mem_cons_of_mem _ h
  · split at h
    · exact h
    · rcases List.mem_cons.1 h with h | h
      · cases h
      · exact h

theorem mem_ofPart {part body : List Char} {rest : List Run}
    (h : Run.reference body ∈ Run.ofPart part rest) :
    Run.reference body ∈ rest ∨ ∃ r, Reference.body? r = some body := by
  unfold Run.ofPart at h
  split at h
  · rename_i r
    split at h
    · exact Or.inl (mem_runCons h)
    · rename_i body' hbody
      dsimp only at h
      split at h
      · exact Or.inl (mem_runCons (mem_runCons h))
      · rcases List.mem_cons.1 h with same | h
        · cases same
          exact Or.inr ⟨r, hbody⟩
        · exact Or.inl (mem_runCons h)
  · exact Or.inl (mem_runCons h)

theorem mem_runs {s body : List Char} (h : Run.reference body ∈ runs s) :
    ∃ r, Reference.body? r = some body := by
  have later : ∀ parts : List (List Char), Run.reference body ∈ parts.foldr Run.ofPart [] →
      ∃ r, Reference.body? r = some body := by
    intro parts
    induction parts with
    | nil =>
      intro hm
      cases hm
    | cons part parts ih =>
      intro hm
      rcases mem_ofPart hm with old | new
      · exact ih old
      · exact new
  exact later _ (mem_runCons h)

theorem bracket_notMem_escaped (s : List Char) : '<' ∉ s.flatMap escapeChar := by
  intro hm
  obtain ⟨c, -, hc⟩ := List.mem_flatMap.1 hm
  unfold escapeChar at hc
  split at hc
  · exact absurd hc (by decide)
  · exact absurd hc (by decide)
  · exact absurd hc (by decide)
  · rename_i plain _
    exact plain (List.mem_singleton.1 hc).symm

/-- No piece of a text opens a tag. -/
theorem bracket_notMem_textPieces (s : List Char) : ∀ p ∈ textPieces s, '<' ∉ p := by
  have space : ∀ t : List Char, '<' ∉ t.takeWhile isSpace := by
    intro t hm
    have : isSpace '<' = true := List.mem_takeWhile_imp hm
    exact absurd this (by decide)
  intro p hp
  unfold textPieces at hp
  dsimp only at hp
  rcases List.mem_append.1 hp with hp | hp
  · rcases List.mem_append.1 hp with hp | hp
    · exact notMem_piece (space s) p hp
    · obtain ⟨x, hx, hp⟩ := List.mem_flatMap.1 hp
      cases x with
      | chars t =>
        simp only [Run.pieces] at hp
        split at hp
        · cases hp
        · rw [List.mem_singleton.1 hp]
          exact bracket_notMem_escaped t
      | reference body =>
        obtain ⟨r, hr⟩ := mem_runs hx
        rw [Run.pieces, List.mem_singleton] at hp
        rw [hp]
        intro hm
        rcases List.mem_cons.1 hm with h | h
        · cases h
        · rcases List.mem_append.1 h with h | h
          · have := (Reference.body?_some hr).2 _ h
            exact absurd this (by decide)
          · exact absurd h (by decide)
  · refine notMem_piece ?_ p hp
    rw [List.mem_reverse]
    exact space _

/-! ### Attributes -/

theorem attributePieces_eq (a : Attribute) : attributePieces a =
    [[' '], a.name.toList, ['='], [a.quoted.quote],
      if a.single then escapeValue a.value else escapeQuotes (escapeValue a.value),
      [a.quoted.quote]] := by
  have same : ((escapeValue a.value).contains '"' && !(escapeValue a.value).contains '\'') =
      a.single := by
    rw [contains_escapeValue (Or.inl rfl), contains_escapeValue (Or.inr rfl)]
    rfl
  unfold attributePieces
  rw [← escapeValue]
  dsimp only
  rw [same, Attribute.quoted]
  cases a.single with
  | true => rfl
  | false => rfl

theorem joined_quoted {p : Policy} {a : Attribute} (ha : a.Fits p) {quote : Char}
    (hq : quote = '"' ∨ quote = '\'') {value out : List Char}
    (escaped : value = escapeValue a.value ∨ value = escapeQuotes (escapeValue a.value))
    (closed : quote ∉ value)
    (h : Joined [[' '], a.name.toList, ['='], [quote], value, [quote]] out) :
    ∃ q : Quoted, q.Readable ∧ a.WrittenAs q ∧ out = q.text := by
  have plain : ('&' : Char) ∉ [quote] ∧ quote ∉ ampersand := by
    rcases hq with rfl | rfl
    · decide
    · decide
  obtain ⟨_, rfl, ⟨name, _, rfl, hn, h₁⟩⟩ := joined_cons (by decide) h
  obtain ⟨_, rfl, h₂⟩ := joined_cons (by decide) h₁
  obtain ⟨_, rfl, ⟨written, _, rfl, hv, h₃⟩⟩ := joined_cons plain.1 h₂
  obtain ⟨_, rfl, rfl⟩ := joined_cons plain.1 h₃
  have fits : name ≠ [] ∧ ∀ c ∈ name, isNameChar c = true := by
    rcases hn with rfl | settled
    · exact ⟨ha.named, ha.tight⟩
    · exact (ha.settle settled).2
  have open' : quote ∉ written := by
    rcases hv with rfl | settled
    · exact closed
    · intro hm
      rcases mem_settle settled _ hm with old | new
      · exact closed old
      · exact plain.2 new
  exact ⟨⟨name, quote, written⟩, ⟨fits.1, fits.2, hq, open'⟩, ⟨hn, value, escaped, hv⟩,
    by simp [Quoted.text]⟩

theorem joined_attribute {p : Policy} {a : Attribute} (ha : a.Fits p) {out : List Char}
    (h : Joined (attributePieces a) out) :
    ∃ q : Quoted, q.Readable ∧ a.WrittenAs q ∧ out = q.text := by
  unfold attributePieces at h
  dsimp only at h
  split at h
  · rename_i hv
    refine joined_quoted ha (Or.inr rfl) (Or.inl rfl) ?_ h
    rw [Bool.and_eq_true, Bool.not_eq_true'] at hv
    have single : (escapeValue a.value).contains '\'' = false := hv.2
    intro hm
    rw [List.contains_iff_mem.2 hm] at single
    cases single
  · refine joined_quoted ha (Or.inl rfl) (Or.inr rfl) ?_ h
    intro hm
    obtain ⟨c, -, hc⟩ := List.mem_flatMap.1 hm
    split at hc
    · exact absurd hc (by decide)
    · rename_i other
      exact other (List.mem_singleton.1 hc).symm

section Pieces

variable {p : Policy} {F : Attribute → Prop} {Q : Quoted → Prop}

theorem joined_attributes (each : ∀ a q, a.Fits p → F a → a.WrittenAs q → Q q)
    {attributes : List Attribute} (ha : ∀ a ∈ attributes, a.Fits p ∧ F a)
    {out : List Char} (h : Joined (attributes.flatMap attributePieces) out) :
    ∃ qs : List Quoted, (∀ q ∈ qs, q.Readable ∧ Q q) ∧ out = qs.flatMap Quoted.text := by
  induction attributes generalizing out with
  | nil => exact ⟨[], fun q hq => (List.not_mem_nil hq).elim, h⟩
  | cons a attributes ih =>
    rw [List.flatMap_cons] at h
    obtain ⟨u, v, rfl, first, others⟩ := joined_append h
    obtain ⟨fits, has⟩ := ha a List.mem_cons_self
    obtain ⟨q, readable, written, rfl⟩ := joined_attribute fits first
    obtain ⟨qs, known, rfl⟩ := ih (fun b hb => ha b (List.mem_cons_of_mem _ hb)) others
    refine ⟨q :: qs, ?_, rfl⟩
    intro x hx
    rcases List.mem_cons.1 hx with rfl | hx
    · exact ⟨readable, each a x fits has written⟩
    · exact known x hx

/-- In a tag, fitting attributes that have the one property are written as attributes that have the other. -/
def Writes (p : Policy) (F : Attribute → Prop) (Q : Quoted → Prop) : Prop :=
  ∀ attributes : List Attribute, (∀ a ∈ attributes, a.Fits p ∧ F a) →
    ∀ (v : Bool) (ps : List (List Char)) (out : List Char),
      join true v (attributes.flatMap attributePieces ++ ps) = .ok out →
        ∃ (b' v' : Bool) (qs : List Quoted) (rest : List Char),
          (∀ q ∈ qs, q.Readable ∧ Q q) ∧ join b' v' ps = .ok rest ∧ out = qs.flatMap Quoted.text ++ rest

theorem writes_of_each (each : ∀ a q, a.Fits p → F a → a.WrittenAs q → Q q) : Writes p F Q := by
  intro attributes ha v ps out h
  obtain ⟨b', v', u, rest, joined, later, rfl⟩ := joined_of_join h
  obtain ⟨qs, known, rfl⟩ := joined_attributes each ha joined
  exact ⟨b', v', qs, rest, known, later, rfl⟩

/-! ### Trees -/

/-- Wherever the writer takes itself to be, it joins the pieces to reduced markup. -/
def Yields (p : Policy) (Q : Quoted → Prop) (ps : List (List Char)) : Prop :=
  ∀ (b v : Bool) (qs : List (List Char)) (out : List Char), join b v (ps ++ qs) = .ok out →
    ∃ b' v' u rest, join b' v' qs = .ok rest ∧ out = u ++ rest ∧
      ∀ s, Reduced p Q s → Reduced p Q (u ++ s)

theorem yields_nil : Yields p Q [] :=
  fun b v _ out h => ⟨b, v, [], out, h, rfl, fun _ hs => hs⟩

theorem Yields.append {ps qs : List (List Char)} (hp : Yields p Q ps) (hq : Yields p Q qs) :
    Yields p Q (ps ++ qs) := by
  intro b v rs out h
  rw [List.append_assoc] at h
  obtain ⟨b₁, v₁, u₁, rest₁, later, rfl, first⟩ := hp _ _ _ _ h
  obtain ⟨b₂, v₂, u₂, rest₂, last, rfl, second⟩ := hq _ _ _ _ later
  refine ⟨b₂, v₂, u₁ ++ u₂, rest₂, last, by rw [List.append_assoc], fun s hs => ?_⟩
  rw [List.append_assoc]
  exact first _ (second s hs)

theorem Reduced.append {s t : List Char} (plain : '<' ∉ s) (h : Reduced p Q t) :
    Reduced p Q (s ++ t) := by
  induction s with
  | nil => exact h
  | cons c s ih =>
    refine Reduced.char (fun e => plain (e ▸ List.mem_cons_self)) ?_
    exact ih fun hm => plain (List.mem_cons_of_mem _ hm)

theorem yields_textPieces (s : List Char) : Yields p Q (textPieces s) := by
  intro b v qs out h
  obtain ⟨b', v', u, rest, joined, later, rfl⟩ := joined_of_join h
  have plain := notMem_joined (by decide) joined (bracket_notMem_textPieces s)
  exact ⟨b', v', u, rest, later, rfl, fun t ht => Reduced.append plain ht⟩

theorem ampersand_notMem_name {name : String} (h : p.keepsElement name = true) :
    '&' ∉ name.toList := by
  have known : ∀ n ∈ contentElements ++ formElements, '&' ∉ n.toList := by decide
  exact known name (mem_of_keepsElement h)

/-- Wherever the writer takes itself to be, from the start of a tag on it takes itself to be in one. -/
theorem bracket_of_join {q : List Char} (plain : '&' ∉ q) {b v : Bool} {ps : List (List Char)}
    {out : List Char} (h : join b v (('<' :: q) :: ps) = .ok out) :
    ∃ v' rest, join true v' ps = .ok rest ∧ out = '<' :: q ++ rest := by
  have other : ∀ d, d ≠ '<' → '<' :: q ≠ [d] := fun d hd e => hd (List.cons.inj e).1.symm
  rw [join, if_neg (other _ (by decide)), if_neg (other _ (by decide)), decide_eq_false (other _ (by decide)),
    settle_of_notMem (by simp [plain])] at h
  obtain ⟨v', h⟩ : ∃ v', (do return '<' :: q ++ (← join true v' ps)) = Except.ok out := by
    split at h
    · split at h
      · exact ⟨false, h⟩
      · exact ⟨false, h⟩
    · exact ⟨v, h⟩
  obtain ⟨rest, later, h⟩ := ok_of_bind h
  cases h
  exact ⟨v', rest, later, rfl⟩

theorem yields_opening (writes : Writes p F Q) {name : String} (kept : p.keepsElement name = true)
    {attributes : List Attribute} (ha : ∀ a ∈ attributes, a.Fits p ∧ F a) :
    Yields p Q (('<' :: name.toList) :: attributes.flatMap attributePieces ++ [['>']]) := by
  intro b v qs out h
  rw [List.append_assoc, List.cons_append] at h
  obtain ⟨v₁, rest₁, h₁, rfl⟩ := bracket_of_join (ampersand_notMem_name kept) h
  obtain ⟨b₂, v₂, as, rest₂, known, h₂, rfl⟩ := writes attributes ha _ _ _ h₁
  obtain ⟨b', v', u, rest, close, later, rfl⟩ := joined_of_join h₂
  obtain ⟨_, rfl, rfl⟩ := joined_cons (by decide) close
  refine ⟨b', v', '<' :: (name.toList ++ (as.flatMap Quoted.text ++ ['>'])), rest, later, by simp,
    fun s hs => ?_⟩
  have tag := Reduced.opening kept known hs
  simpa using tag

theorem yields_closing {name : String} (kept : p.keepsElement name = true) :
    Yields p Q ['<' :: '/' :: name.toList ++ ['>']] := by
  intro b v qs out h
  obtain ⟨b', v', u, rest, close, later, rfl⟩ := joined_of_join h
  obtain ⟨_, rfl, rfl⟩ := joined_cons (by simpa using ampersand_notMem_name kept) close
  refine ⟨b', v', _, rest, later, rfl, fun s hs => ?_⟩
  have tag := Reduced.closing kept hs
  simpa using tag

mutual

theorem yields_treePieces (writes : Writes p F Q) :
    ∀ (t : Tree), t.Fits p F → Yields p Q (treePieces t)
  | .text s, _ => by
    rw [treePieces]
    exact yields_textPieces s
  | .comment, _ => by
    rw [treePieces]
    exact yields_nil
  | .element name vocabulary attributes children, ht => by
    rw [Tree.Fits] at ht
    obtain ⟨kept, fits, inside⟩ := ht
    have opening := yields_opening writes kept fits
    unfold treePieces
    dsimp only
    split
    · exact opening
    · exact (opening.append (yields_pieces writes children inside)).append (yields_closing kept)

theorem yields_pieces (writes : Writes p F Q) :
    ∀ (ts : List Tree), Tree.AllFit p F ts → Yields p Q (pieces ts)
  | [], _ => by
    rw [pieces]
    exact yields_nil
  | t :: rest, ht => by
    rw [Tree.AllFit] at ht
    rw [pieces]
    exact (yields_treePieces writes t ht.1).append (yields_pieces writes rest ht.2)

end

/-- Fitting trees are written as reduced markup. -/
theorem reduced_write (writes : Writes p F Q) {ts : List Tree} (fits : Tree.AllFit p F ts)
    {out : List Char} (h : write ts = .ok out) : Reduced p Q out := by
  rw [write, ← List.append_nil (pieces ts)] at h
  obtain ⟨b', v', u, rest, last, rfl, reduced⟩ := yields_pieces writes ts fits _ _ _ _ h
  cases last
  exact reduced [] Reduced.nil

end Pieces

end Writer
end PageSkins.Markup
