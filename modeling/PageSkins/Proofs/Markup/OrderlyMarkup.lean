import PageSkins.Markup.Sanitize
import PageSkins.Proofs.Markup.Containers
import PageSkins.Proofs.Markup.OrderlyTrees

/-!
# Orderly trees filtered and written

The writer writes the markup of an orderly tree, and the search for containers
of raw text finds nothing there. What an orderly tree is read back as is orderly
again, and the policy leaves it as it is.
-/

namespace PageSkins.Markup

variable {p : Policy}

/-! ### Attributes -/

namespace Attribute.Orderly

open Writer

variable {a : Attribute}

theorem settles (h : a.Orderly) : a.Settled := by
  intro double
  obtain ⟨w, hw⟩ := h.settled double
  exact (settled_of_ok hw double).2 double

/-- What is written between the quotes stood in the value or is part of an escape. -/
theorem mem_written (h : a.Orderly) {c : Char} (hc : c ∈ a.written) :
    (c ∈ a.value ∧ c ≠ '<') ∨ c ∈ valueEscapes := by
  cases single : a.single with
  | true =>
    rw [written_of_single single] at hc
    exact mem_escapeValue hc
  | false =>
    rcases mem_settle_escaped (h.settles single) hc with ⟨old, bracket, -⟩ | new
    · exact Or.inl ⟨old, bracket⟩
    · exact Or.inr new

theorem bracket_notMem (h : a.Orderly) : '<' ∉ a.written := by
  intro hm
  rcases h.mem_written hm with ⟨-, off⟩ | new
  · exact off rfl
  · exact absurd new (by decide)

theorem value_written (h : a.Orderly) : ∀ c ∈ a.written, c ∉ ['\r', '\x00'] := by
  intro c hc
  rcases h.mem_written hc with ⟨old, -⟩ | new
  · exact h.value c old
  · have known : ∀ d ∈ valueEscapes, d ∉ ['\r', '\x00'] := forall_mem_of_all (by decide)
    exact known c new

theorem readable (h : a.Orderly) : a.quoted.Readable := h.settles.readable h.named h.tight

theorem reread (h : a.Orderly) : a.reread.Orderly := by
  refine ⟨h.named, h.tight, h.small, h.plain, h.value_written, ?_, ?_⟩
  · cases single : a.single with
    | true =>
      intro e
      have quote := (quotes_of_single ((single_reread a).trans single)).1
      rw [← List.contains_iff_mem, ← contains_escapeValue (Or.inl rfl),
        ← written_of_single ((single_reread a).trans single), e] at quote
      exact absurd quote (by decide)
    | false =>
      rw [written_reread single]
      exact h.open'
  · intro double
    rw [single_reread] at double
    exact ⟨a.written, settle_settled (h.settles double)⟩

end Attribute.Orderly

/-! ### Orderly again -/

theorem Tree.isText_reread (t : Tree) : t.reread.isText = t.isText := by
  cases t with
  | text s => rfl
  | comment => rfl
  | element name vocabulary attributes children => rfl

theorem Tree.head?_allReread (ts : List Tree) :
    (Tree.allReread ts).head? = ts.head?.map Tree.reread := by
  cases ts with
  | nil => rfl
  | cons t ts => rfl

theorem Tree.orderly_withoutBreak {path : List String} {ts : List Tree}
    (h : Tree.AllOrderly p path ts) : Tree.AllOrderly p path (Tree.withoutBreak ts) := by
  cases starts : Tree.startsWithBreak ts with
  | false =>
    rw [Tree.withoutBreak_of_not starts]
    exact h
  | true =>
    obtain ⟨s, rest, rfl⟩ := Tree.startsWithBreak_iff.1 starts
    rw [Tree.AllOrderly, Tree.Orderly] at h
    obtain ⟨⟨-, plain, clear⟩, later, separate⟩ := h
    rw [Tree.withoutBreak]
    cases s with
    | nil => exact later
    | cons c s =>
      rw [Writer.writtenText_space_cons (by decide)] at clear
      have text : Tree.ofText (c :: s) ++ rest = .text (c :: s) :: rest := rfl
      rw [text, Tree.AllOrderly, Tree.Orderly]
      exact ⟨⟨List.cons_ne_nil c s, fun hm => plain (List.mem_cons_of_mem _ hm),
        @Writer.Clear.right ['\n'] _ clear⟩, later, separate⟩

mutual

theorem Tree.orderly_reread : ∀ (t : Tree) {path : List String}, t.Orderly p path →
    t.reread.Orderly p path
  | .text s, path, h => by
    rw [Tree.Orderly] at h
    rw [Tree.reread, Tree.Orderly, Writer.writtenText_writtenText]
    exact ⟨Writer.writtenText_ne_nil h.1, Writer.return_notMem_writtenText h.2.1, h.2.2⟩
  | .comment, path, h => by
    rw [Tree.Orderly] at h
    exact h.elim
  | .element name vocabulary attributes children, path, h => by
    rw [Tree.Orderly] at h
    obtain ⟨nested, attributed, void, inside⟩ := h
    obtain ⟨orderly, nodup⟩ := attributed
    have again := Tree.allOrderly_reread children inside
    have names : (attributes.map Attribute.reread).map Attribute.name =
        attributes.map Attribute.name := by
      rw [List.map_map]
      rfl
    rw [Tree.reread, Tree.Orderly, names]
    refine ⟨nested, ⟨?_, nodup⟩, ?_, ?_⟩
    · intro a ha
      obtain ⟨b, hb, rfl⟩ := List.mem_map.1 ha
      exact (orderly b hb).reread
    · intro empty
      rw [void empty, Tree.allReread]
      split <;> rfl
    · split
      · exact Tree.orderly_withoutBreak again
      · exact again

theorem Tree.allOrderly_reread : ∀ (ts : List Tree) {path : List String}, Tree.AllOrderly p path ts →
    Tree.AllOrderly p path (Tree.allReread ts)
  | [], path, h => by
    rw [Tree.allReread]
    exact h
  | t :: rest, path, h => by
    rw [Tree.AllOrderly] at h
    rw [Tree.allReread, Tree.AllOrderly]
    refine ⟨Tree.orderly_reread t h.1, Tree.allOrderly_reread rest h.2.1, ?_⟩
    intro text u hu
    rw [Tree.isText_reread] at text
    rw [Tree.head?_allReread] at hu
    obtain ⟨v, hv, rfl⟩ := Option.map_eq_some_iff.1 hu
    rw [Tree.isText_reread]
    exact h.2.2 text v hv

end

/-! ### Filtering -/

theorem QualifiedName.ofText_plain {name : String} (h : '\x7b' ∉ name.toList) :
    QualifiedName.ofText name = ⟨none, name⟩ := by
  unfold QualifiedName.ofText
  split
  · rename_i r hr
    rw [hr] at h
    exact absurd List.mem_cons_self h
  · rfl

theorem Policy.attributes_reread {as : List Attribute} (h : ∀ a ∈ as, a.Orderly)
    (kept : ∀ a ∈ as, p.value? ⟨none, a.name⟩ a.written = .ok (some a.written)) :
    p.attributes (as.map Attribute.reread) = .ok (as.map Attribute.reread) := by
  induction as with
  | nil => rfl
  | cons a as ih =>
    have brace : '\x7b' ∉ a.name.toList :=
      fun hm => (h a List.mem_cons_self).plain _ hm (by decide)
    have name : QualifiedName.ofText a.reread.name = ⟨none, a.name⟩ := QualifiedName.ofText_plain brace
    have value : p.value? ⟨none, a.name⟩ a.reread.value = .ok (some a.written) :=
      kept a List.mem_cons_self
    rw [List.map_cons, Policy.attributes, name]
    dsimp only
    rw [value, ih (fun b hb => h b (List.mem_cons_of_mem _ hb))
      fun b hb => kept b (List.mem_cons_of_mem _ hb)]
    rfl

theorem Policy.filter_withoutBreak {ts : List Tree} (h : p.filter ts = .ok ts) :
    p.filter (Tree.withoutBreak ts) = .ok (Tree.withoutBreak ts) := by
  cases starts : Tree.startsWithBreak ts with
  | false =>
    rw [Tree.withoutBreak_of_not starts]
    exact h
  | true =>
    obtain ⟨s, rest, rfl⟩ := Tree.startsWithBreak_iff.1 starts
    rw [Policy.filter, Policy.filterTree] at h
    obtain ⟨first, one, h⟩ := ok_of_bind h
    obtain ⟨others, inner, h⟩ := ok_of_bind h
    rw [← Except.ok.inj one] at h
    have same : others = rest := List.append_cancel_left (Except.ok.inj h)
    rw [same] at inner
    rw [Tree.withoutBreak]
    cases s with
    | nil => exact inner
    | cons c s =>
      have text : Tree.ofText (c :: s) ++ rest = .text (c :: s) :: rest := rfl
      rw [text, Policy.filter, Policy.filterTree, inner]
      rfl

mutual

theorem Policy.filterTree_reread : ∀ (t : Tree) {path : List String}, t.Orderly p path →
    t.Kept p → p.filterTree t.reread = .ok [t.reread]
  | .text s, _, _, _ => by
    rw [Tree.reread, Policy.filterTree]
  | .comment, _, h, _ => by
    rw [Tree.Orderly] at h
    exact h.elim
  | .element name vocabulary attributes children, path, h, kept => by
    rw [Tree.Orderly] at h
    rw [Tree.Kept] at kept
    obtain ⟨⟨-, keeps, -⟩, ⟨orderly, -⟩, -, inside⟩ := h
    have inner := Policy.filter_reread children inside kept.2
    have whole : p.filter (if name = "pre" then Tree.withoutBreak (Tree.allReread children)
        else Tree.allReread children) = .ok (if name = "pre" then
          Tree.withoutBreak (Tree.allReread children) else Tree.allReread children) := by
      split
      · exact Policy.filter_withoutBreak inner
      · exact inner
    rw [Tree.reread, Policy.filterTree, if_pos keeps, Policy.attributes_reread orderly kept.1, whole]
    rfl

/-- What orderly trees are read back as stays as it is, if the policy keeps the values written. -/
theorem Policy.filter_reread : ∀ (ts : List Tree) {path : List String}, Tree.AllOrderly p path ts →
    Tree.AllKept p ts → p.filter (Tree.allReread ts) = .ok (Tree.allReread ts)
  | [], _, _, _ => by
    rw [Tree.allReread, Policy.filter]
  | t :: rest, path, h, kept => by
    rw [Tree.AllOrderly] at h
    rw [Tree.AllKept] at kept
    rw [Tree.allReread, Policy.filter, Policy.filterTree_reread t h.1 kept.1,
      Policy.filter_reread rest h.2.1 kept.2]
    rfl

end

/-! ### Writing -/

namespace Writer

/-- The value is joined to what is written for it. -/
theorem join_value {a : Attribute} (h : a.Orderly) {ps : List (List Char)} {out : List Char}
    (hp : join true false ps = .ok out) :
    join true true ([a.quoted.quote] ::
      (if a.single then escapeValue a.value else escapeQuotes (escapeValue a.value)) ::
        [a.quoted.quote] :: ps) =
      .ok (a.quoted.quote :: (a.written ++ (a.quoted.quote :: out))) := by
  cases single : a.single with
  | true =>
    have last : join true false (['\''] :: ps) = .ok (['\''] ++ out) := join_next (by decide) hp
    have value : join true false (escapeValue a.value :: ['\''] :: ps) =
        .ok (escapeValue a.value ++ (['\''] ++ out)) := by
      refine join_next (Attribute.escapeValue_ne single (by decide)) ?_
      rw [decide_eq_false (Attribute.escapeValue_ne single (by decide))]
      exact last
    rw [Attribute.quote_of_single single, if_pos rfl, join_settled (by decide) (by decide) (settle_of_notMem (by decide)) value,
      Attribute.written_of_single single]
    rfl
  | false =>
    have quote := Attribute.quote_of_double single
    have settled := h.settles single
    have other : ∀ d, d = '>' ∨ d = '"' → escapeQuotes (escapeValue a.value) ≠ [d] := by
      intro d hd e
      rw [e] at settled
      rcases hd with rfl | rfl
      · exact h.open' (Except.ok.inj settled).symm
      · have closed := h.settles.closed
        rw [quote] at closed
        have same : ['"'] = a.written := Except.ok.inj settled
        have inside : '"' ∈ a.written := same ▸ List.mem_cons_self
        exact closed inside
    have last : join true false (['"'] :: ps) = .ok (['"'] ++ out) := join_next (by decide) hp
    have value : join true true (escapeQuotes (escapeValue a.value) :: ['"'] :: ps) =
        .ok (a.written ++ (['"'] ++ out)) :=
      join_settled (other _ (Or.inl rfl)) (other _ (Or.inr rfl)) settled last
    rw [quote, if_neg Bool.false_ne_true, join, if_pos rfl, if_neg (by decide), if_pos rfl,
      if_pos rfl, value]
    rfl

theorem join_attribute {a : Attribute} (h : a.Orderly) {ps : List (List Char)}
    {out : List Char} (hp : join true false ps = .ok out) :
    join true false (attributePieces a ++ ps) = .ok (a.quoted.text ++ out) := by
  have name : ∀ d, isNameChar d = false → a.name.toList ≠ [d] := by
    intro d hd e
    have tight := h.tight d (by rw [e]; exact List.mem_cons_self)
    rw [hd] at tight
    cases tight
  have named := @join_next a.name.toList (name _ (by decide)) (['='] :: [a.quoted.quote] ::
    (if a.single then escapeValue a.value else escapeQuotes (escapeValue a.value)) ::
      [a.quoted.quote] :: ps) (['='] ++ (a.quoted.quote :: (a.written ++ (a.quoted.quote :: out)))) (by
    rw [decide_eq_false (name _ (by decide))]
    exact join_next (by decide) (join_value h hp))
  have whole := @join_next [' '] (by decide) _ _ named
  rw [attributePieces_eq]
  rw [List.cons_append, List.cons_append, List.cons_append, List.cons_append, List.cons_append,
    List.cons_append, List.nil_append, whole]
  simp [Attribute.quoted, Quoted.text]

theorem join_attributes {as : List Attribute} (h : ∀ a ∈ as, a.Orderly)
    {ps : List (List Char)} {out : List Char} (hp : join true false ps = .ok out) :
    join true false (as.flatMap attributePieces ++ ps) =
      .ok ((as.map Attribute.quoted).flatMap Quoted.text ++ out) := by
  induction as with
  | nil => exact hp
  | cons a as ih =>
    rw [List.flatMap_cons, List.append_assoc, List.map_cons, List.flatMap_cons, List.append_assoc]
    exact join_attribute (h a List.mem_cons_self) (ih fun b hb => h b (List.mem_cons_of_mem _ hb))

/-- From a piece with an opening bracket on the writer takes itself to be in a tag. -/
theorem join_bracket {q : List Char} (plain : '&' ∉ q) {ps : List (List Char)} {out : List Char}
    (hp : join true false ps = .ok out) {b v : Bool} (hv : v = true → b = true) :
    join b v (('<' :: q) :: ps) = .ok ('<' :: q ++ out) := by
  have other : ∀ d, d ≠ '<' → '<' :: q ≠ [d] := fun d hd e => hd (List.cons.inj e).1.symm
  have plain' : '&' ∉ '<' :: q := by
    intro hm
    rcases List.mem_cons.1 hm with hm | hm
    · cases hm
    · exact plain hm
  cases b with
  | false =>
    have off : v = false := Bool.eq_false_iff.2 fun e => by cases hv e
    have head : decide (('<' :: q).head? = some '<') = true := decide_eq_true rfl
    rw [join, if_neg Bool.false_ne_true, head, off, hp]
    rfl
  | true =>
    cases v with
    | false =>
      refine join_next (other _ (by decide)) ?_
      rw [decide_eq_false (other _ (by decide))]
      exact hp
    | true =>
      exact join_settled (other _ (by decide)) (other _ (by decide)) (settle_of_notMem plain') hp

theorem join_opening {p : Policy} {name : String} (kept : p.keepsElement name = true)
    {as : List Attribute} (h : ∀ a ∈ as, a.Orderly) {ps : List (List Char)} {out : List Char}
    (hp : join false false ps = .ok out) {b v : Bool} (hv : v = true → b = true) :
    join b v (('<' :: name.toList) :: (as.flatMap attributePieces ++ ['>'] :: ps)) =
      .ok (openingMarkup name as out) := by
  have close : join true false (['>'] :: ps) = .ok (['>'] ++ out) := by
    rw [join, if_pos rfl, if_pos rfl, hp]
    rfl
  rw [join_bracket (ampersand_notMem_name kept) (join_attributes h close) hv]
  simp [openingMarkup]

theorem join_closing {p : Policy} {name : String} (kept : p.keepsElement name = true)
    {ps : List (List Char)} {out : List Char} (hp : join true false ps = .ok out) {b v : Bool}
    (hv : v = true → b = true) :
    join b v (('<' :: '/' :: name.toList ++ ['>']) :: ps) = .ok (closingMarkup name out) := by
  have plain : '&' ∉ '/' :: name.toList ++ ['>'] := by
    have bare := ampersand_notMem_name kept
    simp [bare]
  have whole := join_bracket plain hp hv
  rw [List.cons_append] at whole
  rw [List.cons_append, List.cons_append, whole]
  simp [closingMarkup]

mutual

/-- The next piece after an element is never settled; after a text it may be. -/
theorem join_treePieces {p : Policy} : ∀ (t : Tree) {path : List String}, t.Orderly p path →
    ∀ {ps : List (List Char)} {out : List Char}, (∀ b v, (v = true → b = true) →
      (v = true → t.isText = true) → join b v ps = .ok out) →
    ∀ {b v : Bool}, (v = true → b = true) → (t.isText = true → v = false) →
      join b v (treePieces t ++ ps) = .ok (t.markup out)
  | .text s, path, h, ps, out, hp, b, v, hv, text => by
    rw [Tree.Orderly] at h
    rw [text rfl, treePieces, Tree.markup]
    exact join_textPieces h.2.2 (fun b v hv => hp b v hv fun _ => rfl) b
  | .comment, path, h, _, _, _, _, _, _, _ => by
    rw [Tree.Orderly] at h
    exact h.elim
  | .element name vocabulary attributes children, path, h, ps, out, hp, b, v, hv, _ => by
    rw [Tree.Orderly] at h
    obtain ⟨⟨page, kept, -⟩, ⟨settled, -⟩, -, inside⟩ := h
    have off : ∀ b, join b false ps = .ok out := fun b => hp b false (fun e => by cases e)
      fun e => by cases e
    rw [treePieces, Tree.markup, page]
    cases empty : emptyElements.contains name with
    | true =>
      have tag := join_opening kept settled (off false) hv
      rw [if_pos rfl, ← tag]
      simp
    | false =>
      have closing : ∀ b v, (v = true → b = true) →
          join b v (('<' :: '/' :: name.toList ++ ['>']) :: ps) = .ok (closingMarkup name out) :=
        fun b v hv => join_closing kept (off true) hv
      have after : join false false
          (pieces children ++ ('<' :: '/' :: name.toList ++ ['>']) :: ps) =
            .ok (Tree.allMarkup children (closingMarkup name out)) :=
        join_pieces children inside closing id fun _ _ _ => rfl
      have tag := join_opening kept settled after hv
      rw [if_neg Bool.false_ne_true, ← tag]
      simp

theorem join_pieces {p : Policy} : ∀ (ts : List Tree) {path : List String},
    Tree.AllOrderly p path ts → ∀ {ps : List (List Char)} {out : List Char},
    (∀ b v, (v = true → b = true) → join b v ps = .ok out) → ∀ {b v : Bool}, (v = true → b = true) →
    (∀ t ∈ ts.head?, t.isText = true → v = false) →
    join b v (pieces ts ++ ps) = .ok (Tree.allMarkup ts out)
  | [], _, _, _, _, hp, b, v, hv, _ => by
    rw [pieces, Tree.allMarkup]
    exact hp b v hv
  | t :: rest, path, h, ps, out, hp, b, v, hv, head => by
    rw [Tree.AllOrderly] at h
    obtain ⟨first, later, separate⟩ := h
    rw [pieces, Tree.allMarkup, List.append_assoc]
    refine join_treePieces t first ?_ hv (head t rfl)
    intro b' v' hv' text
    refine join_pieces rest later hp hv' ?_
    intro u hu textual
    refine Bool.eq_false_iff.2 fun e => ?_
    rw [separate (text e) u hu] at textual
    cases textual

end

/-- Orderly trees are written as their markup. -/
theorem write_orderly {p : Policy} {path : List String} {ts : List Tree}
    (h : Tree.AllOrderly p path ts) : write ts = .ok (Tree.allMarkup ts []) := by
  have whole : join false false (pieces ts ++ []) = .ok (Tree.allMarkup ts []) :=
    join_pieces ts h (fun _ _ _ => rfl) id fun _ _ _ => rfl
  rwa [List.append_nil] at whole

end Writer

/-! ### Containers of raw text -/

theorem removeContainers_append {s : List Char} (h : '<' ∉ s) (t : List Char) :
    removeContainers (s ++ t) = s ++ removeContainers t := by
  induction s with
  | nil => rfl
  | cons c s ih =>
    have none' : afterContainer? (c :: (s ++ t)) = none := by
      unfold afterContainer?
      split
      · rename_i heq
        rw [(List.cons.inj heq).1] at h
        exact absurd List.mem_cons_self h
      · rfl
    rw [List.cons_append, removeContainers_cons none', ih fun hm => h (List.mem_cons_of_mem _ hm)]
    rfl

/-- No name of a container starts like this, whatever follows. -/
def apartFromContainers (first : List Char) : Bool :=
  rawContainers.all fun name =>
    (first.take name.length).map Text.foldLetter != name.take first.length

theorem containerName?_of_apart {first : List Char} (h : apartFromContainers first = true)
    (s : List Char) : containerName? (first ++ s) = none := by
  unfold containerName?
  rw [List.findSome?_eq_none_iff]
  intro name hname
  have apart := List.all_eq_true.1 h name hname
  rw [bne_iff_ne] at apart
  dsimp only
  rw [List.splitAt_eq]
  refine if_neg ?_
  rintro ⟨same, -⟩
  apply apart
  have both : ((first ++ s).take name.length).take first.length = first.take name.length := by
    rw [List.take_take, Nat.min_comm, ← List.take_take, List.take_left]
  rw [← both, List.map_take, same]

theorem removeContainers_bracket {first : List Char} (h : apartFromContainers first = true)
    (s : List Char) :
    removeContainers ('<' :: (first ++ s)) = '<' :: removeContainers (first ++ s) := by
  refine removeContainers_cons ?_
  rw [afterContainer?, containerName?_of_apart h]

theorem bracket_notMem_name {name : String} (kept : p.keepsElement name = true) :
    '<' ∉ name.toList := by
  have known : ∀ n ∈ contentElements ++ formElements, '<' ∉ n.toList := by decide
  exact known name (mem_of_keepsElement kept)

theorem apart_name {name : String} (kept : p.keepsElement name = true) {c : Char}
    (hc : c = ' ' ∨ c = '>') : apartFromContainers (name.toList ++ [c]) = true := by
  have known : ∀ n ∈ contentElements ++ formElements,
      apartFromContainers (n.toList ++ [' ']) = true ∧
        apartFromContainers (n.toList ++ ['>']) = true := by decide +kernel
  rcases hc with rfl | rfl
  · exact (known name (mem_of_keepsElement kept)).1
  · exact (known name (mem_of_keepsElement kept)).2

theorem Quoted.notMem_text {a : Quoted} (readable : a.Readable) {c : Char} (name : c ∉ a.name)
    (value : c ∉ a.value) (other : c ∉ [' ', '=', '"', '\'']) : c ∉ a.text := by
  simp only [List.mem_cons, List.not_mem_nil, or_false, not_or] at other
  obtain ⟨space, equals, double, single⟩ := other
  have quote : c ≠ a.quote := by
    rcases readable.quoted with e | e
    · rwa [e]
    · rwa [e]
  simp [Quoted.text, name, value, quote, space, equals]

theorem Attribute.Orderly.bracket {a : Attribute} (h : a.Orderly) : '<' ∉ a.quoted.text :=
  Quoted.notMem_text h.readable (fun hm => h.plain _ hm (by decide)) h.bracket_notMem (by decide)

theorem bracket_notMem_attributes {as : List Attribute} (h : ∀ a ∈ as, a.Orderly) :
    '<' ∉ (as.map Attribute.quoted).flatMap Quoted.text := by
  intro hm
  obtain ⟨q, hq, hm⟩ := List.mem_flatMap.1 hm
  obtain ⟨a, ha, rfl⟩ := List.mem_map.1 hq
  exact (h a ha).bracket hm

theorem removeContainers_opening {name : String} (kept : p.keepsElement name = true)
    {as : List Attribute} (h : ∀ a ∈ as, a.Orderly) (s : List Char) :
    removeContainers (openingMarkup name as s) = openingMarkup name as (removeContainers s) := by
  obtain ⟨c, r, hc, next⟩ : ∃ c r, (c = ' ' ∨ c = '>') ∧
      (as.map Attribute.quoted).flatMap Quoted.text ++ '>' :: s = c :: r := by
    cases as with
    | nil => exact ⟨'>', s, Or.inr rfl, rfl⟩
    | cons a as => exact ⟨' ', _, Or.inl rfl, rfl⟩
  have plain : '<' ∉ name.toList ++ ((as.map Attribute.quoted).flatMap Quoted.text ++ ['>']) := by
    have name := bracket_notMem_name kept
    have attributes := bracket_notMem_attributes h
    simp only [List.mem_append, not_or]
    exact ⟨name, attributes, by decide⟩
  have layout : ∀ t, name.toList ++ ((as.map Attribute.quoted).flatMap Quoted.text ++ '>' :: t) =
      (name.toList ++ ((as.map Attribute.quoted).flatMap Quoted.text ++ ['>'])) ++ t := by
    intro t
    simp
  have start : name.toList ++ ((as.map Attribute.quoted).flatMap Quoted.text ++ '>' :: s) =
      (name.toList ++ [c]) ++ r := by
    rw [next]
    simp
  rw [openingMarkup, start, removeContainers_bracket (apart_name kept hc), ← start, layout,
    removeContainers_append plain, ← layout]
  rfl

theorem removeContainers_closing {name : String} (kept : p.keepsElement name = true)
    (s : List Char) :
    removeContainers (closingMarkup name s) = closingMarkup name (removeContainers s) := by
  have plain : '<' ∉ '/' :: (name.toList ++ ['>']) := by
    have name := bracket_notMem_name kept
    simp [name]
  have layout : ∀ t, '/' :: (name.toList ++ '>' :: t) = ('/' :: (name.toList ++ ['>'])) ++ t := by
    intro t
    simp
  have first : apartFromContainers ['/'] = true := by decide
  have start := removeContainers_bracket first (name.toList ++ '>' :: s)
  have inner : removeContainers ('/' :: (name.toList ++ '>' :: s)) =
      '/' :: (name.toList ++ '>' :: removeContainers s) := by
    rw [layout, removeContainers_append plain, ← layout]
  exact start.trans (congrArg ('<' :: ·) inner)

mutual

theorem Tree.removeContainers_markup : ∀ (t : Tree) {path : List String}, t.Orderly p path →
    ∀ s : List Char, removeContainers (t.markup s) = t.markup (removeContainers s)
  | .text u, _, _, s => by
    have plain : '<' ∉ Writer.writtenText u := by
      intro hm
      obtain ⟨q, hq, hm⟩ := List.mem_flatten.1 hm
      exact Writer.bracket_notMem_textPieces u q hq hm
    rw [Tree.markup, Tree.markup, removeContainers_append plain]
  | .comment, _, h, _ => by
    rw [Tree.Orderly] at h
    exact h.elim
  | .element name vocabulary attributes children, _, h, s => by
    rw [Tree.Orderly] at h
    obtain ⟨⟨-, kept, -⟩, ⟨settled, -⟩, -, inside⟩ := h
    rw [Tree.markup, Tree.markup, removeContainers_opening kept settled]
    split
    · rfl
    · rw [Tree.removeContainers_allMarkup children inside, removeContainers_closing kept]

theorem Tree.removeContainers_allMarkup : ∀ (ts : List Tree) {path : List String},
    Tree.AllOrderly p path ts →
    ∀ s : List Char, removeContainers (Tree.allMarkup ts s) = Tree.allMarkup ts (removeContainers s)
  | [], _, _, s => by
    rw [Tree.allMarkup, Tree.allMarkup]
  | t :: rest, _, h, s => by
    rw [Tree.AllOrderly] at h
    rw [Tree.allMarkup, Tree.allMarkup, Tree.removeContainers_markup t h.1,
      Tree.removeContainers_allMarkup rest h.2.1]

end

/-- There are no containers in the markup of orderly trees. -/
theorem stripContainers_orderly {path : List String} {ts : List Tree}
    (h : Tree.AllOrderly p path ts) :
    stripContainers (Tree.allMarkup ts []) = Tree.allMarkup ts [] := by
  have same : removeContainers (Tree.allMarkup ts []) = Tree.allMarkup ts [] := by
    rw [Tree.removeContainers_allMarkup ts h, removeContainers]
  rw [stripContainers, same]
  exact if_neg (Nat.lt_irrefl _)

/-! ### Line breaks -/

theorem Attribute.Orderly.return {a : Attribute} (h : a.Orderly) : '\r' ∉ a.quoted.text :=
  Quoted.notMem_text h.readable (return_notMem (by decide) h.tight)
    (fun hm => h.value_written _ hm (by decide)) (by decide)

theorem return_notMem_name {name : String} (kept : p.keepsElement name = true) :
    '\r' ∉ name.toList := by
  have known : ∀ n ∈ contentElements ++ formElements, '\r' ∉ n.toList := by decide
  exact known name (mem_of_keepsElement kept)

theorem return_notMem_opening {name : String} (kept : p.keepsElement name = true)
    {as : List Attribute} (h : ∀ a ∈ as, a.Orderly) {s : List Char} (hs : '\r' ∉ s) :
    '\r' ∉ openingMarkup name as s := by
  have attributes : '\r' ∉ (as.map Attribute.quoted).flatMap Quoted.text := by
    intro hm
    obtain ⟨q, hq, hm⟩ := List.mem_flatMap.1 hm
    obtain ⟨a, ha, rfl⟩ := List.mem_map.1 hq
    exact (h a ha).return hm
  simp only [openingMarkup, List.mem_cons, List.mem_append, not_or]
  exact ⟨by decide, return_notMem_name kept, attributes, by decide, hs⟩

theorem return_notMem_closing {name : String} (kept : p.keepsElement name = true)
    {s : List Char} (hs : '\r' ∉ s) : '\r' ∉ closingMarkup name s := by
  simp only [closingMarkup, List.mem_cons, List.mem_append, not_or]
  exact ⟨by decide, by decide, return_notMem_name kept, by decide, hs⟩

mutual

theorem Tree.return_notMem_markup : ∀ (t : Tree) {path : List String}, t.Orderly p path →
    ∀ {s : List Char}, '\r' ∉ s → '\r' ∉ t.markup s
  | .text u, _, h, s, hs => by
    rw [Tree.Orderly] at h
    rw [Tree.markup, List.mem_append, not_or]
    exact ⟨Writer.return_notMem_writtenText h.2.1, hs⟩
  | .comment, _, h, _, _ => by
    rw [Tree.Orderly] at h
    exact h.elim
  | .element name vocabulary attributes children, _, h, s, hs => by
    rw [Tree.Orderly] at h
    obtain ⟨⟨-, kept, -⟩, ⟨settled, -⟩, -, inside⟩ := h
    rw [Tree.markup]
    refine return_notMem_opening kept settled ?_
    split
    · exact hs
    · exact Tree.return_notMem_allMarkup children inside (return_notMem_closing kept hs)

theorem Tree.return_notMem_allMarkup : ∀ (ts : List Tree) {path : List String},
    Tree.AllOrderly p path ts → ∀ {s : List Char}, '\r' ∉ s → '\r' ∉ Tree.allMarkup ts s
  | [], _, _, s, hs => by
    rw [Tree.allMarkup]
    exact hs
  | t :: rest, _, h, s, hs => by
    rw [Tree.AllOrderly] at h
    rw [Tree.allMarkup]
    exact Tree.return_notMem_markup t h.1 (Tree.return_notMem_allMarkup rest h.2.1 hs)

end

theorem normalizeBreaks_orderly {path : List String} {ts : List Tree}
    (h : Tree.AllOrderly p path ts) :
    normalizeBreaks (Tree.allMarkup ts []) = Tree.allMarkup ts [] := by
  have same := normalizeBreaks_append
    (Tree.return_notMem_allMarkup ts h (List.not_mem_nil)) []
  rwa [List.append_nil, normalizeBreaks, List.append_nil] at same

end PageSkins.Markup
