import Mathlib.Data.List.TakeWhile
import PageSkins.Markup.Writer
import PageSkins.Proofs.Markup.References

/-!
# Text that is written

Text is written as characters that need no escaping and as references that read
again. Written text is written as itself: escaping it once more finds nothing to
escape.
-/

namespace PageSkins.Markup.Writer

open Reference

/-! ### The middle of a text -/

def escapeText (s : List Char) : List Char := s.flatMap escapeChar

/-- What is written for a part that starts with an ampersand. -/
def writtenPart : List Char → List Char
  | '&' :: r =>
    match body? r with
    | none => escapeText ('&' :: r)
    | some body => '&' :: (body ++ ';' :: escapeText (r.drop (body.length + 1)))
  | s => escapeText s

def writtenRuns (s : List Char) : List Char :=
  escapeText (splitAmpersands s).1 ++ (splitAmpersands s).2.flatMap writtenPart

theorem escapeText_append (s t : List Char) :
    escapeText (s ++ t) = escapeText s ++ escapeText t := List.flatMap_append

theorem flatten_chars (s : List Char) : (Run.chars s).pieces.flatten = escapeText s := by
  unfold Run.pieces
  cases s with
  | nil => rfl
  | cons c s => exact List.append_nil _

theorem flatten_runCons (s : List Char) (rs : List Run) :
    ((Run.cons s rs).flatMap Run.pieces).flatten =
      escapeText s ++ (rs.flatMap Run.pieces).flatten := by
  unfold Run.cons
  split
  · rw [List.flatMap_cons, List.flatMap_cons, List.flatten_append, List.flatten_append,
      flatten_chars, flatten_chars, escapeText_append, List.append_assoc]
  · split
    · rename_i empty
      rw [List.isEmpty_iff.1 empty]
      rfl
    · rw [List.flatMap_cons, List.flatten_append, flatten_chars]

theorem flatten_ofPart (part : List Char) (rs : List Run) :
    ((Run.ofPart part rs).flatMap Run.pieces).flatten =
      writtenPart part ++ (rs.flatMap Run.pieces).flatten := by
  by_cases amp : ∃ r, part = '&' :: r
  · obtain ⟨r, rfl⟩ := amp
    cases hb : body? r with
    | none =>
      simp only [Run.ofPart, writtenPart, hb]
      exact flatten_runCons _ _
    | some body =>
      simp only [Run.ofPart, writtenPart, hb]
      split
      · rename_i same
        rw [flatten_runCons, flatten_runCons, same]
        simp [escapeText, escapeChar]
      · rw [List.flatMap_cons, List.flatten_append, flatten_runCons]
        simp [Run.pieces]
  · have run : Run.ofPart part rs = Run.cons part rs := by
      unfold Run.ofPart
      split
      · rename_i r
        exact absurd ⟨r, rfl⟩ amp
      · rfl
    have plain : writtenPart part = escapeText part := by
      unfold writtenPart
      split
      · rename_i r
        exact absurd ⟨r, rfl⟩ amp
      · rfl
    rw [run, plain, flatten_runCons]

theorem flatten_runs (s : List Char) : ((runs s).flatMap Run.pieces).flatten = writtenRuns s := by
  have later : ∀ parts : List (List Char),
      ((parts.foldr Run.ofPart []).flatMap Run.pieces).flatten = parts.flatMap writtenPart := by
    intro parts
    induction parts with
    | nil => rfl
    | cons part parts ih => rw [List.foldr_cons, flatten_ofPart, ih, List.flatMap_cons]
  unfold runs writtenRuns
  dsimp only
  rw [flatten_runCons, later]

theorem writtenRuns_cons {c : Char} (h : c ≠ '&') (s : List Char) :
    writtenRuns (c :: s) = escapeChar c ++ writtenRuns s := by
  simp [writtenRuns, splitAmpersands, h, escapeText]

/-- Characters that need no escaping, and references that read again. -/
inductive Escaped : List Char → Prop
  | nil : Escaped []
  | char {c : Char} {s : List Char} (plain : escapeChar c = [c]) (rest : Escaped s) : Escaped (c :: s)
  | reference {body s : List Char} (reads : Reads body) (stop : ∀ c ∈ body, isStop c = false)
      (rest : Escaped s) : Escaped ('&' :: (body ++ ';' :: s))

theorem escapeChar_cases (c : Char) :
    (c = '&' ∨ c = '<' ∨ c = '>') ∨ escapeChar c = [c] := by
  unfold escapeChar
  split
  · exact Or.inl (Or.inl rfl)
  · exact Or.inl (Or.inr (Or.inl rfl))
  · exact Or.inl (Or.inr (Or.inr rfl))
  · exact Or.inr rfl

theorem Escaped.escapeText {s : List Char} (h : Escaped s) (t : List Char) :
    Escaped (escapeText t ++ s) := by
  induction t with
  | nil => exact h
  | cons c t ih =>
    have first : Writer.escapeText (c :: t) ++ s = escapeChar c ++ (Writer.escapeText t ++ s) := by
      simp [Writer.escapeText]
    rw [first]
    rcases escapeChar_cases c with (rfl | rfl | rfl) | plain
    · exact Escaped.reference reads_amp (forall_mem_of_all (by decide)) ih
    · exact Escaped.reference reads_lt (forall_mem_of_all (by decide)) ih
    · exact Escaped.reference reads_gt (forall_mem_of_all (by decide)) ih
    · rw [plain]
      exact Escaped.char plain ih

theorem Escaped.writtenPart {s : List Char} (h : Escaped s) (part : List Char) :
    Escaped (writtenPart part ++ s) := by
  unfold Writer.writtenPart
  split
  · rename_i r
    split
    · exact h.escapeText _
    · rename_i body hb
      have rest := h.escapeText (r.drop (body.length + 1))
      have written := Escaped.reference (reads_of_body? hb) (body?_some hb).2 rest
      simpa using written
  · exact h.escapeText _

theorem escaped_writtenRuns (s : List Char) : Escaped (writtenRuns s) := by
  have later : ∀ parts : List (List Char), Escaped (parts.flatMap Writer.writtenPart) := by
    intro parts
    induction parts with
    | nil => exact Escaped.nil
    | cons part parts ih => exact ih.writtenPart part
  exact (later _).escapeText _

theorem ampersand_notMem_body {body : List Char} (stop : ∀ c ∈ body, isStop c = false) :
    '&' ∉ body ++ [';'] := by
  intro hm
  rcases List.mem_append.1 hm with hm | hm
  · exact absurd (stop _ hm) (by decide)
  · exact absurd hm (by decide)

theorem writtenRuns_reference {body : List Char} (reads : Reads body)
    (stop : ∀ c ∈ body, isStop c = false) (s : List Char) :
    writtenRuns ('&' :: (body ++ ';' :: s)) = '&' :: (body ++ ';' :: writtenRuns s) := by
  have layout : body ++ ';' :: s = (body ++ [';']) ++ s := by simp
  have split : splitAmpersands ('&' :: (body ++ ';' :: s)) =
      ([], ('&' :: (body ++ ';' :: (splitAmpersands s).1)) :: (splitAmpersands s).2) := by
    rw [layout, splitAmpersands, splitAmpersands_append (ampersand_notMem_body stop)]
    simp
  have part : writtenPart ('&' :: (body ++ ';' :: (splitAmpersands s).1)) =
      '&' :: (body ++ ';' :: escapeText (splitAmpersands s).1) := by
    have rest : (body ++ ';' :: (splitAmpersands s).1).drop (body.length + 1) =
        (splitAmpersands s).1 := by
      rw [← List.drop_drop, List.drop_left]
      rfl
    simp only [writtenPart, reads _, rest]
  unfold writtenRuns
  rw [split]
  dsimp only
  rw [List.flatMap_cons, part]
  simp [escapeText]

/-- Written text is written as itself. -/
theorem writtenRuns_of_escaped {s : List Char} (h : Escaped s) : writtenRuns s = s := by
  induction h with
  | nil => rfl
  | @char c s plain rest ih =>
    have apart : c ≠ '&' := by
      rintro rfl
      exact absurd plain (by decide)
    rw [writtenRuns_cons apart, ih, plain]
    rfl
  | reference reads stop rest ih => rw [writtenRuns_reference reads stop, ih]

/-! ### White space at the ends -/

/-- The first text ends like the second, or with a semicolon. -/
structure EndsLike (w s : List Char) : Prop where
  empty : w = [] → s = []
  last : ∀ c, w.getLast? = some c → c = ';' ∨ s.getLast? = some c

theorem EndsLike.append {w s w' s' : List Char} (h : EndsLike w s) (h' : EndsLike w' s') :
    EndsLike (w ++ w') (s ++ s') := by
  refine ⟨?_, ?_⟩
  · intro empty
    obtain ⟨left, right⟩ := List.append_eq_nil_iff.1 empty
    rw [h.empty left, h'.empty right]
    rfl
  · intro c hc
    cases hw : w'.getLast? with
    | none =>
      have nil := List.getLast?_eq_none_iff.1 hw
      rw [nil, List.append_nil] at hc
      rw [h'.empty nil, List.append_nil]
      exact h.last c hc
    | some d =>
      rw [List.getLast?_append, hw] at hc
      cases hc
      rcases h'.last _ hw with semicolon | same
      · exact Or.inl semicolon
      · right
        rw [List.getLast?_append, same]
        rfl

theorem EndsLike.refl {s : List Char} : EndsLike s s := ⟨id, fun _ h => Or.inr h⟩

theorem EndsLike.semicolon (w s : List Char) : EndsLike (w ++ [';']) s := by
  refine ⟨fun empty => absurd empty (by simp), fun c hc => Or.inl ?_⟩
  rw [List.getLast?_concat] at hc
  exact (Option.some.inj hc).symm

theorem endsLike_escapeText (s : List Char) : EndsLike (escapeText s) s := by
  induction s with
  | nil => exact .refl
  | cons c s ih =>
    have first : EndsLike (escapeChar c) [c] := by
      rcases escapeChar_cases c with (h | h | h) | plain
      · rw [h]
        exact .semicolon "&amp".toList _
      · rw [h]
        exact .semicolon "&lt".toList _
      · rw [h]
        exact .semicolon "&gt".toList _
      · rw [plain]
        exact .refl
    exact first.append ih

theorem endsLike_writtenPart (part : List Char) : EndsLike (writtenPart part) part := by
  unfold writtenPart
  split
  · rename_i r
    split
    · exact endsLike_escapeText _
    · rename_i body _
      have reference := EndsLike.semicolon ('&' :: body) ('&' :: r.take (body.length + 1))
      have whole := reference.append (endsLike_escapeText (r.drop (body.length + 1)))
      simpa using whole
  · exact endsLike_escapeText _

theorem endsLike_writtenRuns (s : List Char) : EndsLike (writtenRuns s) s := by
  have later : ∀ parts : List (List Char), EndsLike (parts.flatMap writtenPart) parts.flatten := by
    intro parts
    induction parts with
    | nil => exact .refl
    | cons part parts ih => exact (endsLike_writtenPart part).append ih
  have whole := (endsLike_escapeText (splitAmpersands s).1).append (later (splitAmpersands s).2)
  rw [splitAmpersands_flatten] at whole
  exact whole

theorem head_writtenPart (r : List Char) : ∃ t, writtenPart ('&' :: r) = '&' :: t := by
  cases hb : body? r with
  | none => exact ⟨'a' :: 'm' :: 'p' :: ';' :: escapeText r, by simp only [writtenPart, hb]; rfl⟩
  | some body =>
    exact ⟨body ++ ';' :: escapeText (r.drop (body.length + 1)), by simp only [writtenPart, hb]⟩

/-- Written text begins with no white space if the text does not. -/
theorem head_writtenRuns {c : Char} (h : isSpace c = false) (s : List Char) :
    ∃ d r, writtenRuns (c :: s) = d :: r ∧ isSpace d = false := by
  by_cases amp : c = '&'
  · subst amp
    obtain ⟨t, ht⟩ := head_writtenPart (splitAmpersands s).1
    refine ⟨'&', t ++ (splitAmpersands s).2.flatMap writtenPart, ?_, by decide⟩
    simp only [writtenRuns, splitAmpersands, if_true, List.flatMap_cons, ht]
    rfl
  · rw [writtenRuns_cons amp]
    rcases escapeChar_cases c with (rfl | rfl | rfl) | plain
    · exact ⟨'&', _, rfl, by decide⟩
    · exact ⟨'&', _, rfl, by decide⟩
    · exact ⟨'&', _, rfl, by decide⟩
    · rw [plain]
      exact ⟨c, _, rfl, h⟩

/-! ### Whole texts -/

def writtenText (s : List Char) : List Char := (textPieces s).flatten

theorem showControl_plain {c : Char} (h : isControl c = false) : showControl c = c := by
  rw [showControl, h]
  rfl

theorem isControl_showControl (c : Char) : isControl (showControl c) = false := by
  unfold showControl
  split
  · decide
  · rename_i plain
    exact Bool.eq_false_iff.2 plain

theorem isSpace_showControl {c : Char} (h : isSpace c = false) : isSpace (showControl c) = false := by
  unfold showControl
  split
  · decide
  · exact h

theorem flatten_piece (s : List Char) : (piece s).flatten = s := by
  unfold piece
  cases s with
  | nil => rfl
  | cons c s => exact List.append_nil _

/-- The characters that escaping may bring in. -/
def escapes : List Char := "&amp;lt;gt;".toList

theorem mem_escapeText {s : List Char} {c : Char} (h : c ∈ escapeText s) : c ∈ s ∨ c ∈ escapes := by
  have known : ∀ d ∈ ['&', '<', '>'], (escapeChar d).all escapes.contains = true :=
    forall_mem_of_all (by decide)
  obtain ⟨d, hd, hc⟩ := List.mem_flatMap.1 h
  rcases escapeChar_cases d with special | plain
  · have all := List.all_eq_true.1 (known d (by simpa using special)) c hc
    exact Or.inr (List.contains_iff_mem.1 all)
  · rw [plain, List.mem_singleton] at hc
    rw [hc]
    exact Or.inl hd

theorem mem_writtenPart {part : List Char} {c : Char} (h : c ∈ writtenPart part) :
    c ∈ part ∨ c ∈ escapes := by
  unfold writtenPart at h
  split at h
  · rename_i r
    split at h
    · exact mem_escapeText h
    · rename_i body hb
      rcases List.mem_cons.1 h with rfl | h
      · exact Or.inl List.mem_cons_self
      · rcases List.mem_append.1 h with h | h
        · exact Or.inl (List.mem_cons_of_mem _ ((body?_some hb).1.subset h))
        · rcases List.mem_cons.1 h with rfl | h
          · exact Or.inr (by decide)
          · rcases mem_escapeText h with old | new
            · exact Or.inl (List.mem_cons_of_mem _ (List.mem_of_mem_drop old))
            · exact Or.inr new
  · exact mem_escapeText h

theorem mem_writtenRuns {s : List Char} {c : Char} (h : c ∈ writtenRuns s) :
    c ∈ s ∨ c ∈ escapes := by
  have whole := splitAmpersands_flatten s
  rcases List.mem_append.1 h with h | h
  · rcases mem_escapeText h with old | new
    · left
      rw [← whole]
      exact List.mem_append_left _ old
    · exact Or.inr new
  · obtain ⟨part, hp, hc⟩ := List.mem_flatMap.1 h
    rcases mem_writtenPart hc with old | new
    · left
      rw [← whole]
      exact List.mem_append_right _ (List.mem_flatten.2 ⟨part, hp, old⟩)
    · exact Or.inr new

theorem map_showControl_writtenRuns {s : List Char} (h : ∀ c ∈ s, isControl c = false) :
    (writtenRuns s).map showControl = writtenRuns s := by
  have known : ∀ c ∈ escapes, isControl c = false := forall_mem_of_all (by decide)
  have plain : ∀ c ∈ writtenRuns s, showControl c = c := by
    intro c hc
    rcases mem_writtenRuns hc with old | new
    · exact showControl_plain (h c old)
    · exact showControl_plain (known c new)
  exact (List.map_congr_left plain).trans (List.map_id' _)

/-- White space, a middle that has none at its ends, and white space. -/
structure Trimmed (lead middle trail : List Char) : Prop where
  lead : ∀ c ∈ lead, isSpace c = true
  trail : ∀ c ∈ trail, isSpace c = true
  first : ∃ c r, middle = c :: r ∧ isSpace c = false
  last : ∃ r c, middle = r ++ [c] ∧ isSpace c = false

theorem dropWhile_eq_cons {s : List Char} (h : s.dropWhile isSpace ≠ []) :
    ∃ c r, s.dropWhile isSpace = c :: r ∧ isSpace c = false := by
  obtain ⟨c, r, hs⟩ := List.exists_cons_of_ne_nil h
  have first := List.head_dropWhile_not isSpace h
  simp only [hs, List.head_cons] at first
  exact ⟨c, r, hs, first⟩

theorem exists_trimmed {s : List Char} (h : s.dropWhile isSpace ≠ []) :
    ∃ lead middle trail, s = lead ++ middle ++ trail ∧ Trimmed lead middle trail := by
  obtain ⟨c, r, body, hc⟩ := dropWhile_eq_cons h
  have back : (c :: r).reverse.dropWhile isSpace ≠ [] := by
    intro empty
    have space := List.dropWhile_eq_nil_iff.1 empty c (by simp)
    rw [hc] at space
    cases space
  obtain ⟨c', r', middle, hc'⟩ := dropWhile_eq_cons back
  have whole : c :: r = (c' :: r').reverse ++ ((c :: r).reverse.takeWhile isSpace).reverse := by
    rw [← middle, ← List.reverse_append, List.takeWhile_append_dropWhile, List.reverse_reverse]
  refine ⟨s.takeWhile isSpace, (c' :: r').reverse, ((c :: r).reverse.takeWhile isSpace).reverse,
    ?_, ?_, ?_, ?_, ?_⟩
  · rw [List.append_assoc, ← whole, ← body, List.takeWhile_append_dropWhile]
  · exact fun d hd => List.mem_takeWhile_imp hd
  · exact fun d hd => List.mem_takeWhile_imp (List.mem_reverse.1 hd)
  · cases first : (c' :: r').reverse with
    | nil => simp at first
    | cons d t =>
      rw [first, List.cons_append] at whole
      exact ⟨d, t, rfl, by rw [← (List.cons.inj whole).1]; exact hc⟩
  · exact ⟨r'.reverse, c', List.reverse_cons, hc'⟩

theorem writtenText_trimmed {lead middle trail : List Char} (h : Trimmed lead middle trail) :
    writtenText (lead ++ middle ++ trail) =
      lead ++ writtenRuns (middle.map showControl) ++ trail := by
  obtain ⟨hl, ht, ⟨c, r, first, hc⟩, ⟨r', c', last, hc'⟩⟩ := h
  have leads : (lead ++ middle ++ trail).takeWhile isSpace = lead := by
    rw [List.append_assoc, List.takeWhile_append_of_pos hl, first, List.cons_append,
      List.takeWhile_cons_of_neg (by rw [hc]; exact Bool.false_ne_true), List.append_nil]
  have body : (lead ++ middle ++ trail).dropWhile isSpace = middle ++ trail := by
    rw [List.append_assoc, List.dropWhile_append_of_pos hl, first, List.cons_append,
      List.dropWhile_cons_of_neg (by rw [hc]; exact Bool.false_ne_true)]
  have back : (middle ++ trail).reverse = trail.reverse ++ c' :: r'.reverse := by
    rw [List.reverse_append, last, List.reverse_append]
    rfl
  have ht' : ∀ d ∈ trail.reverse, isSpace d = true := fun d hd => ht d (List.mem_reverse.1 hd)
  have trails : (middle ++ trail).reverse.takeWhile isSpace = trail.reverse := by
    rw [back, List.takeWhile_append_of_pos ht',
      List.takeWhile_cons_of_neg (by rw [hc']; exact Bool.false_ne_true), List.append_nil]
  have rest : ((middle ++ trail).reverse.dropWhile isSpace).reverse = middle := by
    rw [back, List.dropWhile_append_of_pos ht',
      List.dropWhile_cons_of_neg (by rw [hc']; exact Bool.false_ne_true), List.reverse_cons,
      List.reverse_reverse, last]
  unfold writtenText textPieces
  dsimp only
  rw [leads, body, rest, trails, List.reverse_reverse, List.flatten_append, List.flatten_append,
    flatten_piece, flatten_piece, flatten_runs]

theorem Trimmed.written {lead middle trail : List Char} (h : Trimmed lead middle trail) :
    Trimmed lead (writtenRuns (middle.map showControl)) trail := by
  obtain ⟨hl, ht, ⟨c, r, first, hc⟩, ⟨r', c', last, hc'⟩⟩ := h
  refine ⟨hl, ht, ?_, ?_⟩
  · rw [first, List.map_cons]
    exact head_writtenRuns (isSpace_showControl hc) _
  · have like := endsLike_writtenRuns (middle.map showControl)
    have some' : writtenRuns (middle.map showControl) ≠ [] := by
      intro empty
      have := like.empty empty
      rw [first] at this
      cases this
    refine ⟨_, _, (List.dropLast_concat_getLast some').symm, ?_⟩
    rcases like.last _ (List.getLast?_eq_some_getLast some') with semicolon | same
    · rw [semicolon]
      decide
    · have ends : (middle.map showControl).getLast? = some (showControl c') := by
        rw [last, List.map_append, List.map_cons, List.map_nil, List.getLast?_concat]
      rw [ends] at same
      rw [← Option.some.inj same]
      exact isSpace_showControl hc'

/-- White space is written as it stands. -/
theorem writtenText_space {s : List Char} (h : s.dropWhile isSpace = []) : writtenText s = s := by
  have all : s.takeWhile isSpace = s := by
    have whole := List.takeWhile_append_dropWhile (p := isSpace) (l := s)
    rwa [h, List.append_nil] at whole
  unfold writtenText textPieces
  dsimp only
  rw [h, all, List.flatten_append, List.flatten_append, flatten_piece]
  simp [runs, splitAmpersands, Run.cons, piece]

theorem Escaped.of_space_append {s t : List Char} (space : ∀ c ∈ s, isSpace c = true)
    (h : Escaped (s ++ t)) : Escaped t := by
  induction s with
  | nil => exact h
  | cons c s ih =>
    obtain ⟨first, later⟩ := List.forall_mem_cons.1 space
    generalize whole : c :: s ++ t = u at h
    cases h with
    | nil => cases whole
    | char _ rest =>
      have same : s ++ t = _ := (List.cons.inj whole).2
      exact ih later (by rwa [same])
    | reference =>
      rw [(List.cons.inj whole).1] at first
      cases first

theorem Escaped.of_append_space {s t : List Char} (space : ∀ c ∈ t, isSpace c = true)
    (h : Escaped (s ++ t)) : Escaped s := by
  generalize whole : s ++ t = u at h
  induction h generalizing s with
  | nil =>
    rw [(List.append_eq_nil_iff.1 whole).1]
    exact .nil
  | char plain rest ih =>
    cases s with
    | nil => exact .nil
    | cons d s =>
      rw [(List.cons.inj whole).1]
      exact .char plain (ih (List.cons.inj whole).2)
  | @reference body v reads stop rest ih =>
    cases s with
    | nil => exact .nil
    | cons d s =>
      have layout : body ++ [';'] ++ v = s ++ t := by simpa using (List.cons.inj whole).2.symm
      rw [(List.cons.inj whole).1]
      -- The white space begins after the semicolon, which is none.
      rcases List.append_eq_append_iff.1 layout with ⟨w, cut, later⟩ | ⟨w, cut, later⟩
      · rw [cut, List.append_assoc]
        exact .reference reads stop (ih later.symm)
      · have nothing : w = [] := by
          by_contra some'
          have last := congrArg List.getLast? cut
          rw [List.getLast?_concat, List.getLast?_append, List.getLast?_eq_some_getLast some'] at last
          have inside : ';' ∈ t := by
            rw [later, Option.some.inj last]
            exact List.mem_append_left _ (List.getLast_mem some')
          exact absurd (space _ inside) (by decide)
        rw [nothing, List.append_nil] at cut
        rw [← cut]
        exact .reference reads stop .nil

/-- What is written already is written as it stands. -/
theorem writtenText_of_escaped {s : List Char} (escaped : Escaped s)
    (plain : ∀ c ∈ s, isControl c = false) : writtenText s = s := by
  by_cases blank : s.dropWhile isSpace = []
  · exact writtenText_space blank
  · obtain ⟨lead, middle, trail, rfl, trimmed⟩ := exists_trimmed blank
    have inside : Escaped middle :=
      (escaped.of_append_space trimmed.trail).of_space_append trimmed.lead
    have shown : middle.map showControl = middle :=
      (List.map_congr_left fun c hc => showControl_plain (plain c (by simp [hc]))).trans
        (List.map_id' _)
    rw [writtenText_trimmed trimmed, shown, writtenRuns_of_escaped inside]

/-- Writing text twice is writing it once. -/
theorem writtenText_writtenText (s : List Char) : writtenText (writtenText s) = writtenText s := by
  by_cases space : s.dropWhile isSpace = []
  · rw [writtenText_space space, writtenText_space space]
  · obtain ⟨lead, middle, trail, rfl, trimmed⟩ := exists_trimmed space
    have plain : ∀ c ∈ middle.map showControl, isControl c = false := by
      intro c hc
      obtain ⟨d, -, rfl⟩ := List.mem_map.1 hc
      exact isControl_showControl d
    rw [writtenText_trimmed trimmed, writtenText_trimmed trimmed.written,
      map_showControl_writtenRuns plain, writtenRuns_of_escaped (escaped_writtenRuns _)]

/-! ### White space at the start -/

theorem writtenText_space_cons {c : Char} (h : isSpace c = true) (s : List Char) :
    writtenText (c :: s) = c :: writtenText s := by
  unfold writtenText textPieces
  rw [List.takeWhile_cons_of_pos h, List.dropWhile_cons_of_pos h]
  dsimp only
  rw [List.flatten_append, List.flatten_append, List.flatten_append, List.flatten_append,
    flatten_piece, flatten_piece, flatten_piece]
  rfl

/-- What is written for a text begins with white space if the text does. -/
theorem head_writtenText {s r : List Char} {c : Char} (h : writtenText s = c :: r)
    (space : isSpace c = true) : ∃ t, s = c :: t := by
  cases s with
  | nil => cases h
  | cons d s =>
    cases hd : isSpace d with
    | true =>
      rw [writtenText_space_cons hd] at h
      exact ⟨s, by rw [(List.cons.inj h).1]⟩
    | false =>
      have some' : (d :: s).dropWhile isSpace ≠ [] := by
        rw [List.dropWhile_cons_of_neg (by rw [hd]; exact Bool.false_ne_true)]
        exact List.cons_ne_nil d s
      obtain ⟨lead, middle, trail, whole, trimmed⟩ := exists_trimmed some'
      have none' : lead = [] := by
        cases lead with
        | nil => rfl
        | cons e lead =>
          have := trimmed.lead e List.mem_cons_self
          rw [← (List.cons.inj whole).1, hd] at this
          cases this
      rw [whole, writtenText_trimmed trimmed, none', List.nil_append] at h
      obtain ⟨e, r', first, he⟩ := trimmed.written.first
      rw [first] at h
      rw [← (List.cons.inj h).1, he] at space
      cases space

theorem writtenText_ne_nil {s : List Char} (h : s ≠ []) : writtenText s ≠ [] := by
  by_cases space : s.dropWhile isSpace = []
  · rwa [writtenText_space space]
  · obtain ⟨lead, middle, trail, rfl, trimmed⟩ := exists_trimmed space
    obtain ⟨c, r, first, -⟩ := trimmed.written.first
    rw [writtenText_trimmed trimmed, first]
    simp

/-- The white space around a text is written as it is, and control characters are not written. -/
theorem mem_writtenText {s : List Char} {c : Char} (h : c ∈ writtenText s) :
    (c ∈ s ∧ isSpace c = true) ∨ c ∈ s.map showControl ∨ c ∈ escapes := by
  by_cases space : s.dropWhile isSpace = []
  · rw [writtenText_space space] at h
    exact Or.inl ⟨h, List.dropWhile_eq_nil_iff.1 space c h⟩
  · obtain ⟨lead, middle, trail, rfl, trimmed⟩ := exists_trimmed space
    rw [writtenText_trimmed trimmed] at h
    rcases List.mem_append.1 h with h | h
    · rcases List.mem_append.1 h with h | h
      · exact Or.inl ⟨List.mem_append_left _ (List.mem_append_left _ h), trimmed.lead c h⟩
      · refine Or.inr ((mem_writtenRuns h).imp_left fun inside => ?_)
        rw [List.map_append, List.map_append]
        exact List.mem_append_left _ (List.mem_append_right _ inside)
    · exact Or.inl ⟨List.mem_append_right _ h, trimmed.trail c h⟩

theorem return_notMem_writtenText {s : List Char} (h : '\r' ∉ s) : '\r' ∉ writtenText s := by
  intro hm
  rcases mem_writtenText hm with ⟨old, -⟩ | inside | new
  · exact h old
  · obtain ⟨c, hc, shown⟩ := List.mem_map.1 inside
    unfold showControl at shown
    split at shown
    · cases shown
    · rw [shown] at hc
      exact h hc
  · exact absurd new (by decide)

theorem zero_notMem_writtenText (s : List Char) : '\x00' ∉ writtenText s := by
  intro hm
  rcases mem_writtenText hm with ⟨-, space⟩ | inside | new
  · exact absurd space (by decide)
  · obtain ⟨c, -, shown⟩ := List.mem_map.1 inside
    have plain := isControl_showControl c
    rw [shown] at plain
    cases plain
  · exact absurd new (by decide)

end PageSkins.Markup.Writer
