import Mathlib.Data.List.TakeWhile
import PageSkins.Template.Tag

/-!
# Templates cut at their tags

A template is the text of its pieces, put side by side. The cut is the only one
in which tags are whole, texts hold no tag, and no two texts stand side by side;
so a text put together from such pieces is cut into them again.
-/

namespace PageSkins.Template

def Piece.written : Piece → List Char
  | .text s => s
  | .tag inner => tagText inner

/-- What stands between the braces of one tag. -/
def Whole (inner : List Char) : Prop := ∀ c ∈ inner, isInner c = true

/-- No part of the text is a tag. -/
def Tagless (s : List Char) : Prop :=
  ∀ before inner after, Whole inner → s ≠ before ++ (tagText inner ++ after)

def Piece.IsText : Piece → Prop
  | .text _ => True
  | .tag _ => False

def StartsApart (ps : List Piece) : Prop := ∀ p ∈ ps.head?, ¬ p.IsText

theorem startsApart_nil : StartsApart [] := by
  intro p hp
  cases hp

theorem startsApart_tag (inner : List Char) (ps : List Piece) : StartsApart (.tag inner :: ps) := by
  intro p hp
  cases hp
  exact id

/-- Pieces as a template is cut into them: tags are whole, texts hold no tag and are not empty, and no two
texts stand side by side. -/
inductive Cut : List Piece → Prop
  | nil : Cut []
  | tag {inner : List Char} {ps : List Piece} (whole : Whole inner) (rest : Cut ps) :
      Cut (.tag inner :: ps)
  | text {s : List Char} {ps : List Piece} (some' : s ≠ []) (tagless : Tagless s)
      (apart : StartsApart ps) (rest : Cut ps) : Cut (.text s :: ps)

/-! ### One tag -/

theorem tagText_append (inner rest : List Char) :
    tagText inner ++ rest = '\x7b' :: '\x7b' :: (inner ++ '\x7d' :: '\x7d' :: rest) := by
  simp [tagText]

theorem brace_notMem_whole {inner : List Char} (whole : Whole inner) :
    '\x7b' ∉ inner ++ ['\x7d', '\x7d'] := by
  intro hm
  rcases List.mem_append.1 hm with hm | hm
  · exact absurd (whole _ hm) (by decide)
  · exact absurd hm (by decide)

theorem tagAt?_tagText {inner : List Char} (whole : Whole inner) (rest : List Char) :
    tagAt? (tagText inner ++ rest) = some (inner, rest) := by
  have stop : ¬ isInner '\x7d' = true := by decide
  have drop : (inner ++ '\x7d' :: '\x7d' :: rest).dropWhile isInner = '\x7d' :: '\x7d' :: rest := by
    rw [List.dropWhile_append_of_pos whole, List.dropWhile_cons_of_neg stop]
  have take : (inner ++ '\x7d' :: '\x7d' :: rest).takeWhile isInner = inner := by
    rw [List.takeWhile_append_of_pos whole, List.takeWhile_cons_of_neg stop, List.append_nil]
  rw [tagText_append]
  simp only [tagAt?, drop, take]

theorem eq_tagText_of_tagAt? {s inner rest : List Char} (h : tagAt? s = some (inner, rest)) :
    s = tagText inner ++ rest ∧ Whole inner := by
  unfold tagAt? at h
  split at h
  · rename_i r
    split at h
    · rename_i rest' hr
      have parts : r.takeWhile isInner ++ '\x7d' :: '\x7d' :: rest' = r := by
        rw [← hr, List.takeWhile_append_dropWhile]
      cases h
      exact ⟨by rw [tagText_append, parts], fun c hc => List.mem_takeWhile_imp hc⟩
    · cases h
  · cases h

/-- A tag that starts in a text without tags would have to end before the next tag opens. -/
theorem tagAt?_tagless {s : List Char} (some' : s ≠ []) (tagless : Tagless s)
    (inner rest : List Char) : tagAt? (s ++ (tagText inner ++ rest)) = none := by
  cases h : tagAt? (s ++ (tagText inner ++ rest)) with
  | none => rfl
  | some found =>
    obtain ⟨i, after⟩ := found
    obtain ⟨same, whole⟩ := eq_tagText_of_tagAt? h
    have closed := brace_notMem_whole whole
    rcases List.append_eq_append_iff.1 same with ⟨w, hw, hw'⟩ | ⟨w, hw, -⟩
    · rw [tagText_append] at hw'
      cases w with
      | nil => exact (tagless [] i [] whole (by simpa using hw.symm)).elim
      | cons c w =>
        -- The tag reaches into the next one, whose first two braces would then stand inside it.
        obtain ⟨rfl, second⟩ := List.cons.inj hw'
        cases s with
        | nil => exact (some' rfl).elim
        | cons a t =>
          have inside : t ++ '\x7b' :: w = '\x7b' :: (i ++ ['\x7d', '\x7d']) := by
            simpa [tagText] using (List.cons.inj hw).2.symm
          cases t with
          | cons b t =>
            refine (closed ?_).elim
            rw [← (List.cons.inj inside).2]
            exact List.mem_append_right _ List.mem_cons_self
          | nil =>
            have inside : w = i ++ ['\x7d', '\x7d'] := (List.cons.inj inside).2
            cases w with
            | nil => simp at inside
            | cons d w =>
              refine (closed ?_).elim
              rw [← inside, (List.cons.inj second).1]
              exact List.mem_cons_self
    · exact (tagless [] i w whole hw).elim

theorem Tagless.nil : Tagless [] := fun before inner after _ h => by simp [tagText] at h

theorem tagless_of_notMem {c : Char} (brace : c = '\x7b' ∨ c = '\x7d') {s : List Char} (h : c ∉ s) :
    Tagless s := by
  rintro before inner after - rfl
  refine h (List.mem_append_right _ ?_)
  rcases brace with rfl | rfl
  · simp [tagText]
  · simp [tagText]

theorem Tagless.tail {c : Char} {s : List Char} (h : Tagless (c :: s)) : Tagless s := by
  rintro before inner after whole rfl
  exact h (c :: before) inner after whole rfl

theorem Tagless.tagAt? {s : List Char} (h : Tagless s) : tagAt? s = none := by
  cases found : Template.tagAt? s with
  | none => rfl
  | some p =>
    obtain ⟨same, whole⟩ := eq_tagText_of_tagAt? found
    exact (h [] p.1 p.2 whole same).elim

/-! ### The whole text -/

theorem piecesFrom_nil (gathered : List Char) : piecesFrom gathered [] = flush gathered := by
  rw [piecesFrom]
  rfl

theorem piecesFrom_of_some {s inner rest : List Char} (h : tagAt? s = some (inner, rest))
    (gathered : List Char) :
    piecesFrom gathered s = flush gathered ++ .tag inner :: piecesFrom [] rest := by
  rw [piecesFrom]
  split
  · rename_i h'
    rw [h] at h'
    cases h'
    rfl
  · rename_i h'
    rw [h] at h'
    cases h'

theorem piecesFrom_of_none {c : Char} {s : List Char} (h : tagAt? (c :: s) = none)
    (gathered : List Char) : piecesFrom gathered (c :: s) = piecesFrom (c :: gathered) s := by
  rw [piecesFrom]
  split
  · rename_i h'
    rw [h] at h'
    cases h'
  · rfl

/-- Text without tags is gathered up to the next tag. -/
theorem piecesFrom_tag {s inner : List Char} (tagless : Tagless s) (whole : Whole inner)
    (gathered rest : List Char) : piecesFrom gathered (s ++ (tagText inner ++ rest)) =
      flush (s.reverse ++ gathered) ++ .tag inner :: piecesFrom [] rest := by
  induction s generalizing gathered with
  | nil => exact piecesFrom_of_some (tagAt?_tagText whole rest) gathered
  | cons c s ih =>
    have none := tagAt?_tagless (List.cons_ne_nil c s) tagless inner rest
    rw [List.cons_append] at none ⊢
    rw [piecesFrom_of_none none, ih tagless.tail, List.reverse_cons, List.append_assoc]
    rfl

/-- Text without tags is gathered up to its end. -/
theorem piecesFrom_end {s : List Char} (tagless : Tagless s) (gathered : List Char) :
    piecesFrom gathered s = flush (s.reverse ++ gathered) := by
  induction s generalizing gathered with
  | nil => exact piecesFrom_nil gathered
  | cons c s ih =>
    rw [piecesFrom_of_none tagless.tagAt?, ih tagless.tail, List.reverse_cons, List.append_assoc]
    rfl

theorem flush_reverse {s : List Char} (some' : s ≠ []) : flush (s.reverse ++ []) = [.text s] := by
  simp [flush, some']

/-- Up to its first tag, a text holds none. -/
theorem exists_tagless (s : List Char) : Tagless s ∨
    ∃ before inner rest, s = before ++ (tagText inner ++ rest) ∧ Tagless before ∧ Whole inner := by
  induction s with
  | nil => exact Or.inl Tagless.nil
  | cons c s ih =>
    cases h : tagAt? (c :: s) with
    | some found =>
      obtain ⟨same, whole⟩ := eq_tagText_of_tagAt? h
      exact Or.inr ⟨[], found.1, found.2, same, Tagless.nil, whole⟩
    | none =>
      have extend : ∀ {t rest : List Char}, Tagless t → t ++ rest = s → Tagless (c :: t) := by
        rintro t rest ht rfl before inner after whole e
        cases before with
        | nil =>
          have found : tagAt? (c :: (t ++ rest)) = some (inner, after ++ rest) := by
            rw [← List.cons_append, e, List.nil_append, List.append_assoc]
            exact tagAt?_tagText whole _
          rw [found] at h
          cases h
        | cons d before => exact ht before inner after whole (List.cons.inj e).2
      rcases ih with tagless | ⟨before, inner, rest, rfl, tagless, whole⟩
      · exact Or.inl (extend tagless (List.append_nil s))
      · exact Or.inr ⟨c :: before, inner, rest, rfl, extend tagless rfl, whole⟩

/-- Text in front of pieces that do not start with text. -/
theorem Cut.flush {s : List Char} {ps : List Piece} (tagless : Tagless s)
    (apart : StartsApart ps) (rest : Cut ps) :
    Cut (flush (s.reverse ++ []) ++ ps) ∧ (flush (s.reverse ++ []) ++ ps).flatMap Piece.written =
      s ++ ps.flatMap Piece.written := by
  cases s with
  | nil => exact ⟨rest, rfl⟩
  | cons c s =>
    rw [flush_reverse (List.cons_ne_nil c s)]
    exact ⟨Cut.text (List.cons_ne_nil c s) tagless apart rest, rfl⟩

/-- A template is cut into pieces that make it up. -/
theorem cut_pieces (s : List Char) : Cut (pieces s) ∧ (pieces s).flatMap Piece.written = s := by
  induction hn : s.length using Nat.strongRecOn generalizing s with
  | ind n ih =>
    rcases exists_tagless s with tagless | ⟨before, inner, rest, rfl, tagless, whole⟩
    · have cut := Cut.flush tagless startsApart_nil Cut.nil
      rw [pieces, piecesFrom_end tagless]
      simpa only [List.append_nil, List.flatMap_nil] using cut
    · have shorter : rest.length < n := by
        rw [← hn, tagText_append]
        simp only [List.length_append, List.length_cons]
        omega
      obtain ⟨others, same⟩ := ih _ shorter rest rfl
      have cut := Cut.flush tagless (startsApart_tag inner (pieces rest)) (Cut.tag whole others)
      rw [pieces, piecesFrom_tag tagless whole]
      rwa [List.flatMap_cons, same] at cut

/-- Pieces that a template can be cut into are the pieces of what they are written as. -/
theorem pieces_written {ps : List Piece} (h : Cut ps) : pieces (ps.flatMap Piece.written) = ps := by
  induction h with
  | nil => exact piecesFrom_nil []
  | @tag inner ps whole _ ih =>
    rw [List.flatMap_cons]
    exact (piecesFrom_tag Tagless.nil whole [] _).trans (congrArg (Piece.tag inner :: ·) ih)
  | @text s ps some' tagless apart rest ih =>
    rw [List.flatMap_cons]
    cases rest with
    | nil =>
      rw [List.flatMap_nil, List.append_nil]
      exact (piecesFrom_end tagless []).trans (flush_reverse some')
    | text _ _ _ _ => exact (apart _ rfl trivial).elim
    | @tag inner ps whole _ =>
      rw [List.flatMap_cons] at ih ⊢
      have next : Piece.tag inner :: pieces (ps.flatMap Piece.written) = .tag inner :: ps :=
        (piecesFrom_tag Tagless.nil whole [] _).symm.trans ih
      have start := piecesFrom_tag tagless whole [] (ps.flatMap Piece.written)
      rw [flush_reverse some'] at start
      exact start.trans (congrArg (Piece.text s :: ·) next)

/-- A template is cut in one way only. -/
theorem pieces_eq_iff {s : List Char} {ps : List Piece} :
    pieces s = ps ↔ Cut ps ∧ ps.flatMap Piece.written = s := by
  constructor
  · rintro rfl
    exact cut_pieces s
  · rintro ⟨cut, rfl⟩
    exact pieces_written cut

end PageSkins.Template
