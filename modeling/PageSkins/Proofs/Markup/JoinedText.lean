import Mathlib.Data.List.Chain
import PageSkins.Proofs.Markup.WrittenMarkup
import PageSkins.Proofs.Markup.WrittenText

/-!
# Text between tags

A closing tag is one piece, so the writer still takes the text after it to stand
in a tag, and a piece that is a lone equals sign makes it settle the next. This
does nothing as long as every reference right after an equals sign stands for
something.
-/

namespace PageSkins.Markup.Writer

open Reference

/-! ### References that stay -/

theorem plainAmpersands_reference {body : List Char} (stop : ∀ c ∈ body, isStop c = false)
    (other : body ≠ "amp".toList) :
    plainAmpersands ('&' :: (body ++ [';'])) = '&' :: (body ++ [';']) := by
  have plain : plainAmpersands (body ++ [';']) = body ++ [';'] := by
    have same := plainAmpersands_append (ampersand_notMem_body stop) []
    rwa [plainAmpersands, List.append_nil] at same
  rw [plainAmpersands, plain]
  intro s _ hs
  have bare : ';' ∉ body := fun hm => absurd (stop _ hm) (by decide)
  have layout : body ++ ';' :: [] = "amp".toList ++ ';' :: s := hs
  exact other ((List.append_cons_inj_of_notMem bare List.not_mem_nil).1 layout).1

/-- A reference that stands for something is settled already. -/
theorem settle_reference {body : List Char} (reads : Reads body)
    (stop : ∀ c ∈ body, isStop c = false) (known : ∃ t, meaning body = .chars t) :
    settle ('&' :: (body ++ [';'])) = .ok ('&' :: (body ++ [';'])) := by
  by_cases amp : body = "amp".toList
  · rw [amp]
    rfl
  · obtain ⟨t, ht⟩ := known
    have split : splitAmpersands ('&' :: (body ++ [';'])) = ([], ['&' :: (body ++ [';'])]) := by
      rw [splitAmpersands, splitAmpersands_of_notMem (ampersand_notMem_body stop)]
      simp
    have part : settlePart ('&' :: (body ++ [';'])) = .ok ('&' :: (body ++ [';'])) := by
      have rest : (body ++ [';']).drop (body.length + 1) = [] := by simp
      simp only [settlePart, reads [], ht, rest]
      rfl
    unfold settle
    rw [plainAmpersands_reference stop amp, split]
    simp [part, pure, Except.pure, bind, Except.bind]

/-- Every reference right after an equals sign stands for something. -/
def Clear (s : List Char) : Prop :=
  ∀ u r body, s = u ++ '=' :: '&' :: r → body? r = some body → ∃ t, meaning body = .chars t

theorem Clear.right {s t : List Char} (h : Clear (s ++ t)) : Clear t := by
  intro u r body hr hb
  exact h (s ++ u) r body (by rw [hr, List.append_assoc]) hb

theorem clear_of_notMem {s : List Char} (h : '=' ∉ s) : Clear s := by
  intro u r body hr _
  rw [hr] at h
  exact absurd (List.mem_append_right _ List.mem_cons_self) h

/-! ### Runs apart -/

def Run.isChars : Run → Bool
  | .chars _ => true
  | .reference _ => false

/-- No two runs of characters stand side by side. -/
def Apart (rs : List Run) : Prop := rs.IsChain fun x y => x.isChars = true → y.isChars = false

theorem apart_runCons {s : List Char} {rs : List Run} (h : Apart rs) : Apart (Run.cons s rs) := by
  unfold Run.cons
  split
  · cases h with
    | singleton => exact .singleton _
    | cons_cons first rest => exact .cons_cons first rest
  · rename_i other
    split
    · exact h
    · cases rs with
      | nil => exact .singleton _
      | cons x rest =>
        cases x with
        | chars t => exact absurd rfl (other t rest)
        | reference body => exact .cons_cons (fun _ => rfl) h

theorem apart_reference {body : List Char} {rs : List Run} (h : Apart rs) :
    Apart (.reference body :: rs) := by
  cases rs with
  | nil => exact .singleton _
  | cons x rest => exact .cons_cons (fun chars => by cases chars) h

theorem apart_runs (s : List Char) : Apart (runs s) := by
  have later : ∀ parts : List (List Char), Apart (parts.foldr Run.ofPart []) := by
    intro parts
    induction parts with
    | nil => exact .nil
    | cons part parts ih =>
      rw [List.foldr_cons]
      unfold Run.ofPart
      split
      · split
        · exact apart_runCons ih
        · dsimp only
          split
          · exact apart_runCons (apart_runCons ih)
          · exact apart_reference (apart_runCons ih)
      · exact apart_runCons ih
  exact apart_runCons (later _)

/-! ### Joining -/

theorem escapeText_ne {s : List Char} {c : Char} (h : ∀ d, escapeChar d ≠ [c]) :
    escapeText s ≠ [c] := by
  cases s with
  | nil => exact fun e => by cases e
  | cons d s =>
    intro e
    rcases escapeChar_cases d with (rfl | rfl | rfl) | plain
    · cases e
    · cases e
    · cases e
    · have first : escapeText (d :: s) = d :: escapeText s := by
        rw [escapeText, List.flatMap_cons, plain]
        rfl
      rw [first] at e
      rw [(List.cons.inj e).1] at plain
      exact h c plain

theorem escapeChar_ne_bracket (d : Char) : escapeChar d ≠ ['>'] := by
  intro e
  rcases escapeChar_cases d with (rfl | rfl | rfl) | plain
  · cases e
  · cases e
  · cases e
  · rw [plain] at e
    cases e
    cases plain

/-- Outside tags text is joined as it stands. -/
theorem join_outside {qs : List (List Char)} (h : ∀ q ∈ qs, '<' ∉ q) {v : Bool}
    {ps : List (List Char)} {out : List Char} (hp : join false v ps = .ok out) :
    join false v (qs ++ ps) = .ok (qs.flatten ++ out) := by
  induction qs with
  | nil => exact hp
  | cons q qs ih =>
    have head : decide (q.head? = some '<') = false := by
      refine decide_eq_false fun first => h q List.mem_cons_self ?_
      exact List.mem_of_head? first
    rw [List.cons_append, join, if_neg Bool.false_ne_true, head,
      ih fun r hr => h r (List.mem_cons_of_mem _ hr)]
    simp [pure, Except.pure, bind, Except.bind]

/-- In a tag a piece is joined as it stands unless it is to be settled. -/
theorem join_next {q : List Char} (close : q ≠ ['>']) {ps : List (List Char)} {out : List Char}
    (hp : join true (decide (q = ['='])) ps = .ok out) :
    join true false (q :: ps) = .ok (q ++ out) := by
  rw [join, if_pos rfl, if_neg close, if_neg Bool.false_ne_true, hp]
  simp [pure, Except.pure, bind, Except.bind]

theorem join_settled {q : List Char} (close : q ≠ ['>']) (quote : q ≠ ['"']) {value : List Char}
    (settled : settle q = .ok value) {ps : List (List Char)} {out : List Char}
    (hp : join true false ps = .ok out) : join true true (q :: ps) = .ok (value ++ out) := by
  rw [join, if_pos rfl, if_neg close, if_pos rfl, if_neg quote, settled]
  simp [hp, pure, Except.pure, bind, Except.bind]

theorem join_space {w : List Char} (space : ∀ c ∈ w, isSpace c = true) {v : Bool}
    {ps : List (List Char)} {out : List Char}
    (hp : ∀ v', (v' = true → v = true) → join true v' ps = .ok out) :
    join true v (piece w ++ ps) = .ok (w ++ out) := by
  unfold piece
  cases w with
  | nil => exact hp v id
  | cons c w =>
    have other : ∀ d, isSpace d = false → c :: w ≠ [d] := by
      intro d hd e
      rw [← (List.cons.inj e).1, space c List.mem_cons_self] at hd
      cases hd
    have plain : '&' ∉ c :: w := fun hm => absurd (space _ hm) (by decide)
    cases v with
    | false =>
      refine join_next (other _ (by decide)) ?_
      rw [decide_eq_false (other _ (by decide))]
      exact hp false id
    | true =>
      exact join_settled (other _ (by decide)) (other _ (by decide)) (settle_of_notMem plain)
        (hp false fun e => by cases e)

/-- A reference is joined as it stands, if it stands for something where it is to be settled. -/
theorem join_reference {body r : List Char} (known : body? r = some body) {v : Bool}
    (stands : v = true → ∃ t, meaning body = .chars t) {ps : List (List Char)} {out : List Char}
    (hp : join true false ps = .ok out) :
    join true v (('&' :: (body ++ [';'])) :: ps) = .ok ('&' :: (body ++ [';']) ++ out) := by
  have other : ∀ d, d ≠ '&' → '&' :: (body ++ [';']) ≠ [d] := by
    intro d hd e
    exact hd (List.cons.inj e).1.symm
  cases v with
  | false =>
    refine join_next (other _ (by decide)) ?_
    rw [decide_eq_false (other _ (by decide))]
    exact hp
  | true =>
    refine join_settled (other _ (by decide)) (other _ (by decide)) ?_ hp
    exact settle_reference (reads_of_body? known) (body?_some known).2 (stands rfl)

/-- The runs of a text are joined as they stand even where the writer takes them to be in a tag. -/
theorem join_runs : ∀ (rs : List Run) (tail : List Char) {v : Bool} {ps : List (List Char)}
    {out : List Char}, Apart rs → (∀ body, .reference body ∈ rs → ∃ r, body? r = some body) →
    (v = true → ∀ x ∈ rs.head?, x.isChars = false) →
    Clear ((if v then ['='] else []) ++ ((rs.flatMap Run.pieces).flatten ++ tail)) →
    (∀ v', join true v' ps = .ok out) →
    join true v (rs.flatMap Run.pieces ++ ps) = .ok ((rs.flatMap Run.pieces).flatten ++ out)
  | [], _, v, _, _, _, _, _, _, hp => hp v
  | .chars s :: rest, _, true, _, _, _, _, head, _, _ => by
    have first := head rfl (.chars s) rfl
    cases first
  | .chars s :: rest, tail, false, ps, out, apart, known, _, clear, hp => by
    have known' : ∀ body, Run.reference body ∈ rest → ∃ r, body? r = some body :=
      fun body hm => known body (List.mem_cons_of_mem _ hm)
    have apart' : Apart rest := List.IsChain.tail apart
    cases s with
    | nil => exact join_runs rest tail apart' known' (fun e => by cases e) clear hp
    | cons c s =>
      have layout : ((Run.chars (c :: s) :: rest).flatMap Run.pieces) =
          escapeText (c :: s) :: rest.flatMap Run.pieces := rfl
      rw [layout, List.flatten_cons, if_neg Bool.false_ne_true, List.nil_append,
        List.append_assoc] at clear
      rw [layout, List.flatten_cons, List.cons_append, List.append_assoc]
      refine join_next (escapeText_ne escapeChar_ne_bracket) ?_
      refine join_runs rest tail apart' known' ?_ ?_ hp
      · intro _ x hx
        cases rest with
        | nil => cases hx
        | cons y rest =>
          cases hx
          exact List.IsChain.rel apart rfl
      · by_cases equals : escapeText (c :: s) = ['=']
        · rw [if_pos (decide_eq_true equals), ← equals]
          exact clear
        · rw [if_neg fun e => equals (of_decide_eq_true e)]
          exact clear.right
  | .reference body :: rest, tail, v, ps, out, apart, known, _, clear, hp => by
    have layout : ((Run.reference body :: rest).flatMap Run.pieces) =
        ('&' :: (body ++ [';'])) :: rest.flatMap Run.pieces := rfl
    obtain ⟨r, hr⟩ := known body List.mem_cons_self
    rw [layout, List.flatten_cons, List.append_assoc] at clear
    rw [layout, List.flatten_cons, List.cons_append, List.append_assoc]
    refine join_reference hr ?_ ?_
    · rintro rfl
      refine clear [] (body ++ ';' :: ((rest.flatMap Run.pieces).flatten ++ tail)) body ?_
        (reads_of_body? hr _)
      simp
    · exact join_runs rest tail (List.IsChain.tail apart)
        (fun b hm => known b (List.mem_cons_of_mem _ hm)) (fun e => by cases e) clear.right.right hp

/-- Clear text is written as it is, whether or not the writer takes it to be in a tag. -/
theorem join_textPieces {s : List Char} (clear : Clear (writtenText s)) {ps : List (List Char)}
    {out : List Char} (hp : ∀ b v, (v = true → b = true) → join b v ps = .ok out) (b : Bool) :
    join b false (textPieces s ++ ps) = .ok (writtenText s ++ out) := by
  cases b with
  | false => exact join_outside (bracket_notMem_textPieces s) (hp false false id)
  | true =>
    have lead : ∀ c ∈ s.takeWhile isSpace, isSpace c = true :=
      fun c hc => List.mem_takeWhile_imp hc
    have trail : ∀ c ∈ ((s.dropWhile isSpace).reverse.takeWhile isSpace).reverse, isSpace c = true :=
      fun c hc => List.mem_takeWhile_imp (List.mem_reverse.1 hc)
    unfold writtenText textPieces at clear ⊢
    dsimp only at clear ⊢
    rw [List.flatten_append, List.flatten_append, flatten_piece, flatten_piece, List.append_assoc]
      at clear ⊢
    rw [List.append_assoc, List.append_assoc, List.append_assoc]
    refine join_space lead fun v hv => ?_
    have off : v = false := Bool.eq_false_iff.2 fun e => by cases hv e
    rw [off]
    exact join_runs _ _ (apart_runs _) (fun body hm => mem_runs hm) (fun e => by cases e) clear.right
      fun v' => join_space trail fun v'' _ => hp true v'' fun _ => rfl

end PageSkins.Markup.Writer
