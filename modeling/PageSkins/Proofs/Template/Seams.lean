import Mathlib.Data.List.Infix
import PageSkins.Proofs.Template.Limits
import PageSkins.Proofs.Template.NormalForm
import PageSkins.Proofs.Template.Pairing

/-!
# Templates put side by side

Two templates put side by side give the texts of the two, one after the other, if every
opening tag of the first is paired there and no tag reaches from the first into the second.
The second is read as if it stood alone, also where its tags close nothing or are never
closed: the parser never looks behind the outermost block it holds open. At the seam
the two texts may become one piece.
-/

namespace PageSkins.Template

/-! ### Pieces at the seam -/

/-- No tag reaches from the first text into the second: wherever a tag starts in the first, all of the second
comes after it. -/
def Seamless (s t : List Char) : Prop :=
  ∀ x ∈ s.tails, x ≠ [] → ∀ found ∈ tagAt? (x ++ t), t.length ≤ found.2.length

instance (s t : List Char) : Decidable (Seamless s t) :=
  inferInstanceAs
    (Decidable (∀ x ∈ s.tails, x ≠ [] → ∀ found ∈ tagAt? (x ++ t), t.length ≤ found.2.length))

/-- Texts without tags that meet at the seam make one text without tags. -/
theorem Seamless.tagless {a u v b : List Char} (seam : Seamless (a ++ u) (v ++ b)) (left : Tagless u)
    (right : Tagless v) : Tagless (u ++ v) := by
  intro before inner after whole same
  rcases List.append_eq_append_iff.1 same with ⟨w, -, later⟩ | ⟨w, rfl, reach⟩
  · exact right w inner after whole later
  · by_cases none : w = []
    · subst none
      exact right [] inner after whole reach.symm
    · have starts : w ∈ (a ++ (before ++ w)).tails := by
        rw [List.mem_tails, ← List.append_assoc]
        exact List.suffix_append _ _
      have found : tagAt? (w ++ (v ++ b)) = some (inner, after ++ b) := by
        rw [← List.append_assoc, ← reach, List.append_assoc]
        exact tagAt?_tagText whole _
      have ends := seam w starts none _ found
      rw [List.length_append, List.length_append] at ends
      rcases List.append_eq_append_iff.1 reach with ⟨c, rfl, -⟩ | ⟨c, tag, rfl⟩
      · exact left before inner c whole rfl
      · rw [List.length_append] at ends
        obtain rfl : c = [] := List.length_eq_zero_iff.1 (by omega)
        rw [List.append_nil] at tag
        exact left before inner [] whole (by rw [tag, List.append_nil])

/-- Pieces may be followed by others that start as what followed them before. -/
theorem Cut.follow {ps rs qs : List Piece} (h : Cut (ps ++ rs)) (h' : Cut qs)
    (apart : StartsApart rs → StartsApart qs) : Cut (ps ++ qs) := by
  induction ps with
  | nil => exact h'
  | cons p ps ih =>
    cases h with
    | tag whole rest => exact .tag whole (ih rest)
    | text some' tagless next rest =>
      refine .text some' tagless ?_ (ih rest)
      cases ps with
      | nil => exact apart next
      | cons q ps => exact next

/-- The pieces of two templates side by side, which share a text at the seam at most. -/
theorem pieces_append {s t : List Char} (seam : Seamless s t) : pieces (s ++ t) = pieces s ++ pieces t ∨
    ∃ ps u v qs, pieces s = ps ++ [.text u] ∧ pieces t = .text v :: qs ∧
      pieces (s ++ t) = ps ++ .text (u ++ v) :: qs := by
  obtain ⟨cut, same⟩ := cut_pieces s
  obtain ⟨cut', same'⟩ := cut_pieces t
  generalize pieces s = ps at cut same
  generalize pieces t = qs at cut' same'
  subst same same'
  have beside (ps qs : List Piece) (cut : Cut (ps ++ qs)) :
      pieces (ps.flatMap Piece.written ++ qs.flatMap Piece.written) = ps ++ qs :=
    pieces_eq_iff.2 ⟨cut, List.flatMap_append⟩
  cases cut' with
  | nil => exact .inl (beside ps [] (by rwa [List.append_nil]))
  | @tag inner qs whole rest =>
    have alone : Cut (ps ++ []) := by rwa [List.append_nil]
    exact .inl (beside ps _ (alone.follow (.tag whole rest) fun _ => startsApart_tag inner qs))
  | @text v qs some' tagless apart rest =>
    rcases List.eq_nil_or_concat' ps with rfl | ⟨ps, p, rfl⟩
    · exact .inl (beside [] _ (.text some' tagless apart rest))
    · have last := cut.valid p (List.mem_append_right _ List.mem_cons_self)
      cases p with
      | tag inner =>
        refine .inl (beside _ _ ?_)
        rw [List.append_assoc]
        exact cut.follow (.tag last (.text some' tagless apart rest)) fun _ => startsApart_tag inner _
      | text u =>
        refine .inr ⟨ps, u, v, qs, rfl, rfl, ?_⟩
        have joint : Tagless (u ++ v) := by
          refine Seamless.tagless (a := ps.flatMap Piece.written) (b := qs.flatMap Piece.written) ?_
            last tagless
          rw [List.flatMap_append, List.flatMap_singleton, List.flatMap_cons] at seam
          exact seam
        have cut' : Cut (ps ++ .text (u ++ v) :: qs) := by
          refine cut.follow (.text ?_ joint apart rest) fun next => absurd trivial (next _ rfl)
          exact List.append_ne_nil_of_right_ne_nil u some'
        have whole := beside _ _ cut'
        simpa [Piece.written] using whole

/-! ### The parser after what it has read -/

/-- The nodes and open blocks of a parser, with more nodes before the outermost block. -/
def State.after (base : List Node) : List Node → List Frame → State
  | nodes, [] => ⟨nodes ++ base, []⟩
  | nodes, f :: rest =>
    ⟨nodes, { f with before := (after base f.before rest).nodes } :: (after base f.before rest).opened⟩

namespace State

variable (base : List Node)

theorem after_append (later nodes : List Node) (opened : List Frame) :
    after base (later ++ nodes) opened =
      ⟨later ++ (after base nodes opened).nodes, (after base nodes opened).opened⟩ := by
  cases opened with
  | nil => rw [after, after, List.append_assoc]
  | cons f rest => rfl

/-- A block that is taken as text. -/
theorem after_unwind (nodes : List Node) (f : Frame) (rest : List Frame) :
    after base (f.unwind nodes) rest =
      ⟨{ f with before := (after base f.before rest).nodes }.unwind nodes,
        (after base f.before rest).opened⟩ := by
  have unwound : f.unwind nodes = (nodes ++ [literalTag f.inner]) ++ f.before := by
    rw [Frame.unwind, List.append_assoc]
    rfl
  rw [unwound, after_append, Frame.unwind, List.append_assoc]
  rfl

/-- A closing tag closes the same block. -/
theorem closeBlock_after (kind : BlockKind) (name : String) (nodes : List Node) (opened : List Frame) :
    closeBlock kind name (after base nodes opened).nodes (after base nodes opened).opened =
      (closeBlock kind name nodes opened).map fun st => after base st.nodes st.opened := by
  induction opened generalizing nodes with
  | nil => rfl
  | cons f rest ih =>
    have same : { f with before := (after base f.before rest).nodes }.closedBy kind name =
      f.closedBy kind name := rfl
    rw [after, closeBlock, closeBlock, same]
    by_cases fit : f.closedBy kind name = true
    · rw [if_pos fit, if_pos fit, Option.map_some]
      exact congrArg some (after_append base [_] f.before rest).symm
    · rw [if_neg fit, if_neg fit, ← ih, after_unwind]

theorem unwindAll_after (nodes : List Node) (opened : List Frame) :
    unwindAll (after base nodes opened).nodes (after base nodes opened).opened =
      unwindAll nodes opened ++ base := by
  induction opened generalizing nodes with
  | nil => rfl
  | cons f rest ih =>
    have unwound := ih (f.unwind nodes)
    rw [after_unwind] at unwound
    exact unwound

theorem step_after (st : State) (p : Piece) : (after base st.nodes st.opened).step p =
    after base (st.step p).nodes (st.step p).opened := by
  have push (n : Node) : State.mk (n :: (after base st.nodes st.opened).nodes)
      (after base st.nodes st.opened).opened = after base (n :: st.nodes) st.opened :=
    (after_append base [n] st.nodes st.opened).symm
  cases p with
  | text s => exact push _
  | tag inner =>
    cases tag : Tag.ofInner inner with
    | opens kind name =>
      rw [step_opens _ tag, step_opens _ tag]
      rfl
    | closes kind name =>
      rw [step_closes _ tag, step_closes _ tag, closeBlock_after]
      cases closeBlock kind name st.nodes st.opened with
      | none => exact push _
      | some closed => rfl
    | «include» name =>
      rw [step_include _ tag, step_include _ tag]
      exact push _
    | field name =>
      rw [step_field _ tag, step_field _ tag]
      exact push _
    | unknown =>
      rw [step_unknown _ tag, step_unknown _ tag]
      exact push _

theorem run_after (st : State) (ps : List Piece) : (after base st.nodes st.opened).run ps =
    after base (st.run ps).nodes (st.run ps).opened := by
  induction ps generalizing st with
  | nil => rfl
  | cons p ps ih => rw [run_cons, run_cons, step_after, ih]

/-- With no block open, what comes next is read as if it stood alone. -/
theorem finish_run (ps : List Piece) : (State.run ⟨base, []⟩ ps).finish =
    base.reverse ++ (State.run ⟨[], []⟩ ps).finish := by
  have start : after base [] [] = ⟨base, []⟩ := rfl
  have done := run_after base ⟨[], []⟩ ps
  rw [start] at done
  rw [done, finish, unwindAll_after, List.reverse_append]
  rfl

end State

/-! ### Trees and texts side by side -/

/-- A parser that has paired all opening tags holds no block open. -/
theorem opened_eq_nil {ps : List Piece}
    (paired : ∀ i kind name, (tagsOf ps)[i]? = some (.opens kind name) → ∃ j, Paired (tagsOf ps) i j) :
    (State.run ⟨[], []⟩ ps).opened = [] := by
  obtain ⟨is, stands, held⟩ := tracks_run ps
  cases is with
  | nil => exact List.forall₂_nil_left_iff.1 stands.opens
  | cons i is =>
    have pending := (held i).1 List.mem_cons_self
    obtain ⟨kind, name, opens⟩ := pending.opens
    obtain ⟨j, block⟩ := paired i kind name opens
    exact absurd block (unpaired_of_pending_end pending j).1

/-- The trees of two templates stand side by side, but for the text at the seam. -/
theorem parse_append {s t : List Char} (closed : (State.run ⟨[], []⟩ (pieces s)).opened = [])
    (seam : Seamless s t) : parse (s ++ t) = parse s ++ parse t ∨
      ∃ ns u v ms, parse s = ns ++ [.text (String.ofList u)] ∧ parse t = .text (String.ofList v) :: ms ∧
        parse (s ++ t) = ns ++ .text (String.ofList (u ++ v)) :: ms := by
  have tree (r : List Char) : parse r = (State.run ⟨[], []⟩ (pieces r)).finish := rfl
  rw [tree, tree s, tree t]
  rcases pieces_append seam with apart | ⟨ps, u, v, qs, left, right, joint⟩
  · left
    rw [apart, State.run_append]
    generalize State.run ⟨[], []⟩ (pieces s) = st at closed ⊢
    obtain ⟨nodes, opened⟩ := st
    obtain rfl : opened = [] := closed
    exact State.finish_run nodes (pieces t)
  · right
    rw [left, State.run_append] at closed
    rw [left, right, joint, State.run_append, State.run_append, State.run_cons, State.run_cons]
    generalize State.run ⟨[], []⟩ ps = st at closed ⊢
    obtain ⟨nodes, opened⟩ := st
    obtain rfl : opened = [] := closed
    refine ⟨nodes.reverse, u, v, (State.run ⟨[], []⟩ qs).finish, ?_, ?_, ?_⟩
    · exact List.reverse_cons
    · exact State.finish_run [_] qs
    · refine (State.finish_run (_ :: nodes) qs).trans ?_
      rw [List.reverse_cons, List.append_assoc]
      rfl

theorem joined_eq_flatMap {α : Type} {f : α → Except Fault (List Char)} {g : α → List Char}
    (h : ∀ a, f a = .ok (g a)) (xs : List α) : joined f xs = .ok (xs.flatMap g) := by
  induction xs with
  | nil => rfl
  | cons x xs ih => rw [joined_cons_ok (h x) ih, List.flatMap_cons]

/-- The text of a template is put together from the texts of its nodes. -/
theorem render_eq_flatMap (limits : Limits) {scope : Fields} (short : Json.anyLongField scope = false)
    (inc : Fields) : ∃ text : Node → List Char, (∀ s, text (.text s) = s.toList) ∧
      ∀ template, render limits template scope (some inc) = (parse template).flatMap text := by
  have written (n : Node) :
      ∃ s, Node.render (some inc) limits.depth limits.inclusions [scope] n = .ok s := by
    obtain ⟨s, -, found, -⟩ :=
      Node.render_grows (Nat.le_refl limits.depth) (Nat.le_refl limits.inclusions) (short_singleton short) n
    exact ⟨s, found⟩
  choose text found using written
  refine ⟨text, fun s => ?_, fun template => ?_⟩
  · have plain := found (.text s)
    rw [Node.render] at plain
    exact (Except.ok.inj plain).symm
  · rw [render, render?, joined_eq_flatMap found]

/-- Two templates side by side give their texts one after the other, if the first pairs all its
opening tags and no tag reaches into the second. -/
theorem render_append {s t : List Char}
    (paired : ∀ i kind name, (tagsOf (pieces s))[i]? = some (.opens kind name) →
      ∃ j, Paired (tagsOf (pieces s)) i j)
    (seam : Seamless s t) {scope : Fields} (short : Json.anyLongField scope = false) (limits : Limits)
    (inc : Fields) : render limits (s ++ t) scope (some inc) =
      render limits s scope (some inc) ++ render limits t scope (some inc) := by
  obtain ⟨text, plain, written⟩ := render_eq_flatMap limits short inc
  rw [written, written, written]
  rcases parse_append (opened_eq_nil paired) seam with apart | ⟨ns, u, v, ms, left, right, joint⟩
  · rw [apart, List.flatMap_append]
  · rw [left, right, joint]
    simp only [List.flatMap_append, List.flatMap_cons, List.flatMap_nil, plain, String.toList_ofList,
      List.append_assoc, List.append_nil]

/-- A closing tag that closes nothing, a condition, and a brace; after it, a brace, an opening tag
that is never closed, and a field. -/
def leftHalf : List Char := "\x7b\x7b/each\x7d\x7d\x7b\x7b#if x\x7d\x7db\x7b\x7b/if\x7d\x7d \x7b".toList

def rightHalf : List Char := "c\x7d\x7d \x7b\x7b#each y\x7d\x7d\x7b\x7bx\x7d\x7d".toList

theorem tagsOf_leftHalf : tagsOf (pieces leftHalf) =
    [.closes .each "", .opens .cond "x", .closes .cond ""] := by cbv

theorem render_append_halves : Seamless leftHalf rightHalf ∧
    render {} (leftHalf ++ rightHalf) [("x", .text "1")] (some []) =
      render {} leftHalf [("x", .text "1")] (some []) ++
        render {} rightHalf [("x", .text "1")] (some []) := by
  have seam : Seamless leftHalf rightHalf := by decide +kernel
  refine ⟨seam, render_append (fun i kind name opens => ?_) seam rfl {} []⟩
  rw [tagsOf_leftHalf] at opens ⊢
  match i with
  | 0 => cases opens
  | 1 => exact ⟨2, by decide⟩
  | 2 => cases opens
  | i + 3 => cases opens

end PageSkins.Template
