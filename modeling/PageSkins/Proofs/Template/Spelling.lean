import PageSkins.Proofs.Template.TagForms
import PageSkins.Template.Parser

/-!
# Trees spelled in pieces

A printed tree is spelled piece by piece, and the parser is run over the pieces.
Which open blocks a closing tag passes over and which one it closes hangs on
their kinds and names alone, not on how their opening tags were written.
-/

namespace PageSkins.Template

open PageSkins.Text

/-! ### Pieces of a tree -/

def Tag.closing (kind : BlockKind) (name : String) : Tag :=
  .closes kind (if kind = .section then name else "")

mutual

/-- The pieces of a node as it is printed. Text that is a tag counts as that tag. -/
def Node.spell : Node → List Piece
  | .text s => [match tagAt? s.toList with
    | some (inner, []) => .tag inner
    | _ => .text s.toList]
  | .field name => [.tag (Tag.field name).inner]
  | .include name => [.tag (Tag.include name).inner]
  | .block kind name body =>
    .tag (Tag.opens kind name).inner :: (spellAll body ++ [.tag (Tag.closing kind name).inner])

def spellAll : List Node → List Piece
  | [] => []
  | n :: rest => n.spell ++ spellAll rest

end

theorem spellAll_append (ns ms : List Node) : spellAll (ns ++ ms) = spellAll ns ++ spellAll ms := by
  induction ns with
  | nil => rfl
  | cons n ns ih => rw [List.cons_append, spellAll, ih, spellAll, List.append_assoc]

theorem spellAll_singleton (n : Node) : spellAll [n] = n.spell := by
  rw [spellAll, spellAll, List.append_nil]

theorem Tagless.spell {s : List Char} (h : Tagless s) :
    (Node.text (String.ofList s)).spell = [.text s] := by
  rw [Node.spell, String.toList_ofList, h.tagAt?]

theorem spell_literalTag {inner : List Char} (whole : Whole inner) :
    (literalTag inner).spell = [.tag inner] := by
  have found := tagAt?_tagText whole []
  rw [List.append_nil] at found
  rw [literalTag, Node.spell, String.toList_ofList, found]

theorem closing_inner (kind : BlockKind) (name : String) :
    (Tag.closing kind name).inner = '/' :: kind.closing name := by
  cases kind <;> rfl

theorem Tag.Proper.closing {kind : BlockKind} {name : String} (h : (Tag.opens kind name).Proper) :
    (Tag.closing kind name).Proper := by
  rw [Tag.closing, Tag.Proper]
  split
  · rename_i section'
    exact ⟨h.1, h.2 section'⟩
  · rfl

mutual

/-- The pieces of a node make up its printed form. -/
theorem written_spell : ∀ n : Node, n.spell.flatMap Piece.written = n.print
  | .text s => by
    rw [Node.spell, Node.print]
    split
    · rename_i inner h
      simpa [Piece.written] using (eq_tagText_of_tagAt? h).1.symm
    · simp [Piece.written]
  | .field name => by simp [Node.spell, Node.print, Piece.written, Tag.inner]
  | .include name => by simp [Node.spell, Node.print, Piece.written, Tag.inner]
  | .block kind name body => by
    rw [Node.spell, Node.print, List.flatMap_cons, List.flatMap_append, written_spellAll body,
      closing_inner]
    simp [Piece.written, Tag.inner]

/-- The pieces of nodes make up their printed form. -/
theorem written_spellAll : ∀ ns : List Node, (spellAll ns).flatMap Piece.written = printAll ns
  | [] => rfl
  | n :: rest => by
    rw [spellAll, printAll, List.flatMap_append, written_spell n, written_spellAll rest]

end

/-! ### The parser run over pieces -/

namespace State

def run (st : State) (ps : List Piece) : State := ps.foldl step st

variable (st : State)

theorem run_append (ps qs : List Piece) : st.run (ps ++ qs) = (st.run ps).run qs := List.foldl_append

theorem run_cons (p : Piece) (ps : List Piece) : st.run (p :: ps) = (st.step p).run ps := rfl

theorem run_singleton (p : Piece) : st.run [p] = st.step p := rfl

theorem step_opens {inner : List Char} {kind : BlockKind} {name : String}
    (h : Tag.ofInner inner = .opens kind name) :
    st.step (.tag inner) = ⟨[], ⟨kind, name, inner, st.nodes⟩ :: st.opened⟩ := by
  rw [step, h]

theorem step_closes {inner : List Char} {kind : BlockKind} {name : String}
    (h : Tag.ofInner inner = .closes kind name) : st.step (.tag inner) =
      (closeBlock kind name st.nodes st.opened).getD ⟨literalTag inner :: st.nodes, st.opened⟩ := by
  rw [step, h]

theorem step_field {inner : List Char} {name : String} (h : Tag.ofInner inner = .field name) :
    st.step (.tag inner) = ⟨.field name :: st.nodes, st.opened⟩ := by
  rw [step, h]

theorem step_include {inner : List Char} {name : String} (h : Tag.ofInner inner = .include name) :
    st.step (.tag inner) = ⟨.include name :: st.nodes, st.opened⟩ := by
  rw [step, h]

theorem step_unknown {inner : List Char} (h : Tag.ofInner inner = .unknown) :
    st.step (.tag inner) = ⟨literalTag inner :: st.nodes, st.opened⟩ := by
  rw [step, h]

end State

/-! ### Closing tags -/

/-- A closing tag passes over the blocks that it does not fit and closes the first that it fits. -/
theorem closeBlock_of_closedBy {kind : BlockKind} {name : String} {f : Frame}
    (fits : f.closedBy kind name = true) (rest : List Frame) : ∀ (passed : List Frame) (nodes : List Node),
    (∀ e ∈ passed, e.closedBy kind name = false) → closeBlock kind name nodes (passed ++ f :: rest) =
      some ⟨.block f.kind f.name (unwindAll nodes passed).reverse :: f.before, rest⟩
  | [], nodes, _ => by
    rw [List.nil_append, closeBlock, if_pos fits]
    rfl
  | e :: passed, nodes, h => by
    rw [List.cons_append, closeBlock, h e List.mem_cons_self, if_neg Bool.false_ne_true, unwindAll]
    exact closeBlock_of_closedBy fits rest passed _ fun e' he' => h e' (List.mem_cons_of_mem _ he')

theorem closeBlock_eq_none_iff {kind : BlockKind} {name : String} {opened : List Frame}
    {nodes : List Node} : closeBlock kind name nodes opened = none ↔
      ∀ f ∈ opened, f.closedBy kind name = false := by
  induction opened generalizing nodes with
  | nil => simp [closeBlock]
  | cons f opened ih =>
    rw [closeBlock]
    by_cases fits : f.closedBy kind name = true
    · rw [if_pos fits]
      simp [fits]
    · rw [if_neg fits, ih]
      simp [fits]

/-- The innermost block that a closing tag fits, where there is one. -/
theorem exists_closedBy {kind : BlockKind} {name : String} {opened : List Frame}
    (h : ¬ ∀ f ∈ opened, f.closedBy kind name = false) : ∃ passed f rest, opened = passed ++ f :: rest ∧
      (∀ e ∈ passed, e.closedBy kind name = false) ∧ f.closedBy kind name = true := by
  induction opened with
  | nil => exact absurd (fun f hf => (List.not_mem_nil hf).elim) h
  | cons f opened ih =>
    cases fits : f.closedBy kind name with
    | true => exact ⟨[], f, opened, rfl, fun e he => (List.not_mem_nil he).elim, fits⟩
    | false =>
      have later : ¬ ∀ e ∈ opened, e.closedBy kind name = false := by
        intro all
        refine h fun e he => ?_
        rcases List.mem_cons.1 he with rfl | he
        · exact fits
        · exact all e he
      obtain ⟨passed, g, rest, rfl, apart, close⟩ := ih later
      refine ⟨f :: passed, g, rest, rfl, fun e he => ?_, close⟩
      rcases List.mem_cons.1 he with rfl | he
      · exact fits
      · exact apart e he

/-- What a closing tag asks of a block. -/
def Frame.key (f : Frame) : BlockKind × String := (f.kind, f.name)

theorem closedBy_of_key {f g : Frame} (h : f.key = g.key) (kind : BlockKind) (name : String) :
    f.closedBy kind name = g.closedBy kind name := by
  obtain ⟨same, same'⟩ := Prod.mk.inj h
  rw [Frame.closedBy, same, same']
  rfl

/-- The tag that closes a block fits the blocks of its kind, and for a section of its name. -/
theorem closedBy_closing {f : Frame} {kind : BlockKind} {name : String}
    (h : f.closedBy kind name = true) (proper : (Tag.closes kind name).Proper) :
    Tag.closes kind name = Tag.closing f.kind f.name := by
  simp only [Frame.closedBy, Bool.and_eq_true, Bool.or_eq_true, beq_iff_eq, bne_iff_ne] at h
  obtain ⟨rfl, named⟩ := h
  rw [Tag.closing]
  by_cases section' : f.kind = .section
  · rw [if_pos section', named.resolve_left fun other => other section']
  · rw [Tag.Proper, if_neg section'] at proper
    rw [if_neg section', proper]

theorem closedBy_self {f : Frame} :
    f.closedBy f.kind (if f.kind = .section then f.name else "") = true := by
  rw [Frame.closedBy, beq_self_eq_true, Bool.true_and]
  split
  · rw [beq_self_eq_true, Bool.or_true]
  · rename_i other
    rw [bne_iff_ne.2 other, Bool.true_or]

/-- The node is read from what it is spelled as. -/
def Node.ReadAt (st : State) (n : Node) : Prop := st.run n.spell = ⟨n :: st.nodes, st.opened⟩

/-- A block is read from what it is spelled as if its body is, up to blocks inside it that stay open and that
its closing tag does not fit. -/
theorem readAt_block {kind : BlockKind} {name : String} {body : List Node}
    (proper : (Tag.opens kind name).Proper) {st : State} {nodes : List Node} {passed : List Frame}
    (apart : ∀ e ∈ passed, e.closedBy kind (if kind = .section then name else "") = false)
    (unwound : (unwindAll nodes passed).reverse = body)
    (inside : ∀ f : Frame, f.key = (kind, name) → (State.mk [] (f :: st.opened)).run (spellAll body) =
      ⟨nodes, passed ++ f :: st.opened⟩) : (Node.block kind name body).ReadAt st := by
  have close := Tag.ofInner_inner proper.closing
  rw [Node.ReadAt, Node.spell, State.run_cons, State.step_opens st (Tag.ofInner_inner proper),
    State.run_append, inside _ rfl, State.run_singleton, State.step_closes _ close]
  dsimp only
  have fits := closedBy_self (f := ⟨kind, name, (Tag.opens kind name).inner, st.nodes⟩)
  rw [closeBlock_of_closedBy fits st.opened passed nodes apart, unwound]
  rfl

end PageSkins.Template
