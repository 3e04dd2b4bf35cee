import Mathlib.Data.List.Forall2
import PageSkins.Proofs.Template.Printing

/-!
# The normal form of a template

Whatever a template holds, tags that close nothing and blocks that are never
closed included, its tree is printed as the template but for blanks inside tags,
and is read back from that.

The parser is followed step by step. What it holds at any time, its open blocks
and the nodes in them, spells what it has read so far; and each of the node lists
is read from its own spelling, in any blocks of the same kinds and names.
-/

namespace PageSkins.Template

open PageSkins.Text

/-! ### Pieces that differ by blanks -/

/-- Two pieces that differ by blanks inside a tag only. -/
inductive Alike : Piece → Piece → Prop
  | refl (p : Piece) : Alike p p
  | tag {inner inner' : List Char} (same : solid inner = solid inner')
      (whole : Whole inner → Whole inner') : Alike (.tag inner) (.tag inner')

theorem Alike.trans {p q r : Piece} (h : Alike p q) (h' : Alike q r) : Alike p r := by
  cases h with
  | refl p => exact h'
  | tag same whole =>
    cases h' with
    | refl q => exact .tag same whole
    | tag same' whole' => exact .tag (same.trans same') fun w => whole' (whole w)

/-- A known tag is alike to its form. -/
theorem Alike.form {inner : List Char} {t : Tag} (h : Tag.ofInner inner = t) (known : t ≠ .unknown) :
    t.Proper ∧ Alike (.tag inner) (.tag t.inner) := by
  subst h
  obtain ⟨proper, same⟩ := Tag.reads_ofInner inner known
  exact ⟨proper, .tag same.symm fun _ => Tag.whole_inner proper⟩

theorem Alike.solid {p q : Piece} (h : Alike p q) :
    Template.solid p.written = Template.solid q.written := by
  cases h with
  | refl p => rfl
  | tag same _ =>
    rw [Piece.written, Piece.written, tagText, tagText, solid_cons, solid_cons (s := _ :: _),
      solid_cons (s := _ ++ _), solid_cons (s := _ ++ _), solid_append, solid_append, same]

abbrev AllAlike : List Piece → List Piece → Prop := List.Forall₂ Alike

theorem AllAlike.refl (ps : List Piece) : AllAlike ps ps :=
  List.forall₂_same.2 fun p _ => Alike.refl p

theorem AllAlike.trans {ps qs rs : List Piece} (h : AllAlike ps qs) (h' : AllAlike qs rs) :
    AllAlike ps rs := by
  induction h generalizing rs with
  | nil => exact h'
  | cons first _ ih =>
    cases h' with
    | cons first' others' => exact List.Forall₂.cons (first.trans first') (ih others')

theorem AllAlike.solid {ps qs : List Piece} (h : AllAlike ps qs) :
    Template.solid (ps.flatMap Piece.written) = Template.solid (qs.flatMap Piece.written) := by
  induction h with
  | nil => rfl
  | cons first _ ih =>
    rw [List.flatMap_cons, List.flatMap_cons, solid_append, solid_append, first.solid, ih]

theorem AllAlike.cut {ps qs : List Piece} (h : AllAlike ps qs) (cut : Cut ps) : Cut qs := by
  induction h with
  | nil => exact cut
  | @cons p q ps qs first others ih =>
    cases cut with
    | tag whole rest =>
      cases first with
      | refl => exact Cut.tag whole (ih rest)
      | tag _ whole' => exact Cut.tag (whole' whole) (ih rest)
    | text some' tagless apart rest =>
      cases first with
      | refl =>
        refine Cut.text some' tagless ?_ (ih rest)
        cases others with
        | nil => exact apart
        | cons second _ =>
          cases second with
          | refl => exact apart
          | tag _ _ => exact startsApart_tag _ _

/-! ### What the parser holds -/

/-- Nodes, last first, are read from what they are spelled as, in blocks with these keys. -/
def Settled (keys : List (BlockKind × String)) (nodes : List Node) : Prop :=
  ∀ st : State, st.opened.map Frame.key = keys →
    st.run (spellAll nodes.reverse) = ⟨nodes ++ st.nodes, st.opened⟩

theorem Settled.nil (keys : List (BlockKind × String)) : Settled keys [] := fun _ _ => rfl

theorem Settled.cons {keys : List (BlockKind × String)} {nodes : List Node} {n : Node}
    (h : Settled keys nodes) (first : ∀ st : State, st.opened.map Frame.key = keys → n.ReadAt st) :
    Settled keys (n :: nodes) := by
  intro st hk
  have last : State.run ⟨nodes ++ st.nodes, st.opened⟩ n.spell =
      ⟨n :: (nodes ++ st.nodes), st.opened⟩ := first ⟨_, _⟩ hk
  rw [List.reverse_cons, spellAll_append, spellAll_singleton, State.run_append, h st hk, last]
  rfl

/-- The opening tag of a block says what block it is. -/
structure Frame.Opened (f : Frame) : Prop where
  tag : Tag.ofInner f.inner = .opens f.kind f.name
  whole : Whole f.inner

/-- Nodes, last first, and the blocks around them, innermost first, inside further blocks with the keys
`below`: the nodes in each block are settled. -/
def Sound (below : List (BlockKind × String)) : List Node → List Frame → Prop
  | nodes, [] => Settled below nodes
  | nodes, f :: rest =>
    Settled ((f :: rest).map Frame.key ++ below) nodes ∧ f.Opened ∧ Sound below f.before rest

/-- The pieces of nodes, last first, and of the blocks around them, innermost first. -/
def spelled : List Node → List Frame → List Piece
  | nodes, [] => spellAll nodes.reverse
  | nodes, f :: rest => spelled f.before rest ++ .tag f.inner :: spellAll nodes.reverse

theorem spelled_append (nodes : List Node) (f : Frame) (rest : List Frame) (passed : List Frame) :
    spelled nodes (passed ++ f :: rest) =
      spelled f.before rest ++ .tag f.inner :: spelled nodes passed := by
  induction passed generalizing nodes with
  | nil => rfl
  | cons e passed ih =>
    rw [List.cons_append, spelled, ih, spelled]
    simp only [List.append_assoc, List.cons_append]

theorem spelled_nodes (later nodes : List Node) (opened : List Frame) :
    spelled (later ++ nodes) opened = spelled nodes opened ++ spellAll later.reverse := by
  cases opened with
  | nil => rw [spelled, spelled, List.reverse_append, spellAll_append]
  | cons f rest =>
    rw [spelled, spelled, List.reverse_append, spellAll_append]
    simp only [List.append_assoc, List.cons_append]

/-- Blocks that are taken as text are spelled as before. -/
theorem spellAll_unwindAll {opened : List Frame} (h : ∀ f ∈ opened, Whole f.inner) (nodes : List Node) :
    spellAll (unwindAll nodes opened).reverse = spelled nodes opened := by
  induction opened generalizing nodes with
  | nil => rfl
  | cons f opened ih =>
    have literal : spellAll [literalTag f.inner] = [.tag f.inner] := by
      rw [spellAll_singleton, spell_literalTag (h f List.mem_cons_self)]
    have split : f.unwind nodes = (nodes ++ [literalTag f.inner]) ++ f.before := by
      rw [Frame.unwind, List.append_assoc]
      rfl
    rw [unwindAll, ih fun g hg => h g (List.mem_cons_of_mem _ hg), split, spelled_nodes,
      List.reverse_append, spellAll_append, List.reverse_singleton, literal]
    rfl

namespace Sound

variable {below : List (BlockKind × String)} {nodes : List Node} {opened : List Frame}

theorem push {n : Node} (h : Sound below nodes opened)
    (first : ∀ st : State, st.opened.map Frame.key = opened.map Frame.key ++ below → n.ReadAt st) :
    Sound below (n :: nodes) opened := by
  cases opened with
  | nil => exact Settled.cons h first
  | cons f rest => exact ⟨h.1.cons first, h.2⟩

theorem whole (h : Sound below nodes opened) : ∀ f ∈ opened, Whole f.inner := by
  induction opened generalizing nodes with
  | nil => exact fun f hf => (List.not_mem_nil hf).elim
  | cons f rest ih =>
    intro g hg
    rcases List.mem_cons.1 hg with rfl | hg
    · exact h.2.1.whole
    · exact ih h.2.2 g hg

/-- Inside and outside one of the blocks. -/
theorem split {f : Frame} {rest : List Frame} : ∀ {passed : List Frame} {nodes : List Node},
    Sound below nodes (passed ++ f :: rest) →
      Sound ((f :: rest).map Frame.key ++ below) nodes passed ∧ f.Opened ∧ Sound below f.before rest
  | [], _, h => h
  | e :: passed, nodes, h => by
    obtain ⟨inner, opened, outer⟩ := h
    obtain ⟨inside, others⟩ := split outer
    refine ⟨⟨?_, opened, inside⟩, others⟩
    rw [← List.append_assoc, ← List.map_append]
    exact inner

/-- The parser, started where such blocks begin, comes to hold them when it reads what they are spelled as. -/
theorem run (h : Sound below nodes opened) (around : List Frame)
    (keys : around.map Frame.key = below) :
    State.run ⟨[], around⟩ (spelled nodes opened) = ⟨nodes, opened ++ around⟩ := by
  induction opened generalizing nodes with
  | nil =>
    have read := h ⟨[], around⟩ keys
    rwa [List.append_nil] at read
  | cons f rest ih =>
    have inside := h.1 ⟨[], f :: rest ++ around⟩ (by rw [List.map_append, keys])
    rw [spelled, State.run_append, ih h.2.2, State.run_cons, State.step_opens _ h.2.1.tag]
    rw [List.append_nil] at inside
    exact inside

end Sound

/-! ### One step -/

structure State.Holds (read : List Piece) (st : State) : Prop where
  sound : Sound [] st.nodes st.opened
  alike : AllAlike read (spelled st.nodes st.opened)

/-- A node that spells the next piece is held with what was held before. -/
theorem State.Holds.push {read : List Piece} {st : State} (h : st.Holds read) {p q : Piece} {n : Node}
    (alike : Alike p q) (spell : n.spell = [q])
    (first : ∀ st' : State, st'.opened.map Frame.key = st.opened.map Frame.key → n.ReadAt st') :
    State.Holds (read ++ [p]) ⟨n :: st.nodes, st.opened⟩ := by
  refine ⟨h.sound.push (by simpa using first), ?_⟩
  have longer : spelled (n :: st.nodes) st.opened = spelled st.nodes st.opened ++ [q] := by
    have one := spelled_nodes [n] st.nodes st.opened
    rwa [List.reverse_singleton, spellAll_singleton, spell] at one
  rw [longer]
  exact List.rel_append h.alike (List.Forall₂.cons alike List.Forall₂.nil)

theorem State.Holds.push_literal {read : List Piece} {st : State} (h : st.Holds read)
    {inner : List Char} (whole : Whole inner)
    (first : ∀ st' : State, st'.opened.map Frame.key = st.opened.map Frame.key →
      st'.step (.tag inner) = ⟨literalTag inner :: st'.nodes, st'.opened⟩) :
    State.Holds (read ++ [.tag inner]) (st.step (.tag inner)) := by
  have spell := spell_literalTag whole
  rw [first st rfl]
  refine h.push (Alike.refl _) spell fun st' hk => ?_
  rw [Node.ReadAt, spell]
  exact first st' hk

/-- Whether a closing tag fits a block hangs on the keys. -/
theorem closeBlock_none_of_keys {kind : BlockKind} {name : String} {opened opened' : List Frame}
    (keys : opened'.map Frame.key = opened.map Frame.key)
    (none : ∀ f ∈ opened, f.closedBy kind name = false) : ∀ f ∈ opened', f.closedBy kind name = false := by
  intro f hf
  have hm : f.key ∈ opened.map Frame.key := keys ▸ List.mem_map_of_mem hf
  obtain ⟨g, hg, same⟩ := List.mem_map.1 hm
  rw [closedBy_of_key same.symm]
  exact none g hg

/-- The block that is closed spells its tags and what was read between them. -/
theorem State.Holds.close {read : List Piece} {nodes : List Node} {passed : List Frame} {f : Frame}
    {rest : List Frame} (h : State.Holds read ⟨nodes, passed ++ f :: rest⟩) {inner : List Char}
    {kind : BlockKind} {name : String} (tag : Tag.ofInner inner = .closes kind name)
    (apart : ∀ e ∈ passed, e.closedBy kind name = false) (fits : f.closedBy kind name = true) :
    State.Holds (read ++ [.tag inner])
      ⟨.block f.kind f.name (unwindAll nodes passed).reverse :: f.before, rest⟩ := by
  obtain ⟨inside, opened, outside⟩ := h.sound.split
  obtain ⟨proper, openAlike⟩ := Alike.form opened.tag nofun
  obtain ⟨closeProper, closeAlike⟩ := Alike.form tag nofun
  have closing := closedBy_closing fits closeProper
  obtain ⟨rfl, rfl⟩ := Tag.closes.inj closing
  have body : spellAll (unwindAll nodes passed).reverse = spelled nodes passed :=
    spellAll_unwindAll inside.whole nodes
  refine ⟨outside.push fun st hk => ?_, ?_⟩
  · refine readAt_block proper apart rfl fun g hg => ?_
    rw [body]
    refine inside.run (g :: st.opened) ?_
    rw [List.append_nil] at hk ⊢
    rw [List.map_cons, List.map_cons, hk, hg]
    rfl
  · have before : AllAlike read (spelled f.before rest ++ .tag f.inner :: spelled nodes passed) := by
      rw [← spelled_append]
      exact h.alike
    have after : spelled (.block f.kind f.name (unwindAll nodes passed).reverse :: f.before) rest =
        spelled f.before rest ++ .tag (Tag.opens f.kind f.name).inner :: spelled nodes passed ++
          [.tag (Tag.closing f.kind f.name).inner] := by
      have one := spelled_nodes [.block f.kind f.name (unwindAll nodes passed).reverse] f.before rest
      rw [List.reverse_singleton, spellAll_singleton, Node.spell, body] at one
      simpa using one
    have form : AllAlike (spelled f.before rest ++ .tag f.inner :: spelled nodes passed)
        (spelled f.before rest ++ .tag (Tag.opens f.kind f.name).inner :: spelled nodes passed) :=
      List.rel_append (AllAlike.refl _) (List.Forall₂.cons openAlike (AllAlike.refl _))
    rw [after]
    exact List.rel_append (before.trans form) (List.Forall₂.cons closeAlike List.Forall₂.nil)

def Piece.Valid : Piece → Prop
  | .text s => Tagless s
  | .tag inner => Whole inner

theorem State.Holds.step {read : List Piece} {st : State} (h : st.Holds read) :
    ∀ {p : Piece}, p.Valid → State.Holds (read ++ [p]) (st.step p)
  | .text s, tagless => by
    have spell := Tagless.spell tagless
    refine h.push (Alike.refl _) spell fun st' _ => ?_
    rw [Node.ReadAt, spell]
    rfl
  | .tag inner, whole => by
    cases tag : Tag.ofInner inner with
    | opens kind name =>
      rw [State.step_opens st tag]
      refine ⟨⟨Settled.nil _, ⟨tag, whole⟩, h.sound⟩, ?_⟩
      exact List.rel_append h.alike (List.Forall₂.cons (Alike.refl _) List.Forall₂.nil)
    | closes kind name =>
      by_cases unfit : ∀ f ∈ st.opened, f.closedBy kind name = false
      · refine h.push_literal whole fun st' hk => ?_
        have closed : closeBlock kind name st'.nodes st'.opened = none :=
          closeBlock_eq_none_iff.2 (closeBlock_none_of_keys hk unfit)
        rw [State.step_closes st' tag, closed]
        rfl
      · obtain ⟨passed, f, rest, opened, apart, fits⟩ := exists_closedBy unfit
        obtain ⟨nodes, _⟩ := st
        dsimp only at opened
        subst opened
        rw [State.step_closes _ tag, closeBlock_of_closedBy fits rest passed nodes apart]
        exact h.close tag apart fits
    | «include» name =>
      obtain ⟨proper, alike⟩ := Alike.form tag nofun
      rw [State.step_include st tag]
      exact h.push alike rfl fun st' _ => State.step_include st' (Tag.ofInner_inner proper)
    | field name =>
      obtain ⟨proper, alike⟩ := Alike.form tag nofun
      rw [State.step_field st tag]
      exact h.push alike rfl fun st' _ => State.step_field st' (Tag.ofInner_inner proper)
    | unknown => exact h.push_literal whole fun st' _ => State.step_unknown st' tag

/-! ### The whole template -/

theorem Cut.valid {ps : List Piece} (h : Cut ps) : ∀ p ∈ ps, p.Valid := by
  induction h with
  | nil => exact fun p hp => (List.not_mem_nil hp).elim
  | tag whole _ ih => exact List.forall_mem_cons.2 ⟨whole, ih⟩
  | text _ tagless _ _ ih => exact List.forall_mem_cons.2 ⟨tagless, ih⟩

theorem State.Holds.run {read : List Piece} {st : State} (h : st.Holds read) {ps : List Piece}
    (valid : ∀ p ∈ ps, p.Valid) : State.Holds (read ++ ps) (st.run ps) := by
  induction ps generalizing read st with
  | nil => rwa [List.append_nil]
  | cons p ps ih =>
    have next := ih (h.step (valid p List.mem_cons_self)) fun q hq => valid q (List.mem_cons_of_mem _ hq)
    rwa [List.append_assoc] at next

/-- What a template is printed as, once parsed, is the template but for blanks inside tags. -/
theorem alike_spell_parse (template : List Char) : AllAlike (pieces template) (spellAll (parse template)) ∧
    (State.run ⟨[], []⟩ (spellAll (parse template))).finish = parse template := by
  have start : State.Holds [] ⟨[], []⟩ := ⟨Settled.nil _, List.Forall₂.nil⟩
  have done := start.run (cut_pieces template).1.valid
  rw [List.nil_append] at done
  have tree : parse template = (State.run ⟨[], []⟩ (pieces template)).finish := rfl
  generalize State.run ⟨[], []⟩ (pieces template) = st at done tree
  have spell : spellAll (parse template) = spelled st.nodes st.opened := by
    rw [tree, State.finish, spellAll_unwindAll done.sound.whole]
  have again : State.run ⟨[], []⟩ (spelled st.nodes st.opened) = st := by
    have run := done.sound.run [] rfl
    rwa [List.append_nil] at run
  rw [spell, again]
  exact ⟨done.alike, tree.symm⟩

/-- Parsing and printing a template changes nothing but blanks, and what is printed is parsed to the same
tree. -/
theorem solid_printAll_parse (template : List Char) :
    solid (printAll (parse template)) = solid template ∧
      parse (printAll (parse template)) = parse template := by
  obtain ⟨alike, again⟩ := alike_spell_parse template
  obtain ⟨cut, same⟩ := cut_pieces template
  refine ⟨?_, ?_⟩
  · rw [← written_spellAll, ← alike.solid, same]
  · rw [parse_printAll_eq (alike.cut cut), again]

end PageSkins.Template
