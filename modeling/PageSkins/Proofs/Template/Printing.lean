import PageSkins.Proofs.Template.Spelling

/-!
# Reading what is printed

A tree whose names are words, and whose texts hold no tag and stand apart, is
read back from what it is printed as. Texts may hold braces, also next to tags,
and blocks of one kind and name may stand inside each other.
-/

namespace PageSkins.Template

open PageSkins.Text

/-! ### Trees that can be printed -/

def Node.IsText : Node → Prop
  | .text _ => True
  | _ => False

mutual

/-- Names are words, a section is not named like another kind of block, and text holds no tag. -/
def Node.Printable : Node → Prop
  | .text s => s ≠ "" ∧ Tagless s.toList
  | .field name | .include name => isName name.toList = true
  | .block kind name body =>
    isName name.toList = true ∧ (kind = .section → name ≠ "if" ∧ name ≠ "each") ∧ AllPrintable body

/-- Each node can be printed, and no two texts stand side by side. -/
def AllPrintable : List Node → Prop
  | [] => True
  | n :: rest => n.Printable ∧ (n.IsText → ∀ m ∈ rest.head?, ¬ m.IsText) ∧ AllPrintable rest

end

theorem reserved?_eq_none {name : String} (h : name ≠ "if" ∧ name ≠ "each") :
    reserved? name.toList = none := by
  have cond : name.toList ≠ ['i', 'f'] := fun e => h.1 (String.toList_inj.1 e)
  have each : name.toList ≠ ['e', 'a', 'c', 'h'] := fun e => h.2 (String.toList_inj.1 e)
  rw [reserved?, if_neg cond, if_neg each]

theorem Node.Printable.opens {kind : BlockKind} {name : String} {body : List Node}
    (h : (Node.block kind name body).Printable) : (Tag.opens kind name).Proper := by
  rw [Node.Printable] at h
  exact ⟨h.1, fun section' => reserved?_eq_none (h.2.1 section')⟩

mutual

theorem Node.Printable.readAt : ∀ (n : Node), n.Printable → ∀ st : State, n.ReadAt st
  | .text s, h, st => by
    rw [Node.Printable] at h
    have spelled := h.2.spell
    rw [String.ofList_toList] at spelled
    rw [Node.ReadAt, spelled, State.run_singleton, State.step, String.ofList_toList]
  | .field name, h, st => by
    rw [Node.Printable] at h
    exact State.step_field st (Tag.ofInner_inner (t := .field name) h)
  | .include name, h, st => by
    rw [Node.Printable] at h
    exact State.step_include st (Tag.ofInner_inner (t := .include name) h)
  | .block kind name body, h, st => by
    have proper := h.opens
    rw [Node.Printable] at h
    have inside : ∀ f : Frame, f.key = (kind, name) →
        (State.mk [] (f :: st.opened)).run (spellAll body) = ⟨body.reverse, [] ++ f :: st.opened⟩ := by
      intro f _
      rw [AllPrintable.run body h.2.2]
      simp
    have unwound : (unwindAll body.reverse []).reverse = body := List.reverse_reverse body
    exact readAt_block proper (fun e he => by cases he) unwound inside

/-- The parser reads nodes that can be printed, whatever stands before them and around them. -/
theorem AllPrintable.run : ∀ (ns : List Node), AllPrintable ns → ∀ st : State,
    st.run (spellAll ns) = ⟨ns.reverse ++ st.nodes, st.opened⟩
  | [], _, st => rfl
  | n :: rest, h, st => by
    rw [AllPrintable] at h
    have first : st.run n.spell = ⟨n :: st.nodes, st.opened⟩ := Node.Printable.readAt n h.1 st
    rw [spellAll, State.run_append, first, AllPrintable.run rest h.2.2]
    simp

end

theorem startsApart_spell {n : Node} (h : ¬ n.IsText) (ps : List Piece) : StartsApart (n.spell ++ ps) := by
  cases n with
  | text s => exact absurd trivial h
  | _ =>
    rw [Node.spell]
    exact startsApart_tag _ _

mutual

theorem Node.Printable.cut : ∀ (n : Node), n.Printable → ∀ {after : List Piece}, Cut after →
    (n.IsText → StartsApart after) → Cut (n.spell ++ after)
  | .text s, h, after, rest, apart => by
    rw [Node.Printable] at h
    have spelled := h.2.spell
    rw [String.ofList_toList] at spelled
    have some' : s.toList ≠ [] := fun e => h.1 (String.toList_inj.1 e)
    rw [spelled]
    exact Cut.text some' h.2 (apart trivial) rest
  | .field name, h, after, rest, _ => by
    rw [Node.Printable] at h
    exact Cut.tag (Tag.whole_inner (t := .field name) h) rest
  | .include name, h, after, rest, _ => by
    rw [Node.Printable] at h
    exact Cut.tag (Tag.whole_inner (t := .include name) h) rest
  | .block kind name body, h, after, rest, _ => by
    have proper := h.opens
    rw [Node.Printable] at h
    rw [Node.spell, List.cons_append, List.append_assoc]
    refine Cut.tag (Tag.whole_inner proper) (AllPrintable.cut body h.2.2 ?_ (startsApart_tag _ _))
    exact Cut.tag (Tag.whole_inner proper.closing) rest

/-- The pieces of nodes that can be printed are pieces as a template is cut into them. -/
theorem AllPrintable.cut : ∀ (ns : List Node), AllPrintable ns → ∀ {after : List Piece}, Cut after →
    StartsApart after → Cut (spellAll ns ++ after)
  | [], _, after, rest, _ => rest
  | n :: ns, h, after, rest, apart => by
    rw [AllPrintable] at h
    rw [spellAll, List.append_assoc]
    refine Node.Printable.cut n h.1 (AllPrintable.cut ns h.2.2 rest apart) fun text => ?_
    cases ns with
    | nil => exact apart
    | cons m ns =>
      rw [spellAll, List.append_assoc]
      exact startsApart_spell (h.2.1 text m rfl) _

end

/-- Reading what nodes are printed as is running the parser over what they are spelled as. -/
theorem parse_printAll_eq {ns : List Node} (h : Cut (spellAll ns)) :
    parse (printAll ns) = (State.run ⟨[], []⟩ (spellAll ns)).finish := by
  rw [parse, ← written_spellAll, pieces_written h]
  rfl

/-- A tree that can be printed is read back from what it is printed as. -/
theorem parse_printAll {ns : List Node} (h : AllPrintable ns) : parse (printAll ns) = ns := by
  have cut : Cut (spellAll ns) := by
    have pieces := AllPrintable.cut ns h Cut.nil fun p hp => by cases hp
    rwa [List.append_nil] at pieces
  rw [parse_printAll_eq cut, AllPrintable.run ns h]
  simp [State.finish, unwindAll]

/-- Blocks of one name inside each other, a field and a template named like kinds of block, and texts with
braces next to tags. -/
def nested : List Node := [
  .text "a\x7b",
  .block .section "x" [.block .section "x" [.field "if"], .text "\x7d\x7d"],
  .include "each"]

theorem parse_printAll_nested : AllPrintable nested ∧ parse (printAll nested) = nested := by
  have printable : AllPrintable nested := by
    have opening : Tagless ['a', '\x7b'] := tagless_of_notMem (Or.inr rfl) (by decide)
    have closing : Tagless ['\x7d', '\x7d'] := tagless_of_notMem (Or.inl rfl) (by decide)
    have names : isName ['x'] = true ∧ isName ['i', 'f'] = true ∧
        isName ['e', 'a', 'c', 'h'] = true := by decide +kernel
    simp [nested, AllPrintable, Node.Printable, Node.IsText, opening, closing, names]
  exact ⟨printable, parse_printAll printable⟩

end PageSkins.Template
