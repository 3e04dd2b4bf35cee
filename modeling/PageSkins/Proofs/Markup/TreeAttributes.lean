import Mathlib.Tactic.SplitIfs
import PageSkins.Markup.Tree
import PageSkins.Proofs.Markup.AttributeNames

/-!
# Attributes through the construction of a tree

Every node of a tree under construction gets its attributes from a tag, from
another node or not at all. A property of attributes that all tags have, and
that the renaming in drawings keeps, therefore holds of every attribute of the
finished tree, whatever is moved, copied or closed on the way.
-/

namespace PageSkins.Markup

variable {P : Attribute → Prop}

namespace Arena

/-- Every attribute of every node has the property. -/
def Carries (P : Attribute → Prop) (a : Arena) : Prop := ∀ i, ∀ x ∈ (a.get i).attributes, P x

theorem get_modify (a : Arena) (i j : Nat) (f : Element → Element) :
    (Arena.get (a.modify i f) j) = if i = j ∧ j < a.size then f (a.get j) else a.get j := by
  simp only [Arena.get, Array.getD_eq_getD_getElem?, Array.getElem?_modify]
  by_cases hi : i = j
  · by_cases hj : j < a.size
    · simp [hi, hj]
    · simp [hi, hj]
  · simp [hi]

theorem get_push (a : Arena) (e : Element) (j : Nat) :
    Arena.get (a.push e) j = if j = a.size then e else a.get j := by
  simp only [Arena.get, Array.getD_eq_getD_getElem?, Array.getElem?_push]
  split <;> rfl

variable {a : Arena}

theorem Carries.modify (h : a.Carries P) (i : Nat) {f : Element → Element}
    (same : ∀ e, (f e).attributes = e.attributes) : Arena.Carries P (a.modify i f) := by
  intro j x hx
  rw [get_modify] at hx
  split at hx
  · exact h j x (by rwa [same] at hx)
  · exact h j x hx

theorem Carries.add (h : a.Carries P) {e : Element} (he : ∀ x ∈ e.attributes, P x) :
    (a.add e).1.Carries P := by
  intro j x hx
  simp only [Arena.add, get_push] at hx
  split at hx
  · exact he x hx
  · exact h j x hx

theorem Carries.appendChild (h : a.Carries P) (parent child : Nat) (tail : List Char) :
    (a.appendChild parent child tail).Carries P := by
  refine Carries.modify (Carries.modify h parent ?_) child ?_
  · intro e
    rfl
  · intro e
    rfl

theorem attributes_addBranchBefore (e : Element) (child : Nat) (b : Branch) :
    (e.addBranchBefore child b).attributes = e.attributes := by
  unfold Element.addBranchBefore
  split
  · rfl
  · rfl

theorem attributes_addText (e : Element) (s : List Char) : (e.addText s).attributes = e.attributes := by
  unfold Element.addText
  split
  · rfl
  · rfl

theorem attributes_addTextBefore (e : Element) (child : Nat) (s : List Char) :
    (e.addTextBefore child s).attributes = e.attributes := by
  unfold Element.addTextBefore
  split
  · rfl
  · rfl

theorem Carries.insertBefore (h : a.Carries P) (parent next child : Nat) (tail : List Char) :
    (a.insertBefore parent next child tail).Carries P :=
  (h.modify parent (fun e => attributes_addBranchBefore e next _)).modify child (fun _ => rfl)

theorem Carries.detach (h : a.Carries P) (child : Nat) : (a.detach child).1.Carries P := by
  unfold Arena.detach
  split
  · exact h
  · refine Carries.modify (Carries.modify h _ ?_) child ?_
    · intro e
      rfl
    · intro e
      rfl

theorem Carries.handOn (h : a.Carries P) (source target : Nat) :
    (a.handOn source target).Carries P := by
  have moved := (h.modify source (f := ({ · with lead := [], branches := #[] })) (fun _ => rfl)).modify
    target (f := ({ · with
      lead := (a.get source).lead
      branches := (a.get source).branches.filter (·.listed) })) (fun _ => rfl)
  unfold Arena.handOn
  dsimp only
  rw [← Array.foldl_toList]
  revert moved
  generalize ((a.get source).branches.filter (·.listed)).toList = kept
  generalize Array.modify _ _ _ = start
  intro moved
  induction kept generalizing start with
  | nil => exact moved
  | cons b rest ih => exact ih _ (moved.modify b.id (fun _ => rfl))

end Arena

/-- The attributes of the tag that a token opens, if it opens one. -/
def Token.Carries (P : Attribute → Prop) : Token → Prop
  | .start t => ∀ x ∈ t.attributes, P x
  | _ => True

namespace Builder

def Carries (P : Attribute → Prop) (b : Builder) : Prop := b.arena.Carries P

variable {b : Builder}

theorem Carries.openElement (h : b.Carries P) {e : Element} (he : ∀ x ∈ e.attributes, P x) :
    (b.openElement e).Carries P := by
  have added : (b.arena.add e).1.Carries P := Arena.Carries.add h he
  unfold Builder.openElement Builder.Carries
  dsimp only
  split
  · split
    · exact added.insertBefore _ _ _ _
    · exact added.appendChild _ _ _
  · exact added.appendChild _ _ _

theorem Carries.openTag (h : b.Carries P) {t : Tag} (ht : ∀ x ∈ t.attributes, P x) :
    (b.openTag t).Carries P :=
  h.openElement ht

theorem Carries.openName (h : b.Carries P) (name : String) : (b.openName name).Carries P :=
  h.openElement (by simp)

theorem Carries.addText (h : b.Carries P) (s : List Char) : (b.addText s).Carries P := by
  unfold Builder.addText
  split
  · exact h
  · split
    · split
      · exact Arena.Carries.modify h _ (fun e => Arena.attributes_addTextBefore e _ s)
      · exact Arena.Carries.modify h _ (fun e => Arena.attributes_addText e s)
    · exact Arena.Carries.modify h _ (fun e => Arena.attributes_addText e s)

theorem Carries.addComment (h : b.Carries P) : b.addComment.Carries P := by
  have added : (b.arena.add { name := none }).1.Carries P := Arena.Carries.add h (by simp)
  exact added.appendChild _ _ _

theorem Carries.copy (h : b.Carries P) (i : Nat) : ∀ x ∈ (b.copy i).attributes, P x := h i

theorem Carries.reopen : ∀ {is : List Nat} {b : Builder}, b.Carries P → (b.reopen is).1.Carries P
  | [], _, h => h
  | i :: rest, b, h => by
    have opened : (b.openElement (b.copy i)).Carries P := h.openElement (h.copy i)
    exact @Carries.reopen rest _ opened

theorem Carries.reopenFormatting (h : b.Carries P) : b.reopenFormatting.Carries P := h.reopen

theorem Carries.openFormatting (h : b.Carries P) {t : Tag} (ht : ∀ x ∈ t.attributes, P x) :
    (b.openFormatting t).Carries P :=
  h.openTag ht

/-! ### Formatting closed out of order -/

theorem Carries.rechain (block : Nat) : ∀ (rounds : Nat) (is : List Nat) {c : Chain},
    c.builder.Carries P → (rechain block rounds is c).builder.Carries P
  | 0, is, c, h => by
    cases is <;> exact h
  | rounds + 1, [], c, h => h
  | rounds + 1, i :: rest, c, h => by
    unfold Builder.rechain
    dsimp only
    split
    · exact Carries.rechain block rounds rest h
    · have added : (c.builder.arena.add (c.builder.copy i)).1.Carries P :=
        Arena.Carries.add h (h.copy i)
      exact Carries.rechain block rounds rest ((added.detach c.last).appendChild _ _ _)

theorem Carries.moveOut (h : b.Carries P) (format block ancestor : Nat) :
    (b.moveOut format block ancestor).Carries P := by
  unfold Builder.moveOut
  dsimp only
  generalize List.takeWhile _ (List.drop 1 (List.dropWhile _ b.opened)) = between
  generalize Option.getD _ _ = bookmark
  have chained : (Builder.rechain block 3 between ⟨b, block, bookmark⟩).builder.Carries P :=
    Carries.rechain block 3 between h
  revert chained
  generalize Builder.rechain block 3 between ⟨b, block, bookmark⟩ = c
  intro chained
  have detached : Arena.Carries P (c.builder.arena.detach c.last).1 := Arena.Carries.detach chained c.last
  revert detached
  generalize c.builder.arena.detach c.last = d
  intro detached
  unfold Builder.Carries
  dsimp only
  apply Arena.Carries.appendChild
  apply Arena.Carries.handOn
  apply Arena.Carries.add
  · split
    · generalize Builder.fosterPlace _ = place
      rcases place with ⟨p, _ | t⟩
      · exact detached.appendChild _ _ _
      · exact detached.insertBefore _ _ _ _
    · exact detached.appendChild _ _ _
  · exact detached format

/-- What a round leaves, if it leaves a new state. -/
def Round.Carries (P : Attribute → Prop) : Round → Prop
  | .absent => True
  | .done b | .again b => b.Carries P

theorem Carries.closeFormattingRound (h : b.Carries P) (name : String) :
    (b.closeFormattingRound name).Carries P := by
  unfold Builder.closeFormattingRound
  split
  · trivial
  · dsimp only
    split_ifs
    · trivial
    · exact h
    · split
      · exact h
      · exact h.moveOut _ _ _

/-- What is made of a tag has the property, whether or not the tag is taken again. -/
def Outcome.Carries (P : Attribute → Prop) (o : Outcome) : Prop := o.1.Carries P

theorem Outcome.carries_ite {c : Prop} [Decidable c] {x y : Outcome}
    (hx : Outcome.Carries P x) (hy : Outcome.Carries P y) :
    Outcome.Carries P (if c then x else y) := by
  split
  · exact hx
  · exact hy

/-! ### Closing tags -/

theorem endOther_go_arena (name : String) : ∀ is : List Nat, (endOther.go b name is).arena = b.arena
  | [] => rfl
  | i :: rest => by
    unfold endOther.go
    split_ifs
    · rfl
    · rfl
    · exact endOther_go_arena name rest

theorem Carries.endOther (h : b.Carries P) (name : String) : (b.endOther name).Carries P := by
  unfold Builder.Carries Builder.endOther
  rw [endOther_go_arena]
  exact h

theorem Carries.endParagraph (h : b.Carries P) : b.endParagraph.Carries P := by
  unfold Builder.endParagraph
  split
  · exact h
  · exact h.openName "p"

theorem Carries.endBlock (h : b.Carries P) (name : String) : (b.endBlock name).Carries P := by
  have kept : ({ b with dropBreak := false } : Builder).Carries P := h
  unfold Builder.endBlock
  dsimp only
  split_ifs
  · exact kept
  · exact kept
  · exact h
  · exact h

theorem Carries.endForm (h : b.Carries P) : b.endForm.Carries P := by
  unfold Builder.endForm
  dsimp only
  split
  · exact h
  · split
    · exact h
    · exact h

theorem Carries.endListItem (h : b.Carries P) (name : String) : (b.endListItem name).Carries P := by
  unfold Builder.endListItem
  split_ifs
  · exact h
  · exact h
  · exact h
  · exact h

theorem Carries.endHeading (h : b.Carries P) : b.endHeading.Carries P := by
  unfold Builder.endHeading
  dsimp only
  split_ifs
  · exact h
  · exact h
  · exact h

theorem Carries.endFormatting (name : String) : ∀ {rounds : Nat} {b : Builder},
    b.Carries P → (endFormatting name rounds b).Carries P
  | 0, _, h => h
  | rounds + 1, b, h => by
    have round := h.closeFormattingRound name
    unfold Builder.endFormatting
    split
    · exact h.endOther name
    · rename_i b' hb
      rw [hb] at round
      exact round
    · rename_i b' hb
      rw [hb] at round
      exact Carries.endFormatting name round

theorem Carries.endBreak (h : b.Carries P) : b.endBreak.Carries P :=
  h.reopenFormatting.openName "br"

theorem Carries.endInBody (h : b.Carries P) (name : String) : (b.endInBody name).Carries P := by
  unfold Builder.endInBody
  split_ifs
  · exact h.endBlock name
  · exact h.endForm
  · exact h.endParagraph
  · exact h.endListItem name
  · exact h.endHeading
  · exact Carries.endFormatting name h
  · exact h.endBreak
  · exact h.endOther name

theorem Carries.endInTable (h : b.Carries P) (name : String) : (b.endInTable name).Carries P := by
  have before : ({ b with beforeTable := true } : Builder).Carries P := h
  unfold Builder.endInTable
  split_ifs
  · exact h
  · exact h
  · exact h
  · exact before.endInBody name

theorem Carries.endRowGroup (h : b.Carries P) (name : String) : (b.endRowGroup name).Carries P := by
  unfold Builder.endRowGroup
  split
  · exact h
  · exact h

theorem Carries.leaveRowGroup (h : b.Carries P) : b.leaveRowGroup.1.Carries P := by
  unfold Builder.leaveRowGroup
  split
  · exact Carries.endRowGroup (b := b.clearToGroup) h _
  · exact h

theorem Carries.endInTableBody (h : b.Carries P) (name : String) :
    (b.endInTableBody name).1.Carries P := by
  unfold Builder.endInTableBody
  split_ifs
  · exact h.leaveRowGroup
  · exact h.endRowGroup name
  · exact h
  · exact h.endInTable name

theorem Carries.endRow (h : b.Carries P) : b.endRow.Carries P := by
  unfold Builder.endRow
  split
  · exact h
  · exact h

theorem Carries.leaveRow (h : b.Carries P) : b.leaveRow.1.Carries P := by
  unfold Builder.leaveRow
  split
  · exact h.endRow
  · exact h

theorem Carries.endInRow (h : b.Carries P) (name : String) : (b.endInRow name).1.Carries P := by
  unfold Builder.endInRow
  split_ifs
  · exact h.endRow
  · exact h.leaveRow
  · exact h.endRow
  · exact h
  · exact h
  · exact h.endInTable name

theorem Carries.endCell (h : b.Carries P) (name : String) : (b.endCell name).Carries P := by
  unfold Builder.endCell
  split
  · exact h
  · exact h

theorem Carries.closeCell (h : b.Carries P) : b.closeCell.Carries P := by
  unfold Builder.closeCell
  split_ifs
  · exact h.endCell "td"
  · exact h.endCell "th"
  · exact h

theorem Carries.endInCell (h : b.Carries P) (name : String) : (b.endInCell name).1.Carries P := by
  unfold Builder.endInCell
  split_ifs
  · exact h.endCell name
  · exact h
  · exact h.closeCell
  · exact h
  · exact h.endInBody name

theorem Carries.endSelect (h : b.Carries P) : b.endSelect.Carries P := by
  unfold Builder.endSelect
  split
  · exact h
  · exact h

theorem Carries.endInSelect (h : b.Carries P) (name : String) : (b.endInSelect name).Carries P := by
  unfold Builder.endInSelect
  split_ifs
  · exact h
  · exact h
  · exact h.endSelect
  · exact h

theorem Carries.endInSelectInTable (h : b.Carries P) (name : String) :
    (b.endInSelectInTable name).1.Carries P := by
  unfold Builder.endInSelectInTable
  split_ifs
  · exact h.endSelect
  · exact h
  · exact h.endInSelect name

theorem Carries.placeTableText (h : b.Carries P) : b.placeTableText.Carries P := by
  have placed : ({ b with tableText := [], mode := b.tableMode } : Builder).Carries P := h
  unfold Builder.placeTableText
  dsimp only
  split
  · exact placed.addText _
  · exact (Carries.reopenFormatting (b := { b with
      tableText := [], mode := b.tableMode, beforeTable := true }) h).addText _

theorem Carries.endTag (h : b.Carries P) (name : String) : (b.endTag name).1.Carries P := by
  unfold Builder.endTag
  split
  · exact h.endInBody name
  · exact h.endInTable name
  · exact h.placeTableText
  · exact h.endInTableBody name
  · exact h.endInRow name
  · exact h.endInCell name
  · exact h.endInSelect name
  · exact h.endInSelectInTable name

theorem Carries.endInDrawing_go (h : b.Carries P) (name : String) : ∀ is : List Nat,
    (endInDrawing.go b name is).1.Carries P
  | [] => h
  | i :: rest => by
    unfold endInDrawing.go
    dsimp only
    split_ifs
    · exact h.placeTableText
    · exact h
    · split
      · split_ifs
        · exact h.endTag name
        · exact Carries.endInDrawing_go h name _
      · exact h

theorem Carries.endInDrawing (h : b.Carries P) (name : String) :
    (b.endInDrawing name).1.Carries P :=
  h.endInDrawing_go name b.opened

/-! ### Opening tags -/

theorem Carries.closeParagraph (h : b.Carries P) : b.closeParagraph.Carries P := by
  unfold Builder.closeParagraph
  split
  · exact h.endParagraph
  · exact h

section Tags

variable {t : Tag} (ht : ∀ x ∈ t.attributes, P x)

include ht

theorem Carries.openVoid (h : b.Carries P) : (b.openVoid t).Carries P := h.openTag ht

theorem Carries.startListItem (h : b.Carries P) : (b.startListItem t).Carries P := by
  unfold Builder.startListItem
  dsimp only
  apply Carries.openTag _ ht
  split
  · rename_i n _
    have closed : (b.endTag n).1.Carries P := h.endTag n
    split
    · exact closed.endTag "p"
    · exact closed
  · split
    · exact h.endTag "p"
    · exact h

theorem Carries.startHeading (h : b.Carries P) : (b.startHeading t).Carries P := by
  unfold Builder.startHeading
  dsimp only
  apply Carries.openTag _ ht
  split
  · exact h.closeParagraph
  · exact h.closeParagraph

theorem Carries.startLink (h : b.Carries P) : (b.startLink t).Carries P := by
  unfold Builder.startLink
  dsimp only
  refine Carries.openFormatting (Carries.reopenFormatting ?_) ht
  split
  · exact h
  · exact Carries.endFormatting "a" h

/-- Renaming in drawings must keep the property, as it happens to attributes that are read. -/
theorem Carries.openDrawing (drawn : ∀ a, P a → P (foreignAttribute (drawingAttribute a)))
    (h : b.Carries P) : (b.openDrawing t).Carries P := by
  have opened : (b.openElement {
      name := some t.name
      vocabulary := .drawing
      attributes := t.attributes.map (foreignAttribute ∘ drawingAttribute) }).Carries P := by
    refine h.openElement ?_
    intro x hx
    obtain ⟨a, ha, rfl⟩ := List.mem_map.1 hx
    exact drawn a (ht a ha)
  unfold Builder.openDrawing
  dsimp only
  split
  · exact opened
  · exact opened

theorem Carries.startRowGroup (h : b.Carries P) : (b.startRowGroup t).Carries P :=
  Carries.openTag (b := b.clearToTable) h ht

theorem Carries.startRow (h : b.Carries P) : (b.startRow t).Carries P :=
  Carries.openTag (b := b.clearToGroup) h ht

theorem Carries.startInSelect (h : b.Carries P) : Outcome.Carries P (b.startInSelect t) := by
  unfold Builder.startInSelect
  dsimp only
  refine Outcome.carries_ite ?_ ?_
  · refine Carries.openTag ?_ ht
    split
    · exact h
    · exact h
  refine Outcome.carries_ite h.endSelect ?_
  exact Outcome.carries_ite (Outcome.carries_ite h.endSelect h) h

theorem Carries.startInSelectInTable (h : b.Carries P) :
    Outcome.Carries P (b.startInSelectInTable t) :=
  Outcome.carries_ite h.endSelect (h.startInSelect ht)

variable (drawn : ∀ a, P a → P (foreignAttribute (drawingAttribute a)))

include drawn

theorem Carries.startInBody (h : b.Carries P) : Outcome.Carries P (b.startInBody t) := by
  have paragraph := h.closeParagraph
  have formatted := h.reopenFormatting
  unfold Builder.startInBody
  dsimp only
  refine Outcome.carries_ite (paragraph.openTag ht) ?_
  refine Outcome.carries_ite (h.startHeading ht) ?_
  refine Outcome.carries_ite (paragraph.openTag ht) ?_
  refine Outcome.carries_ite (Outcome.carries_ite h (paragraph.openTag ht)) ?_
  refine Outcome.carries_ite (h.startListItem ht) ?_
  refine Outcome.carries_ite (h.startLink ht) ?_
  refine Outcome.carries_ite (formatted.openFormatting ht) ?_
  refine Outcome.carries_ite (Outcome.carries_ite (h.endInBody "button") (formatted.openTag ht)) ?_
  refine Outcome.carries_ite (paragraph.openTag ht) ?_
  refine Outcome.carries_ite (formatted.openVoid ht) ?_
  refine Outcome.carries_ite (paragraph.openVoid ht) ?_
  refine Outcome.carries_ite (h.openTag ht) ?_
  refine Outcome.carries_ite (formatted.openTag ht) ?_
  refine Outcome.carries_ite ?_ ?_
  · refine Carries.openTag (Carries.reopenFormatting ?_) ht
    split
    · exact h.endTag "option"
    · exact h
  refine Outcome.carries_ite (formatted.openDrawing ht drawn) ?_
  refine Outcome.carries_ite h ?_
  exact formatted.openTag ht

theorem Carries.startBeforeTable (h : b.Carries P) : (b.startBeforeTable t).Carries P :=
  Carries.startInBody (b := { b with beforeTable := true }) ht drawn h

theorem Carries.startInTable (h : b.Carries P) : Outcome.Carries P (b.startInTable t) := by
  unfold Builder.startInTable
  dsimp only
  refine Outcome.carries_ite (h.startRowGroup ht) ?_
  refine Outcome.carries_ite (h.startRowGroup (by simp)) ?_
  refine Outcome.carries_ite (h.endTag "table") ?_
  refine Outcome.carries_ite (h.openVoid ht) ?_
  refine Outcome.carries_ite (Outcome.carries_ite h (h.openTag ht)) ?_
  exact h.startBeforeTable ht drawn

theorem Carries.startInTableBody (h : b.Carries P) :
    Outcome.Carries P (b.startInTableBody t) := by
  unfold Builder.startInTableBody
  refine Outcome.carries_ite (h.startRow ht) ?_
  refine Outcome.carries_ite (h.startRow (by simp)) ?_
  exact Outcome.carries_ite h.leaveRowGroup (h.startInTable ht drawn)

theorem Carries.startInRow (h : b.Carries P) : Outcome.Carries P (b.startInRow t) := by
  unfold Builder.startInRow
  refine Outcome.carries_ite (Carries.openTag (b := b.clearToRow) h ht) ?_
  exact Outcome.carries_ite h.leaveRow (h.startInTable ht drawn)

theorem Carries.startInCell (h : b.Carries P) : Outcome.Carries P (b.startInCell t) :=
  Outcome.carries_ite (Outcome.carries_ite h.closeCell h) (h.startInBody ht drawn)

theorem Carries.startTag (h : b.Carries P) : Outcome.Carries P (b.startTag t) := by
  unfold Builder.startTag
  split
  · exact h.startInBody ht drawn
  · exact h.startInTable ht drawn
  · exact h.placeTableText
  · exact h.startInTableBody ht drawn
  · exact h.startInRow ht drawn
  · exact h.startInCell ht drawn
  · exact h.startInSelect ht
  · exact h.startInSelectInTable ht

theorem Carries.startInDrawing (h : b.Carries P) : Outcome.Carries P (b.startInDrawing t) :=
  Outcome.carries_ite h (h.openDrawing ht drawn)

end Tags

/-! ### Tokens -/

theorem Carries.textInBody (h : b.Carries P) (s : List Char) : (b.textInBody s).Carries P :=
  h.reopenFormatting.addText s

theorem Carries.spaceInBody (h : b.Carries P) (s : List Char) : (b.spaceInBody s).Carries P := by
  have kept : ({ b with dropBreak := false } : Builder).Carries P := h
  have written : ∀ s' : List Char, Builder.Carries P (if s'.isEmpty then { b with dropBreak := false }
      else ({ b with dropBreak := false } : Builder).textInBody s') := by
    intro s'
    split
    · exact kept
    · exact kept.textInBody s'
  unfold Builder.spaceInBody
  split
  · exact written _
  · exact h.textInBody s

theorem Carries.holdText (h : b.Carries P) (s : List Char) : (b.holdText s).Carries P := by
  unfold Builder.holdText
  split
  · exact h
  · exact h

section Tokens

variable (drawn : ∀ a, P a → P (foreignAttribute (drawingAttribute a)))
variable {t : Token} (ht : t.Carries P)

include drawn ht

theorem Carries.placeInMode (h : b.Carries P) : Outcome.Carries P (b.placeInMode t) := by
  cases t with
  | start tag => exact h.startTag ht drawn
  | stop name => exact h.endTag name
  | comment =>
    simp only [Builder.placeInMode]
    split
    · exact h.placeTableText
    · exact h.addComment
  | chars s =>
    simp only [Builder.placeInMode]
    split
    · exact h.textInBody s
    · exact h.textInBody s
    · exact h.addText s
    · exact h.addText s
    · exact h.holdText s
  | space s =>
    simp only [Builder.placeInMode]
    split
    · exact h.spaceInBody s
    · exact h.addText s
    · exact h.addText s
    · exact h.addText s
    · exact h.holdText s
  | zero =>
    simp only [Builder.placeInMode]
    split
    · exact h.holdText []
    · exact h.holdText []
    · exact h.holdText []
    · exact h

theorem Carries.placeInDrawing (h : b.Carries P) : Outcome.Carries P (b.placeInDrawing t) := by
  cases t with
  | start tag => exact h.startInDrawing ht drawn
  | stop name => exact h.endInDrawing name
  | chars s => exact h.addText s
  | space s => exact h.addText s
  | zero => exact h.addText ['\ufffd']
  | comment => exact h.addComment

theorem Carries.place : ∀ (fuel : Nat) {b : Builder}, b.Carries P → (place fuel t b).Carries P
  | 0, _, h => h
  | fuel + 1, b, h => by
    have step : Outcome.Carries P (if b.inDrawing then b.placeInDrawing t else b.placeInMode t) :=
      Outcome.carries_ite (h.placeInDrawing drawn ht) (h.placeInMode drawn ht)
    unfold Builder.place
    revert step
    generalize (if b.inDrawing then b.placeInDrawing t else b.placeInMode t) = o
    obtain ⟨b', more⟩ := o
    intro step
    dsimp only
    split
    · exact Carries.place fuel step
    · exact step

theorem Carries.placeToken (h : b.Carries P) : (b.placeToken t).Carries P :=
  h.place drawn ht _

end Tokens

theorem Carries.finish (h : b.Carries P) : b.finish.Carries P := by
  unfold Builder.finish
  split
  · exact h.placeTableText
  · exact h

theorem start_carries : Builder.start.Carries P := by
  intro i x hx
  match i with
  | 0 => cases hx
  | i + 1 => cases hx

end Builder

/-! ### Trees -/

mutual

def Tree.Carries (P : Attribute → Prop) : Tree → Prop
  | .text _ => True
  | .comment => True
  | .element _ _ attributes children => (∀ a ∈ attributes, P a) ∧ Tree.AllCarry P children

def Tree.AllCarry (P : Attribute → Prop) : List Tree → Prop
  | [] => True
  | t :: rest => t.Carries P ∧ Tree.AllCarry P rest

end

mutual

theorem Tree.carries_and {P' : Attribute → Prop} : ∀ (t : Tree), t.Carries P → t.Carries P' →
    t.Carries fun a => P a ∧ P' a
  | .text _, _, _ => trivial
  | .comment, _, _ => trivial
  | .element _ _ _ children, h, h' => by
    rw [Tree.Carries] at h h' ⊢
    exact ⟨fun a ha => ⟨h.1 a ha, h'.1 a ha⟩, Tree.allCarry_and children h.2 h'.2⟩

theorem Tree.allCarry_and {P' : Attribute → Prop} : ∀ (ts : List Tree), Tree.AllCarry P ts →
    Tree.AllCarry P' ts → Tree.AllCarry (fun a => P a ∧ P' a) ts
  | [], _, _ => trivial
  | t :: rest, h, h' => by
    rw [Tree.AllCarry] at h h' ⊢
    exact ⟨Tree.carries_and t h.1 h'.1, Tree.allCarry_and rest h.2 h'.2⟩

end

theorem Tree.allCarry_iff {ts : List Tree} : Tree.AllCarry P ts ↔ ∀ t ∈ ts, t.Carries P := by
  induction ts with
  | nil => simp [Tree.AllCarry]
  | cons t rest ih => simp [Tree.AllCarry, ih]

theorem Tree.allCarry_ofText (s : List Char) : ∀ t ∈ Tree.ofText s, t.Carries P := by
  intro t ht
  unfold Tree.ofText at ht
  split at ht
  · cases ht
  · rw [List.mem_singleton.1 ht]
    simp [Tree.Carries]

theorem Tree.inside_carries {a : Arena} (h : a.Carries P) (all : Bool) :
    ∀ (fuel i : Nat), ∀ t ∈ Tree.inside a all fuel i, t.Carries P := by
  intro fuel
  induction fuel generalizing all with
  | zero =>
    intro i t ht
    cases ht
  | succ fuel ih =>
    intro i t ht
    unfold Tree.inside at ht
    rcases List.mem_append.1 ht with ht | ht
    · exact Tree.allCarry_ofText _ t ht
    · obtain ⟨b, -, hb⟩ := List.mem_flatMap.1 ht
      rcases List.mem_cons.1 hb with rfl | hb
      · split
        · simp [Tree.Carries]
        · simp only [Tree.Carries]
          exact ⟨h b.id, Tree.allCarry_iff.2 (ih true b.id)⟩
      · exact Tree.allCarry_ofText _ t hb

section Reading

variable (tight : ∀ a : Attribute, a.Tight → P a)
variable (drawn : ∀ a, P a → P (Builder.foreignAttribute (Builder.drawingAttribute a)))
variable {kept : String → Bool}

include tight

theorem Token.ofLexeme_carries {afterTag : Bool} {l : Lexeme} (hl : l.Tight) {t : Token}
    (h : Token.ofLexeme kept afterTag l = some t) : t.Carries P := by
  cases l with
  | tag t' badName =>
    simp only [Token.ofLexeme] at h
    split_ifs at h
    · cases h
      trivial
    · cases h
      intro x hx
      exact tight x (hl x (List.mem_filter.1 hx).1)
    · cases h
      intro x hx
      exact tight x (hl x hx)
    · cases h
      trivial
    · cases h
      trivial
  | strayClosing content written =>
    simp only [Token.ofLexeme] at h
    split_ifs at h
    · cases h
      trivial
    · cases h
      trivial
  | cut written isText =>
    simp only [Token.ofLexeme] at h
    split_ifs at h
    cases h
    trivial
  | space s => cases h; trivial
  | chars s => cases h; trivial
  | zero => cases h; trivial
  | comment => cases h; trivial
  | doctype => cases h
  | nothing => cases h

include drawn

theorem Reader.take_carries {r : Reader} (h : r.builder.Carries P) {l : Lexeme} (hl : l.Tight)
    (here : List Char) : (r.take kept l here).builder.Carries P := by
  unfold Reader.take
  dsimp only
  split
  · rename_i t ht
    exact h.placeToken drawn (Token.ofLexeme_carries tight hl ht)
  · exact h

theorem Reader.run_carries : ∀ (fuel : Nat) (s : List Char) {r : Reader},
    r.builder.Carries P → (Reader.run kept fuel s r).builder.Carries P
  | 0, _, _, h => h
  | fuel + 1, s, r, h => by
    unfold Reader.run
    dsimp only
    split
    · exact h
    · rename_i l rest hnext
      have hl : l.Tight := by
        split at hnext
        · exact scanText_tight hnext
        · exact scan_tight hnext
      exact Reader.run_carries fuel rest (Reader.take_carries tight drawn h hl _)

/-- Whatever text is read, every attribute of its tree has a property that tight attributes have. -/
theorem Tree.read_carries (s : List Char) : Tree.AllCarry P (Tree.read kept s) := by
  have built : (Reader.run kept ((normalizeBreaks s).length + 1) (normalizeBreaks s)
      ⟨.start, false, none⟩).builder.Carries P :=
    Reader.run_carries tight drawn _ _ Builder.start_carries
  exact Tree.allCarry_iff.2 (Tree.inside_carries built.finish false _ 0)

end Reading
end PageSkins.Markup
