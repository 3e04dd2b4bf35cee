import PageSkins.Proofs.Markup.OrderlyTrees
import PageSkins.Proofs.Markup.PlantedTrees

/-!
# Tags that mean what they say

While orderly markup is read, the builder is calm: it stands in the body, every
open element belongs to a page, and every formatting element is open. Then an
opening tag opens an element at the end of the current one, its closing tag
closes that element, and text goes to the end of the current element.
-/

namespace PageSkins.Markup

structure Arena.Named (a : Arena) (i : Nat) (name : String) : Prop where
  known : i < a.size
  name : (a.get i).name = some name
  page : (a.get i).vocabulary = .page

namespace Builder

/-- The elements of the path are open, innermost first, and nothing is held back. -/
structure Calm (b : Builder) (path : List String) : Prop where
  mode : b.mode = .body
  inPlace : b.beforeTable = false
  textOnly : b.textOnly = none
  ordered : b.arena.Ordered
  opened : List.Forall₂ b.arena.Named b.opened path
  distinct : b.opened.Nodup
  formatting : ∀ o ∈ b.formatting, ∃ i ∈ b.opened, o = some i

variable {b : Builder} {path : List String} {i : Nat} {name : String}

theorem nameOf_named (h : b.arena.Named i name) : b.nameOf i = name := by
  rw [Builder.nameOf, Builder.element, h.name]
  rfl

theorem isPage_named (h : b.arena.Named i name) (other : String) :
    b.isPage i other = (name == other) := by
  have both : b.isPage i other =
      ((b.arena.get i).vocabulary == .page && (b.arena.get i).name == some other) := rfl
  rw [both, h.page, h.name]
  rfl

theorem Calm.reopenFormatting (h : b.Calm path) : b.reopenFormatting = b := by
  have closed : b.closedFormatting = [] := by
    unfold Builder.closedFormatting
    cases last : b.formatting.reverse with
    | nil => rfl
    | cons o rest =>
      have hm : o ∈ b.formatting := by
        rw [← List.mem_reverse, last]
        exact List.mem_cons_self
      obtain ⟨i, hi, rfl⟩ := h.formatting o hm
      simp [hi]
  unfold Builder.reopenFormatting
  rw [closed]
  simp [Builder.reopen]

theorem Calm.misplaced (h : b.Calm path) : b.misplaced = false := by
  rw [Builder.misplaced, h.inPlace, Bool.false_and]

theorem Calm.current (h : b.Calm (name :: path)) :
    ∃ is, b.opened = b.currentId :: is ∧ b.arena.Named b.currentId name ∧ List.Forall₂ b.arena.Named is path := by
  obtain ⟨i, is, first, rest, opened⟩ := List.forall₂_cons_right_iff.1 h.opened
  have current : b.currentId = i := by
    rw [Builder.currentId, opened]
    rfl
  rw [current]
  exact ⟨is, opened, first, rest⟩

theorem Calm.currentName (h : b.Calm (name :: path)) : b.currentName = name := by
  obtain ⟨is, -, first, -⟩ := h.current
  exact nameOf_named first

theorem Calm.inDrawing (h : b.Calm (name :: path)) : b.inDrawing = false := by
  obtain ⟨is, -, first, -⟩ := h.current
  have page : b.current.vocabulary = .page := first.page
  rw [Builder.inDrawing, page]
  rfl

/-! ### What is open -/

theorem findsIn_absent {is : List Nat} (h : List.Forall₂ b.arena.Named is path) (absent : name ∉ path)
    (scope : Scope) : b.findsIn scope (b.isPage · name) is = false := by
  induction h with
  | nil => rfl
  | @cons i n is path first rest ih =>
    have apart : (n == name) = false :=
      beq_eq_false_iff_ne.2 fun e => absent (e ▸ List.mem_cons_self)
    rw [Builder.findsIn, isPage_named first, apart, ih fun hm => absent (List.mem_cons_of_mem _ hm)]
    simp

theorem Calm.inScope_absent (h : b.Calm path) (absent : name ∉ path) (scope : Scope) :
    b.inScope name scope = false := findsIn_absent h.opened absent scope

theorem Calm.inScope_head (h : b.Calm (name :: path)) (scope : Scope) :
    b.inScope name scope = true := by
  obtain ⟨is, opened, first, -⟩ := h.current
  rw [Builder.inScope, opened, Builder.findsIn, isPage_named first, beq_self_eq_true, Bool.true_or]

theorem Calm.closeParagraph (h : b.Calm path) (absent : "p" ∉ path) : b.closeParagraph = b := by
  rw [Builder.closeParagraph, h.inScope_absent absent, if_neg Bool.false_ne_true]

theorem exists_named {is : List Nat} (h : List.Forall₂ b.arena.Named is path) (hi : i ∈ is) :
    ∃ n ∈ path, b.arena.Named i n := by
  induction h with
  | nil => cases hi
  | cons first rest ih =>
    rcases List.mem_cons.1 hi with rfl | hi
    · exact ⟨_, List.mem_cons_self, first⟩
    · obtain ⟨n, hn, named⟩ := ih hi
      exact ⟨n, List.mem_cons_of_mem _ hn, named⟩

/-- Formatting elements have names of open elements. -/
theorem Calm.formatting_named (h : b.Calm path) (hi : some i ∈ b.formatting) :
    ∃ n ∈ path, b.arena.Named i n := by
  obtain ⟨j, hj, same⟩ := h.formatting _ hi
  rw [Option.some.inj same]
  exact exists_named h.opened hj

theorem mem_recentFormatting (hi : i ∈ b.recentFormatting) : some i ∈ b.formatting := by
  obtain ⟨o, ho, rfl⟩ := List.mem_filterMap.1 hi
  exact List.mem_reverse.1 ((List.takeWhile_sublist _).subset ho)

/-! ### Closing tags -/

theorem Calm.closeImplied (h : b.Calm (name :: path)) {exclude : String}
    (stays : (impliedEnds.contains name && name != exclude) = false) :
    b.closeImplied exclude = b := by
  obtain ⟨is, opened, first, -⟩ := h.current
  have same : b.opened.dropWhile (fun i => impliedEnds.contains (b.nameOf i) &&
      b.nameOf i != exclude) = b.opened := by
    rw [opened, List.dropWhile_cons_of_neg]
    rw [nameOf_named first, stays]
    exact Bool.false_ne_true
  unfold Builder.closeImplied
  dsimp only
  rw [same]

theorem Calm.popThrough (h : b.Calm (name :: path)) : b.popThrough name = b.pop := by
  obtain ⟨is, opened, first, -⟩ := h.current
  have same : b.opened.dropWhile (fun i => b.nameOf i != name) = b.opened := by
    rw [opened, List.dropWhile_cons_of_neg]
    rw [nameOf_named first, bne_self_eq_false]
    exact Bool.false_ne_true
  rw [Builder.popThrough, same]
  rfl

theorem Calm.quiet (h : b.Calm path) (d : Bool) : ({ b with dropBreak := d } : Builder).Calm path :=
  ⟨h.mode, h.inPlace, h.textOnly, h.ordered, h.opened, h.distinct, h.formatting⟩

theorem Calm.endBlock (h : b.Calm (name :: path)) (stays : impliedEnds.contains name = false) :
    ∃ d, b.endBlock name = { b.pop with dropBreak := d } := by
  have stays' : (impliedEnds.contains name && name != "") = false := by rw [stays, Bool.false_and]
  obtain ⟨d, hd⟩ : ∃ d, (if name == "pre" then { b with dropBreak := false } else b) =
      { b with dropBreak := d } := by
    split
    · exact ⟨false, rfl⟩
    · exact ⟨b.dropBreak, rfl⟩
  refine ⟨d, ?_⟩
  rw [Builder.endBlock, hd, if_pos ((h.quiet d).inScope_head _), (h.quiet d).closeImplied stays',
    (h.quiet d).popThrough]
  rfl

theorem Calm.endParagraph (h : b.Calm ("p" :: path)) : b.endParagraph = b.pop := by
  rw [Builder.endParagraph, if_pos (h.inScope_head _), h.closeImplied (by decide), h.popThrough]

theorem Calm.endListItem (h : b.Calm ("li" :: path)) : b.endListItem "li" = b.pop := by
  rw [Builder.endListItem, if_pos (h.inScope_head _), h.closeImplied (by decide), h.popThrough]

theorem Calm.endHeading (h : b.Calm (name :: path)) (heading : headings.contains name = true) :
    b.endHeading = b.pop := by
  obtain ⟨is, opened, first, -⟩ := h.current
  have within : (headings.any fun other => b.inScope other) = true :=
    List.any_eq_true.2 ⟨name, List.contains_iff_mem.1 heading, h.inScope_head _⟩
  have stays : ∀ n ∈ headings, (impliedEnds.contains n && n != "") = false := by decide
  have same : b.opened.dropWhile (fun i => !headings.contains (b.nameOf i)) = b.opened := by
    rw [opened, List.dropWhile_cons_of_neg]
    rw [nameOf_named first, heading]
    decide
  unfold Builder.endHeading
  dsimp only
  rw [if_pos within, h.closeImplied (stays name (List.contains_iff_mem.1 heading)), if_pos within,
    same]
  rfl

theorem Calm.dropWhile_current (h : b.Calm (name :: path)) :
    b.opened.dropWhile (· != b.currentId) = b.opened := by
  obtain ⟨is, opened, -, -⟩ := h.current
  rw [opened, List.dropWhile_cons_of_neg]
  rw [bne_self_eq_false]
  exact Bool.false_ne_true

theorem Calm.endOther (h : b.Calm (name :: path)) : b.endOther name = b.pop := by
  obtain ⟨is, opened, first, -⟩ := h.current
  have stays : (impliedEnds.contains name && name != name) = false := by
    rw [bne_self_eq_false, Bool.and_false]
  unfold Builder.endOther
  rw [opened, Builder.endOther.go, nameOf_named first, if_pos (beq_self_eq_true _),
    h.closeImplied stays]
  dsimp only
  rw [h.dropWhile_current]
  rfl

/-- The newest formatting element is the current element. -/
theorem Calm.endFormatting (h : b.Calm (name :: path)) {older : List (Option Nat)}
    (newest : b.formatting = older ++ [some b.currentId]) (fresh : some b.currentId ∉ older)
    (rounds : Nat) :
    endFormatting name (rounds + 1) b = { b.pop with formatting := older } := by
  obtain ⟨is, opened, first, -⟩ := h.current
  have found : b.recentFormatting.find? (fun i => b.nameOf i == name) = some b.currentId := by
    rw [Builder.recentFormatting, newest, List.reverse_append, List.reverse_singleton,
      List.singleton_append, List.takeWhile_cons_of_pos rfl]
    refine List.find?_cons_of_pos ?_
    rw [nameOf_named first]
    exact beq_self_eq_true _
  have isOpen : b.opened.contains b.currentId = true := by
    rw [opened]
    exact List.contains_iff_mem.2 List.mem_cons_self
  have between : b.opened.takeWhile (· != b.currentId) = [] := by
    rw [opened, List.takeWhile_cons_of_neg]
    rw [bne_self_eq_false]
    exact Bool.false_ne_true
  have erased : b.formatting.erase (some b.currentId) = older := by
    rw [newest, List.erase_append_right _ fresh, List.erase_cons_head, List.append_nil]
  have round : b.closeFormattingRound name = .done { b.pop with formatting := older } := by
    unfold Builder.closeFormattingRound
    rw [found]
    dsimp only
    rw [isOpen, h.inScope_head, between, h.dropWhile_current, erased]
    rfl
  rw [Builder.endFormatting, round]

/-- The rules under which an element opens inside these elements, innermost first. -/
inductive OpensBy (path : List String) : String → Prop
  | flow {name : String} (block : name ∈ flowBlocks) (outside : "p" ∉ path) : OpensBy path name
  | rule (outside : "p" ∉ path) : OpensBy path "hr"
  | heading {name : String} (listed : name ∈ headings) (outside : "p" ∉ path)
      (apart : path.headD "" ∉ headings) : OpensBy path name
  | item (outside : "p" ∉ path) (list : path.headD "" ∈ ["ul", "ol"]) : OpensBy path "li"
  | sole {name : String} (listed : name ∈ soleElements) (absent : name ∉ path) : OpensBy path name
  | free {name : String} (listed : name ∈ freeElements) : OpensBy path name

theorem opensBy_of_opensIn (h : opensIn path name = true) : OpensBy path name := by
  unfold opensIn at h
  simp only [List.contains_eq_mem, Bool.or_eq_true, decide_eq_true_eq, beq_iff_eq] at h
  split at h
  · rename_i block
    have outside : "p" ∉ path := by simpa using h
    rcases block with block | rfl
    · exact .flow block outside
    · exact .rule outside
  · split at h
    · rename_i heading
      obtain ⟨outside, apart⟩ : "p" ∉ path ∧ path.headD "" ∉ headings := by simpa using h
      exact .heading heading outside apart
    · split at h
      · rename_i item
        obtain ⟨outside, list⟩ : "p" ∉ path ∧ path.headD "" ∈ ["ul", "ol"] := by simpa using h
        exact item ▸ .item outside list
      · split at h
        · rename_i sole
          exact .sole sole (by simpa using h)
        · exact .free (by simpa using h)

/-- Formatting elements are among those that may not stand inside one of their own kind. -/
theorem OpensBy.of_formatting (opens : OpensBy path name)
    (formats : formattingNames.contains name = true) : name ∈ soleElements ∧ name ∉ path := by
  have others : ∀ n ∈ flowBlocks ++ headings ++ freeElements,
      ¬ formattingNames.contains n = true := by decide
  cases opens with
  | sole listed absent => exact ⟨listed, absent⟩
  | rule => cases formats
  | item => cases formats
  | flow block => exact absurd formats (others name (by simp [block]))
  | heading listed => exact absurd formats (others name (by simp [listed]))
  | free listed => exact absurd formats (others name (by simp [listed]))

theorem eq_button_of_sole (listed : name ∈ soleElements)
    (plain : formattingNames.contains name = false) : name = "button" := by
  have kinds : ∀ n ∈ soleElements, formattingNames.contains n = false → n = "button" := by decide
  exact kinds name listed plain

theorem eq_of_free (listed : name ∈ freeElements)
    (full : Writer.emptyElements.contains name = false) : name = "span" ∨ name = "label" := by
  have kinds : ∀ n ∈ freeElements, Writer.emptyElements.contains n = false →
      n = "span" ∨ n = "label" := by decide
  exact kinds name listed full

/-- A closing tag of an element that formats nothing closes the current element. -/
theorem Calm.endInBody_plain (h : b.Calm (name :: path)) (opens : OpensBy path name)
    (full : Writer.emptyElements.contains name = false)
    (plain : formattingNames.contains name = false) :
    ∃ d, b.endInBody name = { b.pop with dropBreak := d } := by
  cases opens with
  | flow block =>
    by_cases paragraph : name = "p"
    · subst paragraph
      exact ⟨b.dropBreak, h.endParagraph⟩
    · have kinds : ∀ n ∈ flowBlocks, n ≠ "p" →
          blockEnds.contains n = true ∧ impliedEnds.contains n = false := by decide
      obtain ⟨ends, stays⟩ := kinds name block paragraph
      obtain ⟨d, left⟩ := h.endBlock stays
      exact ⟨d, by rw [Builder.endInBody, if_pos ends, left]⟩
  | rule => cases full
  | heading listed =>
    have kinds : ∀ n ∈ headings, blockEnds.contains n = false ∧ (n == "form") = false ∧
        (n == "p") = false ∧ ["dd", "dt", "li"].contains n = false ∧
        headings.contains n = true := by decide
    obtain ⟨block, form, paragraph, item, heading⟩ := kinds name listed
    refine ⟨b.dropBreak, ?_⟩
    rw [Builder.endInBody, block, form, paragraph, item, heading]
    exact h.endHeading heading
  | item => exact ⟨b.dropBreak, h.endListItem⟩
  | sole listed =>
    obtain rfl := eq_button_of_sole listed plain
    exact h.endBlock (by decide)
  | free listed =>
    refine ⟨b.dropBreak, ?_⟩
    rcases eq_of_free listed full with rfl | rfl
    · exact h.endOther
    · exact h.endOther

theorem endInBody_formatting (listed : name ∈ soleElements)
    (formats : formattingNames.contains name = true) :
    b.endInBody name = Builder.endFormatting name 8 b := by
  have kinds : ∀ n ∈ soleElements, formattingNames.contains n = true →
      blockEnds.contains n = false ∧ (n == "form") = false ∧ (n == "p") = false ∧
        ["dd", "dt", "li"].contains n = false ∧ headings.contains n = false := by decide
  obtain ⟨block, form, paragraph, item, heading⟩ := kinds name listed formats
  rw [Builder.endInBody, block, form, paragraph, item, heading, formats]
  rfl

/-- A closing tag closes the current element, and it is no longer to be opened again. -/
theorem Calm.endInBody (h : b.Calm (name :: path)) (fits : opensIn path name = true)
    (full : Writer.emptyElements.contains name = false) {older : List (Option Nat)}
    (newest : b.formatting =
      if formattingNames.contains name then older ++ [some b.currentId] else older)
    (fresh : some b.currentId ∉ older) :
    ∃ d, b.endInBody name = { b.pop with formatting := older, dropBreak := d } := by
  have opens := opensBy_of_opensIn fits
  cases formats : formattingNames.contains name with
  | true =>
    rw [formats, if_pos rfl] at newest
    obtain ⟨listed, -⟩ := opens.of_formatting formats
    refine ⟨b.dropBreak, ?_⟩
    rw [endInBody_formatting listed formats, h.endFormatting newest fresh]
    rfl
  | false =>
    rw [formats, if_neg Bool.false_ne_true] at newest
    obtain ⟨d, left⟩ := h.endInBody_plain opens full formats
    refine ⟨d, ?_⟩
    rw [left, ← newest]
    rfl

/-! ### Opening tags -/

theorem Calm.openTag (h : b.Calm path) (t : Tag) : b.openTag t = { b with
    arena := Arena.appendChild (b.arena.push (.fresh t.name .page t.attributes)) b.currentId
      b.arena.size []
    opened := b.arena.size :: b.opened } := by
  unfold Builder.openTag Builder.openElement
  dsimp only [Arena.add]
  rw [h.misplaced, if_neg Bool.false_ne_true]
  rfl

theorem get_openTag (h : b.Calm path) (t : Tag) (hi : i < b.arena.size) :
    ((b.openTag t).arena.get i).name = (b.arena.get i).name ∧
      ((b.openTag t).arena.get i).vocabulary = (b.arena.get i).vocabulary := by
  rw [h.openTag, Arena.get_appendChild b.arena _ hi]
  split
  · exact ⟨rfl, rfl⟩
  · exact ⟨rfl, rfl⟩

theorem get_openTag_new (h : b.Calm path) (t : Tag) (hc : b.currentId < b.arena.size) :
    ((b.openTag t).arena.get b.arena.size).name = some t.name := by
  rw [h.openTag, Arena.get_appendChild_new b.arena _ hc]
  rfl

theorem Calm.openFormatting {outer : String} (h : b.Calm (outer :: path)) {t : Tag}
    (absent : t.name ∉ outer :: path) : b.openFormatting t =
      { b.openTag t with formatting := b.formatting ++ [some b.arena.size] } := by
  obtain ⟨is, -, current, -⟩ := h.current
  have new : (b.openTag t).currentId = b.arena.size := by
    rw [h.openTag]
    rfl
  have same : (b.openTag t).recentFormatting.filter ((b.openTag t).alike b.arena.size) = [] := by
    refine List.filter_eq_nil_iff.2 fun i hi => ?_
    have listed : some i ∈ b.formatting := by
      have old := mem_recentFormatting hi
      rw [h.openTag] at old
      exact old
    obtain ⟨n, hn, named⟩ := h.formatting_named listed
    have apart : ((b.openTag t).arena.get b.arena.size).name ≠ ((b.openTag t).arena.get i).name := by
      rw [get_openTag_new h t current.known, (get_openTag h t named.known).1, named.name]
      intro e
      rw [Option.some.inj e] at absent
      exact absent hn
    have unlike : (((b.openTag t).arena.get b.arena.size).name ==
        ((b.openTag t).arena.get i).name) = false := beq_eq_false_iff_ne.2 apart
    simp [Builder.alike, Builder.element, unlike]
  unfold Builder.openFormatting
  dsimp only
  rw [new, same]
  rw [h.openTag]

theorem Calm.startLink {outer : String} (h : b.Calm (outer :: path)) {t : Tag}
    (absent : "a" ∉ outer :: path) : b.startLink t = b.openFormatting t := by
  have none' : b.recentFormatting.find? (fun i => b.nameOf i == "a") = none := by
    refine List.find?_eq_none.2 fun i hi => ?_
    obtain ⟨n, hn, named⟩ := h.formatting_named (mem_recentFormatting hi)
    rw [nameOf_named named, beq_iff_eq]
    intro e
    rw [e] at hn
    exact absent hn
  unfold Builder.startLink
  rw [none']
  dsimp only
  rw [h.reopenFormatting]

theorem Calm.startHeading {outer : String} (h : b.Calm (outer :: path)) {t : Tag}
    (outside : "p" ∉ outer :: path) (apart : outer ∉ headings) : b.startHeading t = b.openTag t := by
  have off : headings.contains b.currentName = false := by
    rw [h.currentName, List.contains_eq_mem]
    exact decide_eq_false apart
  unfold Builder.startHeading
  dsimp only
  rw [h.closeParagraph outside, off]
  rfl

theorem Calm.startListItem {outer : String} (h : b.Calm (outer :: path)) {t : Tag}
    (item : t.name = "li") (outside : "p" ∉ outer :: path) (list : outer ∈ ["ul", "ol"]) :
    b.startListItem t = b.openTag t := by
  obtain ⟨is, opened, current, -⟩ := h.current
  have special : ∀ n ∈ ["ul", "ol"], ["li"].contains n = false ∧
      (specialNames.contains n && ! ["address", "div", "p"].contains n) = true := by decide
  obtain ⟨other, stops⟩ := special outer list
  have none' : startListItem.item? b ["li"] b.opened = none := by
    rw [opened, Builder.startListItem.item?, nameOf_named current, other, Builder.isSpecial]
    have page : (b.element b.currentId).vocabulary = .page := current.page
    rw [page, nameOf_named current]
    simp only [Bool.and_eq_true] at stops
    rw [stops.1, stops.2]
    rfl
  unfold Builder.startListItem
  rw [item, if_pos (beq_self_eq_true _)]
  dsimp only
  rw [none']
  dsimp only
  rw [h.inScope_absent outside, if_neg Bool.false_ne_true]

def entered (b : Builder) (name : String) (as : List Attribute) (d : Bool) : Builder :=
  { b with
    arena := Arena.appendChild (b.arena.push (.fresh name .page as)) b.currentId b.arena.size []
    opened := b.arena.size :: b.opened
    formatting := if formattingNames.contains name then b.formatting ++ [some b.arena.size]
      else b.formatting
    dropBreak := d }

/-- An element that formats nothing is opened, and nothing else is done. -/
theorem Calm.startInBody_plain {outer : String} (h : b.Calm (outer :: path)) (as : List Attribute)
    (opens : OpensBy (outer :: path) name) (full : Writer.emptyElements.contains name = false)
    (plain : formattingNames.contains name = false) (other : name ≠ "pre") :
    b.startInBody ⟨false, name, as, false⟩ = finished (b.openTag ⟨false, name, as, false⟩) := by
  cases opens with
  | flow block outside =>
    have kinds : ∀ n ∈ flowBlocks, n ≠ "pre" → blockStarts.contains n = true := by decide
    rw [Builder.startInBody]
    dsimp only
    rw [if_pos (kinds name block other), h.closeParagraph outside]
  | rule => cases full
  | heading listed outside apart =>
    have kinds : ∀ n ∈ headings, blockStarts.contains n = false ∧ headings.contains n = true := by
      decide
    obtain ⟨block, heading⟩ := kinds name listed
    rw [Builder.startInBody]
    dsimp only
    rw [block, heading, h.startHeading outside apart]
    rfl
  | item outside list => exact congrArg finished (h.startListItem rfl outside list)
  | sole listed absent =>
    obtain rfl := eq_button_of_sole listed plain
    have start : b.startInBody ⟨false, "button", as, false⟩ =
        if b.inScope "button" then again (b.endInBody "button")
        else finished (b.reopenFormatting.openTag ⟨false, "button", as, false⟩) := rfl
    rw [start, h.inScope_absent absent, if_neg Bool.false_ne_true, h.reopenFormatting]
  | free listed =>
    have start : b.startInBody ⟨false, name, as, false⟩ =
        finished (b.reopenFormatting.openTag ⟨false, name, as, false⟩) := by
      rcases eq_of_free listed full with rfl | rfl
      · rfl
      · rfl
    rw [start, h.reopenFormatting]

/-- A formatting element is opened, and it is to be opened again. -/
theorem Calm.startInBody_formatting {outer : String} (h : b.Calm (outer :: path))
    (as : List Attribute) (listed : name ∈ soleElements) (absent : name ∉ outer :: path)
    (formats : formattingNames.contains name = true) :
    b.startInBody ⟨false, name, as, false⟩ =
      finished (b.openFormatting ⟨false, name, as, false⟩) := by
  have kinds : ∀ n ∈ soleElements, formattingNames.contains n = true →
      blockStarts.contains n = false ∧ headings.contains n = false ∧ (n == "pre") = false ∧
        (n == "form") = false ∧ ["li", "dd", "dt"].contains n = false := by decide
  obtain ⟨block, heading, pre, form, item⟩ := kinds name listed formats
  rw [Builder.startInBody]
  dsimp only
  rw [block, heading, pre, form, item, formats]
  by_cases link : name = "a"
  · subst link
    rw [h.startLink absent]
    rfl
  · rw [beq_eq_false_iff_ne.2 link, h.reopenFormatting]
    rfl

theorem Calm.startInBody {outer : String} (h : b.Calm (outer :: path)) (as : List Attribute)
    (fits : opensIn (outer :: path) name = true)
    (full : Writer.emptyElements.contains name = false) :
    ∃ d, b.startInBody ⟨false, name, as, false⟩ = finished (b.entered name as d) ∧
      (name = "pre" → d = true) := by
  have opens := opensBy_of_opensIn fits
  by_cases pre : name = "pre"
  · subst pre
    have outside : "p" ∉ outer :: path := by simpa [opensIn, flowBlocks] using fits
    have start : b.startInBody ⟨false, "pre", as, false⟩ =
        finished { b.closeParagraph.openTag ⟨false, "pre", as, false⟩ with dropBreak := true } := rfl
    refine ⟨true, ?_, fun _ => rfl⟩
    rw [start, h.closeParagraph outside, h.openTag]
    rfl
  · refine ⟨b.dropBreak, ?_, fun e => absurd e pre⟩
    cases formats : formattingNames.contains name with
    | true =>
      obtain ⟨listed, absent⟩ := opens.of_formatting formats
      rw [h.startInBody_formatting as listed absent formats, h.openFormatting absent, h.openTag,
        entered, formats, if_pos rfl]
    | false =>
      rw [h.startInBody_plain as opens full formats pre, h.openTag, entered, formats,
        if_neg Bool.false_ne_true]

/-- An element that holds nothing is opened and closed at once. -/
theorem Calm.startInBody_void {outer : String} (h : b.Calm (outer :: path)) (as : List Attribute)
    (fits : opensIn (outer :: path) name = true)
    (void : Writer.emptyElements.contains name = true) :
    b.startInBody ⟨false, name, as, false⟩ = finished (b.openVoid ⟨false, name, as, false⟩) := by
  have others : ∀ n ∈ flowBlocks ++ headings ++ soleElements,
      ¬ Writer.emptyElements.contains n = true := by decide
  cases opensBy_of_opensIn fits with
  | flow block => exact absurd void (others name (by simp [block]))
  | heading listed => exact absurd void (others name (by simp [listed]))
  | sole listed => exact absurd void (others name (by simp [listed]))
  | item => cases void
  | rule outside =>
    have start : b.startInBody ⟨false, "hr", as, false⟩ =
        finished (b.closeParagraph.openVoid ⟨false, "hr", as, false⟩) := rfl
    rw [start, h.closeParagraph outside]
  | free listed =>
    have kinds : ∀ n ∈ freeElements, Writer.emptyElements.contains n = true →
        n = "br" ∨ n = "img" ∨ n = "input" := by decide
    have start : b.startInBody ⟨false, name, as, false⟩ =
        finished (b.reopenFormatting.openVoid ⟨false, name, as, false⟩) := by
      rcases kinds name listed void with rfl | rfl | rfl
      · rfl
      · rfl
      · rfl
    rw [start, h.reopenFormatting]

/-! ### Calm stays -/

theorem Calm.notMem_opened (h : b.Calm path) : b.arena.size ∉ b.opened := by
  intro hm
  obtain ⟨n, -, named⟩ := exists_named h.opened hm
  exact Nat.lt_irrefl _ named.known

theorem Calm.notMem_formatting (h : b.Calm path) : some b.arena.size ∉ b.formatting := by
  intro hm
  obtain ⟨n, -, named⟩ := h.formatting_named hm
  exact Nat.lt_irrefl _ named.known

theorem Calm.inside {outer : String} (h : b.Calm (outer :: path)) (as : List Attribute) (d : Bool) :
    (b.entered name as d).Calm (name :: outer :: path) := by
  obtain ⟨is, -, current, -⟩ := h.current
  refine ⟨h.mode, h.inPlace, h.textOnly, h.ordered.child current.known rfl, ?_, ?_, ?_⟩
  · refine List.Forall₂.cons ⟨?_, ?_, ?_⟩ (h.opened.imp fun i n named => ⟨?_, ?_, ?_⟩)
    · rw [entered, Arena.size_appendChild]
      exact Nat.lt_succ_self _
    · rw [entered, Arena.get_appendChild_new _ _ current.known]
      rfl
    · rw [entered, Arena.get_appendChild_new _ _ current.known]
      rfl
    · rw [entered, Arena.size_appendChild]
      exact Nat.lt_succ_of_lt named.known
    · rw [entered, Arena.get_appendChild _ _ named.known, ← named.name]
      split <;> rfl
    · rw [entered, Arena.get_appendChild _ _ named.known, ← named.page]
      split <;> rfl
  · exact List.nodup_cons.2 ⟨h.notMem_opened, h.distinct⟩
  · intro o ho
    dsimp only [entered] at ho
    split at ho
    · rcases List.mem_append.1 ho with old | new
      · obtain ⟨i, hi, same⟩ := h.formatting o old
        exact ⟨i, List.mem_cons_of_mem _ hi, same⟩
      · exact ⟨b.arena.size, List.mem_cons_self, List.mem_singleton.1 new⟩
    · obtain ⟨i, hi, same⟩ := h.formatting o ho
      exact ⟨i, List.mem_cons_of_mem _ hi, same⟩

/-- The state after trees were added to the current element. -/
theorem Calm.grown (h : b.Calm path) {ts : List Tree} {a : Arena}
    (planted : Arena.Planted b.currentId ts b.arena a) (d : Bool) :
    ({ b with arena := a, dropBreak := d } : Builder).Calm path := by
  refine ⟨h.mode, h.inPlace, h.textOnly, planted.ordered, h.opened.imp fun i n named => ⟨?_, ?_, ?_⟩,
    h.distinct, h.formatting⟩
  · exact Nat.lt_of_lt_of_le named.known planted.grows
  · by_cases current : i = b.currentId
    · subst current
      rw [planted.name, named.name]
    · rw [planted.others i named.known current, named.name]
  · by_cases current : i = b.currentId
    · subst current
      rw [planted.vocabulary, named.page]
    · rw [planted.others i named.known current, named.page]

/-! ### Placing -/

theorem Calm.placeToken (h : b.Calm (name :: path)) {t : Token} {b' : Builder}
    (placed : b.placeInMode t = finished b') : b.placeToken t = b' := by
  rw [Builder.placeToken, Builder.place, h.inDrawing, if_neg Bool.false_ne_true, placed]
  rfl

theorem Calm.placeInMode_start (h : b.Calm path) (t : Tag) :
    b.placeInMode (.start t) = b.startInBody t := by
  rw [Builder.placeInMode, Builder.startTag, h.mode]

theorem Calm.placeInMode_stop (h : b.Calm path) (other : String) :
    b.placeInMode (.stop other) = finished (b.endInBody other) := by
  rw [Builder.placeInMode, Builder.endTag, h.mode]

/-- More text at the end of the current element. -/
def withText (b : Builder) (s : List Char) (d : Bool) : Builder :=
  { b with arena := b.arena.modify b.currentId (·.addText s), dropBreak := d }

theorem withText_nil (d : Bool) : b.withText [] d = { b with dropBreak := d } := by
  rw [withText, Arena.modify_addText_nil]

theorem Calm.addText (h : b.Calm path) (s : List Char) : b.addText s = b.withText s b.dropBreak := by
  cases s with
  | nil =>
    rw [withText_nil]
    rfl
  | cons c s =>
    unfold Builder.addText
    rw [h.misplaced]
    rfl

theorem Calm.textInBody (h : b.Calm path) (s : List Char) :
    b.textInBody s = b.withText s b.dropBreak := by
  rw [Builder.textInBody, h.reopenFormatting, h.addText]

theorem Calm.textInBody_nil (h : b.Calm path) : b.textInBody [] = b := by
  rw [h.textInBody, withText_nil]

/-- Whether a line break that comes next is dropped. -/
def drops (b : Builder) : Bool :=
  b.dropBreak && (["pre", "listing", "textarea"].contains b.currentName && !b.current.hasContent)

theorem Calm.placeInMode_space (h : b.Calm path) (s : List Char) :
    b.placeInMode (.space s) = finished (b.spaceInBody s) := by
  rw [Builder.placeInMode, h.mode]

theorem Calm.placeInMode_chars (h : b.Calm path) (s : List Char) :
    b.placeInMode (.chars s) = finished (b.textInBody s) := by
  rw [Builder.placeInMode, h.mode]

theorem Calm.spaceInBody (h : b.Calm path) {s : List Char} (some' : s ≠ [])
    (kept : b.drops = true → s.head? ≠ some '\n') : ∃ d, b.spaceInBody s = b.withText s d := by
  have full : s.isEmpty = false := List.isEmpty_eq_false_iff.2 some'
  unfold Builder.spaceInBody
  cases dropping : b.dropBreak with
  | false =>
    refine ⟨false, ?_⟩
    rw [if_neg Bool.false_ne_true, h.textInBody, dropping]
  | true =>
    refine ⟨false, ?_⟩
    rw [if_pos rfl]
    dsimp only
    split
    · rename_i rest
      have off : (["pre", "listing", "textarea"].contains b.currentName &&
          !b.current.hasContent) = false := by
        refine Bool.eq_false_iff.2 fun e => ?_
        unfold Builder.drops at kept
        rw [dropping, e] at kept
        exact kept rfl rfl
      have name : ({ b with dropBreak := false } : Builder).currentName = b.currentName := rfl
      have current : ({ b with dropBreak := false } : Builder).current = b.current := rfl
      rw [name, current, off, if_neg Bool.false_ne_true, full, if_neg Bool.false_ne_true,
        (h.quiet false).textInBody]
      rfl
    · rw [full, if_neg Bool.false_ne_true, (h.quiet false).textInBody]
      rfl

/-- A line break at the start of preformatted text is dropped. -/
theorem Calm.spaceInBody_break (h : b.Calm path) (drops : b.drops = true) (s : List Char) :
    b.spaceInBody ('\n' :: s) = b.withText s false := by
  obtain ⟨dropping, inner⟩ := Bool.and_eq_true_iff.1 drops
  have name : ({ b with dropBreak := false } : Builder).currentName = b.currentName := rfl
  have current : ({ b with dropBreak := false } : Builder).current = b.current := rfl
  unfold Builder.spaceInBody
  rw [dropping, if_pos rfl]
  dsimp only
  rw [name, current, inner]
  cases s with
  | nil => exact (withText_nil false).symm
  | cons c s => exact (h.quiet false).textInBody (c :: s)

theorem drops_of_hasContent (h : b.current.hasContent = true) : b.drops = false := by
  rw [drops, h, Bool.not_true, Bool.and_false, Bool.and_false]

theorem drops_of_dropBreak (h : b.dropBreak = false) : b.drops = false := by
  rw [drops, h, Bool.false_and]

theorem hasContent_addText (e : Element) {s : List Char} (some' : s ≠ []) :
    (e.addText s).hasContent = true := by
  rcases Arena.addText_cases e s with ⟨-, -, added⟩ | ⟨bs, c, -, -, added⟩
  · rw [added, Element.hasContent]
    cases e.lead with
    | nil =>
      cases s with
      | nil => exact absurd rfl some'
      | cons c s => rfl
    | cons d l => rfl
  · rw [added, Element.hasContent]
    simp

theorem Calm.addedText (h : b.Calm (name :: path)) (s : List Char) (d : Bool) :
    (b.withText s d).Calm (name :: path) := by
  obtain ⟨is, -, current, -⟩ := h.current
  have get : ∀ i, (Arena.get (b.arena.modify b.currentId (·.addText s)) i).name =
      (b.arena.get i).name ∧ (Arena.get (b.arena.modify b.currentId (·.addText s)) i).vocabulary =
        (b.arena.get i).vocabulary := by
    intro i
    rw [Arena.get_addText current.known]
    split
    · rename_i same
      rw [← same]
      rcases Arena.addText_cases (b.arena.get b.currentId) s with ⟨-, -, added⟩ | ⟨_, _, -, -, added⟩
      · rw [added]
        exact ⟨rfl, rfl⟩
      · rw [added]
        exact ⟨rfl, rfl⟩
    · exact ⟨rfl, rfl⟩
  refine ⟨h.mode, h.inPlace, h.textOnly, h.ordered.addText current.known s,
    h.opened.imp fun i n named => ⟨?_, ?_, ?_⟩, h.distinct, h.formatting⟩
  · rw [withText, Array.size_modify]
    exact named.known
  · exact ((get i).1).trans named.name
  · exact ((get i).2).trans named.page

theorem Calm.drops_addedText (h : b.Calm (name :: path)) {s : List Char} {d : Bool}
    (quiet : s = [] → d = false) : (b.withText s d).drops = false := by
  by_cases none' : s = []
  · exact drops_of_dropBreak (quiet none')
  · obtain ⟨is, -, current, -⟩ := h.current
    have here : (b.withText s d).current = (b.arena.get b.currentId).addText s :=
      (Arena.get_addText current.known s b.currentId).trans (if_pos rfl)
    refine drops_of_hasContent ?_
    rw [here]
    exact hasContent_addText _ none'

theorem withText_withText (s s' : List Char) (d d' : Bool) :
    (b.withText s d).withText s' d' = b.withText (s ++ s') d' := by
  have same : (b.withText s d).withText s' d' =
      { b with
        arena := Array.modify (Array.modify b.arena b.currentId (·.addText s)) b.currentId
          (·.addText s')
        dropBreak := d' } := rfl
  rw [same, Arena.modify_addText]
  rfl

theorem Calm.current_entered {outer : String} (h : b.Calm (outer :: path)) (as : List Attribute)
    (d : Bool) : (b.entered name as d).current =
      { Element.fresh name .page as with parent := some b.currentId } := by
  obtain ⟨is, -, current, -⟩ := h.current
  exact Arena.get_appendChild_new _ _ current.known

/-- Only preformatted elements drop a line break at their start. -/
theorem Calm.drops_entered {outer : String} (h : b.Calm (outer :: path)) {as : List Attribute}
    {d : Bool} (fits : opensIn (outer :: path) name = true) (pre : name = "pre" → d = true) :
    (b.entered name as d).drops = (name == "pre") := by
  have empty : (b.entered name as d).current.hasContent = false := by
    rw [h.current_entered]
    rfl
  rw [drops, empty, (h.inside as d).currentName]
  by_cases same : name = "pre"
  · have on : (b.entered name as d).dropBreak = true := pre same
    rw [on, same]
    rfl
  · have other : ["pre", "listing", "textarea"].contains name = false := by
      rw [List.contains_eq_mem]
      refine decide_eq_false fun hm => ?_
      simp only [List.mem_cons, List.not_mem_nil, or_false] at hm
      rcases hm with hm | rfl | rfl
      · exact same hm
      · cases fits
      · cases fits
    rw [other, beq_eq_false_iff_ne.2 same, Bool.false_and, Bool.and_false]

end Builder
end PageSkins.Markup
