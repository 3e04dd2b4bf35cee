import PageSkins.Proofs.Template.Interpolation

/-!
# Templates read without limits

A reading of a template has no limits of its own: it is finite or there is none, since
templates may include themselves. Each reading nests to some depth, counted in blocks
that are entered and templates that are included. Filling in under limits gives the
text of every reading that nests within them. Nothing is said of what is filled in
where there is no reading.
-/

namespace PageSkins.Template

/-- How deep a reading nests: blocks and inclusions together, and inclusions alone. -/
structure Nesting where
  levels : Nat
  inclusions : Nat
deriving Repr, DecidableEq

namespace Nesting

def flat : Nesting := ⟨0, 0⟩

/-- What stands side by side nests as deep as the deeper of the two. -/
def beside (a b : Nesting) : Nesting := ⟨max a.levels b.levels, max a.inclusions b.inclusions⟩

def inBlock (a : Nesting) : Nesting := ⟨a.levels + 1, a.inclusions⟩

def included (a : Nesting) : Nesting := ⟨a.levels + 1, a.inclusions + 1⟩

@[simp] theorem flat_beside (a : Nesting) : flat.beside a = a := by
  simp [flat, beside]

@[simp] theorem beside_flat (a : Nesting) : a.beside flat = a := by
  simp [flat, beside]

def Within (a : Nesting) (limits : Limits) : Prop :=
  a.levels ≤ limits.depth ∧ a.inclusions ≤ limits.inclusions

theorem within_beside {a b : Nesting} {limits : Limits} :
    (a.beside b).Within limits ↔ a.Within limits ∧ b.Within limits := by
  simp only [Within, beside]
  constructor
  · rintro ⟨levels, inclusions⟩
    omega
  · rintro ⟨⟨levels, inclusions⟩, levels', inclusions'⟩
    omega

/-- A limit that a block fits in leaves room for what the block holds. -/
theorem Within.room {a : Nesting} {limits : Limits} (h : a.inBlock.Within limits) :
    ∃ room inclusions, limits = ⟨room + 1, inclusions⟩ ∧ a.Within ⟨room, inclusions⟩ := by
  obtain ⟨depth, inclusions⟩ := limits
  obtain ⟨levels, fits⟩ := h
  cases depth with
  | zero => exact absurd levels (Nat.not_succ_le_zero _)
  | succ room => exact ⟨room, inclusions, rfl, Nat.le_of_succ_le_succ levels, fits⟩

/-- The same for an inclusion, which takes from both limits. -/
theorem Within.left {a : Nesting} {limits : Limits} (h : a.included.Within limits) :
    ∃ room left, limits = ⟨room + 1, left + 1⟩ ∧ a.Within ⟨room, left⟩ := by
  obtain ⟨depth, inclusions⟩ := limits
  obtain ⟨levels, fits⟩ := h
  cases depth with
  | zero => exact absurd levels (Nat.not_succ_le_zero _)
  | succ room =>
    cases inclusions with
    | zero => exact absurd fits (Nat.not_succ_le_zero _)
    | succ left =>
      exact ⟨room, left, rfl, Nat.le_of_succ_le_succ levels, Nat.le_of_succ_le_succ fits⟩

end Nesting

/-- The value of a name in the innermost layer that has it, null where none does. -/
def Scope.innermost (scope : Scope) (name : String) : Value :=
  (scope.findSome? fun layer => layer.find? name).getD .null

/-- The text that a value is shown as in place of a field. -/
def shownText (name : String) (v : Value) : List Char :=
  match fieldText name v with
  | .ok s => s
  | .error _ => []

/-- A template that is not empty is there under a name. -/
def Supplied (inc : Fields) (name source : String) : Prop :=
  inc.find? name = some (.text source) ∧ source ≠ ""

def itemName (collection : String) : String := String.ofList (itemTemplateName collection.toList)

mutual

/-- What a node reads as in a scope, and how deep that nests. -/
inductive Node.Reads (inc : Fields) : Scope → Node → Nesting → List Char → Prop
  | text {scope : Scope} {s : String} : Node.Reads inc scope (.text s) .flat s.toList
  | field {scope : Scope} {name : String} :
      Node.Reads inc scope (.field name) .flat (shownText name (scope.innermost name))
  | missing {scope : Scope} {name : String} (absent : ∀ source, ¬ Supplied inc name source) :
      Node.Reads inc scope (.include name) .flat (notFound name)
  | included {scope : Scope} {name source : String} {deep : Nesting} {s : List Char}
      (supplied : Supplied inc name source)
      (read : ReadsAll inc scope (parse source.toList) deep s) :
      Node.Reads inc scope (.include name) deep.included s
  | passed {scope : Scope} {name : String} {body : List Node}
      (untrue : (scope.innermost name).isTruthy = false) :
      Node.Reads inc scope (.block .cond name body) .flat []
  | entered {scope : Scope} {name : String} {body : List Node} {deep : Nesting} {s : List Char}
      (truth : (scope.innermost name).isTruthy = true) (read : ReadsAll inc scope body deep s) :
      Node.Reads inc scope (.block .cond name body) deep.inBlock s
  | empty {scope : Scope} {kind : BlockKind} {name : String} {body : List Node}
      (loop : kind ≠ .cond) (items : loopItems (scope.innermost name) = []) :
      Node.Reads inc scope (.block kind name body) .flat []
  | repeated {scope : Scope} {kind : BlockKind} {name : String} {body : List Node}
      {deep : Nesting} {s : List Char} (loop : kind ≠ .cond)
      (items : loopItems (scope.innermost name) ≠ []) (own : isBlankBody body = false)
      (read : ReadsEach inc scope body (loopItems (scope.innermost name)) deep s) :
      Node.Reads inc scope (.block kind name body) deep.inBlock s
  | bare {scope : Scope} {kind : BlockKind} {name : String} {body : List Node}
      (loop : kind ≠ .cond) (blank : isBlankBody body = true)
      (absent : ∀ source, ¬ Supplied inc (itemName name) source) :
      Node.Reads inc scope (.block kind name body) .flat []
  | borrowed {scope : Scope} {kind : BlockKind} {name source : String} {body : List Node}
      {deep : Nesting} {s : List Char} (loop : kind ≠ .cond)
      (items : loopItems (scope.innermost name) ≠ []) (blank : isBlankBody body = true)
      (supplied : Supplied inc (itemName name) source)
      (read : ReadsEach inc scope (parse source.toList) (loopItems (scope.innermost name)) deep s) :
      Node.Reads inc scope (.block kind name body) deep.included s

/-- What nodes read as, one after the other. -/
inductive ReadsAll (inc : Fields) : Scope → List Node → Nesting → List Char → Prop
  | nil {scope : Scope} : ReadsAll inc scope [] .flat []
  | cons {scope : Scope} {n : Node} {ns : List Node} {a b : Nesting} {s t : List Char}
      (first : n.Reads inc scope a s) (rest : ReadsAll inc scope ns b t) :
      ReadsAll inc scope (n :: ns) (a.beside b) (s ++ t)

/-- What a body reads as for each of some items, with the fields of the item over the scope. -/
inductive ReadsEach (inc : Fields) : Scope → List Node → List Value → Nesting → List Char → Prop
  | nil {scope : Scope} {body : List Node} : ReadsEach inc scope body [] .flat []
  | cons {scope : Scope} {body : List Node} {v : Value} {vs : List Value} {a b : Nesting}
      {s t : List Char} (first : ReadsAll inc (v.fields :: scope) body a s)
      (rest : ReadsEach inc scope body vs b t) :
      ReadsEach inc scope body (v :: vs) (a.beside b) (s ++ t)

end

/-! ### Scopes and templates as they are looked up -/

theorem Scope.find_eq_innermost (scope : Scope) (name : String) :
    scope.find name = scope.innermost name := by
  induction scope with
  | nil => rfl
  | cons layer scope ih =>
    unfold Scope.find Scope.innermost
    rw [List.findSome?_cons]
    cases layer.find? name with
    | some v => rfl
    | none => exact ih

/-- No layer holds an integer too long to be written. -/
def Scope.Short (scope : Scope) : Prop := ∀ layer ∈ scope, Json.anyLongField layer = false

theorem Scope.Short.innermost {scope : Scope} (short : scope.Short) (name : String) :
    Json.hasLongInteger (scope.innermost name) = false := by
  induction scope with
  | nil => rfl
  | cons layer scope ih =>
    unfold Scope.innermost
    rw [List.findSome?_cons]
    cases found : layer.find? name with
    | some v => exact short_of_find? (short layer List.mem_cons_self) found
    | none => exact ih fun l hl => short l (List.mem_cons_of_mem _ hl)

theorem Scope.Short.items {scope : Scope} (short : scope.Short) (name : String) :
    ∀ v ∈ loopItems (scope.innermost name), Json.hasLongInteger v = false :=
  short_loopItems (short.innermost name)

theorem Scope.Short.cons {scope : Scope} (short : scope.Short) {v : Value}
    (hv : Json.hasLongInteger v = false) : Scope.Short (v.fields :: scope) := by
  intro layer hl
  rcases List.mem_cons.1 hl with rfl | hl
  · exact short_fields hv
  · exact short layer hl

/-- Every value that can be written is shown as some text. -/
theorem fieldText_eq_ok {name : String} {v : Value} (short : Json.hasLongInteger v = false) :
    fieldText name v = .ok (shownText name v) := by
  obtain ⟨s, hs⟩ := valueText_ok name short
  have shown : ∃ t, fieldText name v = .ok t := by
    unfold fieldText
    split
    · exact ⟨s, hs⟩
    · exact ⟨_, by rw [hs]; rfl⟩
  obtain ⟨t, ht⟩ := shown
  rw [shownText, ht]

theorem source?_of_supplied {inc : Fields} {name source : String} (h : Supplied inc name source) :
    Includes.source? (some inc) name = .ok (some source.toList) := by
  obtain ⟨found, filled⟩ := h
  simp [Includes.source?, found, filled]

theorem source?_of_absent {inc : Fields} {name : String}
    (h : ∀ source, ¬ Supplied inc name source) :
    Includes.source? (some inc) name = .ok none := by
  unfold Includes.source?
  dsimp only
  split
  · rename_i source found
    have empty : source = "" := by
      by_contra filled
      exact h source ⟨found, filled⟩
    simp [empty]
  · rfl

/-! ### Filling in, rule by rule -/

section Rules

variable {inc : Fields} {room inclusions left : Nat} {scope : Scope} {name source : String}
  {kind : BlockKind} {body : List Node}

theorem render_missing (absent : ∀ source, ¬ Supplied inc name source) :
    Node.render (some inc) room inclusions scope (.include name) = .ok (notFound name) := by
  cases room with
  | zero =>
    rw [Node.render, source?_of_absent absent]
    rfl
  | succ room =>
    rw [Node.render, source?_of_absent absent]
    rfl

theorem render_included (supplied : Supplied inc name source) :
    Node.render (some inc) (room + 1) (left + 1) scope (.include name) =
      joined (Node.render (some inc) room left scope) (parse source.toList) := by
  rw [Node.render, source?_of_supplied supplied]
  rfl

theorem render_passed (untrue : (scope.innermost name).isTruthy = false) :
    Node.render (some inc) room inclusions scope (.block .cond name body) = .ok [] := by
  cases room with
  | zero => rw [Node.render]
  | succ room => simp [Node.render, Scope.find_eq_innermost, untrue]

theorem render_entered (truth : (scope.innermost name).isTruthy = true) :
    Node.render (some inc) (room + 1) inclusions scope (.block .cond name body) =
      joined (Node.render (some inc) room inclusions scope) body := by
  simp [Node.render, Scope.find_eq_innermost, truth]

theorem render_empty (loop : kind ≠ .cond) (items : loopItems (scope.innermost name) = []) :
    Node.render (some inc) room inclusions scope (.block kind name body) = .ok [] := by
  cases room with
  | zero => rw [Node.render]
  | succ room => simp [Node.render, Scope.find_eq_innermost, items]

theorem render_repeated (loop : kind ≠ .cond) (items : loopItems (scope.innermost name) ≠ [])
    (own : isBlankBody body = false) :
    Node.render (some inc) (room + 1) inclusions scope (.block kind name body) =
      joined (fun v => joined (Node.render (some inc) room inclusions (v.fields :: scope)) body)
        (loopItems (scope.innermost name)) := by
  simp [Node.render, Scope.find_eq_innermost, items, own]

theorem render_bare (loop : kind ≠ .cond) (blank : isBlankBody body = true)
    (absent : ∀ source, ¬ Supplied inc (itemName name) source) :
    Node.render (some inc) room inclusions scope (.block kind name body) = .ok [] := by
  have none := source?_of_absent absent
  unfold itemName at none
  cases room with
  | zero => rw [Node.render]
  | succ room =>
    simp only [Node.render, blank, none, if_true]
    split
    · rfl
    · rfl

theorem render_borrowed (loop : kind ≠ .cond) (items : loopItems (scope.innermost name) ≠ [])
    (blank : isBlankBody body = true) (supplied : Supplied inc (itemName name) source) :
    Node.render (some inc) (room + 1) (left + 1) scope (.block kind name body) =
      joined (fun v => joined (Node.render (some inc) room left (v.fields :: scope))
        (parse source.toList)) (loopItems (scope.innermost name)) := by
  have some := source?_of_supplied supplied
  unfold itemName at some
  simp [Node.render, Scope.find_eq_innermost, items, blank, some]
  rfl

end Rules

/-! ### Filling in gives what is read -/

theorem joined_cons_ok {α : Type} {f : α → Except Fault (List Char)} {a : α} {rest : List α}
    {s t : List Char} (first : f a = .ok s) (others : joined f rest = .ok t) :
    joined f (a :: rest) = .ok (s ++ t) := by
  rw [joined, first, others]
  rfl

variable {inc : Fields}

section Step

variable {limits : Limits} (below : ∀ {scope : Scope} {n : Node} {deep : Nesting} {s : List Char},
  n.Reads inc scope deep s → scope.Short → deep.Within limits →
    Node.render (some inc) limits.depth limits.inclusions scope n = .ok s)

include below

theorem ReadsAll.render {scope : Scope} {ns : List Node} {deep : Nesting} {s : List Char}
    (h : ReadsAll inc scope ns deep s) (short : scope.Short) (fits : deep.Within limits) :
    joined (Node.render (some inc) limits.depth limits.inclusions scope) ns = .ok s := by
  induction ns generalizing deep s with
  | nil =>
    cases h
    rfl
  | cons n ns ih =>
    cases h with
    | cons first rest =>
      obtain ⟨one, others⟩ := Nesting.within_beside.1 fits
      exact joined_cons_ok (below first short one) (ih rest others)

theorem ReadsEach.render {scope : Scope} {body : List Node} {vs : List Value} {deep : Nesting}
    {s : List Char} (h : ReadsEach inc scope body vs deep s) (short : scope.Short)
    (items : ∀ v ∈ vs, Json.hasLongInteger v = false) (fits : deep.Within limits) :
    joined (fun v => joined (Node.render (some inc) limits.depth limits.inclusions
      (v.fields :: scope)) body) vs = .ok s := by
  induction vs generalizing deep s with
  | nil =>
    cases h
    rfl
  | cons v vs ih =>
    cases h with
    | cons first rest =>
      obtain ⟨one, others⟩ := Nesting.within_beside.1 fits
      obtain ⟨this, those⟩ := List.forall_mem_cons.1 items
      exact joined_cons_ok (first.render below (short.cons this) one) (ih rest those others)

end Step

/-- By recursion on the depth that is left: templates that include each other have no smaller
one to go to, but what a reading enters fits in a smaller depth. -/
theorem Node.Reads.render {limits : Limits} {scope : Scope} {n : Node} {deep : Nesting}
    {s : List Char} (h : n.Reads inc scope deep s) (short : scope.Short)
    (fits : deep.Within limits) :
    Node.render (some inc) limits.depth limits.inclusions scope n = .ok s := by
  cases h with
  | text => rw [Node.render]
  | field =>
    rw [Node.render, Scope.find_eq_innermost]
    exact fieldText_eq_ok (short.innermost _)
  | missing absent => exact render_missing absent
  | included supplied read =>
    obtain ⟨room, left, rfl, within⟩ := fits.left
    rw [render_included supplied]
    exact read.render (fun first short within => Node.Reads.render first short within) short within
  | passed untrue => exact render_passed untrue
  | entered truth read =>
    obtain ⟨room, inclusions, rfl, within⟩ := fits.room
    rw [render_entered truth]
    exact read.render (fun first short within => Node.Reads.render first short within) short within
  | empty loop items => exact render_empty loop items
  | repeated loop items own read =>
    obtain ⟨room, inclusions, rfl, within⟩ := fits.room
    rw [render_repeated loop items own]
    exact read.render (fun first short within => Node.Reads.render first short within) short
      (short.items _) within
  | bare loop blank absent => exact render_bare loop blank absent
  | borrowed loop items blank supplied read =>
    obtain ⟨room, left, rfl, within⟩ := fits.left
    rw [render_borrowed loop items blank supplied]
    exact read.render (fun first short within => Node.Reads.render first short within) short
      (short.items _) within
termination_by limits.depth

/-- Nodes read as one text at most, however deep that nests. -/
theorem ReadsAll.unique {scope : Scope} {ns : List Node} {a b : Nesting} {s t : List Char}
    (h : ReadsAll inc scope ns a s) (h' : ReadsAll inc scope ns b t) (short : scope.Short) :
    s = t := by
  obtain ⟨one, other⟩ : a.Within ⟨(a.beside b).levels, (a.beside b).inclusions⟩ ∧
      b.Within ⟨(a.beside b).levels, (a.beside b).inclusions⟩ :=
    Nesting.within_beside.1 ⟨Nat.le_refl _, Nat.le_refl _⟩
  have same := (h.render Node.Reads.render short one).symm.trans
    (h'.render Node.Reads.render short other)
  exact Except.ok.inj same

/-- Filling in under limits gives the text of every reading that nests within them. -/
theorem render_of_reads {template : List Char} {scope : Fields} {limits : Limits} {deep : Nesting}
    {s : List Char} (short : Json.anyLongField scope = false)
    (h : ReadsAll inc [scope] (parse template) deep s) (fits : deep.Within limits) :
    render limits template scope (some inc) = s := by
  have layers : Scope.Short [scope] := by
    intro layer hl
    rw [List.mem_singleton.1 hl]
    exact short
  unfold render render?
  rw [h.render Node.Reads.render layers fits]

/-! A thread of posts, whose templates include each other: a row lists the posts of its post, and
each of these is a row again, by way of a body left blank. -/

def pageSource : String := "\x7b\x7b#each posts\x7d\x7d\x7b\x7b> row\x7d\x7d\x7b\x7b/each\x7d\x7d"

def rowSource : String :=
  "<li>\x7b\x7bname\x7d\x7d\x7b\x7b#posts\x7d\x7d \x7b\x7b/posts\x7d\x7d</li>"

def itemSource : String := "\x7b\x7b> row\x7d\x7d"

theorem parse_pageSource :
    parse pageSource.toList = [.block .each "posts" [.include "row"]] := by cbv

theorem parse_rowSource : parse rowSource.toList =
    [.text "<li>", .field "name", .block .section "posts" [.text " "], .text "</li>"] := by cbv

theorem parse_itemSource : parse itemSource.toList = [.include "row"] := by cbv

def rows : Fields := [("row", .text rowSource), ("post_item", .text itemSource)]

/-- The last post hides the posts around it by a null, so that the thread ends. -/
def thread : Fields := [("posts", .list [.map [
  ("name", .text "a"),
  ("posts", .list [.map [("name", .text "<b>"), ("posts", .null)]])]])]

/-- A row shows its name, and after it what the posts of its post read as. -/
theorem reads_row {scope : Scope} {deep : Nesting} {s : List Char}
    (posts : Node.Reads rows scope (.block .section "posts" [.text " "]) deep s) :
    ReadsAll rows scope [.include "row"] deep.included
      ("<li>".toList ++ shownText "name" (scope.innermost "name") ++ s ++ "</li>".toList) := by
  have body : ReadsAll rows scope
      [.text "<li>", .field "name", .block .section "posts" [.text " "], .text "</li>"] _ _ :=
    .cons .text (.cons .field (.cons posts (.cons .text .nil)))
  rw [← parse_rowSource] at body
  have read : ReadsAll rows scope [.include "row"] _ _ :=
    .cons (.included ⟨rfl, by decide⟩ body) .nil
  simpa using read

/-- Four levels deep, three of them inclusions: the loop of the page, the row of its post, the loop
left blank, and the last row. -/
theorem reads_thread :
    ReadsAll rows [thread] (parse pageSource.toList) ⟨4, 3⟩
      "<li>a<li>&lt;b&gt;</li></li>".toList := by
  have supplied : Supplied rows (itemName "posts") itemSource := ⟨rfl, by decide⟩
  have last (scope : Scope) : ReadsAll rows
      ([("name", .text "<b>"), ("posts", .null)] :: scope) [.include "row"] _ _ :=
    reads_row (.empty (by decide) rfl)
  rw [← parse_itemSource] at last
  have first : ReadsAll rows [[("name", .text "a"),
      ("posts", .list [.map [("name", .text "<b>"), ("posts", .null)]])], thread]
      [.include "row"] _ _ :=
    reads_row (.borrowed (by decide) (by decide) rfl supplied (.cons (last _) .nil))
  have loop : Node.Reads rows [thread] (.block .each "posts" [.include "row"]) _ _ :=
    .repeated (by decide) (by decide) rfl (.cons first .nil)
  rw [parse_pageSource]
  exact .cons loop .nil

theorem render_of_reads_thread :
    ReadsAll rows [thread] (parse pageSource.toList) ⟨4, 3⟩ "<li>a<li>&lt;b&gt;</li></li>".toList ∧
      render ⟨4, 3⟩ pageSource.toList thread (some rows) =
        "<li>a<li>&lt;b&gt;</li></li>".toList := by
  refine ⟨reads_thread, render_of_reads rfl reads_thread ⟨?_, ?_⟩⟩
  · exact Nat.le_refl 4
  · exact Nat.le_refl 3

end PageSkins.Template
