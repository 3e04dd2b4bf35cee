import PageSkins.Proofs.Template.Contents

/-!
# Loops left blank

A loop with nothing but blanks inside stands for the loop that includes the template for its
items. Either may be written for the other anywhere in a tree, and in the templates that are
included as well: the text is the same in every scope, faults among it. The explicit form
nests one level deeper, so it is asked that neither of the two leaves a node out for lack of
room; the limits of the two may differ.
-/

namespace PageSkins

theorem Fields.find?_put (fs : Fields) (name : String) (v : Value) (other : String) :
    (fs.put name v).find? other = if other = name then some v else fs.find? other := by
  unfold find?
  induction fs with
  | nil => rw [put, lookup_cons_if]
  | cons f fs ih =>
    obtain ⟨k, w⟩ := f
    rw [put]
    by_cases same : k = name
    · subst same
      rw [if_pos rfl, lookup_cons_if, lookup_cons_if]
      split <;> rfl
    · rw [if_neg same, lookup_cons_if, lookup_cons_if, ih]
      by_cases k_other : other = k
      · rw [if_pos k_other, if_pos k_other, if_neg (k_other ▸ same)]
      · rw [if_neg k_other, if_neg k_other]

namespace Template

/-! ### Blanks filled in -/

/-- The second node is the first, but that loops left blank may include the template for their items,
where there is one. -/
inductive Node.Filled (inc : Fields) : Node → Node → Prop
  | text {s : String} : Node.Filled inc (.text s) (.text s)
  | field {name : String} : Node.Filled inc (.field name) (.field name)
  | include {name : String} : Node.Filled inc (.include name) (.include name)
  | block {kind : BlockKind} {name : String} {body body' : List Node}
      (inside : List.Forall₂ (Node.Filled inc) body body') :
      Node.Filled inc (.block kind name body) (.block kind name body')
  | item {kind : BlockKind} {name source : String} {body : List Node} (loop : kind ≠ .cond)
      (blank : isBlankBody body = true) (supplied : Supplied inc (itemName name) source) :
      Node.Filled inc (.block kind name body) (.block kind name [.include (itemName name)])

abbrev AllFilled (inc : Fields) : List Node → List Node → Prop := List.Forall₂ (Node.Filled inc)

/-- The same for the templates that may be included: there are some under the same names. -/
def FilledTemplates (inc inc' : Fields) : Prop :=
  ∀ name, Option.Rel (AllFilled inc) (included? inc name) (included? inc' name)

theorem Node.Filled.refl (inc : Fields) (n : Node) : n.Filled inc n := by
  cases n with
  | text => exact .text
  | field => exact .field
  | «include» => exact .include
  | block kind name body => exact .block (List.forall₂_same.2 fun inner _ => Node.Filled.refl inc inner)

theorem AllFilled.refl (inc : Fields) (ns : List Node) : AllFilled inc ns ns :=
  List.forall₂_same.2 fun n _ => Node.Filled.refl inc n

/-- One of the templates is written anew, with loops filled in. -/
theorem FilledTemplates.put {inc : Fields} {name source source' : String}
    (supplied : Supplied inc name source) (there : source' ≠ "")
    (filled : AllFilled inc (parse source.toList) (parse source'.toList)) :
    FilledTemplates inc (inc.put name (.text source')) := by
  intro other
  by_cases same : other = name
  · subst same
    have supplied' : Supplied (inc.put other (.text source')) other source' :=
      ⟨by rw [Fields.find?_put, if_pos rfl], there⟩
    rw [included?_of_supplied supplied, included?_of_supplied supplied']
    exact .some filled
  · have kept : included? (inc.put name (.text source')) other = included? inc other := by
      rw [included?, included?, Includes.source?, Includes.source?, Fields.find?_put, if_neg same]
    rw [kept]
    cases included? inc other with
    | none => exact .none
    | some tree => exact .some (AllFilled.refl inc tree)

/-! ### Nodes left out -/

/-- Whether one of some items has a property, up to the first with a fault: what stands after it is
not reached. -/
def anyReached {α : Type} (f : α → Except Fault (List Char)) (p : α → Bool) : List α → Bool
  | [] => false
  | a :: rest => p a || match f a with
    | .ok _ => anyReached f p rest
    | .error _ => false

/-- The same for the nodes in some lists, each with its scope. -/
def anyPart (f : Scope → Node → Except Fault (List Char)) (p : Scope → Node → Bool)
    (parts : List (Scope × List Node)) : Bool :=
  anyReached (fun part => joined (f part.1) part.2)
    (fun part => anyReached (f part.1) (p part.1) part.2) parts

/-- Whether a node is left out for lack of room while a node is filled in. One that would give no text with
more room is not counted. -/
def Node.skips (inc : Fields) : (room : Nat) → (inclusions : Nat) → Scope → Node → Bool
  | 0, _, scope, n => match n.contents inc scope with
    | .plain _ => false
    | _ => true
  | room + 1, inclusions, scope, n => match n.contents inc scope with
    | .plain _ => false
    | .nested parts =>
      anyPart (Node.render (some inc) room inclusions) (Node.skips inc room inclusions) parts
    | .borrowed parts => match inclusions with
      | 0 => true
      | left + 1 => anyPart (Node.render (some inc) room left) (Node.skips inc room left) parts

/-- Whether a node is left out while nodes are filled in, one after the other. -/
def skipsAny (inc : Fields) (limits : Limits) (scope : Scope) (ns : List Node) : Bool :=
  anyReached (Node.render (some inc) limits.depth limits.inclusions scope)
    (Node.skips inc limits.depth limits.inclusions scope) ns

theorem anyReached_singleton {α : Type} (f : α → Except Fault (List Char)) (p : α → Bool) (a : α) :
    anyReached f p [a] = p a := by
  rw [anyReached]
  cases f a with
  | error e => exact Bool.or_false _
  | ok s => rw [anyReached, Bool.or_false]

section Room

variable {inc : Fields} {room inclusions : Nat} {scope : Scope} {n : Node} {parts : List (Scope × List Node)}

/-- A node that is not left out has room for what it holds. -/
theorem room_of_nested (hold : n.contents inc scope = .nested parts)
    (whole : n.skips inc room inclusions scope = false) :
    ∃ room', room = room' + 1 ∧
      anyPart (Node.render (some inc) room' inclusions) (Node.skips inc room' inclusions) parts = false := by
  cases room with
  | zero =>
    rw [Node.skips, hold] at whole
    cases whole
  | succ room =>
    rw [Node.skips, hold] at whole
    exact ⟨room, rfl, whole⟩

theorem room_of_borrowed (hold : n.contents inc scope = .borrowed parts)
    (whole : n.skips inc room inclusions scope = false) :
    ∃ room' left, room = room' + 1 ∧ inclusions = left + 1 ∧
      anyPart (Node.render (some inc) room' left) (Node.skips inc room' left) parts = false := by
  cases room with
  | zero =>
    rw [Node.skips, hold] at whole
    cases whole
  | succ room =>
    rw [Node.skips, hold] at whole
    cases inclusions with
    | zero => cases whole
    | succ left => exact ⟨room, left, rfl, rfl, whole⟩

end Room

/-- Items that give the same texts where none is left out, in a row. -/
theorem joined_congr {α β : Type} {f : α → Except Fault (List Char)}
    {g : β → Except Fault (List Char)} {p : α → Bool} {q : β → Bool} {xs : List α} {ys : List β}
    (h : List.Forall₂ (fun x y => p x = false → q y = false → f x = g y) xs ys)
    (whole : anyReached f p xs = false) (whole' : anyReached g q ys = false) :
    joined f xs = joined g ys := by
  induction h with
  | nil => rfl
  | @cons x y xs ys first _ ih =>
    rw [anyReached, Bool.or_eq_false_iff] at whole whole'
    have same := first whole.1 whole'.1
    rw [joined, joined, same]
    cases text : g y with
    | error e => rfl
    | ok s =>
      have rest := whole.2
      have rest' := whole'.2
      rw [same, text] at rest
      rw [text] at rest'
      rw [ih rest rest']

/-! ### What filled nodes hold -/

/-- Nodes for each item of a loop, in one scope, that are filled. -/
def PartFilled (inc : Fields) (p p' : Scope × List Node) : Prop := p.1 = p'.1 ∧ AllFilled inc p.2 p'.2

/-- What a node and its filled form stand for. A loop left blank borrows what the other includes. -/
inductive Contents.Filled (inc : Fields) : Contents → Contents → Prop
  | plain (text : Except Fault (List Char)) : Contents.Filled inc (.plain text) (.plain text)
  | nested {ps ps' : List (Scope × List Node)} (parts : List.Forall₂ (PartFilled inc) ps ps') :
      Contents.Filled inc (.nested ps) (.nested ps')
  | borrowed {ps ps' : List (Scope × List Node)} (parts : List.Forall₂ (PartFilled inc) ps ps') :
      Contents.Filled inc (.borrowed ps) (.borrowed ps')
  | item {ps ps' : List (Scope × List Node)} {item : String} {tree : List Node}
      (found : included? inc item = some tree)
      (parts : List.Forall₂ (fun p p' => p.2 = tree ∧ p' = (p.1, [.include item])) ps ps') :
      Contents.Filled inc (.borrowed ps) (.nested ps')

theorem forall₂_eachItem {r : Scope × List Node → Scope × List Node → Prop} {scope : Scope}
    {ns ns' : List Node} (h : ∀ layer, r (layer :: scope, ns) (layer :: scope, ns')) (items : List Value) :
    List.Forall₂ r (eachItem scope items ns) (eachItem scope items ns') := by
  rw [eachItem, eachItem, List.forall₂_map_left_iff, List.forall₂_map_right_iff]
  exact List.forall₂_same.2 fun v _ => h v.fields

theorem isBlankBody_filled {inc : Fields} {body body' : List Node} (h : AllFilled inc body body') :
    isBlankBody body = isBlankBody body' := by
  induction h with
  | nil => rfl
  | cons first _ ih =>
    rw [isBlankBody, isBlankBody, List.all_cons, List.all_cons]
    refine congrArg₂ and ?_ ih
    cases first <;> rfl

section Templates

variable {inc inc' : Fields} (templates : FilledTemplates inc inc')

include templates

/-- What is borrowed under one name is filled as well, or missing on both sides. -/
theorem FilledTemplates.contents (name : String) (missing : Except Fault (List Char))
    (parts : List Node → List (Scope × List Node))
    (hold : ∀ tree tree', AllFilled inc tree tree' →
      List.Forall₂ (PartFilled inc) (parts tree) (parts tree')) :
    Contents.Filled inc
      (match included? inc name with
        | none => .plain missing
        | some tree => .borrowed (parts tree))
      (match included? inc' name with
        | none => .plain missing
        | some tree => .borrowed (parts tree)) := by
  have both := templates name
  revert both
  cases included? inc name <;> cases included? inc' name <;> intro both <;> cases both
  case none.none => exact .plain _
  case some.some tree tree' filled => exact .borrowed (hold tree tree' filled)

theorem FilledTemplates.found {name : String} {tree : List Node} (h : included? inc name = some tree) :
    ∃ tree', included? inc' name = some tree' ∧ AllFilled inc tree tree' := by
  have both := templates name
  rw [h] at both
  cases found : included? inc' name with
  | none => rw [found] at both; cases both
  | some tree' =>
    rw [found] at both
    cases both with
    | some filled => exact ⟨tree', rfl, filled⟩

theorem Node.Filled.contents {n n' : Node} (h : n.Filled inc n') (scope : Scope) :
    Contents.Filled inc (n.contents inc scope) (n'.contents inc' scope) := by
  cases h with
  | text => exact .plain _
  | field => exact .plain _
  | «include» =>
    exact templates.contents _ _ (fun tree => [(scope, tree)]) fun tree tree' filled =>
      .cons ⟨rfl, filled⟩ .nil
  | @block kind name body body' inside =>
    by_cases loop : kind = .cond
    · subst loop
      rw [Node.contents, Node.contents]
      cases (scope.find name).isTruthy with
      | false => exact .plain _
      | true => exact .nested (.cons ⟨rfl, inside⟩ .nil)
    · rw [contents_loop inc scope name body loop, contents_loop inc' scope name body' loop,
        isBlankBody_filled inside]
      split
      · exact .plain _
      · split
        · exact templates.contents _ _ (eachItem scope _) fun tree tree' filled =>
            forall₂_eachItem (fun layer => ⟨rfl, filled⟩) _
        · exact .nested (forall₂_eachItem (fun layer => ⟨rfl, inside⟩) _)
  | @item kind name source body loop blank supplied =>
    have found := included?_of_supplied supplied
    rw [contents_loop inc scope name body loop, contents_loop inc' scope name [.include (itemName name)] loop,
      if_pos blank, found]
    split
    · exact .plain _
    · exact .item found (forall₂_eachItem (fun layer => ⟨rfl, rfl⟩) _)

end Templates

/-! ### The same text -/

/-- A node and another give one text where neither leaves a node out. -/
def SameText (inc inc' : Fields) (room inclusions room' inclusions' : Nat) (n n' : Node) : Prop :=
  ∀ scope, n.skips inc room inclusions scope = false → n'.skips inc' room' inclusions' scope = false →
    Node.render (some inc) room inclusions scope n = Node.render (some inc') room' inclusions' scope n'

section SameText

variable {inc inc' : Fields} {room inclusions room' inclusions' : Nat}

/-- What nodes hold gives one text if all nodes do. -/
theorem partsText_filled
    (below : ∀ {n n' : Node}, n.Filled inc n' → SameText inc inc' room inclusions room' inclusions' n n')
    {parts parts' : List (Scope × List Node)} (filled : List.Forall₂ (PartFilled inc) parts parts')
    (whole : anyPart (Node.render (some inc) room inclusions) (Node.skips inc room inclusions) parts = false)
    (whole' : anyPart (Node.render (some inc') room' inclusions') (Node.skips inc' room' inclusions') parts' =
      false) :
    partsText inc room inclusions parts = partsText inc' room' inclusions' parts' := by
  refine joined_congr (filled.imp ?_) whole whole'
  rintro ⟨scope, ns⟩ ⟨_, ns'⟩ ⟨rfl, inside⟩ inner inner'
  exact joined_congr (inside.imp fun n n' h => below h scope) inner inner'

/-- A tree read in a scope gives what the inclusion of its filled form gives. -/
theorem joined_include (templates : FilledTemplates inc inc') {item : String} {tree : List Node}
    (found : included? inc item = some tree)
    (below : ∀ {r i : Nat} {n n' : Node}, n.Filled inc n' → SameText inc inc' room inclusions r i n n')
    (scope : Scope)
    (whole : anyReached (Node.render (some inc) room inclusions scope) (Node.skips inc room inclusions scope)
      tree = false)
    (whole' : (Node.include item).skips inc' room' inclusions' scope = false) :
    joined (Node.render (some inc) room inclusions scope) tree =
      Node.render (some inc') room' inclusions' scope (.include item) := by
  obtain ⟨tree', found', filled⟩ := templates.found found
  have hold : (Node.include item).contents inc' scope = .borrowed [(scope, tree')] := by
    rw [Node.contents, found']
  obtain ⟨r, i, rfl, rfl, inner⟩ := room_of_borrowed hold whole'
  rw [Node.render_eq, hold, Contents.text, partsText_singleton]
  rw [anyPart, anyReached_singleton] at inner
  exact joined_congr (filled.imp fun n n' h => below h scope) whole inner

/-- A borrowed tree, read in some scopes, gives what the inclusions of it give. -/
theorem partsText_item (templates : FilledTemplates inc inc') {item : String} {tree : List Node}
    (found : included? inc item = some tree)
    (below : ∀ {r i : Nat} {n n' : Node}, n.Filled inc n' → SameText inc inc' room inclusions r i n n')
    {parts parts' : List (Scope × List Node)}
    (borrowed : List.Forall₂ (fun p p' => p.2 = tree ∧ p' = (p.1, [.include item])) parts parts')
    (whole : anyPart (Node.render (some inc) room inclusions) (Node.skips inc room inclusions) parts = false)
    (whole' : anyPart (Node.render (some inc') room' inclusions') (Node.skips inc' room' inclusions') parts' =
      false) :
    partsText inc room inclusions parts = partsText inc' room' inclusions' parts' := by
  refine joined_congr (borrowed.imp ?_) whole whole'
  rintro ⟨scope, _⟩ _ ⟨rfl, rfl⟩ inner inner'
  rw [anyReached_singleton] at inner'
  rw [joined_singleton]
  exact joined_include templates found below scope inner inner'

end SameText

/-- A node gives the text of its filled form, where neither leaves a node out. -/
theorem Node.Filled.sameText {inc inc' : Fields} (templates : FilledTemplates inc inc')
    {room inclusions room' inclusions' : Nat} {n n' : Node} (h : n.Filled inc n') :
    SameText inc inc' room inclusions room' inclusions' n n' := by
  -- the filled form nests deeper, so only the room of the node goes down and that of its form is any
  induction room using Nat.strongRecOn generalizing inclusions room' inclusions' n n' with
  | ind room below =>
    intro scope whole whole'
    rw [Node.render_eq, Node.render_eq]
    have step := h.contents templates scope
    generalize hold : n.contents inc scope = c at step
    generalize hold' : n'.contents inc' scope = c' at step
    cases step with
    | plain text => rw [Contents.text, Contents.text]
    | nested parts =>
      obtain ⟨r, rfl, inner⟩ := room_of_nested hold whole
      obtain ⟨r', rfl, inner'⟩ := room_of_nested hold' whole'
      rw [Contents.text, Contents.text]
      exact partsText_filled (below r (Nat.lt_succ_self r)) parts inner inner'
    | borrowed parts =>
      obtain ⟨r, i, rfl, rfl, inner⟩ := room_of_borrowed hold whole
      obtain ⟨r', i', rfl, rfl, inner'⟩ := room_of_borrowed hold' whole'
      rw [Contents.text, Contents.text]
      exact partsText_filled (below r (Nat.lt_succ_self r)) parts inner inner'
    | item found parts =>
      obtain ⟨r, i, rfl, rfl, inner⟩ := room_of_borrowed hold whole
      obtain ⟨r', rfl, inner'⟩ := room_of_nested hold' whole'
      rw [Contents.text, Contents.text]
      exact partsText_item templates found (below r (Nat.lt_succ_self r)) parts inner inner'

/-- Loops left blank may include the template for their items, in a tree and in what it includes: the
text is the same where neither leaves a node out. -/
theorem joined_filled {inc inc' : Fields} (templates : FilledTemplates inc inc') {ns ns' : List Node}
    (filled : AllFilled inc ns ns') {limits limits' : Limits} {scope : Scope}
    (whole : skipsAny inc limits scope ns = false) (whole' : skipsAny inc' limits' scope ns' = false) :
    joined (Node.render (some inc) limits.depth limits.inclusions scope) ns =
      joined (Node.render (some inc') limits'.depth limits'.inclusions scope) ns' :=
  joined_congr (filled.imp fun _ _ h => h.sameText templates scope) whole whole'

/-- A row that includes the template for its posts. -/
def fullRow : String :=
  "<li>\x7b\x7bname\x7d\x7d\x7b\x7b#posts\x7d\x7d\x7b\x7b> post_item\x7d\x7d\x7b\x7b/posts\x7d\x7d</li>"

theorem parse_fullRow : parse fullRow.toList =
    [.text "<li>", .field "name", .block .section "posts" [.include "post_item"], .text "</li>"] := by cbv

theorem joined_filled_thread :
    FilledTemplates rows (rows.put "row" (.text fullRow)) ∧
      AllFilled rows [.block .each "posts" []] [.block .each "posts" [.include "post_item"]] ∧
      skipsAny rows {} [thread] [.block .each "posts" []] = false ∧
      skipsAny (rows.put "row" (.text fullRow)) {} [thread]
        [.block .each "posts" [.include "post_item"]] = false ∧
      joined (Node.render (some rows) 32 8 [thread]) [.block .each "posts" []] =
        joined (Node.render (some (rows.put "row" (.text fullRow))) 32 8 [thread])
          [.block .each "posts" [.include "post_item"]] := by
  have supplied : Supplied rows (itemName "posts") itemSource := ⟨rfl, by decide⟩
  have row : AllFilled rows (parse rowSource.toList) (parse fullRow.toList) := by
    rw [parse_rowSource, parse_fullRow]
    exact .cons .text (.cons .field (.cons (.item BlockKind.noConfusion rfl supplied) (.cons .text .nil)))
  have templates : FilledTemplates rows (rows.put "row" (.text fullRow)) :=
    .put ⟨rfl, by decide⟩ (by decide) row
  have page : AllFilled rows [.block .each "posts" []] [.block .each "posts" [.include "post_item"]] :=
    .cons (.item BlockKind.noConfusion rfl supplied) .nil
  have whole : skipsAny rows {} [thread] [.block .each "posts" []] = false := by decide +kernel
  have whole' : skipsAny (rows.put "row" (.text fullRow)) {} [thread]
      [.block .each "posts" [.include "post_item"]] = false := by decide +kernel
  exact ⟨templates, page, whole, whole', joined_filled templates page whole whole'⟩

end Template

end PageSkins
