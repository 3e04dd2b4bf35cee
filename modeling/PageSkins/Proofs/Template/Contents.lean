import PageSkins.Proofs.Template.Reading

/-!
# What a node holds

One step of filling in: in a scope, a node stands for a text of its own or holds lists of
nodes, each with the scope that it is read in. What a node holds takes one level of nesting,
and one inclusion where it comes from a template under a name. Where there is no room for
that, the node gives no text. Filling in is this step, taken again on what a node holds.
-/

namespace PageSkins.Template

/-- The tree of the template under a name, if there is one that is not empty. -/
def included? (inc : Fields) (name : String) : Option (List Node) :=
  match Includes.source? (some inc) name with
  | .ok source => source.map parse
  | .error _ => none

/-- What a node stands for: a text, or lists of nodes that take a level of nesting, and an inclusion
where they are borrowed. -/
inductive Contents where
  | plain (text : Except Fault (List Char))
  | nested (parts : List (Scope × List Node))
  | borrowed (parts : List (Scope × List Node))

/-- Nodes once for each item of a loop, with the fields of the item over the scope. -/
def eachItem (scope : Scope) (items : List Value) (ns : List Node) : List (Scope × List Node) :=
  items.map fun v => (v.fields :: scope, ns)

def Node.contents (inc : Fields) (scope : Scope) : Node → Contents
  | .text s => .plain (.ok s.toList)
  | .field name => .plain (fieldText name (scope.find name))
  | .include name => match included? inc name with
    | none => .plain (.ok (notFound name))
    | some tree => .borrowed [(scope, tree)]
  | .block .cond name body =>
    if (scope.find name).isTruthy then .nested [(scope, body)] else .plain (.ok [])
  | .block _ name body =>
    let items := loopItems (scope.find name)
    if items.isEmpty then .plain (.ok [])
    else if isBlankBody body then match included? inc (itemName name) with
      | none => .plain (.ok [])
      | some tree => .borrowed (eachItem scope items tree)
    else .nested (eachItem scope items body)

def partsText (inc : Fields) (room inclusions : Nat) (parts : List (Scope × List Node)) :
    Except Fault (List Char) :=
  joined (fun p => joined (Node.render (some inc) room inclusions p.1) p.2) parts

def Contents.text (inc : Fields) : Contents → (room : Nat) → (inclusions : Nat) →
    Except Fault (List Char)
  | .plain text, _, _ => text
  | .nested parts, room + 1, inclusions => partsText inc room inclusions parts
  | .borrowed parts, room + 1, left + 1 => partsText inc room left parts
  | _, _, _ => .ok []

/-! ### Templates under a name -/

theorem included?_of_supplied {inc : Fields} {name source : String} (h : Supplied inc name source) :
    included? inc name = some (parse source.toList) := by
  rw [included?, source?_of_supplied h]
  rfl

theorem included?_of_absent {inc : Fields} {name : String} (h : ∀ source, ¬ Supplied inc name source) :
    included? inc name = none := by
  rw [included?, source?_of_absent h]
  rfl

theorem supplied_or_absent (inc : Fields) (name : String) :
    (∃ source, Supplied inc name source) ∨ ∀ source, ¬ Supplied inc name source := by
  by_cases h : ∃ source, Supplied inc name source
  · exact .inl h
  · exact .inr (not_exists.1 h)

/-! ### Lists of nodes -/

theorem joined_singleton {α : Type} (f : α → Except Fault (List Char)) (a : α) :
    joined f [a] = f a := by
  rw [joined, joined]
  cases f a with
  | error e => rfl
  | ok s => exact congrArg Except.ok (List.append_nil s)

theorem joined_map {α β : Type} (f : β → Except Fault (List Char)) (g : α → β) (xs : List α) :
    joined f (xs.map g) = joined (fun x => f (g x)) xs := by
  induction xs with
  | nil => rfl
  | cons x xs ih => rw [List.map_cons, joined, joined, ih]

theorem partsText_singleton (inc : Fields) (room inclusions : Nat) (scope : Scope) (ns : List Node) :
    partsText inc room inclusions [(scope, ns)] = joined (Node.render (some inc) room inclusions scope) ns :=
  joined_singleton _ _

theorem partsText_eachItem (inc : Fields) (room inclusions : Nat) (scope : Scope) (items : List Value)
    (ns : List Node) : partsText inc room inclusions (eachItem scope items ns) =
      joined (fun v => joined (Node.render (some inc) room inclusions (v.fields :: scope)) ns) items :=
  joined_map _ _ items

/-! ### One step -/

section Step

variable (inc : Fields) (room inclusions : Nat) (scope : Scope) (name : String) (body : List Node)

theorem render_roomless (kind : BlockKind) :
    Node.render (some inc) 0 inclusions scope (.block kind name body) = .ok [] := by
  rw [Node.render]

theorem render_include_eq : Node.render (some inc) room inclusions scope (.include name) =
    ((Node.include name).contents inc scope).text inc room inclusions := by
  rw [Node.contents]
  rcases supplied_or_absent inc name with ⟨source, supplied⟩ | absent
  · rw [included?_of_supplied supplied]
    cases room with
    | zero =>
      rw [Node.render, source?_of_supplied supplied]
      rfl
    | succ room =>
      cases inclusions with
      | zero =>
        rw [Node.render, source?_of_supplied supplied]
        rfl
      | succ left => exact (render_included supplied).trans (partsText_singleton ..).symm
  · rw [included?_of_absent absent]
    exact render_missing absent

theorem render_cond_eq : Node.render (some inc) room inclusions scope (.block .cond name body) =
    ((Node.block .cond name body).contents inc scope).text inc room inclusions := by
  rw [Node.contents, Scope.find_eq_innermost]
  cases truth : (scope.innermost name).isTruthy with
  | false => exact render_passed truth
  | true =>
    cases room with
    | zero => exact render_roomless ..
    | succ room => exact (render_entered truth).trans (partsText_singleton ..).symm

variable {kind : BlockKind} (loop : kind ≠ .cond)

include loop

theorem contents_loop : (Node.block kind name body).contents inc scope =
    if (loopItems (scope.innermost name)).isEmpty then .plain (.ok [])
    else if isBlankBody body then match included? inc (itemName name) with
      | none => .plain (.ok [])
      | some tree => .borrowed (eachItem scope (loopItems (scope.innermost name)) tree)
    else .nested (eachItem scope (loopItems (scope.innermost name)) body) := by
  rw [← Scope.find_eq_innermost]
  cases kind with
  | cond => exact absurd rfl loop
  | each => rfl
  | «section» => rfl

theorem render_loop_eq : Node.render (some inc) room inclusions scope (.block kind name body) =
    ((Node.block kind name body).contents inc scope).text inc room inclusions := by
  rw [contents_loop inc scope name body loop]
  by_cases items : loopItems (scope.innermost name) = []
  · rw [items]
    exact render_empty loop items
  rw [if_neg (by simpa using items)]
  cases blank : isBlankBody body with
  | false =>
    cases room with
    | zero => exact render_roomless ..
    | succ room => exact (render_repeated loop items blank).trans (partsText_eachItem ..).symm
  | true =>
    rcases supplied_or_absent inc (itemName name) with ⟨source, supplied⟩ | absent
    · rw [included?_of_supplied supplied]
      cases room with
      | zero => exact render_roomless ..
      | succ room =>
        cases inclusions with
        | zero =>
          have source? := source?_of_supplied supplied
          unfold itemName at source?
          simp [Node.render, Scope.find_eq_innermost, items, blank, source?]
          rfl
        | succ left => exact (render_borrowed loop items blank supplied).trans (partsText_eachItem ..).symm
    · rw [included?_of_absent absent]
      exact render_bare loop blank absent

end Step

/-- The text of a node is that of what it stands for. -/
theorem Node.render_eq (inc : Fields) (room inclusions : Nat) (scope : Scope) (n : Node) :
    Node.render (some inc) room inclusions scope n = (n.contents inc scope).text inc room inclusions := by
  cases n with
  | text s => rw [Node.render, Node.contents, Contents.text]
  | field name => rw [Node.render, Node.contents, Contents.text]
  | «include» name => exact render_include_eq inc room inclusions scope name
  | block kind name body =>
    cases kind with
    | cond => exact render_cond_eq inc room inclusions scope name body
    | each => exact render_loop_eq inc room inclusions scope name body BlockKind.noConfusion
    | «section» => exact render_loop_eq inc room inclusions scope name body BlockKind.noConfusion

end PageSkins.Template
