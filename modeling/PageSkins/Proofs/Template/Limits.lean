import PageSkins.Proofs.Template.Contents

/-!
# Raising the limits

Under higher limits a template gives the same text with more in it: what is left out for lack
of room leaves nothing in its place, and what stands for a template that is not there does not
depend on the limits. Templates may include themselves. Nothing is said of scopes with an
integer too long to be written.
-/

namespace PageSkins.Template

variable {inc : Fields}

/-! ### Texts that grow -/

/-- Two results are texts, and the second has all of the first, in order. -/
def Grows (a b : Except Fault (List Char)) : Prop :=
  ∃ s t : List Char, a = .ok s ∧ b = .ok t ∧ s.Sublist t

namespace Grows

variable {a b a' b' : Except Fault (List Char)}

theorem ok {s t : List Char} (h : s.Sublist t) : Grows (.ok s) (.ok t) := ⟨s, t, rfl, rfl, h⟩

theorem nothing (h : Grows a b) : Grows (.ok []) b := by
  obtain ⟨s, t, rfl, rfl, -⟩ := h
  exact ok (List.nil_sublist t)

theorem append (h : Grows a a') (h' : Grows b b') :
    Grows (do return (← a) ++ (← b)) (do return (← a') ++ (← b')) := by
  obtain ⟨s, s', rfl, rfl, first⟩ := h
  obtain ⟨t, t', rfl, rfl, second⟩ := h'
  exact ok (first.append second)

theorem joined {α : Type} {f g : α → Except Fault (List Char)} {xs : List α}
    (h : ∀ x ∈ xs, Grows (f x) (g x)) : Grows (Template.joined f xs) (Template.joined g xs) := by
  induction xs with
  | nil => exact ok (List.Sublist.refl [])
  | cons x xs ih => exact append (h x List.mem_cons_self) (ih fun y hy => h y (List.mem_cons_of_mem x hy))

end Grows

/-! ### Scopes without integers too long to be written -/

/-- The text is one, and the scopes of what is held are short. -/
def Contents.Short : Contents → Prop
  | .plain text => ∃ s, text = .ok s
  | .nested parts | .borrowed parts => ∀ p ∈ parts, p.1.Short

theorem short_eachItem {scope : Scope} (short : scope.Short) (name : String) (ns : List Node) :
    ∀ p ∈ eachItem scope (loopItems (scope.innermost name)) ns, p.1.Short := by
  intro p hp
  obtain ⟨v, hv, rfl⟩ := List.mem_map.1 hp
  exact short.cons (short.items name v hv)

theorem short_loop {scope : Scope} (short : scope.Short) {kind : BlockKind} (loop : kind ≠ .cond)
    (name : String) (body : List Node) : ((Node.block kind name body).contents inc scope).Short := by
  rw [contents_loop inc scope name body loop]
  split
  · exact ⟨[], rfl⟩
  · split
    · split
      · exact ⟨[], rfl⟩
      · exact short_eachItem short name _
    · exact short_eachItem short name body

theorem Scope.Short.contents {scope : Scope} (short : scope.Short) (n : Node) :
    (n.contents inc scope).Short := by
  have alone (ns : List Node) : ∀ p ∈ [(scope, ns)], p.1.Short := by
    intro p hp
    rw [List.mem_singleton.1 hp]
    exact short
  cases n with
  | text s => exact ⟨s.toList, rfl⟩
  | field name =>
    rw [Node.contents, Scope.find_eq_innermost]
    exact ⟨_, fieldText_eq_ok (short.innermost name)⟩
  | «include» name =>
    rw [Node.contents]
    split
    · exact ⟨notFound name, rfl⟩
    · exact alone _
  | block kind name body =>
    cases kind with
    | cond =>
      rw [Node.contents]
      split
      · exact alone body
      · exact ⟨[], rfl⟩
    | each => exact short_loop short BlockKind.noConfusion name body
    | «section» => exact short_loop short BlockKind.noConfusion name body

/-! ### More room -/

/-- What a node holds grows if all nodes do. -/
theorem partsText_grows {room room' inclusions inclusions' : Nat} {parts : List (Scope × List Node)}
    (below : ∀ {scope : Scope}, scope.Short → ∀ n : Node,
      Grows (Node.render (some inc) room inclusions scope n)
        (Node.render (some inc) room' inclusions' scope n))
    (short : ∀ p ∈ parts, p.1.Short) :
    Grows (partsText inc room inclusions parts) (partsText inc room' inclusions' parts) :=
  Grows.joined fun p hp => Grows.joined fun n _ => below (short p hp) n

/-- Where the shorter text is cut off, the longer one grows from nothing. -/
theorem Contents.text_grows {room room' inclusions inclusions' : Nat} (more : room ≤ room')
    (more' : inclusions ≤ inclusions')
    (below : ∀ {r r' i i' : Nat}, r' < room' → r ≤ r' → i ≤ i' → ∀ {scope : Scope},
      scope.Short → ∀ n : Node,
        Grows (Node.render (some inc) r i scope n) (Node.render (some inc) r' i' scope n))
    {c : Contents} (short : c.Short) : Grows (c.text inc room inclusions) (c.text inc room' inclusions') := by
  cases c with
  | plain text =>
    obtain ⟨s, rfl⟩ := short
    exact Grows.ok (List.Sublist.refl s)
  | nested parts =>
    cases room' with
    | zero =>
      obtain rfl := Nat.le_zero.1 more
      exact Grows.ok (List.Sublist.refl [])
    | succ room' =>
      have inner {r : Nat} (fits : r ≤ room') :
          Grows (partsText inc r inclusions parts) (partsText inc room' inclusions' parts) :=
        partsText_grows (below (Nat.lt_succ_self room') fits more') short
      cases room with
      | zero => exact (inner (Nat.zero_le room')).nothing
      | succ room => exact inner (Nat.le_of_succ_le_succ more)
  | borrowed parts =>
    cases room' with
    | zero =>
      obtain rfl := Nat.le_zero.1 more
      exact Grows.ok (List.Sublist.refl [])
    | succ room' =>
      cases inclusions' with
      | zero =>
        obtain rfl := Nat.le_zero.1 more'
        cases room with
        | zero => exact Grows.ok (List.Sublist.refl [])
        | succ room => exact Grows.ok (List.Sublist.refl [])
      | succ left' =>
        have inner {r i : Nat} (fits : r ≤ room') (fits' : i ≤ left') :
            Grows (partsText inc r i parts) (partsText inc room' left' parts) :=
          partsText_grows (below (Nat.lt_succ_self room') fits fits') short
        have cut := (inner (Nat.zero_le room') (Nat.zero_le left')).nothing
        cases room with
        | zero => exact cut
        | succ room =>
          cases inclusions with
          | zero => exact cut
          | succ left => exact inner (Nat.le_of_succ_le_succ more) (Nat.le_of_succ_le_succ more')

theorem Node.render_grows {room room' inclusions inclusions' : Nat} (more : room ≤ room')
    (more' : inclusions ≤ inclusions') {scope : Scope} (short : scope.Short) (n : Node) :
    Grows (Node.render (some inc) room inclusions scope n)
      (Node.render (some inc) room' inclusions' scope n) := by
  induction room' using Nat.strongRecOn generalizing room inclusions inclusions' scope n with
  | ind room' below =>
    rw [Node.render_eq, Node.render_eq]
    exact Contents.text_grows more more'
      (fun smaller fits fits' _ short n => below _ smaller fits fits' short n) (short.contents n)

theorem short_singleton {scope : Fields} (short : Json.anyLongField scope = false) :
    Scope.Short [scope] := by
  intro layer hl
  rw [List.mem_singleton.1 hl]
  exact short

/-- Under higher limits a template gives all of the text that it gives under lower ones, in order. -/
theorem render_sublist {limits limits' : Limits} (depth : limits.depth ≤ limits'.depth)
    (inclusions : limits.inclusions ≤ limits'.inclusions) (template : List Char) {scope : Fields}
    (short : Json.anyLongField scope = false) (inc : Fields) :
    (render limits template scope (some inc)).Sublist (render limits' template scope (some inc)) := by
  have each (n : Node) : Grows (Node.render (some inc) limits.depth limits.inclusions [scope] n)
      (Node.render (some inc) limits'.depth limits'.inclusions [scope] n) :=
    Node.render_grows depth inclusions (short_singleton short) n
  obtain ⟨s, t, lower, higher, all⟩ := Grows.joined fun n (_ : n ∈ parse template) => each n
  rw [render, render?, lower, render, render?, higher]
  exact all

def looping : Fields := [("loop", .text
  "x\x7b\x7b#posts\x7d\x7d\x7b\x7bn\x7d\x7d\x7b\x7b> loop\x7d\x7d\x7b\x7b/posts\x7d\x7d")]

def twoPosts : Fields := [("posts", .list [.map [("n", .text "1")], .map [("n", .text "2")]])]

theorem render_sublist_looping : Json.anyLongField twoPosts = false ∧
    (render ⟨3, 1⟩ "a\x7b\x7b> loop\x7d\x7db".toList twoPosts (some looping)).Sublist
      (render ⟨6, 4⟩ "a\x7b\x7b> loop\x7d\x7db".toList twoPosts (some looping)) :=
  ⟨rfl, render_sublist (by decide) (by decide) _ rfl looping⟩

end PageSkins.Template
