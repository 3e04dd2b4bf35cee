import PageSkins.Proofs.Template.Contents

/-!
# Evaluations inside each other

Filling in once more, with an account of it. Depth and inclusions are counted up from zero and
checked against the limits before a list of nodes is entered, and every list that is filled in
is kept, inside the one that it was entered from. Templates may include themselves; what ends the
recursion is the depth alone, which grows by one with every evaluation inside another. The texts
are those of filling in by what is left of the limits.
-/

namespace PageSkins.Template

/-- A list of nodes as it was filled in. -/
structure Evaluation where
  depth : Nat
  inclusions : Nat
  /-- Whether the nodes are those of a template under a name. -/
  included : Bool
  scope : Scope
  nodes : List Node
  text : Except Fault (List Char)
  /-- The lists that were entered from this one. -/
  inside : List Evaluation

/-- A text, and the evaluations that were made for it. -/
structure Traced where
  text : Except Fault (List Char)
  made : List Evaluation

namespace Traced

def plain (text : Except Fault (List Char)) : Traced := ⟨text, []⟩

def ofEvaluation (e : Evaluation) : Traced := ⟨e.text, [e]⟩

/-- Texts one after the other, up to the first that there is none of. -/
def sequence {α : Type} (f : α → Traced) : List α → Traced
  | [] => plain (.ok [])
  | a :: rest => match (f a).text with
    | .error fault => ⟨.error fault, (f a).made⟩
    | .ok s =>
      let later := sequence f rest
      ⟨later.text.map (s ++ ·), (f a).made ++ later.made⟩

theorem text_sequence {α : Type} (f : α → Traced) (xs : List α) :
    (sequence f xs).text = joined (fun a => (f a).text) xs := by
  induction xs with
  | nil => rfl
  | cons a rest ih =>
    rw [sequence, joined]
    cases (f a).text with
    | error fault => rfl
    | ok s =>
      change (sequence f rest).text.map (s ++ ·) = _
      rw [ih]
      cases joined (fun a => (f a).text) rest with
      | error fault => rfl
      | ok t => rfl

theorem exists_of_mem_sequence {α : Type} {f : α → Traced} {xs : List α} {e : Evaluation}
    (h : e ∈ (sequence f xs).made) : ∃ a ∈ xs, e ∈ (f a).made := by
  induction xs with
  | nil => cases h
  | cons a rest ih =>
    rw [sequence] at h
    cases text : (f a).text with
    | error fault =>
      rw [text] at h
      exact ⟨a, List.mem_cons_self, h⟩
    | ok s =>
      rw [text] at h
      rcases List.mem_append.1 h with first | later
      · exact ⟨a, List.mem_cons_self, first⟩
      · obtain ⟨b, hb, made⟩ := ih later
        exact ⟨b, List.mem_cons_of_mem a hb, made⟩

end Traced

def evaluate (limits : Limits) (inc : Fields) (depth inclusions : Nat) (included : Bool)
    (scope : Scope) (nodes : List Node) : Evaluation :=
  let all := Traced.sequence (fun n : Node => match n.contents inc scope with
    | .plain text => .plain text
    | .nested parts =>
      if depth < limits.depth then
        Traced.sequence (fun p =>
          .ofEvaluation (evaluate limits inc (depth + 1) inclusions false p.1 p.2)) parts
      else .plain (.ok [])
    | .borrowed parts =>
      if depth < limits.depth ∧ inclusions < limits.inclusions then
        Traced.sequence (fun p =>
          .ofEvaluation (evaluate limits inc (depth + 1) (inclusions + 1) true p.1 p.2)) parts
      else .plain (.ok [])) nodes
  ⟨depth, inclusions, included, scope, nodes, all.text, all.made⟩
termination_by limits.depth - depth

def evaluation (limits : Limits) (template : List Char) (scope inc : Fields) : Evaluation :=
  evaluate limits inc 0 0 false [scope] (parse template)

/-- An evaluation stands inside another, so many evaluations deep, so many of which are those of
templates under a name. -/
inductive Nested : Evaluation → (levels inclusions : Nat) → Evaluation → Prop
  | self (e : Evaluation) : Nested e 0 0 e
  | block {e within x : Evaluation} {levels inclusions : Nat} (here : within ∈ e.inside)
      (plain : within.included = false) (deeper : Nested within levels inclusions x) :
      Nested e (levels + 1) inclusions x
  | template {e within x : Evaluation} {levels inclusions : Nat} (here : within ∈ e.inside)
      (named : within.included = true) (deeper : Nested within levels inclusions x) :
      Nested e (levels + 1) (inclusions + 1) x

section
variable {limits : Limits} {inc : Fields} {depth inclusions : Nat} {included : Bool}
  {scope : Scope} {nodes : List Node}

@[simp]
theorem depth_evaluate :
    (evaluate limits inc depth inclusions included scope nodes).depth = depth := by rw [evaluate]

@[simp]
theorem inclusions_evaluate :
    (evaluate limits inc depth inclusions included scope nodes).inclusions = inclusions := by
  rw [evaluate]

@[simp]
theorem included_evaluate :
    (evaluate limits inc depth inclusions included scope nodes).included = included := by
  rw [evaluate]

@[simp]
theorem scope_evaluate :
    (evaluate limits inc depth inclusions included scope nodes).scope = scope := by rw [evaluate]

@[simp]
theorem nodes_evaluate :
    (evaluate limits inc depth inclusions included scope nodes).nodes = nodes := by rw [evaluate]

/-- What is entered from an evaluation: a list of nodes one level deeper, below the limit of the
depth, and where it is that of a template, below the limit of inclusions and counted as one. -/
theorem of_mem_inside {e : Evaluation}
    (h : e ∈ (evaluate limits inc depth inclusions included scope nodes).inside) :
    depth < limits.depth ∧ ∃ scope' nodes',
      e = evaluate limits inc (depth + 1) inclusions false scope' nodes' ∨
        inclusions < limits.inclusions ∧
          e = evaluate limits inc (depth + 1) (inclusions + 1) true scope' nodes' := by
  rw [evaluate] at h
  obtain ⟨n, -, made⟩ := Traced.exists_of_mem_sequence h
  split at made
  · cases made
  · rename_i parts _
    split at made
    · rename_i room
      obtain ⟨p, -, single⟩ := Traced.exists_of_mem_sequence made
      exact ⟨room, p.1, p.2, .inl (List.mem_singleton.1 single)⟩
    · cases made
  · rename_i parts _
    split at made
    · rename_i room
      obtain ⟨p, -, single⟩ := Traced.exists_of_mem_sequence made
      exact ⟨room.1, p.1, p.2, .inr ⟨room.2, List.mem_singleton.1 single⟩⟩
    · cases made

/-- The text of an evaluation is what its nodes are filled in with by what is left of the limits. -/
theorem text_evaluate {room left : Nat} (hd : depth + room = limits.depth)
    (hi : inclusions + left = limits.inclusions) :
    (evaluate limits inc depth inclusions included scope nodes).text =
      joined (Node.render (some inc) room left scope) nodes := by
  induction room generalizing depth inclusions left included scope nodes with
  | zero =>
    rw [evaluate]
    dsimp only
    rw [Traced.text_sequence]
    congr 1
    funext n
    rw [Node.render_eq]
    cases n.contents inc scope with
    | plain text => rfl
    | nested parts =>
      dsimp only
      rw [if_neg (by omega)]
      rfl
    | borrowed parts =>
      dsimp only
      rw [if_neg (by omega)]
      rfl
  | succ room ih =>
    rw [evaluate]
    dsimp only
    rw [Traced.text_sequence]
    congr 1
    funext n
    rw [Node.render_eq]
    cases n.contents inc scope with
    | plain text => rfl
    | nested parts =>
      dsimp only
      rw [if_pos (by omega), Traced.text_sequence]
      exact congrArg (joined · parts) (funext fun p => ih (by omega) hi)
    | borrowed parts =>
      dsimp only
      cases left with
      | zero =>
        rw [if_neg (by omega)]
        rfl
      | succ left =>
        rw [if_pos (by omega), Traced.text_sequence]
        exact congrArg (joined · parts) (funext fun p => ih (by omega) (by omega))

end

/-! ### Evaluations at any depth -/

section
variable {limits : Limits} {inc : Fields} {n k : Nat} {e : Evaluation}

/-- What is known of each evaluation inside one that is within the limits: its counters are those of
the outer one and what was counted on the way, they are within the limits too, and its text is the
one that what is left of the limits gives. -/
theorem bounded_of_nested {depth inclusions : Nat} {included : Bool} {scope : Scope} {nodes : List Node}
    (room : depth ≤ limits.depth) (left : inclusions ≤ limits.inclusions)
    (h : Nested (evaluate limits inc depth inclusions included scope nodes) n k e) :
    e.depth = depth + n ∧ e.inclusions = inclusions + k ∧ k ≤ n ∧
      e.depth ≤ limits.depth ∧ e.inclusions ≤ limits.inclusions ∧
      e.text = joined (Node.render (some inc) (limits.depth - e.depth)
        (limits.inclusions - e.inclusions) e.scope) e.nodes := by
  generalize start : evaluate limits inc depth inclusions included scope nodes = outer at h
  induction h generalizing depth inclusions included scope nodes with
  | self e =>
    subst start
    have text : (evaluate limits inc depth inclusions included scope nodes).text = _ :=
      text_evaluate (Nat.add_sub_cancel' room) (Nat.add_sub_cancel' left)
    simpa using ⟨room, left, text⟩
  | block here plain _ ih =>
    subst start
    obtain ⟨deeper, scope', nodes', rfl | ⟨-, rfl⟩⟩ := of_mem_inside here
    · obtain ⟨depth', inclusions', rest⟩ := ih deeper left rfl
      refine ⟨by omega, inclusions', ?_, rest.2⟩
      exact Nat.le_succ_of_le rest.1
    · rw [included_evaluate] at plain
      cases plain
  | template here named _ ih =>
    subst start
    obtain ⟨deeper, scope', nodes', rfl | ⟨more, rfl⟩⟩ := of_mem_inside here
    · rw [included_evaluate] at named
      cases named
    · obtain ⟨depth', inclusions', rest⟩ := ih deeper more rfl
      refine ⟨by omega, by omega, ?_, rest.2⟩
      exact Nat.succ_le_succ rest.1

/-- Every evaluation of a template, templates that include themselves or each other among them, is
as deep as the evaluations around it are many, and has as many inclusions as these are templates under
a name; both are within the limits. The text is that of filling in, for the whole and for each. -/
theorem evaluation_bounded (limits : Limits) (template : List Char) (scope inc : Fields) :
    (evaluation limits template scope inc).text = render? limits template scope (some inc) ∧
      ∀ n k e, Nested (evaluation limits template scope inc) n k e →
        e.depth = n ∧ e.inclusions = k ∧ e.inclusions ≤ e.depth ∧
          e.depth ≤ limits.depth ∧ e.inclusions ≤ limits.inclusions ∧
          e.text = joined (Node.render (some inc) (limits.depth - e.depth)
            (limits.inclusions - e.inclusions) e.scope) e.nodes := by
  constructor
  · exact text_evaluate (Nat.zero_add _) (Nat.zero_add _)
  · intro n k e h
    obtain ⟨depth, inclusions, fewer, rest⟩ := bounded_of_nested (Nat.zero_le _) (Nat.zero_le _) h
    rw [Nat.zero_add] at depth inclusions
    refine ⟨depth, inclusions, ?_, rest⟩
    rw [depth, inclusions]
    exact fewer

end

/-- A template with a loop of nothing but a blank, whose items are each filled in with a template
that includes the first one. -/
def cycle : Fields := [("a", .text "\x7b\x7b#each posts\x7d\x7d \x7b\x7b/each\x7d\x7d"),
  ("post_item", .text "\x7b\x7b> a\x7d\x7d")]

/-- Two templates under a name are nested before the limit of inclusions cuts off the third. -/
theorem evaluation_bounded_cycle : ∃ e,
    Nested (evaluation ⟨4, 2⟩ "\x7b\x7b> a\x7d\x7d".toList [("posts", .list [.null])] cycle) 2 2 e ∧
      e.inside.isEmpty = true ∧ e.depth = 2 ∧ e.inclusions = 2 ∧ e.depth ≤ 4 := by
  have entered : ∃ first ∈
      (evaluation ⟨4, 2⟩ "\x7b\x7b> a\x7d\x7d".toList [("posts", .list [.null])] cycle).inside,
      first.included = true ∧ ∃ second ∈ first.inside,
        second.included = true ∧ second.inside.isEmpty = true := by decide +kernel
  obtain ⟨first, here, named, second, here', named', last⟩ := entered
  have nested := Nested.template here named (.template here' named' (.self second))
  obtain ⟨depth, inclusions, -, within, -⟩ := (evaluation_bounded _ _ _ _).2 _ _ _ nested
  exact ⟨second, nested, last, depth, inclusions, within⟩

end PageSkins.Template
