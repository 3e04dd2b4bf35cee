import Mathlib.Data.List.Basic
import PageSkins.Proofs.Markup.TreeAttributes

/-!
# Trees planted in an arena

A tree that is added at the end of a node takes numbers of its own, so it leaves
every other node as it was, and what stands inside the node is then what stood
there before, followed by the tree. Numbers grow from parent to child, so
reading a node back needs no more fuel than there are numbers after it.
-/

namespace PageSkins.Markup

/-- The text at the end of a node, empty after a child. -/
def Element.trailing (e : Element) : List Char :=
  match e.branches.back? with
  | none => e.lead
  | some b => b.tail

namespace Arena

/-- Children have greater numbers than their parents, and all of them are listed. -/
def Ordered (a : Arena) : Prop :=
  ∀ i, ∀ b ∈ (a.get i).branches.toList, i < b.id ∧ b.id < a.size ∧ b.listed = true

def content (a : Arena) (i : Nat) : List Tree := Tree.inside a true (a.size - i) i

def branchTree (a : Arena) (b : Branch) : Tree :=
  match (a.get b.id).name with
  | none => .comment
  | some n => .element n (a.get b.id).vocabulary (a.get b.id).attributes (a.content b.id)

variable {a a' a'' : Arena}

theorem inside_succ (h : a.Ordered) (all : Bool) (fuel i : Nat) :
    Tree.inside a all (fuel + 1) i = Tree.ofText (a.get i).lead ++
      (a.get i).branches.toList.flatMap fun b =>
        (match (a.get b.id).name with
          | none => Tree.comment
          | some n => Tree.element n (a.get b.id).vocabulary (a.get b.id).attributes
              (Tree.inside a true fuel b.id)) :: Tree.ofText b.tail := by
  have listed : (a.get i).branches.toList.filter (fun b => all || b.listed) =
      (a.get i).branches.toList := by
    refine List.filter_eq_self.2 fun b hb => ?_
    rw [(h i b hb).2.2, Bool.or_true]
  have step : Tree.inside a all (fuel + 1) i = Tree.ofText (a.get i).lead ++
      ((a.get i).branches.toList.filter fun b => all || b.listed).flatMap fun b =>
        (match (a.get b.id).name with
          | none => Tree.comment
          | some n => Tree.element n (a.get b.id).vocabulary (a.get b.id).attributes
              (Tree.inside a true fuel b.id)) :: Tree.ofText b.tail := rfl
  rw [step, listed]

/-- More fuel than there are numbers left changes nothing. -/
theorem inside_fuel (h : a.Ordered) : ∀ (fuel fuel' i : Nat) (all all' : Bool), i < a.size →
    a.size ≤ fuel + i → a.size ≤ fuel' + i →
    Tree.inside a all fuel i = Tree.inside a all' fuel' i
  | 0, _, i, _, _, hi, hf, _ => by omega
  | _, 0, i, _, _, hi, _, hf => by omega
  | fuel + 1, fuel' + 1, i, all, all', hi, hf, hf' => by
    rw [inside_succ h, inside_succ h]
    congr 1
    refine List.flatMap_congr fun b hb => ?_
    obtain ⟨later, known, -⟩ := h i b hb
    rw [inside_fuel h fuel fuel' b.id true true known (by omega) (by omega)]

theorem inside_content (h : a.Ordered) {fuel i : Nat} (all : Bool) (hi : i < a.size)
    (enough : a.size ≤ fuel + i) : Tree.inside a all fuel i = a.content i :=
  inside_fuel h _ _ _ _ _ hi enough (by omega)

theorem content_eq (h : a.Ordered) {i : Nat} (hi : i < a.size) :
    a.content i = Tree.ofText (a.get i).lead ++
      (a.get i).branches.toList.flatMap fun b => a.branchTree b :: Tree.ofText b.tail := by
  obtain ⟨k, hk⟩ : ∃ k, a.size - i = k + 1 := ⟨a.size - i - 1, by omega⟩
  rw [content, hk, inside_succ h]
  congr 1
  refine List.flatMap_congr fun b hb => ?_
  obtain ⟨later, known, -⟩ := h i b hb
  rw [inside_content h true known (by omega), branchTree]

/-- What stands inside a node depends on the nodes from its number on. -/
theorem content_congr (h : a.Ordered) (h' : a'.Ordered) (grows : a.size ≤ a'.size) {i : Nat}
    (hi : i < a.size) (same : ∀ j, i ≤ j → j < a.size → a'.get j = a.get j) :
    a'.content i = a.content i := by
  generalize room : a.size - i = k
  induction k using Nat.strongRecOn generalizing i with
  | _ k ih =>
    rw [content_eq h hi, content_eq h' (by omega), same i (Nat.le_refl i) hi]
    congr 1
    refine List.flatMap_congr fun b hb => ?_
    obtain ⟨later, known, -⟩ := h i b hb
    have inner := ih (a.size - b.id) (by omega) known
      (fun j hj hj' => same j (by omega) hj') rfl
    rw [branchTree, branchTree, same b.id (by omega) known, inner]

/-! ### One change to a node -/

theorem get_appendChild (a : Arena) (e : Element) {i j : Nat} (hj : j < a.size) :
    Arena.get (Arena.appendChild (a.push e) i a.size []) j =
      if i = j then (a.get j).addBranch ⟨a.size, true, []⟩ else a.get j := by
  have apart : a.size ≠ j := by omega
  have pushed : Arena.get (a.push e) j = a.get j := by
    rw [get_push, if_neg (by omega)]
  have room : j < (Array.push a e).size := by
    rw [Array.size_push]
    omega
  rw [appendChild, get_modify, if_neg (fun h => apart h.1), get_modify, pushed]
  by_cases same : i = j
  · rw [if_pos ⟨same, room⟩, if_pos same]
  · rw [if_neg (fun h => same h.1), if_neg same]

theorem get_appendChild_new (a : Arena) (e : Element) {i : Nat} (hi : i < a.size) :
    Arena.get (Arena.appendChild (a.push e) i a.size []) a.size = { e with parent := some i } := by
  have apart : i ≠ a.size := by omega
  have pushed : Arena.get (a.push e) a.size = e := by
    rw [get_push, if_pos rfl]
  have room : ∀ f, a.size < (Array.modify (Array.push a e) i f).size := by
    intro f
    rw [Array.size_modify, Array.size_push]
    omega
  rw [appendChild, get_modify, if_pos ⟨rfl, room _⟩, get_modify, if_neg (fun h => apart h.1),
    pushed]

theorem size_appendChild (a : Arena) (e : Element) (i : Nat) :
    (Arena.appendChild (a.push e) i a.size []).size = a.size + 1 := by
  rw [appendChild, Array.size_modify, Array.size_modify, Array.size_push]

end Arena

/-! ### Planting -/

def Element.fresh (name : String) (vocabulary : Vocabulary) (attributes : List Attribute) : Element :=
  { name := some name, vocabulary := vocabulary, attributes := attributes }

namespace Arena

/-- One node has more inside it, and the other nodes are as they were. -/
structure Planted (i : Nat) (ts : List Tree) (a a' : Arena) : Prop where
  ordered : a'.Ordered
  grows : a.size ≤ a'.size
  others : ∀ j, j < a.size → j ≠ i → a'.get j = a.get j
  name : (a'.get i).name = (a.get i).name
  vocabulary : (a'.get i).vocabulary = (a.get i).vocabulary
  attributes : (a'.get i).attributes = (a.get i).attributes
  content : a'.content i = a.content i ++ ts

variable {a a' a'' : Arena} {i : Nat}

theorem Planted.trans {ts us : List Tree} (h : Planted i ts a a') (h' : Planted i us a' a'') :
    Planted i (ts ++ us) a a'' where
  ordered := h'.ordered
  grows := Nat.le_trans h.grows h'.grows
  others j hj apart :=
    (h'.others j (Nat.lt_of_lt_of_le hj h.grows) apart).trans (h.others j hj apart)
  name := h'.name.trans h.name
  vocabulary := h'.vocabulary.trans h.vocabulary
  attributes := h'.attributes.trans h.attributes
  content := by rw [h'.content, h.content, List.append_assoc]

theorem Planted.refl (h : a.Ordered) : Planted i [] a a :=
  ⟨h, Nat.le_refl _, fun _ _ _ => rfl, rfl, rfl, rfl, (List.append_nil _).symm⟩

theorem get_addText (hi : i < a.size) (s : List Char) (j : Nat) :
    Arena.get (a.modify i (·.addText s)) j = if i = j then (a.get i).addText s else a.get j := by
  rw [get_modify]
  by_cases same : i = j
  · subst same
    rw [if_pos ⟨rfl, hi⟩, if_pos rfl]
  · rw [if_neg (fun h => same h.1), if_neg same]

theorem addText_cases (e : Element) (s : List Char) :
    (e.branches = #[] ∧ e.trailing = e.lead ∧ e.addText s = { e with lead := e.lead ++ s }) ∨
    ∃ bs b, e.branches = Array.push bs b ∧ e.trailing = b.tail ∧
      e.addText s = { e with branches := bs.push { b with tail := b.tail ++ s } } := by
  unfold Element.addText Element.trailing
  cases last : e.branches.back? with
  | none => exact Or.inl ⟨Array.back?_eq_none_iff.1 last, rfl, rfl⟩
  | some b =>
    obtain ⟨bs, hbs⟩ := Array.back?_eq_some_iff.1 last
    refine Or.inr ⟨bs, b, hbs, rfl, ?_⟩
    simp [hbs]

theorem addText_addText (e : Element) (s s' : List Char) :
    (e.addText s).addText s' = e.addText (s ++ s') := by
  rcases addText_cases e s with ⟨empty, -, added⟩ | ⟨bs, b, hbs, -, added⟩
  · rw [added]
    simp [Element.addText, empty]
  · rw [added]
    simp [Element.addText, hbs]

theorem modify_addText (a : Arena) (i : Nat) (s s' : List Char) :
    Array.modify (Array.modify a i (·.addText s)) i (·.addText s') =
      a.modify i (·.addText (s ++ s')) := by
  refine Array.toList_inj.1 ?_
  rw [Array.toList_modify, Array.toList_modify, Array.toList_modify, List.modify_modify_eq]
  congr 1
  funext e
  exact addText_addText e s s'

theorem modify_addText_nil (a : Arena) (i : Nat) : Array.modify a i (·.addText []) = a := by
  have same : ∀ e : Element, e.addText [] = e := by
    intro e
    rcases addText_cases e [] with ⟨empty, -, added⟩ | ⟨bs, b, hbs, -, added⟩
    · rw [added, List.append_nil]
    · rw [added, List.append_nil, ← hbs]
  refine Array.ext Array.size_modify fun j hj hj' => ?_
  rw [Array.getElem_modify]
  split
  · exact same _
  · rfl

theorem ids_addText {e : Element} {s : List Char} {b : Branch}
    (hb : b ∈ (e.addText s).branches.toList) :
    ∃ c ∈ e.branches.toList, c.id = b.id ∧ c.listed = b.listed := by
  rcases addText_cases e s with ⟨-, -, added⟩ | ⟨bs, c, hbs, -, added⟩
  · rw [added] at hb
    exact ⟨b, hb, rfl, rfl⟩
  · rw [added, Array.toList_push] at hb
    rw [hbs, Array.toList_push]
    rcases List.mem_append.1 hb with old | new
    · exact ⟨b, List.mem_append_left _ old, rfl, rfl⟩
    · rw [List.mem_singleton.1 new]
      exact ⟨c, List.mem_append_right _ List.mem_cons_self, rfl, rfl⟩

theorem Ordered.addText (h : a.Ordered) (hi : i < a.size) (s : List Char) :
    Ordered (a.modify i (·.addText s)) := by
  intro j b hb
  rw [Array.size_modify]
  rw [get_addText hi] at hb
  split at hb
  · rename_i same
    obtain ⟨c, hc, id, listed⟩ := ids_addText hb
    rw [← id, ← listed, ← same]
    exact h i c hc
  · exact h j b hb

theorem content_addText (h : a.Ordered) (hi : i < a.size) {s : List Char} (some' : s ≠ [])
    (apart : (a.get i).trailing = []) :
    Arena.content (a.modify i (·.addText s)) i = a.content i ++ [.text s] := by
  have room : i < (Array.modify a i (·.addText s)).size := by rwa [Array.size_modify]
  have text : Tree.ofText s = [.text s] := by
    cases s with
    | nil => exact absurd rfl some'
    | cons c s => rfl
  have inner : ∀ b ∈ (a.get i).branches.toList,
      branchTree (a.modify i (·.addText s)) b = a.branchTree b := by
    intro b hb
    obtain ⟨later, known, -⟩ := h i b hb
    have below := content_congr h (h.addText hi s) (Nat.le_of_eq Array.size_modify.symm)
      known (fun j hj _ => by rw [get_addText hi, if_neg (by omega)])
    rw [branchTree, branchTree, get_addText hi, if_neg (by omega), below]
  rw [content_eq h hi, content_eq (h.addText hi s) room, get_addText hi, if_pos rfl]
  rcases addText_cases (a.get i) s with ⟨empty, trailing, added⟩ | ⟨bs, b, hbs, trailing, added⟩
  · rw [trailing] at apart
    rw [added, empty, apart, List.nil_append, text]
    rfl
  · rw [trailing] at apart
    have old : ∀ c ∈ bs.toList, (branchTree (a.modify i (·.addText s)) c :: Tree.ofText c.tail) =
        a.branchTree c :: Tree.ofText c.tail := by
      intro c hc
      rw [inner c (by rw [hbs, Array.toList_push]; exact List.mem_append_left _ hc)]
    have last : branchTree (a.modify i (·.addText s)) { b with tail := b.tail ++ s } =
        a.branchTree b :=
      inner b (by rw [hbs, Array.toList_push]; exact List.mem_append_right _ List.mem_cons_self)
    rw [added, hbs, Array.toList_push, Array.toList_push, List.flatMap_append, List.flatMap_append,
      List.flatMap_congr old, List.flatMap_singleton, List.flatMap_singleton, last, apart,
      List.nil_append, text]
    simp [Tree.ofText]

theorem planted_text (h : a.Ordered) (hi : i < a.size) {s : List Char} (some' : s ≠ [])
    (apart : (a.get i).trailing = []) :
    Planted i [.text s] a (a.modify i (·.addText s)) := by
  have here : Arena.get (a.modify i (·.addText s)) i = (a.get i).addText s := by
    rw [get_addText hi, if_pos rfl]
  refine ⟨h.addText hi s, ?_, ?_, ?_, ?_, ?_, content_addText h hi some' apart⟩
  · exact Nat.le_of_eq Array.size_modify.symm
  · intro j _ hj
    rw [get_addText hi, if_neg hj.symm]
  all_goals
    rw [here]
    rcases addText_cases (a.get i) s with ⟨-, -, added⟩ | ⟨_, _, -, -, added⟩
    · rw [added]
    · rw [added]

theorem Ordered.child (h : a.Ordered) (hi : i < a.size) {e : Element} (bare : e.branches = #[]) :
    Ordered (Arena.appendChild (a.push e) i a.size []) := by
  intro j b hb
  rw [size_appendChild]
  rcases Nat.lt_trichotomy j a.size with before | same | after
  · rw [get_appendChild a e before] at hb
    split at hb
    · rename_i same
      rw [Element.addBranch, Array.toList_push] at hb
      rcases List.mem_append.1 hb with old | new
      · obtain ⟨later, known, listed⟩ := h j b old
        exact ⟨later, by omega, listed⟩
      · rw [List.mem_singleton.1 new]
        exact ⟨before, Nat.lt_succ_self _, rfl⟩
    · obtain ⟨later, known, listed⟩ := h j b hb
      exact ⟨later, by omega, listed⟩
  · rw [same, get_appendChild_new a e hi] at hb
    simp [bare] at hb
  · have outside : ¬ j < (Arena.appendChild (a.push e) i a.size []).size := by
      rw [size_appendChild]
      omega
    have bare' : (Arena.get (Arena.appendChild (a.push e) i a.size []) j).branches = #[] := by
      simp only [Arena.get, Array.getD, dif_neg outside]
      rfl
    rw [bare'] at hb
    cases hb

/-- An element with what stands inside it is one more tree. -/
theorem planted_element (h : a.Ordered) (hi : i < a.size) (name : String) (vocabulary : Vocabulary)
    (attributes : List Attribute) (children : List Tree)
    (inside : Planted a.size children
      (Arena.appendChild (a.push (.fresh name vocabulary attributes)) i a.size []) a') :
    Planted i [.element name vocabulary attributes children] a a' ∧
      a'.get i = (a.get i).addBranch ⟨a.size, true, []⟩ := by
  have child := h.child hi (e := .fresh name vocabulary attributes) rfl
  have size := size_appendChild a (.fresh name vocabulary attributes) i
  have new := get_appendChild_new a (.fresh name vocabulary attributes) hi
  have grows : a.size + 1 ≤ a'.size := size ▸ inside.grows
  have others : ∀ j, j < a.size → j ≠ i → a'.get j = a.get j := by
    intro j hj apart
    rw [inside.others j (by omega) (by omega), get_appendChild a _ hj, if_neg apart.symm]
  have here : a'.get i = (a.get i).addBranch ⟨a.size, true, []⟩ := by
    rw [inside.others i (by omega) (by omega), get_appendChild a _ hi, if_pos rfl]
  have empty : Arena.content
      (Arena.appendChild (a.push (.fresh name vocabulary attributes)) i a.size []) a.size = [] := by
    rw [content_eq child (by omega), new]
    rfl
  have tree : a'.branchTree ⟨a.size, true, []⟩ = .element name vocabulary attributes children := by
    rw [branchTree, inside.name, inside.vocabulary, inside.attributes, inside.content, empty, new]
    rfl
  have old : ∀ b ∈ (a.get i).branches.toList,
      (a'.branchTree b :: Tree.ofText b.tail) = a.branchTree b :: Tree.ofText b.tail := by
    intro b hb
    obtain ⟨later, known, -⟩ := h i b hb
    have below := content_congr h inside.ordered (by omega) known
      (fun j hj hj' => others j hj' (by omega))
    rw [branchTree, branchTree, others b.id known (by omega), below]
  refine ⟨⟨inside.ordered, by omega, others, ?_, ?_, ?_, ?_⟩, here⟩
  · rw [here]
    rfl
  · rw [here]
    rfl
  · rw [here]
    rfl
  · rw [content_eq inside.ordered (by omega), content_eq h hi, here, Element.addBranch,
      Array.toList_push, List.flatMap_append, List.flatMap_congr old, List.flatMap_singleton, tree,
      List.append_assoc]
    rfl

end Arena

end PageSkins.Markup
