/-!
# Lists

Looking up a key where one entry is put in front or where the values are mapped,
where a list breaks off, lists read item by item, and facts about fixed lists and the
first characters, which are checked item by item.
-/

namespace PageSkins

theorem forall_mem_of_all {α : Type} {p : α → Prop} [DecidablePred p] {s : List α}
    (h : (s.all fun c => decide (p c)) = true) : ∀ c ∈ s, p c :=
  fun c hc => of_decide_eq_true (List.all_eq_true.1 h c hc)

/-- What holds of each of the first characters holds of every character that is one of them. -/
theorem forall_char_of_lt {b : Nat} {P : Char → Prop} (h : ∀ n < b, P (Char.ofNat n)) :
    ∀ c : Char, c.toNat < b → P c := by
  intro c hc
  have here := h c.toNat hc
  rwa [Char.ofNat_toNat] at here

/-- Letters and digits are among the first characters. -/
theorem lt_of_isAlphanum {c : Char} (h : c.isAlphanum = true) : c.toNat < 128 := by
  have high : c.toNat ≤ 122 := by
    rcases Bool.or_eq_true_iff.1 h with alpha | digit
    · rcases Bool.or_eq_true_iff.1 alpha with upper | lower
      · have high : c.toNat ≤ 90 := (of_decide_eq_true upper).2
        omega
      · exact of_decide_eq_true (Bool.and_eq_true_iff.1 lower).2
    · have high : c.toNat ≤ 57 := of_decide_eq_true (Bool.and_eq_true_iff.1 digit).2
      omega
  omega

/-- A text has a property throughout, or breaks off before the first item without it. -/
theorem forall_or_break {α : Type} (p : α → Bool) (s : List α) :
    (∀ c ∈ s, p c = true) ∨
      ∃ a c b, s = a ++ c :: b ∧ (∀ x ∈ a, p x = true) ∧ p c = false := by
  induction s with
  | nil => exact .inl (List.forall_mem_nil _)
  | cons d s ih =>
    by_cases hd : p d = true
    · rcases ih with all | ⟨a, c, b, rfl, before, stop⟩
      · exact .inl (List.forall_mem_cons.2 ⟨hd, all⟩)
      · exact .inr ⟨d :: a, c, b, rfl, List.forall_mem_cons.2 ⟨hd, before⟩, stop⟩
    · exact .inr ⟨[], d, s, rfl, List.forall_mem_nil _, Bool.eq_false_iff.2 hd⟩

/-- A text that does not hold a character ends before the place of that character. -/
theorem exists_append_of_notMem {α : Type} {c : α} {u v s t : List α} (off : c ∉ u)
    (whole : u ++ v = s ++ c :: t) : ∃ d, s = u ++ d ∧ v = d ++ c :: t := by
  rcases List.append_eq_append_iff.1 whole with ⟨d, cut, later⟩ | ⟨d, cut, later⟩
  · exact ⟨d, cut, later⟩
  · cases d with
    | nil =>
      rw [List.append_nil] at cut
      exact ⟨[], by rw [cut, List.append_nil], later.symm⟩
    | cons e d =>
      rw [cut, ← (List.cons.inj later).1] at off
      exact absurd (List.mem_append_right s List.mem_cons_self) off

theorem dropWhile_of_forall {α : Type} {p : α → Bool} {s : List α}
    (h : ∀ c ∈ s, p c = false) : s.dropWhile p = s := by
  cases s with
  | nil => rfl
  | cons c s => rw [List.dropWhile_cons, h c List.mem_cons_self, if_neg Bool.false_ne_true]

section
variable {α β : Type} {f : α → Option β} {s : List α} {t : List β}

theorem mapM_eq_some_map {g : α → β} (h : ∀ x ∈ s, f x = some (g x)) :
    s.mapM f = some (s.map g) := by
  induction s with
  | nil => rfl
  | cons x s ih =>
    rw [List.mapM_cons, h x List.mem_cons_self, ih fun y hy => h y (List.mem_cons_of_mem x hy)]
    rfl

theorem mapM_cons_eq_some {x : α} (h : (x :: s).mapM f = some t) :
    ∃ y ys, t = y :: ys ∧ f x = some y ∧ s.mapM f = some ys := by
  rw [List.mapM_cons] at h
  obtain ⟨y, head, h⟩ := Option.bind_eq_some_iff.1 h
  obtain ⟨ys, rest, h⟩ := Option.bind_eq_some_iff.1 h
  exact ⟨y, ys, (Option.some.inj h).symm, head, rest⟩

theorem length_of_mapM (h : s.mapM f = some t) : t.length = s.length := by
  induction s generalizing t with
  | nil =>
    obtain rfl : [] = t := Option.some.inj h
    rfl
  | cons x s ih =>
    obtain ⟨y, ys, rfl, -, rest⟩ := mapM_cons_eq_some h
    rw [List.length_cons, List.length_cons, ih rest]

theorem exists_of_mem_mapM {y : β} (h : s.mapM f = some t) (hy : y ∈ t) :
    ∃ x ∈ s, f x = some y := by
  induction s generalizing t with
  | nil =>
    obtain rfl : [] = t := Option.some.inj h
    cases hy
  | cons x s ih =>
    obtain ⟨z, zs, rfl, head, rest⟩ := mapM_cons_eq_some h
    rcases List.mem_cons.1 hy with rfl | hy
    · exact ⟨x, List.mem_cons_self, head⟩
    · obtain ⟨x', hx, value⟩ := ih rest hy
      exact ⟨x', List.mem_cons_of_mem x hx, value⟩

end

/-- Lists of items with the same keys have the same values, if items of one key have one value. -/
theorem map_eq_map_of_keys {α β κ : Type} {key : α → κ} {value : α → β} {key' : α → κ}
    {value' : α → β} {s t : List α} (keys : s.map key = t.map key')
    (same : ∀ x ∈ s, ∀ y ∈ t, key x = key' y → value x = value' y) :
    s.map value = t.map value' := by
  induction s generalizing t with
  | nil =>
    obtain rfl : t = [] := List.map_eq_nil_iff.1 keys.symm
    rfl
  | cons x s ih =>
    cases t with
    | nil => cases keys
    | cons y t =>
      obtain ⟨first, rest⟩ := List.cons.inj keys
      rw [List.map_cons, List.map_cons, same x List.mem_cons_self y List.mem_cons_self first,
        ih rest fun a ha b hb => same a (List.mem_cons_of_mem x ha) b (List.mem_cons_of_mem y hb)]

/-- If what comes of an item leads back to it, the items can be told from the results. -/
theorem map_filterMap_sublist {α β : Type} {f : α → Option β} {key : β → α} {s : List α}
    (back : ∀ x ∈ s, ∀ y, f x = some y → key y = x) : ((s.filterMap f).map key).Sublist s := by
  induction s with
  | nil => exact List.Sublist.slnil
  | cons x s ih =>
    have rest := ih fun y hy => back y (List.mem_cons_of_mem x hy)
    cases result : f x with
    | none =>
      rw [List.filterMap_cons_none result]
      exact rest.cons x
    | some y =>
      rw [List.filterMap_cons_some result, List.map_cons, back x List.mem_cons_self y result]
      exact rest.cons_cons x

variable {κ α β : Type} [BEq κ] [LawfulBEq κ]

theorem lookup_cons_if [DecidableEq κ] (k : κ) (a : α) (l : List (κ × α)) (d : κ) :
    ((k, a) :: l).lookup d = if d = k then some a else l.lookup d := by
  rw [List.lookup_cons]
  by_cases same : d = k
  · subst same
    rw [if_pos rfl, beq_self_eq_true]
  · rw [if_neg same, beq_false_of_ne same]

theorem lookup_map_values (f : κ → α → β) (l : List (κ × α)) (d : κ) :
    (l.map fun e => (e.1, f e.1 e.2)).lookup d = (l.lookup d).map (f d) := by
  induction l with
  | nil => rfl
  | cons e l ih =>
    rw [List.map_cons, List.lookup_cons, List.lookup_cons, ih]
    split
    · rename_i same
      rw [eq_of_beq same]
      rfl
    · rfl

end PageSkins
