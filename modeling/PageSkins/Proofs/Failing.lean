import Mathlib.Data.List.Forall2

/-!
# Computations that fail

What is known of the steps when a computation in steps gives a result, and at which step it
fails in some way.
-/

namespace PageSkins

variable {ε α β : Type}

theorem ok_of_bind {x : Except ε α} {f : α → Except ε β} {b : β} (h : x >>= f = .ok b) :
    ∃ a, x = .ok a ∧ f a = .ok b := by
  cases x with
  | error e => cases h
  | ok a => exact ⟨a, rfl, h⟩

/-- A last step that cannot fail changes nothing about failing. -/
theorem ok_bind_pure_iff {x : Except ε α} {f : α → β} :
    (∃ b, (x >>= fun a => pure (f a)) = .ok b) ↔ ∃ a, x = .ok a := by
  constructor
  · rintro ⟨b, h⟩
    obtain ⟨a, ha, -⟩ := ok_of_bind h
    exact ⟨a, ha⟩
  · rintro ⟨a, rfl⟩
    exact ⟨f a, rfl⟩

/-- What is known of the result of a last step that cannot fail. -/
theorem ok_bind_pure_and_iff {x : Except ε α} {f : α → β} {p : β → Prop} :
    (∃ b, (x >>= fun a => pure (f a)) = .ok b ∧ p b) ↔ ∃ a, x = .ok a ∧ p (f a) := by
  constructor
  · rintro ⟨b, h, hb⟩
    obtain ⟨a, ha, hf⟩ := ok_of_bind h
    cases hf
    exact ⟨a, ha, hb⟩
  · rintro ⟨a, rfl, h⟩
    exact ⟨f a, rfl, h⟩

theorem forall₂_of_mapM {f : α → Except ε β} {xs : List α} {ys : List β}
    (h : xs.mapM f = .ok ys) : List.Forall₂ (fun x y => f x = .ok y) xs ys := by
  induction xs generalizing ys with
  | nil =>
    cases h
    exact List.Forall₂.nil
  | cons x xs ih =>
    rw [List.mapM_cons] at h
    obtain ⟨y, first, h⟩ := ok_of_bind h
    obtain ⟨ys', others, h⟩ := ok_of_bind h
    cases h
    exact List.Forall₂.cons first (ih others)

theorem mapM_of_fixed {f : α → Except ε α} {xs : List α} (h : ∀ x ∈ xs, f x = .ok x) :
    xs.mapM f = .ok xs := by
  induction xs with
  | nil => rfl
  | cons x xs ih =>
    rw [List.mapM_cons, h x List.mem_cons_self, ih fun y hy => h y (List.mem_cons_of_mem _ hy)]
    rfl

theorem exists_mapM_eq_ok {f : α → Except ε β} {xs : List α} :
    (∃ ys, xs.mapM f = .ok ys) ↔ ∀ x ∈ xs, ∃ y, f x = .ok y := by
  induction xs with
  | nil => simp [List.mapM_nil, pure, Except.pure]
  | cons x xs ih =>
    rw [List.mapM_cons, List.forall_mem_cons, ← ih]
    constructor
    · rintro ⟨ys, all⟩
      obtain ⟨y, first, rest⟩ := ok_of_bind all
      obtain ⟨others, read, -⟩ := ok_of_bind rest
      exact ⟨⟨y, first⟩, others, read⟩
    · rintro ⟨⟨y, first⟩, others, rest⟩
      rw [first, rest]
      exact ⟨y :: others, rfl⟩

/-! ### Failing in some way -/

section
variable {p : ε → Prop} {x : Except ε α}

/-- A computation fails, and what it fails with is of some kind. -/
def Fails (p : ε → Prop) (x : Except ε α) : Prop := ∃ e, x = .error e ∧ p e

@[simp]
theorem not_fails_ok {a : α} : ¬Fails p (.ok a) := by
  rintro ⟨e, ⟨⟩, -⟩

@[simp]
theorem not_fails_pure {a : α} : ¬Fails p (pure a : Except ε α) := not_fails_ok

@[simp]
theorem fails_error {e : ε} : Fails p (.error e : Except ε α) ↔ p e := by
  simp [Fails]

@[simp]
theorem fails_map {f : α → β} : Fails p (f <$> x) ↔ Fails p x := by
  cases x with
  | error e => simp [Fails, Functor.map, Except.map]
  | ok a => simp [Functor.map, Except.map]

/-- Two steps fail in some way if the first one does, or if the second one does with what the
first one gives. -/
theorem fails_bind {f : α → Except ε β} :
    Fails p (x >>= f) ↔ Fails p x ∨ ∃ a, x = .ok a ∧ Fails p (f a) := by
  cases x with
  | error e => simp [Fails, bind, Except.bind]
  | ok a => simp [bind, Except.bind]

/-- A list is gone through up to the first part that fails. -/
theorem fails_mapM {f : α → Except ε β} {xs : List α} :
    Fails p (xs.mapM f) ↔ ∃ before x after, xs = before ++ x :: after ∧
      (∀ y ∈ before, ∃ b, f y = .ok b) ∧ Fails p (f x) := by
  induction xs with
  | nil => simp [List.mapM_nil]
  | cons x xs ih =>
    rw [List.mapM_cons, fails_bind]
    constructor
    · rintro (first | ⟨b, read, later⟩)
      · exact ⟨[], x, xs, rfl, by simp, first⟩
      · rw [fails_bind] at later
        obtain later | ⟨bs, -, done⟩ := later
        · obtain ⟨before, y, after, rfl, fine, fails⟩ := ih.1 later
          exact ⟨x :: before, y, after, rfl, List.forall_mem_cons.2 ⟨⟨b, read⟩, fine⟩, fails⟩
        · exact absurd done not_fails_pure
    · rintro ⟨before, y, after, split, fine, fails⟩
      cases before with
      | nil =>
        obtain ⟨rfl, rfl⟩ := List.cons.inj split
        exact .inl fails
      | cons z before =>
        obtain ⟨rfl, rfl⟩ := List.cons.inj split
        obtain ⟨⟨b, read⟩, fine⟩ := List.forall_mem_cons.1 fine
        exact .inr ⟨b, read, fails_bind.2 (.inl (ih.2 ⟨before, y, after, rfl, fine, fails⟩))⟩

end

/-! ### Failing in a state -/

section
variable {σ : Type} {first : ExceptT ε (StateM σ) α} {next : α → ExceptT ε (StateM σ) β} {s t : σ}

theorem run_bind_eq : (first >>= next).run s = match first.run s with
    | (.ok a, u) => (next a).run u
    | (.error e, u) => (.error e, u) := by
  change ExceptT.bindCont next (first.run s).1 (first.run s).2 = _
  cases first.run s with
  | mk result u =>
    cases result with
    | ok a => rfl
    | error e => rfl

theorem run_bind_eq_ok {b : β} : (first >>= next).run s = (.ok b, t) ↔
    ∃ a u, first.run s = (.ok a, u) ∧ (next a).run u = (.ok b, t) := by
  rw [run_bind_eq]
  cases first.run s with
  | mk result u =>
    cases result with
    | ok a =>
      constructor
      · exact fun h => ⟨a, u, rfl, h⟩
      · rintro ⟨a, u, ⟨⟩, h⟩
        exact h
    | error e =>
      constructor
      · rintro ⟨⟩
      · rintro ⟨a, u, ⟨⟩, -⟩

end

end PageSkins
