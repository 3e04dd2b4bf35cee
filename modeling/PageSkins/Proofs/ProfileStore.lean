import PageSkins.ProfileStore
import PageSkins.Proofs.Profile

/-!
# Profiles in a store

A store hands out the profiles that it holds, and all of these have passed their check.
-/

namespace PageSkins.ProfileStore

variable {s : ProfileStore} {p : Profile}

theorem lookup_text_eq_ok {n : String} : s.lookup (.text n) = .ok p ↔ s.find? n = some p := by
  simp only [lookup, nameOf, bind, Except.bind, Option.bind_some]
  cases s.find? n with
  | none =>
    constructor
    · intro h
      cases h
    · intro h
      cases h
  | some q =>
    constructor
    · intro h
      rw [Except.ok.inj h]
    · intro h
      rw [Option.some.inj h]
      rfl

theorem filter_nonempty_eq_some {x : Option String} {n : String} :
    x.filter (fun n => !n.isEmpty) = some n ↔ x = some n ∧ n ≠ "" := by
  rw [Option.filter_eq_some_iff, Bool.not_eq_true', ← Bool.not_eq_true, String.isEmpty_iff]

theorem inUse_eq_ok :
    s.inUse = .ok p ↔ ∃ n, s.selected = some n ∧ n ≠ "" ∧ s.find? n = some p := by
  unfold inUse
  cases chosen : s.selected.filter fun n => !n.isEmpty with
  | none =>
    refine ⟨nofun, ?_⟩
    rintro ⟨n, used, given, -⟩
    rw [filter_nonempty_eq_some.2 ⟨used, given⟩] at chosen
    cases chosen
  | some n =>
    obtain ⟨used, given⟩ := filter_nonempty_eq_some.1 chosen
    dsimp only
    constructor
    · intro h
      split at h
      · rename_i q found
        exact ⟨n, used, given, found.trans (congrArg some (Except.ok.inj h))⟩
      · cases h
    · rintro ⟨n', used', -, found⟩
      obtain rfl := Option.some.inj (used.symm.trans used')
      rw [found]

/-- Every profile of the store has passed its check. -/
def Sound (s : ProfileStore) : Prop := ∀ p ∈ s.profiles, p.Valid

theorem Sound.find? {n : String} (h : s.Sound) (found : s.find? n = some p) : p.Valid :=
  h p (List.mem_of_find?_eq_some found)

theorem valid_of_ofEnvironment {e : Environment} (h : ofEnvironment e = .ok p) : p.Valid := by
  unfold ofEnvironment at h
  split at h
  · cases h
  split at h
  · rename_i q checked
    obtain rfl := Except.ok.inj h
    exact Profile.valid_of_check checked
  · cases h

end PageSkins.ProfileStore
