import PageSkins.Proofs.Failing
import PageSkins.Proofs.ProfileStore

/-!
# What a change does

A change either is refused before anything has been done, or it changes the store in memory and
then writes to the disk. Here is what it makes of the store, and which writes are left to do.
-/

namespace PageSkins.ProfileStore

open PageSkins.Check

variable {σ : Session} {s : ProfileStore} {p : Profile} {n : String}

/-! ### Stores in memory -/

theorem has_iff : s.has n = true ↔ ∃ p ∈ s.profiles, p.name = n := by
  rw [has, find?, List.find?_isSome]
  simp only [decide_eq_true_eq]

theorem name_of_find? (h : s.find? n = some p) : p.name = n := by
  simpa using List.find?_some h

theorem insert_new (new : s.has p.name = false) :
    s.insert p = { s with profiles := s.profiles ++ [p] } := by
  rw [insert, new]
  rfl

theorem has_insert : (s.insert p).has n = true ↔ s.has n = true ∨ p.name = n := by
  cases there : s.has p.name with
  | false =>
    rw [insert_new there, has_iff, has_iff]
    simp only [List.mem_append, List.mem_singleton, or_and_right, exists_or, exists_eq_left]
  | true =>
    -- the profile takes the place of one with its name
    have kept : (s.insert p).profiles.map Profile.name = s.profiles.map Profile.name := by
      rw [insert, if_pos there, List.map_map]
      refine List.map_congr_left fun q _ => ?_
      rw [Function.comp_apply]
      split
      · rename_i same
        exact same.symm
      · rfl
    have mem (t : ProfileStore) : t.has n = true ↔ n ∈ t.profiles.map Profile.name := by
      rw [has_iff, List.mem_map]
    rw [mem, kept, ← mem]
    refine ⟨.inl, ?_⟩
    rintro (used | rfl)
    · exact used
    · exact there

/-! ### Steps -/

theorem get_run : (get : Change Session).run σ = (.ok σ, σ) := rfl

/-- A step that does not touch the session. -/
theorem lift_run {α : Type} (x : Except Failure α) : (liftM x : Change α).run σ = (x, σ) := rfl

def writeFailure (refusal : String) (e : Disk.Error) : Failure :=
  if e.refusal = .badPath then .ofDisk e else .refusal .config (refusal ++ ": " ++ e.message)

theorem write_run_eq (file : Path) (text : List Char) (refusal : String) :
    (write file text refusal).run σ = match σ.disk.write file (Text.encodeUtf8 text) with
      | .ok d => (.ok (), ⟨d, σ.store⟩)
      | .error e => (.error (writeFailure refusal e), σ) := by
  unfold write
  rw [run_bind_eq, get_run]
  dsimp only
  cases σ.disk.write file (Text.encodeUtf8 text) with
  | ok d => rfl
  | error e =>
    unfold writeFailure
    dsimp only
    split
    · rfl
    · rfl

theorem write_run {file : Path} {text : List Char} {d : Disk}
    (written : σ.disk.write file (Text.encodeUtf8 text) = .ok d) (refusal : String) :
    (write file text refusal).run σ = (.ok (), ⟨d, σ.store⟩) := by
  rw [write_run_eq, written]

theorem saveConfig_run_eq : saveConfig.run σ =
    (write (configFile σ.store.folder) (configText σ.store.selected)
      "Failed to save configuration").run σ := by
  rfl

theorem saveProfile_run_eq (p : Profile) : (saveProfile p).run σ =
    (write (profileFile σ.store.folder p.name) (profileText p) "Failed to save profile").run σ := by
  rfl

/-! ### Creating -/

/-- The profile that terms make for a store. -/
def made (s : ProfileStore) (t : Terms) : Except Failure Profile := do
  if let some n ← nameOf t.name then
    if s.has n then throw (.refusal .config ("Profile '" ++ n ++ "' already exists"))
  checkOutline t.apiUrl
  let p ← profileOf t
  return { p with active := s.selected.isNone }

theorem create_run (t : Terms) : (create t).run σ = match made σ.store t with
    | .ok p => (do saveProfile p; saveConfig; return p : Change Profile).run
      ⟨σ.disk, { σ.store.insert p with selected := σ.store.selected <|> some p.name }⟩
    | .error e => (.error e, σ) := by
  unfold create made
  rw [run_bind_eq, get_run]
  dsimp only
  -- every check comes before the first change, so a refusal leaves the session as it was
  cases nameOf t.name with
  | error e => rfl
  | ok name? =>
    cases name? with
    | none =>
      cases checkOutline t.apiUrl with
      | error e => rfl
      | ok u =>
        cases profileOf t with
        | error e => rfl
        | ok p => rfl
    | some n =>
      change (if σ.store.has n = true then _ else _ : Change Profile).run σ =
        match (if σ.store.has n = true then _ else _ : Except Failure Profile) with
        | .ok p => _
        | .error e => _
      cases σ.store.has n with
      | true => rfl
      | false =>
        cases checkOutline t.apiUrl with
        | error e => rfl
        | ok u =>
          cases profileOf t with
          | error e => rfl
          | ok p => rfl

/-- Terms have a profile for a store if their name is free, and if they pass the checks. -/
theorem profileOf_of_made {t : Terms} (h : made s t = .ok p) :
    (∀ n, t.name = .text n → s.has n = false) ∧
      ∃ q, profileOf t = .ok q ∧ p = { q with active := s.selected.isNone } := by
  have checked (h : (do
      checkOutline t.apiUrl
      let q ← profileOf t
      return { q with active := s.selected.isNone } : Except Failure Profile) = .ok p) :
      ∃ q, profileOf t = .ok q ∧ p = { q with active := s.selected.isNone } := by
    obtain ⟨-, -, h⟩ := ok_of_bind h
    obtain ⟨q, profile, h⟩ := ok_of_bind h
    exact ⟨q, profile, (Except.ok.inj h).symm⟩
  obtain ⟨name?, known, h⟩ := ok_of_bind h
  cases name? with
  | none =>
    refine ⟨?_, checked h⟩
    rintro n named
    rw [named] at known
    cases known
  | some m =>
    cases taken : s.has m with
    | true =>
      dsimp only at h
      rw [if_pos taken] at h
      cases h
    | false =>
      dsimp only at h
      rw [if_neg (by rw [taken]; exact Bool.false_ne_true)] at h
      refine ⟨?_, checked h⟩
      rintro n named
      rw [named] at known
      obtain rfl : n = m := Option.some.inj (Except.ok.inj known)
      exact taken

/-- What is known of a profile that was made for a store. -/
theorem of_made {t : Terms} (h : made s t = .ok p) : t.name = .text p.name ∧
    s.has p.name = false ∧ (∃ u, t.apiUrl = .text u ∧ WebAddress.read u.toList = .ok p.apiUrl) ∧
      p.Valid ∧ p.active = s.selected.isNone := by
  obtain ⟨free, q, profile, rfl⟩ := profileOf_of_made h
  unfold profileOf at profile
  split at profile
  · rename_i q' checked
    obtain rfl := Except.ok.inj profile
    obtain ⟨named, addressed, -⟩ := Profile.check_eq_ok.1 checked
    obtain ⟨v, found, named⟩ := required_eq_ok.1 named
    obtain ⟨w, found', addressed⟩ := required_eq_ok.1 addressed
    have name : t.name = .text q'.name := (Option.some.inj found).trans (text_eq_ok.1 named)
    obtain ⟨u, text, read⟩ := Profile.address_eq_ok.1 addressed
    exact ⟨name, free _ name, ⟨u, (Option.some.inj found').trans text, read⟩,
      (Profile.valid_of_check checked).withActive _, rfl⟩
  · cases profile

/-! ### Selecting -/

theorem lookup_eq_ok {name : Value} :
    s.lookup name = .ok p ↔ name = .text p.name ∧ s.find? p.name = some p := by
  constructor
  · intro h
    obtain ⟨name?, known, -⟩ := ok_of_bind h
    cases name with
    | text n =>
      have found := lookup_text_eq_ok.1 h
      rw [name_of_find? found]
      exact ⟨rfl, found⟩
    | list items => cases known
    | map entries => cases known
    | keyed entries => cases known
    | _ =>
      obtain rfl : none = name? := Except.ok.inj known
      cases h
  · rintro ⟨rfl, found⟩
    exact lookup_text_eq_ok.2 found

def choose (s : ProfileStore) (n : String) : ProfileStore :=
  { s with profiles := s.profiles.map fun q => { q with active := q.name == n }, selected := some n }

theorem select_run (name : Value) : (select name).run σ = match σ.store.lookup name with
    | .ok p => saveConfig.run ⟨σ.disk, σ.store.choose p.name⟩
    | .error e => (.error e, σ) := by
  change (liftM (σ.store.lookup name) >>= _ : Change Unit).run σ = _
  cases σ.store.lookup name with
  | error e => rfl
  | ok p => rfl

/-! ### Deleting -/

theorem delete_refused {name : Value} {e : Failure} (refused : σ.store.lookup name = .error e) :
    (delete name).run σ = (.error e, σ) := by
  change (liftM (σ.store.lookup name) >>= _ : Change Unit).run σ = _
  rw [refused]
  rfl

/-- A profile is taken out of the store before its file is looked for. -/
theorem delete_accepted {name : Value} (found : σ.store.lookup name = .ok p) : (delete name).run σ =
    match σ.disk.has (profileFile σ.store.folder p.name) with
    | .error e => (.error (.ofDisk e), ⟨σ.disk, σ.store.remove p.name⟩)
    | .ok false => saveConfig.run ⟨σ.disk, σ.store.remove p.name⟩
    | .ok true =>
      match σ.disk.unlink (profileFile σ.store.folder p.name) with
      | .error e => (.error (.ofDisk e), ⟨σ.disk, σ.store.remove p.name⟩)
      | .ok d => saveConfig.run ⟨d, σ.store.remove p.name⟩ := by
  have folder : (σ.store.remove p.name).folder = σ.store.folder := rfl
  unfold delete
  rw [run_bind_eq, get_run]
  dsimp only
  rw [run_bind_eq, lift_run, found]
  dsimp only
  rw [run_bind_eq]
  change (get >>= _ : Change Unit).run ⟨σ.disk, σ.store.remove p.name⟩ = _
  rw [run_bind_eq, get_run]
  dsimp only
  rw [folder]
  cases σ.disk.has (profileFile σ.store.folder p.name) with
  | error e => rfl
  | ok there =>
    cases there with
    | false => rfl
    | true =>
      cases σ.disk.unlink (profileFile σ.store.folder p.name) with
      | error e => rfl
      | ok d => rfl

/-- A profile that has a file is removed together with it. -/
theorem delete_run {name : Value} {d : Disk} (found : σ.store.lookup name = .ok p)
    (there : σ.disk.has (profileFile σ.store.folder p.name) = .ok true)
    (gone : σ.disk.unlink (profileFile σ.store.folder p.name) = .ok d) :
    (delete name).run σ = saveConfig.run ⟨d, σ.store.remove p.name⟩ := by
  rw [delete_accepted found, there]
  dsimp only
  rw [gone]

end PageSkins.ProfileStore
