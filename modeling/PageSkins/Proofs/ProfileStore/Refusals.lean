import PageSkins.Proofs.ProfileStore.Shelf

/-!
# Profiles that cannot be made

A profile that is refused by a check leaves everything as it was. But once the checks are passed
the profile is put into the store in memory, and selected if none was, before its file and that of
the selection are written. If one of these cannot be written, the profile stays in the store, and
in the second case its file stays on the disk.
-/

namespace PageSkins.ProfileStore

open PageSkins.Text

variable {σ τ : Session} {s : ProfileStore} {d : Disk} {p : Profile} {t : Terms} {f : Failure}

/-! ### What a failure leaves behind -/

theorem save_run (p : Profile) (d : Disk) (s : ProfileStore) :
    (do saveProfile p; saveConfig; return p : Change Profile).run ⟨d, s⟩ =
      match d.write (profileFile s.folder p.name) (encodeUtf8 (profileText p)) with
      | .error e => (.error (writeFailure "Failed to save profile" e), ⟨d, s⟩)
      | .ok d' =>
        match d'.write (configFile s.folder) (encodeUtf8 (configText s.selected)) with
        | .error e => (.error (writeFailure "Failed to save configuration" e), ⟨d', s⟩)
        | .ok d'' => (.ok p, ⟨d'', s⟩) := by
  rw [run_bind_eq, saveProfile_run_eq, write_run_eq]
  cases d.write (profileFile s.folder p.name) (encodeUtf8 (profileText p)) with
  | error e => rfl
  | ok d' =>
    dsimp only
    rw [run_bind_eq, saveConfig_run_eq, write_run_eq]
    cases d'.write (configFile s.folder) (encodeUtf8 (configText s.selected)) with
    | error e => rfl
    | ok d'' => rfl

theorem create_refused (refused : made σ.store t = .error f) : (create t).run σ = (.error f, σ) := by
  rw [create_run, refused]

/-- The file of a profile can be written, and after that the file of the selection. -/
def Savable (σ : Session) (p : Profile) : Prop :=
  ∃ d d', σ.disk.write (profileFile σ.store.folder p.name) (encodeUtf8 (profileText p)) = .ok d ∧
    d.write (configFile σ.store.folder)
      (encodeUtf8 (configText (σ.store.selected <|> some p.name))) = .ok d'

section
variable (accepted : made σ.store t = .ok p)
include accepted

/-- A profile that passes the checks is in the store before anything is written. -/
theorem create_accepted : (create t).run σ =
    match σ.disk.write (profileFile σ.store.folder p.name) (encodeUtf8 (profileText p)) with
    | .error e => (.error (writeFailure "Failed to save profile" e), ⟨σ.disk, σ.store.enroll p⟩)
    | .ok d =>
      match d.write (configFile σ.store.folder)
        (encodeUtf8 (configText (σ.store.selected <|> some p.name))) with
      | .error e => (.error (writeFailure "Failed to save configuration" e), ⟨d, σ.store.enroll p⟩)
      | .ok d' => (.ok p, ⟨d', σ.store.enroll p⟩) := by
  rw [create_run, accepted]
  exact save_run p σ.disk (σ.store.enroll p)

theorem create_savable (savable : Savable σ p) :
    ∃ d, (create t).run σ = (.ok p, ⟨d, σ.store.enroll p⟩) := by
  obtain ⟨d, d', first, second⟩ := savable
  refine ⟨d', ?_⟩
  rw [create_accepted accepted, first]
  dsimp only
  rw [second]

/-- Where a file cannot be written, the profile stays in the store, and the file that was written
before stays on the disk. -/
theorem create_stranded (stranded : ¬Savable σ p) : ∃ f d,
    (create t).run σ = (.error f, ⟨d, σ.store.enroll p⟩) ∧ (d = σ.disk ∨
      σ.disk.write (profileFile σ.store.folder p.name) (encodeUtf8 (profileText p)) = .ok d) := by
  rw [create_accepted accepted]
  cases first : σ.disk.write (profileFile σ.store.folder p.name) (encodeUtf8 (profileText p)) with
  | error e => exact ⟨_, σ.disk, rfl, .inl rfl⟩
  | ok d =>
    dsimp only
    cases second : d.write (configFile σ.store.folder)
        (encodeUtf8 (configText (σ.store.selected <|> some p.name))) with
    | error e => exact ⟨_, d, rfl, .inr rfl⟩
    | ok d' => exact absurd ⟨d, d', first, second⟩ stranded

end

/-! ### What has changed -/

/-- Nothing is different: the profiles, the selection and the files are the same. -/
structure Unchanged (σ τ : Session) : Prop where
  profiles : τ.store.profiles = σ.store.profiles
  selected : τ.store.selected = σ.store.selected
  files : ∀ q bytes, τ.disk.at? q = some (.file bytes) ↔ σ.disk.at? q = some (.file bytes)

theorem Unchanged.refl (σ : Session) : Unchanged σ σ := ⟨rfl, rfl, fun _ _ => Iff.rfl⟩

theorem not_unchanged_enroll (new : σ.store.has p.name = false) (d : Disk) :
    ¬Unchanged σ ⟨d, σ.store.enroll p⟩ := by
  rintro ⟨profiles, -, -⟩
  rw [enroll_eq new] at profiles
  exact absurd (congrArg List.length profiles) (by simp)

/-- A profile that cannot be made leaves everything as it was, if and only if the terms are refused
by a check or the files can be written. -/
theorem create_unchanged_iff (σ : Session) (t : Terms) :
    (∀ f τ, (create t).run σ = (.error f, τ) → Unchanged σ τ) ↔
      ∀ p, made σ.store t = .ok p → Savable σ p := by
  constructor
  · intro unchanged p accepted
    by_contra stranded
    obtain ⟨f, d, run, -⟩ := create_stranded accepted stranded
    obtain ⟨-, new, -⟩ := of_made accepted
    exact not_unchanged_enroll new d (unchanged f _ run)
  · intro savable f τ run
    cases checked : made σ.store t with
    | error e =>
      rw [create_refused checked] at run
      obtain ⟨-, rfl⟩ := Prod.mk.inj run
      exact .refl σ
    | ok p =>
      obtain ⟨d, done⟩ := create_savable checked (savable p checked)
      rw [done] at run
      cases run

def opened : Session := ⟨(openFolder .empty {}).disk, ⟨{}, [], none⟩⟩

/-- A name that leads into a folder of its own. -/
def nested : Terms := { name := .text "a/b", apiUrl := .text "https://a.example" }

/-- The profile cannot be saved, but it is the one in use. -/
theorem not_create_unchanged_nested :
    ∃ f τ, (create nested).run opened = (.error f, τ) ∧ ¬Unchanged opened τ := by
  refine ⟨_, _, rfl, fun same => ?_⟩
  have selected : some "a/b" = none := same.selected
  cases selected

end PageSkins.ProfileStore
