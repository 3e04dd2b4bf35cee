import PageSkins.Proofs.ProfileStore.Files
import PageSkins.Proofs.ProfileStore.Refusals

/-!
# Where the files of profiles are

The name of a profile with its ending is read as a path from the folder of the profiles, so a name
with slashes can lead out of that folder. Making or deleting a profile touches two places at most:
that of the file that names the profile in use, and the one to which the name of the profile leads.
-/

namespace PageSkins.ProfileStore

open PageSkins.Disk PageSkins.Text

variable {σ τ : Session} {s : ProfileStore} {d : Disk} {p : Profile} {t : Terms} {n : String}
  {q : List String}

/-! ### Places -/

def AtConfig (σ : Session) (q : List String) : Prop :=
  ∃ e, σ.disk.find (configFile σ.store.folder) = .ok (q, e)

/-- A place that a store has for itself: that of the file that names the profile in use, or one
right in the folder of the profiles. -/
def Owned (σ : Session) (q : List String) : Prop :=
  AtConfig σ q ∨ ∃ home name,
    σ.disk.find (profilesFolder σ.store.folder) = .ok (home, some .folder) ∧ q = home ++ [name]

/-- Nothing is different but at places that the store has for itself. -/
def Confined (σ τ : Session) : Prop := ∀ q, τ.disk.at? q ≠ σ.disk.at? q → Owned σ q

/-- The name of a profile leads to a place for a file. If the profile is there, so is the file. -/
def Reaches (σ : Session) (n : String) (q : List String) : Prop :=
  ∃ e, σ.disk.find (profileFile σ.store.folder n) = .ok (q, e) ∧ e ≠ some .folder ∧
    (σ.store.has n = true → e ≠ none)

/-! ### What is touched -/

theorem config_written {d' : Disk} {bytes : List UInt8} (same : SameFolders σ.disk d)
    (written : d.write (configFile σ.store.folder) bytes = .ok d') (apart : ¬AtConfig σ q) :
    d'.at? q = d.at? q := by
  obtain ⟨-, place, e, found, file, spec⟩ := write_spec written
  have other : q ≠ place := by
    rintro rfl
    exact apart ⟨_, same.symm.find found file⟩
  rw [spec, if_neg other]

theorem saveConfig_frame (same : SameFolders σ.disk d) (folder : s.folder = σ.store.folder)
    (apart : ¬AtConfig σ q) : (saveConfig.run ⟨d, s⟩).2.disk.at? q = d.at? q := by
  rw [saveConfig_run_eq, write_run_eq]
  dsimp only
  rw [folder]
  cases written : d.write (configFile σ.store.folder) (encodeUtf8 (configText s.selected)) with
  | error e => rfl
  | ok d' => exact config_written same written apart

/-- Where a profile is made, its file is written, and else at most the one that names the profile
in use. -/
theorem create_changes_iff (accepted : made σ.store t = .ok p) (apart : ¬AtConfig σ q) :
    ((create t).run σ).2.disk.at? q ≠ σ.disk.at? q ↔
      ∃ e, σ.disk.find (profileFile σ.store.folder p.name) = .ok (q, e) ∧ e ≠ some .folder ∧
        e ≠ some (.file (encodeUtf8 (profileText p))) := by
  rw [← write_changes_iff, create_accepted accepted]
  cases first : σ.disk.write (profileFile σ.store.folder p.name) (encodeUtf8 (profileText p)) with
  | error e => exact Iff.rfl
  | ok d =>
    dsimp only
    cases second : d.write (configFile σ.store.folder)
        (encodeUtf8 (configText (σ.store.selected <|> some p.name))) with
    | error e => exact Iff.rfl
    | ok d' => rw [config_written (write_spec first).1 second apart]

/-- Where a profile is deleted, its file is removed, and at most the one that names the profile in
use is written. -/
theorem delete_changes_iff {name : Value} (found : σ.store.lookup name = .ok p)
    (apart : ¬AtConfig σ q) : ((delete name).run σ).2.disk.at? q ≠ σ.disk.at? q ↔
      ∃ old, σ.disk.find (profileFile σ.store.folder p.name) = .ok (q, some (.file old)) := by
  have folder : (σ.store.remove p.name).folder = σ.store.folder := rfl
  rw [← unlink_changes_iff, delete_accepted found]
  cases gone : σ.disk.unlink (profileFile σ.store.folder p.name) with
  | ok d =>
    obtain ⟨same, place, old, there, -⟩ := unlink_spec gone
    rw [Disk.has, there]
    dsimp only
    rw [Option.isSome_some]
    dsimp only
    rw [saveConfig_frame same folder apart]
  | error e =>
    cases σ.disk.has (profileFile σ.store.folder p.name) with
    | error e' => exact Iff.rfl
    | ok there =>
      cases there with
      | true => exact Iff.rfl
      | false =>
        dsimp only
        rw [saveConfig_frame (SameFolders.refl _) folder apart]

/-! ### Where a name leads, something is touched -/

/-- Terms that no check refuses but for their name. -/
def timed (n : String) (k : Int) : Terms where
  name := .text n
  apiUrl := .text "https://a.example"
  timeout := .int k

theorem profileOf_timed {k : Int} (range : 0 < k ∧ k ≤ 300) :
    profileOf (timed n k) = .ok { name := n, apiUrl := "https://a.example/", timeout := k } := by
  have checked : Profile.check [("name", .text n), ("api_url", .text "https://a.example"),
      ("access_token", .null), ("timeout", .int k), ("retry_attempts", .int 3)] =
      .ok { name := n, apiUrl := "https://a.example/", timeout := k } := by
    apply Profile.check_eq_ok.2
    refine ⟨rfl, rfl, rfl, ?_, rfl, rfl⟩
    exact Check.orElse_eq_ok.2 (.inr ⟨.int k, rfl, Profile.seconds_eq_ok.2 ⟨rfl, range⟩⟩)
  unfold profileOf timed
  rw [checked]

theorem made_timed (new : s.has n = false) {k : Int} (range : 0 < k ∧ k ≤ 300) :
    ∃ p, made s (timed n k) = .ok p ∧ p.timeout = k := by
  refine ⟨{ name := n, apiUrl := "https://a.example/", timeout := k, active := s.selected.isNone },
    ?_, rfl⟩
  change (if s.has n = true then _ else _ : Except Failure Profile) = _
  rw [new, if_neg Bool.false_ne_true]
  change (profileOf (timed n k) >>= _ : Except Failure Profile) = _
  rw [profileOf_timed range]
  rfl

/-- A file cannot be that of two profiles made in turn, if they are to be waited for in different
ways. So one of the two changes it. -/
theorem create_reaches (new : σ.store.has n = false) (reaches : Reaches σ n q)
    (apart : ¬AtConfig σ q) :
    ∃ t, t.name = .text n ∧ ((create t).run σ).2.disk.at? q ≠ σ.disk.at? q := by
  obtain ⟨e, found, file, -⟩ := reaches
  by_contra same
  have holds {k : Int} (range : 0 < k ∧ k ≤ 300) :
      ∃ p, p.Valid ∧ p.timeout = k ∧ e = some (.file (encodeUtf8 (profileText p))) := by
    obtain ⟨p, accepted, timeout⟩ := made_timed new range
    obtain ⟨named, -, -, valid, -⟩ := of_made accepted
    have name : n = p.name := Value.text.inj named
    refine ⟨p, valid, timeout, ?_⟩
    by_contra other
    apply same
    refine ⟨timed n k, rfl, (create_changes_iff accepted apart).2 ⟨e, ?_, file, other⟩⟩
    rw [← name]
    exact found
  obtain ⟨p, hp, short, first⟩ := holds (k := 30) (by omega)
  obtain ⟨p', hp', long, second⟩ := holds (k := 31) (by omega)
  have text := Entry.file.inj (Option.some.inj (second.symm.trans first))
  have fields := toFields_of_profileText hp hp' text
  have timeout := (Profile.toFields_inj.1 fields).2.2.2.1
  omega

theorem delete_reaches (used : σ.store.has n = true) (reaches : Reaches σ n q)
    (apart : ¬AtConfig σ q) : ((delete (.text n)).run σ).2.disk.at? q ≠ σ.disk.at? q := by
  obtain ⟨e, found, file, kept⟩ := reaches
  obtain ⟨p, stored⟩ := Option.isSome_iff_exists.1 used
  obtain rfl := name_of_find? stored
  apply (delete_changes_iff (lookup_eq_ok.2 ⟨rfl, stored⟩) apart).2
  rcases e with _ | ⟨⟩ | old
  · exact absurd rfl (kept used)
  · exact absurd rfl file
  · exact ⟨old, found⟩

/-- Without a slash in it the name of a profile leads right into the folder of the profiles. -/
theorem owned_of_plain (plain : '/' ∉ n.toList) (reaches : Reaches σ n q) : Owned σ q := by
  obtain ⟨e, found, -⟩ := reaches
  have chars : ∀ c ∈ (n ++ ".json").toList, c ≠ '/' := by
    intro c hc
    rw [String.toList_append, List.mem_append] at hc
    rintro rfl
    rcases hc with hc | hc
    · exact plain hc
    · exact absurd hc (by decide)
  have long : 2 < (n ++ ".json").length := by
    rw [String.length_append]
    exact Nat.lt_add_left _ (by decide)
  obtain ⟨home, way, rfl⟩ := place_of_child (ofText_of_plain chars long)
    (ne_of_long long (by decide)) found
  exact .inr ⟨home, _, way, rfl⟩

/-! ### What stays inside -/

theorem confined_of (h : ∀ q, ¬AtConfig σ q → τ.disk.at? q ≠ σ.disk.at? q → Owned σ q) :
    Confined σ τ := by
  intro q changed
  by_cases config : AtConfig σ q
  · exact .inl config
  · exact h q config changed

theorem create_confined (inside : ∀ q, Reaches σ n q → Owned σ q) (named : t.name = .text n) :
    Confined σ ((create t).run σ).2 := by
  apply confined_of
  intro q apart changed
  cases accepted : made σ.store t with
  | error f =>
    rw [create_refused accepted] at changed
    exact absurd rfl changed
  | ok p =>
    obtain ⟨named', new, -⟩ := of_made accepted
    obtain rfl : n = p.name := Value.text.inj (named.symm.trans named')
    obtain ⟨e, found, file, -⟩ := (create_changes_iff accepted apart).1 changed
    refine inside q ⟨e, found, file, ?_⟩
    rw [new]
    exact nofun

theorem delete_confined (inside : ∀ q, Reaches σ n q → Owned σ q) :
    Confined σ ((delete (.text n)).run σ).2 := by
  apply confined_of
  intro q apart changed
  cases stored : σ.store.lookup (.text n) with
  | error f =>
    rw [delete_refused stored] at changed
    exact absurd rfl changed
  | ok p =>
    obtain rfl : n = p.name := Value.text.inj (lookup_eq_ok.1 stored).1
    obtain ⟨old, found⟩ := (delete_changes_iff stored apart).1 changed
    exact inside q ⟨_, found, nofun, fun _ => nofun⟩

/-- Making a profile and deleting it change nothing but the places that the store has for itself,
if and only if the name of the profile leads to one of these. A name without slashes does. -/
theorem confined_iff (σ : Session) (n : String) :
    ((∀ t, t.name = .text n → Confined σ ((create t).run σ).2) ∧
        Confined σ ((delete (.text n)).run σ).2 ↔ ∀ q, Reaches σ n q → Owned σ q) ∧
      ('/' ∉ n.toList → ∀ q, Reaches σ n q → Owned σ q) := by
  refine ⟨⟨?_, fun inside => ⟨fun t => create_confined inside, delete_confined inside⟩⟩,
    fun plain q => owned_of_plain plain⟩
  rintro ⟨creates, deletes⟩ q reaches
  by_contra foreign
  have apart : ¬AtConfig σ q := fun config => foreign (.inl config)
  cases used : σ.store.has n with
  | false =>
    obtain ⟨t, named, changed⟩ := create_reaches used reaches apart
    exact foreign (creates t named q changed)
  | true => exact foreign (deletes q (delete_reaches used reaches apart))

/-- A name that climbs out of the folder of the profiles, and of the one around it. -/
def climbing : Terms := { name := .text "../../evil", apiUrl := .text "https://a.example" }

/-- The file stands beside the folder of the configuration, and it is gone with the profile. -/
theorem not_confined_climbing : ∃ τ, ((create climbing).run opened).2 = τ ∧ ¬Confined opened τ ∧
    ¬Confined τ ((delete climbing.name).run τ).2 := by
  have foreign {σ : Session} {there : Option Entry}
      (config : σ.disk.find (configFile σ.store.folder) = .ok (["tmp", "work", "config.toml"], there))
      (home : σ.disk.find (profilesFolder σ.store.folder) =
        .ok (["tmp", "work", "profiles"], some .folder)) : ¬Owned σ ["tmp", "evil.json"] := by
    rintro (⟨e, found⟩ | ⟨q, name, found, inside⟩)
    · simp [config] at found
    · obtain ⟨rfl, -⟩ := Prod.mk.inj (Except.ok.inj (home.symm.trans found))
      simp at inside
  refine ⟨_, rfl, fun confined => ?_, fun confined => ?_⟩
  · refine foreign rfl rfl (confined ["tmp", "evil.json"] fun same => ?_)
    cases same
  · refine foreign rfl rfl (confined ["tmp", "evil.json"] fun same => ?_)
    cases same

end PageSkins.ProfileStore
