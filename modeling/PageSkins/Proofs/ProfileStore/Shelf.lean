import Mathlib.Logic.Function.Basic
import PageSkins.Proofs.ProfileStore.Changes
import PageSkins.Proofs.ProfileStore.Files

/-!
# Stores on a disk

A folder keeps a store if the files of its profiles hold what the profiles were when they were
last saved, and if the file of the selection names the selection. Every change keeps that up.
The flag that a profile has in its file need not be the one it has in memory, so the flags in
the files are told apart.
-/

namespace PageSkins.ProfileStore

open PageSkins.Text

variable {d : Disk} {place : List String} {s : ProfileStore} {flags : String → Bool} {p : Profile}

/-! ### Stores in order -/

/-- A store of profiles that passed their check, with plain names that do not repeat, in which
the selection is the name of a profile. -/
structure Orderly (s : ProfileStore) : Prop where
  sound : s.Sound
  plain : ∀ p ∈ s.profiles, PlainName p.name
  distinct : (s.profiles.map Profile.name).Nodup
  chosen : ∀ n ∈ s.selected, s.has n = true

/-- The store with one more profile, which is selected if none was. -/
def enroll (s : ProfileStore) (p : Profile) : ProfileStore :=
  { s.insert p with selected := s.selected <|> some p.name }

theorem enroll_eq (new : s.has p.name = false) : s.enroll p =
    { s with profiles := s.profiles ++ [p], selected := s.selected <|> some p.name } := by
  rw [enroll, insert_new new]

theorem has_eq_false_iff {n : String} : s.has n = false ↔ ∀ p ∈ s.profiles, p.name ≠ n := by
  rw [← Bool.not_eq_true, has_iff]
  push Not
  rfl

theorem mem_remove {n : String} : p ∈ (s.remove n).profiles ↔ p ∈ s.profiles ∧ p.name ≠ n := by
  rw [remove, List.mem_filter, bne_iff_ne]

theorem selected_remove_eq_some {m n : String} :
    (s.remove n).selected = some m ↔ s.selected = some m ∧ m ≠ n := by
  change (if s.selected = some n then none else s.selected) = some m ↔ _
  split
  · rename_i same
    rw [same]
    exact ⟨nofun, fun ⟨same', other⟩ => absurd (Option.some.inj same').symm other⟩
  · rename_i other
    refine ⟨fun selected => ⟨selected, ?_⟩, And.left⟩
    rintro rfl
    exact other selected

namespace Orderly

variable (h : s.Orderly)
include h

theorem enroll (valid : p.Valid) (plain : PlainName p.name) (new : s.has p.name = false) :
    (s.enroll p).Orderly := by
  rw [enroll_eq new]
  constructor
  · exact List.forall_mem_append.2 ⟨h.sound, List.forall_mem_singleton.2 valid⟩
  · exact List.forall_mem_append.2 ⟨h.plain, List.forall_mem_singleton.2 plain⟩
  · rw [List.map_append, List.map_singleton, List.nodup_append]
    refine ⟨h.distinct, List.pairwise_singleton _ _, ?_⟩
    rintro a ha b hb rfl
    obtain ⟨q, hq, rfl⟩ := List.mem_map.1 ha
    exact has_eq_false_iff.1 new q hq (List.mem_singleton.1 hb)
  · intro n hn
    rw [has_iff]
    cases chosen : s.selected with
    | none =>
      rw [chosen] at hn
      obtain rfl : p.name = n := Option.some.inj hn
      exact ⟨p, List.mem_append_right _ (List.mem_singleton_self p), rfl⟩
    | some m =>
      rw [chosen] at hn
      obtain rfl : m = n := Option.some.inj hn
      obtain ⟨q, hq, named⟩ := has_iff.1 (h.chosen m chosen)
      exact ⟨q, List.mem_append_left _ hq, named⟩

theorem choose {n : String} (there : s.has n = true) : (s.choose n).Orderly := by
  constructor
  · intro p hp
    obtain ⟨q, hq, rfl⟩ := List.mem_map.1 hp
    exact (h.sound q hq).withActive _
  · intro p hp
    obtain ⟨q, hq, rfl⟩ := List.mem_map.1 hp
    exact h.plain q hq
  · have names : (s.choose n).profiles.map Profile.name = s.profiles.map Profile.name := List.map_map
    rw [names]
    exact h.distinct
  · rintro m hm
    obtain rfl : n = m := Option.some.inj hm
    obtain ⟨q, hq, named⟩ := has_iff.1 there
    exact has_iff.2 ⟨_, List.mem_map_of_mem hq, named⟩

theorem remove (n : String) : (s.remove n).Orderly := by
  have sub : (s.remove n).profiles.Sublist s.profiles := List.filter_sublist
  constructor
  · exact fun p hp => h.sound p (sub.subset hp)
  · exact fun p hp => h.plain p (sub.subset hp)
  · exact (sub.map _).nodup h.distinct
  · intro m hm
    obtain ⟨selected, other⟩ := selected_remove_eq_some.1 hm
    obtain ⟨q, hq, rfl⟩ := has_iff.1 (h.chosen m selected)
    exact has_iff.2 ⟨q, mem_remove.2 ⟨hq, other⟩, rfl⟩

end Orderly

/-! ### The files of the profiles -/

def configPlace (place : List String) : List String := place ++ ["config.toml"]

def profilesPlace (place : List String) : List String := place ++ ["profiles"]

def cell (place : List String) (n : String) : List String := profilesPlace place ++ [n ++ ".json"]

/-- The bytes of the file of a profile that was saved with a flag. -/
def saved (p : Profile) (active : Bool) : Entry :=
  .file (encodeUtf8 (profileText { p with active }))

/-- The profiles of a store are on the disk, with these flags. What else stands among their
files is passed over when profiles are loaded. -/
structure Shelved (d : Disk) (place : List String) (s : ProfileStore) (flags : String → Bool) :
    Prop where
  folder : d.find s.folder = .ok (place, some .folder)
  shelf : d.at? (profilesPlace place) = some .folder
  config : d.at? (configPlace place) ≠ some .folder
  files : ∀ p ∈ s.profiles, d.at? (cell place p.name) = some (saved p (flags p.name))
  others : ∀ n ∈ d.names (profilesPlace place) ".json", ∃ m, PlainName m ∧ n = m ++ ".json" ∧
    (s.has m = true ∨ ∃ bytes, d.at? (cell place m) = some (.file bytes) ∧
      readProfile bytes = .error .skipped)
  names : (d.names (profilesPlace place) ".json").Nodup

theorem fileName_config : Disk.FileName "config.toml" :=
  Disk.fileName_of_ascii (forall_mem_of_all (by decide)) (by decide) (by decide)

theorem fileName_profiles : Disk.FileName "profiles" :=
  Disk.fileName_of_ascii (forall_mem_of_all (by decide)) (by decide) (by decide)

theorem inside_eq_cell {m n : String} :
    profilesPlace place ++ [n] = cell place m ↔ n = m ++ ".json" := by
  rw [cell, List.append_cancel_left_eq, List.singleton_inj]

theorem cell_inj {m n : String} : cell place m = cell place n ↔ m = n :=
  inside_eq_cell.trans (String.append_left_inj _)

theorem profilesPlace_ne_nil : profilesPlace place ≠ [] :=
  List.append_ne_nil_of_right_ne_nil _ (List.cons_ne_nil _ _)

theorem configPlace_ne_nil : configPlace place ≠ [] :=
  List.append_ne_nil_of_right_ne_nil _ (List.cons_ne_nil _ _)

theorem cell_ne_nil (n : String) : cell place n ≠ [] :=
  List.append_ne_nil_of_right_ne_nil _ (List.cons_ne_nil _ _)

theorem inside_ne_configPlace (n : String) : profilesPlace place ++ [n] ≠ configPlace place := by
  intro same
  have length := congrArg List.length same
  simp [profilesPlace, configPlace] at length

theorem inside_ne_profilesPlace (n : String) : profilesPlace place ++ [n] ≠ profilesPlace place := by
  intro same
  have length := congrArg List.length same
  simp at length

theorem configPlace_ne_cell (n : String) : configPlace place ≠ cell place n :=
  (inside_ne_configPlace _).symm

theorem at?_set_cell {m n : String} {e : Entry} : (d.set (cell place m) e).at? (cell place n) =
    if n = m then some e else d.at? (cell place n) := by
  rw [Disk.at?_set (cell_ne_nil m)]
  simp only [cell_inj]

theorem at?_remove_cell {m n : String} : (d.remove (cell place m)).at? (cell place n) =
    if n = m then none else d.at? (cell place n) := by
  rw [Disk.at?_remove (cell_ne_nil m)]
  simp only [cell_inj]

theorem profilesPlace_ne_configPlace : profilesPlace place ≠ configPlace place := by
  rw [profilesPlace, configPlace, Ne, List.append_cancel_left_eq]
  decide

namespace Shelved

variable (h : Shelved d place s flags)
include h

theorem find_profilesFolder : d.find (profilesFolder s.folder) = .ok (profilesPlace place, some .folder) := by
  have found := Disk.find_child h.folder fileName_profiles
  rw [← profilesPlace, h.shelf] at found
  exact found

/-- No folder stands where the file of a profile is or may be. -/
theorem cell_ne_folder {n : String} (plain : PlainName n) : d.at? (cell place n) ≠ some .folder := by
  intro there
  have found : n ++ ".json" ∈ d.names (profilesPlace place) ".json" := by
    refine Disk.mem_names_iff.2 ⟨?_, ?_⟩
    · rw [← cell, there]
      rfl
    · rw [String.toList_append]
      exact List.suffix_append _ _
  obtain ⟨m, -, named, rest⟩ := h.others _ found
  obtain rfl : n = m := (String.append_left_inj _).1 named
  rcases rest with used | ⟨bytes, file, -⟩
  · obtain ⟨p, hp, rfl⟩ := has_iff.1 used
    rw [h.files p hp] at there
    cases there
  · rw [file] at there
    cases there

/-- What stood on the shelf and was not changed is as it was in a store that kept its profile. -/
theorem others_of_same {d' : Disk} {s' : ProfileStore} {n : String}
    (same : d'.at? (profilesPlace place ++ [n]) = d.at? (profilesPlace place ++ [n]))
    (kept : ∀ m, n = m ++ ".json" → s.has m = true → s'.has m = true)
    (hn : n ∈ d'.names (profilesPlace place) ".json") : ∃ m, PlainName m ∧ n = m ++ ".json" ∧
      (s'.has m = true ∨ ∃ bytes, d'.at? (cell place m) = some (.file bytes) ∧
        readProfile bytes = .error .skipped) := by
  rw [Disk.mem_names_iff, same] at hn
  obtain ⟨m, plain, rfl, rest⟩ := h.others n (Disk.mem_names_iff.2 hn)
  refine ⟨m, plain, rfl, ?_⟩
  rw [cell, same]
  exact rest.imp_left (kept m rfl)

/-- The file of the selection may be written. -/
theorem setConfig (bytes : List UInt8) :
    Shelved (d.set (configPlace place) (.file bytes)) place s flags := by
  have keeps := Disk.keepsFolders_set (e := .file bytes) configPlace_ne_nil h.config
  have inside (n : String) : (d.set (configPlace place) (.file bytes)).at? (profilesPlace place ++ [n]) =
      d.at? (profilesPlace place ++ [n]) := by
    rw [Disk.at?_set configPlace_ne_nil, if_neg (inside_ne_configPlace n)]
  constructor
  case folder =>
    exact Disk.find_keeps keeps (Disk.workplace_set _ _) h.folder
  case shelf =>
    exact keeps _ h.shelf
  case config =>
    rw [Disk.at?_set configPlace_ne_nil, if_pos rfl]
    exact nofun
  case files =>
    intro p hp
    rw [cell, inside]
    exact h.files p hp
  case others =>
    exact fun n hn => h.others_of_same (inside n) (fun _ _ used => used) hn
  case names =>
    exact Disk.nodup_names_set _ _ h.names

/-- A profile with a new name is put on the shelf. -/
theorem enroll (plain : PlainName p.name) (new : s.has p.name = false) :
    Shelved (d.set (cell place p.name) (saved p p.active)) place (s.enroll p)
      (Function.update flags p.name p.active) := by
  have keeps := Disk.keepsFolders_set (e := saved p p.active) (cell_ne_nil _) (h.cell_ne_folder plain)
  rw [enroll_eq new]
  constructor
  case folder =>
    exact Disk.find_keeps keeps (Disk.workplace_set _ _) h.folder
  case shelf =>
    exact keeps _ h.shelf
  case config =>
    rw [Disk.at?_set (cell_ne_nil _), if_neg (configPlace_ne_cell _)]
    exact h.config
  case files =>
    intro q hq
    rw [at?_set_cell]
    rcases List.mem_append.1 hq with hq | hq
    · have other := has_eq_false_iff.1 new q hq
      rw [if_neg other, Function.update_of_ne other]
      exact h.files q hq
    · obtain rfl := List.mem_singleton.1 hq
      rw [if_pos rfl, Function.update_self]
  case others =>
    -- the file written belongs to the new profile, and the others were there before
    intro n hn
    by_cases same : n = p.name ++ ".json"
    · exact ⟨p.name, plain, same, .inl (has_iff.2 ⟨p, List.mem_append_right _ List.mem_cons_self, rfl⟩)⟩
    · refine h.others_of_same ?_ (fun m _ used => ?_) hn
      · rw [Disk.at?_set (cell_ne_nil _), if_neg (mt inside_eq_cell.1 same)]
      · obtain ⟨q, hq, named⟩ := has_iff.1 used
        exact has_iff.2 ⟨q, List.mem_append_left _ hq, named⟩
  case names =>
    exact Disk.nodup_names_set _ _ h.names

/-- A profile and its file are removed together. -/
theorem remove {n : String} (plain : ∀ p ∈ s.profiles, PlainName p.name) (there : s.has n = true) :
    Shelved (d.remove (cell place n)) place (s.remove n) flags := by
  obtain ⟨p, hp, rfl⟩ := has_iff.1 there
  have keeps := Disk.keepsFolders_remove (cell_ne_nil _) (h.cell_ne_folder (plain p hp))
  constructor
  case folder =>
    exact Disk.find_keeps keeps rfl h.folder
  case shelf =>
    exact keeps _ h.shelf
  case config =>
    rw [Disk.at?_remove (cell_ne_nil _), if_neg (configPlace_ne_cell _)]
    exact h.config
  case files =>
    intro q hq
    obtain ⟨hq, other⟩ := mem_remove.1 hq
    rw [at?_remove_cell, if_neg other]
    exact h.files q hq
  case others =>
    intro n hn
    have other : n ≠ p.name ++ ".json" := by
      intro same
      rw [Disk.mem_names_iff, Disk.at?_remove (cell_ne_nil _), if_pos (inside_eq_cell.2 same)] at hn
      exact absurd hn.1 Bool.false_ne_true
    refine h.others_of_same ?_ (fun m named used => ?_) hn
    · rw [Disk.at?_remove (cell_ne_nil _), if_neg (mt inside_eq_cell.1 other)]
    · obtain ⟨q, hq, rfl⟩ := has_iff.1 used
      refine has_iff.2 ⟨q, mem_remove.2 ⟨hq, fun same => ?_⟩, rfl⟩
      exact other (by rw [named, same])
  case names =>
    exact Disk.nodup_names_remove h.names

/-- What is selected does not matter for the files of the profiles, nor which flags they have in
memory. -/
theorem choose (n : String) : Shelved d place (s.choose n) flags := by
  constructor
  case folder =>
    exact h.folder
  case shelf =>
    exact h.shelf
  case config =>
    exact h.config
  case files =>
    intro p hp
    obtain ⟨q, hq, rfl⟩ := List.mem_map.1 hp
    exact h.files q hq
  case others =>
    intro n hn
    obtain ⟨m, plain, named, rest⟩ := h.others n hn
    refine ⟨m, plain, named, rest.imp_left fun used => ?_⟩
    obtain ⟨q, hq, named⟩ := has_iff.1 used
    exact has_iff.2 ⟨_, List.mem_map_of_mem hq, named⟩
  case names =>
    exact h.names

end Shelved

/-! ### Stores that are kept -/

/-- The folder at a place keeps a store: its profiles are there, with these flags, and so is its
selection. The file of the selection may name a profile that was not loaded, and before the
first profile there is no such file. -/
structure Kept (d : Disk) (place : List String) (s : ProfileStore) (flags : String → Bool) : Prop
    extends Shelved d place s flags where
  orderly : s.Orderly
  selection : (d.at? (configPlace place) = none ∧ s.profiles = [] ∧ s.selected = none) ∨
    ∃ x : Option String, (∀ n ∈ x, PlainName n) ∧
      d.at? (configPlace place) = some (.file (encodeUtf8 (configText x))) ∧
        s.selected = x.filter s.has

def configEntry (s : ProfileStore) : Entry := .file (encodeUtf8 (configText s.selected))

theorem Shelved.saveConfig_run (h : Shelved d place s flags) :
    saveConfig.run ⟨d, s⟩ = (.ok (), ⟨d.set (configPlace place) (configEntry s), s⟩) := by
  have written := Disk.write_child h.folder fileName_config h.config (encodeUtf8 (configText s.selected))
  unfold saveConfig
  rw [run_bind_eq, get_run]
  exact write_run written _

/-- A profile may be saved, also one that is not on the shelf yet. -/
theorem Shelved.saveProfile_run (h : Shelved d place s flags) (plain : PlainName p.name)
    {t : ProfileStore} (same : t.folder = s.folder) :
    (saveProfile p).run ⟨d, t⟩ = (.ok (), ⟨d.set (cell place p.name) (saved p p.active), t⟩) := by
  have written := Disk.write_child h.find_profilesFolder plain.fileName (h.cell_ne_folder plain)
    (encodeUtf8 (profileText p))
  rw [← same] at written
  unfold saveProfile
  rw [run_bind_eq, get_run]
  exact write_run written _

/-- A store in order is kept once its selection has been saved. -/
theorem Shelved.kept (h : Shelved d place s flags) (orderly : s.Orderly) :
    Kept (d.set (configPlace place) (configEntry s)) place s flags := by
  refine ⟨h.setConfig _, orderly, .inr ⟨s.selected, ?_, ?_, ?_⟩⟩
  · intro n hn
    obtain ⟨p, hp, rfl⟩ := has_iff.1 (orderly.chosen n hn)
    exact orderly.plain p hp
  · rw [Disk.at?_set configPlace_ne_nil, if_pos rfl]
    rfl
  · cases chosen : s.selected with
    | none => rfl
    | some n => rw [Option.filter_some, if_pos (orderly.chosen n chosen)]

namespace Kept

variable {σ : Session} (h : Kept σ.disk place σ.store flags)
include h

/-- New profiles are refused, or they are added with the flag that they are saved with. -/
theorem create_cases {t : Terms} (plain : ∀ n, t.name = .text n → PlainName n) :
    (∃ e, (create t).run σ = (.error e, σ)) ∨ ∃ p d, made σ.store t = .ok p ∧
      (create t).run σ = (.ok p, ⟨d, σ.store.enroll p⟩) ∧
        Kept d place (σ.store.enroll p) (Function.update flags p.name p.active) := by
  cases result : made σ.store t with
  | error e => exact .inl ⟨e, by rw [create_run, result]⟩
  | ok p =>
    obtain ⟨named, new, -, valid, -⟩ := of_made result
    have plain := plain _ named
    have orderly := h.orderly.enroll valid plain new
    have shelved := h.toShelved.enroll plain new
    refine .inr ⟨p, _, rfl, ?_, shelved.kept orderly⟩
    have same : (σ.store.enroll p).folder = σ.store.folder := by rw [enroll_eq new]
    rw [create_run, result]
    change (saveProfile p >>= fun _ => saveConfig >>= fun _ => pure p : Change Profile).run
      ⟨σ.disk, σ.store.enroll p⟩ = _
    rw [run_bind_eq, h.saveProfile_run plain same]
    dsimp only
    rw [run_bind_eq, shelved.saveConfig_run]
    rfl

theorem select_cases (name : Value) : (∃ e, (select name).run σ = (.error e, σ)) ∨
    ∃ p d, σ.store.lookup name = .ok p ∧ (select name).run σ = (.ok (), ⟨d, σ.store.choose p.name⟩) ∧
      Kept d place (σ.store.choose p.name) flags := by
  cases found : σ.store.lookup name with
  | error e => exact .inl ⟨e, by rw [select_run, found]⟩
  | ok p =>
    have there : σ.store.has p.name = true := by
      rw [has, (lookup_eq_ok.1 found).2]
      rfl
    have orderly := h.orderly.choose there
    have shelved := h.toShelved.choose p.name
    refine .inr ⟨p, _, rfl, ?_, shelved.kept orderly⟩
    rw [select_run, found]
    exact shelved.saveConfig_run

theorem delete_cases (name : Value) : (∃ e, (delete name).run σ = (.error e, σ)) ∨
    ∃ p d, σ.store.lookup name = .ok p ∧ (delete name).run σ = (.ok (), ⟨d, σ.store.remove p.name⟩) ∧
      Kept d place (σ.store.remove p.name) flags := by
  cases found : σ.store.lookup name with
  | error e => exact .inl ⟨e, delete_refused found⟩
  | ok p =>
    have stored := List.mem_of_find?_eq_some (lookup_eq_ok.1 found).2
    have there : σ.store.has p.name = true := has_iff.2 ⟨p, stored, rfl⟩
    have plain := h.orderly.plain
    have orderly := h.orderly.remove p.name
    have shelved := h.toShelved.remove plain there
    have file := h.files p stored
    have folder := h.find_profilesFolder
    have seen := Disk.has_child folder (plain p stored).fileName
    rw [← cell, file] at seen
    refine .inr ⟨p, _, rfl, ?_, shelved.kept orderly⟩
    rw [delete_run found seen (Disk.unlink_child folder (plain p stored).fileName file)]
    exact shelved.saveConfig_run

end Kept

end PageSkins.ProfileStore
