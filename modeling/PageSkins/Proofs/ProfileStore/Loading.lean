import PageSkins.Proofs.ProfileStore.Selection

/-!
# Stores that are loaded

What is loaded from a folder that keeps a store is that store, with the flags from the files,
less the profiles whose files are passed over. These are at most the ones with too long an
address.
-/

namespace PageSkins.ProfileStore

open PageSkins.Text

variable {d : Disk} {place : List String} {s t : ProfileStore} {flags : String → Bool}

/-- The profile in a file of a folder, if it is taken. -/
def inFile (d : Disk) (folder : List String) (n : String) : Option Profile :=
  match d.at? (folder ++ [n]) with
  | some (.file bytes) => (readProfile bytes).toOption
  | _ => none

theorem inFile_eq {folder : List String} {n : String} {bytes : List UInt8}
    (file : d.at? (folder ++ [n]) = some (.file bytes)) :
    inFile d folder n = (readProfile bytes).toOption := by
  rw [inFile, file]

/-- A file among those of the profiles can be loaded: it is passed over, or it holds the profile
that it is named after. -/
structure Loadable (d : Disk) (folder : List String) (n : String) : Prop where
  name : Disk.FileName n
  content : ∃ bytes, d.at? (folder ++ [n]) = some (.file bytes) ∧
    (readProfile bytes = .error .skipped ∨ ∃ p, readProfile bytes = .ok p ∧ n = p.name ++ ".json")

theorem Loadable.name_of_inFile {folder : List String} {n : String} {p : Profile}
    (h : Loadable d folder n) (there : inFile d folder n = some p) : n = p.name ++ ".json" := by
  obtain ⟨-, bytes, file, content⟩ := h
  rw [inFile_eq file] at there
  rcases content with skipped | ⟨q, read, named⟩
  · rw [skipped] at there
    cases there
  · rw [read] at there
    obtain rfl : q = p := Option.some.inj there
    exact named

def Loaded.skip (l : Loaded) (n : String) : Loaded :=
  { l with log := l.log ++ ["Failed to load profile " ++ n] }

theorem loadFiles_cons {l : Loaded} {folder : List String} {n : String}
    (found : d.find (profilesFolder l.store.folder) = .ok (folder, some .folder))
    (name : Disk.FileName n) (names : List String) : loadFiles d (n :: names) l =
    match d.at? (folder ++ [n]) with
    | some (.file bytes) =>
      match readProfile bytes with
      | .ok p => loadFiles d names { l with store := l.store.insert p }
      | .error .skipped => loadFiles d names (l.skip n)
      | .error .notRecord => .error (.wrongKind, l.log)
    | _ => loadFiles d names (l.skip n) := by
  have path : (profilesFolder l.store.folder).join ⟨false, [n]⟩ =
      (profilesFolder l.store.folder).child n := by
    rw [Path.child, name.path]
  rw [loadFiles, path, Disk.read, Disk.find_child found name]
  rcases d.at? (folder ++ [n]) with _ | _ | bytes
  · rfl
  · rfl
  · rfl

/-- Files that can be loaded are loaded, each behind those before it. -/
theorem loadFiles_eq {folder : List String} {names : List String} (loadable : ∀ n ∈ names, Loadable d folder n)
    (distinct : names.Nodup) {l : Loaded}
    (found : d.find (profilesFolder l.store.folder) = .ok (folder, some .folder))
    (new : ∀ p ∈ l.store.profiles, p.name ++ ".json" ∉ names) :
    ∃ log, loadFiles d names l = .ok ⟨{ l.store with
      profiles := l.store.profiles ++ names.filterMap (inFile d folder) }, log⟩ := by
  -- the names that were loaded already are not among the files still to come
  induction names generalizing l with
  | nil => exact ⟨l.log, by rw [loadFiles, List.filterMap_nil, List.append_nil]⟩
  | cons n names ih =>
    obtain ⟨first, rest⟩ := List.nodup_cons.1 distinct
    obtain ⟨name, bytes, file, content⟩ := loadable n List.mem_cons_self
    have others := fun m hm => loadable m (List.mem_cons_of_mem n hm)
    rw [loadFiles_cons found name, file]
    dsimp only
    rcases content with skipped | ⟨p, read, rfl⟩
    · have none' : inFile d folder n = none := by
        rw [inFile_eq file, skipped]
        rfl
      rw [skipped, List.filterMap_cons_none none']
      exact ih others rest found fun p hp hn => new p hp (List.mem_cons_of_mem n hn)
    · have some' : inFile d folder (p.name ++ ".json") = some p := by
        rw [inFile_eq file, read]
        rfl
      have unused : l.store.has p.name = false := by
        refine has_eq_false_iff.2 fun q hq same => new q hq ?_
        rw [same]
        exact List.mem_cons_self
      rw [read, List.filterMap_cons_some some']
      dsimp only
      rw [insert_new unused]
      have later : ∀ q ∈ l.store.profiles ++ [p], q.name ++ ".json" ∉ names := by
        refine List.forall_mem_append.2 ⟨fun q hq hn => new q hq (List.mem_cons_of_mem _ hn), ?_⟩
        exact List.forall_mem_singleton.2 first
      obtain ⟨log, loaded⟩ := ih (l := { l with store := { l.store with profiles := l.store.profiles ++ [p] } })
        others rest found later
      refine ⟨log, loaded.trans ?_⟩
      rw [List.append_assoc, List.singleton_append]

/-! ### What is loaded -/

/-- What a store is once its folder was opened again: the flags are the ones from the files,
and profiles may be missing whose address is too long. -/
structure Reloaded (s t : ProfileStore) (flags : String → Bool) : Prop where
  folder : t.folder = s.folder
  profiles : ∀ q ∈ t.profiles, ∃ p ∈ s.profiles,
    q.toFields = { p with active := flags p.name }.toFields
  short : ∀ p ∈ s.profiles, p.baseUrl.length ≤ WebAddress.maxLength → t.has p.name = true
  selected : t.selected = s.selected.filter t.has

namespace Shelved

variable (h : Shelved d place s flags) (sound : s.Sound)
include h sound

/-- The file of a profile is passed over, or it holds the profile with the flag it was saved
with. -/
theorem readProfile_saved {p : Profile} (hp : p ∈ s.profiles) : ∃ bytes,
    d.at? (cell place p.name) = some (.file bytes) ∧ (readProfile bytes = .error .skipped ∨
      ∃ q, readProfile bytes = .ok q ∧ q.Valid ∧
        q.toFields = { p with active := flags p.name }.toFields) :=
  ⟨_, h.files p hp, readProfile_cases ((sound p hp).withActive _)⟩

theorem loadable {n : String} (hn : n ∈ d.names (profilesPlace place) ".json") :
    Loadable d (profilesPlace place) n := by
  obtain ⟨m, plain, rfl, rest⟩ := h.others n hn
  refine ⟨plain.fileName, ?_⟩
  rcases rest with used | ⟨bytes, file, skipped⟩
  · obtain ⟨p, hp, rfl⟩ := has_iff.1 used
    obtain ⟨bytes, file, skipped | ⟨q, read, -, same⟩⟩ := h.readProfile_saved sound hp
    · exact ⟨bytes, file, .inl skipped⟩
    · refine ⟨bytes, file, .inr ⟨q, read, ?_⟩⟩
      rw [(Profile.toFields_inj.1 same).1]
  · exact ⟨bytes, file, .inl skipped⟩

/-- A profile that is loaded is one of the store, with the flag from its file. -/
theorem of_inFile {n : String} {q : Profile} (hn : n ∈ d.names (profilesPlace place) ".json")
    (there : inFile d (profilesPlace place) n = some q) :
    q.Valid ∧ ∃ p ∈ s.profiles, q.toFields = { p with active := flags p.name }.toFields := by
  obtain ⟨m, plain, rfl, rest⟩ := h.others n hn
  rcases rest with used | ⟨bytes, file, skipped⟩
  · obtain ⟨p, hp, rfl⟩ := has_iff.1 used
    obtain ⟨bytes, file, content⟩ := h.readProfile_saved sound hp
    rw [inFile_eq file] at there
    rcases content with skipped | ⟨q', read, valid, same⟩
    · rw [skipped] at there
      cases there
    · rw [read] at there
      obtain rfl : q' = q := Option.some.inj there
      exact ⟨valid, p, hp, same⟩
  · rw [inFile_eq file, skipped] at there
    cases there

/-- A profile with an address that is short enough is loaded. -/
theorem inFile_of_short {p : Profile} (hp : p ∈ s.profiles)
    (short : p.baseUrl.length ≤ WebAddress.maxLength) :
    p.name ++ ".json" ∈ d.names (profilesPlace place) ".json" ∧
      ∃ q, inFile d (profilesPlace place) (p.name ++ ".json") = some q ∧ q.name = p.name := by
  have file := h.files p hp
  have valid := (sound p hp).withActive (flags p.name)
  rw [cell] at file
  constructor
  · rw [Disk.mem_names_iff, file, String.toList_append]
    exact ⟨rfl, List.suffix_append _ _⟩
  · rcases readProfile_cases valid with skipped | ⟨q, read, -, same⟩
    · exact absurd skipped (readProfile_ne_skipped valid short)
    · refine ⟨q, ?_, (Profile.toFields_inj.1 same).1⟩
      rw [inFile_eq file, read]
      rfl

end Shelved

/-- The profiles of a folder as they are loaded, with none in use yet. -/
def loadedFrom (d : Disk) (place : List String) (folder : Path) : ProfileStore where
  folder := folder
  profiles := (d.namesIn (profilesFolder folder) ".json").filterMap (inFile d (profilesPlace place))

theorem Shelved.mem_namesIn (h : Shelved d place s flags) {n : String} :
    n ∈ d.namesIn (profilesFolder s.folder) ".json" ↔ n ∈ d.names (profilesPlace place) ".json" := by
  rw [Disk.namesIn_eq h.find_profilesFolder, List.mem_mergeSort]

theorem Shelved.loadFiles_namesIn (h : Shelved d place s flags) (sound : s.Sound) :
    ∃ log, loadFiles d (d.namesIn (profilesFolder s.folder) ".json") ⟨⟨s.folder, [], none⟩, []⟩ =
      .ok ⟨loadedFrom d place s.folder, log⟩ := by
  refine loadFiles_eq (fun n hn => h.loadable sound (h.mem_namesIn.1 hn)) ?_ h.find_profilesFolder
    (List.forall_mem_nil _)
  rw [Disk.namesIn_eq h.find_profilesFolder]
  exact (List.mergeSort_perm _ _).nodup_iff.2 h.names

theorem Shelved.mem_loadedFrom (h : Shelved d place s flags) {q : Profile} :
    q ∈ (loadedFrom d place s.folder).profiles ↔
      ∃ n ∈ d.names (profilesPlace place) ".json", inFile d (profilesPlace place) n = some q := by
  rw [loadedFrom, List.mem_filterMap]
  simp only [h.mem_namesIn]

/-- The names of the profiles that are loaded do not repeat, as those of their files do not. -/
theorem Shelved.distinct_loadedFrom (h : Shelved d place s flags) (sound : s.Sound) :
    ((loadedFrom d place s.folder).profiles.map Profile.name).Nodup := by
  have files : (d.namesIn (profilesFolder s.folder) ".json").Nodup := by
    rw [Disk.namesIn_eq h.find_profilesFolder]
    exact (List.mergeSort_perm _ _).nodup_iff.2 h.names
  have back : ((loadedFrom d place s.folder).profiles.map fun q => q.name ++ ".json").Sublist
      (d.namesIn (profilesFolder s.folder) ".json") :=
    map_filterMap_sublist fun n hn q there =>
      ((h.loadable sound (h.mem_namesIn.1 hn)).name_of_inFile there).symm
  have names : (((loadedFrom d place s.folder).profiles.map Profile.name).map (· ++ ".json")).Nodup := by
    rw [List.map_map]
    exact back.nodup files
  exact List.Pairwise.of_map (· ++ ".json") (fun a b other same => other (by rw [same])) names

/-- A profile of a store in order is written in its file as the one that was loaded from it. -/
theorem saved_eq {p q : Profile} (same : q.toFields = { p with active := flags p.name }.toFields) :
    saved q (flags q.name) = saved p (flags p.name) := by
  obtain ⟨name, -, -, -, -, active⟩ := Profile.toFields_inj.1 same
  have flag : flags q.name = q.active := by rw [name, active]
  rw [saved, saved, flag, profileText, same]
  rfl

theorem Shelved.of_mem_loadedFrom (h : Shelved d place s flags) (sound : s.Sound) {q : Profile}
    (hq : q ∈ (loadedFrom d place s.folder).profiles) :
    q.Valid ∧ ∃ p ∈ s.profiles, q.toFields = { p with active := flags p.name }.toFields := by
  obtain ⟨n, hn, there⟩ := h.mem_loadedFrom.1 hq
  exact h.of_inFile sound hn there

theorem Shelved.has_of_loadedFrom (h : Shelved d place s flags) (sound : s.Sound) {n : String}
    (there : (loadedFrom d place s.folder).has n = true) : s.has n = true := by
  obtain ⟨q, hq, rfl⟩ := has_iff.1 there
  obtain ⟨-, p, hp, same⟩ := h.of_mem_loadedFrom sound hq
  exact has_iff.2 ⟨p, hp, (Profile.toFields_inj.1 same).1.symm⟩

theorem Shelved.loadedFrom_has_of_short (h : Shelved d place s flags) (sound : s.Sound)
    {p : Profile} (hp : p ∈ s.profiles) (short : p.baseUrl.length ≤ WebAddress.maxLength) :
    (loadedFrom d place s.folder).has p.name = true := by
  obtain ⟨hn, q, there, named⟩ := h.inFile_of_short sound hp short
  exact has_iff.2 ⟨q, h.mem_loadedFrom.2 ⟨_, hn, there⟩, named⟩

/-- A file among those of the profiles belongs to a profile that is loaded, or it is passed over. -/
theorem Shelved.loadedFrom_has_or_skipped (h : Shelved d place s flags) (sound : s.Sound)
    {n : String} (hn : n ++ ".json" ∈ d.names (profilesPlace place) ".json")
    (used : s.has n = true) : (loadedFrom d place s.folder).has n = true ∨ ∃ bytes,
      d.at? (cell place n) = some (.file bytes) ∧ readProfile bytes = .error .skipped := by
  obtain ⟨p, hp, rfl⟩ := has_iff.1 used
  obtain ⟨bytes, file, skipped | ⟨q, read, -, same⟩⟩ := h.readProfile_saved sound hp
  · exact .inr ⟨bytes, file, skipped⟩
  · have there : inFile d (profilesPlace place) (p.name ++ ".json") = some q := by
      rw [inFile_eq file, read]
      rfl
    exact .inl (has_iff.2 ⟨q, h.mem_loadedFrom.2 ⟨_, hn, there⟩, (Profile.toFields_inj.1 same).1⟩)

/-- A selection that is dropped when it is missing from a store is dropped as well when it is
missing from what is loaded of it. -/
theorem filter_has_filter_has {x : Option String}
    (fewer : ∀ n, t.has n = true → s.has n = true) : (x.filter s.has).filter t.has = x.filter t.has := by
  rw [Option.filter_filter]
  congr 1
  funext n
  cases there : t.has n with
  | true => rw [fewer n there, Bool.true_and]
  | false => rw [Bool.and_false]

variable {x : Option String}

/-- What is loaded, with the selection that its file names if that is still there. -/
def loadedWith (d : Disk) (place : List String) (folder : Path) (x : Option String) : ProfileStore :=
  { loadedFrom d place folder with selected := x.filter (loadedFrom d place folder).has }

theorem Kept.reloaded (h : Kept d place s flags) (selected : s.selected = x.filter s.has) :
    Reloaded s (loadedWith d place s.folder x) flags := by
  have sound := h.orderly.sound
  refine ⟨rfl, fun q hq => (h.of_mem_loadedFrom sound hq).2,
    fun p hp short => h.loadedFrom_has_of_short sound hp short, ?_⟩
  rw [selected]
  exact (filter_has_filter_has fun n => h.has_of_loadedFrom sound).symm

/-- What is loaded is kept in its turn. -/
theorem Kept.loaded (h : Kept d place s flags) (plain : ∀ n ∈ x, PlainName n)
    (config : d.at? (configPlace place) = some (.file (encodeUtf8 (configText x)))) :
    Kept d place (loadedWith d place s.folder x) flags := by
  have sound := h.orderly.sound
  refine ⟨⟨h.folder, h.shelf, h.config, ?_, ?_, h.names⟩,
    ⟨?_, ?_, h.distinct_loadedFrom sound, ?_⟩, .inr ⟨x, plain, config, rfl⟩⟩
  · intro q hq
    obtain ⟨-, p, hp, same⟩ := h.of_mem_loadedFrom sound hq
    rw [saved_eq same, (Profile.toFields_inj.1 same).1]
    exact h.files p hp
  · intro n hn
    obtain ⟨m, named, rfl, used | skipped⟩ := h.others n hn
    · exact ⟨m, named, rfl, h.loadedFrom_has_or_skipped sound hn used⟩
    · exact ⟨m, named, rfl, .inr skipped⟩
  · exact fun q hq => (h.of_mem_loadedFrom sound hq).1
  · intro q hq
    obtain ⟨-, p, hp, same⟩ := h.of_mem_loadedFrom sound hq
    rw [(Profile.toFields_inj.1 same).1]
    exact h.orderly.plain p hp
  · exact fun n hn => (Option.filter_eq_some_iff.1 hn).2

theorem chosen_elim (s : ProfileStore) {x : Option String} (given : ∀ n ∈ x, n ≠ "") :
    chosen s (x.elim .null .text) = .ok (x.filter s.has) := by
  cases x with
  | none => rfl
  | some n =>
    have nonempty : n.isEmpty = false := by
      rw [Bool.eq_false_iff, Ne, String.isEmpty_iff]
      exact given n rfl
    rw [Option.elim_some, chosen, nonempty, Option.filter_some]
    rfl

/-- With a file of the selection, the profiles are loaded if it is a document. -/
theorem load_of_config {folder : Path} {bytes : List UInt8}
    (found : d.find folder = .ok (place, some .folder))
    (config : d.at? (configPlace place) = some (.file bytes)) :
    load d folder = match readConfig bytes with
    | .error f => ([], .error f)
    | .ok fs =>
      match loadFiles d (d.namesIn (profilesFolder folder) ".json") ⟨⟨folder, [], none⟩, []⟩ with
      | .error (m, log) => (log, .error (.mishap m "The file of a profile holds no record"))
      | .ok l =>
        match chosen l.store (fs.get "active_profile") with
        | .ok selected => (l.log, .ok { l.store with selected })
        | .error f => (l.log, .error f) := by
  have seen := Disk.has_child found fileName_config
  rw [← configPlace, config] at seen
  rw [load, configFile, seen, Disk.read_child found fileName_config config]
  rfl

/-- A folder that keeps a store is opened without a change to the disk. -/
theorem Kept.openFolder_eq (h : Kept d place s flags) : ∃ log t,
    openFolder d s.folder = ⟨d, log, .ok t⟩ ∧ Reloaded s t flags ∧ Kept d place t flags := by
  have made := Disk.makeFolder_child h.folder fileName_profiles h.shelf
  have open' (log : List String) (t : ProfileStore) (loaded : load d s.folder = (log, .ok t)) :
      openFolder d s.folder = ⟨d, log, .ok t⟩ := by
    rw [openFolder, Disk.makeFolders_of_find h.folder]
    dsimp only
    rw [profilesFolder, made]
    dsimp only
    rw [loaded]
  rcases h.selection with ⟨absent, none', unset⟩ | ⟨x, plain, config, selected⟩
  · have seen := Disk.has_child h.folder fileName_config
    rw [← configPlace, absent] at seen
    have same : s = ⟨s.folder, [], none⟩ := by rw [← none', ← unset]
    refine ⟨[], s, open' _ _ ?_, ⟨rfl, ?_, ?_, ?_⟩, h⟩
    · rw [load, configFile, seen]
      dsimp only [Option.isSome]
      rw [← same]
    · rw [none']
      exact List.forall_mem_nil _
    · rw [none']
      exact List.forall_mem_nil _
    · rw [unset]
      rfl
  · obtain ⟨log, loaded⟩ := h.loadFiles_namesIn h.orderly.sound
    obtain ⟨fs, document, named⟩ := readConfig_configText plain
    refine ⟨log, _, open' _ _ ?_, h.reloaded selected, h.loaded plain config⟩
    have chosen := chosen_elim (loadedFrom d place s.folder) fun n hn => (plain n hn).nonempty
    rw [load_of_config h.folder config, document]
    dsimp only
    rw [loaded]
    dsimp only
    rw [named, chosen]
    rfl

end PageSkins.ProfileStore
