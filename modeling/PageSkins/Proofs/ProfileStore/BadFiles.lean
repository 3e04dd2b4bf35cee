import PageSkins.Proofs.ProfileStore.Loading

/-!
# Folders with files of any content

Among the files of the profiles, one that is no text, no JSON or no valid profile is passed over,
and the others are loaded. But a file that holds a JSON value other than an object ends the
loading, so that nothing is loaded at all, and so does a selection whose file is no document.
-/

namespace PageSkins.ProfileStore

open PageSkins.Text

variable {d : Disk} {place q : List String} {folder : Path} {x : Option String} {s : ProfileStore}
  {p : Profile} {bytes : List UInt8} {n : String} {names : List String} {l : Loaded}

/-! ### One file -/

/-- Bytes that are the text of a JSON object which passes the check of profiles. -/
def Holds (bytes : List UInt8) (p : Profile) : Prop :=
  ∃ s fs, decodeUtf8? bytes = some s ∧ Json.read s = .ok (.map fs) ∧ Profile.check fs = .ok p

/-- Bytes that are the text of a JSON value other than an object. -/
def HoldsOther (bytes : List UInt8) : Prop :=
  ∃ s v, decodeUtf8? bytes = some s ∧ Json.read s = .ok v ∧ ∀ fs, v ≠ .map fs

theorem readProfile_spec (bytes : List UInt8) :
    (∀ p, readProfile bytes = .ok p ↔ Holds bytes p) ∧
      (readProfile bytes = .error .notRecord ↔ HoldsOther bytes) := by
  unfold readProfile Holds HoldsOther
  cases decodeUtf8? bytes with
  | none => simp
  | some s =>
    cases read : Json.read s with
    | error e => simp [read]
    | ok v =>
      cases v with
      | map fs => cases checked : Profile.check fs <;> simp [read, checked]
      | _ => simp [read]

theorem readProfile_eq_ok : readProfile bytes = .ok p ↔ Holds bytes p := (readProfile_spec bytes).1 p

theorem readProfile_eq_notRecord : readProfile bytes = .error .notRecord ↔ HoldsOther bytes :=
  (readProfile_spec bytes).2

def HoldsNamed (m : String) (bytes : List UInt8) : Prop := ∃ p, Holds bytes p ∧ p.name = m

/-- A file in a folder has bytes of a kind. -/
def HasFile (d : Disk) (q : List String) (n : String) (kind : List UInt8 → Prop) : Prop :=
  ∃ bytes, d.at? (q ++ [n]) = some (.file bytes) ∧ kind bytes

/-! ### Loading -/

section
variable (found : d.find (profilesFolder l.store.folder) = .ok (q, some .folder))
  (name : Disk.FileName n)
include found name

/-- One file of a folder ends the loading, or it is passed over or loaded. -/
theorem loadFiles_step (names : List String) :
    HasFile d q n HoldsOther ∧ (∃ e, loadFiles d (n :: names) l = .error e) ∨
      ¬HasFile d q n HoldsOther ∧ ∃ l', loadFiles d (n :: names) l = loadFiles d names l' ∧
        l'.store.folder = l.store.folder ∧
          ∀ m, l'.store.has m = true ↔ l.store.has m = true ∨ HasFile d q n (HoldsNamed m) := by
  rw [loadFiles_cons found name names]
  unfold HasFile HoldsNamed
  simp only [← readProfile_eq_ok, ← readProfile_eq_notRecord]
  rcases d.at? (q ++ [n]) with _ | _ | bytes
  · exact .inr ⟨by simp, l.skip n, rfl, rfl, by simp [Loaded.skip]⟩
  · exact .inr ⟨by simp, l.skip n, rfl, rfl, by simp [Loaded.skip]⟩
  · dsimp only
    rcases read : readProfile bytes with (_ | _) | p
    · exact .inr ⟨by simp [read], l.skip n, rfl, rfl, by simp [Loaded.skip, read]⟩
    · exact .inl ⟨by simp [read], _, rfl⟩
    · refine .inr ⟨by simp [read], { l with store := l.store.insert p }, rfl, rfl, ?_⟩
      simp [read, has_insert]

end

/-- Files are loaded if none of them ends the loading. -/
theorem loadFiles_run (found : d.find (profilesFolder l.store.folder) = .ok (q, some .folder))
    (named : ∀ n ∈ names, Disk.FileName n) :
    (∃ n ∈ names, HasFile d q n HoldsOther) ∧ (∃ e, loadFiles d names l = .error e) ∨
      (¬∃ n ∈ names, HasFile d q n HoldsOther) ∧ ∃ l', loadFiles d names l = .ok l' ∧
        l'.store.folder = l.store.folder ∧ ∀ m, l'.store.has m = true ↔
          l.store.has m = true ∨ ∃ n ∈ names, HasFile d q n (HoldsNamed m) := by
  induction names generalizing l with
  | nil => exact .inr ⟨by simp, l, rfl, rfl, by simp⟩
  | cons n names ih =>
    obtain ⟨name, named⟩ := List.forall_mem_cons.1 named
    rw [List.exists_mem_cons_iff]
    obtain ⟨bad, ended⟩ | ⟨fine, l', next, same, has⟩ := loadFiles_step found name names
    · exact .inl ⟨.inl bad, ended⟩
    rw [next]
    -- the files are still read from the same folder
    rw [← same] at found
    obtain ⟨bad, ended⟩ | ⟨others, l'', done, same', has'⟩ := ih found named
    · exact .inl ⟨.inr bad, ended⟩
    · refine .inr ⟨not_or.2 ⟨fine, others⟩, l'', done, same'.trans same, fun m => ?_⟩
      rw [has', has, or_assoc, List.exists_mem_cons_iff]

/-! ### Folders -/

def Stored (d : Disk) (place : List String) (bytes : List UInt8) : Prop :=
  ∃ n, ".json".toList <:+ n.toList ∧ d.at? (profilesPlace place ++ [n]) = some (.file bytes)

theorem exists_hasFile {kind : List UInt8 → Prop} :
    (∃ n ∈ d.names (profilesPlace place) ".json", HasFile d (profilesPlace place) n kind) ↔
      ∃ bytes, Stored d place bytes ∧ kind bytes := by
  constructor
  · rintro ⟨n, hn, bytes, file, fits⟩
    exact ⟨bytes, ⟨n, (Disk.mem_names_iff.1 hn).2, file⟩, fits⟩
  · rintro ⟨bytes, ⟨n, ends, file⟩, fits⟩
    exact ⟨n, Disk.mem_names_iff.2 ⟨by rw [file]; rfl, ends⟩, bytes, file, fits⟩

/-- A folder with the file of a selection. Beside it stands a folder of files with any content, or
nothing. -/
structure Furnished (d : Disk) (place : List String) (folder : Path) (x : Option String) : Prop where
  folder : d.find folder = .ok (place, some .folder)
  config : d.at? (configPlace place) = some (.file (encodeUtf8 (configText x)))
  shelf : ∀ bytes, d.at? (profilesPlace place) ≠ some (.file bytes)
  named : ∀ n ∈ d.names (profilesPlace place) ".json", Disk.FileName n

namespace Furnished

variable (h : Furnished d place folder x)
include h

/-- The folder of the profiles is made if it is missing, and nothing else is changed. -/
theorem makeFolder : ∃ d', d.makeFolder (profilesFolder folder) = .ok d' ∧
    d'.at? (profilesPlace place) = some .folder ∧ Furnished d' place folder x ∧
      ∀ bytes, Stored d' place bytes ↔ Stored d place bytes := by
  rcases there : d.at? (profilesPlace place) with _ | _ | bytes
  · have made := Disk.makeFolder_new h.folder fileName_profiles there
    have keeps := Disk.keepsFolders_set (e := .folder) profilesPlace_ne_nil (by rw [there]; nofun)
    have inside (n : String) : (d.set (profilesPlace place) .folder).at? (profilesPlace place ++ [n]) =
        d.at? (profilesPlace place ++ [n]) := by
      rw [Disk.at?_set profilesPlace_ne_nil, if_neg (inside_ne_profilesPlace n)]
    refine ⟨d.set (profilesPlace place) .folder, made, ?_, ⟨?_, ?_, ?_, ?_⟩, ?_⟩
    · rw [Disk.at?_set profilesPlace_ne_nil, if_pos rfl]
    · exact Disk.find_keeps keeps (Disk.workplace_set _ _) h.folder
    · rw [Disk.at?_set profilesPlace_ne_nil, if_neg profilesPlace_ne_configPlace.symm]
      exact h.config
    · rw [Disk.at?_set profilesPlace_ne_nil, if_pos rfl]
      exact fun bytes => nofun
    · intro n hn
      rw [Disk.mem_names_iff, inside] at hn
      exact h.named n (Disk.mem_names_iff.2 hn)
    · intro bytes
      unfold Stored
      simp only [inside]
  · exact ⟨d, Disk.makeFolder_child h.folder fileName_profiles there, there, h, fun _ => Iff.rfl⟩
  · exact absurd there (h.shelf bytes)

/-- Nothing is loaded if the file of the selection is no document. -/
theorem load_wide (wide : ¬∀ n ∈ x, ∀ c ∈ n.toList, Toml.Basic c) :
    ∃ log f, load d folder = (log, .error f) := by
  cases x with
  | none => exact absurd (fun n hn => by cases hn) wide
  | some n =>
    have wide : ¬∀ c ∈ n.toList, Toml.Basic c := fun basic =>
      wide fun m hm => Option.some.inj hm ▸ basic
    rw [load_of_config h.folder h.config, readConfig_wide wide]
    exact ⟨_, _, rfl⟩

/-- With a document, what is loaded depends on the files of the profiles. -/
theorem load_basic (shelf : d.at? (profilesPlace place) = some .folder)
    (basic : ∀ n ∈ x, ∀ c ∈ n.toList, Toml.Basic c) :
    (∃ bytes, Stored d place bytes ∧ HoldsOther bytes) ∧ (∃ log f, load d folder = (log, .error f)) ∨
      (¬∃ bytes, Stored d place bytes ∧ HoldsOther bytes) ∧ ∃ log s, load d folder = (log, .ok s) ∧
        ∀ m, s.has m = true ↔ ∃ bytes, Stored d place bytes ∧ HoldsNamed m bytes := by
  have found := Disk.find_child h.folder fileName_profiles
  rw [← profilesPlace, shelf] at found
  have mem (n : String) : n ∈ d.namesIn (profilesFolder folder) ".json" ↔
      n ∈ d.names (profilesPlace place) ".json" := by
    rw [profilesFolder, Disk.namesIn_eq found, List.mem_mergeSort]
  have given : ∀ n ∈ writtenName x, n ≠ "" := fun n hn => (writtenName_eq_some.1 hn).2
  have run := loadFiles_run (l := ⟨⟨folder, [], none⟩, []⟩) found fun n hn => h.named n ((mem n).1 hn)
  rw [load_of_config h.folder h.config, readConfig_basic basic]
  dsimp only
  simp only [mem, exists_hasFile] at run
  obtain ⟨bad, e, ended⟩ | ⟨fine, l, done, -, has⟩ := run
  · rw [ended]
    exact .inl ⟨bad, _, _, rfl⟩
  · rw [done]
    dsimp only
    rw [get_selectionFields, chosen_elim _ given]
    refine .inr ⟨fine, _, _, rfl, fun m => (has m).trans ?_⟩
    exact ⟨fun loaded => loaded.resolve_left Bool.false_ne_true, .inr⟩

end Furnished

/-- A folder is opened, with a profile for exactly the names that its files hold. -/
def Opens (d : Disk) (place : List String) (folder : Path) : Prop :=
  ∃ s, (openFolder d folder).result = .ok s ∧
    ∀ m, s.has m = true ↔ ∃ bytes p, Stored d place bytes ∧ Holds bytes p ∧ p.name = m

/-- What the file of the selection and the files of the profiles have to hold. -/
structure Readable (d : Disk) (place : List String) (x : Option String) : Prop where
  basic : ∀ n ∈ x, ∀ c ∈ n.toList, Toml.Basic c
  records : ∀ bytes, Stored d place bytes → ¬HoldsOther bytes

theorem not_opens_of_error {f : Failure} (failed : (openFolder d folder).result = .error f) :
    ¬Opens d place folder := by
  rintro ⟨s, opened, -⟩
  rw [failed] at opened
  cases opened

theorem Furnished.opening (h : Furnished d place folder x) :
    Readable d place x ∧ Opens d place folder ∨
      ¬Readable d place x ∧ ∃ f, (openFolder d folder).result = .error f := by
  obtain ⟨d', made, shelf, h', stored⟩ := h.makeFolder
  have opened : (openFolder d folder).result = (load d' folder).2 := by
    rw [openFolder, Disk.makeFolders_of_find h.folder]
    dsimp only
    rw [made]
  rw [opened]
  unfold Opens
  simp only [opened]
  by_cases basic : ∀ n ∈ x, ∀ c ∈ n.toList, Toml.Basic c
  · have loaded := h'.load_basic shelf basic
    simp only [stored] at loaded
    obtain ⟨⟨bytes, there, other⟩, log, f, failed⟩ | ⟨fine, log, s, done, has⟩ := loaded
    · exact .inr ⟨fun readable => readable.records bytes there other, f, by rw [failed]⟩
    · refine .inl ⟨⟨basic, fun bytes there other => fine ⟨bytes, there, other⟩⟩, s, by rw [done], ?_⟩
      intro m
      rw [has m]
      simp only [HoldsNamed, exists_and_left]
  · obtain ⟨log, f, failed⟩ := h'.load_wide basic
    exact .inr ⟨fun readable => basic readable.basic, f, by rw [failed]⟩

/-! ### Working folders -/

/-- A working folder with a selection and some files of profiles. -/
def workingFolder (x : Option String) (files : List (String × List UInt8)) : Disk where
  workplace := ["tmp", "work"]
  entries := [(["tmp"], .folder), (["tmp", "work"], .folder),
    (configPlace ["tmp", "work"], .file (encodeUtf8 (configText x))),
    (profilesPlace ["tmp", "work"], .folder)] ++
      files.map fun (n, bytes) => (profilesPlace ["tmp", "work"] ++ [n], .file bytes)

/-- The file of a profile with a name and an address, and the file of an empty list beside it. -/
def homeFile : String × List UInt8 :=
  ("home.json", encodeUtf8 "\x7b\"name\": \"home\", \"api_url\": \"https://a.example\"\x7d".toList)

def listFile : String × List UInt8 := ("list.json", encodeUtf8 "[]".toList)

/-- Files that are passed over: no text, no JSON, and an object that is no profile. -/
def passedOver : List (String × List UInt8) :=
  [("bytes.json", [0xff]), ("broken.json", encodeUtf8 "\x7b".toList),
    ("fields.json", encodeUtf8 "\x7b\"name\": 1\x7d".toList)]

section

variable {files : List (String × List UInt8)}

theorem of_at?_workingFolder {e : Entry}
    (there : (workingFolder x files).at? (profilesPlace ["tmp", "work"] ++ [n]) = some e) :
    ∃ f ∈ files, f.1 = n ∧ e = .file f.2 := by
  rw [Disk.at?_cons (List.append_ne_nil_of_right_ne_nil _ (List.cons_ne_nil _ _))] at there
  obtain ⟨before, after, entries, -⟩ := List.lookup_eq_some_iff.1 there
  have mem : (profilesPlace ["tmp", "work"] ++ [n], e) ∈ (workingFolder x files).entries := by
    rw [entries]
    exact List.mem_append_right _ List.mem_cons_self
  rcases List.mem_append.1 mem with first | file
  · -- the other entries are nearer to the top
    simp [profilesPlace, configPlace] at first
  · obtain ⟨f, hf, same⟩ := List.mem_map.1 file
    obtain ⟨place, rfl⟩ := Prod.mk.inj same
    obtain ⟨-, named⟩ := List.append_inj' place rfl
    exact ⟨f, hf, List.singleton_inj.1 named, rfl⟩

variable (x files)

theorem furnished_workingFolder (named : ∀ f ∈ files, Disk.FileName f.1) :
    Furnished (workingFolder x files) ["tmp", "work"] {} x where
  folder := rfl
  config := rfl
  shelf _ := nofun
  named n hn := by
    obtain ⟨e, there⟩ := Option.isSome_iff_exists.1 (Disk.mem_names_iff.1 hn).1
    obtain ⟨f, hf, rfl, -⟩ := of_at?_workingFolder there
    exact named f hf

theorem readable_workingFolder (basic : ∀ n ∈ x, ∀ c ∈ n.toList, Toml.Basic c)
    (records : ∀ f ∈ files, readProfile f.2 ≠ .error .notRecord) :
    Readable (workingFolder x files) ["tmp", "work"] x where
  basic := basic
  records bytes := by
    rintro ⟨n, -, there⟩ other
    obtain ⟨f, hf, -, same⟩ := of_at?_workingFolder there
    obtain rfl : bytes = f.2 := Entry.file.inj same
    exact records f hf (readProfile_eq_notRecord.2 other)

end

theorem fileName_examples : ∀ f ∈ listFile :: homeFile :: passedOver, Disk.FileName f.1 := by
  have ascii : ∀ f ∈ listFile :: homeFile :: passedOver,
      (f.1.toList.all fun c => decide (0 < c.toNat ∧ c.toNat < 0x80 ∧ c ≠ '/')) = true ∧
        2 < f.1.length ∧ f.1.length ≤ Disk.maxName := by decide
  intro f hf
  obtain ⟨chars, long, short⟩ := ascii f hf
  exact Disk.fileName_of_ascii (forall_mem_of_all chars) long short

/-! ### Folders that are opened -/

/-- A folder with files of any content is opened with exactly the profiles in them, if its
selection can be read and none of the files holds a JSON value that is no object. It is not opened
at all otherwise. -/
theorem opens_iff_readable (h : Furnished d place folder x) :
    (Opens d place folder ↔ Readable d place x) ∧
      (Opens d place folder ∨ ∃ f, (openFolder d folder).result = .error f) := by
  obtain ⟨readable, opens⟩ | ⟨unread, f, failed⟩ := h.opening
  · exact ⟨⟨fun _ => readable, fun _ => opens⟩, .inl opens⟩
  · refine ⟨⟨fun opens => ?_, fun readable => absurd readable unread⟩, .inr ⟨f, failed⟩⟩
    exact absurd opens (not_opens_of_error failed)

theorem opens_iff_readable_mixed :
    Furnished (workingFolder (some "home") (homeFile :: passedOver)) ["tmp", "work"] {} (some "home") ∧
      Opens (workingFolder (some "home") (homeFile :: passedOver)) ["tmp", "work"] {} := by
  have furnished := furnished_workingFolder (some "home") (homeFile :: passedOver) fun f hf =>
    fileName_examples f (List.mem_cons_of_mem _ hf)
  have basic : ∀ n ∈ some "home", ∀ c ∈ n.toList, Toml.Basic c := by
    intro n hn
    obtain rfl := Option.some.inj hn
    exact forall_mem_of_all (by decide)
  have readable := readable_workingFolder (some "home") (homeFile :: passedOver) basic
    (by decide +kernel)
  exact ⟨furnished, (opens_iff_readable furnished).1.2 readable⟩

/-- A file with an empty list keeps the profile beside it from being loaded. -/
theorem not_opens_listed :
    Furnished (workingFolder (some "home") [listFile, homeFile]) ["tmp", "work"] {} (some "home") ∧
      ¬Opens (workingFolder (some "home") [listFile, homeFile]) ["tmp", "work"] {} := by
  have furnished := furnished_workingFolder (some "home") [listFile, homeFile] fun f hf =>
    fileName_examples f (List.mem_append_left passedOver hf)
  refine ⟨furnished, ?_⟩
  have stored : Stored (workingFolder (some "home") [listFile, homeFile]) ["tmp", "work"] listFile.2 :=
    ⟨listFile.1, by decide, rfl⟩
  have other : HoldsOther listFile.2 := readProfile_eq_notRecord.1 (by decide +kernel)
  obtain ⟨readable, -⟩ | ⟨-, f, failed⟩ := furnished.opening
  · exact absurd other (readable.records _ stored)
  · exact not_opens_of_error failed

end PageSkins.ProfileStore
