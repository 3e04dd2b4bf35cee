import PageSkins.Proofs.ProfileStore.Shelf
import PageSkins.Proofs.Toml.Escapes

/-!
# The file of the selection

The name of the profile in use is written with the escapes of JSON and read as text of a document.
It survives if each of its characters takes a single 16-bit unit; with any other character the
file is no document, so that the folder cannot be opened any more.
-/

namespace PageSkins.ProfileStore

open PageSkins.Text

variable {x : Option String}

/-- The name that is written for a selection. An empty one is left out. -/
def writtenName (x : Option String) : Option String := x.filter fun n => !n.isEmpty

def selectionFields (x : Option String) : Fields :=
  ("version", .text "1.0") :: (writtenName x).elim [] fun n => [("active_profile", .text n)]

/-- The file of the selection is a comment and two lines, or one if no name is written. -/
theorem configText_eq (x : Option String) : configText x =
    '#' :: (" blogskin configuration".toList ++ '\n' ::
      (Toml.pairLine "version".toList "1.0".toList ++ (writtenName x).elim [] fun n =>
        Toml.pairLine "active_profile".toList (n.toList.flatMap (Json.quotedChar true)))) := by
  have start : "# blogskin configuration\nversion = \"1.0\"\n".toList =
      '#' :: (" blogskin configuration".toList ++ '\n' ::
        Toml.pairLine "version".toList "1.0".toList) := by decide
  have line : "active_profile = ".toList = "active_profile".toList ++ [' ', '=', ' '] := by decide
  unfold configText writtenName
  rw [start, List.cons_append, List.append_assoc, List.cons_append]
  congr 4
  cases x.filter fun n => !n.isEmpty with
  | none => rfl
  | some n =>
    dsimp only
    rw [Json.quoted, line, Option.elim_some, Toml.pairLine]
    simp only [List.append_assoc, List.cons_append, List.nil_append]

theorem writtenName_eq_some {n : String} : writtenName x = some n ↔ x = some n ∧ n ≠ "" :=
  filter_nonempty_eq_some

/-- What is written of a name starts with some other character than a quote. -/
theorem written_first {n : String} (given : n ≠ "") :
    n.toList.flatMap (Json.quotedChar true) ≠ [] ∧
      (n.toList.flatMap (Json.quotedChar true)).head? ≠ some '"' := by
  have some' : n.toList ≠ [] := fun empty => given (String.toList_eq_nil_iff.1 empty)
  obtain ⟨c, s, text⟩ := List.exists_cons_of_ne_nil some'
  obtain ⟨d, ds, first, other⟩ := (Toml.written_quotedChar c).first
  rw [text, List.flatMap_cons, first, List.cons_append]
  exact ⟨List.cons_ne_nil _ _, fun same => other (Option.some.inj same)⟩

theorem noReturn_configText (x : Option String) : ∀ c ∈ configText x, c ≠ '\r' := by
  have title : ∀ c ∈ " blogskin configuration".toList, c ≠ '\r' := forall_mem_of_all (by decide)
  have version : ∀ c ∈ Toml.pairLine "version".toList "1.0".toList, c ≠ '\r' :=
    forall_mem_of_all (by decide)
  have before : ∀ c ∈ "active_profile".toList, c ≠ '\r' := forall_mem_of_all (by decide)
  rw [configText_eq]
  refine List.forall_mem_cons.2 ⟨by decide, List.forall_mem_append.2 ⟨title,
    List.forall_mem_cons.2 ⟨by decide, List.forall_mem_append.2 ⟨version, ?_⟩⟩⟩⟩
  cases writtenName x with
  | none => exact List.forall_mem_nil _
  | some n =>
    have name : ∀ c ∈ n.toList.flatMap (Json.quotedChar true), c ≠ '\r' := by
      intro c hc
      obtain ⟨b, -, hb⟩ := List.mem_flatMap.1 hc
      rintro rfl
      exact absurd ((Toml.written_quotedChar b).visible _ hb) (by decide)
    rw [Option.elim_some, Toml.pairLine]
    simp only [List.forall_mem_append, List.forall_mem_cons]
    exact ⟨before, by decide, by decide, by decide, by decide, name, by decide, by decide,
      List.forall_mem_nil _⟩

/-- The document is read up to the name in it. -/
theorem read_configText (x : Option String) : ∃ fuel, Toml.read (configText x) =
    (do
      let d ← Toml.Document.statements (fuel + 1) ⟨[("version", .value (.text "1.0"))], [], []⟩
        ((writtenName x).elim [] fun n =>
          Toml.pairLine "active_profile".toList (n.toList.flatMap (Json.quotedChar true)))
      return Toml.entryValues d.entries) := by
  obtain ⟨fuel, length⟩ : ∃ fuel, (configText x).length + 1 = fuel + 3 := by
    rw [configText_eq]
    simp [Toml.pairLine]
  have title : ∀ c ∈ " blogskin configuration".toList, Toml.isControl c = false ∧ c ≠ '\n' :=
    forall_mem_of_all (by decide)
  have versionKey : ∀ c ∈ "version".toList, Toml.isBareKeyChar c = true :=
    forall_mem_of_all (by decide)
  have version : ∀ c ∈ "1.0".toList, Toml.Literal c := forall_mem_of_all (by decide)
  refine ⟨fuel, ?_⟩
  unfold Toml.read
  dsimp only
  rw [Toml.joinLineEnds_eq (noReturn_configText x), length, configText_eq,
    Toml.Document.statements_comment title, Toml.Document.statements_new versionKey (by decide)
      (.of_literal version) (by decide) (by decide) rfl]
  rfl

theorem selectionKey : ∀ c ∈ "active_profile".toList, Toml.isBareKeyChar c = true :=
  forall_mem_of_all (by decide)

theorem read_configText_basic (basic : ∀ n ∈ x, ∀ c ∈ n.toList, Toml.Basic c) :
    Toml.read (configText x) = .ok (selectionFields x) := by
  obtain ⟨fuel, read⟩ := read_configText x
  rw [read, selectionFields]
  cases named : writtenName x with
  | none => rfl
  | some n =>
    obtain ⟨rfl, given⟩ := writtenName_eq_some.1 named
    obtain ⟨some', first⟩ := written_first given
    rw [Option.elim_some, ← List.append_nil (Toml.pairLine _ _),
      Toml.Document.statements_new selectionKey (by decide) (Toml.spells_quoted (basic n rfl)) some'
        first rfl, Toml.Document.statements_nil]
    rfl

theorem read_configText_wide {n : String} (wide : ¬∀ c ∈ n.toList, Toml.Basic c) :
    Toml.read (configText (some n)) = .error .malformed := by
  have given : n ≠ "" := by
    rintro rfl
    exact wide (List.forall_mem_nil _)
  obtain ⟨some', first⟩ := written_first given
  obtain ⟨fuel, read⟩ := read_configText (some n)
  rw [read, writtenName_eq_some.2 ⟨rfl, given⟩, Option.elim_some, Toml.pairLine,
    Toml.Document.statements_unread selectionKey (by decide) (Toml.ne_quotes some' first _)
      (Toml.quotedBody_quoted_wide wide)]
  rfl

/-- The file of the selection is read as its document, if every character of the name takes a
single unit. -/
theorem readConfig_basic (basic : ∀ n ∈ x, ∀ c ∈ n.toList, Toml.Basic c) :
    readConfig (encodeUtf8 (configText x)) = .ok (selectionFields x) := by
  unfold readConfig
  rw [decodeUtf8?_encodeUtf8]
  dsimp only
  rw [read_configText_basic basic]

/-- Otherwise it is not read at all. -/
theorem readConfig_wide {n : String} (wide : ¬∀ c ∈ n.toList, Toml.Basic c) :
    readConfig (encodeUtf8 (configText (some n))) =
      .error (.refusal .config "Failed to load configuration: no valid document") := by
  unfold readConfig
  rw [decodeUtf8?_encodeUtf8]
  dsimp only
  rw [read_configText_wide wide]

/-- A plain name is written as it is. -/
theorem writtenName_plain (plain : ∀ n ∈ x, PlainName n) : writtenName x = x := by
  cases x with
  | none => rfl
  | some n => exact writtenName_eq_some.2 ⟨rfl, (plain n rfl).nonempty⟩

theorem get_selectionFields (x : Option String) :
    (selectionFields x).get "active_profile" = (writtenName x).elim .null .text := by
  rw [selectionFields]
  cases writtenName x with
  | none => rfl
  | some n => rfl

/-- The file of a selection with a plain name names the same profile. -/
theorem readConfig_configText (plain : ∀ n ∈ x, PlainName n) :
    ∃ fs, readConfig (encodeUtf8 (configText x)) = .ok fs ∧
      fs.get "active_profile" = x.elim .null .text := by
  refine ⟨_, readConfig_basic fun n hn c hc => ?_, ?_⟩
  · exact Nat.lt_trans ((plain n hn).apart hc).2.1 (by decide)
  · rw [get_selectionFields, writtenName_plain plain]

/-! ### Saved and read again -/

variable {σ τ : Session}

/-- What is written to a disk once a selection has been saved. -/
theorem read_of_saveConfig (saved : saveConfig.run σ = (.ok (), τ)) :
    τ.disk.read (configFile τ.store.folder) = .ok (encodeUtf8 (configText σ.store.selected)) := by
  rw [saveConfig_run_eq, write_run_eq] at saved
  split at saved
  · rename_i d written
    obtain ⟨-, rfl⟩ := Prod.mk.inj saved
    exact Disk.read_of_write written
  · cases saved

/-- Once a selection has been saved, its file is read as the document that names it, if each
character of the name takes a single unit, and it is refused otherwise. -/
theorem selection_read_cases {n : String} (used : σ.store.selected = some n) (given : n ≠ "")
    (saved : saveConfig.run σ = (.ok (), τ)) :
    ∃ bytes, τ.disk.read (configFile τ.store.folder) = .ok bytes ∧
      ((∀ c ∈ n.toList, Toml.Basic c) →
        readConfig bytes = .ok [("version", .text "1.0"), ("active_profile", .text n)]) ∧
      ((∃ c ∈ n.toList, ¬Toml.Basic c) → readConfig bytes =
        .error (.refusal .config "Failed to load configuration: no valid document")) := by
  refine ⟨_, read_of_saveConfig saved, fun basic => ?_, fun ⟨c, hc, wide⟩ => ?_⟩
  · have name : writtenName (some n) = some n := writtenName_eq_some.2 ⟨rfl, given⟩
    rw [used, readConfig_basic fun m hm => Option.some.inj hm ▸ basic, selectionFields, name]
    rfl
  · rw [used]
    exact readConfig_wide fun basic => wide (basic c hc)

def selecting (n : String) : Session := ⟨.empty, ⟨{}, [], some n⟩⟩

theorem saveConfig_selecting (n : String) : ∃ τ, saveConfig.run (selecting n) = (.ok (), τ) := by
  have work : Disk.empty.find {} = .ok (["tmp", "work"], some .folder) := rfl
  have written := Disk.write_child work fileName_config nofun (encodeUtf8 (configText (some n)))
  exact ⟨_, saveConfig_run_eq.trans (write_run (σ := selecting n) written _)⟩

theorem selection_read_cases_accented : ∃ τ,
    saveConfig.run (selecting "Zoë \"\\\n\x7f") = (.ok (), τ) ∧
      ∃ bytes, τ.disk.read (configFile τ.store.folder) = .ok bytes ∧ readConfig bytes =
        .ok [("version", .text "1.0"), ("active_profile", .text "Zoë \"\\\n\x7f")] := by
  obtain ⟨τ, saved⟩ := saveConfig_selecting "Zoë \"\\\n\x7f"
  obtain ⟨bytes, read, basic, -⟩ := selection_read_cases rfl (by decide) saved
  exact ⟨τ, saved, bytes, read, basic (forall_mem_of_all (by decide))⟩

/-- A name with a character that takes two units is saved but not read again. -/
theorem not_selection_read_smiling : ∃ τ bytes,
    saveConfig.run (selecting "😀") = (.ok (), τ) ∧
      τ.disk.read (configFile τ.store.folder) = .ok bytes ∧
        ¬∃ fs, readConfig bytes = .ok fs ∧ fs.get "active_profile" = .text "😀" := by
  obtain ⟨τ, saved⟩ := saveConfig_selecting "😀"
  have wide : ¬∀ c ∈ "😀".toList, Toml.Basic c := fun basic =>
    absurd (basic '😀' List.mem_cons_self) (by decide)
  refine ⟨τ, _, saved, read_of_saveConfig saved, ?_⟩
  rintro ⟨fs, read, -⟩
  exact absurd ((readConfig_wide wide).symm.trans read) nofun

end PageSkins.ProfileStore
