import PageSkins.Disk
import PageSkins.Proofs.Lists

/-!
# Places on a disk

What stands at a place after something was put there or removed, what a path leads to that goes
one name further than a folder, and which names stand in a folder. A path leads to the same
folder as long as the folders on its way stay.
-/

namespace PageSkins.Disk

variable {d d' : Disk} {place q : List String} {e : Entry}

/-! ### One place -/

theorem at?_cons (h : q ≠ []) : d.at? q = d.entries.lookup q := by
  rw [at?, if_neg (by simpa using h)]

theorem lookup_map_set (l : List (List String × Entry)) :
    (l.map fun x => if x.1 = place then (place, e) else x).lookup q =
      if q = place then (l.lookup q).map fun _ => e else l.lookup q := by
  have values : (fun x : List String × Entry => if x.1 = place then (place, e) else x) =
      fun x => (x.1, if x.1 = place then e else x.2) := by
    funext x
    by_cases same : x.1 = place
    · rw [if_pos same, if_pos same, same]
    · rw [if_neg same, if_neg same]
  rw [values, lookup_map_values (fun k v => if k = place then e else v)]
  by_cases same : q = place
  · simp only [if_pos same]
  · simp only [if_neg same, Option.map_id']

theorem at?_set (h : place ≠ []) :
    (d.set place e).at? q = if q = place then some e else d.at? q := by
  by_cases top : q = []
  · rw [if_neg (fun same => h (same.symm.trans top)), top]
    rfl
  rw [at?_cons top, at?_cons top]
  unfold set
  split
  · rename_i there
    obtain ⟨x, hx, same⟩ := List.any_eq_true.1 there
    have some' : (d.entries.lookup place).isSome :=
      List.lookup_isSome_iff.2 ⟨x, hx, beq_iff_eq.2 (eq_of_beq same).symm⟩
    obtain ⟨old, found⟩ := Option.isSome_iff_exists.1 some'
    rw [lookup_map_set]
    by_cases here : q = place
    · rw [if_pos here, if_pos here, here, found]
      rfl
    · rw [if_neg here, if_neg here]
  · rename_i new
    have none' : d.entries.lookup place = none :=
      List.lookup_eq_none_iff.2 fun x hx => bne_iff_ne.2 fun same =>
        new (List.any_eq_true.2 ⟨x, hx, beq_iff_eq.2 same.symm⟩)
    rw [List.lookup_append, lookup_cons_if]
    by_cases here : q = place
    · rw [if_pos here, if_pos here, here, none']
      rfl
    · rw [if_neg here, if_neg here, List.lookup_nil, Option.or_none]

theorem at?_remove (h : place ≠ []) :
    (d.remove place).at? q = if q = place then none else d.at? q := by
  by_cases top : q = []
  · rw [if_neg (fun same => h (same.symm.trans top)), top]
    rfl
  rw [at?_cons top, at?_cons top]
  unfold remove
  dsimp only
  induction d.entries with
  | nil => simp
  | cons x l ih =>
    obtain ⟨p, v⟩ := x
    by_cases same : p = place
    · rw [List.filter_cons_of_neg (by simp [same]), ih, lookup_cons_if, same]
      by_cases here : q = place
      · rw [if_pos here, if_pos here]
      · rw [if_neg here, if_neg here, if_neg here]
    · rw [List.filter_cons_of_pos (by simp [same]), lookup_cons_if, lookup_cons_if, ih]
      by_cases here : q = p
      · rw [if_pos here, if_pos here, if_neg (fun other => same (here.symm.trans other))]
      · rw [if_neg here, if_neg here]

theorem workplace_set (place : List String) (e : Entry) : (d.set place e).workplace = d.workplace := by
  unfold set
  split
  · rfl
  · rfl

/-! ### Folders that stay -/

/-- Where a folder stood, a folder stands. -/
def KeepsFolders (d d' : Disk) : Prop := ∀ q, d.at? q = some .folder → d'.at? q = some .folder

theorem keepsFolders_set (h : place ≠ []) (file : d.at? place ≠ some .folder) :
    KeepsFolders d (d.set place e) := by
  intro q hq
  have other : q ≠ place := by
    rintro rfl
    exact file hq
  rw [at?_set h, if_neg other, hq]

theorem keepsFolders_remove (h : place ≠ []) (file : d.at? place ≠ some .folder) :
    KeepsFolders d (d.remove place) := by
  intro q hq
  have other : q ≠ place := by
    rintro rfl
    exact file hq
  rw [at?_remove h, if_neg other, hq]

/-! ### Paths -/

theorem step_keeps (keeps : KeepsFolders d d') {name : String}
    (h : d.step place name = .ok (q, some .folder)) : d'.step place name = .ok (q, some .folder) := by
  unfold step at h ⊢
  split
  · rename_i up
    rw [if_pos up] at h
    exact h
  · rename_i down
    rw [if_neg down] at h
    split
    · rename_i long
      rw [if_pos long] at h
      cases h
    · rename_i short
      rw [if_neg short] at h
      obtain ⟨rfl, found⟩ := Prod.mk.inj (Except.ok.inj h)
      rw [keeps _ found]

theorem walk_cons {p : List String} {m : String} {rest : List String}
    (first : d.step place m = .ok (p, some .folder)) (more : rest ≠ []) :
    d.walk place (m :: rest) = d.walk p rest := by
  rw [walk, first]
  exact more

/-- All names of a walk but the last one lead to folders. -/
theorem step_of_walk {m n : String} {rest : List String} {there : List String × Option Entry}
    (h : d.walk place (m :: n :: rest) = .ok there) :
    ∃ p, d.step place m = .ok (p, some .folder) ∧ d.walk p (n :: rest) = .ok there := by
  rw [walk] at h
  · split at h
    · rename_i p first
      exact ⟨p, first, h⟩
    all_goals cases h
  · exact List.cons_ne_nil _ _

theorem walk_keeps (keeps : KeepsFolders d d') {names : List String}
    (h : d.walk place names = .ok (q, some .folder)) :
    d'.walk place names = .ok (q, some .folder) := by
  induction names generalizing place with
  | nil => exact h
  | cons m names ih =>
    cases names with
    | nil => exact step_keeps keeps h
    | cons n rest =>
      obtain ⟨p, first, rest⟩ := step_of_walk h
      rw [walk_cons (step_keeps keeps first) (List.cons_ne_nil _ _), ih rest]

/-- A walk that goes one name further than a folder. -/
theorem walk_append {names : List String} (h : d.walk place names = .ok (q, some .folder))
    (n : String) : d.walk place (names ++ [n]) = d.step q n := by
  induction names generalizing place with
  | nil =>
    obtain rfl := (Prod.mk.inj (Except.ok.inj h)).1
    rfl
  | cons m names ih =>
    have more : names ++ [n] ≠ [] := List.append_ne_nil_of_right_ne_nil _ (List.cons_ne_nil _ _)
    cases names with
    | nil => exact walk_cons h more
    | cons m' rest =>
      obtain ⟨p, first, rest⟩ := step_of_walk h
      rw [List.cons_append, walk_cons first more, ih rest]

theorem walk_concat_eq_ok {names : List String} {n : String} {there : List String × Option Entry}
    (h : d.walk place (names ++ [n]) = .ok there) :
    ∃ q, d.walk place names = .ok (q, some .folder) ∧ d.step q n = .ok there := by
  induction names generalizing place with
  | nil => exact ⟨place, rfl, h⟩
  | cons m names ih =>
    cases names with
    | nil =>
      obtain ⟨p, first, rest⟩ := step_of_walk h
      exact ⟨p, first, rest⟩
    | cons m' rest =>
      obtain ⟨p, first, later⟩ := step_of_walk h
      obtain ⟨q, found, last⟩ := ih later
      refine ⟨q, ?_, last⟩
      rw [walk_cons first (List.cons_ne_nil _ _)]
      exact found

structure FileName (n : String) : Prop where
  path : Path.ofText n = ⟨false, [n]⟩
  down : n ≠ ".."
  short : n.utf8ByteSize ≤ maxName
  noNull : n.toList.contains '\x00' = false

theorem utf8ByteSize_ofList {s : List Char} (ascii : ∀ c ∈ s, c.toNat < 0x80) :
    (String.ofList s).utf8ByteSize = s.length := by
  induction s with
  | nil => rfl
  | cons c s ih =>
    have one : c.utf8Size = 1 := Char.utf8Size_eq_one_iff.2 <|
      UInt32.le_iff_toNat_le.2 (Nat.le_of_lt_succ (ascii c List.mem_cons_self))
    have rest := ih fun d hd => ascii d (List.mem_cons_of_mem c hd)
    have parts : String.ofList (c :: s) = String.singleton c ++ String.ofList s := by
      rw [String.singleton_eq_ofList, ← String.ofList_append]
      rfl
    rw [parts, String.utf8ByteSize_append, String.utf8ByteSize_singleton, one, rest,
      List.length_cons, Nat.add_comm]

theorem splitSlashes_eq {s : List Char} (plain : ∀ c ∈ s, c ≠ '/') : Path.splitSlashes s = [s] := by
  induction s with
  | nil => rfl
  | cons c s ih =>
    have rest := ih fun d hd => plain d (List.mem_cons_of_mem c hd)
    unfold Path.splitSlashes at rest ⊢
    rw [List.foldr_cons, rest, if_neg (plain c List.mem_cons_self)]

variable {folder : Path} {n : String}

/-- A text that is long enough to be no point and no pair of points. -/
theorem ne_of_long (long : 2 < n.length) {s : String} (h : s.length ≤ 2) : n ≠ s := by
  rintro rfl
  omega

/-- A text without slashes is a path of one name. -/
theorem ofText_of_plain (plain : ∀ c ∈ n.toList, c ≠ '/') (long : 2 < n.length) :
    Path.ofText n = ⟨false, [n]⟩ := by
  have slashes : Path.splitSlashes n.toList = [n.toList] := splitSlashes_eq plain
  have kept : n ≠ "" ∧ n ≠ "." := ⟨ne_of_long long (by decide), ne_of_long long (by decide)⟩
  have relative : n.toList.head? ≠ some '/' := fun first =>
    plain '/' (List.mem_of_mem_head? first) rfl
  rw [Path.ofText, slashes, List.map_singleton, String.ofList_toList,
    List.filter_cons_of_pos (by simpa using kept), List.filter_nil, decide_eq_false relative]

/-- A name of characters of ASCII is one for a file, if it is long enough. -/
theorem fileName_of_ascii (chars : ∀ c ∈ n.toList, 0 < c.toNat ∧ c.toNat < 0x80 ∧ c ≠ '/')
    (long : 2 < n.length) (short : n.length ≤ maxName) : FileName n := by
  refine ⟨ofText_of_plain (fun c hc => (chars c hc).2.2) long, ne_of_long long (by decide), ?_, ?_⟩
  · have size : (String.ofList n.toList).utf8ByteSize = n.toList.length :=
      utf8ByteSize_ofList fun c hc => (chars c hc).2.1
    rw [String.ofList_toList] at size
    exact Nat.le_trans (Nat.le_of_eq size) short
  · rw [Bool.eq_false_iff]
    intro null
    exact absurd (chars '\x00' (List.elem_iff.1 null)).1 (by decide)

theorem find_keeps (keeps : KeepsFolders d d') (work : d'.workplace = d.workplace)
    (h : d.find folder = .ok (q, some .folder)) : d'.find folder = .ok (q, some .folder) := by
  unfold find at h ⊢
  split at h
  · cases h
  · rename_i clean
    rw [if_neg clean, work]
    exact walk_keeps keeps h

theorem child_eq (name : Path.ofText n = ⟨false, [n]⟩) :
    folder.child n = { folder with parts := folder.parts ++ [n] } := by
  rw [Path.child, name, Path.join, if_neg Bool.false_ne_true]

variable {there : Option Entry}

/-- A step that does not lead to a folder leads to its place on any disk. -/
theorem step_file {name : String} (h : d.step place name = .ok (q, there)) (file : there ≠ some .folder) :
    q ≠ [] ∧ d.at? q = there ∧ d'.step place name = .ok (q, d'.at? q) := by
  unfold step at h ⊢
  split at h
  · obtain ⟨-, rfl⟩ := Prod.mk.inj (Except.ok.inj h)
    exact absurd rfl file
  · rename_i down
    rw [if_neg down]
    split at h
    · cases h
    · rename_i short
      obtain ⟨rfl, found⟩ := Prod.mk.inj (Except.ok.inj h)
      rw [if_neg short]
      exact ⟨List.append_ne_nil_of_right_ne_nil _ (List.cons_ne_nil _ _), found, rfl⟩

/-- What does not lead to a folder leads to its place as long as the folders on the way stay. -/
theorem walk_file (keeps : KeepsFolders d d') {names : List String}
    (h : d.walk place names = .ok (q, there)) (file : there ≠ some .folder) :
    q ≠ [] ∧ d.at? q = there ∧ d'.walk place names = .ok (q, d'.at? q) := by
  induction names generalizing place with
  | nil =>
    obtain ⟨-, rfl⟩ := Prod.mk.inj (Except.ok.inj h)
    exact absurd rfl file
  | cons m names ih =>
    cases names with
    | nil => exact step_file h file
    | cons n rest =>
      obtain ⟨p, first, rest⟩ := step_of_walk h
      rw [walk_cons (step_keeps keeps first) (List.cons_ne_nil _ _)]
      exact ih rest

theorem find_file (keeps : KeepsFolders d d') (work : d'.workplace = d.workplace)
    (h : d.find folder = .ok (q, there)) (file : there ≠ some .folder) :
    q ≠ [] ∧ d.at? q = there ∧ d'.find folder = .ok (q, d'.at? q) := by
  unfold find at h ⊢
  split at h
  · cases h
  · rename_i clean
    rw [if_neg clean, work]
    exact walk_file keeps h file

/-- A path that does not lead to a folder leads to a place other than the top, and to what stands there. -/
theorem place_of_find (h : d.find folder = .ok (q, there)) (file : there ≠ some .folder) :
    q ≠ [] ∧ d.at? q = there := by
  have keeps : KeepsFolders d d := fun _ same => same
  obtain ⟨some', here, -⟩ := find_file keeps rfl h file
  exact ⟨some', here⟩

theorem write_eq_ok {bytes : List UInt8} : d.write folder bytes = .ok d' ↔
    ∃ q there, d.find folder = .ok (q, there) ∧ there ≠ some .folder ∧ d.set q (.file bytes) = d' := by
  unfold write
  constructor
  · intro h
    split at h
    · cases h
    · rename_i q there other found
      refine ⟨q, there, found, ?_, Except.ok.inj h⟩
      rintro rfl
      exact other rfl
    · cases h
  · rintro ⟨q, there, found, file, rfl⟩
    rw [found]
    split
    · rename_i same
      exact absurd (Prod.mk.inj (Except.ok.inj same)).2 file
    · rename_i same
      rw [(Prod.mk.inj (Except.ok.inj same)).1]
    · rename_i same
      cases same

theorem unlink_eq_ok : d.unlink folder = .ok d' ↔
    ∃ q bytes, d.find folder = .ok (q, some (.file bytes)) ∧ d.remove q = d' := by
  unfold unlink
  constructor
  · intro h
    split at h
    · rename_i q bytes found
      exact ⟨q, bytes, found, Except.ok.inj h⟩
    all_goals cases h
  · rintro ⟨q, bytes, found, rfl⟩
    rw [found]

/-! ### What a change reaches -/

/-- Paths that lead from folder to folder lead the same way on both disks. -/
structure SameFolders (d d' : Disk) : Prop where
  workplace : d'.workplace = d.workplace
  folders : ∀ q, d.at? q = some .folder ↔ d'.at? q = some .folder

theorem SameFolders.refl (d : Disk) : SameFolders d d := ⟨rfl, fun _ => Iff.rfl⟩

theorem SameFolders.symm (same : SameFolders d d') : SameFolders d' d :=
  ⟨same.workplace.symm, fun q => (same.folders q).symm⟩

theorem SameFolders.find (same : SameFolders d d') (h : d.find folder = .ok (q, there))
    (file : there ≠ some .folder) : d'.find folder = .ok (q, d'.at? q) :=
  (find_file (fun q => (same.folders q).1) same.workplace h file).2.2

/-- A file that is written leaves all folders where they are, and every other place as it was. -/
theorem write_spec {bytes : List UInt8} (h : d.write folder bytes = .ok d') :
    SameFolders d d' ∧ ∃ place there, d.find folder = .ok (place, there) ∧ there ≠ some .folder ∧
      ∀ q, d'.at? q = if q = place then some (.file bytes) else d.at? q := by
  obtain ⟨place, there, found, file, rfl⟩ := write_eq_ok.1 h
  obtain ⟨some', here⟩ := place_of_find found file
  refine ⟨⟨workplace_set _ _, fun q => ?_⟩, place, there, found, file, fun q => at?_set some'⟩
  rw [at?_set some']
  by_cases same : q = place
  · rw [if_pos same, same, here]
    exact iff_of_false file nofun
  · rw [if_neg same]

/-- What was written to a file is read from it. -/
theorem read_of_write {bytes : List UInt8} (h : d.write folder bytes = .ok d') :
    d'.read folder = .ok bytes := by
  obtain ⟨same, place, there, found, file, spec⟩ := write_spec h
  have again := same.find found file
  rw [spec, if_pos rfl] at again
  rw [read, again]

/-- A file that is removed leaves all folders where they are, and every other place as it was. -/
theorem unlink_spec (h : d.unlink folder = .ok d') :
    SameFolders d d' ∧ ∃ place bytes, d.find folder = .ok (place, some (.file bytes)) ∧
      ∀ q, d'.at? q = if q = place then none else d.at? q := by
  obtain ⟨place, bytes, found, rfl⟩ := unlink_eq_ok.1 h
  obtain ⟨some', here⟩ := place_of_find found nofun
  refine ⟨⟨rfl, fun q => ?_⟩, place, bytes, found, fun q => at?_remove some'⟩
  rw [at?_remove some']
  by_cases same : q = place
  · rw [if_pos same, same, here]
    exact iff_of_false nofun nofun
  · rw [if_neg same]

/-- Writing a file changes the place to which its path leads, if it did not hold the same before. -/
theorem write_changes_iff {bytes : List UInt8} : (match d.write folder bytes with
      | .ok d' => d'
      | .error _ => d).at? q ≠ d.at? q ↔
    ∃ e, d.find folder = .ok (q, e) ∧ e ≠ some .folder ∧ e ≠ some (.file bytes) := by
  constructor
  · intro changed
    cases written : d.write folder bytes with
    | error e =>
      rw [written] at changed
      exact absurd rfl changed
    | ok d' =>
      rw [written] at changed
      obtain ⟨-, place, e, found, apart, spec⟩ := write_spec written
      by_cases same : q = place
      · subst same
        refine ⟨e, found, apart, ?_⟩
        rintro rfl
        apply changed
        simpa [(place_of_find found apart).2] using spec q
      · exact absurd (by simpa [same] using spec q) changed
  · rintro ⟨e, found, apart, other⟩ same
    have written : d.write folder bytes = .ok (d.set q (.file bytes)) :=
      write_eq_ok.2 ⟨q, e, found, apart, rfl⟩
    rw [written] at same
    obtain ⟨inside, here⟩ := place_of_find found apart
    apply other
    rw [← here, ← same, at?_set inside, if_pos rfl]

/-- Removing a file changes the place to which its path leads. -/
theorem unlink_changes_iff : (match d.unlink folder with
      | .ok d' => d'
      | .error _ => d).at? q ≠ d.at? q ↔ ∃ old, d.find folder = .ok (q, some (.file old)) := by
  constructor
  · intro changed
    cases gone : d.unlink folder with
    | error e =>
      rw [gone] at changed
      exact absurd rfl changed
    | ok d' =>
      rw [gone] at changed
      obtain ⟨-, place, old, found, spec⟩ := unlink_spec gone
      by_cases same : q = place
      · exact ⟨old, same ▸ found⟩
      · exact absurd (by simpa [same] using spec q) changed
  · rintro ⟨old, found⟩ same
    rw [unlink_eq_ok.2 ⟨q, old, found, rfl⟩] at same
    obtain ⟨inside, here⟩ := place_of_find found nofun
    rw [at?_remove inside, if_pos rfl, here] at same
    cases same

/-! ### Files in a folder -/

/-- A path that goes one name further than a folder leads into that folder. -/
theorem find_child (h : d.find folder = .ok (q, some .folder)) (name : FileName n) :
    d.find (folder.child n) = .ok (q ++ [n], d.at? (q ++ [n])) := by
  unfold find at h
  split at h
  · cases h
  · rename_i clean
    have cleanChild : ¬ (folder.child n).hasNull = true := by
      rw [child_eq name.path, Path.hasNull, List.any_append, Bool.or_eq_true]
      rintro (null | null)
      · exact clean null
      · rw [List.any_cons, List.any_nil, name.noNull] at null
        cases null
    rw [find, if_neg cleanChild, child_eq name.path]
    dsimp only
    rw [walk_append h, step, if_neg name.down, if_neg (Nat.not_lt.2 name.short)]

/-- A name without slashes leads right into the folder that its path goes through. -/
theorem place_of_child (name : Path.ofText n = ⟨false, [n]⟩) (down : n ≠ "..")
    (found : d.find (folder.child n) = .ok (q, there)) :
    ∃ home, d.find folder = .ok (home, some .folder) ∧ q = home ++ [n] := by
  rw [child_eq name] at found
  unfold find at found
  split at found
  · cases found
  · rename_i clean
    obtain ⟨home, way, last⟩ := walk_concat_eq_ok found
    refine ⟨home, ?_, ?_⟩
    · have short : ¬ folder.hasNull = true := by
        intro null
        apply clean
        simpa [Path.hasNull] using .inl (by simpa [Path.hasNull] using null)
      rw [find, if_neg short]
      exact way
    · unfold step at last
      rw [if_neg down] at last
      split at last
      · cases last
      · exact (Prod.mk.inj (Except.ok.inj last)).1.symm

section

variable (h : d.find folder = .ok (q, some .folder)) (name : FileName n)
include h name

theorem has_child : d.has (folder.child n) = .ok (d.at? (q ++ [n])).isSome := by
  rw [has, find_child h name]

theorem read_child {bytes : List UInt8} (file : d.at? (q ++ [n]) = some (.file bytes)) :
    d.read (folder.child n) = .ok bytes := by
  rw [read, find_child h name, file]

theorem write_child (file : d.at? (q ++ [n]) ≠ some .folder) (bytes : List UInt8) :
    d.write (folder.child n) bytes = .ok (d.set (q ++ [n]) (.file bytes)) := by
  rw [write, find_child h name]
  rcases there : d.at? (q ++ [n]) with _ | ⟨⟩ | bytes
  · rfl
  · exact absurd there file
  · rfl

theorem unlink_child {bytes : List UInt8} (file : d.at? (q ++ [n]) = some (.file bytes)) :
    d.unlink (folder.child n) = .ok (d.remove (q ++ [n])) := by
  rw [unlink, find_child h name, file]

/-- A folder that is there need not be made. -/
theorem makeFolder_child (there : d.at? (q ++ [n]) = some .folder) :
    d.makeFolder (folder.child n) = .ok d := by
  have found := find_child h name
  rw [there] at found
  rw [makeFolder, makeOne, isFolder, found]
  rfl

theorem makeFolder_new (new : d.at? (q ++ [n]) = none) :
    d.makeFolder (folder.child n) = .ok (d.set (q ++ [n]) .folder) := by
  rw [makeFolder, makeOne, find_child h name, new]

end

theorem makeFolders_of_find (h : d.find folder = .ok (q, some .folder)) :
    d.makeFolders folder = (d, none) := by
  have made : d.makeOne folder = .error .exists := by rw [makeOne, h]
  have there : d.isFolder folder = true := by rw [isFolder, h]
  unfold makeFolders
  rw [makeFolders.go.eq_def]
  dsimp only
  rw [made]
  dsimp only
  rw [if_pos ⟨nofun, there⟩]

/-! ### The names in a folder -/

def keys (d : Disk) : List (List String) := d.entries.map Prod.fst

/-- The name of a place that is right in a folder, if it ends as wanted. -/
def nameIn (folder : List String) (suffix : String) (p : List String) : Option String :=
  match p.getLast? with
  | some name =>
    if p.dropLast = folder ∧ suffix.toList.isSuffixOf name.toList then some name else none
  | none => none

variable {suffix : String}

theorem nameIn_eq_some {p : List String} :
    nameIn q suffix p = some n ↔ p = q ++ [n] ∧ suffix.toList <:+ n.toList := by
  rcases List.eq_nil_or_concat p with rfl | ⟨init, last, rfl⟩
  · simp [nameIn]
  · rw [List.concat_eq_append, nameIn, List.getLast?_concat, List.dropLast_concat]
    dsimp only
    rw [Option.ite_none_right_eq_some]
    constructor
    · rintro ⟨⟨rfl, ends⟩, same⟩
      obtain rfl := Option.some.inj same
      exact ⟨rfl, List.isSuffixOf_iff_suffix.1 ends⟩
    · rintro ⟨same, ends⟩
      obtain ⟨rfl, ⟨⟩⟩ := List.append_inj' same rfl
      exact ⟨⟨rfl, List.isSuffixOf_iff_suffix.2 ends⟩, rfl⟩

/-- The names in a folder that end as wanted, in the order in which they came. -/
def names (d : Disk) (folder : List String) (suffix : String) : List String :=
  d.keys.filterMap (nameIn folder suffix)

theorem namesIn_eq (h : d.find folder = .ok (q, some .folder)) :
    d.namesIn folder suffix = (d.names q suffix).mergeSort fun a b => decide (a ≤ b) := by
  rw [namesIn, h, names, keys, List.filterMap_map]
  rfl

theorem mem_keys_iff (h : place ≠ []) : place ∈ d.keys ↔ (d.at? place).isSome := by
  rw [at?_cons h, List.lookup_isSome_iff, keys, List.mem_map]
  simp only [beq_iff_eq]
  simp only [eq_comm]

theorem mem_names_iff :
    n ∈ d.names q suffix ↔ (d.at? (q ++ [n])).isSome ∧ suffix.toList <:+ n.toList := by
  have inside : q ++ [n] ≠ [] := List.append_ne_nil_of_right_ne_nil _ (List.cons_ne_nil _ _)
  rw [names, List.mem_filterMap, ← mem_keys_iff inside]
  constructor
  · rintro ⟨p, hp, named⟩
    obtain ⟨rfl, ends⟩ := nameIn_eq_some.1 named
    exact ⟨hp, ends⟩
  · rintro ⟨hp, ends⟩
    exact ⟨_, hp, nameIn_eq_some.2 ⟨rfl, ends⟩⟩

theorem keys_set (place : List String) (e : Entry) :
    (d.set place e).keys = d.keys ∨ place ∉ d.keys ∧ (d.set place e).keys = d.keys ++ [place] := by
  unfold set
  split
  · left
    rw [keys, keys, List.map_map]
    refine List.map_congr_left fun x _ => ?_
    change (if x.1 = place then (place, e) else x).1 = x.1
    split
    · rename_i same
      exact same.symm
    · rfl
  · rename_i new
    refine .inr ⟨fun old => new ?_, List.map_append⟩
    obtain ⟨x, hx, rfl⟩ := List.mem_map.1 old
    exact List.any_eq_true.2 ⟨x, hx, beq_self_eq_true x.1⟩

theorem keys_remove (place : List String) : (d.remove place).keys = d.keys.filter (· != place) := by
  rw [keys, keys, remove, List.filter_map]
  rfl

/-- Putting something at a place does not make a name stand twice in a folder. -/
theorem nodup_names_set (place : List String) (e : Entry) (h : (d.names q suffix).Nodup) :
    ((d.set place e).names q suffix).Nodup := by
  unfold names at h ⊢
  rcases keys_set place e with same | ⟨new, more⟩
  · rw [same]
    exact h
  · rw [more, List.filterMap_append]
    cases named : nameIn q suffix place with
    | none =>
      rw [List.filterMap_cons_none named, List.filterMap_nil, List.append_nil]
      exact h
    | some m =>
      have other : m ∉ d.keys.filterMap (nameIn q suffix) := by
        intro hm
        obtain ⟨p, hp, named'⟩ := List.mem_filterMap.1 hm
        rw [(nameIn_eq_some.1 named).1, ← (nameIn_eq_some.1 named').1] at new
        exact new hp
      rw [List.filterMap_cons_some named, List.filterMap_nil, List.nodup_append]
      refine ⟨h, List.pairwise_singleton _ _, ?_⟩
      rintro a ha b hb rfl
      rw [List.mem_singleton.1 hb] at ha
      exact other ha

theorem nodup_names_remove (h : (d.names q suffix).Nodup) :
    ((d.remove place).names q suffix).Nodup := by
  unfold names
  rw [keys_remove]
  exact (List.filter_sublist.filterMap _).nodup h

end PageSkins.Disk
