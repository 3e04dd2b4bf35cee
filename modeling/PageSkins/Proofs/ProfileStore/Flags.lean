import PageSkins.Proofs.ProfileStore.Reopening

/-!
# Flags of profiles

That a profile is in use is kept twice: as a flag of the profile and as the selection of the
store. The flags in memory follow every change, but a selection is saved without them: the file
of a profile has the flag with which the profile was made. So flags and selection can disagree
once a folder has been opened again after a selection.
-/

namespace PageSkins.ProfileStore

open PageSkins.Text

variable {d : Disk} {folder : Path} {place : List String} {s t : ProfileStore}
  {flags : String → Bool} {p : Profile} {σ τ : Session}

/-! ### Agreement -/

/-- Some flag of profiles tells which profile is selected. -/
def Tells (flag : Profile → Bool) (s : ProfileStore) : Prop :=
  ∀ p ∈ s.profiles, flag p = true ↔ s.selected = some p.name

/-- The flags in memory are those of the files. -/
def AsFiled (s : ProfileStore) (flags : String → Bool) : Prop :=
  ∀ p ∈ s.profiles, p.active = flags p.name

theorem AsFiled.tells_iff (h : AsFiled s flags) :
    Tells Profile.active s ↔ Tells (fun p => flags p.name) s := by
  refine forall₂_congr fun p hp => ?_
  rw [h p hp]

theorem tells_choose (n : String) : Tells Profile.active (s.choose n) := by
  intro p hp
  obtain ⟨q, -, rfl⟩ := List.mem_map.1 hp
  change (q.name == n) = true ↔ some n = some q.name
  rw [beq_iff_eq, Option.some.injEq, eq_comm]

theorem Tells.remove {flag : Profile → Bool} (h : Tells flag s) (n : String) :
    Tells flag (s.remove n) := by
  intro p hp
  obtain ⟨hp, other⟩ := mem_remove.1 hp
  rw [h p hp, selected_remove_eq_some, and_iff_left other]

/-- A new profile is flagged if it becomes the selected one. -/
theorem Tells.enroll {flag flag' : Profile → Bool} (h : Tells flag s) (new : s.has p.name = false)
    (old : ∀ q ∈ s.profiles, flag' q = flag q) (own : flag' p = s.selected.isNone)
    (chosen : ∀ n ∈ s.selected, s.has n = true) : Tells flag' (s.enroll p) := by
  rw [enroll_eq new]
  intro q hq
  rcases List.mem_append.1 hq with hq | hq
  · have other := has_eq_false_iff.1 new q hq
    rw [old q hq, h q hq]
    cases s.selected with
    | none =>
      change none = some q.name ↔ some p.name = some q.name
      rw [Option.some.injEq]
      exact ⟨nofun, fun same => absurd same.symm other⟩
    | some n => rfl
  · obtain rfl := List.mem_singleton.1 hq
    rw [own]
    cases selected : s.selected with
    | none => exact ⟨fun _ => rfl, fun _ => rfl⟩
    | some n =>
      refine ⟨nofun, fun same => ?_⟩
      obtain rfl : n = q.name := Option.some.inj same
      rw [chosen _ selected] at new
      cases new

/-! ### Runs -/

/-- What is done to a store: a call that succeeds, or its folder is opened again. -/
inductive Move where
  | call (c : Call)
  | reopen

def Session.move (σ : Session) : Move → Option Session
  | .call c =>
    match c.change.run σ with
    | (.ok (), τ) => some τ
    | (.error _, _) => none
  | .reopen =>
    match openFolder σ.disk σ.store.folder with
    | ⟨disk, _, .ok store⟩ => some ⟨disk, store⟩
    | ⟨_, _, .error _⟩ => none

/-- What the flags go by: which profiles were made while none was in use, and whether the flags
in memory have not been loaded since the last selection. -/
structure Past where
  first : String → Bool := fun _ => false
  inStep : Bool := true

/-- The past after another move, seen from before it. -/
def Past.next (g : Past) (σ : Session) : Move → Past
  | .call (.create t) =>
    match t.name with
    | .text n => { g with first := Function.update g.first n σ.store.selected.isNone }
    | _ => g
  | .call (.select _) => { g with inStep := true }
  | .call (.delete _) => g
  | .reopen => { g with inStep := false }

/-- Where moves lead, and the past that they make. -/
def outcome (σ : Session) (g : Past) : List Move → Option (Session × Past)
  | [] => some (σ, g)
  | m :: ms => (σ.move m).bind fun τ => outcome τ (g.next σ m) ms

def Move.Plain : Move → Prop
  | .call c => c.Plain
  | .reopen => True

/-- What holds of a session with some past. -/
structure Accords (place : List String) (σ : Session) (g : Past) : Prop where
  kept : Kept σ.disk place σ.store g.first
  flags : if g.inStep then Tells Profile.active σ.store else AsFiled σ.store g.first

variable {g : Past} {m : Move}

theorem AsFiled.enroll (h : AsFiled s flags) (new : s.has p.name = false) :
    AsFiled (s.enroll p) (Function.update flags p.name p.active) := by
  rw [enroll_eq new]
  intro q hq
  rcases List.mem_append.1 hq with hq | hq
  · rw [Function.update_of_ne (has_eq_false_iff.1 new q hq), h q hq]
  · obtain rfl := List.mem_singleton.1 hq
    rw [Function.update_self]

/-- What is loaded has the flags from the files. -/
theorem Reloaded.asFiled (re : Reloaded s t flags) : AsFiled t flags := by
  intro q hq
  obtain ⟨p, -, same⟩ := re.profiles q hq
  obtain ⟨name, -, -, -, -, active⟩ := Profile.toFields_inj.1 same
  rw [active, name]

/-- What a move does to a store that is kept, by what it is. -/
theorem Kept.move_cases (h : Kept σ.disk place σ.store g.first) (plain : m.Plain)
    (moved : σ.move m = some τ) : Kept τ.disk place τ.store (g.next σ m).first ∧ match m with
      | .call (.create _) => ∃ p, σ.store.has p.name = false ∧
        p.active = σ.store.selected.isNone ∧ τ.store = σ.store.enroll p ∧
          g.next σ m = { g with first := Function.update g.first p.name p.active }
      | .call (.select _) => ∃ n, τ.store = σ.store.choose n
      | .call (.delete _) => ∃ n, τ.store = σ.store.remove n
      | .reopen => Reloaded σ.store τ.store g.first := by
  unfold Session.move at moved
  cases m with
  | call c =>
    dsimp only at moved
    split at moved
    · rename_i ρ done
      obtain rfl := Option.some.inj moved
      rcases h.call_cases plain with ⟨e, refused⟩ | ⟨d, s, done', what⟩
      · rw [refused] at done
        cases done
      obtain rfl : ⟨d, s⟩ = ρ := (Prod.mk.inj (done'.symm.trans done)).2
      cases c with
      | create t =>
        obtain ⟨p, result, rfl, kept⟩ := what
        obtain ⟨named, new, -, -, active⟩ := of_made result
        have past : g.next σ (.call (.create t)) =
            { g with first := Function.update g.first p.name p.active } := by
          rw [Past.next, named, active]
        rw [past]
        exact ⟨kept, p, new, active, rfl, rfl⟩
      | select name =>
        obtain ⟨p, -, rfl, kept⟩ := what
        exact ⟨kept, p.name, rfl⟩
      | delete name =>
        obtain ⟨p, -, rfl, kept⟩ := what
        exact ⟨kept, p.name, rfl⟩
    · cases moved
  | reopen =>
    obtain ⟨log, t, opened, re, kept⟩ := h.openFolder_eq
    dsimp only at moved
    rw [opened] at moved
    obtain rfl := Option.some.inj moved
    exact ⟨kept, re⟩

theorem Accords.next (h : Accords place σ g) (plain : m.Plain) (moved : σ.move m = some τ) :
    Accords place τ (g.next σ m) := by
  obtain ⟨kept, what⟩ := h.kept.move_cases plain moved
  have flags := h.flags
  refine ⟨kept, ?_⟩
  rcases m with (t | name | name) | _
  · obtain ⟨p, new, active, store, past⟩ := what
    rw [past, store]
    dsimp only
    cases inStep : g.inStep with
    | true =>
      rw [inStep] at flags
      exact Tells.enroll flags new (fun _ _ => rfl) active h.kept.orderly.chosen
    | false =>
      rw [inStep] at flags
      exact AsFiled.enroll flags new
  · obtain ⟨n, store⟩ := what
    rw [store]
    exact tells_choose n
  · obtain ⟨n, store⟩ := what
    rw [store]
    change if g.inStep then _ else _
    cases inStep : g.inStep with
    | true =>
      rw [inStep] at flags
      exact Tells.remove flags n
    | false =>
      rw [inStep] at flags
      exact fun q hq => flags q (mem_remove.1 hq).1
  · exact what.asFiled

theorem Accords.run {ms : List Move} {g' : Past} (h : Accords place σ g) (plain : ∀ m ∈ ms, m.Plain)
    (ran : outcome σ g ms = some (τ, g')) : Accords place τ g' := by
  induction ms generalizing σ g with
  | nil =>
    obtain ⟨rfl, rfl⟩ := Prod.mk.inj (Option.some.inj ran)
    exact h
  | cons m ms ih =>
    obtain ⟨ρ, moved, ran⟩ := Option.bind_eq_some_iff.1 ran
    exact ih (h.next (plain m List.mem_cons_self) moved)
      (fun m hm => plain m (List.mem_cons_of_mem _ hm)) ran

/-! ### What is handed out -/

theorem lookup_iff (distinct : (s.profiles.map Profile.name).Nodup) {n : String} :
    s.lookup (.text n) = .ok p ↔ p ∈ s.profiles ∧ p.name = n := by
  rw [lookup_text_eq_ok]
  constructor
  · exact fun found => ⟨List.mem_of_find?_eq_some found, name_of_find? found⟩
  · rintro ⟨hp, rfl⟩
    obtain ⟨q, found⟩ := Option.isSome_iff_exists.1 (has_iff.2 ⟨p, hp, rfl⟩)
    obtain rfl := List.inj_on_of_nodup_map distinct (List.mem_of_find?_eq_some found) hp
      (name_of_find? found)
    exact found

theorem tells_iff (distinct : (s.profiles.map Profile.name).Nodup) {flag : Profile → Bool} :
    Tells flag s ↔
      ∀ n p, s.lookup (.text n) = .ok p → (flag p = true ↔ s.selected = some n) := by
  constructor
  · intro h n p found
    obtain ⟨hp, rfl⟩ := (lookup_iff distinct).1 found
    exact h p hp
  · exact fun h p hp => h p.name p ((lookup_iff distinct).2 ⟨hp, rfl⟩)

/-- The flags in memory tell the selection if they have followed it, or if those of the files
tell it. -/
theorem Accords.tells_iff (h : Accords place σ g) : Tells Profile.active σ.store ↔
    g.inStep = true ∨ Tells (fun p => g.first p.name) σ.store := by
  have flags := h.flags
  cases inStep : g.inStep with
  | true =>
    rw [inStep] at flags
    exact ⟨fun _ => .inl rfl, fun _ => flags⟩
  | false =>
    rw [inStep] at flags
    rw [AsFiled.tells_iff flags, or_iff_right Bool.false_ne_true]

theorem accords_start (found : d.find folder = .ok (place, some .folder)) (vacant : d.Vacant place)
    (opened : (openFolder d folder).result = .ok s) :
    Accords place ⟨(openFolder d folder).disk, s⟩ {} ∧ s.profiles = [] := by
  obtain ⟨d', opened', kept⟩ := openFolder_vacant found vacant
  rw [opened'] at opened ⊢
  obtain rfl := Except.ok.inj opened
  exact ⟨⟨kept _, List.forall_mem_nil _⟩, rfl⟩

/-- From an empty folder any moves are made that succeed. Afterwards the flags of the profiles
tell which one is in use exactly if no folder was opened since the last selection, or if the
profiles that were made while none was in use are the ones in use. -/
theorem active_iff_selected_iff (found : d.find folder = .ok (place, some .folder))
    (vacant : d.Vacant place) (opened : (openFolder d folder).result = .ok s) {ms : List Move}
    (plain : ∀ m ∈ ms, m.Plain) {g : Past}
    (ran : outcome ⟨(openFolder d folder).disk, s⟩ {} ms = some (τ, g)) :
    (∀ n p, τ.store.lookup (.text n) = .ok p → (p.active = true ↔ τ.store.selected = some n)) ↔
      g.inStep = true ∨ ∀ n p, τ.store.lookup (.text n) = .ok p →
        (g.first p.name = true ↔ τ.store.selected = some n) := by
  have accords := (accords_start found vacant opened).1.run plain ran
  have distinct := accords.kept.orderly.distinct
  rw [← ProfileStore.tells_iff distinct, accords.tells_iff, ProfileStore.tells_iff distinct]

def swapping : List Move := [
  .call (.create { name := .text "old", apiUrl := .text "https://old.example" }),
  .call (.create { name := .text "new", apiUrl := .text "https://new.example" }),
  .call (.select (.text "new"))]

def start : Session := ⟨(openFolder .empty {}).disk, ⟨{}, [], none⟩⟩

theorem plain_swapping : ∀ m ∈ swapping ++ [.reopen], m.Plain := by
  have old : PlainName "old" := ⟨by decide, by decide, forall_mem_of_all (by decide)⟩
  have new : PlainName "new" := ⟨by decide, by decide, forall_mem_of_all (by decide)⟩
  simp only [swapping, List.cons_append, List.nil_append, List.forall_mem_cons, Move.Plain, Call.Plain,
    Value.text.injEq]
  exact ⟨fun n same => same ▸ old, fun n same => same ▸ new, trivial, trivial, List.forall_mem_nil _⟩

theorem outcome_append (ms ms' : List Move) :
    outcome σ g (ms ++ ms') = (outcome σ g ms).bind fun x => outcome x.1 x.2 ms' := by
  induction ms generalizing σ g with
  | nil => rfl
  | cons m ms ih =>
    rw [List.cons_append, outcome, outcome, Option.bind_assoc]
    simp only [ih]

/-- Where the moves lead that end with the folder opened again. -/
theorem outcome_swapping : ∃ τ g p, outcome start {} (swapping ++ [.reopen]) = some (τ, g) ∧
    τ.store.lookup (.text "old") = .ok p ∧ p.active = true ∧ τ.store.selected = some "new" := by
  have begun : Accords ["tmp", "work"] start {} := (accords_start rfl vacant_empty rfl).1
  obtain ⟨σ, g, called, selected, old, new, lengths, first⟩ : ∃ σ g,
      outcome start {} swapping = some (σ, g) ∧ σ.store.selected = some "new" ∧
        σ.store.has "old" = true ∧ σ.store.has "new" = true ∧
          σ.store.profiles.all (fun p => p.baseUrl.length ≤ WebAddress.maxLength) = true ∧
            g.first "old" = true := ⟨_, _, rfl, rfl, rfl, rfl, rfl, rfl⟩
  have plain := fun m hm => plain_swapping m (List.mem_append_left _ hm)
  obtain ⟨log, t, opened, re, kept⟩ := (begun.run plain called).kept.openFolder_eq
  have short : σ.store.Short := fun p hp => of_decide_eq_true (List.all_eq_true.1 lengths p hp)
  obtain ⟨p, hp, named⟩ := has_iff.1 ((re.has_iff_has short).2 old)
  have moved : σ.move .reopen = some ⟨σ.disk, t⟩ := by
    unfold Session.move
    dsimp only
    rw [opened]
  refine ⟨⟨σ.disk, t⟩, g.next σ .reopen, p, ?_, (lookup_iff kept.orderly.distinct).2 ⟨hp, named⟩,
    ?_, ?_⟩
  · rw [outcome_append, called]
    change (σ.move .reopen).bind _ = _
    rw [moved]
    rfl
  · rw [re.asFiled p hp, named, first]
  · change t.selected = _
    rw [re.selected, selected, Option.filter_some, if_pos ((re.has_iff_has short).2 new)]

theorem active_iff_selected_iff_swapping : ∃ τ g,
    outcome start {} (swapping ++ [.reopen]) = some (τ, g) ∧
      ((∀ n p, τ.store.lookup (.text n) = .ok p →
        (p.active = true ↔ τ.store.selected = some n)) ↔
          g.inStep = true ∨ ∀ n p, τ.store.lookup (.text n) = .ok p →
            (g.first p.name = true ↔ τ.store.selected = some n)) := by
  obtain ⟨τ, g, -, ran, -⟩ := outcome_swapping
  exact ⟨τ, g, ran, active_iff_selected_iff rfl vacant_empty rfl plain_swapping ran⟩

/-- After a selection and a fresh start a profile is flagged that is not the one in use. -/
theorem not_active_iff_selected : ∃ τ g p,
    (∀ m ∈ swapping ++ [.reopen], m.Plain) ∧ outcome start {} (swapping ++ [.reopen]) = some (τ, g) ∧
      τ.store.lookup (.text "old") = .ok p ∧
        ¬ (p.active = true ↔ τ.store.selected = some "old") := by
  obtain ⟨τ, g, p, ran, found, active, selected⟩ := outcome_swapping
  refine ⟨τ, g, p, plain_swapping, ran, found, fun same => ?_⟩
  rw [same.1 active] at selected
  exact absurd selected (by decide)

/-! ### Runs without a selection before an opening -/

def Move.Selects : Move → Prop
  | .call (.select _) => True
  | _ => False

/-- What is in the files tells the selection also of what is loaded from them. -/
theorem Reloaded.tells (re : Reloaded s t flags) (h : Tells (fun p => flags p.name) s) :
    Tells (fun p => flags p.name) t := by
  intro q hq
  obtain ⟨p, hp, same⟩ := re.profiles q hq
  have named : q.name = p.name := (Profile.toFields_inj.1 same).1
  have there : t.has p.name = true := has_iff.2 ⟨q, hq, named⟩
  have own := h p hp
  dsimp only at own ⊢
  rw [named, own, re.selected, Option.filter_eq_some_iff, and_iff_left there]

/-- Without a selection the flags in the files keep telling what is selected. -/
theorem Accords.tells_next (h : Accords place σ g) (plain : m.Plain) (moved : σ.move m = some τ)
    (other : ¬ m.Selects) (tells : Tells (fun p => g.first p.name) σ.store) :
    Tells (fun p => (g.next σ m).first p.name) τ.store := by
  obtain ⟨-, what⟩ := h.kept.move_cases plain moved
  rcases m with (t | name | name) | _
  · obtain ⟨p, new, active, store, past⟩ := what
    rw [past, store]
    refine tells.enroll new (fun q hq => ?_) ?_ h.kept.orderly.chosen
    · exact Function.update_of_ne (has_eq_false_iff.1 new q hq) _ _
    · exact (Function.update_self _ _ _).trans active
  · exact absurd trivial other
  · obtain ⟨n, store⟩ := what
    rw [store]
    exact tells.remove n
  · exact what.tells tells

theorem inStep_of_selects (h : m.Selects) : (g.next σ m).inStep = true := by
  rcases m with (t | name | name) | _
  · exact h.elim
  · rfl
  · exact h.elim
  · exact h.elim

theorem inStep_next (other : m ≠ .reopen) (h : g.inStep = true) : (g.next σ m).inStep = true := by
  rcases m with (t | name | name) | _
  · rw [Past.next]
    split
    · exact h
    · exact h
  · rfl
  · exact h
  · exact absurd rfl other

theorem Accords.tells_run {ms : List Move} {g' : Past} (h : Accords place σ g)
    (plain : ∀ m ∈ ms, m.Plain) (late : ms.Pairwise fun m m' => m.Selects → m' ≠ .reopen)
    (ran : outcome σ g ms = some (τ, g'))
    (before : Tells (fun p => g.first p.name) σ.store ∨ g.inStep = true ∧ Move.reopen ∉ ms) :
    Tells Profile.active τ.store := by
  -- until something is selected the files tell the selection, and after that nothing is loaded
  induction ms generalizing σ g with
  | nil =>
    obtain ⟨rfl, rfl⟩ := Prod.mk.inj (Option.some.inj ran)
    exact h.tells_iff.2 (before.symm.imp_left And.left)
  | cons m ms ih =>
    obtain ⟨ρ, moved, ran⟩ := Option.bind_eq_some_iff.1 ran
    obtain ⟨first, later⟩ := List.pairwise_cons.1 late
    have next := h.next (plain m List.mem_cons_self) moved
    refine ih next (fun m hm => plain m (List.mem_cons_of_mem _ hm)) later ran ?_
    by_cases selects : m.Selects
    · refine .inr ⟨inStep_of_selects selects, fun again => ?_⟩
      exact first _ again selects rfl
    · refine before.imp (h.tells_next (plain m List.mem_cons_self) moved selects) ?_
      rintro ⟨inStep, never⟩
      obtain ⟨other, never⟩ := List.ne_and_not_mem_of_not_mem_cons never
      exact ⟨inStep_next other.symm inStep, never⟩

/-- If no folder is opened after a selection, the flags always tell which profile is in use. -/
theorem active_iff_selected (found : d.find folder = .ok (place, some .folder))
    (vacant : d.Vacant place) (opened : (openFolder d folder).result = .ok s) {ms : List Move}
    (plain : ∀ m ∈ ms, m.Plain) (late : ms.Pairwise fun m m' => m.Selects → m' ≠ .reopen) {g : Past}
    (ran : outcome ⟨(openFolder d folder).disk, s⟩ {} ms = some (τ, g)) {n : String}
    (handed : τ.store.lookup (.text n) = .ok p) :
    p.active = true ↔ τ.store.selected = some n := by
  obtain ⟨accords, none'⟩ := accords_start found vacant opened
  have nothing : Tells (fun p => (({} : Past).first p.name)) s := by
    rw [Tells, none']
    exact List.forall_mem_nil _
  have distinct := (accords.run plain ran).kept.orderly.distinct
  exact (tells_iff distinct).1 (accords.tells_run plain late ran (.inl nothing)) n p handed

end PageSkins.ProfileStore
