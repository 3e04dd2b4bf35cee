import Mathlib.Data.List.Nodup
import PageSkins.Proofs.ProfileStore.Loading

/-!
# Folders that are opened again

Whatever calls were made on a store whose folder was empty at first, and whether they succeeded
or not, a store that is opened on the same folder afterwards lists the same profiles, has the
same one in use, and knows the same tokens.
-/

namespace PageSkins

open PageSkins.Text

/-! ### Empty folders -/

def Disk.Vacant (d : Disk) (place : List String) : Prop :=
  ∀ x ∈ d.entries, place <+: x.1 → x.1 = place

namespace ProfileStore

variable {d : Disk} {folder : Path} {place : List String} {s t : ProfileStore}
  {flags : String → Bool}

theorem at?_of_vacant (vacant : d.Vacant place) {n : String} {rest : List String} :
    d.at? (place ++ n :: rest) = none := by
  have inside : place ++ n :: rest ≠ [] := List.append_ne_nil_of_right_ne_nil _ (List.cons_ne_nil _ _)
  rw [← Option.not_isSome_iff_eq_none, ← Disk.mem_keys_iff inside]
  intro there
  obtain ⟨x, hx, same⟩ := List.mem_map.1 there
  have here := vacant x hx (same ▸ List.prefix_append _ _)
  rw [here] at same
  have length := congrArg List.length same
  simp at length

/-- Once the folder of the profiles has been made, it is empty as well. -/
theorem names_of_vacant (vacant : d.Vacant place) :
    (d.set (profilesPlace place) .folder).names (profilesPlace place) ".json" = [] := by
  refine List.eq_nil_iff_forall_not_mem.2 fun n hn => ?_
  have there := (Disk.mem_names_iff.1 hn).1
  rw [Disk.at?_set profilesPlace_ne_nil, if_neg (inside_ne_profilesPlace n), profilesPlace,
    List.append_assoc, List.singleton_append, at?_of_vacant vacant] at there
  cases there

theorem find_of_vacant (found : d.find folder = .ok (place, some .folder))
    (vacant : d.Vacant place) :
    (d.set (profilesPlace place) .folder).find folder = .ok (place, some .folder) := by
  have unused : d.at? (profilesPlace place) = none := at?_of_vacant vacant
  have keeps : d.KeepsFolders (d.set (profilesPlace place) .folder) := by
    refine Disk.keepsFolders_set profilesPlace_ne_nil ?_
    rw [unused]
    rintro ⟨⟩
  exact Disk.find_keeps keeps (Disk.workplace_set _ _) found

theorem config_of_vacant (vacant : d.Vacant place) :
    (d.set (profilesPlace place) .folder).at? (configPlace place) = none := by
  rw [Disk.at?_set profilesPlace_ne_nil, if_neg profilesPlace_ne_configPlace.symm]
  exact at?_of_vacant vacant

theorem kept_of_vacant (found : d.find folder = .ok (place, some .folder))
    (vacant : d.Vacant place) (flags : String → Bool) :
    Kept (d.set (profilesPlace place) .folder) place ⟨folder, [], none⟩ flags := by
  have absent := config_of_vacant vacant
  have empty := names_of_vacant vacant
  refine ⟨⟨find_of_vacant found vacant, ?_, ?_, ?_, ?_, ?_⟩, ⟨?_, ?_, ?_, ?_⟩,
    .inl ⟨absent, rfl, rfl⟩⟩
  · rw [Disk.at?_set profilesPlace_ne_nil, if_pos rfl]
  · rw [absent]
    rintro ⟨⟩
  · exact List.forall_mem_nil _
  · rw [empty]
    exact List.forall_mem_nil _
  · rw [empty]
    exact List.nodup_nil
  · exact List.forall_mem_nil _
  · exact List.forall_mem_nil _
  · exact List.nodup_nil
  · intro n chosen
    cases chosen

/-- An empty folder is opened as a store without profiles, and it keeps that store. -/
theorem openFolder_vacant (found : d.find folder = .ok (place, some .folder))
    (vacant : d.Vacant place) : ∃ d', openFolder d folder = ⟨d', [], .ok ⟨folder, [], none⟩⟩ ∧
      ∀ flags, Kept d' place ⟨folder, [], none⟩ flags := by
  refine ⟨d.set (profilesPlace place) .folder, ?_, kept_of_vacant found vacant⟩
  have made := Disk.makeFolder_new found fileName_profiles (at?_of_vacant vacant)
  have seen := Disk.has_child (find_of_vacant found vacant) fileName_config
  rw [← configPlace, config_of_vacant vacant] at seen
  rw [openFolder, Disk.makeFolders_of_find found]
  dsimp only
  rw [profilesFolder, made]
  dsimp only
  rw [load, configFile, ← profilesPlace, seen]
  rfl

/-! ### Calls -/

inductive Call where
  | create (t : Terms)
  | select (name : Value)
  | delete (name : Value)

/-- What comes of a call. What is returned of a new profile does not matter here. -/
def Call.change : Call → Change Unit
  | .create t => do
    let _ ← ProfileStore.create t
  | .select name => ProfileStore.select name
  | .delete name => ProfileStore.delete name

def Session.call (σ : Session) (c : Call) : Session := (c.change.run σ).2

def Session.calls (σ : Session) (cs : List Call) : Session := cs.foldl Session.call σ

/-- A call that gives a profile no other name than a plain one. -/
def Call.Plain : Call → Prop
  | .create t => ∀ n, t.name = .text n → PlainName n
  | .select _ | .delete _ => True

/-- A call that gives a profile no address whose normal form is too long. -/
def Call.Short : Call → Prop
  | .create t => ∀ s u, t.apiUrl = .text s → WebAddress.read s.toList = .ok u →
    u.length ≤ WebAddress.maxLength
  | .select _ | .delete _ => True

variable {σ : Session} {c : Call}

/-- A call leaves all as it was, or the change of the store that it stands for is kept. -/
theorem Kept.call_cases (h : Kept σ.disk place σ.store flags) (plain : c.Plain) :
    (∃ e, c.change.run σ = (.error e, σ)) ∨ ∃ d s, c.change.run σ = (.ok (), ⟨d, s⟩) ∧
      match c with
      | .create t => ∃ p, made σ.store t = .ok p ∧ s = σ.store.enroll p ∧
        Kept d place s (Function.update flags p.name p.active)
      | .select name => ∃ p, σ.store.lookup name = .ok p ∧ s = σ.store.choose p.name ∧
        Kept d place s flags
      | .delete name => ∃ p, σ.store.lookup name = .ok p ∧ s = σ.store.remove p.name ∧
        Kept d place s flags := by
  cases c with
  | create t =>
    change (∃ e, (ProfileStore.create t >>= fun _ => pure () : Change Unit).run σ = _) ∨
      ∃ d s, (ProfileStore.create t >>= fun _ => pure () : Change Unit).run σ = _ ∧ _
    rw [run_bind_eq]
    rcases h.create_cases plain with ⟨e, refused⟩ | ⟨p, d, result, done, kept⟩
    · exact .inl ⟨e, by rw [refused]⟩
    · exact .inr ⟨d, _, by rw [done]; rfl, p, result, rfl, kept⟩
  | select name =>
    rcases h.select_cases name with ⟨e, refused⟩ | ⟨p, d, found, done, kept⟩
    · exact .inl ⟨e, refused⟩
    · exact .inr ⟨d, _, done, p, found, rfl, kept⟩
  | delete name =>
    rcases h.delete_cases name with ⟨e, refused⟩ | ⟨p, d, found, done, kept⟩
    · exact .inl ⟨e, refused⟩
    · exact .inr ⟨d, _, done, p, found, rfl, kept⟩

/-! ### What is listed -/

theorem pairwise_name_sorted (s : ProfileStore) : (s.sorted.map Profile.name).Pairwise (· ≤ ·) := by
  have sorted : s.sorted.Pairwise fun p q => decide (p.name ≤ q.name) = true := by
    refine List.pairwise_mergeSort (fun p q r first second => ?_) (fun p q => ?_) s.profiles
    · exact decide_eq_true (String.le_trans (of_decide_eq_true first) (of_decide_eq_true second))
    · rw [Bool.or_eq_true, decide_eq_true_eq, decide_eq_true_eq]
      exact String.le_total _ _
  exact List.pairwise_map.2 (sorted.imp of_decide_eq_true)

theorem sorted_perm (s : ProfileStore) : s.sorted.Perm s.profiles := List.mergeSort_perm _ _

/-- Stores with the same names list the same, if they show the same under each name. -/
theorem list_eq (names : (t.profiles.map Profile.name).Perm (s.profiles.map Profile.name))
    (shown : ∀ q ∈ t.profiles, ∀ p ∈ s.profiles, q.name = p.name →
      q.shown t.selected = p.shown s.selected) : t.list = s.list := by
  have perm : (t.sorted.map Profile.name).Perm (s.sorted.map Profile.name) :=
    (t.sorted_perm.map _).trans (names.trans (s.sorted_perm.map _).symm)
  have order : t.sorted.map Profile.name = s.sorted.map Profile.name :=
    perm.eq_of_pairwise (fun a b _ _ => String.le_antisymm) t.pairwise_name_sorted
      s.pairwise_name_sorted
  exact map_eq_map_of_keys order fun q hq p hp same =>
    shown q (t.sorted_perm.subset hq) p (s.sorted_perm.subset hp) same

/-! ### What is loaded of short addresses -/

/-- Every address is short enough to be read again. -/
def Short (s : ProfileStore) : Prop := ∀ p ∈ s.profiles, p.baseUrl.length ≤ WebAddress.maxLength

namespace Reloaded

variable (re : Reloaded s t flags)
include re

theorem has_iff_has (short : s.Short) {n : String} : t.has n = true ↔ s.has n = true := by
  constructor
  · intro there
    obtain ⟨q, hq, rfl⟩ := has_iff.1 there
    obtain ⟨p, hp, same⟩ := re.profiles q hq
    exact has_iff.2 ⟨p, hp, (Profile.toFields_inj.1 same).1.symm⟩
  · intro there
    obtain ⟨p, hp, rfl⟩ := has_iff.1 there
    exact re.short p hp (short p hp)

theorem selected_eq (short : s.Short) (orderly : s.Orderly) : t.selected = s.selected := by
  rw [re.selected]
  cases chosen : s.selected with
  | none => rfl
  | some n => rw [Option.filter_some, if_pos ((re.has_iff_has short).2 (orderly.chosen n chosen))]

theorem names_perm (short : s.Short) (orderly : s.Orderly) (orderly' : t.Orderly) :
    (t.profiles.map Profile.name).Perm (s.profiles.map Profile.name) := by
  rw [List.perm_ext_iff_of_nodup orderly'.distinct orderly.distinct]
  intro n
  rw [List.mem_map, List.mem_map, ← has_iff, ← has_iff]
  exact re.has_iff_has short

/-- A profile is loaded as it was but for its flag and the spelling of its address. -/
theorem toFields_eq (orderly : s.Orderly) {p q : Profile} (hp : p ∈ s.profiles) (hq : q ∈ t.profiles)
    (named : q.name = p.name) : q.toFields = { p with active := flags p.name }.toFields := by
  obtain ⟨p', hp', same⟩ := re.profiles q hq
  have other : p'.name = p.name := (Profile.toFields_inj.1 same).1.symm.trans named
  obtain rfl := List.inj_on_of_nodup_map orderly.distinct hp' hp other
  exact same

theorem list_eq (short : s.Short) (orderly : s.Orderly) (orderly' : t.Orderly) :
    t.list = s.list := by
  refine ProfileStore.list_eq (re.names_perm short orderly orderly') fun q hq p hp named => ?_
  obtain ⟨name, url, token, timeout, retries, -⟩ :=
    Profile.toFields_inj.1 (re.toFields_eq orderly hp hq named)
  unfold Profile.shown
  rw [re.selected_eq short orderly, name, url, token, timeout, retries]
  rfl

theorem token_eq (short : s.Short) (orderly : s.Orderly) (n : String) :
    (t.find? n).map Profile.accessToken = (s.find? n).map Profile.accessToken := by
  have there := re.has_iff_has short (n := n)
  unfold has at there
  cases old : s.find? n with
  | none =>
    rw [old] at there
    rw [Option.not_isSome_iff_eq_none.1 (mt there.1 Bool.false_ne_true)]
  | some p =>
    rw [old] at there
    obtain ⟨q, new⟩ := Option.isSome_iff_exists.1 (there.2 rfl)
    have same := re.toFields_eq orderly (List.mem_of_find?_eq_some old) (List.mem_of_find?_eq_some new)
      ((name_of_find? new).trans (name_of_find? old).symm)
    rw [new, Option.map_some, Option.map_some, (Profile.toFields_inj.1 same).2.2.1]

end Reloaded

/-! ### Calls on a store that is kept -/

/-- What a call keeps up: the folder keeps the store, and no address is too long. -/
theorem Kept.call (h : Kept σ.disk place σ.store flags) (short : σ.store.Short) (plain : c.Plain)
    (fits : c.Short) : (∃ flags, Kept (σ.call c).disk place (σ.call c).store flags) ∧
      (σ.call c).store.Short ∧ (σ.call c).store.folder = σ.store.folder := by
  unfold Session.call
  rcases h.call_cases plain with ⟨e, refused⟩ | ⟨d, s, done, what⟩
  · rw [refused]
    exact ⟨⟨flags, h⟩, short, rfl⟩
  rw [done]
  cases c with
  | create t =>
    obtain ⟨p, result, rfl, kept⟩ := what
    obtain ⟨-, new, ⟨u, url, read⟩, -, -⟩ := of_made result
    have address : p.baseUrl.length ≤ WebAddress.maxLength :=
      Nat.le_trans (WebAddress.length_withoutSlashes _) (fits u _ url read)
    refine ⟨⟨_, kept⟩, ?_, ?_⟩
    · dsimp only
      rw [enroll_eq new]
      exact List.forall_mem_append.2 ⟨short, List.forall_mem_singleton.2 address⟩
    · dsimp only
      rw [enroll_eq new]
  | select name =>
    obtain ⟨p, -, rfl, kept⟩ := what
    refine ⟨⟨_, kept⟩, ?_, rfl⟩
    intro q hq
    obtain ⟨q', hq', rfl⟩ := List.mem_map.1 hq
    exact short q' hq'
  | delete name =>
    obtain ⟨p, -, rfl, kept⟩ := what
    exact ⟨⟨_, kept⟩, fun q hq => short q (mem_remove.1 hq).1, rfl⟩

/-- The same for any number of calls. -/
theorem Kept.calls {cs : List Call} (h : Kept σ.disk place σ.store flags) (short : σ.store.Short)
    (plain : ∀ c ∈ cs, c.Plain) (fits : ∀ c ∈ cs, c.Short) :
    (∃ flags, Kept (σ.calls cs).disk place (σ.calls cs).store flags) ∧
      (σ.calls cs).store.Short ∧ (σ.calls cs).store.folder = σ.store.folder := by
  induction cs generalizing σ flags with
  | nil => exact ⟨⟨flags, h⟩, short, rfl⟩
  | cons c cs ih =>
    obtain ⟨⟨flags', kept⟩, short', same⟩ :=
      h.call short (plain c List.mem_cons_self) (fits c List.mem_cons_self)
    obtain ⟨kept'', short'', same'⟩ := ih kept short' (fun c hc => plain c (List.mem_cons_of_mem _ hc))
      fun c hc => fits c (List.mem_cons_of_mem _ hc)
    exact ⟨kept'', short'', same'.trans same⟩

/-- An empty folder is opened, calls with plain names and short addresses are made, of which any
may be refused, and the folder is opened again: that succeeds, the same profiles are listed, the
same one is in use, and each has the same token. -/
theorem reopened_of_calls (found : d.find folder = .ok (place, some .folder))
    (vacant : d.Vacant place) {cs : List Call} (plain : ∀ c ∈ cs, c.Plain)
    (fits : ∀ c ∈ cs, c.Short) : ∃ s, (openFolder d folder).result = .ok s ∧
      let σ := (⟨(openFolder d folder).disk, s⟩ : Session).calls cs
      ∃ t, (openFolder σ.disk folder).result = .ok t ∧ t.list = σ.store.list ∧
        t.selected = σ.store.selected ∧
          ∀ n, (t.find? n).map Profile.accessToken = (σ.store.find? n).map Profile.accessToken := by
  obtain ⟨d', opened, kept⟩ := openFolder_vacant found vacant
  refine ⟨⟨folder, [], none⟩, by rw [opened], ?_⟩
  rw [opened]
  let first : Session := ⟨d', ⟨folder, [], none⟩⟩
  have start : Kept first.disk place first.store fun _ => false := kept _
  obtain ⟨⟨flags, kept⟩, short, same⟩ := start.calls (List.forall_mem_nil _) plain fits
  obtain ⟨log, t, again, re, kept'⟩ := kept.openFolder_eq
  rw [same] at again
  refine ⟨t, ?_, re.list_eq short kept.orderly kept'.orderly, re.selected_eq short kept.orderly,
    re.token_eq short kept.orderly⟩
  rw [again]

/-- Two profiles are made and the second one is taken into use; then the first one is removed,
and a name is asked for that there is not. -/
def moving : List Call := [
  .create { name := .text "old-blog", apiUrl := .text "HTTP://Old.example:80/x/../" },
  .create { name := .text "new_blog.2", apiUrl := .text "https://new.example", accessToken := .text " t " },
  .select (.text "new_blog.2"),
  .delete (.text "old-blog"),
  .select (.text "old-blog")]

theorem plain_moving : ∀ c ∈ moving, c.Plain := by
  have old : PlainName "old-blog" := ⟨by decide, by decide, forall_mem_of_all (by decide)⟩
  have new : PlainName "new_blog.2" := ⟨by decide, by decide, forall_mem_of_all (by decide)⟩
  simp only [moving, List.forall_mem_cons, Call.Plain, Value.text.injEq]
  exact ⟨fun n same => same ▸ old, fun n same => same ▸ new, trivial, trivial, trivial, nofun⟩

theorem short_moving : ∀ c ∈ moving, c.Short := by
  have old : WebAddress.read "HTTP://Old.example:80/x/../".toList = .ok "http://old.example/" := rfl
  have new : WebAddress.read "https://new.example".toList = .ok "https://new.example/" := rfl
  simp only [moving, List.forall_mem_cons, Call.Short, Value.text.injEq]
  refine ⟨?_, ?_, trivial, trivial, trivial, nofun⟩
  · rintro s u rfl read
    obtain rfl := Except.ok.inj (old.symm.trans read)
    decide
  · rintro s u rfl read
    obtain rfl := Except.ok.inj (new.symm.trans read)
    decide

theorem vacant_empty : Disk.empty.Vacant ["tmp", "work"] := by
  unfold Disk.Vacant
  decide

theorem reopened_of_moving : Disk.empty.find {} = .ok (["tmp", "work"], some .folder) ∧
    Disk.empty.Vacant ["tmp", "work"] ∧ (∀ c ∈ moving, c.Plain) ∧ (∀ c ∈ moving, c.Short) ∧
      ∃ s, (openFolder .empty {}).result = .ok s ∧
        let σ := (⟨(openFolder .empty {}).disk, s⟩ : Session).calls moving
        ∃ t, (openFolder σ.disk {}).result = .ok t ∧ t.list = σ.store.list ∧
          t.selected = σ.store.selected ∧
            ∀ n, (t.find? n).map Profile.accessToken = (σ.store.find? n).map Profile.accessToken :=
  ⟨rfl, vacant_empty, plain_moving, short_moving,
    reopened_of_calls rfl vacant_empty plain_moving short_moving⟩

end ProfileStore

end PageSkins
