import PageSkins.CommandLine.Run
import PageSkins.Proofs.Failing
import PageSkins.Proofs.ProfileStore

/-!
# The backend that a command talks to

A profile is chosen first: the one that is named, or else that of the environment, or else
the one in use. The client is made for it, but where the environment has an address, the
client takes that one, as it is spelled there. So the client talks to the chosen profile's
backend exactly if that address is the profile's own.
-/

namespace PageSkins

namespace CommandLine

/-- Which profile a command is meant to work with. -/
inductive Chosen (s : ProfileStore) (e : Environment) : Option String → Profile → Prop where
  | named {name : String} {p : Profile} (given : name ≠ "") (found : s.find? name = some p) :
    Chosen s e (some name) p
  | environment {name : Option String} {url : String} {p : Profile}
    (unnamed : name = none ∨ name = some "") (set : e.apiUrl? = some url)
    (described : ProfileStore.ofEnvironment e = .ok p) : Chosen s e name p
  | inUse {name : Option String} {selected : String} {p : Profile}
    (unnamed : name = none ∨ name = some "") (unset : e.apiUrl? = none)
    (used : s.selected = some selected) (given : selected ≠ "")
    (found : s.find? selected = some p) : Chosen s e name p

variable {s : ProfileStore} {e : Environment} {name : Option String} {p : Profile}

theorem isTruthy_elim_iff : (name.elim Value.null .text).isTruthy = true ↔ ∃ n, name = some n ∧ n ≠ "" := by
  cases name with
  | none => simp [Value.isTruthy]
  | some n => simp [Value.isTruthy]

theorem resolve_eq_ok_iff :
    s.resolve e (name.elim .null .text) = .ok p ↔ Chosen s e name p := by
  unfold ProfileStore.resolve
  by_cases given : ∃ n, name = some n ∧ n ≠ ""
  · rw [if_pos (isTruthy_elim_iff.2 given)]
    obtain ⟨n, rfl, given⟩ := given
    change s.lookup (.text n) = .ok p ↔ _
    rw [ProfileStore.lookup_text_eq_ok]
    constructor
    · exact .named given
    · rintro (⟨-, found⟩ | ⟨unnamed, -, -⟩ | ⟨unnamed, -, -, -, -⟩)
      · exact found
      · simp [given] at unnamed
      · simp [given] at unnamed
  · rw [if_neg (mt isTruthy_elim_iff.1 given)]
    have unnamed : name = none ∨ name = some "" := by
      cases name with
      | none => exact .inl rfl
      | some n => exact .inr (by simpa using given)
    cases set : e.apiUrl? with
    | some url =>
      constructor
      · intro described
        exact .environment unnamed set described
      · rintro (⟨given', -⟩ | ⟨-, -, described⟩ | ⟨-, unset, -, -, -⟩)
        · simp [given'] at unnamed
        · exact described
        · rw [set] at unset
          cases unset
    | none =>
      rw [if_neg (by simp), ProfileStore.inUse_eq_ok]
      constructor
      · rintro ⟨n, used, given, found⟩
        exact .inUse unnamed set used given found
      · rintro (⟨given', -⟩ | ⟨-, set', -⟩ | ⟨-, -, used, given, found⟩)
        · simp [given'] at unnamed
        · rw [set] at set'
          cases set'
        · exact ⟨_, used, given, found⟩

theorem Chosen.valid (h : Chosen s e name p) (sound : s.Sound) : p.Valid := by
  cases h with
  | named _ found => exact sound.find? found
  | environment _ _ described => exact ProfileStore.valid_of_ofEnvironment described
  | inUse _ _ _ _ found => exact sound.find? found

/-! ### Making a client -/

namespace Act

variable {σ α β : Type} {setting : Setting σ} {x y : Session σ}

theorem ofExcept_eq_ok {r : Except Failure α} {a : α} :
    (ofExcept r setting).run x = (.ok a, y) ↔ r = .ok a ∧ y = x := by
  cases r with
  | ok b =>
    change ((Except.ok b, x) : Except Stop α × Session σ) = (.ok a, y) ↔ _
    simp [eq_comm]
  | error f =>
    change ((Except.error (.failed f), x) : Except Stop α × Session σ) = (.ok a, y) ↔ _
    simp

theorem bind_eq_ok {a : Act σ α} {f : α → Act σ β} {b : β} :
    ((a >>= f) setting).run x = (.ok b, y) ↔
      ∃ v z, (a setting).run x = (.ok v, z) ∧ (f v setting).run z = (.ok b, y) :=
  run_bind_eq_ok

theorem run_fail_bind_ne {b : β} (f : Failure) (next : α → Act σ β) :
    ((fail f >>= next) setting).run x ≠ (.ok b, y) := fun h => by
  obtain ⟨_, _, ⟨⟩, -⟩ := bind_eq_ok.1 h

theorem checked_eq_ok {r : Checked α} {topic : Topic} {message : String} {a : α} :
    (checked r topic message setting).run x = (.ok a, y) ↔ r = .ok a ∧ y = x := by
  cases r with
  | ok b =>
    change ((Except.ok b, x) : Except Stop α × Session σ) = (.ok a, y) ↔ _
    simp [eq_comm]
  | bad issues =>
    change ((Except.error _, x) : Except Stop α × Session σ) = (.ok a, y) ↔ _
    simp

/-- The profile of a client is the chosen one, or what passes the check with other limits. -/
theorem exists_of_clientProfile {g : Globals} {p : Profile}
    (h : (clientProfile g setting).run x = (.ok p, y)) : y = x ∧ ∃ chosen,
      x.store.resolve setting.environment (g.profile.elim .null .text) = .ok chosen ∧
      (p = chosen ∨ ∃ fs : Fields, fs.find? "api_url" = some (.text chosen.baseUrl) ∧
        Profile.check fs = .ok p) := by
  obtain ⟨_, _, ⟨⟩, h⟩ := bind_eq_ok.1 h
  obtain ⟨_, _, ⟨⟩, h⟩ := bind_eq_ok.1 h
  cases found : x.store.resolve setting.environment (g.profile.elim .null .text) with
  | error f =>
    rw [found] at h
    cases f with
    | refused topic m details issues =>
      cases topic <;> exact absurd h (run_fail_bind_ne _ _)
    | _ => exact absurd h (run_fail_bind_ne _ _)
  | ok chosen =>
    rw [found] at h
    obtain ⟨_, _, ⟨⟩, h⟩ := bind_eq_ok.1 h
    dsimp only at h
    split at h
    · obtain ⟨⟩ := h
      exact ⟨rfl, p, rfl, .inl rfl⟩
    · obtain ⟨made, rfl⟩ := checked_eq_ok.1 h
      refine ⟨rfl, chosen, rfl, .inr ⟨_, ?_, made⟩⟩
      cases g.timeout with
      | none =>
        cases g.retries with
        | none => rfl
        | some n => rfl
      | some m =>
        cases g.retries with
        | none => rfl
        | some n => rfl

theorem url_of_forUrl {url : String} {token : Option String} {timeout : Decimal.Number}
    {retries : Int} {c : Backend.Client}
    (h : Backend.Client.forUrl url token timeout retries = .ok c) :
    c.url = WebAddress.withoutSlashes url := by
  obtain ⟨credentials, -, made⟩ := ok_of_bind h
  cases made
  rfl

theorem url_of_ofProfile {c : Backend.Client} (h : Backend.Client.ofProfile e p = .ok c) :
    c.url = e.apiUrl?.elim p.baseUrl WebAddress.withoutSlashes := by
  rw [url_of_forUrl h]
  cases e.apiUrl? with
  | none => rfl
  | some url => rfl

end Act

/-- The client of a command is for the backend of the one profile that is chosen, unless the
environment has an address: then it is for that address as it stands there, also where another
profile was asked for by name. -/
theorem client_url {σ : Type} {setting : Setting σ} {x y : Session σ} {g : Globals}
    {c : Backend.Client} (sound : x.store.Sound) (made : (Act.client g setting).run x = (.ok c, y)) :
    ∃ p, (∀ q, Chosen x.store setting.environment g.profile q ↔ q = p) ∧
      c.url = setting.environment.apiUrl?.elim p.baseUrl WebAddress.withoutSlashes ∧
      (c.url = p.baseUrl ↔
        ∀ url ∈ setting.environment.apiUrl?, WebAddress.withoutSlashes url = p.baseUrl) := by
  obtain ⟨p, _, chosen, h⟩ := Act.bind_eq_ok.1 made
  obtain ⟨rfl, p', resolved, same⟩ := Act.exists_of_clientProfile chosen
  obtain ⟨_, _, ⟨⟩, h⟩ := Act.bind_eq_ok.1 h
  obtain ⟨h, -⟩ := Act.ofExcept_eq_ok.1 h
  have base : p.baseUrl = p'.baseUrl := by
    rcases same with rfl | ⟨fs, kept, checked⟩
    · rfl
    · exact Profile.baseUrl_of_check ((resolve_eq_ok_iff.1 resolved).valid sound) kept checked
  have url := Act.url_of_ofProfile h
  rw [base] at url
  refine ⟨p', fun q => ?_, url, ?_⟩
  · rw [← resolve_eq_ok_iff, resolved]
    exact ⟨fun h => (Except.ok.inj h).symm, fun h => congrArg _ h.symm⟩
  · rw [url]
    cases setting.environment.apiUrl? with
    | none => simp
    | some url => simp

def namedOptions : Globals := { profile := some "prod", timeout := some 60 }

def elsewhere : Setting Unit where
  environment := ⟨[(Environment.urlName, "https://b.example/env/")]⟩
  serve := fun _ s => (.error (.invalid []), s)
  now := .int 0
  year := 2026

def prod : Profile := { name := "prod", apiUrl := "https://a.example/prod" }

def atProd : Session Unit where
  disk := ⟨[], []⟩
  store := ⟨{}, [prod], some "prod"⟩
  server := ()

theorem sound_atProd : atProd.store.Sound := by
  intro p hp
  obtain rfl := List.mem_singleton.1 hp
  have read : WebAddress.read prod.apiUrl.toList = .ok prod.apiUrl := rfl
  exact ⟨⟨_, read⟩, nofun, by decide, by decide⟩

theorem client_url_prod : atProd.store.Sound ∧
    ∃ c y, (Act.client namedOptions elsewhere).run atProd = (.ok c, y) ∧
      ∃ p, (∀ q, Chosen atProd.store elsewhere.environment namedOptions.profile q ↔ q = p) ∧
        c.url = elsewhere.environment.apiUrl?.elim p.baseUrl WebAddress.withoutSlashes ∧
        (c.url = p.baseUrl ↔
          ∀ url ∈ elsewhere.environment.apiUrl?, WebAddress.withoutSlashes url = p.baseUrl) :=
  ⟨sound_atProd, _, _, rfl, client_url sound_atProd rfl⟩

/-- A client for the profile that was asked for by name talks to another backend. -/
theorem not_client_url_named : ∃ c y p,
    (Act.client namedOptions elsewhere).run atProd = (.ok c, y) ∧
      Chosen atProd.store elsewhere.environment namedOptions.profile p ∧
      p.baseUrl = "https://a.example/prod" ∧ c.url = "https://b.example/env" :=
  ⟨_, _, prod, rfl, .named (by decide) rfl, rfl, rfl⟩

end CommandLine
end PageSkins
