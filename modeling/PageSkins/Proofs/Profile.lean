import PageSkins.Profile
import PageSkins.Proofs.Records
import PageSkins.Proofs.WebAddress.NormalForm

/-!
# Profiles checked again

A profile that passed its check is written with its address cut short: the slashes at the
end are left off. What is written passes the check once more, and the profile that comes of
it is written in the same way.
-/

namespace PageSkins.Profile

open PageSkins.Check

/-- What the check of a profile makes sure of. -/
structure Valid (p : Profile) : Prop where
  address : ∃ s, WebAddress.read s = .ok p.apiUrl
  token : ∀ t ∈ p.accessToken, Profile.token (.text t) = .ok t
  timeout : 0 < p.timeout ∧ p.timeout ≤ 300
  retries : 0 ≤ p.retries ∧ p.retries ≤ 10

theorem Valid.withActive {p : Profile} (h : p.Valid) (b : Bool) : { p with active := b }.Valid :=
  ⟨h.address, h.token, h.timeout, h.retries⟩

theorem address_eq_ok {v : Value} {url : String} :
    address v = .ok url ↔ ∃ s, v = .text s ∧ WebAddress.read s.toList = .ok url := by
  unfold address
  split
  · rename_i s
    cases read : WebAddress.read s.toList with
    | ok t => simp [read]
    | error fault => cases fault <;> simp [read, Checked.fail]
  · rename_i other
    simp only [Checked.fail, reduceCtorEq, false_iff]
    rintro ⟨s, rfl, -⟩
    exact other s rfl

/-- A number that is refused where it is too small and where it is too large. -/
theorem between_eq_ok {small large : Int → Prop} [DecidablePred small] [DecidablePred large]
    {r r' : Cause} {v : Value} {n : Int} :
    ((integer v).also fun n => if small n then .fail r else if large n then .fail r' else .ok n) = .ok n ↔
      integer v = .ok n ∧ ¬ small n ∧ ¬ large n := by
  rw [Checked.also_eq_ok]
  constructor
  · rintro ⟨m, value, rule⟩
    split at rule
    · cases rule
    split at rule
    · cases rule
    · rename_i low high
      obtain rfl := Checked.ok.inj rule
      exact ⟨value, low, high⟩
  · rintro ⟨value, low, high⟩
    exact ⟨n, value, by rw [if_neg low, if_neg high]⟩

theorem seconds_eq_ok {v : Value} {n : Int} :
    seconds v = .ok n ↔ integer v = .ok n ∧ 0 < n ∧ n ≤ 300 := by
  unfold seconds
  rw [between_eq_ok, Int.not_le, Int.not_lt]

theorem retryCount_eq_ok {v : Value} {n : Int} :
    retryCount v = .ok n ↔ integer v = .ok n ∧ 0 ≤ n ∧ n ≤ 10 := by
  unfold retryCount
  rw [between_eq_ok, Int.not_lt, Int.not_lt]

theorem token_token {v : Value} {t : String} (h : token v = .ok t) : token (.text t) = .ok t := by
  obtain ⟨s, -, rule⟩ := Checked.also_eq_ok.1 h
  dsimp only at rule
  split at rule
  · cases rule
  rename_i some'
  split at rule
  · cases rule
  rename_i word
  obtain rfl := Checked.ok.inj rule
  have solid : ∀ c ∈ Text.trim s.toList, Text.isBlank c = false := by
    simpa using word
  have again : Text.trim (Text.trim s.toList) = Text.trim s.toList := by
    have reversed : ∀ c ∈ (Text.trim s.toList).reverse, Text.isBlank c = false := fun c hc =>
      solid c (List.mem_reverse.1 hc)
    generalize Text.trim s.toList = u at solid reversed
    rw [Text.trim, Text.trimLeft, dropWhile_of_forall solid, Text.trimRight,
      dropWhile_of_forall reversed, List.reverse_reverse]
  refine Checked.also_eq_ok.2 ⟨_, rfl, ?_⟩
  dsimp only
  rw [String.toList_ofList, again, if_neg some', if_neg word]

variable {fs : Fields} {p : Profile}

theorem check_eq_ok : check fs = .ok p ↔
    required fs "name" text = .ok p.name ∧ required fs "api_url" address = .ok p.apiUrl ∧
      orElse fs "access_token" none (optional token) = .ok p.accessToken ∧
      orElse fs "timeout" 30 seconds = .ok p.timeout ∧
      orElse fs "retry_attempts" 3 retryCount = .ok p.retries ∧
      orElse fs "active" false flag = .ok p.active := by
  unfold check
  simp only [Checked.seq_eq_ok, Checked.map_eq_ok]
  constructor
  · rintro ⟨_, active, ⟨_, retries, ⟨_, timeout, ⟨_, token, ⟨_, url, ⟨name, named, rfl⟩, addressed, rfl⟩,
      tokened, rfl⟩, timed, rfl⟩, retried, rfl⟩, activated, rfl⟩
    exact ⟨named, addressed, tokened, timed, retried, activated⟩
  · rintro ⟨named, addressed, tokened, timed, retried, activated⟩
    exact ⟨_, _, ⟨_, _, ⟨_, _, ⟨_, _, ⟨_, _, ⟨_, named, rfl⟩, addressed, rfl⟩, tokened, rfl⟩, timed,
      rfl⟩, retried, rfl⟩, activated, rfl⟩

theorem valid_of_check (h : check fs = .ok p) : p.Valid := by
  obtain ⟨-, addressed, tokened, timed, retried, -⟩ := check_eq_ok.1 h
  obtain ⟨_, -, addressed⟩ := required_eq_ok.1 addressed
  obtain ⟨s, -, read⟩ := address_eq_ok.1 addressed
  refine ⟨⟨s.toList, read⟩, ?_, ?_, ?_⟩
  · rintro t ht
    rcases orElse_eq_ok.1 tokened with ⟨-, none⟩ | ⟨v, -, tokened⟩
    · rw [none] at ht
      cases ht
    · rcases optional_eq_ok.1 tokened with ⟨-, none⟩ | ⟨-, t', made, same⟩
      · rw [none] at ht
        cases ht
      · rw [same] at ht
        cases ht
        exact token_token made
  · rcases orElse_eq_ok.1 timed with ⟨-, usual⟩ | ⟨v, -, timed⟩
    · omega
    · exact (seconds_eq_ok.1 timed).2
  · rcases orElse_eq_ok.1 retried with ⟨-, usual⟩ | ⟨v, -, retried⟩
    · omega
    · exact (retryCount_eq_ok.1 retried).2

/-- But for the address, all that is written of a profile is read as it was. -/
theorem parts_toFields (h : p.Valid) : required p.toFields "name" text = .ok p.name ∧
    orElse p.toFields "access_token" none (optional token) = .ok p.accessToken ∧
      orElse p.toFields "timeout" 30 seconds = .ok p.timeout ∧
      orElse p.toFields "retry_attempts" 3 retryCount = .ok p.retries ∧
      orElse p.toFields "active" false flag = .ok p.active := by
  refine ⟨rfl, ?_, ?_, ?_, ?_⟩
  · refine orElse_eq_ok.2 (.inr ⟨p.accessToken.elim .null .text, rfl, optional_eq_ok.2 ?_⟩)
    cases token : p.accessToken with
    | none => exact .inl ⟨rfl, rfl⟩
    | some t => exact .inr ⟨nofun, t, h.token t token, rfl⟩
  · exact orElse_eq_ok.2 (.inr ⟨_, rfl, seconds_eq_ok.2 ⟨rfl, h.timeout⟩⟩)
  · exact orElse_eq_ok.2 (.inr ⟨_, rfl, retryCount_eq_ok.2 ⟨rfl, h.retries⟩⟩)
  · exact orElse_eq_ok.2 (.inr ⟨_, rfl, rfl⟩)

/-- What is written of a profile passes the check again, if the address is short enough. -/
theorem check_toFields (h : p.Valid) (short : p.baseUrl.length ≤ WebAddress.maxLength) :
    ∃ q, check p.toFields = .ok q := by
  obtain ⟨s, read⟩ := h.address
  obtain ⟨url, again, -⟩ := WebAddress.read_withoutSlashes read short
  obtain ⟨named, others⟩ := parts_toFields h
  exact ⟨{ p with apiUrl := url }, check_eq_ok.2 ⟨named,
    required_eq_ok.2 ⟨_, rfl, address_eq_ok.2 ⟨_, rfl, again⟩⟩, others⟩⟩

/-- Whatever else is changed of what is written, the address that is read stays the same but
for slashes. -/
theorem baseUrl_of_check {q : Profile} (h : p.Valid)
    (kept : fs.find? "api_url" = some (.text p.baseUrl)) (made : check fs = .ok q) :
    q.baseUrl = p.baseUrl := by
  obtain ⟨-, addressed, -⟩ := check_eq_ok.1 made
  obtain ⟨v, found, addressed⟩ := required_eq_ok.1 addressed
  rw [kept] at found
  obtain rfl := Option.some.inj found
  obtain ⟨_, ⟨⟩, read⟩ := address_eq_ok.1 addressed
  obtain ⟨s, first⟩ := h.address
  have short := WebAddress.length_le_of_read read
  rw [String.length_toList] at short
  obtain ⟨url, again, same⟩ := WebAddress.read_withoutSlashes first short
  have reread : q.apiUrl = url := Except.ok.inj (read.symm.trans again)
  unfold baseUrl
  rw [reread, same]

/-- What comes of the second check is written as the profile before it was. -/
theorem toFields_of_check {q : Profile} (h : p.Valid) (made : check p.toFields = .ok q) :
    q.toFields = p.toFields := by
  have address := baseUrl_of_check h rfl made
  obtain ⟨named, tokened, timed, retried, activated⟩ := parts_toFields h
  obtain ⟨named', -, tokened', timed', retried', activated'⟩ := check_eq_ok.1 made
  unfold toFields
  rw [address, Checked.ok.inj (named'.symm.trans named), Checked.ok.inj (tokened'.symm.trans tokened),
    Checked.ok.inj (timed'.symm.trans timed), Checked.ok.inj (retried'.symm.trans retried),
    Checked.ok.inj (activated'.symm.trans activated)]

end PageSkins.Profile
