import PageSkins.Proofs.Backend.Requests
import PageSkins.Proofs.Failing

/-!
# Fetching the records of a blog

Of the records of a blog only the blog itself has to be there: nothing stands in place of
any other that cannot be fetched. Two things are not made up for, and all records are lost
with one of them: a body that is no record where one is needed, and a delay between two
attempts that is too large to be a number.
-/

namespace PageSkins.Backend

open PageSkins.Decimal

variable {σ α β : Type}

/-! ### Work of a client, step by step -/

namespace Talk

variable {x : Exchange σ}

theorem run_bind (first : Talk σ α) (next : α → Talk σ β) :
    (first >>= next).run x = match first.run x with
      | (.ok a, y) => (next a).run y
      | (.error f, y) => (.error f, y) := by
  change ExceptT.bindCont next (first.run x).1 (first.run x).2 = _
  cases first.run x with
  | mk result y =>
    cases result with
    | ok a => rfl
    | error f => rfl

theorem result_bind (first : Talk σ α) (next : α → Talk σ β) :
    ((first >>= next).run x).1 =
      (first.run x).1 >>= fun a => ((next a).run (first.run x).2).1 := by
  rw [run_bind]
  cases first.run x with
  | mk result y =>
    cases result with
    | ok a => rfl
    | error f => rfl

theorem run_pure (a : α) : (pure a : Talk σ α).run x = (.ok a, x) := rfl

theorem run_tryCatch (first : Talk σ α) (other : Failure → Talk σ α) :
    (tryCatch first other).run x = match first.run x with
      | (.ok a, y) => (.ok a, y)
      | (.error f, y) => (other f).run y := by
  simp only [tryCatch, tryCatchThe, MonadExceptOf.tryCatch, ExceptT.tryCatch, ExceptT.run,
    ExceptT.mk, bind, StateT.bind]
  cases first x with
  | mk result y =>
    cases result with
    | ok a => rfl
    | error f => rfl

theorem run_lift (result : Except Failure α) : (liftM result : Talk σ α).run x = (result, x) := rfl

/-- Work that ends with what an answer is read as. -/
theorem run_bind_read (question : Talk σ Value) (read : Value → Except Failure α) :
    (do read (← question) : Talk σ α).run x =
      ((question.run x).1 >>= read, (question.run x).2) := by
  rw [run_bind]
  cases question.run x with
  | mk answer y =>
    cases answer with
    | ok v => rfl
    | error f => rfl

theorem run_outcome (work : Talk σ α) :
    (outcome work).run x = (.ok (work.run x).1, (work.run x).2) := by
  rw [outcome, run_tryCatch, map_eq_pure_bind, run_bind]
  cases work.run x with
  | mk result y =>
    cases result with
    | ok a => rfl
    | error f => rfl

/-- What a fetch of a record gives, with nothing in place of a failure. -/
def given (fetch : Talk σ (Option α)) (x : Exchange σ) : Option α :=
  match (fetch.run x).1 with
  | .ok a => a
  | .error _ => none

/-- A fetch fails in a way that is not made up for. -/
def BreaksOff (fetch : Talk σ α) (x : Exchange σ) : Prop :=
  ∃ f, (fetch.run x).1 = .error f ∧ isTolerable f = false

theorem run_orNothing (label key : String) (fetch : Talk σ (Option α)) :
    ((orNothing label key fetch).run x).1 = match (fetch.run x).1 with
      | .ok a => .ok a
      | .error f => if isTolerable f then .ok none else .error f := by
  rw [orNothing, run_tryCatch]
  cases fetch.run x with
  | mk result y =>
    cases result with
    | ok a => rfl
    | error f => cases tolerable : isTolerable f <;> simp [tolerable] <;> rfl

/-- What a failure leaves behind is at most a line in the log. -/
theorem state_orNothing (label key : String) (fetch : Talk σ (Option α)) :
    ∃ log, ((orNothing label key fetch).run x).2 = { (fetch.run x).2 with log } := by
  rw [orNothing, run_tryCatch]
  cases fetch.run x with
  | mk result y =>
    cases result with
    | ok a => exact ⟨y.log, rfl⟩
    | error f =>
      dsimp only
      split
      · exact ⟨_, rfl⟩
      · exact ⟨y.log, rfl⟩

theorem orNothing_ok_iff {label key : String} {fetch : Talk σ (Option α)} {a : Option α} :
    ((orNothing label key fetch).run x).1 = .ok a ↔ a = given fetch x ∧ ¬ BreaksOff fetch x := by
  rw [run_orNothing, given, BreaksOff]
  cases (fetch.run x).1 with
  | ok b =>
    constructor
    · rintro ⟨⟩
      exact ⟨rfl, by rintro ⟨f, ⟨⟩, -⟩⟩
    · rintro ⟨rfl, -⟩
      rfl
  | error f =>
    dsimp only
    by_cases tolerable : isTolerable f = true
    · rw [if_pos tolerable]
      constructor
      · rintro ⟨⟩
        refine ⟨rfl, ?_⟩
        rintro ⟨_, ⟨⟩, intolerable⟩
        cases intolerable.symm.trans tolerable
      · rintro ⟨rfl, -⟩
        rfl
    · rw [if_neg tolerable]
      constructor
      · rintro ⟨⟩
      · rintro ⟨-, caught⟩
        exact absurd ⟨f, rfl, Bool.eq_false_iff.2 tolerable⟩ caught

/-! ### Answers that break a fetch off -/

/-- An answer that nothing stands in place of: a value that is no record where one is needed,
or a delay that is too large. An optional record is not needed where the value is empty. -/
def Escapes (retry : Retry Number) (optional : Bool) : Except Failure Value → Prop
  | .ok v => (∀ fs, v ≠ .map fs) ∧ (optional = true → v.isTruthy = true)
  | .error f => ∃ o, f = .ofOverrun o ∧ Uncountable retry o

theorem map_eq_error_iff {g : α → β} {result : Except Failure α} {f : Failure} :
    g <$> result = .error f ↔ result = .error f := by
  cases result with
  | ok a => constructor <;> rintro ⟨⟩
  | error h => constructor <;> rintro ⟨⟩ <;> rfl

theorem record_intolerable_iff {check : Fields → Checked α} (retry : Retry Number) {v : Value} :
    (∃ f, record check v = .error f ∧ isTolerable f = false) ↔ Escapes retry false (.ok v) := by
  simp only [Escapes, Bool.false_eq_true, false_implies, and_true]
  constructor
  · rintro ⟨f, failed, intolerable⟩ fs rfl
    unfold record at failed
    dsimp only at failed
    split at failed
    · cases failed
    · cases failed
      cases intolerable
  · intro none_given
    cases v with
    | map fs => exact absurd rfl (none_given fs)
    | null | bool | int | float | text | list | date | moment | keyed => exact ⟨_, rfl, rfl⟩

theorem optionalRecord_intolerable_iff {check : Fields → Checked α} {retry : Retry Number}
    {v : Value} : (∃ f, optionalRecord check v = .error f ∧ isTolerable f = false) ↔
      Escapes retry true (.ok v) := by
  by_cases truthy : v.isTruthy = true
  · have same : Escapes retry true (.ok v) ↔ Escapes retry false (.ok v) := by
      simp [Escapes, truthy]
    have read : (∃ f, record check v = .error f ∧ isTolerable f = false) ↔ _ :=
      record_intolerable_iff retry
    rw [same, ← read, optionalRecord, if_pos truthy]
    simp only [map_eq_error_iff]
  · simp [optionalRecord, truthy, Escapes]

theorem breaksOff_read_iff {question : Talk σ Value} {read : Value → Except Failure α}
    {retry : Retry Number} {optional : Bool}
    (foreseen : ∀ f, (question.run x).1 = .error f → Foreseen retry f)
    (reads : ∀ v, (∃ f, read v = .error f ∧ isTolerable f = false) ↔
      Escapes retry optional (.ok v)) :
    BreaksOff (do read (← question)) x ↔ Escapes retry optional (question.run x).1 := by
  rw [BreaksOff, run_bind_read]
  cases answer : (question.run x).1 with
  | ok v => exact reads v
  | error f =>
    constructor
    · rintro ⟨_, ⟨⟩, intolerable⟩
      refine (foreseen f answer).resolve_left fun tolerable => ?_
      cases intolerable.symm.trans tolerable
    · rintro ⟨o, rfl, -⟩
      exact ⟨_, rfl, not_isTolerable_ofOverrun o⟩

theorem breaksOff_map_iff {g : α → β} {fetch : Talk σ α} :
    BreaksOff (g <$> fetch) x ↔ BreaksOff fetch x := by
  rw [BreaksOff, BreaksOff, map_eq_pure_bind, run_bind]
  cases fetch.run x with
  | mk result y =>
    cases result with
    | ok a => constructor <;> rintro ⟨f, ⟨⟩, -⟩
    | error f => simp

section Fetches

variable {serve : Server σ} {blogId id : String} {y : Exchange σ}

theorem breaksOff_application_iff (network : serve.IsNetwork) (authorized : x.Authorized)
    (terms : Exchange.SameTerms x y) :
    BreaksOff (application serve blogId) y ↔
      Escapes x.client.retry true (y.ask serve ("/api/skins/blog/" ++ blogId)).1 :=
  breaksOff_read_iff (fun _ => terms.foreseen network authorized) fun _ =>
    optionalRecord_intolerable_iff

theorem breaksOff_skin_iff (network : serve.IsNetwork) (authorized : x.Authorized)
    (terms : Exchange.SameTerms x y) :
    BreaksOff (some <$> skin serve id) y ↔
      Escapes x.client.retry false (y.ask serve ("/api/skins/" ++ id)).1 := by
  rw [breaksOff_map_iff]
  exact breaksOff_read_iff (fun _ => terms.foreseen network authorized) fun _ =>
    record_intolerable_iff _

/-- An answer where what is not found is as good as an empty body. -/
def forgiven : Except Failure Value → Except Failure Value
  | .ok v => .ok v
  | .error f => if isNotFound f then .ok .null else .error f

theorem run_forgiving (question : Talk σ Value) :
    (tryCatch question fun f => if isNotFound f then pure .null else throw f).run x =
      (forgiven (question.run x).1, (question.run x).2) := by
  rw [run_tryCatch]
  cases question.run x with
  | mk answer y =>
    cases answer with
    | ok v => rfl
    | error f =>
      dsimp only [forgiven]
      split
      · rfl
      · rfl

theorem forgiven_eq_error {answer : Except Failure Value} {f : Failure}
    (h : forgiven answer = .error f) : answer = .error f := by
  cases answer with
  | ok v => cases h
  | error g =>
    unfold forgiven at h
    dsimp only at h
    split at h
    · cases h
    · exact h

theorem escapes_forgiven_iff {retry : Retry Number} {answer : Except Failure Value} :
    Escapes retry true (forgiven answer) ↔ Escapes retry true answer := by
  cases answer with
  | ok v => rfl
  | error f =>
    by_cases absent : isNotFound f = true
    · simp only [forgiven, absent, if_true]
      constructor
      · rintro ⟨-, truthy⟩
        cases truthy rfl
      · rintro ⟨o, rfl, -⟩
        cases o with
        | tooLarge => cases absent
        | zeroDivision => cases absent
    · simp only [forgiven, if_neg absent]

theorem breaksOff_customSkin_iff (network : serve.IsNetwork) (authorized : x.Authorized)
    (terms : Exchange.SameTerms x y) :
    BreaksOff (customSkin serve blogId) y ↔
      Escapes x.client.retry true (y.ask serve ("/api/skins/custom/" ++ blogId)).1 := by
  have answered : ((tryCatch (ask serve ("/api/skins/custom/" ++ blogId)) fun f =>
      if isNotFound f then pure .null else throw f).run y).1 =
        forgiven (y.ask serve ("/api/skins/custom/" ++ blogId)).1 :=
    congrArg Prod.fst (run_forgiving _)
  rw [← escapes_forgiven_iff, ← answered]
  refine breaksOff_read_iff (fun f failed => ?_) fun _ => optionalRecord_intolerable_iff
  rw [answered] at failed
  exact terms.foreseen network authorized (forgiven_eq_error failed)

end Fetches

/-! ### The records of a blog -/

section Records

variable (serve : Server σ) (blogId : String) (x : Exchange σ)

def forApplication : Exchange σ := ((blog serve blogId).run x).2

def forCustomSkin : Exchange σ :=
  ((orNothing "skin application" blogId (application serve blogId)).run
    (forApplication serve blogId x)).2

def forBaseSkin : Exchange σ :=
  ((orNothing "custom skin" blogId (customSkin serve blogId)).run (forCustomSkin serve blogId x)).2

variable {serve blogId x}

theorem orNothing_sameTerms {label key : String} {fetch : Talk σ (Option α)} {y : Exchange σ}
    (terms : Exchange.SameTerms x (fetch.run y).2) :
    Exchange.SameTerms x ((orNothing label key fetch).run y).2 := by
  obtain ⟨log, logged⟩ := state_orNothing (x := y) label key fetch
  rw [logged]
  exact terms

theorem forApplication_sameTerms : Exchange.SameTerms x (forApplication serve blogId x) := by
  rw [forApplication, blog, run_bind_read]
  exact Exchange.ask_sameTerms

theorem forCustomSkin_sameTerms : Exchange.SameTerms x (forCustomSkin serve blogId x) := by
  apply orNothing_sameTerms
  rw [application, run_bind_read]
  exact forApplication_sameTerms.trans Exchange.ask_sameTerms

theorem forBaseSkin_sameTerms : Exchange.SameTerms x (forBaseSkin serve blogId x) := by
  apply orNothing_sameTerms
  rw [customSkin, run_bind_read, run_forgiving]
  exact forCustomSkin_sameTerms.trans Exchange.ask_sameTerms

theorem authorized_of_blog {found : Blog} (h : ((blog serve blogId).run x).1 = .ok found) :
    x.Authorized := by
  rw [blog, run_bind_read] at h
  obtain ⟨v, answered, -⟩ := ok_of_bind h
  exact Exchange.authorized_of_ask answered

theorem run_records :
    ((records serve blogId).run x).1 = (do
      let blog ← ((blog serve blogId).run x).1
      let application ← ((orNothing "skin application" blogId (application serve blogId)).run
        (forApplication serve blogId x)).1
      let customSkin ← ((orNothing "custom skin" blogId (customSkin serve blogId)).run
        (forCustomSkin serve blogId x)).1
      let baseSkin ← ((baseSkin serve application).run (forBaseSkin serve blogId x)).1
      return { blog, application, customSkin, baseSkin }) := by
  simp only [records, result_bind, run_outcome, run_lift]
  rfl

/-- The skin that has to be fetched for an application: the one that it names, unless it comes
with one. -/
def neededSkin (application : Option SkinApplication) : Option String :=
  application.bind fun a => if a.skin.isSome then none else a.skinId.filter fun id => !id.isEmpty

/-- The base skin of an application, with nothing in place of one that cannot be fetched. -/
def givenBase (serve : Server σ) (application : Option SkinApplication) (y : Exchange σ) :
    Option Skin :=
  match neededSkin application with
  | some id => given (some <$> skin serve id) y
  | none => application.bind SkinApplication.skin

theorem baseSkin_ok_iff {application : Option SkinApplication} {y : Exchange σ} {s : Option Skin} :
    ((baseSkin serve application).run y).1 = .ok s ↔ s = givenBase serve application y ∧
      ∀ id, neededSkin application = some id → ¬ BreaksOff (some <$> skin serve id) y := by
  cases application with
  | none =>
    constructor
    · rintro ⟨⟩
      exact ⟨rfl, by rintro id ⟨⟩⟩
    · rintro ⟨rfl, -⟩
      rfl
  | some a =>
    cases own : a.skin with
    | some embedded =>
      have needless : neededSkin (some a) = none := by
        simp [neededSkin, own]
      rw [baseSkin, own, givenBase, needless]
      simp [own, run_pure, eq_comm]
    | none =>
      cases named : a.skinId.filter fun id => !id.isEmpty with
      | none =>
        have needless : neededSkin (some a) = none := by
          simp [neededSkin, own, named]
        rw [baseSkin, own, named, givenBase, needless]
        simp [own, run_pure, eq_comm]
      | some id =>
        have needed : neededSkin (some a) = some id := by
          simp [neededSkin, own, named]
        rw [baseSkin, own, named, givenBase, needed]
        simp [orNothing_ok_iff]

/-- The records of a blog, with nothing in place of those that cannot be fetched. -/
def givenRecords (serve : Server σ) (blogId : String) (x : Exchange σ) (found : Blog) :
    SkinRecords :=
  let application := given (application serve blogId) (forApplication serve blogId x)
  { blog := found
    application
    customSkin := given (customSkin serve blogId) (forCustomSkin serve blogId x)
    baseSkin := givenBase serve application (forBaseSkin serve blogId x) }

/-- No answer to a question for a record other than the blog breaks the fetching off. -/
structure Caught (serve : Server σ) (blogId : String) (x : Exchange σ) : Prop where
  byApplication : ¬ Escapes x.client.retry true
    ((forApplication serve blogId x).ask serve ("/api/skins/blog/" ++ blogId)).1
  byCustomSkin : ¬ Escapes x.client.retry true
    ((forCustomSkin serve blogId x).ask serve ("/api/skins/custom/" ++ blogId)).1
  byBaseSkin : ∀ id,
    neededSkin (given (application serve blogId) (forApplication serve blogId x)) = some id →
      ¬ Escapes x.client.retry false
        ((forBaseSkin serve blogId x).ask serve ("/api/skins/" ++ id)).1

theorem caught_iff (network : serve.IsNetwork) (authorized : x.Authorized) :
    Caught serve blogId x ↔
      ¬ BreaksOff (application serve blogId) (forApplication serve blogId x) ∧
      ¬ BreaksOff (customSkin serve blogId) (forCustomSkin serve blogId x) ∧
      ∀ id,
        neededSkin (given (application serve blogId) (forApplication serve blogId x)) = some id →
          ¬ BreaksOff (some <$> skin serve id) (forBaseSkin serve blogId x) := by
  rw [breaksOff_application_iff network authorized forApplication_sameTerms,
    breaksOff_customSkin_iff network authorized forCustomSkin_sameTerms]
  simp only [breaksOff_skin_iff network authorized forBaseSkin_sameTerms]
  constructor
  · rintro ⟨byApplication, byCustomSkin, byBaseSkin⟩
    exact ⟨byApplication, byCustomSkin, byBaseSkin⟩
  · rintro ⟨byApplication, byCustomSkin, byBaseSkin⟩
    exact ⟨byApplication, byCustomSkin, byBaseSkin⟩

/-- Once the blog is found, its records are fetched, with nothing in place of any that cannot
be, exactly if no answer breaks the fetching off. -/
theorem records_ok_iff (network : serve.IsNetwork) {found : Blog}
    (blogFound : ((blog serve blogId).run x).1 = .ok found) {r : SkinRecords} :
    ((records serve blogId).run x).1 = .ok r ↔
      r = givenRecords serve blogId x found ∧ Caught serve blogId x := by
  rw [caught_iff network (authorized_of_blog blogFound), run_records, blogFound]
  constructor
  · intro fetched
    obtain ⟨_, ⟨⟩, fetched⟩ := ok_of_bind fetched
    obtain ⟨a, application_ok, fetched⟩ := ok_of_bind fetched
    obtain ⟨c, customSkin_ok, fetched⟩ := ok_of_bind fetched
    obtain ⟨s, baseSkin_ok, fetched⟩ := ok_of_bind fetched
    cases fetched
    obtain ⟨rfl, application_kept⟩ := orNothing_ok_iff.1 application_ok
    obtain ⟨rfl, customSkin_kept⟩ := orNothing_ok_iff.1 customSkin_ok
    obtain ⟨rfl, baseSkin_kept⟩ := baseSkin_ok_iff.1 baseSkin_ok
    exact ⟨rfl, application_kept, customSkin_kept, baseSkin_kept⟩
  · rintro ⟨rfl, application_kept, customSkin_kept, baseSkin_kept⟩
    have application_ok : ((orNothing "skin application" blogId (application serve blogId)).run
        (forApplication serve blogId x)).1 = .ok _ := orNothing_ok_iff.2 ⟨rfl, application_kept⟩
    have customSkin_ok : ((orNothing "custom skin" blogId (customSkin serve blogId)).run
        (forCustomSkin serve blogId x)).1 = .ok _ := orNothing_ok_iff.2 ⟨rfl, customSkin_kept⟩
    have baseSkin_ok : ((baseSkin serve _).run (forBaseSkin serve blogId x)).1 = .ok _ :=
      baseSkin_ok_iff.2 ⟨rfl, baseSkin_kept⟩
    rw [application_ok, customSkin_ok]
    change ((baseSkin serve _).run _).1 >>= _ = _
    rw [baseSkin_ok]
    rfl

end Records

/-! ### A list of answers -/

def scripted : Server (List Response)
  | _, [] => (.ok { status := 404 }, [])
  | _, r :: rest => (.ok r, rest)

theorem scripted_isNetwork : scripted.IsNetwork := by
  rintro request (_ | ⟨r, rest⟩) f ⟨⟩

def asking (answers : List Response) : Exchange (List Response) where
  client := { url := "https://blog.example.com", credentials := {}, retry := Client.retryOf 0 }
  server := answers
  now := .int 0

def someBlog : Response :=
  { status := 200, body := .json (.map [("id", .text "blog-1"), ("name", .text "My Blog")]) }

/-- The blog is found, and its application, which names a skin. Its custom skin belongs to no
blog, and the skin is not found. -/
def damaged : Exchange (List Response) :=
  asking [someBlog,
    { status := 200,
      body := .json (.map [("blog_id", .text "blog-1"), ("skin_id", .text "night")]) },
    { status := 200, body := .json (.map [("is_active", .bool true)]) }]

theorem records_ok_iff_damaged :
    scripted.IsNetwork ∧
      ((blog scripted "blog-1").run damaged).1 = .ok { id := "blog-1", name := "My Blog" } ∧
      ((records scripted "blog-1").run damaged).1 = .ok
        { blog := { id := "blog-1", name := "My Blog" }
          application := some { blogId := "blog-1", skinId := some "night" } } := by
  have blogFound : ((blog scripted "blog-1").run damaged).1 =
      .ok { id := "blog-1", name := "My Blog" } := rfl
  refine ⟨scripted_isNetwork, blogFound, (records_ok_iff scripted_isNetwork blogFound).2 ⟨rfl, ?_⟩⟩
  constructor
  case byApplication =>
    rintro ⟨no_record, -⟩
    exact no_record _ rfl
  case byCustomSkin =>
    rintro ⟨no_record, -⟩
    exact no_record _ rfl
  case byBaseSkin =>
    rintro id ⟨⟩ ⟨o, overrun, -⟩
    cases o with
    | tooLarge => cases overrun
    | zeroDivision => cases overrun

def listed : Exchange (List Response) :=
  asking [someBlog, { status := 200, body := .json (.list [.int 1]) }, { status := 200 }]

theorem not_records_listed :
    ((blog scripted "blog-1").run listed).1 = .ok { id := "blog-1", name := "My Blog" } ∧
      ∀ r, ((records scripted "blog-1").run listed).1 ≠ .ok r := by
  constructor
  · rfl
  · intro r fetched
    have broken : ((records scripted "blog-1").run listed).1 =
        .error (.mishap .wrongKind "The body holds no record") := rfl
    cases broken.symm.trans fetched

end Talk

end PageSkins.Backend
