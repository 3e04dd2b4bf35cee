import PageSkins.Proofs.Backend.Fetching
import PageSkins.Proofs.Backend.StandingClock

/-!
# The parts of the records of a blog

The blog, its application and its custom skin can be fetched one after another in any order.
At one moment, and with a fixed answer for each address, what a fetch does to those after it
is to spend the slack of the breaker.
-/

namespace PageSkins.Backend

open PageSkins.Decimal

variable {σ α : Type}

/-- A server with a fixed answer for each address. -/
def Server.fixed (answers : String → Except Failure Response) : Server σ :=
  fun request s => (answers request.url, s)

namespace Exchange

variable {answers : String → Except Failure Response} {endpoint : String} {x y : Exchange σ}

theorem sendRepeatedly_fixed {request request' : Request} (url : request'.url = request.url)
    (retry : y.client.retry = x.client.retry) :
    (y.sendRepeatedly (.fixed answers) request' endpoint).1 =
      (x.sendRepeatedly (.fixed answers) request endpoint).1 := by
  have same : ∀ s s' : Exchange σ, (s.send (.fixed answers) request' endpoint).1 =
      (s'.send (.fixed answers) request endpoint).1 := by
    intro s s'
    simp only [send, Server.fixed, url]
  have waits := Retry.sameWaits_float x.client.retry y.draw x.draw
  simp only [sendRepeatedly, retry]
  exact congrArg (ending x.client.retry.retries) (Retry.executeWith_alike waits same y x)

/-- A fixed answer does not depend on what has been asked before. -/
theorem StandsStill.answer (still : StandsStill x y) :
    y.answer (.fixed answers) endpoint = x.answer (.fixed answers) endpoint := by
  unfold Exchange.answer
  rw [still.terms.1, still.terms.2.2]
  cases x.client.credentials.headers x.now with
  | error f => rfl
  | ok authorization =>
    have url : y.client.url ++ endpoint = x.client.url ++ endpoint := by rw [still.url]
    exact sendRepeatedly_fixed url still.terms.2.1

end Exchange

namespace Talk

/-! ### The parts of the records -/

inductive Part where
  | blog
  | application
  | customSkin
deriving DecidableEq

namespace Part

def all : List Part := [.blog, .application, .customSkin]

/-- The parts that the records can do without. -/
def spare : List Part := [.application, .customSkin]

abbrev Found : Part → Type
  | .blog => Blog
  | .application => Option SkinApplication
  | .customSkin => Option CustomSkin

def endpoint (blogId : String) : Part → String
  | .blog => "/api/blogs/" ++ blogId
  | .application => "/api/skins/blog/" ++ blogId
  | .customSkin => "/api/skins/custom/" ++ blogId

end Part

def fetch (serve : Server σ) (blogId : String) : (p : Part) → Talk σ p.Found
  | .blog => blog serve blogId
  | .application => orNothing "skin application" blogId (application serve blogId)
  | .customSkin => orNothing "custom skin" blogId (customSkin serve blogId)

abbrev Findings := (p : Part) → Except Failure p.Found

def unasked : Findings := fun _ => .error (.refusal .general "Not asked for")

def find (serve : Server σ) (blogId : String) (found : Findings) (p : Part) : Talk σ Findings := do
  return Function.update found p (← outcome (fetch serve blogId p))

/-- The records of a blog, of which the parts are fetched in some order. -/
def recordsIn (serve : Server σ) (blogId : String) (order : List Part) : Talk σ SkinRecords := do
  let found ← order.foldlM (find serve blogId) unasked
  let blog : Blog ← found .blog
  let application : Option SkinApplication ← found .application
  let customSkin : Option CustomSkin ← found .customSkin
  return { blog, application, customSkin, baseSkin := ← baseSkin serve application }

theorem recordsIn_all (serve : Server σ) (blogId : String) :
    recordsIn serve blogId Part.all = records serve blogId := by
  simp only [recordsIn, Part.all, List.foldlM_cons, List.foldlM_nil, find, bind_assoc, pure_bind]
  rfl

/-! ### One fetch -/

section Fetch

variable {serve : Server σ} {blogId : String} {x y : Exchange σ}

/-- A result with nothing in place of a failure that the defaults make up for. -/
def tolerated : Except Failure (Option α) → Except Failure (Option α)
  | .ok a => .ok a
  | .error f => if isTolerable f then .ok none else .error f

/-- What is made of an answer. -/
def Part.conclude : (p : Part) → Except Failure Value → Except Failure p.Found
  | .blog, answer => answer >>= record Blog.check
  | .application, answer => tolerated (answer >>= optionalRecord SkinApplication.check)
  | .customSkin, answer => tolerated (forgiven answer >>= optionalRecord CustomSkin.check)

theorem result_orNothing {label key : String} {fetch : Talk σ (Option α)} :
    ((orNothing label key fetch).run x).1 = tolerated (fetch.run x).1 := by
  rw [run_orNothing]
  cases (fetch.run x).1 with
  | ok a => rfl
  | error f => rfl

theorem result_fetch (p : Part) :
    ((fetch serve blogId p).run x).1 = p.conclude (x.ask serve (p.endpoint blogId)).1 := by
  cases p with
  | blog =>
    rw [fetch, blog, run_bind_read]
    rfl
  | application =>
    rw [fetch, result_orNothing, application, run_bind_read]
    rfl
  | customSkin =>
    rw [fetch, result_orNothing, customSkin, run_bind_read, run_forgiving]
    rfl

/-- A fetch leaves behind what its question does, and at most a line in the log. -/
theorem state_fetch (serve : Server σ) (blogId : String) (x : Exchange σ) (p : Part) :
    ∃ log, ((fetch serve blogId p).run x).2 =
      { (x.ask serve (p.endpoint blogId)).2 with log } := by
  cases p with
  | blog =>
    rw [fetch, blog, run_bind_read]
    exact ⟨_, rfl⟩
  | application =>
    obtain ⟨log, logged⟩ :=
      state_orNothing (x := x) "skin application" blogId (application serve blogId)
    rw [fetch, logged, application, run_bind_read]
    exact ⟨log, rfl⟩
  | customSkin =>
    obtain ⟨log, logged⟩ := state_orNothing (x := x) "custom skin" blogId (customSkin serve blogId)
    rw [fetch, logged, customSkin, run_bind_read, run_forgiving]
    exact ⟨log, rfl⟩

def fails (serve : Server σ) (blogId : String) (x : Exchange σ) (p : Part) : Bool :=
  Exchange.callEnding (x.answer serve (p.endpoint blogId)) = .failure

end Fetch

def reach (serve : Server σ) (blogId : String) (x : Exchange σ) (parts : List Part) : Exchange σ :=
  parts.foldl (fun y p => ((fetch serve blogId p).run y).2) x

theorem reach_cons (serve : Server σ) (blogId : String) (x : Exchange σ) (p : Part)
    (parts : List Part) :
    reach serve blogId x (p :: parts) =
      reach serve blogId ((fetch serve blogId p).run x).2 parts := rfl

end Talk

namespace Exchange

open Talk

section Slack

variable {serve : Server σ} {answers : String → Except Failure Response} {blogId : String}
  {x y : Exchange σ}

theorem Since.fetch (since : Since x y) (serve : Server σ) (blogId : String) (p : Part) :
    Since x ((Talk.fetch serve blogId p).run y).2 := by
  obtain ⟨log, fetched⟩ := state_fetch serve blogId y p
  rw [fetched]
  exact (since.ask serve (p.endpoint blogId)).logged log

theorem Since.reach (since : Since x y) (serve : Server σ) (blogId : String)
    (parts : List Part) :
    Since x (Talk.reach serve blogId y parts) := by
  induction parts generalizing y with
  | nil => exact since
  | cons p parts ih => exact ih (since.fetch serve blogId p)

theorem slack_fetch (p : Part) :
    ((fetch serve blogId p).run y).2.slack = (y.ask serve (p.endpoint blogId)).2.slack := by
  obtain ⟨log, fetched⟩ := state_fetch serve blogId y p
  rw [fetched]
  rfl

/-- What is asked at this moment gets its answer, if there is some slack for it. -/
theorem Since.answer (since : Since x y) (left : x.Authorized → 0 < y.slack) (endpoint : String) :
    (y.ask (.fixed answers) endpoint).1 = Exchange.answer (.fixed answers) endpoint x := by
  have authorized : y.Authorized → x.Authorized := since.still.terms.symm.authorized
  rw [ask_answer _ _ since.usual fun h => left (authorized h), since.still.answer]

/-- A part that is fetched while there is some slack spends it by its answer. -/
theorem Since.slack_of_left (since : Since x y) (authorized : x.Authorized) (left : 0 < y.slack)
    (p : Part) :
    ((Talk.fetch (.fixed answers) blogId p).run y).2.slack = Breaker.spend 5 y.slack
      (callEnding (x.answer (.fixed answers) (p.endpoint blogId))) := by
  have authorized_now := since.still.terms.authorized authorized
  rw [slack_fetch, slack_ask _ _ since.usual authorized_now left,
    since.answer fun _ => left]

/-- Slack that is used up stays so. -/
theorem Since.slack_of_none (since : Since x y) (authorized : x.Authorized)
    (none_left : y.slack = 0) (parts : List Part) :
    (Talk.reach (.fixed answers) blogId y parts).slack = 0 := by
  induction parts generalizing y with
  | nil => exact none_left
  | cons p parts ih =>
    apply ih (since.fetch (.fixed answers) blogId p)
    rw [slack_fetch, ask_refused _ _ since.usual
      (since.still.terms.authorized authorized) none_left]
    exact none_left

variable (answers blogId)

/-- No more slack is spent than there are parts that fail. -/
theorem Since.slack_le_reach (since : Since x y) (authorized : x.Authorized) (parts : List Part) :
    y.slack ≤ (Talk.reach (.fixed answers) blogId y parts).slack +
      parts.countP (fails (.fixed answers) blogId x) := by
  induction parts generalizing y with
  | nil => exact Nat.le_add_right _ _
  | cons p parts ih =>
    obtain none_left | left := Nat.eq_zero_or_pos y.slack
    · omega
    · have rest := ih (since.fetch (.fixed answers) blogId p)
      rw [since.slack_of_left authorized left] at rest
      have most := since.usual.slack_le
      rw [reach_cons, List.countP_cons, fails]
      cases ending : callEnding (x.answer (.fixed answers) (p.endpoint blogId)) with
      | success =>
        -- All slack is restored, which is no less than there was before.
        rw [ending, Breaker.spend] at rest
        exact most.trans rest
      | failure =>
        rw [ending, Breaker.spend] at rest
        simp only [decide_true, if_true]
        omega
      | other =>
        rw [ending, Breaker.spend] at rest
        exact rest

/-- Parts that all fail spend slack one by one. -/
theorem Since.slack_reach_of_fails (since : Since x y) (authorized : x.Authorized)
    {parts : List Part} (failing : ∀ p ∈ parts, fails (.fixed answers) blogId x p = true) :
    (Talk.reach (.fixed answers) blogId y parts).slack = y.slack - parts.length := by
  induction parts generalizing y with
  | nil => rfl
  | cons p parts ih =>
    obtain none_left | left := Nat.eq_zero_or_pos y.slack
    · rw [none_left, Nat.zero_sub]
      exact since.slack_of_none authorized none_left (p :: parts)
    · have ending : callEnding (x.answer (.fixed answers) (p.endpoint blogId)) = .failure :=
        of_decide_eq_true (failing p (.head _))
      rw [reach_cons, ih (since.fetch (.fixed answers) blogId p) fun q found =>
          failing q (.tail _ found),
        since.slack_of_left authorized left, ending, Breaker.spend, List.length_cons]
      omega

end Slack

end Exchange

namespace Talk

/-! ### All fetches -/

section Order

variable {serve : Server σ} {blogId : String} {x y : Exchange σ} {p : Part}
  {order before after : List Part} {found : Findings}

def gather (serve : Server σ) (blogId : String) : List Part → Findings → Exchange σ → Findings
  | [], found, _ => found
  | p :: parts, found, x =>
    let fetched := (fetch serve blogId p).run x
    gather serve blogId parts (Function.update found p fetched.1) fetched.2

/-- The records that the findings make, the base skin being fetched last. -/
def assemble (serve : Server σ) (found : Findings) (x : Exchange σ) :
    Except Failure SkinRecords := do
  let blog : Blog ← found .blog
  let application : Option SkinApplication ← found .application
  let customSkin : Option CustomSkin ← found .customSkin
  let baseSkin ← ((baseSkin serve application).run x).1
  return { blog, application, customSkin, baseSkin }

theorem run_foldlM_find (order : List Part) (found : Findings) (x : Exchange σ) :
    (order.foldlM (find serve blogId) found).run x =
      (.ok (gather serve blogId order found x), reach serve blogId x order) := by
  induction order generalizing found x with
  | nil => rfl
  | cons p order ih =>
    rw [List.foldlM_cons, run_bind, find, run_bind, run_outcome]
    exact ih _ _

theorem result_recordsIn (order : List Part) :
    ((recordsIn serve blogId order).run x).1 =
      assemble serve (gather serve blogId order unasked x) (reach serve blogId x order) := by
  simp only [recordsIn, result_bind, run_foldlM_find, run_lift]
  rfl

theorem gather_of_not_mem (h : p ∉ order) : gather serve blogId order found x p = found p := by
  induction order generalizing found x with
  | nil => rfl
  | cons q order ih =>
    have other := List.ne_of_not_mem_cons h
    rw [gather, ih (List.not_mem_of_not_mem_cons h), Function.update_of_ne other]

/-- A part that is fetched once is found as the exchange then is. -/
theorem gather_append (later : p ∉ after) :
    gather serve blogId (before ++ p :: after) found x p =
      ((fetch serve blogId p).run (reach serve blogId x before)).1 := by
  induction before generalizing found x with
  | nil =>
    rw [List.nil_append, gather, gather_of_not_mem later, Function.update_self]
    rfl
  | cons q before ih =>
    rw [List.cons_append, gather, ih]
    rfl

theorem reach_append (before after : List Part) :
    reach serve blogId x (before ++ after) =
      reach serve blogId (reach serve blogId x before) after :=
  List.foldl_append

theorem assemble_of_error {f : Failure} (h : found .blog = .error f) :
    assemble serve found x = .error f := by
  rw [assemble, h]
  rfl

/-- The base skin of an application depends on what is answered only. -/
theorem result_baseSkin_congr
    (same : ∀ endpoint, (y.ask serve endpoint).1 = (x.ask serve endpoint).1) (application : Option SkinApplication) :
    ((baseSkin serve application).run y).1 = ((baseSkin serve application).run x).1 := by
  have skin_congr (id : String) :
      ((some <$> skin serve id).run y).1 = ((some <$> skin serve id).run x).1 := by
    have asked : ((ask serve ("/api/skins/" ++ id)).run y).1 =
        ((ask serve ("/api/skins/" ++ id)).run x).1 := same _
    simp only [map_eq_pure_bind, result_bind, run_pure, skin, run_bind_read, asked]
  cases application with
  | none => rfl
  | some a =>
    unfold baseSkin
    dsimp only
    split
    · rfl
    · rw [result_orNothing, result_orNothing, skin_congr]
    · rfl

theorem assemble_congr (same : ∀ endpoint, (y.ask serve endpoint).1 = (x.ask serve endpoint).1) :
    assemble serve found y = assemble serve found x := by
  simp only [assemble, result_baseSkin_congr same]

end Order

end Talk
end PageSkins.Backend
