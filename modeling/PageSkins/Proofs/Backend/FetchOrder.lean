import PageSkins.Failure.Name
import PageSkins.Proofs.Backend.Parts

/-!
# The order of the fetches

The blog, its application and its custom skin are fetched past one breaker. At one moment,
and with a fixed answer for each address, the order in which they are fetched makes no
difference as long as the fetches of the application and the custom skin do not use up the
slack of the breaker: a blog that is fetched after them is refused otherwise.
-/

namespace PageSkins.Backend

open PageSkins.Decimal

namespace Talk

open Exchange (Since)

variable {σ α : Type}

/-! ### Records that are settled, or refused -/

section Settled

variable {answers : String → Except Failure Response} {blogId : String} {x y : Exchange σ}
  {before after : List Part}

/-- The records of a blog if no question is refused. -/
def settled (serve : Server σ) (blogId : String) (x : Exchange σ) : Except Failure SkinRecords :=
  assemble serve (fun p => p.conclude (x.answer serve (p.endpoint blogId))) x

/-- No part comes twice. -/
theorem Part.notMem_later {p : Part} (h : (before ++ p :: after).Perm Part.all) : p ∉ after := by
  have once : (before ++ p :: after).Nodup := h.nodup_iff.2 (by decide)
  exact (List.nodup_cons.1 (List.nodup_append.1 once).2.1).1

theorem Part.mem_of_perm {order : List Part} (h : order.Perm Part.all) (p : Part) : p ∈ order := by
  refine h.mem_iff.2 ?_
  cases p with
  | blog => decide
  | application => decide
  | customSkin => decide

/-- Around the blog there are the spare parts. -/
theorem Part.perm_spare (h : (before ++ .blog :: after).Perm Part.all) :
    (before ++ after).Perm Part.spare :=
  (List.perm_middle.symm.trans h).cons_inv

/-- Once the blog is answered, there is some slack throughout. -/
theorem slack_reach_pos (since : Since x x) (authorized : x.Authorized) {v : Value}
    (order : (before ++ .blog :: after).Perm Part.all)
    (left : 0 < (reach (.fixed answers) blogId x before).slack)
    (answered : x.answer (.fixed answers) (Part.blog.endpoint blogId) = .ok v)
    {first : List Part} (begins : first <+: before ++ .blog :: after) :
    0 < (reach (.fixed answers) blogId x first).slack := by
  obtain early | late := List.prefix_or_prefix_of_prefix begins (List.prefix_append before _)
  · -- Slack that is used up before the blog would not be there for it.
    obtain ⟨rest, rfl⟩ := early
    refine Nat.pos_of_ne_zero fun none_left => ?_
    rw [reach_append, (since.reach _ blogId first).slack_of_none authorized none_left rest] at left
    cases left
  · obtain ⟨rest, rfl⟩ := late
    obtain rfl | ⟨rest, rfl, within⟩ :=
      List.prefix_cons_iff.1 ((List.prefix_append_right_inj _).1 begins)
    · rwa [List.append_nil]
    · -- The blog restores all slack, and at most two parts come after it.
      have since_blog := since.reach (.fixed answers) blogId before
      have full : ((fetch (.fixed answers) blogId .blog).run
          (reach (.fixed answers) blogId x before)).2.slack = 5 := by
        rw [since_blog.slack_of_left authorized left, answered]
        rfl
      have spent := (since_blog.fetch (.fixed answers) blogId .blog).slack_le_reach answers blogId
        authorized rest
      have few : rest.countP (fails (.fixed answers) blogId x) ≤ rest.length :=
        List.countP_le_length
      have short := (Part.perm_spare order).length_eq
      have longest := within.length_le
      rw [reach_append, reach_cons]
      simp only [List.length_append, Part.spare, List.length_cons, List.length_nil] at short
      omega

/-- What is found of a part for which there is some slack is what its answer tells. -/
theorem gather_of_left (since : Since x x) {p : Part} (later : p ∉ after)
    (left : x.Authorized → 0 < (reach (.fixed answers) blogId x before).slack) :
    gather (.fixed answers) blogId (before ++ p :: after) unasked x p =
      p.conclude (x.answer (.fixed answers) (p.endpoint blogId)) := by
  rw [gather_append later, result_fetch, (since.reach (.fixed answers) blogId before).answer left]

/-- Whatever the order, the records are settled if there is some slack left for the blog. -/
theorem recordsIn_settled (usual : x.Usual) (order : (before ++ .blog :: after).Perm Part.all)
    (left : x.Authorized → 0 < (reach (.fixed answers) blogId x before).slack) :
    ((recordsIn (.fixed answers) blogId (before ++ .blog :: after)).run x).1 =
      settled (.fixed answers) blogId x := by
  have since : Since x x := .refl usual
  have blog_found := gather_of_left since (Part.notMem_later order) left
  rw [result_recordsIn]
  cases blog : Part.blog.conclude (x.answer (.fixed answers) (Part.blog.endpoint blogId)) with
  | error f =>
    rw [assemble_of_error (blog_found.trans blog)]
    exact (assemble_of_error blog).symm
  | ok b =>
    obtain ⟨v, answered, -⟩ := ok_of_bind blog
    have open_for : ∀ {first : List Part}, first <+: before ++ .blog :: after → x.Authorized →
        0 < (reach (.fixed answers) blogId x first).slack := fun begins authorized =>
      slack_reach_pos since authorized order (left authorized) answered begins
    have found : gather (.fixed answers) blogId (before ++ .blog :: after) unasked x =
        fun p => p.conclude (x.answer (.fixed answers) (p.endpoint blogId)) := by
      funext p
      obtain ⟨first, rest, split⟩ := List.append_of_mem (Part.mem_of_perm order p)
      rw [split]
      exact gather_of_left since (Part.notMem_later (split ▸ order))
        (open_for (split ▸ List.prefix_append _ _))
    rw [found]
    refine assemble_congr fun endpoint => ?_
    rw [(since.reach (.fixed answers) blogId _).answer (open_for (List.prefix_refl _)),
      since.answer (open_for List.nil_prefix)]

/-- Without slack left for the blog, its records are refused. -/
theorem recordsIn_refused (usual : x.Usual) (authorized : x.Authorized)
    (order : (before ++ .blog :: after).Perm Part.all)
    (none_left : (reach (.fixed answers) blogId x before).slack = 0) :
    ∃ n, ((recordsIn (.fixed answers) blogId (before ++ .blog :: after)).run x).1 =
      .error (.breakerOpen n) := by
  have since := (Since.refl usual).reach (.fixed answers) blogId before
  have refused := Exchange.ask_refused (.fixed answers) (Part.blog.endpoint blogId) since.usual
    (since.still.terms.authorized authorized) none_left
  refine ⟨(reach (.fixed answers) blogId x before).client.breaker.failures, ?_⟩
  rw [result_recordsIn]
  apply assemble_of_error
  rw [gather_append (Part.notMem_later order), result_fetch, refused]
  rfl

end Settled

/-! ### Results that are no refused calls -/

/-- A result is not the failure of a refused call. -/
def Unrefused (result : Except Failure α) : Prop :=
  ∀ f, result = .error f → f.name ≠ Topic.breakerOpen.name

section Unrefused

variable {serve : Server σ} {x : Exchange σ} {endpoint : String} {answer : Except Failure Value}

theorem unrefused_ok (a : α) : Unrefused (.ok a) := by
  rintro f ⟨⟩

theorem Unrefused.bind {β : Type} {result : Except Failure α} {next : α → Except Failure β}
    (first : Unrefused result) (rest : ∀ a, Unrefused (next a)) : Unrefused (result >>= next) := by
  cases result with
  | ok a => exact rest a
  | error f =>
    rintro _ ⟨⟩
    exact first f rfl

theorem Unrefused.tolerated {result : Except Failure (Option α)} (h : Unrefused result) :
    Unrefused (tolerated result) := by
  cases result with
  | ok a => exact h
  | error f =>
    unfold Talk.tolerated
    dsimp only
    split
    · exact unrefused_ok none
    · exact h

theorem Unrefused.forgiven (h : Unrefused answer) : Unrefused (forgiven answer) :=
  fun f failed => h f (forgiven_eq_error failed)

theorem unrefused_record (check : Fields → Checked α) (v : Value) : Unrefused (record check v) := by
  intro f failed
  unfold record at failed
  split at failed
  · split at failed
    · cases failed
    · cases failed
      exact show "ValidationError" ≠ Topic.breakerOpen.name by decide
  · cases failed
    decide

theorem unrefused_optionalRecord (check : Fields → Checked α) (v : Value) :
    Unrefused (optionalRecord check v) := by
  unfold optionalRecord
  split
  · exact (unrefused_record check v).bind fun a => unrefused_ok (some a)
  · exact unrefused_ok none

theorem name_of_ofAttempt {f : Failure} (h : OfAttempt f) : f.name ≠ Topic.breakerOpen.name := by
  cases h with
  | network kind message =>
    change kind.name ≠ _
    cases kind <;> decide
  | api a =>
    change a.kind.name ≠ _
    cases a.kind <;> decide
  | badValue message => exact show "ValueError" ≠ Topic.breakerOpen.name by decide

/-- No answer is the failure of a refused call. -/
theorem unrefused_answer (network : serve.IsNetwork) (authorized : x.Authorized) :
    Unrefused (x.answer serve endpoint) := by
  obtain ⟨authorization, headers⟩ := authorized
  intro f failed
  rw [Exchange.answer, headers] at failed
  obtain attempted | ⟨last, rfl⟩ | ⟨o, rfl, -⟩ :=
    Exchange.failure_of_ending network (Retry.executeWith_arises x.entered) failed
  · exact name_of_ofAttempt attempted
  · exact show "MaxRetriesExceededError" ≠ Topic.breakerOpen.name by decide
  · cases o with
    | tooLarge => decide
    | zeroDivision => decide

theorem Part.unrefused_conclude (h : Unrefused answer) (p : Part) :
    Unrefused (p.conclude answer) := by
  cases p with
  | blog => exact h.bind fun v => unrefused_record _ v
  | application => exact (h.bind fun v => unrefused_optionalRecord _ v).tolerated
  | customSkin => exact (h.forgiven.bind fun v => unrefused_optionalRecord _ v).tolerated

theorem unrefused_baseSkin (asked : ∀ endpoint, Unrefused (x.ask serve endpoint).1)
    (application : Option SkinApplication) : Unrefused ((baseSkin serve application).run x).1 := by
  cases application with
  | none => exact unrefused_ok none
  | some a =>
    unfold baseSkin
    dsimp only
    split
    · exact unrefused_ok _
    · rename_i id _ _
      rw [result_orNothing, map_eq_pure_bind, result_bind, skin, run_bind_read]
      exact ((asked _).bind fun v => unrefused_record _ v).bind (fun s => unrefused_ok (some s))
        |>.tolerated
    · exact unrefused_ok none

theorem unrefused_settled {blogId : String} (network : serve.IsNetwork) (usual : x.Usual)
    (authorized : x.Authorized) (left : 0 < x.slack) : Unrefused (settled serve blogId x) := by
  have answered : ∀ endpoint, Unrefused (x.answer serve endpoint) := fun _ =>
    unrefused_answer network authorized
  have asked : ∀ endpoint, Unrefused (x.ask serve endpoint).1 := by
    intro endpoint
    rw [Exchange.ask_answer serve endpoint usual fun _ => left]
    exact answered endpoint
  have concluded : ∀ p : Part, Unrefused (p.conclude (x.answer serve (p.endpoint blogId))) :=
    fun p => Part.unrefused_conclude (answered _) p
  unfold settled assemble
  exact (concluded .blog).bind fun _ => (concluded .application).bind fun a =>
    (concluded .customSkin).bind fun _ => (unrefused_baseSkin asked a).bind fun _ => unrefused_ok _

end Unrefused

/-! ### Every order -/

/-- The same result, or failures under the same name. -/
inductive SameOutcome : Except Failure α → Except Failure α → Prop
  | ok (a : α) : SameOutcome (.ok a) (.ok a)
  | error {f g : Failure} (name : f.name = g.name) : SameOutcome (.error f) (.error g)

/-- The breaker has some slack left, but not enough for the failing fetches of a blog. -/
def Exposed (serve : Server σ) (blogId : String) (x : Exchange σ) : Prop :=
  x.Authorized ∧ 0 < x.slack ∧ x.slack ≤ Part.spare.countP (fails serve blogId x)

section Orders

variable {answers : String → Except Failure Response} {blogId : String} {x : Exchange σ}
  {before after : List Part}

theorem SameOutcome.refl (result : Except Failure α) : SameOutcome result result := by
  cases result with
  | ok a => exact .ok a
  | error f => exact .error rfl

/-- No order of the fetches matters to a client that is not exposed. -/
theorem sameOutcome_of_not_exposed (usual : x.Usual)
    (unexposed : ¬ Exposed (.fixed answers) blogId x) {order order' : List Part}
    (h : order.Perm Part.all) (h' : order'.Perm Part.all) :
    SameOutcome ((recordsIn (.fixed answers) blogId order).run x).1
      ((recordsIn (.fixed answers) blogId order').run x).1 := by
  obtain ⟨before, after, rfl⟩ := List.append_of_mem (Part.mem_of_perm h Part.blog)
  obtain ⟨before', after', rfl⟩ := List.append_of_mem (Part.mem_of_perm h' Part.blog)
  have since : Since x x := .refl usual
  by_cases refused : x.Authorized ∧ x.slack = 0
  · obtain ⟨authorized, none_left⟩ := refused
    obtain ⟨n, result⟩ := recordsIn_refused usual authorized h
      (since.slack_of_none authorized none_left before)
    obtain ⟨n', result'⟩ := recordsIn_refused usual authorized h'
      (since.slack_of_none authorized none_left before')
    rw [result, result']
    exact .error rfl
  · have left : ∀ {before after : List Part}, (before ++ .blog :: after).Perm Part.all →
        x.Authorized → 0 < (reach (.fixed answers) blogId x before).slack := by
      intro before after order authorized
      have enough : ¬ x.slack ≤ Part.spare.countP (fails (.fixed answers) blogId x) := fun few =>
        unexposed ⟨authorized, Nat.pos_of_ne_zero fun none_left => refused ⟨authorized, none_left⟩,
          few⟩
      have spent := since.slack_le_reach answers blogId authorized before
      have counted := (Part.perm_spare order).countP_eq (fails (.fixed answers) blogId x)
      rw [List.countP_append] at counted
      omega
    rw [recordsIn_settled usual h (left h), recordsIn_settled usual h' (left h')]
    exact .refl _

/-- An exposed client finds the records, or why not, if it fetches the blog first, and is refused
if it fetches it after what fails. -/
theorem not_sameOutcome_of_exposed (network : (Server.fixed answers : Server σ).IsNetwork)
    (usual : x.Usual) (exposed : Exposed (.fixed answers) blogId x) :
    ∃ order, order.Perm Part.all ∧
      ¬ SameOutcome ((recordsIn (.fixed answers) blogId Part.all).run x).1
        ((recordsIn (.fixed answers) blogId order).run x).1 := by
  obtain ⟨authorized, some_left, few⟩ := exposed
  have since : Since x x := .refl usual
  -- What fails goes first: a success in between would restore the slack.
  let failing := Part.spare.filter (fails (.fixed answers) blogId x)
  let others := Part.spare.filter (!fails (.fixed answers) blogId x ·)
  have order : (failing ++ others ++ [Part.blog]).Perm Part.all :=
    ((List.filter_append_perm _ _).append_right [Part.blog]).trans (by decide)
  have used_up : (reach (.fixed answers) blogId x failing).slack = 0 := by
    rw [since.slack_reach_of_fails answers blogId authorized fun p found =>
      (List.mem_filter.1 found).2]
    rw [List.countP_eq_length_filter] at few
    exact Nat.sub_eq_zero_of_le few
  have none_left : (reach (.fixed answers) blogId x (failing ++ others)).slack = 0 := by
    rw [reach_append]
    exact (since.reach _ blogId failing).slack_of_none authorized used_up others
  obtain ⟨n, refused⟩ := recordsIn_refused usual authorized order none_left
  have as_is : ([] ++ Part.blog :: Part.spare).Perm Part.all := .refl _
  have settled_first : ((recordsIn (.fixed answers) blogId Part.all).run x).1 =
      settled (.fixed answers) blogId x := recordsIn_settled usual as_is fun _ => some_left
  refine ⟨_, order, ?_⟩
  rw [refused, settled_first]
  intro same
  cases result : settled (.fixed answers) blogId x with
  | ok records =>
    rw [result] at same
    cases same
  | error f =>
    rw [result] at same
    cases same with
    | error name => exact unrefused_settled network usual authorized some_left f result name

/-- At one moment, and with a fixed answer for each address, the order of the fetches makes no
difference to a client exactly if it is not exposed. -/
theorem recordsIn_sameOutcome_iff (network : (Server.fixed answers : Server σ).IsNetwork)
    (reached : x.Reached) :
    (∀ order order', order.Perm Part.all → order'.Perm Part.all →
      SameOutcome ((recordsIn (.fixed answers) blogId order).run x).1
        ((recordsIn (.fixed answers) blogId order').run x).1) ↔
      ¬ Exposed (.fixed answers) blogId x := by
  constructor
  · intro same exposed
    obtain ⟨order, permuted, different⟩ := not_sameOutcome_of_exposed network reached.usual exposed
    exact different (same _ _ (.refl _) permuted)
  · intro unexposed order order' h h'
    exact sameOutcome_of_not_exposed reached.usual unexposed h h'

end Orders

/-- The blog is found and has no custom skin. Its application cannot be reached, and the backend
is not alive. -/
def ailing (url : String) : Except Failure Response :=
  if url = "https://blog.example.com/api/blogs/blog-1" then .ok someBlog
  else if url = "https://blog.example.com/api/skins/custom/blog-1" then .ok { status := 200 }
  else if url = "https://blog.example.com/health" then .ok { status := 500 }
  else .error (.network .connection "refused")

theorem ailing_isNetwork : (Server.fixed ailing : Server (List Response)).IsNetwork := by
  intro request s f failed
  simp only [Server.fixed, ailing] at failed
  split at failed
  · cases failed
  · split at failed
    · cases failed
    · split at failed
      · cases failed
      · cases failed
        rfl

theorem recordsIn_sameOutcome_iff_new :
    (Server.fixed ailing : Server (List Response)).IsNetwork ∧ (asking []).Reached ∧
      ∀ order order', order.Perm Part.all → order'.Perm Part.all →
        SameOutcome ((recordsIn (.fixed ailing) "blog-1" order).run (asking [])).1
          ((recordsIn (.fixed ailing) "blog-1" order').run (asking [])).1 := by
  have reached : (asking []).Reached := Exchange.reached_of_new rfl
  refine ⟨ailing_isNetwork, reached, (recordsIn_sameOutcome_iff ailing_isNetwork reached).2 ?_⟩
  rintro ⟨-, -, few⟩
  have most : 5 ≤ 2 := few.trans List.countP_le_length
  omega

def shaken : Exchange (List Response) :=
  (List.replicate 4 "/health").foldl (fun x endpoint => (x.ask (.fixed ailing) endpoint).2)
    (asking [])

theorem not_sameOutcome_shaken :
    shaken.Reached ∧ ¬ ∀ order order' : List Part, order.Perm Part.all → order'.Perm Part.all →
      SameOutcome ((recordsIn (.fixed ailing) "blog-1" order).run shaken).1
        ((recordsIn (.fixed ailing) "blog-1" order').run shaken).1 := by
  have new : (asking []).Reached := Exchange.reached_of_new rfl
  have reached : shaken.Reached := new.asks _ _
  have exposed : Exposed (.fixed ailing) "blog-1" shaken := by
    have anonymous : shaken.client.credentials.token = none := by decide +kernel
    have slack : shaken.slack = 1 := by decide +kernel
    have failing : Part.spare.countP (fails (.fixed ailing) "blog-1" shaken) = 1 := by
      decide +kernel
    refine ⟨⟨[], by rw [Credentials.headers, anonymous]⟩, ?_⟩
    rw [slack, failing]
    decide
  refine ⟨reached, fun same => ?_⟩
  obtain ⟨order, permuted, different⟩ :=
    not_sameOutcome_of_exposed ailing_isNetwork reached.usual exposed
  exact different (same _ _ (.refl _) permuted)

end Talk
end PageSkins.Backend
