import PageSkins.Backend.Response

/-!
# Answers with an error status

An answer with an error status is a failure of the kind of its status, which tells the status
and the endpoint, whatever else the answer holds. There is one exception: where a backend says
how long to wait in digits that make no number, its answer is a bad value, after which there is
no other attempt.
-/

namespace PageSkins.Backend

open PageSkins.Text

/-! ### A time to wait -/

/-- Digits that make no number: some of them are raised, circled and the like, or there are too
many. -/
def Illegible (s : List Char) : Prop :=
  s ≠ [] ∧ (∀ c ∈ s, isAnyDigit c = true) ∧
    ((∃ c ∈ s, isDecimal c = false) ∨ Value.maxDigits < s.length)

namespace Response

theorem illegible_iff {s : List Char} :
    Illegible s ↔ ¬(s.isEmpty || !s.all isAnyDigit) = true ∧
      ¬(s.all isDecimal && decide (s.length ≤ Value.maxDigits)) = true := by
  simp only [Illegible, Bool.or_eq_true, Bool.and_eq_true, List.isEmpty_iff, List.all_eq_true,
    Bool.not_eq_true', List.all_eq_false, decide_eq_true_eq]
  grind

theorem seconds_of_illegible {s : List Char} (h : Illegible s) :
    seconds s = .error (.mishap .badValue "The digits make no number") := by
  obtain ⟨digits, unread⟩ := illegible_iff.1 h
  rw [seconds, if_neg digits, if_neg unread]

theorem exists_seconds_of_legible {s : List Char} (h : ¬Illegible s) :
    ∃ n, seconds s = .ok n := by
  unfold seconds
  split
  · exact ⟨none, rfl⟩
  · rename_i digits
    split
    · exact ⟨_, rfl⟩
    · rename_i unread
      exact absurd (illegible_iff.2 ⟨digits, unread⟩) h

/-! ### The failure that an answer is -/

/-- An answer asks to wait for a time in digits that make no number. -/
def Baffles (r : Response) : Prop :=
  r.status = 429 ∧ ∃ after, r.header? "Retry-After" = some after ∧ Illegible after.toList

/-- A failure tells what an answer with an error status means at an endpoint. -/
structure Tells (r : Response) (endpoint : String) (a : ApiFailure) : Prop where
  kind : a.kind = .ofStatus r.status
  status : a.status = some r.status
  endpoint : a.endpoint = endpoint
  response : a.response = r.fields

theorem ofStatus_eq_rateLimit {status : Int} :
    ApiKind.ofStatus status = .rateLimit ↔ status = 429 := by
  grind [ApiKind.ofStatus]

theorem isRetryable_ofStatus {status : Int} :
    (ApiKind.ofStatus status).isRetryable = true ↔ status = 429 ∨ 500 ≤ status := by
  grind [ApiKind.ofStatus, ApiKind.isRetryable]

variable {r : Response} (endpoint : String)

theorem tells_make (message : Value) (retryAfter : Option Int) :
    r.Tells endpoint
      (.make (.ofStatus r.status) message (some r.status) r.fields endpoint retryAfter) where
  kind := rfl
  status := rfl
  endpoint := rfl
  response := rfl

theorem failure_of_baffles (h : r.Baffles) :
    r.failure endpoint = .mishap .badValue "The digits make no number" := by
  obtain ⟨status, after, asked, illegible⟩ := h
  simp only [failure, ofStatus_eq_rateLimit.2 status, asked, Option.getD_some,
    seconds_of_illegible illegible]

theorem exists_seconds_of_not_baffles (h : ¬r.Baffles) (busy : r.status = 429) :
    ∃ n, seconds ((r.header? "Retry-After").getD "").toList = .ok n := by
  refine exists_seconds_of_legible fun illegible => h ⟨busy, ?_⟩
  cases asked : r.header? "Retry-After" with
  | none => exact absurd (by simp [asked]) illegible.1
  | some after => exact ⟨after, rfl, by simpa [asked] using illegible⟩

theorem exists_failure_of_not_baffles (h : ¬r.Baffles) :
    ∃ a, r.failure endpoint = .api a ∧ r.Tells endpoint a := by
  cases kind : ApiKind.ofStatus r.status with
  | rateLimit =>
    obtain ⟨n, read⟩ := exists_seconds_of_not_baffles h (ofStatus_eq_rateLimit.1 kind)
    simp only [failure, kind, read]
    exact ⟨_, rfl, kind ▸ tells_make endpoint _ _⟩
  | _ =>
    simp only [failure, kind]
    exact ⟨_, rfl, kind ▸ tells_make endpoint _ _⟩

/-- An answer with an error status is a failure. It is of the kind of the status and tells the
status and the endpoint, unless the answer baffles: then it is a bad value. It may pass if and only
if there are too many requests or the backend itself has failed, and the answer does not baffle. -/
theorem read_tells_iff (failed : 400 ≤ r.status) :
    ∃ f, r.read endpoint = .error f ∧
      ((∃ a, f = .api a ∧ r.Tells endpoint a) ↔ ¬r.Baffles) ∧
      ((∃ message, f = .mishap .badValue message) ↔ r.Baffles) ∧
      (f.isRetryable = true ↔ (r.status = 429 ∨ 500 ≤ r.status) ∧ ¬r.Baffles) := by
  refine ⟨r.failure endpoint, if_pos failed, ?_⟩
  by_cases baffles : r.Baffles
  · rw [failure_of_baffles endpoint baffles]
    simp [baffles, Failure.isRetryable]
  · obtain ⟨a, failure, tells⟩ := exists_failure_of_not_baffles endpoint baffles
    have again : (Failure.api a).isRetryable = true ↔ r.status = 429 ∨ 500 ≤ r.status := by
      rw [← isRetryable_ofStatus, ← tells.kind]
      rfl
    rw [failure]
    exact ⟨iff_of_true ⟨a, rfl, tells⟩ baffles, by simp [baffles], by simp [again, baffles]⟩

def busy : Response := { status := 429, headers := [("retry-after", "3")] }

theorem read_tells_iff_busy :
    400 ≤ busy.status ∧ ∃ a, busy.read "/health" = .error (.api a) ∧ busy.Tells "/health" a := by
  have failed : 400 ≤ busy.status := by decide
  have legible : ¬busy.Baffles := by
    rintro ⟨-, after, asked, illegible⟩
    have three : busy.header? "Retry-After" = some "3" := by decide +kernel
    obtain rfl : "3" = after := Option.some.inj (three.symm.trans asked)
    revert illegible
    rw [illegible_iff]
    decide +kernel
  obtain ⟨f, read, tells, -⟩ := read_tells_iff "/health" failed
  obtain ⟨a, rfl, told⟩ := tells.2 legible
  exact ⟨failed, a, read, told⟩

/-- Too many requests; the number of seconds is a raised two. -/
def raised : Response := { status := 429, headers := [("Retry-After", "\u00b2")] }

theorem not_tells_raised :
    400 ≤ raised.status ∧
      ¬∃ a, raised.read "/health" = .error (.api a) ∧ raised.Tells "/health" a := by
  have baffles : raised.Baffles := by
    refine ⟨rfl, "\u00b2", by decide +kernel, ?_⟩
    rw [illegible_iff]
    decide +kernel
  have read : raised.read "/health" = .error (raised.failure "/health") := rfl
  refine ⟨by decide, ?_⟩
  rintro ⟨a, told, -⟩
  rw [read, failure_of_baffles _ baffles] at told
  cases told

end Response

end PageSkins.Backend
