import PageSkins.Proofs.Breaker.Overlap

/-!
# A breaker while no time passes

At one moment a breaker is as good as a number: how many failures in a row it still lets
through. A failure takes one away, a success restores them all, and once none is left
every call is refused.
-/

namespace PageSkins.Breaker

variable {τ : Type} [Amount τ]

/-- How many failures in a row a breaker still lets through at a time. -/
def slack (b : Breaker τ) (now : τ) : Nat :=
  if b.allows now then
    match b.state with
    | .closed => (b.threshold - b.failures).toNat
    | _ => 1
  else 0

/-- How much is left of the slack after a call. -/
def spend (threshold slack : Nat) : Ending → Nat
  | .success => threshold
  | .failure => slack - 1
  | .other => slack

/-- At this time, a breaker that opens refuses the next call. -/
structure Steady (b : Breaker τ) (now : τ) : Prop where
  sound : b.Sound
  firm : ∀ c : Breaker τ, c.recovery = b.recovery → c.state = .opened now → c.allows now = false

variable {b : Breaker τ} {now : τ}

theorem slack_of_refuses (h : b.allows now = false) : b.slack now = 0 := by
  simp [slack, h]

theorem slack_of_closed (h : b.state = .closed) :
    b.slack now = (b.threshold - b.failures).toNat := by
  simp [slack, allows, h]

theorem slack_of_halfOpen (h : b.state = .halfOpen) : b.slack now = 1 := by
  simp [slack, allows, h]

/-- What is let through is told from the slack. -/
theorem Steady.allows_iff (h : b.Steady now) : b.allows now = true ↔ 0 < b.slack now := by
  cases allowed : b.allows now with
  | false => simp [slack_of_refuses allowed]
  | true =>
    cases state : b.state with
    | closed =>
      have few := h.sound.few state
      rw [slack_of_closed state]
      simp only [true_iff]
      omega
    | opened since => simp [slack, allowed, state]
    | halfOpen => simp [slack_of_halfOpen state]

theorem Steady.slack_le (h : b.Steady now) : b.slack now ≤ b.threshold.toNat := by
  have positive := h.sound.positive
  unfold slack
  split
  · split
    · omega
    · omega
  · omega

theorem Steady.call (h : b.Steady now) (ending : Ending) :
    (b.call ⟨now, now, ending⟩).2.Steady now where
  sound := by
    cases allowed : b.allows now with
    | false =>
      rw [call_of_refuses allowed]
      exact h.sound
    | true =>
      rw [call_of_allows allowed]
      exact h.sound.enter.finish now _ ending
  firm := by
    rw [settings_call.2]
    exact h.firm

/-- A breaker that opens has no slack left. -/
theorem Steady.slack_of_opened (h : b.Steady now) {c : Breaker τ} (same : c.recovery = b.recovery)
    (opened : c.state = .opened now) : c.slack now = 0 :=
  slack_of_refuses (h.firm c same opened)

theorem Steady.slack_finish_closed (h : b.Steady now) (shut : b.state = .closed)
    (ending : Ending) :
    (b.finish now ⟨false⟩ ending).slack now = spend b.threshold.toNat (b.slack now) ending := by
  have slack : b.slack now = _ := slack_of_closed shut
  cases ending with
  | success => exact (slack_of_closed rfl).trans (by simp [finish, spend])
  | other => rfl
  | failure =>
    have few := h.sound.few shut
    cases opening : b.opens ⟨false⟩ .failure with
    | true =>
      have many : b.threshold ≤ (b.failures + 1 : Nat) := by
        simpa using (opens_iff.1 opening).2
      rw [h.slack_of_opened (b.settings_finish now ⟨false⟩ .failure).2
        (state_finish_of_opens now opening), spend, slack]
      omega
    | false =>
      have still : (b.finish now ⟨false⟩ .failure).state = .closed :=
        (state_finish_of_not_opens now opening (by simp)).trans shut
      rw [slack_of_closed still, (b.settings_finish now ⟨false⟩ .failure).1, failures_finish,
        spend, slack]
      omega

/-- A trial that fails takes the last slack. -/
theorem Steady.slack_finish_trial (h : b.Steady now) (trial : b.state = .halfOpen)
    (ending : Ending) :
    (b.finish now ⟨true⟩ ending).slack now = spend b.threshold.toNat 1 ending := by
  cases ending with
  | success => exact (slack_of_closed rfl).trans (by simp [finish, spend])
  | other => exact slack_of_halfOpen trial
  | failure =>
    have opening : b.opens ⟨true⟩ .failure = true := opens_iff.2 ⟨rfl, .inl rfl⟩
    exact h.slack_of_opened (b.settings_finish now ⟨true⟩ .failure).2
      (state_finish_of_opens now opening)

/-- A call that is let through spends slack by how it ends. -/
theorem Steady.slack_call (h : b.Steady now) (left : 0 < b.slack now) (ending : Ending) :
    (b.call ⟨now, now, ending⟩).2.slack now = spend b.threshold.toNat (b.slack now) ending := by
  have allowed := h.allows_iff.2 left
  rw [call_of_allows allowed]
  by_cases shut : b.state = .closed
  · rw [enter_of_closed shut]
    exact h.slack_finish_closed shut ending
  · have trial : Steady { b with state := .halfOpen } now :=
      ⟨⟨h.sound.positive, by simp⟩, h.firm⟩
    have last : b.slack now = 1 := by
      cases state : b.state with
      | closed => exact absurd state shut
      | opened since => simp [slack, allowed, state]
      | halfOpen => exact slack_of_halfOpen state
    rw [enter_of_not_closed shut, last]
    exact trial.slack_finish_trial rfl ending

/-- Without slack a call changes nothing. -/
theorem Steady.call_of_no_slack (h : b.Steady now) (none_left : b.slack now = 0)
    (ending : Ending) :
    b.call ⟨now, now, ending⟩ = (.error (.breakerOpen b.failures), b) := by
  apply call_of_refuses
  rw [Bool.eq_false_iff, ne_eq, h.allows_iff]
  omega

end PageSkins.Breaker
