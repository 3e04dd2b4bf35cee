import PageSkins.Decimal.Notation
import PageSkins.Retry

/-!
# Breakers

A breaker stands in front of something that may fail. It counts failures; from a threshold
on it refuses all calls for a while, and then lets one through as a trial. A call takes two
steps, `start` before and `finish` after, and other calls may come between them.
-/

namespace PageSkins

inductive BreakerState (τ : Type) where
  | closed
  | opened (since : τ)
  | halfOpen

structure Breaker (τ : Type) where
  /-- How many failures in a row open the breaker. -/
  threshold : Int
  /-- How long the breaker stays open. -/
  recovery : τ
  state : BreakerState τ := .closed
  /-- Failures since the last success. -/
  failures : Nat := 0

namespace Breaker

variable {τ : Type}

/-- A call that was let through. -/
structure Ticket where
  trial : Bool

inductive Ending where
  | success
  /-- A failure that counts. -/
  | failure
  /-- A failure that does not count. -/
  | other
deriving DecidableEq

/-- The breaker, as it stands when a call is let through. -/
def enter (b : Breaker τ) : Breaker τ × Ticket :=
  match b.state with
  | .closed => (b, ⟨false⟩)
  | .opened _ => ({ b with state := .halfOpen }, ⟨true⟩)
  | .halfOpen => (b, ⟨true⟩)

def allows [Amount τ] (b : Breaker τ) (now : τ) : Bool :=
  match b.state with
  | .opened since =>
    match Amount.sub now since with
    | .ok passed => Amount.atMost b.recovery passed
    | .error _ => true
  | _ => true

/-- The first step of a call. A call that is refused changes nothing. -/
def start [Amount τ] (b : Breaker τ) (now : τ) : Option (Breaker τ × Ticket) :=
  if b.allows now then some b.enter else none

/-- The last step of a call. A trial that fails opens the breaker again. -/
def finish (b : Breaker τ) (now : τ) (ticket : Ticket) : Ending → Breaker τ
  | .success => { b with state := .closed, failures := 0 }
  | .failure =>
    let b := { b with failures := b.failures + 1 }
    if ticket.trial ∨ b.threshold ≤ b.failures then { b with state := .opened now } else b
  | .other => b

def opens (b : Breaker τ) (ticket : Ticket) (ending : Ending) : Bool :=
  ending = .failure && (ticket.trial || b.threshold ≤ b.failures + 1)

/-- What is reported when the breaker opens with its last step. -/
def reports (b : Breaker τ) (ticket : Ticket) (ending : Ending) : List String :=
  if b.opens ticket ending then
    ["Circuit breaker opened after " ++ String.ofList (Decimal.natDigits (b.failures + 1)) ++ " failures"]
  else []

def stateName (b : Breaker τ) : String :=
  match b.state with
  | .closed => "closed"
  | .opened _ => "open"
  | .halfOpen => "half_open"

def toValue (b : Breaker Decimal.Number) : Value := .map [
  ("state", .text b.stateName), ("failure_count", .int b.failures), ("failure_threshold", .int b.threshold),
  ("recovery_timeout", .ofNumber b.recovery)]

end Breaker
end PageSkins
