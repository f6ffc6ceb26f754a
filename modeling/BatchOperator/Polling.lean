import BatchOperator.Error
import BatchOperator.Duration

/-!
# Polling

Asking again and again until there is an answer or the time is up. After every attempt without an
answer the time is looked at, then a pause is made; a failed attempt is one without an answer.
`Poll.judge` is the decision after one attempt, `Poll.run` makes attempts until the decision is
final, and `Poll.wait` does so with attempts that may fail.
-/

set_option autoImplicit false

namespace BatchOperator

/-- A wait for something. -/
structure Poll where
  /-- What is waited for. -/
  description : String
  timeout : Duration
  /-- The pause between two attempts. -/
  interval : Duration
  /-- When the wait began. -/
  start : Instant

/-- The decision after an attempt. -/
inductive PollVerdict (α : Type) where
  | ready (value : α)
  | expired
  /-- The next attempt is made at the given moment. -/
  | again (moment : Instant)
  deriving DecidableEq

namespace Poll

/-- The pause between two attempts wherever the operator polls. -/
def usualInterval : Duration := .ofMillis 500

/-- The failure of a wait that found nothing in time. -/
def expiry (p : Poll) : Error :=
  .timeout ("after " ++ p.timeout.render ++ " waiting for " ++ p.description)

/-- The decision after an attempt that ended at `now` with the given answer, if it gave one. -/
def judge {α : Type} (p : Poll) (now : Instant) : Option α → PollVerdict α
  | some value => .ready value
  | none =>
    -- The time is only looked at after an attempt, so there always is one.
    if now - p.start ≥ p.timeout.nanoseconds then .expired
    else .again (now + p.interval.nanoseconds)

/-- How many attempts can be made at most: one at the start, one after each pause that begins before
the time is up. -/
def attempts (p : Poll) : Nat := p.timeout.nanoseconds / p.interval.nanoseconds + 2

/-- Makes at most `fuel` attempts from `now` on. An attempt changes a state and takes until a later
moment. -/
def runWithin {σ α : Type} (p : Poll) (attempt : Instant → σ → Instant × σ × Option α) :
    Nat → Instant → σ → Instant × σ × Except Error α
  | 0, now, s => (now, s, .error p.expiry)
  | fuel + 1, now, s =>
    let (now, s, answer) := attempt now s
    match p.judge now answer with
    | .ready value => (now, s, .ok value)
    | .expired => (now, s, .error p.expiry)
    | .again moment => p.runWithin attempt fuel moment s

/-- Makes attempts until there is an answer or the time is up. -/
def run {σ α : Type} (p : Poll) (attempt : Instant → σ → Instant × σ × Option α) (s : σ) :
    Instant × σ × Except Error α :=
  p.runWithin attempt p.attempts p.start s

/-- An attempt that may fail, as one that has an answer or has none. What the failure was is not
looked at. -/
def heard {σ α : Type} (attempt : Instant → σ → Instant × σ × Except Error (Option α))
    (now : Instant) (s : σ) : Instant × σ × Option α :=
  match attempt now s with
  | (now, s, .ok answer) => (now, s, answer)
  | (now, s, .error _) => (now, s, none)

/-- Makes attempts, which may fail, until there is an answer or the time is up. -/
def wait {σ α : Type} (p : Poll) (attempt : Instant → σ → Instant × σ × Except Error (Option α))
    (s : σ) : Instant × σ × Except Error α :=
  p.run (heard attempt) s

end Poll

end BatchOperator
