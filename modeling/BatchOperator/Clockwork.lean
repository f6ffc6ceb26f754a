import BatchOperator.Duration

/-!
# Clockworks

Systems on a clock that only moves when nothing else can. All steps that can be made at a moment are
made before time passes, and then the clock goes on to the next moment at which something is due.
-/

set_option autoImplicit false

namespace BatchOperator

/-- A system on a clock. -/
structure Clockwork (α : Type) where
  /-- A step at the moment that the clock shows, if one can be made. -/
  step : α → Option α
  /-- The next moment at which something is due. -/
  nextMoment : α → Option Instant
  /-- Moves the clock to a moment and lets happen what is due. -/
  moveTo : Instant → α → α

namespace Clockwork

variable {α : Type} (clock : Clockwork α)

/-- Makes steps as long as time need not pass, at most `fuel` of them. -/
def settle : Nat → α → α
  | 0, a => a
  | fuel + 1, a =>
    match clock.step a with
    | some a => settle fuel a
    | none => a

/-- Lets time pass until the given moment, which is included. At most `steps` steps are made at a
moment, and at most `fuel` moments are passed. -/
def passUntil (steps : Nat) (moment : Instant) : Nat → α → α
  | 0, a => a
  | fuel + 1, a =>
    let a := clock.settle steps a
    match clock.nextMoment a with
    | some next =>
      -- What is due at the very end still happens.
      if next ≤ moment then passUntil steps moment fuel (clock.moveTo next a)
      else clock.moveTo moment a
    | none => clock.moveTo moment a

/-- Lets time pass until something is over. At most `steps` steps are made at a moment, and at most
`fuel` moments are passed. -/
def await (isOver : α → Bool) (steps : Nat) : Nat → α → α
  | 0, a => a
  | fuel + 1, a =>
    let a := clock.settle steps a
    if isOver a then a
    else match clock.nextMoment a with
      | some next => await isOver steps fuel (clock.moveTo next a)
      | none => a

end Clockwork

end BatchOperator
