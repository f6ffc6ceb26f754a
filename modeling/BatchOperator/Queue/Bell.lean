/-!
# The bell of a queue

How getters that found nothing are woken. One ring wakes the getter that has slept longest; when
nobody sleeps the ring is remembered, and the next getter that looks takes it back. A ring for all
wakes every sleeper and is not remembered. A getter that gives up after it was woken by a single
ring hands that ring on, so that no ring is lost.
-/

set_option autoImplicit false

namespace BatchOperator

/-- What a getter was woken by. -/
inductive Ring where
  /-- A ring that was meant for one getter. -/
  | single
  /-- A ring for all. -/
  | general
  deriving DecidableEq, Repr

/-- The getters that sleep or were woken, by their numbers. -/
structure Bell where
  /-- Whether a ring that woke nobody is remembered. -/
  rung : Bool := false
  /-- The getters that sleep, the longest asleep first. -/
  asleep : List Nat := []
  /-- The getters that were woken and have not looked yet, the first woken first. -/
  woken : List (Nat × Ring) := []
  deriving DecidableEq, Repr

namespace Bell

/-- Rings for one getter. -/
def ring (b : Bell) : Bell :=
  match b.asleep with
  | [] => { b with rung := true }
  | getter :: rest => { b with asleep := rest, woken := b.woken ++ [(getter, .single)] }

/-- Rings for all getters that sleep. -/
def ringAll (b : Bell) : Bell :=
  { b with asleep := [], woken := b.woken ++ b.asleep.map fun getter => (getter, .general) }

/-- A getter looks, and takes back a ring that is remembered. -/
def answer (b : Bell) : Bell := { b with rung := false }

/-- A getter goes to sleep. -/
def sleep (b : Bell) (getter : Nat) : Bell := { b with asleep := b.asleep ++ [getter] }

/-- A getter that was woken gets up to look. -/
def rise (b : Bell) (getter : Nat) : Bell :=
  { b with woken := b.woken.filter fun (other, _) => other != getter }

/-- A getter gives up, asleep or woken. -/
def leave (b : Bell) (getter : Nat) : Bell :=
  -- A ring for all was heard by everybody and need not be handed on.
  let wokenSingly := b.woken.any fun (other, by') => other == getter && by' == .single
  let b := { b.rise getter with asleep := b.asleep.filter fun other => other != getter }
  if wokenSingly then b.ring else b

/-- How many looks can follow before every getter sleeps or is gone. -/
def looks (b : Bell) : Nat := 2 * b.woken.length + b.asleep.length

end Bell

end BatchOperator
