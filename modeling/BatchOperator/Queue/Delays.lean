import BatchOperator.Queue.Basic

/-!
# The passing of time in a queue

Items that were added with a delay are added when they are due, one after the other in the order in
which they are due, and every getter that is woken looks before the next one is added.
-/

set_option autoImplicit false

namespace BatchOperator

namespace WorkQueue

variable {α : Type} [DecidableEq α]

/-- The earlier of two moments, if there are any. -/
def earliest : List Instant → Option Instant
  | [] => none
  | first :: rest => some (rest.foldl min first)

/-- When the next item is due. -/
def nextDue (q : WorkQueue α) : Option Instant := earliest (q.delayed.map (·.due))

/-- The first item that is due at the given moment, and the others. -/
def takeDue (moment : Instant) : List (Delayed α) → Option (α × List (Delayed α))
  | [] => none
  | d :: rest =>
    if d.due = moment then some (d.item, rest)
    else (takeDue moment rest).map fun (item, others) => (item, d :: others)

/-- Adds one item that is due at the given moment, if there is one. -/
def fire (q : WorkQueue α) (moment : Instant) : Option (WorkQueue α) :=
  (takeDue moment q.delayed).map fun (item, others) => { q with delayed := others }.add item

/-- Adds what is due until the given moment, at most `fuel` items. -/
def addDueWithin (q : WorkQueue α) (moment : Instant) : Nat → WorkQueue α
  | 0 => q
  | fuel + 1 =>
    match q.nextDue with
    | none => q
    | some due =>
      if due ≤ moment then
        match q.fire due with
        | some q => addDueWithin q moment fuel
        | none => q
      else q

/-- Adds what is due until the given moment. -/
def addDue (q : WorkQueue α) (moment : Instant) : WorkQueue α :=
  q.addDueWithin moment q.delayed.length

/-- The getters that finish, in order, each with the item it got; `none` for one that was sent
away. -/
abbrev Finished (α : Type) := List (Nat × Option α)

/-- Lets every getter that was woken look, as long as there are any, at most `fuel` times. -/
def settleWithin : Nat → WorkQueue α → Finished α × WorkQueue α
  | 0, q => ([], q)
  | fuel + 1, q =>
    match q.bell.woken with
    | [] => ([], q)
    | (getter, _) :: _ =>
      match q.getAgain getter with
      | (.item item, q) =>
        let (finished, q) := settleWithin fuel q
        ((getter, some item) :: finished, q)
      | (.shutDown, q) =>
        let (finished, q) := settleWithin fuel q
        ((getter, none) :: finished, q)
      | (.nothing, q) => settleWithin fuel q

/-- Lets every getter that was woken look, as long as there are any. -/
def settle (q : WorkQueue α) : Finished α × WorkQueue α := settleWithin q.bell.looks q

/-- Adds what is due until the given moment, at most `fuel` items. -/
def passWithin : Nat → Instant → WorkQueue α → Finished α × WorkQueue α
  | 0, _, q => ([], q)
  | fuel + 1, moment, q =>
    match q.nextDue with
    | none => ([], q)
    | some due =>
      if due ≤ moment then
        match q.fire due with
        | none => ([], q)
        | some q =>
          -- Who was woken looks before the next item is added.
          let (first, q) := q.settle
          let (later, q) := passWithin fuel moment q
          (first ++ later, q)
      else ([], q)

/-- Lets time pass until the given moment, which is included. -/
def pass (q : WorkQueue α) (moment : Instant) : Finished α × WorkQueue α :=
  passWithin q.delayed.length moment q

end WorkQueue

end BatchOperator
