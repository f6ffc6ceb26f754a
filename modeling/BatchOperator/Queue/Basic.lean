import BatchOperator.Backoff
import BatchOperator.Queue.Bell

/-!
# The work queue

A queue of items in which every item waits at most once. An item that is being processed is handed
to nobody else; added meanwhile, it is marked and waits again when it is done. Items that failed
are added again after a delay that grows. After it was shut down the queue takes no more items; what
still waits is handed out, and then every getter is sent away.
-/

set_option autoImplicit false

namespace BatchOperator

/-- An item that will be added later. -/
structure Delayed (α : Type) where
  /-- When it is added. -/
  due : Instant
  item : α
  deriving DecidableEq, Repr

/-- A queue of work. -/
structure WorkQueue (α : Type) where
  backoff : Backoff α
  /-- The items that wait, the next one first. -/
  waiting : List α := []
  /-- The items that were added since they were last handed out. -/
  dirty : List α := []
  /-- The items that were handed out and are not done. -/
  processing : List α := []
  isShutDown : Bool := false
  /-- The items that will be added later, in the order in which that was asked for. -/
  delayed : List (Delayed α) := []
  bell : Bell := {}
  /-- The number of waiting items as it was last reported. -/
  depth : Nat := 0
  /-- How often an item was added again because it had failed. The counter is a word and begins
  again at zero. -/
  retries : Nat := 0

/-- What a look at the queue gives a getter. -/
inductive Look (α : Type) where
  | item (item : α)
  /-- There is nothing, and there will be nothing any more. -/
  | shutDown
  /-- There is nothing yet. -/
  | nothing
  deriving DecidableEq, Repr

namespace WorkQueue

variable {α : Type} [DecidableEq α]

/-- A queue without items. -/
def create (shortest longest : Duration) : WorkQueue α :=
  { backoff := { base := shortest, limit := longest } }

/-- The number of items that wait. -/
def size (q : WorkQueue α) : Nat := q.waiting.length

/-- Puts an item behind all that wait, and rings for one getter. -/
def append (q : WorkQueue α) (item : α) : WorkQueue α :=
  { q with
    waiting := q.waiting ++ [item], depth := (q.waiting ++ [item]).length, bell := q.bell.ring }

/-- Adds an item. An item that was added before and not handed out since is there already; one that
is being processed is only marked. -/
def add (q : WorkQueue α) (item : α) : WorkQueue α :=
  if q.isShutDown || q.dirty.contains item then q
  else
    -- One that is being processed waits again when it is done.
    let q := { q with dirty := item :: q.dirty }
    if q.processing.contains item then q else q.append item

/-- Adds an item after a delay, or at once if there is none. -/
def addAfter (q : WorkQueue α) (now : Instant) (item : α) (delay : Duration) : WorkQueue α :=
  if delay.isZero then q.add item
  else { q with delayed := q.delayed ++ [⟨now + delay.nanoseconds, item⟩] }

/-- Adds an item that has failed, after the delay that it has earned. -/
def addRateLimited (q : WorkQueue α) (now : Instant) (item : α) : WorkQueue α :=
  let (delay, backoff) := q.backoff.fail item
  { q with backoff, retries := (q.retries + 1) % Text.wordLimit }.addAfter now item delay

/-- Forgets the failures of an item. -/
def forget (q : WorkQueue α) (item : α) : WorkQueue α :=
  { q with backoff := q.backoff.forget item }

/-- How often an item has failed since its failures were forgotten. -/
def failures (q : WorkQueue α) (item : α) : Nat := q.backoff.failures item

/-- A getter looks: it takes the first item that waits, and rings for the next getter if there are
more. -/
def look (q : WorkQueue α) : Look α × WorkQueue α :=
  -- A ring that is remembered was meant for this look.
  let bell := q.bell.answer
  match q.waiting with
  | item :: rest =>
    (.item item,
      { q with
        waiting := rest, depth := rest.length, dirty := q.dirty.filter fun other => other ≠ item
        processing := if q.processing.contains item then q.processing else item :: q.processing
        bell := if rest.isEmpty then bell else bell.ring })
  | [] => (if q.isShutDown then .shutDown else .nothing, { q with bell })

/-- A getter looks, and goes to sleep if there is nothing yet. -/
def get (q : WorkQueue α) (getter : Nat) : Look α × WorkQueue α :=
  match q.look with
  | (.nothing, q) => (.nothing, { q with bell := q.bell.sleep getter })
  | found => found

/-- A getter that was woken looks again. -/
def getAgain (q : WorkQueue α) (getter : Nat) : Look α × WorkQueue α :=
  { q with bell := q.bell.rise getter }.get getter

/-- A getter gives up. -/
def leave (q : WorkQueue α) (getter : Nat) : WorkQueue α :=
  { q with bell := q.bell.leave getter }

/-- Marks an item as processed. If it was added meanwhile it waits again. -/
def done (q : WorkQueue α) (item : α) : WorkQueue α :=
  let q := { q with processing := q.processing.filter fun other => other ≠ item }
  if q.dirty.contains item && !q.isShutDown then q.append item else q

/-- Shuts the queue down and rings for all. -/
def shutDown (q : WorkQueue α) : WorkQueue α :=
  { q with isShutDown := true, bell := q.bell.ringAll }

end WorkQueue

end BatchOperator
