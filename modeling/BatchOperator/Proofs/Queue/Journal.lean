import BatchOperator.Proofs.Queue.Invariant

/-!
# Runs of a work queue

A run of a queue is a sequence of operations by any number of workers, in which an item is reported
as done only by the worker that holds it. A `Journal` is the queue after a run together with the
history of the run, the last event first: what was added, what entered the waiting list, what was
handed out to whom and what was finished. `effect_run` says what an operation can do to the items of
a queue: there are five effects for ten operations.
-/

set_option autoImplicit false

namespace BatchOperator

namespace WorkQueue

/-- What can be done with a queue. Workers go by their numbers. -/
inductive Operation (α : Type) where
  | add (item : α)
  | addAfter (now : Instant) (item : α) (delay : Duration)
  | addRateLimited (now : Instant) (item : α)
  /-- A delay is over at the given moment. -/
  | fire (moment : Instant)
  | get (worker : Nat)
  /-- A worker that was woken looks again. -/
  | getAgain (worker : Nat)
  | leave (worker : Nat)
  | done (worker : Nat) (item : α)
  | forget (item : α)
  | shutDown

/-- What is written down about a run. -/
inductive Event (α : Type) where
  /-- Somebody, or a delay that was over, added the item, whether or not that changed anything. -/
  | added (item : α)
  /-- The item got a place at the end of the waiting list. -/
  | entered (item : α)
  | handed (worker : Nat) (item : α)
  | finished (worker : Nat) (item : α)
  deriving DecidableEq

namespace Event

variable {α : Type}

def entered? : Event α → Option α
  | .entered x => some x
  | _ => none

def handed? : Event α → Option α
  | .handed _ x => some x
  | _ => none

end Event

/-- A queue and the history of what was done with it, the last event first. -/
structure Journal (α : Type) where
  queue : WorkQueue α
  events : List (Event α) := []

/-- The items that entered the waiting list, the first one first. -/
def enteredIn {α : Type} (events : List (Event α)) : List α :=
  events.reverse.filterMap Event.entered?

/-- The items that were handed out, the first one first. -/
def handedIn {α : Type} (events : List (Event α)) : List α :=
  events.reverse.filterMap Event.handed?

/-- The item was added, and was not handed out since. -/
def IsOwed {α : Type} (x : α) : List (Event α) → Prop
  | [] => False
  | .added y :: earlier => y = x ∨ IsOwed x earlier
  | .handed _ y :: earlier => y ≠ x ∧ IsOwed x earlier
  | .entered _ :: earlier => IsOwed x earlier
  | .finished _ _ :: earlier => IsOwed x earlier

variable {α : Type} [DecidableEq α]

/-- The worker that was handed the item and has not finished it. -/
def holder? (x : α) : List (Event α) → Option Nat
  | [] => none
  | .handed worker y :: earlier => if y = x then some worker else holder? x earlier
  | .finished _ y :: earlier => if y = x then none else holder? x earlier
  | .added _ :: earlier => holder? x earlier
  | .entered _ :: earlier => holder? x earlier

/-- What a worker is handed by a look. -/
def handedBy (worker : Nat) : Look α → List (Event α)
  | .item x => [.handed worker x]
  | .shutDown => []
  | .nothing => []

namespace Operation

/-- The queue after an operation, and what is written down about it besides entries into the waiting
list. -/
def run : Operation α → WorkQueue α → WorkQueue α × List (Event α)
  | .add x, q => (q.add x, [.added x])
  | .addAfter now x delay, q =>
    (q.addAfter now x delay, if delay.isZero then [.added x] else [])
  | .addRateLimited now x, q =>
    (q.addRateLimited now x, if (q.backoff.fail x).1.isZero then [.added x] else [])
  | .fire moment, q =>
    ((q.fire moment).getD q, ((takeDue moment q.delayed).map fun due => .added due.1).toList)
  | .get worker, q => ((q.get worker).2, handedBy worker (q.get worker).1)
  | .getAgain worker, q => ((q.getAgain worker).2, handedBy worker (q.getAgain worker).1)
  | .leave worker, q => (q.leave worker, [])
  | .done worker x, q => (q.done x, [.finished worker x])
  | .forget x, q => (q.forget x, [])
  | .shutDown, q => (q.shutDown, [])

end Operation

namespace Journal

/-- An item is reported as done by the worker that holds it; everything else is always allowed. -/
def Permits (j : Journal α) : Operation α → Prop
  | .done worker x => holder? x j.events = some worker
  | _ => True

/-- The journal with a later queue and what happened on the way. An item has entered the waiting
list when the list is longer by it. -/
def record (j : Journal α) (queue : WorkQueue α) (events : List (Event α)) : Journal α :=
  let gained := queue.waiting.drop j.queue.waiting.length
  { queue, events := gained.reverse.map .entered ++ (events ++ j.events) }

/-- The journal after an operation. -/
def perform (j : Journal α) (op : Operation α) : Journal α :=
  j.record (op.run j.queue).1 (op.run j.queue).2

/-- The journals of all runs that begin with an empty queue. -/
inductive Reachable (shortest longest : Duration) : Journal α → Prop
  | start : Reachable shortest longest { queue := .create shortest longest }
  | perform {j : Journal α} (op : Operation α) :
      Reachable shortest longest j → j.Permits op → Reachable shortest longest (j.perform op)

end Journal

/-! ## What an operation can do -/

/-- The effects of an operation on the items of a queue with a history: none, an addition, a
hand-out of the first item that waits, the report of its holder that an item is done, or the
shutdown. -/
inductive Effect (q : WorkQueue α) (history : List (Event α)) :
    WorkQueue α → List (Event α) → Prop
  | quiet {r : WorkQueue α} : SameItems q r → Effect q history r []
  | added {p : WorkQueue α} (x : α) : SameItems q p → Effect q history (p.add x) [.added x]
  | handed {r : WorkQueue α} (worker : Nat) (x : α) (rest : List α) :
      q.waiting = x :: rest → r.waiting = rest → (∀ y, y ∈ r.dirty ↔ y ∈ q.dirty ∧ y ≠ x) →
      (∀ y, y ∈ r.processing ↔ y = x ∨ y ∈ q.processing) → r.isShutDown = q.isShutDown →
      r.Valid → Effect q history r [.handed worker x]
  | finished (worker : Nat) (x : α) :
      holder? x history = some worker → Effect q history (q.done x) [.finished worker x]
  | shutDown : Effect q history q.shutDown []

theorem effect_get {p q : WorkQueue α} (h : q.Valid) (history : List (Event α))
    (same : SameItems q p) (worker : Nat) :
    Effect q history (p.get worker).2 (handedBy worker (p.get worker).1) := by
  obtain ⟨hlook, hsame⟩ := p.get_cases worker
  have hvalid := (h.congr same).get worker
  rw [hlook]
  obtain ⟨x, rest, hw, hx, hw', hd, hp, hs⟩ | ⟨hw, hx, hq⟩ := p.look_cases
  · rw [hx]
    refine .handed worker x rest (same.waiting ▸ hw) (hsame.waiting.trans hw') ?_ ?_
      (hsame.isShutDown.trans (hs.trans same.isShutDown)) hvalid
    · intro y
      rw [hsame.dirty, hd, same.dirty]
    · intro y
      rw [hsame.processing, hp, same.processing]
  · have hnone : handedBy worker (p.look).1 = [] := by
      cases hl : (p.look).1 with
      | item x => exact absurd hl (hx x)
      | shutDown => rfl
      | nothing => rfl
    rw [hnone]
    refine .quiet ⟨?_, ?_, ?_, ?_⟩
    · rw [hsame.waiting, hq.waiting, same.waiting]
    · rw [hsame.dirty, hq.dirty, same.dirty]
    · rw [hsame.processing, hq.processing, same.processing]
    · rw [hsame.isShutDown, hq.isShutDown, same.isShutDown]

/-- Every operation that is allowed has one of the effects. -/
theorem effect_run {j : Journal α} (h : j.queue.Valid) {op : Operation α} (hop : j.Permits op) :
    Effect j.queue j.events (op.run j.queue).1 (op.run j.queue).2 := by
  cases op with
  | add x => exact .added x (.refl _)
  | addAfter now x delay =>
    simp only [Operation.run, addAfter]
    split
    · exact .added x (.refl _)
    · exact .quiet ⟨rfl, rfl, rfl, rfl⟩
  | addRateLimited now x =>
    simp only [Operation.run, addRateLimited, addAfter]
    split
    · exact .added x ⟨rfl, rfl, rfl, rfl⟩
    · exact .quiet ⟨rfl, rfl, rfl, rfl⟩
  | fire moment =>
    simp only [Operation.run, fire]
    cases takeDue moment j.queue.delayed with
    | none => exact .quiet (.refl _)
    | some due => exact .added due.1 ⟨rfl, rfl, rfl, rfl⟩
  | get worker => exact effect_get h _ (.refl _) worker
  | getAgain worker =>
    exact effect_get (p := { j.queue with bell := j.queue.bell.rise worker }) h _
      ⟨rfl, rfl, rfl, rfl⟩ worker
  | leave worker => exact .quiet ⟨rfl, rfl, rfl, rfl⟩
  | done worker x => exact .finished worker x hop
  | forget x => exact .quiet ⟨rfl, rfl, rfl, rfl⟩
  | shutDown => exact .shutDown

end WorkQueue

end BatchOperator
