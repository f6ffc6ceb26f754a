import BatchOperator.Proofs.Queue.Invariant
import BatchOperator.Proofs.Reconcile.Turns
import BatchOperator.Proofs.Simulation.Store
import BatchOperator.Worker
import Mathlib.Logic.Function.Basic

/-!
# Workers on one queue

A `Shift` is any number of workers on one queue, with what they have done so far. All that a shift
knows of a pass is how it ends, and it may end in any way. Between any two operations on the queue
other workers may act, items may be added from outside, delays may be over and time may pass: that
the result of a pass is dealt with and that its work is reported as done are two steps.

A step of a `Worker` is made of steps of a shift (`Shift.Reachable.worker_step`), and so is every run
of workers whose surroundings do nothing to the queue but add to it (`Staff.exists_shift`).
-/

set_option autoImplicit false

namespace BatchOperator

/-- The queue when the result of a pass has been dealt with, before the work is reported as done. -/
def WorkQueue.afterPass (q : WorkQueue WorkKey) (now : Instant) (key : WorkKey)
    (result : Except Error Unit) : WorkQueue WorkKey :=
  match PassResult.ofResult result with
  | .success | .dropped => q.forget key
  | .retry => q.addRateLimited now key

/-- An operator deals with the result of a pass, and then reports the work as done. -/
theorem Operator.queue_conclude {σ : Type} (o : Operator σ) (now : Instant) (key : WorkKey)
    (result : Except Error Unit) :
    (o.conclude now key result).queue = (o.queue.afterPass now key result).done key := by
  unfold conclude WorkQueue.afterPass
  cases PassResult.ofResult result <;> rfl

/-! ## Shifts -/

/-- What a worker has in hand. -/
inductive Hand where
  | looking
  | asleep
  /-- It makes a pass over a unit of work. -/
  | working (key : WorkKey)
  /-- The result of the pass has been dealt with, but the work is not reported as done yet. -/
  | reporting (key : WorkKey)
  | stopped

namespace Hand

/-- The unit of work that a worker has in hand. -/
def key? : Hand → Option WorkKey
  | .working key | .reporting key => some key
  | .looking | .asleep | .stopped => none

/-- What a worker has in hand after a look at the queue. -/
def ofLook : Look WorkKey → Hand
  | .item key => .working key
  | .shutDown => .stopped
  | .nothing => .asleep

def ofWorker : Worker → Hand
  | .looking => .looking
  | .asleep => .asleep
  | .working key _ => .working key
  | .stopped => .stopped

end Hand

instance : DecidableEq (Except Error Unit)
  | .ok (), .ok () => .isTrue rfl
  | .error e, .error e' => decidable_of_iff (e = e') ⟨congrArg Except.error, Except.error.inj⟩
  | .ok _, .error _ => .isFalse nofun
  | .error _, .ok _ => .isFalse nofun

/-- What is written down about units of work. -/
inductive Shift.Event where
  | handed (number : Nat) (key : WorkKey)
  /-- A pass has ended, and its result is dealt with. -/
  | ended (key : WorkKey) (result : Except Error Unit) (moment : Instant)
  deriving DecidableEq

/-- Workers that go by their numbers, on one queue, with what was written down about their work, the
last event first. -/
structure Shift where
  queue : WorkQueue WorkKey
  now : Instant
  hands : Nat → Hand := fun _ => .looking
  events : List Shift.Event := []

namespace Shift

/-- What is written down about a look. -/
def handedBy (number : Nat) : Look WorkKey → List Event
  | .item key => [.handed number key]
  | .shutDown | .nothing => []

/-- A worker has looked at the queue. -/
def found (s : Shift) (number : Nat) (look : Look WorkKey × WorkQueue WorkKey) : Shift :=
  { s with
    queue := look.2, hands := Function.update s.hands number (.ofLook look.1)
    events := handedBy number look.1 ++ s.events }

/-- What can happen in a shift. Nobody shuts the queue down. -/
inductive Step (s : Shift) : Shift → Prop
  /-- Somebody outside adds a unit of work. -/
  | adds (key : WorkKey) : Step s { s with queue := s.queue.add key }
  | looks (number : Nat) (hand : s.hands number = .looking) :
      Step s (s.found number (s.queue.get number))
  /-- A worker that sleeps looks again, whoever has woken it. -/
  | looksAgain (number : Nat) (hand : s.hands number = .asleep) :
      Step s (s.found number (s.queue.getAgain number))
  /-- A pass ends in some way, and its result is dealt with. -/
  | concludes (number : Nat) {key : WorkKey} (hand : s.hands number = .working key)
      (result : Except Error Unit) :
      Step s
        { s with
          queue := s.queue.afterPass s.now key result
          hands := Function.update s.hands number (.reporting key)
          events := .ended key result s.now :: s.events }
  | reports (number : Nat) {key : WorkKey} (hand : s.hands number = .reporting key) :
      Step s
        { s with
          queue := s.queue.done key, hands := Function.update s.hands number .looking }
  /-- A delay that is over adds its unit of work. -/
  | fires {moment : Instant} (elapsed : moment ≤ s.now) {queue : WorkQueue WorkKey}
      (fired : s.queue.fire moment = some queue) : Step s { s with queue }
  | waits {later : Instant} (h : s.now ≤ later) : Step s { s with now := later }

/-- What a shift can come to that begins with an empty queue. -/
inductive Reachable (shortest longest : Duration) : Shift → Prop
  | start (now : Instant) : Reachable shortest longest { queue := .create shortest longest, now }
  | step {s s' : Shift} (h : Reachable shortest longest s) (hstep : Step s s') :
      Reachable shortest longest s'

variable {shortest longest : Duration} {s : Shift}

/-- Any number of units of work can be added. -/
theorem Reachable.adds (h : Reachable shortest longest s) (keys : List WorkKey) :
    Reachable shortest longest { s with queue := keys.foldl WorkQueue.add s.queue } := by
  induction keys generalizing s with
  | nil => exact h
  | cons key keys ih => exact ih (h.step (.adds key))

end Shift

/-! ## What workers do -/

/-- What passes ask for can add units of work to the queue, and does nothing else to it. -/
def Surroundings.OnlyAdds {σ : Type} (env : Surroundings (Operator σ)) : Prop :=
  ∀ q : WorkQueue WorkKey, env.Keeps fun o =>
    ∃ keys : List WorkKey, o.queue = keys.foldl WorkQueue.add q

namespace Worker

variable {σ : Type} (env : Surroundings (Operator σ)) (timeout : Duration)

/-- What is to be written down about a step from one stage of a worker to the next. -/
def noted (number : Nat) (now : Instant) : Worker → Worker → List Shift.Event
  | .looking, .working key _ | .asleep, .working key _ => [.handed number key]
  | .working key (.finished result), _ => [.ended key result now]
  | _, _ => []

/-- After a look a worker has in hand what it was given, and that is written down. -/
theorem afterLook_facts (number : Nat) (now : Instant) (o : Operator σ)
    (look : Look WorkKey × WorkQueue WorkKey) :
    Hand.ofWorker (afterLook o look).1 = .ofLook look.1 ∧ (afterLook o look).2.queue = look.2 ∧
      noted number now .looking (afterLook o look).1 = Shift.handedBy number look.1 ∧
      noted number now .asleep (afterLook o look).1 = Shift.handedBy number look.1 := by
  rcases look with ⟨key | _ | _, queue⟩ <;> exact ⟨rfl, rfl, rfl, rfl⟩

/-- A pass that has not ended goes on, and nothing is written down. -/
theorem step_working (number : Nat) (now : Instant) (o : Operator σ) (key : WorkKey) {stage : Stage}
    (hstage : ∀ result, stage ≠ .finished result) :
    (Worker.working key stage).step env timeout number now o =
        (.working key (stage.step env timeout now o).1, (stage.step env timeout now o).2) ∧
      ∀ next, noted number now (.working key stage) next = [] := by
  cases stage with
  | finished result => exact absurd rfl (hstage result)
  | purging | pruning | starting | announcing | complaining | adopting | confirming | closing
  | reporting => exact ⟨rfl, fun _ => rfl⟩

end Worker

section Shown

variable {σ : Type} {env : Surroundings (Operator σ)} {shortest longest : Duration} {s : Shift}

/-- What a step of a worker does to the queue and to the worker, steps of the shift can do, and what
is to be written down about it they write down. -/
theorem Shift.Reachable.worker_step (h : Reachable shortest longest s) (adds : env.OnlyAdds)
    (timeout : Duration) (number : Nat) {o : Operator σ} {w : Worker} (hqueue : s.queue = o.queue)
    (hhand : s.hands number = .ofWorker w) :
    let next := w.step env timeout number s.now o
    ∃ s', Reachable shortest longest s' ∧ s'.queue = next.2.queue ∧
      s'.hands = Function.update s.hands number (.ofWorker next.1) ∧ s'.now = s.now ∧
      s'.events = w.noted number s.now next.1 ++ s.events := by
  intro next
  cases w with
  | looking =>
    obtain ⟨hnext, hq, hnoted, -⟩ := Worker.afterLook_facts number s.now o (o.queue.get number)
    refine ⟨_, h.step (.looks number hhand), ?_, ?_, rfl, ?_⟩ <;>
      simp only [found, hqueue, next, Worker.step, hnext, hq, hnoted]
  | asleep =>
    obtain ⟨hnext, hq, -, hnoted⟩ :=
      Worker.afterLook_facts number s.now o (o.queue.getAgain number)
    refine ⟨_, h.step (.looksAgain number hhand), ?_, ?_, rfl, ?_⟩ <;>
      simp only [found, hqueue, next, Worker.step, hnext, hq, hnoted]
  | working key stage =>
    by_cases hfinished : ∃ result, stage = .finished result
    · -- The end of a pass takes two steps.
      obtain ⟨result, rfl⟩ := hfinished
      have hconcluded := h.step (.concludes number hhand result)
      refine ⟨_, hconcluded.step (.reports number (Function.update_self _ _ _)), ?_, ?_, rfl, rfl⟩
      · show (s.queue.afterPass s.now key result).done key = (o.conclude s.now key result).queue
        rw [o.queue_conclude, hqueue]
      · exact Function.update_idem _ _ _
    · obtain ⟨hgoes, hnoted⟩ := Worker.step_working env timeout number s.now o key
        fun result hstage => hfinished ⟨result, hstage⟩
      obtain ⟨keys, hkeys⟩ := stage.step_keeps (adds o.queue) timeout s.now ⟨[], rfl⟩
      refine ⟨_, h.adds keys, ?_, ?_, rfl, ?_⟩
      · simp only [next, hgoes, hkeys, hqueue]
      · have hsame : Hand.ofWorker next.1 = s.hands number := by
          simp only [next, hgoes]
          exact hhand.symm
        rw [hsame, Function.update_eq_self]
      · rw [hnoted]
        rfl
  | stopped =>
    have hsame : Hand.ofWorker next.1 = s.hands number := hhand.symm
    exact ⟨s, h, hqueue, by rw [hsame, Function.update_eq_self], rfl, rfl⟩

end Shown

/-- Any number of workers on the queue of an operator, with what is written down about their work,
the last event first. -/
structure Staff (σ : Type) where
  operator : Operator σ
  workers : Nat → Worker := fun _ => .looking
  now : Instant
  events : List Shift.Event := []

namespace Staff

variable {σ : Type} {env : Surroundings (Operator σ)} {timeout shortest longest : Duration}

/-- The staff after a step of one worker. -/
def afterStep (s : Staff σ) (env : Surroundings (Operator σ)) (timeout : Duration) (number : Nat) :
    Staff σ :=
  let next := (s.workers number).step env timeout number s.now s.operator
  { s with
    operator := next.2, workers := Function.update s.workers number next.1
    events := (s.workers number).noted number s.now next.1 ++ s.events }

/-- What workers can come to that begin with an empty queue. -/
inductive Reachable (env : Surroundings (Operator σ)) (timeout shortest longest : Duration) :
    Staff σ → Prop
  | start (operator : Operator σ) (empty : operator.queue = .create shortest longest)
      (now : Instant) : Reachable env timeout shortest longest { operator, now }
  /-- A worker makes a step. -/
  | acts {s : Staff σ} (h : Reachable env timeout shortest longest s) (number : Nat) :
      Reachable env timeout shortest longest (s.afterStep env timeout number)
  /-- Anything happens elsewhere, which can add to the queue. -/
  | elsewhere {s : Staff σ} (h : Reachable env timeout shortest longest s) (operator : Operator σ)
      (keys : List WorkKey) (adds : operator.queue = keys.foldl WorkQueue.add s.operator.queue) :
      Reachable env timeout shortest longest { s with operator }
  /-- A delay that is over adds its unit of work. -/
  | fires {s : Staff σ} (h : Reachable env timeout shortest longest s) {moment : Instant}
      (elapsed : moment ≤ s.now) {queue : WorkQueue WorkKey}
      (fired : s.operator.queue.fire moment = some queue) :
      Reachable env timeout shortest longest { s with operator := { s.operator with queue } }
  | waits {s : Staff σ} (h : Reachable env timeout shortest longest s) {later : Instant}
      (hlater : s.now ≤ later) : Reachable env timeout shortest longest { s with now := later }

/-- Workers whose surroundings only add to the queue make a shift, with the same written down. -/
theorem exists_shift (adds : env.OnlyAdds) {s : Staff σ}
    (h : Reachable env timeout shortest longest s) :
    ∃ shift, Shift.Reachable shortest longest shift ∧ shift.queue = s.operator.queue ∧
      shift.hands = (fun number => .ofWorker (s.workers number)) ∧ shift.now = s.now ∧
      shift.events = s.events := by
  induction h with
  | start operator empty now => exact ⟨_, .start now, empty.symm, rfl, rfl, rfl⟩
  | @acts s h number ih =>
    obtain ⟨shift, hshift, hqueue, hhands, hnow, hevents⟩ := ih
    obtain ⟨next, hnext, hqueue', hhands', hnow', hevents'⟩ :=
      hshift.worker_step adds timeout number hqueue (congrFun hhands number)
    rw [hnow] at hqueue' hhands' hnow' hevents'
    rw [hevents] at hevents'
    refine ⟨next, hnext, hqueue', ?_, hnow', hevents'⟩
    rw [hhands', hhands]
    funext other
    by_cases hother : other = number
    · subst hother
      simp only [afterStep, Function.update_self]
    · simp only [afterStep, Function.update_of_ne hother]
  | elsewhere h operator keys hadds ih =>
    obtain ⟨shift, hshift, hqueue, hhands, hnow, hevents⟩ := ih
    exact ⟨_, hshift.adds keys, by rw [hadds, hqueue], hhands, hnow, hevents⟩
  | fires h elapsed fired ih =>
    obtain ⟨shift, hshift, hqueue, hhands, hnow, hevents⟩ := ih
    rw [← hqueue] at fired
    exact ⟨_, hshift.step (.fires (hnow ▸ elapsed) fired), rfl, hhands, hnow, hevents⟩
  | waits h hlater ih =>
    obtain ⟨shift, hshift, hqueue, hhands, hnow, hevents⟩ := ih
    exact ⟨_, hshift.step (.waits (Nat.le_trans (Nat.le_of_eq hnow) hlater)), hqueue, hhands, rfl,
      hevents⟩

end Staff

/-! ## The store in memory -/

namespace Simulation

/-- The queue of a world is a queue to which some units of work have been added. -/
def World.HasAdded (q : WorkQueue WorkKey) (w : World) : Prop :=
  ∃ keys : List WorkKey, w.queue = keys.foldl WorkQueue.add q

namespace World.HasAdded

variable {q : WorkQueue WorkKey} {w : World}

theorem enqueue (h : w.HasAdded q) (keys : List WorkKey) :
    World.HasAdded q (Operator.enqueue w keys) := by
  obtain ⟨earlier, hearlier⟩ := h
  refine ⟨earlier ++ keys, ?_⟩
  rw [List.foldl_append, ← hearlier]
  rfl

theorem putChild (h : w.HasAdded q) (child : Pod) : (w.putChild child).2.HasAdded q := by
  unfold World.putChild
  split
  · exact h
  · unfold World.passOnChildren
    split
    · exact HasAdded.enqueue h _
    · exact h

theorem dropChild (h : w.HasAdded q) (key : ObjectKey) : (w.dropChild key).2.HasAdded q := by
  unfold World.dropChild
  split
  · exact h
  · split
    · exact h
    · unfold World.passOnChildren
      split
      · exact HasAdded.enqueue h _
      · exact h

theorem putBatch (h : w.HasAdded q) (batch : JobBatch) : (w.putBatch batch).2.HasAdded q := by
  unfold World.putBatch
  split
  · exact h
  · unfold World.passOnBatches
    split
    · exact HasAdded.enqueue h _
    · exact h

/-- An operation that fails adds nothing. -/
theorem unlessFaulty {α : Type} (h : w.HasAdded q) (operation : Operation)
    {act : World → Except Error α × World} (hact : (act w).2.HasAdded q) :
    (w.unlessFaulty operation act).2.HasAdded q := by
  rcases w.unlessFaulty_cases operation act with ⟨e, faults, hfaulty⟩ | hacts
  · rw [hfaulty]
    exact h
  · rw [hacts]
    exact hact

end World.HasAdded

/-- What the store in memory does to the queue is adding what follows from the changes. -/
theorem onlyAdds : surroundings.OnlyAdds := by
  intro q
  constructor
  · intro manifest w h
    show World.HasAdded q (createChild manifest w).2
    unfold createChild
    refine World.HasAdded.unlessFaulty (w := World.log w _) h .create ?_
    dsimp only
    split
    · apply World.HasAdded.putChild
      exact h
    · exact h
    · exact h
  · intro ns query w h
    show World.HasAdded q (listChildren ns query w).2
    unfold listChildren
    exact World.HasAdded.unlessFaulty (w := World.log w _) h .list h
  · intro key w h
    show World.HasAdded q (deleteChild key w).2
    unfold deleteChild
    refine World.HasAdded.unlessFaulty (w := World.log w _) h .delete ?_
    apply World.HasAdded.dropChild
    exact h
  · intro batch w h
    show World.HasAdded q (replaceStatus batch w).2
    unfold replaceStatus
    refine World.HasAdded.unlessFaulty (w := World.log w _) h .status ?_
    split
    · exact h
    · split
      · exact h
      · apply World.HasAdded.putBatch
        exact h
  · intro notification w h
    exact h
  · intro count w h
    cases count <;> exact h

end Simulation

end BatchOperator
