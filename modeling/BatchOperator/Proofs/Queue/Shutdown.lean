import BatchOperator.Crew
import BatchOperator.Proofs.Queue.HandOut

/-!
# What is left after the shutdown

A queue that was shut down takes nothing in any more. Whatever is done with it afterwards, no item
enters the waiting list, be it by an addition, by a delay that is over or by a worker that is done;
nobody sleeps; and a getter that looks does not wait, it is handed what waited first or is sent
away (`Journal.drains_of_shutDown`). So what was waiting when the queue was shut down is still handed
out, in its order: all getters are sent away at once exactly when nothing was waiting
(`Journal.handed_after_shutDown` is a queue where something was).
-/

set_option autoImplicit false

namespace BatchOperator

namespace Bell

/-- Whether a getter was woken and has not looked yet. -/
def HasWoken (b : Bell) (getter : Nat) : Prop := ∃ ring, (getter, ring) ∈ b.woken

/-- A single ring where nobody sleeps is remembered, and wakes nobody. -/
theorem ring_of_asleep_eq_nil {b : Bell} (h : b.asleep = []) : b.ring = { b with rung := true } := by
  simp only [ring, h]

/-- Where nobody sleeps a getter that gives up wakes nobody. -/
theorem leave_facts {b : Bell} (h : b.asleep = []) (getter : Nat) :
    (b.leave getter).asleep = [] ∧ (b.leave getter).woken = (b.rise getter).woken := by
  have hnone : b.asleep.filter (fun other => other != getter) = [] := by
    rw [h]
    rfl
  simp only [leave]
  split
  · rw [ring_of_asleep_eq_nil hnone]
    exact ⟨hnone, rfl⟩
  · exact ⟨hnone, rfl⟩

/-- A ring for all wakes everybody who sleeps. -/
theorem hasWoken_ringAll {b : Bell} {getter : Nat} (h : getter ∈ b.asleep) :
    b.ringAll.HasWoken getter := by
  refine ⟨.general, ?_⟩
  apply List.mem_append_right
  exact List.mem_map.2 ⟨getter, h, rfl⟩

/-- Another getter that gets up leaves a woken one woken. -/
theorem HasWoken.rise {b : Bell} {getter other : Nat} (h : b.HasWoken getter)
    (hne : getter ≠ other) : (b.rise other).HasWoken getter := by
  obtain ⟨ring, hring⟩ := h
  refine ⟨ring, List.mem_filter.2 ⟨hring, ?_⟩⟩
  simpa using hne

end Bell

/-- What a getter gets of a queue that was shut down, by what waits there. -/
def Look.remaining {α : Type} : List α → Look α
  | [] => .shutDown
  | x :: _ => .item x

namespace WorkQueue

variable {α : Type} [DecidableEq α] {q : WorkQueue α}

/-- The queue was shut down, and nobody sleeps. -/
structure Closed (q : WorkQueue α) : Prop where
  isShutDown : q.isShutDown = true
  asleep : q.bell.asleep = []

omit [DecidableEq α] in
/-- The shutdown closes a queue. -/
theorem closed_shutDown (q : WorkQueue α) : q.shutDown.Closed := ⟨rfl, rfl⟩

/-- A closed queue takes nothing in. -/
theorem Closed.add_eq (h : q.Closed) (x : α) : q.add x = q := by
  obtain ⟨-, e⟩ | ⟨hs, -⟩ | ⟨hs, -⟩ := q.add_cases x
  · exact e
  · exact absurd h.isShutDown (by simp [hs])
  · exact absurd h.isShutDown (by simp [hs])

/-- What a look at a closed queue gives, and what it leaves. -/
theorem Closed.look_facts (h : q.Closed) :
    (q.look).1 = .remaining q.waiting ∧ (q.look).2.Closed ∧
      (q.look).2.waiting = q.waiting.tail ∧ (q.look).2.bell.woken = q.bell.woken := by
  have hanswer : q.bell.answer.asleep = [] := h.asleep
  cases hw : q.waiting with
  | nil =>
    refine ⟨?_, ⟨?_, ?_⟩, ?_, ?_⟩
    · simp [look, hw, h.isShutDown, Look.remaining]
    · simpa [look, hw] using h.isShutDown
    · simpa [look, hw] using hanswer
    · simp [look, hw]
    · simp [look, hw, Bell.answer]
  | cons x rest =>
    have hbell : (q.look).2.bell.asleep = [] ∧ (q.look).2.bell.woken = q.bell.woken := by
      simp only [look, hw]
      split
      · exact ⟨hanswer, rfl⟩
      · rw [Bell.ring_of_asleep_eq_nil hanswer]
        exact ⟨hanswer, rfl⟩
    refine ⟨?_, ⟨?_, hbell.1⟩, ?_, hbell.2⟩
    · simp [look, hw, Look.remaining]
    · simpa [look, hw] using h.isShutDown
    · simp [look, hw]

/-- Nobody goes to sleep at a closed queue: a getter gets what its look gives it. -/
theorem Closed.get_eq (h : q.Closed) (getter : Nat) : q.get getter = q.look := by
  obtain ⟨hlook, -⟩ := h.look_facts
  unfold get
  split
  · rename_i r hr
    rw [hr] at hlook
    cases hw : q.waiting <;> simp [hw, Look.remaining] at hlook
  · rfl

omit [DecidableEq α] in
/-- Getting up leaves a queue closed. -/
theorem Closed.rise (h : q.Closed) (getter : Nat) :
    ({ q with bell := q.bell.rise getter } : WorkQueue α).Closed := ⟨h.isShutDown, h.asleep⟩

/-- What an operation does to a closed queue: the queue stays closed, what waited before either waits
still or was handed out first, and a getter that was woken stays so until it looks or gives up. -/
structure Settles (op : Operation α) (q : WorkQueue α) : Prop where
  closed : (op.run q).1.Closed
  handed : handedIn (op.run q).2 ++ (op.run q).1.waiting = q.waiting
  woken : ∀ getter, q.bell.HasWoken getter → op ≠ .getAgain getter → op ≠ .leave getter →
    (op.run q).1.bell.HasWoken getter

/-- A queue that is as open and has the same waiting list and bell as before. -/
structure Unmoved (q p : WorkQueue α) : Prop where
  isShutDown : p.isShutDown = q.isShutDown
  waiting : p.waiting = q.waiting
  bell : p.bell = q.bell

/-- An addition moves nothing in a closed queue. -/
theorem Closed.unmoved_add (h : q.Closed) (x : α) : q.Unmoved (q.add x) := by
  rw [h.add_eq]
  exact ⟨rfl, rfl, rfl⟩

theorem Closed.unmoved_addAfter (h : q.Closed) (now : Instant) (x : α) (delay : Duration) :
    q.Unmoved (q.addAfter now x delay) := by
  unfold addAfter
  split
  · exact h.unmoved_add x
  · exact ⟨rfl, rfl, rfl⟩

/-- A delay that is over moves nothing in a closed queue. -/
theorem Closed.unmoved_fire (h : q.Closed) (moment : Instant) :
    q.Unmoved ((q.fire moment).getD q) := by
  unfold fire
  cases htake : takeDue moment q.delayed with
  | none => exact ⟨rfl, rfl, rfl⟩
  | some due =>
    have hfired : ({ q with delayed := due.2 } : WorkQueue α).Closed := ⟨h.isShutDown, h.asleep⟩
    obtain ⟨hshut, hwaiting, hbell⟩ := hfired.unmoved_add due.1
    exact ⟨hshut, hwaiting, hbell⟩

/-- An operation that hands nothing out and moves nothing. -/
theorem Closed.settles_of_unmoved (h : q.Closed) {op : Operation α}
    (hsame : q.Unmoved (op.run q).1) (hnone : handedIn (op.run q).2 = []) : Settles op q := by
  refine ⟨⟨?_, ?_⟩, ?_, ?_⟩
  · rw [hsame.isShutDown]
    exact h.isShutDown
  · rw [hsame.bell]
    exact h.asleep
  · rw [hnone, hsame.waiting]
    rfl
  · intro getter hwoken _ _
    rw [hsame.bell]
    exact hwoken

/-- A worker that looks is handed the first item that waits, if one does. -/
theorem Closed.settles_of_look {p : WorkQueue α} (hp : p.Closed) (hsame : p.waiting = q.waiting)
    {op : Operation α} (worker : Nat) (hqueue : (op.run q).1 = (p.look).2)
    (hevents : (op.run q).2 = handedBy worker (p.look).1)
    (hwoken : ∀ getter, q.bell.HasWoken getter → op ≠ .getAgain getter →
      p.bell.HasWoken getter) : Settles op q := by
  obtain ⟨hlook, hclosed, hwaiting, hbell⟩ := hp.look_facts
  refine ⟨?_, ?_, ?_⟩
  · rw [hqueue]
    exact hclosed
  · rw [hqueue, hevents, hlook, hwaiting, hsame]
    cases q.waiting <;> rfl
  · intro getter hgetter hop _
    rw [hqueue, Bell.HasWoken, hbell]
    exact hwoken getter hgetter hop

/-- Whatever is done with a closed queue settles it further. -/
theorem Closed.settles (h : q.Closed) (op : Operation α) : Settles op q := by
  cases op with
  | add x => exact h.settles_of_unmoved (h.unmoved_add x) rfl
  | addAfter now x delay =>
    refine h.settles_of_unmoved (h.unmoved_addAfter now x delay) ?_
    simp only [Operation.run]
    split <;> rfl
  | addRateLimited now x =>
    have hfailed : (q.blamed x).Closed := ⟨h.isShutDown, h.asleep⟩
    obtain ⟨hshut, hwaiting, hbell⟩ := hfailed.unmoved_addAfter now x (q.backoff.fail x).1
    refine h.settles_of_unmoved ⟨hshut, hwaiting, hbell⟩ ?_
    simp only [Operation.run]
    split <;> rfl
  | fire moment =>
    refine h.settles_of_unmoved (h.unmoved_fire moment) ?_
    simp only [Operation.run]
    cases takeDue moment q.delayed <;> rfl
  | get worker =>
    refine h.settles_of_look rfl worker ?_ ?_ fun getter hwoken _ => hwoken
    · simp only [Operation.run, h.get_eq]
    · simp only [Operation.run, h.get_eq]
  | getAgain worker =>
    refine Closed.settles_of_look (q := q) (h.rise worker) rfl worker ?_ ?_ ?_
    · simp only [Operation.run, getAgain, (h.rise worker).get_eq]
    · simp only [Operation.run, getAgain, (h.rise worker).get_eq]
    · intro getter hwoken hne
      exact hwoken.rise fun e => hne (e ▸ rfl)
  | leave worker =>
    obtain ⟨hasleep, hwoken⟩ := Bell.leave_facts h.asleep worker
    refine ⟨⟨h.isShutDown, hasleep⟩, rfl, ?_⟩
    intro getter hgetter _ hne
    show Bell.HasWoken (q.bell.leave worker) getter
    rw [Bell.HasWoken, hwoken]
    exact hgetter.rise fun e => hne (e ▸ rfl)
  | done worker x =>
    -- An item that was marked while it was processed does not wait again.
    have hdone : q.done x =
        { q with processing := q.processing.filter fun other => other ≠ x } := by
      simp [WorkQueue.done, h.isShutDown]
    refine h.settles_of_unmoved ?_ rfl
    show q.Unmoved (q.done x)
    rw [hdone]
    exact ⟨rfl, rfl, rfl⟩
  | forget x => exact h.settles_of_unmoved ⟨rfl, rfl, rfl⟩ rfl
  | shutDown =>
    refine ⟨q.closed_shutDown, rfl, ?_⟩
    rintro getter ⟨ring, hring⟩ _ _
    exact ⟨ring, List.mem_append_left _ hring⟩

omit [DecidableEq α] in
theorem enteredIn_append (later earlier : List (Event α)) :
    enteredIn (later ++ earlier) = enteredIn earlier ++ enteredIn later := by
  simp [enteredIn]

omit [DecidableEq α] in
theorem handedIn_append (later earlier : List (Event α)) :
    handedIn (later ++ earlier) = handedIn earlier ++ handedIn later := by
  simp [handedIn]

/-- An operation tells of no entry into the waiting list by itself. -/
theorem enteredIn_run (op : Operation α) (q : WorkQueue α) : enteredIn (op.run q).2 = [] := by
  have hlook : ∀ worker (look : Look α), enteredIn (handedBy worker look) = [] := by
    intro worker look
    cases look <;> rfl
  cases op with
  | get worker => exact hlook worker _
  | getAgain worker => exact hlook worker _
  | addAfter | addRateLimited =>
    simp only [Operation.run]
    split <;> rfl
  | fire moment =>
    simp only [Operation.run]
    cases takeDue moment q.delayed <;> rfl
  | add | leave | done | forget | shutDown => rfl

namespace Journal

/-- The journal after some operations, one after the other. -/
def performAll (j : Journal α) (ops : List (Operation α)) : Journal α := ops.foldl perform j

/-- How a run goes on after the shutdown at `start`. -/
structure Drains (start : Journal α) (ops : List (Operation α)) (now : Journal α) : Prop where
  closed : now.queue.Closed
  /-- Nothing has entered the waiting list, and what waited was handed out in its order or waits
  still. -/
  events : ∃ since, now.events = since ++ start.events ∧ enteredIn since = [] ∧
    handedIn since ++ now.queue.waiting = start.queue.waiting
  /-- Every look ends the wait of a getter: there is something left, or the getter is sent away. -/
  get : ∀ worker, (now.queue.get worker).1 = .remaining now.queue.waiting
  getAgain : ∀ worker, (now.queue.getAgain worker).1 = .remaining now.queue.waiting
  /-- Who was woken will look, unless it has looked or given up. -/
  woken : ∀ getter, start.queue.bell.HasWoken getter → .getAgain getter ∉ ops →
    .leave getter ∉ ops → now.queue.bell.HasWoken getter

theorem drains_of_closed {j : Journal α} (h : j.queue.Closed) (ops : List (Operation α)) :
    Drains j ops (j.performAll ops) := by
  induction ops generalizing j with
  | nil =>
    refine ⟨h, ⟨[], rfl, rfl, rfl⟩, ?_, ?_, fun getter hwoken _ _ => hwoken⟩
    · intro worker
      show (j.queue.get worker).1 = _
      rw [h.get_eq]
      exact h.look_facts.1
    · intro worker
      show (j.queue.getAgain worker).1 = _
      rw [WorkQueue.getAgain, (h.rise worker).get_eq]
      exact (h.rise worker).look_facts.1
  | cons op ops ih =>
    obtain ⟨hclosed, hhanded, hwoken⟩ := h.settles op
    obtain ⟨hend, ⟨since, hevents, hentered, hwaited⟩, hget, hgetAgain, hrest⟩ :=
      ih (j := j.perform op) hclosed
    have hfirst : (j.perform op).events = (op.run j.queue).2 ++ j.events := by
      refine j.events_record_of_le _ ?_
      rw [← hhanded, List.length_append]
      exact Nat.le_add_left _ _
    refine ⟨hend, ⟨since ++ (op.run j.queue).2, ?_, ?_, ?_⟩, hget, hgetAgain, ?_⟩
    · rw [List.append_assoc, ← hfirst]
      exact hevents
    · rw [enteredIn_append, enteredIn_run, hentered]
      rfl
    · rw [handedIn_append, List.append_assoc]
      show handedIn (op.run j.queue).2 ++ (handedIn since ++ _) = j.queue.waiting
      rw [← hhanded]
      exact congrArg (handedIn (op.run j.queue).2 ++ ·) hwaited
    · intro getter hgetter hlook hleave
      obtain ⟨hlook₁, hlook₂⟩ := not_or.1 (mt List.mem_cons.2 hlook)
      obtain ⟨hleave₁, hleave₂⟩ := not_or.1 (mt List.mem_cons.2 hleave)
      have hstill := hwoken getter hgetter (Ne.symm hlook₁) (Ne.symm hleave₁)
      exact hrest getter hstill hlook₂ hleave₂

/-- After a shutdown, whatever was done before and is done later: nothing enters the waiting list any
more, everybody who slept is woken, and no getter waits. A getter that looks is sent away when
nothing is left, so all of them are sent away exactly when nothing was waiting at the shutdown. -/
theorem drains_of_shutDown (j : Journal α) :
    (∀ getter ∈ j.queue.bell.asleep, (j.perform .shutDown).queue.bell.HasWoken getter) ∧
      (∀ ops, Drains (j.perform .shutDown) ops ((j.perform .shutDown).performAll ops)) ∧
      ((∀ ops worker,
          (((j.perform .shutDown).performAll ops).queue.get worker).1 = .shutDown ∧
          (((j.perform .shutDown).performAll ops).queue.getAgain worker).1 = .shutDown) ↔
        j.queue.waiting = []) := by
  have hdrains : ∀ ops, Drains (j.perform .shutDown) ops ((j.perform .shutDown).performAll ops) :=
    drains_of_closed j.queue.closed_shutDown
  refine ⟨fun getter hgetter => Bell.hasWoken_ringAll hgetter, hdrains, ?_, ?_⟩
  · intro hall
    obtain ⟨hget, -⟩ := hall [] 0
    rw [(hdrains []).get] at hget
    change Look.remaining j.queue.waiting = _ at hget
    cases hw : j.queue.waiting with
    | nil => rfl
    | cons x rest =>
      rw [hw] at hget
      cases hget
  · intro hnone ops worker
    obtain ⟨since, -, -, hwaited⟩ := (hdrains ops).events
    have hempty : ((j.perform .shutDown).performAll ops).queue.waiting = [] :=
      (List.append_eq_nil_iff.1 (hwaited.trans hnone)).2
    rw [(hdrains ops).get, (hdrains ops).getAgain, hempty]
    exact ⟨rfl, rfl⟩

/-- A getter that sleeps at an empty queue is woken by the shutdown, and everybody is sent away. -/
theorem sent_away_from_empty_queue :
    let start : Journal Nat := { queue := .create Backoff.usualBase Backoff.usualLimit }
    let j := start.performAll [.get 1]
    1 ∈ j.queue.bell.asleep ∧ (j.perform .shutDown).queue.bell.HasWoken 1 ∧
      ∀ ops worker, (((j.perform .shutDown).performAll ops).queue.getAgain worker).1 = .shutDown := by
  intro start j
  have hasleep : 1 ∈ j.queue.bell.asleep := by decide
  obtain ⟨hwoken, -, hall⟩ := drains_of_shutDown j
  refine ⟨hasleep, hwoken 1 hasleep, ?_⟩
  intro ops worker
  exact (hall.2 rfl ops worker).2

/-- An item that waits at the shutdown is still handed out. -/
theorem handed_after_shutDown :
    let start : Journal Nat := { queue := .create Backoff.usualBase Backoff.usualLimit }
    let j := start.performAll [.add 7, .shutDown]
    Reachable Backoff.usualBase Backoff.usualLimit j ∧ j.queue.isShutDown = true ∧
      (j.queue.get 1).1 = .item 7 := by
  intro start j
  have h : Reachable Backoff.usualBase Backoff.usualLimit j :=
    .perform .shutDown (.perform (.add 7) .start trivial) trivial
  exact ⟨h, by decide, by decide⟩

end Journal

/-- A worker that looks for work at a closed queue stops exactly when nothing is left. -/
theorem Closed.isStopped_step_iff {σ : Type} {o : Operator σ} (h : o.queue.Closed)
    (env : Surroundings (Operator σ)) (timeout : Duration) (number : Nat) (now : Instant)
    {worker : Worker} (hworker : worker = .looking ∨ worker = .asleep) :
    (worker.step env timeout number now o).1.isStopped = true ↔ o.queue.waiting = [] := by
  have hget : ∀ p : WorkQueue WorkKey, p.Closed → p.waiting = o.queue.waiting →
      ((Worker.afterLook o (p.get number)).1.isStopped = true ↔ o.queue.waiting = []) := by
    intro p hp hsame
    obtain ⟨hlook, -⟩ := hp.look_facts
    rw [hp.get_eq, ← hsame]
    cases hw : p.waiting <;> rcases hfound : p.look with ⟨look, q⟩ <;>
      rw [hfound, hw] at hlook <;> change look = _ at hlook <;> subst hlook <;>
      simp [Worker.afterLook, Look.remaining, Worker.isStopped]
  rcases hworker with rfl | rfl
  · exact hget o.queue h rfl
  · exact hget _ (h.rise number) rfl

end WorkQueue

end BatchOperator
