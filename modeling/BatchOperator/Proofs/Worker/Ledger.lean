import BatchOperator.Proofs.Queue.Reports
import BatchOperator.Proofs.Worker.Counted
import BatchOperator.Proofs.Worker.Retries

/-!
# The books of an operator

A `Ledger` is an operator with its workers, what was written down about their work, and all calls
that their passes have made. Workers make steps, units of work are added at once or later, delays
are over, everything else changes, and the queue may be shut down; only workers add what has failed.

The metrics are balanced with that record (`Operator.Balanced`). One lemma says so of each step of a
worker (`Operator.Balanced.step`) and one of each step of a ledger (`Ledger.Sound.step`), so the
metrics account for all that was done in every run (`Ledger.accounts_of_reachable`).
-/

set_option autoImplicit false

namespace BatchOperator

/-! ## Metrics and what they tell -/

theorem PassResult.label_injective : Function.Injective PassResult.label := by
  intro r s
  cases r <;> cases s <;> decide

theorem Outcome.label_injective : Function.Injective Outcome.label := by
  intro a b
  cases a <;> cases b <;> decide

namespace Shift

/-- What becomes of a unit of work whose pass has ended. -/
def Event.result? : Event → Option PassResult
  | .ended _ result _ => some (.ofResult result)
  | .handed .. => none

/-- What became of the units of work whose results were dealt with. -/
def results (events : List Event) : List PassResult := events.filterMap Event.result?

theorem results_handedBy (number : Nat) (look : Look WorkKey) (events : List Event) :
    results (handedBy number look ++ events) = results events := by
  cases look <;> rfl

end Shift

namespace Metrics

/-- The metrics tell of results and of calls. -/
structure Tells (m : Metrics) (results : List PassResult) (calls : List Call) : Prop where
  handled : IsTotal (total m.reconciled) results.length
  results : Shows PassResult.label m.reconciled results
  created : m.created = shown (calls.countP Call.hasCreated)
  completed : Shows Outcome.label m.completed (calls.filterMap Call.outcome?)

theorem tells_empty : Tells {} [] [] :=
  ⟨⟨fun _ => rfl, rfl⟩, fun _ => rfl, rfl, fun _ => rfl⟩

variable {m : Metrics} {results : List PassResult} {calls : List Call}

/-- One more result is counted. -/
theorem Tells.countReconciled (h : m.Tells results calls) (result : PassResult) :
    (m.countReconciled result.label 1).Tells (result :: results) calls :=
  ⟨h.handled.increased result.label, h.results.increased PassResult.label_injective result,
    h.created, h.completed⟩

/-- One more call is counted. -/
theorem Tells.afterCall (h : m.Tells results calls) (call : Call) :
    (m.afterCall call).Tells results (call :: calls) := by
  rcases call with ⟨_, _ | _⟩ | _ | _ | ⟨sent, _ | _⟩ | _
  case created.ok manifest child =>
    refine ⟨h.handled, h.results, ?_, h.completed⟩
    show sum m.created 1 = _
    rw [h.created, sum_shown, List.countP_cons_of_pos rfl]
  case replaced.ok answer =>
    exact ⟨h.handled, h.results, h.created,
      h.completed.increased Outcome.label_injective sent.outcome⟩
  -- No other call counts.
  all_goals exact ⟨h.handled, h.results, h.created, h.completed⟩

theorem Tells.afterCalls (h : m.Tells results calls) (made : List Call) :
    (made.foldr Metrics.afterCall m).Tells results (made ++ calls) := by
  induction made with
  | nil => exact h
  | cons call made ih => exact ih.afterCall call

/-- Calls are no results. -/
theorem reconciled_afterCalls (m : Metrics) (made : List Call) :
    (made.foldr Metrics.afterCall m).reconciled = m.reconciled := by
  induction made with
  | nil => rfl
  | cons call made ih =>
    rw [List.foldr_cons, ← ih]
    rcases call with ⟨_, _ | _⟩ | _ | _ | ⟨_, _ | _⟩ | _ <;> rfl

end Metrics

/-! ## Steps of workers -/

/-- The calls of a step of a worker. -/
def Worker.calls {σ : Type} (env : Surroundings (Operator σ)) (timeout : Duration) (now : Instant)
    (o : Operator σ) : Worker → List Call
  | .working _ stage => Turn.calls env timeout ⟨now, stage, o⟩
  | .looking | .asleep | .stopped => []

/-- The verdict of a pass that a worker makes suits its batch. -/
def Worker.IsJudged : Worker → Prop
  | .working _ stage => stage.IsJudged
  | .looking | .asleep | .stopped => True

/-- A queue reports one more failure when what has failed is added again. -/
theorem WorkQueue.Reports.afterPass {q : WorkQueue WorkKey} {retries : Nat}
    (h : q.Reports retries) (now : Instant) (key : WorkKey) (result : Except Error Unit) :
    (q.afterPass now key result).Reports
      (if PassResult.ofResult result = .retry then Metrics.sum retries 1 else retries) := by
  unfold WorkQueue.afterPass
  cases PassResult.ofResult result with
  | success | dropped => exact h.forget key
  | retry => exact h.addRateLimited now key

namespace Operator

variable {σ : Type} {o : Operator σ} {events : List Shift.Event} {calls : List Call}

/-- What an operator has counted is what was written down, and its queue reports what waits and the
failures that were counted. -/
structure Balanced (o : Operator σ) (events : List Shift.Event) (calls : List Call) : Prop where
  tells : o.metrics.Tells (Shift.results events) calls
  reports : o.queue.Reports (Metrics.counter o.metrics.reconciled PassResult.retry.label)

/-- The queue of a balanced operator can be any that reports the same. -/
theorem Balanced.withQueue (h : o.Balanced events calls) {queue : WorkQueue WorkKey}
    (reports : queue.Reports (Metrics.counter o.metrics.reconciled PassResult.retry.label)) :
    ({ o with queue } : Operator σ).Balanced events calls :=
  ⟨h.tells, reports⟩

/-- A look at the queue is not counted. -/
theorem Balanced.afterLook (h : o.Balanced events calls) {look : Look WorkKey × WorkQueue WorkKey}
    (reports : look.2.Reports (Metrics.counter o.metrics.reconciled PassResult.retry.label))
    (number : Nat) :
    (Worker.afterLook o look).2.Balanced (Shift.handedBy number look.1 ++ events) calls := by
  have htells := h.tells
  rw [← Shift.results_handedBy number look.1] at htells
  rcases look with ⟨key | _ | _, queue⟩ <;> exact ⟨htells, reports⟩

/-- A result is counted once, and as a failure if its work is added again. -/
theorem Balanced.conclude (h : o.Balanced events calls) (now : Instant) (key : WorkKey)
    (result : Except Error Unit) :
    (o.conclude now key result).Balanced (.ended key result now :: events) calls := by
  have hretries : Metrics.counter (o.conclude now key result).metrics.reconciled
      PassResult.retry.label =
        if PassResult.ofResult result = .retry then
          Metrics.sum (Metrics.counter o.metrics.reconciled PassResult.retry.label) 1
        else Metrics.counter o.metrics.reconciled PassResult.retry.label := by
    show Metrics.counter (Metrics.increased o.metrics.reconciled _ 1) _ = _
    rw [Metrics.counter_increased]
    simp only [PassResult.label_injective.eq_iff, eq_comm (a := PassResult.retry)]
    split
    · rename_i hretry
      rw [hretry]
    · rfl
  refine ⟨h.tells.countReconciled (.ofResult result), ?_⟩
  rw [hretries, o.queue_conclude]
  exact (h.reports.afterPass now key result).done key

variable {env : Surroundings (Operator σ)}

/-- A step of a worker keeps the balance with what is written down about it and its calls. -/
theorem Balanced.step (h : o.Balanced events calls) (books : env.KeepsBooks) {w : Worker}
    (judged : w.IsJudged) (timeout : Duration) (number : Nat) (now : Instant) :
    let next := w.step env timeout number now o
    next.2.Balanced (w.noted number now next.1 ++ events)
      (w.calls env timeout now o ++ calls) := by
  intro next
  cases w with
  | looking =>
    obtain ⟨-, -, hnoted, -⟩ := Worker.afterLook_facts number now o (o.queue.get number)
    simp only [next, Worker.step, hnoted]
    exact h.afterLook (h.reports.get number) number
  | asleep =>
    obtain ⟨-, -, -, hnoted⟩ := Worker.afterLook_facts number now o (o.queue.getAgain number)
    simp only [next, Worker.step, hnoted]
    exact h.afterLook (h.reports.getAgain number) number
  | working key stage =>
    by_cases hfinished : ∃ result, stage = .finished result
    · obtain ⟨result, rfl⟩ := hfinished
      exact h.conclude now key result
    · obtain ⟨hgoes, hnoted⟩ := Worker.step_working env timeout number now o key
        fun result hstage => hfinished ⟨result, hstage⟩
      obtain ⟨keys, hkeys⟩ := stage.step_keeps (books.adds o.queue) timeout now ⟨[], rfl⟩
      have hmetrics := Stage.IsJudged.metrics_step judged books timeout now o
      simp only [next, hgoes, hnoted]
      refine ⟨?_, ?_⟩
      · rw [hmetrics]
        exact h.tells.afterCalls _
      · rw [hkeys, hmetrics, Metrics.reconciled_afterCalls]
        exact h.reports.foldl_add keys
  | stopped => exact h

end Operator

/-- No step of a worker comes to a verdict that does not suit its batch. -/
theorem Worker.IsJudged.next {σ : Type} {w : Worker} (h : w.IsJudged)
    (env : Surroundings (Operator σ)) (timeout : Duration) (number : Nat) (now : Instant)
    (o : Operator σ) : (w.step env timeout number now o).1.IsJudged := by
  have hlook : ∀ look, (Worker.afterLook o look).1.IsJudged := by
    rintro ⟨key | _ | _, queue⟩
    · exact Stage.isJudged_ofKey o.caches key
    · trivial
    · trivial
  cases w with
  | looking => exact hlook _
  | asleep => exact hlook _
  | working key stage =>
    by_cases hfinished : ∃ result, stage = .finished result
    · obtain ⟨result, rfl⟩ := hfinished
      trivial
    · obtain ⟨hgoes, -⟩ := Worker.step_working env timeout number now o key
        fun result hstage => hfinished ⟨result, hstage⟩
      rw [hgoes]
      exact Stage.IsJudged.next h env timeout now o
  | stopped => trivial

/-! ## Ledgers -/

/-- An operator with its workers, and all calls that their passes have made, the last first. -/
structure Ledger (σ : Type) where
  staff : Staff σ
  calls : List Call := []

namespace Ledger

variable {σ : Type}

def queue (l : Ledger σ) : WorkQueue WorkKey := l.staff.operator.queue

/-- The metrics as they are asked for. -/
def metrics (l : Ledger σ) : Metrics := l.staff.operator.allMetrics

/-- The ledger with another operator. -/
def withOperator (l : Ledger σ) (operator : Operator σ) : Ledger σ :=
  { l with staff := { l.staff with operator } }

/-- The ledger with another queue. -/
def withQueue (l : Ledger σ) (queue : WorkQueue WorkKey) : Ledger σ :=
  l.withOperator { l.staff.operator with queue }

/-- A worker has made a step. -/
def acted (l : Ledger σ) (env : Surroundings (Operator σ)) (timeout : Duration) (number : Nat) :
    Ledger σ where
  staff := l.staff.afterStep env timeout number
  calls := (l.staff.workers number).calls env timeout l.staff.now l.staff.operator ++ l.calls

/-- What can happen. -/
inductive Step (l : Ledger σ) : Ledger σ → Prop where
  | acts (env : Surroundings (Operator σ)) (books : env.KeepsBooks) (timeout : Duration)
      (number : Nat) : Step l (l.acted env timeout number)
  /-- Anything happens elsewhere that is not counted, and can add to the queue. -/
  | elsewhere (operator : Operator σ) (metrics : operator.metrics = l.staff.operator.metrics)
      (keys : List WorkKey) (adds : operator.queue = keys.foldl WorkQueue.add l.queue) :
      Step l (l.withOperator operator)
  /-- A unit of work is to be added after a delay. -/
  | delays (key : WorkKey) (delay : Duration) :
      Step l (l.withQueue (l.queue.addAfter l.staff.now key delay))
  /-- A delay that is over adds its unit of work. -/
  | fires {moment : Instant} (elapsed : moment ≤ l.staff.now) {queue : WorkQueue WorkKey}
      (fired : l.queue.fire moment = some queue) : Step l (l.withQueue queue)
  | waits {later : Instant} (h : l.staff.now ≤ later) :
      Step l { l with staff := { l.staff with now := later } }
  | shutsDown : Step l (l.withQueue l.queue.shutDown)

/-- What a ledger can come to that begins with an empty queue and with metrics that show nothing. -/
inductive Reachable (shortest longest : Duration) : Ledger σ → Prop where
  | start (operator : Operator σ) (metrics : operator.metrics = {})
      (empty : operator.queue = .create shortest longest) (now : Instant) :
      Reachable shortest longest { staff := { operator, now } }
  | step {l l' : Ledger σ} (h : Reachable shortest longest l) (hstep : Step l l') :
      Reachable shortest longest l'

/-- The operator is balanced with what is written down, and so it will be after the passes that are
being made. -/
structure Sound (l : Ledger σ) : Prop where
  balanced : l.staff.operator.Balanced l.staff.events l.calls
  judged : ∀ number, (l.staff.workers number).IsJudged

variable {shortest longest : Duration} {l l' : Ledger σ}

theorem Sound.step (h : l.Sound) (hstep : Step l l') : l'.Sound := by
  obtain ⟨hbalanced, hjudged⟩ := h
  cases hstep with
  | acts env books timeout number =>
    refine ⟨hbalanced.step books (hjudged number) timeout number l.staff.now, fun other => ?_⟩
    show (Function.update l.staff.workers number _ other).IsJudged
    by_cases hother : other = number
    · subst hother
      rw [Function.update_self]
      exact (hjudged other).next env timeout other l.staff.now l.staff.operator
    · rw [Function.update_of_ne hother]
      exact hjudged other
  | elsewhere operator metrics keys adds =>
    refine ⟨⟨?_, ?_⟩, hjudged⟩
    · show operator.metrics.Tells _ _
      rw [metrics]
      exact hbalanced.tells
    · show operator.queue.Reports (Metrics.counter operator.metrics.reconciled _)
      rw [metrics, adds]
      exact hbalanced.reports.foldl_add keys
  | delays key delay =>
    exact ⟨hbalanced.withQueue (hbalanced.reports.addAfter l.staff.now key delay), hjudged⟩
  | fires elapsed fired => exact ⟨hbalanced.withQueue (hbalanced.reports.fire fired), hjudged⟩
  | waits => exact ⟨hbalanced, hjudged⟩
  | shutsDown => exact ⟨hbalanced.withQueue hbalanced.reports.shutDown, hjudged⟩

theorem sound_of_reachable (h : Reachable shortest longest l) : l.Sound := by
  induction h with
  | start operator metrics empty now =>
    refine ⟨⟨?_, ?_⟩, fun _ => trivial⟩
    · show operator.metrics.Tells [] []
      rw [metrics]
      exact Metrics.tells_empty
    · show operator.queue.Reports (Metrics.counter operator.metrics.reconciled _)
      rw [metrics, empty]
      exact WorkQueue.reports_create shortest longest
  | step _ hstep ih => exact ih.step hstep

/-- The metrics account for all that was done. -/
structure Accounts (l : Ledger σ) : Prop where
  /-- The gauge shows how many units of work wait. -/
  depth : l.metrics.depth = l.queue.waiting.length
  /-- Over all labels as many results are counted as were dealt with. -/
  handled : Metrics.IsTotal (Metrics.total l.metrics.reconciled)
    (Shift.results l.staff.events).length
  /-- Under each label those of its kind are counted. -/
  results : ∀ result, Metrics.counter l.metrics.reconciled result.label =
    Metrics.shown ((Shift.results l.staff.events).count result)
  /-- What is counted as tried again was added to the queue again. -/
  retried : Metrics.counter l.metrics.reconciled PassResult.retry.label = l.metrics.retries
  /-- The children that calls have created are counted. -/
  created : l.metrics.created = Metrics.shown (l.calls.countP Call.hasCreated)
  /-- Under each outcome the statuses are counted that calls have written with it. -/
  completed : ∀ outcome : Outcome, Metrics.counter l.metrics.completed outcome.label =
    Metrics.shown ((l.calls.filterMap Call.outcome?).count outcome)

/-- In every run of workers the metrics account for all that was done. -/
theorem accounts_of_reachable (h : Reachable shortest longest l) : l.Accounts := by
  obtain ⟨⟨⟨hhandled, hresults, hcreated, hcompleted⟩, hdepth, hretries⟩, -⟩ :=
    sound_of_reachable h
  exact ⟨congrArg Nat.cast hdepth, hhandled, hresults, hretries.symm, hcreated, hcompleted⟩

/-- The caches have changed, and work is added. -/
def changed (l : Ledger σ) (caches : Caches) (keys : List WorkKey) : Ledger σ :=
  l.withOperator (Operator.enqueue { l.staff.operator with caches } keys)

theorem Reachable.changed (h : Reachable shortest longest l) (caches : Caches)
    (keys : List WorkKey) : Reachable shortest longest (l.changed caches keys) :=
  h.step (.elsewhere _ rfl keys rfl)

/-- The ledger after some steps of its first worker, on a store in memory. -/
def actedOften (l : Ledger Simulation.Store) : Nat → Ledger Simulation.Store
  | 0 => l
  | n + 1 => (l.acted Simulation.surroundings (.ofSeconds 10) 0).actedOften n

theorem Reachable.actedOften {l : Ledger Simulation.Store} (h : Reachable shortest longest l)
    (n : Nat) : Reachable shortest longest (l.actedOften n) := by
  induction n generalizing l with
  | zero => exact h
  | succ n ih => exact ih (h.step (.acts _ Simulation.keepsBooks _ 0))

end Ledger

/-! ## Three passes -/

/-- The child of the store in memory when it has ended well. -/
def succeededChild : Pod :=
  { Simulation.storedChild (smallBatch.childManifest smallTemplate) 0 with
    status := some { phase := some Phase.succeeded.render } }

/-- The caches of a batch whose child has ended. -/
def succeededCaches : Caches :=
  smallCaches.withChildren
    ⟨⟨[(Stage.childKey succeededChild, succeededChild)], List.pairwise_singleton _ _⟩, true⟩

/-- The first pass over a batch has failed to create its child. -/
def refusedLedger : Ledger Simulation.Store :=
  let start : Ledger Simulation.Store :=
    { staff := { operator := failingStore (.timeout "after 1s"), now := 0 } }
  (start.changed smallCaches [.batch ⟨"n", "b"⟩]).actedOften 4

/-- Five seconds later the batch is added again, and the second pass has created the child. -/
def startedLedger : Ledger Simulation.Store :=
  let late : Ledger Simulation.Store :=
    { refusedLedger with staff := { refusedLedger.staff with now := 5000000000 } }
  (late.withQueue ((late.queue.fire 5000000000).getD late.queue)).actedOften 5

/-- The child has ended, and the third pass has written that the batch has succeeded. Another batch
waits. -/
def closedLedger : Ledger Simulation.Store :=
  (startedLedger.changed succeededCaches [.batch ⟨"n", "b"⟩, .batch ⟨"n", "c"⟩]).actedOften 4

theorem closedLedger_reachable :
    closedLedger.Reachable Backoff.usualBase Backoff.usualLimit := by
  have hstart : Ledger.Reachable Backoff.usualBase Backoff.usualLimit
      { staff := { operator := failingStore (.timeout "after 1s"), now := 0 } } :=
    .start _ rfl rfl 0
  have hrefused : refusedLedger.Reachable Backoff.usualBase Backoff.usualLimit :=
    (hstart.changed smallCaches [.batch ⟨"n", "b"⟩]).actedOften 4
  have hlate := hrefused.step (@Ledger.Step.waits _ _ 5000000000 (by decide +kernel))
  have hfired : refusedLedger.queue.fire 5000000000 =
      some ((refusedLedger.queue.fire 5000000000).getD refusedLedger.queue) := by
    have hsome : (refusedLedger.queue.fire 5000000000).isSome = true := by decide +kernel
    obtain ⟨queue, hqueue⟩ := Option.isSome_iff_exists.1 hsome
    rw [hqueue]
    rfl
  have hstarted : startedLedger.Reachable Backoff.usualBase Backoff.usualLimit :=
    (hlate.step (.fires (Nat.le_refl _) hfired)).actedOften 5
  exact (hstarted.changed succeededCaches [.batch ⟨"n", "b"⟩, .batch ⟨"n", "c"⟩]).actedOften 4

/-- A pass that failed for a time and two that succeeded, a child and a status that were written,
and a batch that waits: that is what the metrics show. -/
theorem accounts_of_closedLedger :
    closedLedger.Reachable Backoff.usualBase Backoff.usualLimit ∧ closedLedger.Accounts ∧
      Metrics.total closedLedger.metrics.reconciled = 3 ∧ closedLedger.metrics.retries = 1 ∧
      closedLedger.metrics.created = 1 ∧
      Metrics.counter closedLedger.metrics.completed Outcome.succeeded.label = 1 ∧
      closedLedger.metrics.depth = 1 := by
  have haccounts := Ledger.accounts_of_reachable closedLedger_reachable
  have hresults : Shift.results closedLedger.staff.events = [.success, .success, .retry] := by
    decide +kernel
  have hcreated : closedLedger.calls.countP Call.hasCreated = 1 := by decide +kernel
  have hwritten : closedLedger.calls.filterMap Call.outcome? = [.succeeded] := by decide +kernel
  have hwaiting : closedLedger.queue.waiting.length = 1 := by decide +kernel
  refine ⟨closedLedger_reachable, haccounts, ?_, ?_, ?_, ?_, ?_⟩
  · rw [haccounts.handled.exact (by rw [hresults]; decide), hresults]
    rfl
  · rw [← haccounts.retried, haccounts.results, hresults]
    rfl
  · rw [haccounts.created, hcreated]
    rfl
  · rw [haccounts.completed, hwritten]
    rfl
  · rw [haccounts.depth, hwaiting]
    rfl

end BatchOperator
