import BatchOperator.Cache
import BatchOperator.Child
import BatchOperator.Notification

/-!
# What to do about a batch

The decision about a batch, made once at the beginning of a pass from what the caches show. A batch
that is gone has its children removed; a complete batch rests; a batch whose selector has no meaning
is refused. For all others there is a plan: children that are too many are removed, templates
without a child are started as far as there are free slots, and when every selected template has
run, or too many have failed and nothing runs any more, there is a verdict.
-/

set_option autoImplicit false

namespace BatchOperator

/-- What was last seen of all kinds of objects. -/
structure Caches where
  batches : Cache JobBatch := {}
  templates : Cache JobTemplate := {}
  children : Cache Pod := {}

namespace Caches

instance : Inhabited Caches := ⟨{}⟩

/-- The children that carry the name of a batch in its namespace, in the order of their names. -/
def childrenOf (c : Caches) (batch : ObjectKey) : List Pod :=
  c.children.list batch.ns (.ofLabels [(batchLabel, batch.name)])

/-- Whether all kinds have been listed. -/
def synced (c : Caches) : Bool := c.batches.synced && c.templates.synced && c.children.synced

end Caches

/-- How a batch ends. -/
inductive Outcome where
  | succeeded
  | failed
  /-- What the batch asks for has no meaning. -/
  | invalid
  deriving DecidableEq, Repr

namespace Outcome

/-- The name of an outcome in metrics. -/
def label : Outcome → String
  | .succeeded => "succeeded"
  | .failed => "failed"
  | .invalid => "invalid"

end Outcome

/-- The end of a batch and what is said about it. -/
structure Verdict where
  outcome : Outcome
  message : String
  deriving DecidableEq, Repr

namespace Verdict

/-- The status of a batch that has come to its end. -/
def status (v : Verdict) : BatchStatus :=
  { phase := .complete, success := v.outcome = .succeeded, message := v.message }

/-- The announcement of the end of a batch. -/
def notification (v : Verdict) (batch : JobBatch) : Notification :=
  match v.outcome with
  | .succeeded => .normal batch.reference Reason.batchSucceeded.render v.message
  | .failed => .warning batch.reference Reason.batchFailed.render v.message
  | .invalid => .warning batch.reference Reason.batchInvalid.render v.message

/-- The end of a batch whose selector has no meaning. -/
def ofFault (fault : SelectorFault) : Verdict :=
  ⟨.invalid, "invalid selector: " ++ fault.error.message⟩

end Verdict

/-- How the selected templates stand. -/
structure Tally where
  /-- Templates whose child has ended. -/
  completed : Nat := 0
  /-- Templates whose child has failed. -/
  failed : Nat := 0
  deriving DecidableEq, Repr

namespace Tally

/-- Counts the child of one more template. -/
def add (t : Tally) (child : Pod) : Tally :=
  if child.phase.isTerminal then
    { completed := t.completed + 1,
      failed := if child.phase.isFailure then t.failed + 1 else t.failed }
  else t

/-- The tally over the children that count. -/
def ofChildren (children : List Pod) : Tally := children.foldl add {}

/-- Whether more have failed than are tolerated. -/
def isOver (t : Tally) (threshold : Option Nat) : Bool := threshold.any fun n => t.failed > n

/-- What is said about a batch of `total` templates at its end; templates that were not started are
said to have been skipped when a threshold was exceeded. -/
def summary (t : Tally) (total : Nat) (exceeded : Option Nat) : String :=
  let base := "Ran " ++ toString t.completed ++ " tests, " ++ toString t.failed ++ " failures"
  match exceeded with
  | some n =>
    if t.completed < total then
      base ++ " (" ++ toString (total - t.completed) ++
        " skipped after exceeding maxFailures=" ++ toString n ++ ")"
    else base
  | none => base

end Tally

/-- What a pass will do about a batch. -/
structure Plan where
  batch : JobBatch
  /-- The children to remove: leftovers, then duplicates. -/
  extras : List Pod
  /-- The templates to start, in the order of their names. -/
  starts : List JobTemplate
  /-- The end of the batch, if it has come. -/
  verdict : Option Verdict

namespace Plan

/-- The children that count, one for each selected template that has one. -/
def authoritative (index : ChildIndex) (templates : List JobTemplate) : List Pod :=
  templates.filterMap fun t => index.byTemplate.get? t.name

/-- The selected templates that have no child. -/
def undispatched (index : ChildIndex) (templates : List JobTemplate) : List JobTemplate :=
  templates.filter fun t => !index.byTemplate.contains t.name

/-- How many more children may run. -/
def freeSlots (batch : JobBatch) (index : ChildIndex) : Nat :=
  (batch.slots - index.unfinished).toNat

/-- The plan for a batch, its selected templates and the children that carry its name. -/
def make (batch : JobBatch) (templates : List JobTemplate) (children : List Pod) : Plan :=
  let index := ChildIndex.build batch children
  let tally := Tally.ofChildren (authoritative index templates)
  let isOver := tally.isOver batch.failureThreshold
  let total := templates.length
  -- A batch that failed too often still waits for what runs.
  let isDone := tally.completed == total || (isOver && index.unfinished == 0)
  let success := tally.failed == 0 && tally.completed == total
  let exceeded := if isOver then batch.failureThreshold else none
  { batch, extras := index.leftovers ++ index.duplicates
    starts := if isOver then [] else (undispatched index templates).take (freeSlots batch index)
    verdict :=
      if isDone then
        some ⟨if success then .succeeded else .failed, tally.summary total exceeded⟩
      else none }

end Plan

/-- The decision about a batch. -/
inductive Decision where
  /-- The batch is gone; its children are removed. -/
  | purge (children : List Pod)
  /-- The batch is complete. -/
  | rest
  /-- The batch cannot be acted on. -/
  | refuse (batch : JobBatch) (fault : SelectorFault)
  | proceed (plan : Plan)

namespace Decision

/-- The decision about the batch of a key. -/
def make (caches : Caches) (key : ObjectKey) : Decision :=
  match caches.batches.get? key with
  | none => .purge (caches.childrenOf key)
  | some batch =>
    -- A complete batch is left alone, whatever has become of its selector.
    if batch.isComplete then .rest
    else match Selector.read batch.spec.selector with
      | .error fault => .refuse batch fault
      | .ok selector =>
        .proceed (.make batch (caches.templates.list key.ns selector) (caches.childrenOf key))

end Decision

end BatchOperator
