import BatchOperator.Object.JobTemplate
import BatchOperator.Object.Reference

/-!
# Batches

A batch selects job templates and asks for each of them to be run once, so many at a time, until
too many have failed. Its status says whether it is complete and how it went.
-/

set_option autoImplicit false

namespace BatchOperator

/-- One clause of a label selector as it is written. -/
structure LabelExpression where
  key : String
  operator : String
  values : Option (List String) := none
  deriving DecidableEq

namespace LabelExpression

/-- The clause that a document holds. -/
def ofJson? (document : Json) : Option LabelExpression := do
  let fields ← document.fields?
  let key ← fields.orDefault "key" Json.str? ""
  let operator ← fields.orDefault "operator" Json.str? ""
  let values ← fields.optional "values" Json.strings?
  return { key, operator, values }

/-- The document of a clause. -/
def toJson (e : LabelExpression) : Json :=
  .present [("key", some (.str e.key)), ("operator", some (.str e.operator)),
    ("values", e.values.map .ofStrings)]

end LabelExpression

/-- A label selector as it is written. -/
structure LabelSelector where
  matchLabels : Option StringMap := none
  matchExpressions : Option (List LabelExpression) := none
  deriving DecidableEq

namespace LabelSelector

/-- The label selector that a document holds. -/
def ofJson? (document : Json) : Option LabelSelector := do
  let fields ← document.fields?
  let matchExpressions ← fields.optional "matchExpressions" (Json.list? LabelExpression.ofJson?)
  let matchLabels ← fields.optional "matchLabels" Json.stringMap?
  return { matchLabels, matchExpressions }

/-- The document of a label selector. -/
def toJson (s : LabelSelector) : Json :=
  .present [
    ("matchExpressions", s.matchExpressions.map fun es => .arr (es.map LabelExpression.toJson)),
    ("matchLabels", s.matchLabels.map .ofStringMap)]

end LabelSelector

/-- What a batch asks for. -/
structure BatchSpec where
  /-- Which templates to run; without a selector there are none. -/
  selector : Option LabelSelector := none
  /-- How many child jobs may run at the same time. -/
  maxConcurrent : Int := 1
  /-- How many failed child jobs are tolerated before no more are started. -/
  maxFailures : Option Int := none
  deriving DecidableEq

namespace BatchSpec

/-- The specification that a document holds. -/
def ofJson? (document : Json) : Option BatchSpec := do
  let fields ← document.record? ["selector", "maxConcurrent", "maxFailures"] 0
  let selector ← fields.optional "selector" LabelSelector.ofJson?
  let maxConcurrent ← fields.strictDefault "maxConcurrent" Json.int32? 1
  let maxFailures ← fields.optional "maxFailures" Json.int32?
  return { selector, maxConcurrent, maxFailures }

/-- The document of a specification; the number of concurrent jobs is always there. -/
def toJson (s : BatchSpec) : Json :=
  .present [("maxConcurrent", some (.int s.maxConcurrent)),
    ("maxFailures", s.maxFailures.map .int), ("selector", s.selector.map LabelSelector.toJson)]

end BatchSpec

/-- How far a batch has come. -/
inductive BatchPhase where
  | pending
  /-- Every selected template has run, or none will be started any more. -/
  | complete
  deriving DecidableEq, Repr

namespace BatchPhase

/-- The name of a phase. -/
def render : BatchPhase → String
  | .pending => "Pending"
  | .complete => "Complete"

/-- The phase that a document names. -/
def ofJson? (document : Json) : Option BatchPhase :=
  match document.case? with
  | some name =>
    if name = "Pending" then some .pending
    else if name = "Complete" then some .complete
    else none
  | none => none

end BatchPhase

/-- What has become of a batch. -/
structure BatchStatus where
  phase : BatchPhase := .pending
  /-- Whether the batch completed without failed child jobs. -/
  success : Bool := false
  message : String := ""
  deriving DecidableEq

namespace BatchStatus

/-- The status that a document holds. -/
def ofJson? (document : Json) : Option BatchStatus := do
  let fields ← document.record? ["phase", "success", "message"] 0
  let phase ← fields.strictDefault "phase" BatchPhase.ofJson? .pending
  let success ← fields.strictDefault "success" Json.bool? false
  let message ← fields.strictDefault "message" Json.str? ""
  return { phase, success, message }

/-- The document of a status; all three fields are always there. -/
def toJson (s : BatchStatus) : Json :=
  .present [("message", some (.str s.message)), ("phase", some (.str s.phase.render)),
    ("success", some (.bool s.success))]

end BatchStatus

/-- A batch of jobs. -/
structure JobBatch where
  metadata : Metadata
  spec : BatchSpec
  status : Option BatchStatus := none
  deriving DecidableEq

namespace JobBatch

instance : Resource JobBatch := ⟨JobBatch.metadata⟩

/-- The kind of batches. -/
def kind : String := "JobBatch"

/-- The batch that a document holds. -/
def ofJson? (document : Json) : Option JobBatch := do
  let fields ← document.record? ["metadata", "spec", "status"] 3
  let metadata ← fields.required "metadata" Metadata.ofJson?
  let spec ← fields.required "spec" BatchSpec.ofJson?
  let status ← fields.optional "status" BatchStatus.ofJson?
  return { metadata, spec, status }

/-- The document of a batch. -/
def toJson (b : JobBatch) : Json :=
  .present [("apiVersion", some (.str groupVersion)), ("kind", some (.str kind)),
    ("metadata", some b.metadata.toJson), ("spec", some b.spec.toJson),
    ("status", b.status.map BatchStatus.toJson)]

/-- The name of a batch, by which its children know it. -/
def name (b : JobBatch) : String := b.metadata.anyName

/-- Whether the batch has its verdict. -/
def isComplete (b : JobBatch) : Bool := b.status.any fun s => s.phase = .complete

/-- How many child jobs may run at the same time; at least one may. -/
def slots (b : JobBatch) : Int := max b.spec.maxConcurrent 1

/-- How many failed children are tolerated, if there is a limit; never fewer than none. -/
def failureThreshold (b : JobBatch) : Option Nat := b.spec.maxFailures.map Int.toNat

/-- The batch with another status. -/
def withStatus (b : JobBatch) (status : BatchStatus) : JobBatch := { b with status := some status }

/-- What notifications say about the batch that they concern. A batch without a namespace is said to
be in the default one. -/
def reference (b : JobBatch) : ObjectReference :=
  { apiVersion := some groupVersion, kind := some kind, name := b.metadata.name,
    ns := some b.metadata.nsOrDefault, uid := b.metadata.uid }

end JobBatch

end BatchOperator
