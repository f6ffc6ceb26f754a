import BatchOperator.OrderedMap
import BatchOperator.Text.Numeral
import BatchOperator.Text.Shortest

/-!
# Metrics

What the operator counts, and the text in which it is asked for: for every family of metrics a line
of help, a line with its type, and a line for every sample. Families come in the order of their
names and samples in the order of their labels; a family with labels is left out as long as it has
no sample.
-/

set_option autoImplicit false

namespace BatchOperator

/-- The counters and the gauge of the operator. -/
structure Metrics where
  /-- Passes by their results. -/
  reconciled : OrderedMap String Nat := .empty
  /-- Batches marked complete by their outcomes. -/
  completed : OrderedMap String Nat := .empty
  /-- Child jobs created. -/
  created : Nat := 0
  /-- Items that wait in the work queue. -/
  depth : Int := 0
  /-- Items added again because they had failed. -/
  retries : Nat := 0

namespace Metrics

/-- Counters are words and begin again at zero. -/
def sum (a b : Nat) : Nat := (a + b) % Text.wordLimit

/-- A labelled counter increased. -/
def increased (counters : OrderedMap String Nat) (label : String) (amount : Nat) :
    OrderedMap String Nat :=
  counters.insert label (sum ((counters.get? label).getD 0) amount)

/-- Counts passes with a result. -/
def countReconciled (m : Metrics) (result : String) (amount : Nat) : Metrics :=
  { m with reconciled := increased m.reconciled result amount }

/-- Counts batches with an outcome. -/
def countCompleted (m : Metrics) (outcome : String) (amount : Nat) : Metrics :=
  { m with completed := increased m.completed outcome amount }

/-- Counts child jobs. -/
def countCreated (m : Metrics) (amount : Nat) : Metrics :=
  { m with created := sum m.created amount }

/-- Counts items added again. -/
def countRetries (m : Metrics) (amount : Nat) : Metrics :=
  { m with retries := sum m.retries amount }

/-- The value of a label between quotes. -/
def labelValue (text : String) : String :=
  String.ofList (text.toList.flatMap fun c =>
    if c = '\\' then ['\\', '\\']
    else if c = '"' then ['\\', '"']
    else if c = '\n' then ['\\', 'n']
    else [c])

/-- The text of a gauge. -/
def gauge (n : Int) : String := if n < 0 then "-" ++ Text.count n.natAbs else Text.count n.natAbs

/-- The lines of a family. -/
def family (name help type : String) (samples : List (String × String)) : String :=
  if samples.isEmpty then ""
  else "# HELP " ++ name ++ " " ++ help ++ "\n# TYPE " ++ name ++ " " ++ type ++ "\n" ++
    String.join (samples.map fun (labels, value) => name ++ labels ++ " " ++ value ++ "\n")

/-- The samples of labelled counters. -/
def labelled (label : String) (counters : OrderedMap String Nat) : List (String × String) :=
  counters.entries.map fun (value, count) =>
    ("\x7b" ++ label ++ "=\"" ++ labelValue value ++ "\"\x7d", Text.count count)

/-- The text of all metrics. -/
def render (m : Metrics) : String :=
  String.join [
    family "jobbatch_batches_completed_total" "Batches marked complete, by outcome." "counter"
      (labelled "outcome" m.completed),
    family "jobbatch_child_jobs_created_total" "Total number of child jobs created." "counter"
      [("", Text.count m.created)],
    family "jobbatch_queue_depth" "Keys waiting in the work queue." "gauge"
      [("", gauge m.depth)],
    family "jobbatch_queue_retries_total"
      "Keys requeued with backoff after a failed reconciliation." "counter"
      [("", Text.count m.retries)],
    family "jobbatch_reconcile_total" "Reconciliations by result." "counter"
      (labelled "result" m.reconciled)]

end Metrics

/-- The metrics of a program, which are registered once. -/
inductive MetricsRegistry where
  | vacant
  | registered
  deriving DecidableEq

namespace MetricsRegistry

/-- Registers the metrics; a second time is refused with a text. -/
def register : MetricsRegistry → Except String MetricsRegistry
  | .vacant => .ok .registered
  | .registered => .error "Duplicate metrics collector registration attempted"

end MetricsRegistry

end BatchOperator
