import BatchOperator.Clockwork
import BatchOperator.Cluster.Server
import BatchOperator.Controller

/-!
# Running over an API server in memory

A controller over an API server in memory and a clock that only moves when nothing else can.
-/

set_option autoImplicit false

namespace BatchOperator.Cluster

/-- A run over an API server in memory. -/
structure Run where
  now : Instant := 0
  controller : Controller Cluster

namespace Run

/-- A run that has not been started. -/
def create (config : Config) (cluster : Cluster) : Run :=
  { controller := .create config cluster }

/-- The API server. -/
def cluster (r : Run) : Cluster := r.controller.operator.outside

/-- The run with a change at the API server. -/
def withCluster (r : Run) (f : Cluster → Cluster) : Run :=
  { r with controller := { r.controller with
      operator := { r.controller.operator with outside := f r.cluster } } }

/-- The time of all events. -/
def eventTime : Timestamp := { seconds := Simulation.firstCreation, nanos := 0 }

/-- A step of the controller, if it can make one. -/
def step (r : Run) : Option Run :=
  (r.controller.step server eventTime r.now).map fun controller => { r with controller }

/-- The next moment at which something is due. -/
def nextMoment (r : Run) : Option Instant := WorkQueue.earliest r.controller.moments

/-- Moves the clock to a moment, and lets happen what is due. -/
def moveTo (moment : Instant) (r : Run) : Run :=
  let o := r.controller.operator
  let o := { o with queue := o.queue.addDue moment }
  { now := moment, controller := { r.controller with operator := o } }

/-- The clock of a run. -/
def clock : Clockwork Run := { step, nextMoment, moveTo }

end Run

end BatchOperator.Cluster
