import BatchOperator.Config
import BatchOperator.Crew
import BatchOperator.Informer

/-!
# The controller

The whole operator at work on an API server: three informers keep the caches current and turn
changes into work, and when every cache has been filled for the first time a crew of workers begins.
When it is told to stop, the informers end at once, and the workers end when they have finished what
they are at.
-/

set_option autoImplicit false

namespace BatchOperator

namespace Operator

variable {σ α : Type}

/-- Acts on what is outside of the operator. -/
def outwards (act : σ → α × σ) (o : Operator σ) : α × Operator σ :=
  let (a, outside) := act o.outside
  (a, { o with outside })

end Operator

namespace Api

/-- The surroundings of a pass that talks to an API server and announces by events, which carry the
given source and time. -/
def surroundings {σ : Type} (send : Transport σ) (source : EventSource) (time : Timestamp) :
    Surroundings (Operator σ) where
  createChild pod := Operator.outwards (createChild send pod)
  listChildren ns query := Operator.outwards (listChildren send ns query)
  deleteChild key := Operator.outwards (deleteChild send key)
  replaceStatus batch := Operator.outwards (replaceStatus send batch)
  publish notification o :=
    let event := Event.ofNotification notification source time
    (o.outwards (recordEvent send event)).2
  sees := Operator.sees
  count := Operator.count

end Api

/-- What a controller is doing. -/
inductive RunState where
  | notStarted
  /-- The caches are being filled for the first time. -/
  | filling
  | working (crew : Crew)
  | ended

/-- A controller and all that it works on. -/
structure Controller (σ : Type) where
  operator : Operator σ
  settings : ControllerSettings
  source : EventSource
  state : RunState := .notStarted
  /-- Whether it was told to stop. -/
  isStopping : Bool := false
  batches : Informer JobBatch
  templates : Informer JobTemplate
  children : Informer Pod

namespace Controller

variable {σ : Type}

/-- A controller that has not been started. -/
def create (config : Config) (outside : σ) : Controller σ :=
  { operator :=
      { outside, queue := .create config.queue.shortestDelay config.queue.longestDelay }
    settings := config.controller
    source := ⟨config.events.component, config.events.host⟩
    batches := { nextResync := 0 }
    templates := { nextResync := 0 }
    children := { nextResync := 0 } }

/-- Starts the controller. One that was told to stop before ends at once. -/
def start (now : Instant) (c : Controller σ) : Controller σ :=
  match c.state with
  | .notStarted =>
    let nextResync := now + c.settings.resyncPeriod.nanoseconds
    { c with
      state := if c.isStopping then .ended else .filling
      batches := { nextResync }, templates := { nextResync }, children := { nextResync } }
  | _ => c

/-- Tells the controller to stop. Nobody works before the caches are filled. -/
def stop (c : Controller σ) : Controller σ :=
  let operator := { c.operator with queue := c.operator.queue.shutDown }
  match c.state with
  | .notStarted | .ended => { c with isStopping := true }
  | .filling => { c with isStopping := true, operator, state := .ended }
  | .working _ => { c with isStopping := true, operator }

/-- Whether the controller has been started and has not ended. -/
def isRunning (c : Controller σ) : Bool :=
  match c.state with
  | .filling | .working _ => true
  | .notStarted | .ended => false

/-- What the informer for batches is set to do. -/
def batchTask (s : ControllerSettings) : Informer.Task JobBatch :=
  { scope := { collection := .batches, ns := s.ns }, read := JobBatch.ofJson?
    period := s.resyncPeriod }

/-- What the informer for templates is set to do. -/
def templateTask (s : ControllerSettings) : Informer.Task JobTemplate :=
  { scope := { collection := .templates, ns := s.ns }, read := JobTemplate.ofJson?
    period := s.resyncPeriod }

/-- What the informer for children is set to do: it passes over pods that name no batch. -/
def childTask (s : ControllerSettings) : Informer.Task Pod :=
  { scope := { collection := .pods, ns := s.ns, labels := some batchLabel }, read := Pod.ofJson?
    period := s.resyncPeriod }

/-- A step of the informer for batches. Changes become work when the cache has them. -/
def stepBatches (server : Api.Server σ) (now : Instant) (c : Controller σ) :
    Option (Controller σ) :=
  let o := c.operator
  (c.batches.step server (batchTask c.settings) now o.caches.batches o.outside).map fun p =>
    let o := { o with outside := p.outside, caches := { o.caches with batches := p.cache } }
    { c with batches := p.informer, operator := o.routeBatches p.changes }

/-- A step of the informer for templates, whose changes are no work. -/
def stepTemplates (server : Api.Server σ) (now : Instant) (c : Controller σ) :
    Option (Controller σ) :=
  let o := c.operator
  (c.templates.step server (templateTask c.settings) now o.caches.templates o.outside).map fun p =>
    let o := { o with outside := p.outside, caches := { o.caches with templates := p.cache } }
    { c with templates := p.informer, operator := o }

/-- A step of the informer for children. Changes become work when the cache has them. -/
def stepChildren (server : Api.Server σ) (now : Instant) (c : Controller σ) :
    Option (Controller σ) :=
  let o := c.operator
  (c.children.step server (childTask c.settings) now o.caches.children o.outside).map fun p =>
    let o := { o with outside := p.outside, caches := { o.caches with children := p.cache } }
    { c with children := p.informer, operator := o.routeChildren p.changes }

/-- A step of an informer, unless the informers have ended. -/
def inform (server : Api.Server σ) (now : Instant) (c : Controller σ) : Option (Controller σ) :=
  if c.isStopping then none
  else c.stepBatches server now <|> c.stepTemplates server now <|> c.stepChildren server now

/-- The controller after a step of the crew. -/
def afterCrew (c : Controller σ) : Crew × Operator σ → Controller σ
  | (crew, operator) => { c with state := .working crew, operator }

/-- A step at `now`, if there is one to make. Events carry the given time. -/
def step (server : Api.Server σ) (time : Timestamp) (now : Instant) (c : Controller σ) :
    Option (Controller σ) :=
  match c.state with
  | .notStarted | .ended => none
  | .filling =>
    c.inform server now <|>
      -- Nobody decides on caches that have not been filled.
      (if c.operator.caches.synced then
        some { c with state := .working (.ofSize c.settings.workers) }
      else none)
  | .working crew =>
    let env := Api.surroundings server.send c.source time
    let timeout := c.settings.childSyncTimeout
    -- A turn is finished first; then news is taken in before the next turn begins.
    (crew.goOn env timeout now c.operator).map c.afterCrew <|>
      c.inform server now <|>
      (crew.begin env timeout now c.operator).map c.afterCrew <|>
      (if crew.isStopped then some { c with state := .ended } else none)

/-- The moments at which there will be something to do in any case. -/
def moments (c : Controller σ) : List Instant :=
  let informing :=
    if c.isStopping then []
    else c.batches.moments ++ c.templates.moments ++ c.children.moments
  match c.state with
  | .notStarted | .ended => []
  | .filling => informing
  | .working crew => informing ++ crew.moments ++ c.operator.queue.nextDue.toList

end Controller

end BatchOperator
