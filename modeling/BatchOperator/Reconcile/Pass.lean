import BatchOperator.Polling
import BatchOperator.Reconcile.Plan
import BatchOperator.WorkKey

/-!
# Passes

A pass carries out one unit of work in steps. Every step makes one request, or takes one look at the
cache of children, and the answer decides on the next stage; between two steps anything may happen
elsewhere. `Stage.step` makes a step in surroundings that answer as they like, `Stage.ofKey` begins
a pass from what the caches show.

For a plan, children that are too many are removed first, and it does not matter whether that
succeeds. Then the templates are started one after the other: a child is created and announced, or,
if there turns out to be one already, the first one is adopted, and the next template has to wait
until the child is seen in the cache. Last comes the verdict. The first failure of a start or of the
verdict ends the pass.
-/

set_option autoImplicit false

namespace BatchOperator

/-- What is counted. -/
inductive Count where
  | childCreated
  | batchCompleted (outcome : Outcome)
  deriving DecidableEq, Repr

/-- What a pass acts on: the API server, the place for notifications, the cache of children and the
counters, all in one state. -/
structure Surroundings (σ : Type) where
  createChild : Pod → σ → Except Error Pod × σ
  listChildren : String → String → σ → Except Error (List Pod) × σ
  deleteChild : ObjectKey → σ → Except Error Unit × σ
  replaceStatus : JobBatch → σ → Except Error JobBatch × σ
  /-- Announces something, as well as that goes. -/
  publish : Notification → σ → σ
  /-- Whether the cache of children has the child of a key. -/
  sees : ObjectKey → σ → Bool
  count : Count → σ → σ

/-- What a pass still has to do about a batch. -/
structure Agenda where
  batch : JobBatch
  /-- The templates that are still to be started. -/
  starts : List JobTemplate
  verdict : Option Verdict

/-- How far a pass has come: what it does next. -/
inductive Stage where
  /-- Removes the children of a batch that is gone; the first failure ends the pass. -/
  | purging (next : ObjectKey) (others : List ObjectKey)
  /-- Removes children that are too many, whether that succeeds or not. -/
  | pruning (next : ObjectKey) (others : List ObjectKey) (agenda : Agenda)
  /-- Creates the child of a template. -/
  | starting (template : JobTemplate) (agenda : Agenda)
  /-- Announces that a child was created. -/
  | announcing (child : Pod) (template : JobTemplate) (agenda : Agenda)
  /-- Announces that a child could not be created. -/
  | complaining (template : JobTemplate) (refusal : Error) (batch : JobBatch)
  /-- Looks for the child that there was already. -/
  | adopting (template : JobTemplate) (refusal : Error) (agenda : Agenda)
  /-- Looks for a child in the cache, not before the given moment. -/
  | confirming (child : ObjectKey) (poll : Poll) (moment : Instant) (agenda : Agenda)
  /-- Writes the end of a batch. -/
  | closing (verdict : Verdict) (batch : JobBatch)
  /-- Announces the end of a batch or of a child. -/
  | reporting (notification : Notification)
  | finished (result : Except Error Unit)

namespace Agenda

/-- The stage after the removals and after each start. -/
def proceed (a : Agenda) : Stage :=
  match a.starts with
  | template :: starts => .starting template { a with starts }
  | [] =>
    match a.verdict with
    | some verdict => .closing verdict a.batch
    | none => .finished (.ok ())

/-- The stage with children still to remove. -/
def prune (a : Agenda) : List ObjectKey → Stage
  | [] => a.proceed
  | next :: others => .pruning next others a

end Agenda

namespace Stage

/-- The stage with children of a batch that is gone still to remove. -/
def purge : List ObjectKey → Stage
  | [] => .finished (.ok ())
  | next :: others => .purging next others

/-- The announcement that a child was created. -/
def startNotice (batch : JobBatch) (template : String) : Notification :=
  (Notification.normal batch.reference Reason.childJobStarted.render
    ("Starting job for template " ++ template)).forTemplate template

/-- The announcement that a child could not be created. -/
def refusalNotice (batch : JobBatch) (template : String) (refusal : Error) : Notification :=
  (Notification.warning batch.reference Reason.childJobCreationFailed.render
    ("Failed to start job for template " ++ template ++ ": " ++ refusal.message)).forTemplate
    template

/-- The query for the children of a template. -/
def adoptionQuery (batch : JobBatch) (template : String) : String :=
  ((Selector.ofLabels [(batchLabel, batch.name), (templateLabel, template)]).query?).getD ""

/-- The first child of a batch among those that were listed. -/
def firstOwned (batch : JobBatch) (listed : List Pod) : Option Pod :=
  (Pod.inCreationOrder (listed.filter fun pod => pod.isOwnedBy batch)).head?

/-- The key under which a child is looked for. -/
def childKey (child : Pod) : ObjectKey := ⟨child.metadata.nsOrDefault, child.name⟩

/-- The stage in which a child is looked for, from now on. -/
def confirm (timeout : Duration) (now : Instant) (child : Pod) (agenda : Agenda) : Stage :=
  let key := childKey child
  let poll : Poll :=
    { description := "child job " ++ key.render ++ " to appear in cache", timeout,
      interval := Poll.usualInterval, start := now }
  .confirming key poll now agenda

/-- When the next step can be made, if not at once. -/
def moment? : Stage → Option Instant
  | .confirming _ _ moment _ => some moment
  | _ => none

/-- Whether the next step makes a request. -/
def isRequest : Stage → Bool
  | .confirming .. | .finished _ => false
  | _ => true

/-- Makes a step at `now`. A child may take the time `timeout` to be seen in the cache. -/
def step {σ : Type} (env : Surroundings σ) (timeout : Duration) (now : Instant) (s : σ) :
    Stage → Stage × σ
  | .purging next others =>
    let (result, s) := env.deleteChild next s
    match result with
    | .ok () => (purge others, s)
    | .error e => (.finished (.error e), s)
  | .pruning next others agenda =>
    -- A child that is still there will be seen by the next pass.
    let (_, s) := env.deleteChild next s
    (agenda.prune others, s)
  | .starting template agenda =>
    let (result, s) := env.createChild (agenda.batch.childManifest template) s
    match result with
    | .ok child => (.announcing child template agenda, env.count .childCreated s)
    | .error e =>
      -- Somebody else was faster, or an earlier pass was not answered.
      if e.isAlreadyExists then (.adopting template e agenda, s)
      else (.complaining template e agenda.batch, s)
  | .announcing child template agenda =>
    let s := env.publish (startNotice agenda.batch template.name) s
    (confirm timeout now child agenda, s)
  | .complaining template refusal batch =>
    let s := env.publish (refusalNotice batch template.name refusal) s
    (.finished (.error refusal), s)
  | .adopting template refusal agenda =>
    let query := adoptionQuery agenda.batch template.name
    let (result, s) := env.listChildren agenda.batch.metadata.nsOrDefault query s
    match result with
    | .error e => (.finished (.error e), s)
    | .ok listed =>
      match firstOwned agenda.batch listed with
      | some child => (confirm timeout now child agenda, s)
      -- What was in the way belongs to somebody else.
      | none => (.finished (.error refusal), s)
  | .confirming child poll moment agenda =>
    if now < moment then (.confirming child poll moment agenda, s)
    else match poll.judge now (if env.sees child s then some () else none) with
      | .ready () => (agenda.proceed, s)
      | .expired => (.finished (.error poll.expiry), s)
      | .again moment => (.confirming child poll moment agenda, s)
  | .closing verdict batch =>
    let (result, s) := env.replaceStatus (batch.withStatus verdict.status) s
    match result with
    | .error e => (.finished (.error e), s)
    -- The end is announced by the pass that wrote it, so once.
    | .ok _ =>
      (.reporting (verdict.notification batch), env.count (.batchCompleted verdict.outcome) s)
  | .reporting notification => (.finished (.ok ()), env.publish notification s)
  | .finished result => (.finished result, s)

/-- The key of a child that is to be removed as one too many. -/
def extraKey (child : Pod) : ObjectKey := childKey child

/-- The stage that follows from a decision about the batch of a key. -/
def ofDecision (key : ObjectKey) : Decision → Stage
  | .purge children => purge (children.map fun child => ⟨key.ns, child.name⟩)
  | .rest => .finished (.ok ())
  | .refuse batch fault => .closing (.ofFault fault) batch
  | .proceed plan =>
    Agenda.prune ⟨plan.batch, plan.starts, plan.verdict⟩ (plan.extras.map extraKey)

/-- The announcement that a child has ended, if it has. -/
def endNotice (batch : JobBatch) (child : Pod) : Option Notification :=
  let message :=
    "Child job '" ++ child.name ++ "' exited with status '" ++ child.phase.render ++ "'"
  let named (n : Notification) : Notification :=
    match child.templateName with
    | some template => n.forTemplate template
    | none => n
  match child.phase with
  | .succeeded => some (named (.normal batch.reference Reason.childJobSucceeded.render message))
  | .failed => some (named (.warning batch.reference Reason.childJobFailed.render message))
  | .unknown => some (named (.warning batch.reference Reason.childJobError.render message))
  | .pending | .running => none

/-- What there is to announce about the child of a key. A child or a batch that has gone meanwhile,
and a child of an earlier batch, are passed over. -/
def notice? (caches : Caches) (key : ObjectKey) : Option Notification := do
  let child ← caches.children.get? key
  let name ← child.batchName
  let batch ← caches.batches.get? ⟨key.ns, name⟩
  if child.isOwnedBy batch then endNotice batch child else none

/-- The beginning of a pass over the unit of work of a key. -/
def ofKey (caches : Caches) : WorkKey → Stage
  | .batch key => ofDecision key (.make caches key)
  | .childStatus key =>
    match notice? caches key with
    | some notification => .reporting notification
    | none => .finished (.ok ())

end Stage

end BatchOperator
