import BatchOperator.Worker
import BatchOperator.Text.Numeral

/-!
# A store in memory

A store that stands in for the API server, so that the operator can be run without a cluster. What
is written to it is seen in the caches at once, unless it is told to hide new children; it can be
told to fail, and it keeps a log of what it was asked for and of what was announced.
-/

set_option autoImplicit false

namespace BatchOperator.Simulation

/-- The operations that can be told to fail. -/
inductive Operation where
  | create
  | list
  | delete
  | status
  deriving DecidableEq, Repr

/-- When new children are seen in the cache. -/
inductive Visibility where
  | atOnce
  /-- They are only found by listing. -/
  | never
  | after (delay : Duration)

/-- A child that will be seen in the cache. -/
structure Arrival where
  due : Instant
  child : Pod

/-- A store in memory. -/
structure Store where
  /-- Whether changes of the caches become work. -/
  routed : Bool := false
  now : Instant := 0
  /-- How many children were created. -/
  created : Nat := 0
  visibility : Visibility := .atOnce
  /-- Children that the cache does not show, in the order in which they came. -/
  hidden : List Pod := []
  arrivals : List Arrival := []
  /-- The failures that are still to come, in order. -/
  faults : List (Operation × Error) := []
  /-- What the store was asked for, the last first. -/
  calls : List String := []
  /-- What was announced, the last first. -/
  sent : List Notification := []

/-- An operator that works on a store in memory. -/
abbrev World := Operator Store

namespace World

/-- The world with a change in the store. -/
def withStore (w : World) (f : Store → Store) : World := { w with outside := f w.outside }

/-- Writes a line to the log. -/
def log (w : World) (line : String) : World :=
  w.withStore fun s => { s with calls := line :: s.calls }

/-- The first failure of an operation, and the others. -/
def takeFault (operation : Operation) :
    List (Operation × Error) → Option (Error × List (Operation × Error))
  | [] => none
  | (other, e) :: rest =>
    if other = operation then some (e, rest)
    else (takeFault operation rest).map fun (found, others) => (found, (other, e) :: others)

/-- Carries out an operation unless it was told to fail. -/
def unlessFaulty {α : Type} (w : World) (operation : Operation)
    (act : World → Except Error α × World) : Except Error α × World :=
  match takeFault operation w.outside.faults with
  | some (e, faults) => (.error e, w.withStore fun s => { s with faults })
  | none => act w

/-- Puts the changes of batches to work, if changes become work. -/
def passOnBatches (w : World) (changes : List (Change JobBatch)) : World :=
  if w.outside.routed then Operator.routeBatches w changes else w

/-- Puts the changes of children to work, if changes become work. -/
def passOnChildren (w : World) (changes : List (Change Pod)) : World :=
  if w.outside.routed then Operator.routeChildren w changes else w

/-- Puts a batch into its cache. -/
def putBatch (w : World) (batch : JobBatch) : Except Error (Change JobBatch) × World :=
  match w.caches.batches.apply batch with
  | .error e => (.error e, w)
  | .ok (change, batches) =>
    (.ok change, World.passOnBatches { w with caches := { w.caches with batches } } [change])

/-- Puts a template into its cache. -/
def putTemplate (w : World) (template : JobTemplate) : Except Error (Change JobTemplate) × World :=
  match w.caches.templates.apply template with
  | .error e => (.error e, w)
  | .ok (change, templates) => (.ok change, { w with caches := { w.caches with templates } })

/-- Puts a child into its cache. -/
def putChild (w : World) (child : Pod) : Except Error (Change Pod) × World :=
  match w.caches.children.apply child with
  | .error e => (.error e, w)
  | .ok (change, children) =>
    (.ok change, World.passOnChildren { w with caches := { w.caches with children } } [change])

/-- Takes a batch out of its cache, if it is there. -/
def dropBatch (w : World) (key : ObjectKey) : Bool × World :=
  match w.caches.batches.get? key with
  | none => (false, w)
  | some batch =>
    match w.caches.batches.remove batch with
    | .error _ => (false, w)
    | .ok (change, batches) =>
      (true, World.passOnBatches { w with caches := { w.caches with batches } } [change])

/-- Takes a template out of its cache, if it is there. -/
def dropTemplate (w : World) (key : ObjectKey) : Bool × World :=
  match w.caches.templates.get? key with
  | none => (false, w)
  | some template =>
    match w.caches.templates.remove template with
    | .error _ => (false, w)
    | .ok (_, templates) => (true, { w with caches := { w.caches with templates } })

/-- Takes a child out of its cache, if it is there. -/
def dropChild (w : World) (key : ObjectKey) : Bool × World :=
  match w.caches.children.get? key with
  | none => (false, w)
  | some child =>
    match w.caches.children.remove child with
    | .error _ => (false, w)
    | .ok (change, children) =>
      (true, World.passOnChildren { w with caches := { w.caches with children } } [change])

end World

/-- The moment that the first child is created at. -/
def firstCreation : Nat := 1700000000

/-- A child as it is stored, the `n`-th one that is created. -/
def storedChild (pod : Pod) (n : Nat) : Pod :=
  let name := pod.metadata.generateName.getD "" ++ String.ofList (Text.atLeast 5 n)
  { pod with
    metadata := { pod.metadata with
      name := some name, uid := some ("pod-uid-" ++ toString n)
      creationTimestamp := some { seconds := firstCreation + n, nanos := 0 } }
    status := some { phase := some Phase.pending.render } }

/-- The labels that a query asks for: its parts with an equals sign. -/
def queryLabels (query : String) : List (String × String) :=
  (Text.pieces ',' query.toList).filterMap fun part =>
    (Text.cut '=' part).map fun (key, value) => (String.ofList key, String.ofList value)

/-- The version after the one of a batch. -/
def nextVersion (batch : JobBatch) : String := toString (batch.metadata.version?.getD 0 + 1)

/-- The refusal to write the status of a batch that is not there. -/
def noSuchBatch : Error :=
  .api { status := "Failure", message := "batch not found", reason := "NotFound", code := 404 }

/-- The refusal to write the status of a batch that was changed. -/
def changedBatch : Error :=
  .api { status := "Failure", message := "object has been modified", reason := "Conflict",
         code := 409 }

/-- Creates a child. -/
def createChild (pod : Pod) (w : World) : Except Error Pod × World :=
  let ns := pod.metadata.ns.getD ""
  let w := w.log ("create " ++ ns ++ "/" ++ pod.metadata.generateName.getD "")
  w.unlessFaulty .create fun w =>
    -- Only a child that is really created uses up a number.
    let child := storedChild pod w.outside.created
    let w := w.withStore fun s => { s with created := s.created + 1 }
    match w.outside.visibility with
    | .atOnce => (.ok child, (w.putChild child).2)
    | .never => (.ok child, w.withStore fun s => { s with hidden := s.hidden ++ [child] })
    | .after delay =>
      (.ok child, w.withStore fun s =>
        { s with arrivals := s.arrivals ++ [⟨s.now + delay.nanoseconds, child⟩] })

/-- Lists the children that a query asks for: first those that the cache does not show. -/
def listChildren (ns query : String) (w : World) : Except Error (List Pod) × World :=
  let w := w.log ("list " ++ ns ++ " " ++ query)
  w.unlessFaulty .list fun w =>
    let selector := Selector.ofLabels (queryLabels query)
    let hidden := w.outside.hidden.filter fun pod =>
      pod.metadata.ns.getD "" = ns && selector.selects pod.metadata.labelMap
    (.ok (hidden ++ w.caches.children.list ns selector), w)

/-- Deletes a child. -/
def deleteChild (key : ObjectKey) (w : World) : Except Error Unit × World :=
  let w := w.log ("delete " ++ key.render)
  w.unlessFaulty .delete fun w => (.ok (), (w.dropChild key).2)

/-- Replaces the status of a batch, which has to be the one that is stored. -/
def replaceStatus (batch : JobBatch) (w : World) : Except Error JobBatch × World :=
  let key : ObjectKey := ⟨batch.metadata.ns.getD "", batch.name⟩
  let status := match batch.status with
    | some status => status.toJson.compact
    | none => Json.null.compact
  let w := w.log ("status " ++ key.render ++ " rv=" ++ batch.metadata.resourceVersion.getD "" ++
    " " ++ status)
  w.unlessFaulty .status fun w =>
    match w.caches.batches.get? key with
    | none => (.error noSuchBatch, w)
    | some stored =>
      if stored.metadata.resourceVersion ≠ batch.metadata.resourceVersion then
        (.error changedBatch, w)
      else
        let updated : JobBatch :=
          { stored with
            metadata := { stored.metadata with resourceVersion := some (nextVersion stored) }
            status := batch.status }
        (.ok updated, (w.putBatch updated).2)

/-- The surroundings of a pass over a store in memory. -/
def surroundings : Surroundings World where
  createChild := createChild
  listChildren := listChildren
  deleteChild := deleteChild
  replaceStatus := replaceStatus
  publish n w := w.withStore fun s => { s with sent := n :: s.sent }
  sees := Operator.sees
  count := Operator.count

end BatchOperator.Simulation
