import BatchOperator.Config
import BatchOperator.Json.Record

/-!
# Configurations as documents

A configuration written as a JSON document and read back. Every setting has to be there but the
namespace, and durations are written as seconds and nanoseconds.
-/

set_option autoImplicit false

namespace BatchOperator

namespace Duration

/-- The duration that a document holds. Nanoseconds beyond a second are carried over; a sum that
does not fit is refused, and so is any other field. -/
def ofJson? (document : Json) : Option Duration := do
  let fields ← document.record? ["secs", "nanos"] 2
  if fields.any fun (name, _) => name ≠ "secs" && name ≠ "nanos" then none
  else
    let seconds ← fields.required "secs" (Json.natBelow? Text.wordLimit)
    let nanos ← fields.required "nanos" (Json.natBelow? 4294967296)
    ofParts? seconds nanos

/-- The document of a duration. -/
def toJson (d : Duration) : Json :=
  .obj [("nanos", .int d.nanos), ("secs", .int d.seconds)]

end Duration

namespace SinkKind

/-- The kind of sink that a document names. -/
def ofJson? (document : Json) : Option SinkKind :=
  match document.case? with
  | some name =>
    if name = "kubernetes" then some .events
    else if name = "stdout" then some .printed
    else none
  | none => none

/-- The document of a kind of sink. -/
def toJson (kind : SinkKind) : Json := .str kind.name

end SinkKind

namespace Config

/-- The settings of the controller that a document holds. -/
def controllerOfJson? (document : Json) : Option ControllerSettings := do
  let fields ← document.record?
    ["namespace", "workers", "resync_period", "child_sync_timeout"] 4
  let ns ← fields.optional "namespace" Json.str?
  let workers ← fields.required "workers" (Json.natBelow? Text.wordLimit)
  let resyncPeriod ← fields.required "resync_period" Duration.ofJson?
  let childSyncTimeout ← fields.required "child_sync_timeout" Duration.ofJson?
  return { ns, workers, resyncPeriod, childSyncTimeout }

/-- The settings of the queue that a document holds. -/
def queueOfJson? (document : Json) : Option QueueSettings := do
  let fields ← document.record? ["backoff_min", "backoff_max"] 2
  let shortestDelay ← fields.required "backoff_min" Duration.ofJson?
  let longestDelay ← fields.required "backoff_max" Duration.ofJson?
  return { shortestDelay, longestDelay }

/-- The settings for resource definitions that a document holds. -/
def crdsOfJson? (document : Json) : Option CrdSettings := do
  let fields ← document.record? ["install", "establish_timeout"] 2
  let install ← fields.required "install" Json.bool?
  let establishTimeout ← fields.required "establish_timeout" Duration.ofJson?
  return { install, establishTimeout }

/-- The settings for notifications that a document holds. -/
def eventsOfJson? (document : Json) : Option EventSettings := do
  let fields ← document.record? ["sink", "component", "host", "pretty"] 4
  let sink ← fields.required "sink" SinkKind.ofJson?
  let component ← fields.required "component" Json.str?
  let host ← fields.required "host" Json.str?
  let pretty ← fields.required "pretty" Json.bool?
  return { sink, component, host, pretty }

/-- The configuration that a document holds. -/
def ofJson? (document : Json) : Option Config := do
  let fields ← document.record? ["controller", "queue", "crds", "events"] 4
  let controller ← fields.required "controller" controllerOfJson?
  let queue ← fields.required "queue" queueOfJson?
  let crds ← fields.required "crds" crdsOfJson?
  let events ← fields.required "events" eventsOfJson?
  return { controller, queue, crds, events }

/-- The document of a configuration. -/
def toJson (c : Config) : Json :=
  .obj [
    ("controller", .obj [
      ("child_sync_timeout", c.controller.childSyncTimeout.toJson),
      ("namespace", match c.controller.ns with
        | some ns => .str ns
        | none => .null),
      ("resync_period", c.controller.resyncPeriod.toJson),
      ("workers", .int c.controller.workers)]),
    ("crds", .obj [
      ("establish_timeout", c.crds.establishTimeout.toJson),
      ("install", .bool c.crds.install)]),
    ("events", .obj [
      ("component", .str c.events.component),
      ("host", .str c.events.host),
      ("pretty", .bool c.events.pretty),
      ("sink", c.events.sink.toJson)]),
    ("queue", .obj [
      ("backoff_max", c.queue.longestDelay.toJson),
      ("backoff_min", c.queue.shortestDelay.toJson)])]

end Config

end BatchOperator
