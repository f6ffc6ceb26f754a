import BatchOperator.Child
import BatchOperator.Json.Printer

/-!
# Notifications

What is announced about a batch: the text of a notification as a line of JSON, and the event that
stands for it at the API server. Announcing is best effort and decides nothing.
-/

set_option autoImplicit false

namespace BatchOperator

/-- The two types of notifications. -/
inductive NotificationType where
  | normal
  | warning
  deriving DecidableEq, Repr

namespace NotificationType

/-- The name of a type. -/
def render : NotificationType → String
  | .normal => "Normal"
  | .warning => "Warning"

/-- The type that a document names. -/
def ofJson? (document : Json) : Option NotificationType :=
  match document.case? with
  | some name =>
    if name = "Normal" then some .normal
    else if name = "Warning" then some .warning
    else none
  | none => none

end NotificationType

/-- Words for what is announced. -/
inductive Reason where
  /-- A child job was created for a template. -/
  | childJobStarted
  /-- The API server refused to create a child job. -/
  | childJobCreationFailed
  | childJobSucceeded
  | childJobFailed
  /-- A child job ended in an unknown state. -/
  | childJobError
  /-- Every template ran and none failed. -/
  | batchSucceeded
  /-- The batch completed with failures. -/
  | batchFailed
  /-- The batch asks for something that has no meaning. -/
  | batchInvalid
  deriving DecidableEq, Repr

namespace Reason

/-- The word of a reason. -/
def render : Reason → String
  | .childJobStarted => "ChildJobStarted"
  | .childJobCreationFailed => "ChildJobCreationFailed"
  | .childJobSucceeded => "ChildJobSucceeded"
  | .childJobFailed => "ChildJobFailed"
  | .childJobError => "ChildJobError"
  | .batchSucceeded => "BatchSucceeded"
  | .batchFailed => "BatchFailed"
  | .batchInvalid => "BatchInvalid"

end Reason

/-- An announcement about a batch. -/
structure Notification where
  /-- The batch that is concerned. -/
  involved : ObjectReference
  reason : String
  message : String
  type : NotificationType
  /-- The template that is concerned, empty when the batch as a whole is. -/
  templateName : String := ""
  deriving DecidableEq

namespace Notification

/-- An announcement in the ordinary course of things. -/
def normal (involved : ObjectReference) (reason message : String) : Notification :=
  { involved, reason, message, type := .normal }

/-- An announcement that something went wrong. -/
def warning (involved : ObjectReference) (reason message : String) : Notification :=
  { involved, reason, message, type := .warning }

/-- The announcement as one about a template. -/
def forTemplate (n : Notification) (template : String) : Notification :=
  { n with templateName := template }

/-- The notification that a document holds. -/
def ofJson? (document : Json) : Option Notification := do
  let fields ← document.record? ["involvedObject", "reason", "message", "type", "templateName"] 4
  let involved ← fields.required "involvedObject" ObjectReference.ofJson?
  let reason ← fields.required "reason" Json.str?
  let message ← fields.required "message" Json.str?
  let type ← fields.required "type" NotificationType.ofJson?
  let templateName ← fields.strictDefault "templateName" Json.str? ""
  return { involved, reason, message, type, templateName }

/-- The document of a notification. -/
def toJson (n : Notification) : Json :=
  .obj [("involvedObject", n.involved.toJson), ("reason", .str n.reason),
    ("message", .str n.message), ("type", .str n.type.render),
    ("templateName", .str n.templateName)]

/-- The text of a notification, on one line or indented. -/
def render (pretty : Bool) (n : Notification) : String :=
  if pretty then n.toJson.indented else n.toJson.compact

end Notification

/-- A place that notifications are printed at, one after the other. -/
structure PrintingSink where
  /-- The name of the place, where the usual one does not fit. -/
  nameOverride : Option String := none
  pretty : Bool := false

namespace PrintingSink

/-- The name of the place. -/
def name (s : PrintingSink) : String := s.nameOverride.getD "stdout"

/-- What is printed for a notification. -/
def output (s : PrintingSink) (n : Notification) : String := n.render s.pretty ++ "\n"

end PrintingSink

/-- Who reports an event. -/
structure EventSource where
  component : String
  /-- The host of the component, empty if it is not known. -/
  host : String

/-- An event at the API server. -/
structure Event where
  ns : String
  generateName : String
  labels : StringMap
  involved : ObjectReference
  reason : String
  message : String
  type : NotificationType
  source : EventSource
  /-- When the event was recorded. -/
  time : Timestamp

namespace Event

/-- The name that sinks of events go by. -/
def sinkName : String := "kubernetes-events"

/-- The event of a notification. It is recorded in the namespace of the batch and carries its name
and that of the template as labels, as far as they are known. -/
def ofNotification (n : Notification) (source : EventSource) (time : Timestamp) : Event :=
  let batch := n.involved.name.getD ""
  let mark (labels : StringMap) (key value : String) : StringMap :=
    if value.isEmpty then labels else labels.insert key value
  { ns := n.involved.ns.getD Metadata.defaultNs
    generateName := (if batch.isEmpty then "jobbatch" else batch) ++ "-"
    labels := mark (mark .empty batchLabel batch) templateLabel n.templateName
    involved := n.involved, reason := n.reason, message := n.message, type := n.type
    source, time }

/-- The document of an event. Each event is counted once, so that its first and its last time are
the same. -/
def toJson (e : Event) : Json :=
  let host : Option Json := if e.source.host.isEmpty then none else some (.str e.source.host)
  .present [
    ("apiVersion", some (.str "v1")),
    ("count", some (.int 1)),
    ("firstTimestamp", some (.str e.time.render)),
    ("involvedObject", some e.involved.toJson),
    ("kind", some (.str "Event")),
    ("lastTimestamp", some (.str e.time.render)),
    ("message", some (.str e.message)),
    ("metadata", some (.obj [("generateName", .str e.generateName),
      ("labels", .ofStringMap e.labels), ("namespace", .str e.ns)])),
    ("reason", some (.str e.reason)),
    ("reportingComponent", some (.str e.source.component)),
    ("reportingInstance", host),
    ("source", some (.present [("component", some (.str e.source.component)), ("host", host)])),
    ("type", some (.str e.type.render))]

end Event

end BatchOperator
