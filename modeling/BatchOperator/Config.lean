import BatchOperator.Backoff
import BatchOperator.Error
import BatchOperator.Text.Blank
import BatchOperator.Text.LowerCase
import BatchOperator.Text.Split

/-!
# Configuration

The settings of the operator, how they are read from named variables, and which of them make no
sense together. Every setting has a variable of its own and a default that stands for its absence.
-/

set_option autoImplicit false

namespace BatchOperator

/-- Where notifications go. -/
inductive SinkKind where
  /-- They become events at the API server. -/
  | events
  /-- They are printed. -/
  | printed
  deriving DecidableEq, Repr, Inhabited

/-- Why settings cannot be used. -/
inductive ConfigFault where
  /-- The number of workers is no number. -/
  | workersNotNumeric (text : String)
  /-- A duration is no whole number of seconds. -/
  | notSeconds (setting text : String)
  /-- A kind of sink that is not known, in lower case. -/
  | unknownSink (name : String)
  /-- There would be nobody to work. -/
  | noWorkers
  /-- The shortest delay is longer than the longest one. -/
  | delaysOutOfOrder (shortest longest : Duration)
  /-- The informers would do nothing but list. -/
  | noResyncPeriod
  deriving DecidableEq

namespace ConfigFault

/-- The text of a fault. -/
def message : ConfigFault → String
  | .workersNotNumeric text => "WORKERS must be a number, got '" ++ text ++ "'"
  | .notSeconds name text =>
    name ++ " must be a whole number of seconds, got '" ++ text ++ "'"
  | .unknownSink name =>
    "unknown event sink '" ++ name ++ "', expected 'kubernetes' or 'stdout'"
  | .noWorkers => "WORKERS must be at least 1"
  | .delaysOutOfOrder shortest longest =>
    "queue backoff minimum (" ++ shortest.render ++ ") exceeds maximum (" ++ longest.render ++ ")"
  | .noResyncPeriod => "RESYNC_PERIOD_SECS must be at least 1"

/-- A fault as a failure. -/
def error (fault : ConfigFault) : Error := .config fault.message

end ConfigFault

namespace SinkKind

/-- The kind of sink that a text names, in any case of letters. -/
def parse (text : String) : Except ConfigFault SinkKind :=
  let name := String.ofList (Text.lowerCase text.toList)
  if name = "kubernetes" ∨ name = "k8s" then .ok .events
  else if name = "stdout" then .ok .printed
  else .error (.unknownSink name)

/-- The name of a kind of sink. -/
def name : SinkKind → String
  | .events => "kubernetes"
  | .printed => "stdout"

end SinkKind

/-- The settings of the controller. -/
structure ControllerSettings where
  /-- The only namespace to watch; without one all namespaces are watched. -/
  ns : Option String := none
  workers : Nat := 1
  /-- How often the informers list everything. -/
  resyncPeriod : Duration := .ofSeconds 30
  /-- How long a child that was created may take to be seen in the cache. -/
  childSyncTimeout : Duration := .ofSeconds 60
  deriving DecidableEq

/-- The settings of the work queue. -/
structure QueueSettings where
  shortestDelay : Duration := Backoff.usualBase
  longestDelay : Duration := Backoff.usualLimit
  deriving DecidableEq

/-- The settings for the registration of the resource definitions. -/
structure CrdSettings where
  install : Bool := true
  establishTimeout : Duration := .ofSeconds 60
  deriving DecidableEq

/-- The settings for notifications. -/
structure EventSettings where
  sink : SinkKind := .events
  /-- Who is said to report events. -/
  component : String := "jobbatch-controller"
  /-- The host that is said to report events. -/
  host : String := "hostname"
  /-- Whether notifications are printed on several lines. -/
  pretty : Bool := false
  deriving DecidableEq

/-- All settings. -/
structure Config where
  controller : ControllerSettings := {}
  queue : QueueSettings := {}
  crds : CrdSettings := {}
  events : EventSettings := {}
  deriving DecidableEq

namespace Config

/-- Whether a text is empty but for white space. -/
def isBlankText (text : String) : Bool := text.toList.all Text.isBlank

/-- The number that a text holds, with white space around it. -/
def number? (text : String) : Option Nat := Text.unsigned? Text.wordLimit (Text.trim text.toList)

/-- A duration in whole seconds, read from a variable. -/
def seconds (setting : String) (default : Duration) :
    Option String → Except ConfigFault Duration
  | none => .ok default
  | some text =>
    match (number? text).bind Duration.ofSeconds? with
    | some d => .ok d
    | none => .error (.notSeconds setting text)

/-- The number of workers, read from a variable. -/
def workers (default : Nat) : Option String → Except ConfigFault Nat
  | none => .ok default
  | some text =>
    match number? text with
    | some n => .ok n
    | none => .error (.workersNotNumeric text)

/-- A switch, read from a variable: only three words turn it off. -/
def switch (default : Bool) : Option String → Bool
  | none => default
  | some text =>
    let word := String.ofList (Text.lowerCase (Text.trim text.toList))
    !(word = "false" || word = "0" || word = "no")

/-- The kind of sink, read from a variable. -/
def sink (default : SinkKind) : Option String → Except ConfigFault SinkKind
  | none => .ok default
  | some text => SinkKind.parse text

/-- Whether the settings make sense together. -/
def validate (c : Config) : Except ConfigFault Unit :=
  if c.controller.workers = 0 then .error .noWorkers
  else if !c.queue.shortestDelay.atMost c.queue.longestDelay then
    .error (.delaysOutOfOrder c.queue.shortestDelay c.queue.longestDelay)
  else if c.controller.resyncPeriod.isZero then .error .noResyncPeriod
  else .ok ()

/-- The settings that variables give, where `systemHost` is the name that the system gives to this
host, if it gives one. An empty namespace and a blank host count as not given. -/
def read (lookup : String → Option String) (systemHost : Option String) :
    Except ConfigFault Config := do
  let usual : Config := {}
  -- Of several faults the first one in this order is reported.
  let ns := (lookup "WATCH_NAMESPACE").filter fun text => !text.isEmpty
  let workers ← workers usual.controller.workers (lookup "WORKERS")
  let period (name : String) (default : Duration) := seconds name default (lookup name)
  let resyncPeriod ← period "RESYNC_PERIOD_SECS" usual.controller.resyncPeriod
  let childSyncTimeout ← period "CHILD_SYNC_TIMEOUT_SECS" usual.controller.childSyncTimeout
  let shortestDelay ← period "QUEUE_BACKOFF_MIN_SECS" usual.queue.shortestDelay
  let longestDelay ← period "QUEUE_BACKOFF_MAX_SECS" usual.queue.longestDelay
  let install := switch usual.crds.install (lookup "INSTALL_CRDS")
  let establishTimeout ← period "CRD_ESTABLISH_TIMEOUT_SECS" usual.crds.establishTimeout
  let sink ← sink usual.events.sink (lookup "EVENT_SINK")
  let component := (lookup "CONTROLLER_NAME").getD usual.events.component
  let host := (((lookup "HOSTNAME").filter fun text => !isBlankText text) <|> systemHost).getD
    usual.events.host
  let pretty := switch usual.events.pretty (lookup "EVENT_SINK_PRETTY")
  let config : Config :=
    { controller := { ns, workers, resyncPeriod, childSyncTimeout }
      queue := { shortestDelay, longestDelay }
      crds := { install, establishTimeout }
      events := { sink, component, host, pretty } }
  config.validate
  return config

/-- The first line of a text that is not blank, without the white space around it: the name of a
host as the system keeps it. -/
def hostName? (contents : String) : Option String :=
  (((Text.pieces '\n' contents.toList).map Text.trim).find? fun line => !line.isEmpty).map
    String.ofList

/-- The words for a record in the text of a configuration. -/
def record (name : String) (fields : List (String × String)) : String :=
  name ++ " \x7b " ++
    String.intercalate ", " (fields.map fun (field, value) => field ++ ": " ++ value) ++ " \x7d"

/-- The text of a configuration: all settings by name. -/
def describe (c : Config) : String :=
  let ns := match c.controller.ns with
    | some ns => "Some(" ++ Text.quoted ns ++ ")"
    | none => "None"
  let sink := match c.events.sink with
    | .events => "Kubernetes"
    | .printed => "Stdout"
  record "Config" [
    ("controller", record "ControllerConfig" [
      ("namespace", ns),
      ("workers", toString c.controller.workers),
      ("resync_period", c.controller.resyncPeriod.render),
      ("child_sync_timeout", c.controller.childSyncTimeout.render)]),
    ("queue", record "QueueConfig" [
      ("backoff_min", c.queue.shortestDelay.render),
      ("backoff_max", c.queue.longestDelay.render)]),
    ("crds", record "CrdConfig" [
      ("install", toString c.crds.install),
      ("establish_timeout", c.crds.establishTimeout.render)]),
    ("events", record "EventsConfig" [
      ("sink", sink),
      ("component", Text.quoted c.events.component),
      ("host", Text.quoted c.events.host),
      ("pretty", toString c.events.pretty)])]

end Config

end BatchOperator
