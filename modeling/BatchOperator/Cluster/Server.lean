import BatchOperator.Api.Watch
import BatchOperator.Cluster.Objects
import BatchOperator.Simulation.Store

/-!
# An API server in memory

An API server that keeps its objects in memory, so that the operator can be run as a whole without a
cluster. It answers requests for lists, with pages and with queries for labels, and requests to
change something, of which it takes note, and it can be told to refuse requests.
-/

set_option autoImplicit false

namespace BatchOperator.Cluster

open Api (Collection Target Request Response Delivery Server)

/-- The clauses that a query for labels asks for: a label with a value, or just a label. -/
def clauses (query : String) : List Clause :=
  (Text.pieces ',' query.toList).map fun part =>
    match Text.cut '=' part with
    | some (label, value) => .equals (String.ofList label) (String.ofList value)
    | none => ⟨String.ofList part, .present⟩

/-- The clauses that a request asks for. -/
def clausesOf (r : Request) : List Clause :=
  match r.query.lookup "labelSelector" with
  | some query => clauses query
  | none => []

/-- The document of a refusal. -/
def refusal (code : Nat) (reason message : String) : Json :=
  .obj [("apiVersion", .str "v1"), ("code", .int code), ("kind", .str "Status"),
    ("message", .str message), ("metadata", .obj []), ("reason", .str reason),
    ("status", .str "Failure")]

/-- The answer that refuses a request. -/
def refuse (code : Nat) (reason message : String) : Response :=
  { status := code, body := (refusal code reason message).compact }

/-- The answer that a request was carried out. -/
def accept (document : Json) : Response := { status := 200, body := document.compact }

/-- Takes note of a request to change something. -/
def log (c : Cluster) (line : String) : Cluster := { c with writes := line :: c.writes }

/-- The first fault that a demand meets, and the faults that are left after it. -/
def takeFault (demand : Demand) (collection : Collection) :
    List Fault → Option (Fault × List Fault)
  | [] => none
  | fault :: rest =>
    if fault.demand = demand ∧ fault.collection = collection ∧ fault.times > 0 then
      some (fault, { fault with times := fault.times - 1 } :: rest)
    else (takeFault demand collection rest).map fun (found, others) => (found, fault :: others)

/-- The line of a refused demand to change something. -/
def faultLine? (t : Target) (code : Nat) : Demand → Option String
  | .watch | .request .get => none
  | .request method => some (method.render ++ " " ++ t.collection.plural ++ " " ++ t.ns.getD "" ++
      " -> " ++ toString code)

/-- The answer to a demand that meets a fault. -/
def fail? (c : Cluster) (demand : Demand) (t : Target) : Option (Response × Cluster) :=
  (takeFault demand t.collection c.faults).map fun (fault, faults) =>
    let lines := (faultLine? t fault.code demand).toList
    (refuse fault.code fault.reason "injected", lines.foldl log { c with faults })

/-- The objects that a request asks for. -/
def selected (c : Cluster) (t : Target) (r : Request) : List Json :=
  (c.objects t.collection).entries.filterMap fun (key, document) =>
    if (t.ns.all fun ns => ns = key.ns) && (clausesOf r).all fun clause =>
      clause.holds (labels document)
    then some document else none

/-- The number that a parameter of a request holds. -/
def number? (r : Request) (name : String) : Option Nat :=
  (r.query.lookup name).bind fun text => Text.unsigned? Text.wordLimit text.toList

/-- Answers a request for a list, or for a page of one if the request asks for pages. -/
def list (c : Cluster) (t : Target) (r : Request) : Response :=
  let all := c.selected t r
  let first := (number? r "continue").getD 0
  -- Only a request with a limit is answered in pages.
  let size := match number? r "limit" with
    | some limit => min limit (c.pageSize.getD limit)
    | none => all.length
  let next : List (String × Json) :=
    if first + size < all.length then [("continue", .str (toString (first + size)))] else []
  accept (.obj [("apiVersion", .str "v1"), ("kind", .str "List"),
    ("metadata", .obj (("resourceVersion", .str (toString c.version)) :: next)),
    ("items", .arr ((all.drop first).take size))])

/-- Creates a pod, which is given a name. -/
def createPod (c : Cluster) (ns : String) (body : Json) : Response × Cluster :=
  let n := c.created
  let name := (metadataText "generateName" body).getD "" ++ String.ofList (Text.atLeast 5 n)
  let moment : Timestamp := { seconds := Simulation.firstCreation + n, nanos := 0 }
  let pod := inPhase Phase.pending.render (withMetadata
    [("name", name), ("namespace", ns), ("uid", "pod-uid-" ++ toString n),
      ("creationTimestamp", moment.render)] body)
  let (pod, c) := { c with created := n + 1 }.put .pods pod false
  (accept pod, c.log ("POST pods " ++ ns ++ "/" ++ name))

/-- Records an event. -/
def createEvent (c : Cluster) (body : Json) : Response × Cluster :=
  (accept body, { c with events := body :: c.events })

/-- Replaces the status of an object, which has to be the one that is kept. -/
def replaceStatus (c : Cluster) (collection : Collection) (key : ObjectKey) (body : Json) :
    Response × Cluster :=
  let status := (body.field? "status").getD .null
  let line := "PUT " ++ collection.plural ++ " " ++ key.render ++ " " ++ status.compact
  match (c.objects collection).get? key with
  | none => (refuse 404 "NotFound" "not found", c.log (line ++ " -> 404"))
  | some document =>
    if metadataText "resourceVersion" document ≠ metadataText "resourceVersion" body then
      (refuse 409 "Conflict" "modified", c.log (line ++ " -> 409"))
    else
      let (document, c) := c.put collection (document.withField "status" status) false
      (accept document, c.log line)

/-- Deletes an object. -/
def delete (c : Cluster) (collection : Collection) (key : ObjectKey) : Response × Cluster :=
  let line := "DELETE " ++ collection.plural ++ " " ++ key.render
  match c.drop collection key false with
  | none => (refuse 404 "NotFound" "not found", c.log (line ++ " -> 404"))
  | some (document, c) => (accept document, c.log line)

/-- The answer to a request that makes no sense here. -/
def noSuchResource : Response := refuse 404 "NotFound" "no such resource"

/-- Answers a request that no fault is waiting for. -/
def carryOut (c : Cluster) (t : Target) (r : Request) : Response × Cluster :=
  let body := r.body.getD .null
  match r.method, t.collection, t.ns, t.name with
  | .get, _, _, none => (c.list t r, c)
  | .post, .pods, some ns, none => c.createPod ns body
  | .post, .events, some _, none => c.createEvent body
  | .put, collection, some ns, some name => c.replaceStatus collection ⟨ns, name⟩ body
  | .delete, collection, some ns, some name => c.delete collection ⟨ns, name⟩
  | _, _, _, _ => (noSuchResource, c)

/-- Answers a request. -/
def answer (r : Request) (c : Cluster) : Response × Cluster :=
  match Target.ofPath? r.path with
  | none => (noSuchResource, c)
  | some t => (c.fail? (.request r.method) t).getD (c.carryOut t r)

/-- Opens a watch. -/
def watch (r : Request) (c : Cluster) : Except Error Nat × Cluster :=
  match Target.ofPath? r.path with
  | none => (.error (.api noSuchResource.failure), c)
  | some t =>
    match c.fail? .watch t with
    | some (response, c) => (.error (.api response.failure), c)
    | none =>
      let w : Watch := { number := c.nextWatch, target := t, labels := clausesOf r }
      (.ok w.number, { c with watches := c.watches ++ [w], nextWatch := c.nextWatch + 1 })

/-- What the watch of a number has next. A watch that has ended is not kept any longer. -/
def receive (number : Nat) (c : Cluster) : Delivery × Cluster :=
  match c.watches.find? fun w => w.number = number with
  | none => (.ended, c)
  | some w =>
    match w.lines with
    | line :: rest =>
      (.line line, { c with watches := c.watches.map fun other =>
        if other.number = number then { other with lines := rest } else other })
    | [] =>
      if w.isEnded then
        (.ended, { c with watches := c.watches.filter fun other => other.number ≠ number })
      else (.nothing, c)

/-- The cluster as a server. -/
def server : Server Cluster := { send := answer, watch, receive }

end BatchOperator.Cluster
