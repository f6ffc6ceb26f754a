import BatchOperator.Api.Request
import BatchOperator.Api.Target
import BatchOperator.Cluster.Document
import BatchOperator.Selector

/-!
# Objects of a cluster

The documents that an API server in memory keeps, and the watches that are told of their changes.
Every change has a version of its own, one higher than the version before, which is stamped on the
document. A watch is told of the changes that are made while it is open, unless they are silent.
-/

set_option autoImplicit false

namespace BatchOperator.Cluster

open Api (Collection Target)

/-- What may be asked of a server. -/
inductive Demand where
  | watch
  | request (method : Api.Method)
  deriving DecidableEq

/-- Demands that will be refused. -/
structure Fault where
  demand : Demand
  collection : Collection
  /-- How many of them. -/
  times : Nat
  code : Nat
  reason : String

/-- An open watch. -/
structure Watch where
  number : Nat
  target : Target
  labels : List Clause
  /-- The lines that have not been read yet. -/
  lines : List String := []
  isEnded : Bool := false

end BatchOperator.Cluster

namespace BatchOperator

open Api (Collection)

/-- An API server in memory. -/
structure Cluster where
  /-- The version of the last change. -/
  version : Nat := 0
  /-- How many pods were created by requests. -/
  created : Nat := 0
  pods : OrderedMap ObjectKey Json := .empty
  batches : OrderedMap ObjectKey Json := .empty
  templates : OrderedMap ObjectKey Json := .empty
  watches : List Cluster.Watch := []
  /-- The number of the next watch. -/
  nextWatch : Nat := 0
  faults : List Cluster.Fault := []
  /-- How many objects a page holds at most. -/
  pageSize : Option Nat := none
  /-- The requests to change something, the last first. -/
  writes : List String := []
  /-- The events that were recorded, the last first. -/
  events : List Json := []

namespace Cluster

/-- The objects of a collection. Events are not kept as objects. -/
def objects (c : Cluster) : Collection → OrderedMap ObjectKey Json
  | .pods => c.pods
  | .batches => c.batches
  | .templates => c.templates
  | .events => .empty

/-- The cluster with other objects in a collection. -/
def withObjects (c : Cluster) (collection : Collection) (objects : OrderedMap ObjectKey Json) :
    Cluster :=
  match collection with
  | .pods => { c with pods := objects }
  | .batches => { c with batches := objects }
  | .templates => { c with templates := objects }
  | .events => c

/-- Whether a watch is told of the changes of a document. -/
def isToldOf (collection : Collection) (document : Json) (w : Watch) : Bool :=
  !w.isEnded && w.target.collection = collection &&
    (w.target.ns.all fun ns => ns = (key document).ns) &&
    w.labels.all fun clause => clause.holds (labels document)

/-- Puts a line into the watches that it is meant for. -/
def send (c : Cluster) (isMeant : Watch → Bool) (line : String) : Cluster :=
  { c with watches := c.watches.map fun w =>
      if isMeant w then { w with lines := w.lines ++ [line] } else w }

/-- Tells the watches of a change. -/
def tell (c : Cluster) (type : String) (collection : Collection) (document : Json) : Cluster :=
  c.send (isToldOf collection document)
    (Json.obj [("type", .str type), ("object", document)]).compact

/-- The document with the version of the next change, and the cluster at that version. -/
def stamp (c : Cluster) (document : Json) : Json × Cluster :=
  let version := c.version + 1
  (withMetadata [("resourceVersion", toString version)] document, { c with version })

/-- Puts a document into a collection, and tells the watches unless the change is silent. -/
def put (c : Cluster) (collection : Collection) (document : Json) (isSilent : Bool) :
    Json × Cluster :=
  let (document, c) := c.stamp document
  let objects := c.objects collection
  let type := if objects.contains (key document) then "MODIFIED" else "ADDED"
  let c := c.withObjects collection (objects.insert (key document) document)
  (document, if isSilent then c else c.tell type collection document)

/-- Takes a document out of a collection, if it is there, and tells the watches unless the change is
silent. -/
def drop (c : Cluster) (collection : Collection) (key : ObjectKey) (isSilent : Bool) :
    Option (Json × Cluster) :=
  (c.objects collection).get? key |>.map fun document =>
    let (document, c) := c.stamp document
    let c := c.withObjects collection ((c.objects collection).erase key)
    (document, if isSilent then c else c.tell "DELETED" collection document)

/-- Ends the watches of a collection. -/
def endWatches (c : Cluster) (collection : Collection) : Cluster :=
  { c with watches := c.watches.map fun w =>
      if w.target.collection = collection then { w with isEnded := true } else w }

/-- The pods of a namespace that have not ended, in the order of their names. -/
def unfinished (c : Cluster) (ns : String) : List (ObjectKey × Json) :=
  c.pods.entries.filter fun (key, pod) =>
    let isAtWork := match phase pod with
      | .str phase => phase = Phase.pending.render || phase = Phase.running.render
      | _ => false
    key.ns = ns && isAtWork

end Cluster

end BatchOperator
