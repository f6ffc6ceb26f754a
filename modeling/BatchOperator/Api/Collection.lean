import BatchOperator.Object.JobBatch

/-!
# Collections at the API server

The collections of objects that the operator reads and writes, where the API server keeps them, and
the part of a collection that somebody is interested in.
-/

set_option autoImplicit false

namespace BatchOperator.Api

/-- A collection of objects of one kind. -/
inductive Collection where
  | pods
  | batches
  | templates
  | events
  deriving DecidableEq, Repr

namespace Collection

/-- All collections. -/
def all : List Collection := [.pods, .batches, .templates, .events]

/-- The name of a collection. -/
def plural : Collection → String
  | .pods => "pods"
  | .batches => "jobbatches"
  | .templates => "jobtemplates"
  | .events => "events"

/-- The path of the part of the API that a collection belongs to. -/
def root : Collection → String
  | .pods | .events => "/api/v1"
  | .batches | .templates => "/apis/" ++ groupVersion

/-- The path of a collection, in one namespace or in all of them. -/
def path (c : Collection) (ns : Option String) : String :=
  match ns with
  | some ns => c.root ++ "/namespaces/" ++ ns ++ "/" ++ c.plural
  | none => c.root ++ "/" ++ c.plural

end Collection

/-- The part of a collection that somebody is interested in. -/
structure Scope where
  collection : Collection
  /-- The only namespace of interest, if there is one. -/
  ns : Option String := none
  /-- The query that the labels of an object have to satisfy, if there is one. -/
  labels : Option String := none

namespace Scope

/-- The path of the collection. -/
def path (s : Scope) : String := s.collection.path s.ns

/-- The parameters of a request that restrict it to the scope. -/
def query (s : Scope) : List (String × String) :=
  match s.labels with
  | some labels => [("labelSelector", labels)]
  | none => []

end Scope

end BatchOperator.Api
