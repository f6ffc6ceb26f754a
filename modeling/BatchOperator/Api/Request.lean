import BatchOperator.Api.Collection
import BatchOperator.Notification

/-!
# Requests to the API server

The requests that the operator makes, each as the method, the path, the query and the body that are
sent.
-/

set_option autoImplicit false

namespace BatchOperator.Api

/-- The HTTP methods that are used. -/
inductive Method where
  | get
  | post
  | put
  | delete
  deriving DecidableEq, Repr

namespace Method

/-- The name of a method. -/
def render : Method → String
  | .get => "GET"
  | .post => "POST"
  | .put => "PUT"
  | .delete => "DELETE"

end Method

/-- A request to the API server. -/
structure Request where
  method : Method
  path : String
  /-- The parameters of the query, not escaped. -/
  query : List (String × String) := []
  body : Option Json := none

/-- The path of the resource definitions. -/
def definitionsPath : String := "/apis/apiextensions.k8s.io/v1/customresourcedefinitions"

/-- The body of a deletion without preferences. -/
def noPreferences : Json := .obj []

namespace Request

/-- Asks for a pod to be created. -/
def createPod (pod : Pod) : Request :=
  { method := .post, path := Collection.pods.path pod.metadata.nsOrDefault,
    body := some pod.toJson }

/-- Asks for all objects of a scope at once. -/
def listAll (scope : Scope) : Request :=
  { method := .get, path := scope.path, query := scope.query }

/-- How many objects a page of a list holds at most. -/
def pageSize : Nat := 500

/-- Asks for a page of the objects of a scope, the first one or the one that a token stands for. -/
def listPage (scope : Scope) (token : Option String) : Request :=
  let next := match token with
    | some token => [("continue", token)]
    | none => []
  { method := .get, path := scope.path
    query := scope.query ++ [("limit", toString pageSize)] ++ next }

/-- Asks to be told of all changes in a scope after a version. -/
def watch (scope : Scope) (version : String) : Request :=
  { method := .get, path := scope.path
    query := [("watch", "true")] ++ scope.query ++
      [("resourceVersion", version), ("allowWatchBookmarks", "true")] }

/-- Asks for a pod to be deleted. -/
def deletePod (key : ObjectKey) : Request :=
  { method := .delete, path := Collection.pods.path key.ns ++ "/" ++ key.name,
    body := some noPreferences }

/-- Asks for the status of a batch to be replaced. -/
def replaceStatus (batch : JobBatch) : Request :=
  { method := .put,
    path := Collection.batches.path batch.metadata.nsOrDefault ++ "/" ++ batch.name ++ "/status",
    body := some batch.toJson }

/-- Asks for an event to be recorded. -/
def createEvent (event : Event) : Request :=
  { method := .post, path := Collection.events.path event.ns, body := some event.toJson }

/-- Asks for a resource definition to be created. -/
def createDefinition (manifest : Json) : Request :=
  { method := .post, path := definitionsPath, body := some manifest }

/-- Asks for a resource definition. -/
def getDefinition (name : String) : Request :=
  { method := .get, path := definitionsPath ++ "/" ++ name }

/-- Asks for a resource definition to be deleted. -/
def deleteDefinition (name : String) : Request :=
  { method := .delete, path := definitionsPath ++ "/" ++ name, body := some noPreferences }

end Request

end BatchOperator.Api
