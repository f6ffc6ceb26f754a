import BatchOperator.Api.Request
import BatchOperator.Api.Response

/-!
# Talking to the API server

The operations that the operator needs, over anything that answers requests. A pod that is gone
already counts as deleted.
-/

set_option autoImplicit false

namespace BatchOperator.Api

/-- What answers requests, and how its state changes by that. -/
abbrev Transport (σ : Type) := Request → σ → Response × σ

variable {σ : Type}

/-- Whether a document is an event. -/
def eventOfJson? (document : Json) : Option Unit := do
  let fields ← document.fields?
  fields.fixed "apiVersion" "v1"
  fields.fixed "kind" "Event"
  let _ ← fields.orDefault "metadata" Metadata.ofJson? {}
  let _ ← fields.orDefault "involvedObject" ObjectReference.ofJson? {}
  let _ ← fields.optional "count" Json.int32?
  for name in ["action", "message", "reason", "reportingComponent", "reportingInstance", "type"] do
    let _ ← fields.optional name Json.str?
  return ()

/-- Creates a child; the answer carries the name that it was given. -/
def createChild (send : Transport σ) (pod : Pod) (s : σ) : Except Error Pod × σ :=
  let (response, s) := send (.createPod pod) s
  (response.read Pod.ofJson?, s)

/-- Lists the children that a query selects. -/
def listChildren (send : Transport σ) (ns query : String) (s : σ) :
    Except Error (List Pod) × σ :=
  let scope : Scope := { collection := .pods, ns := some ns, labels := some query }
  let (response, s) := send (.listAll scope) s
  let result : Except Error (ObjectList Pod) := response.read (ObjectList.ofJson? Pod.ofJson?)
  (result.map ObjectList.items, s)

/-- Deletes a child. -/
def deleteChild (send : Transport σ) (key : ObjectKey) (s : σ) : Except Error Unit × σ :=
  let (response, s) := send (.deletePod key) s
  let result : Except Error Unit := response.read (deletionOfJson? Pod.ofJson?)
  match result with
  | .ok () => (.ok (), s)
  -- A child that is gone is what was asked for.
  | .error e => (if e.isNotFound then .ok () else .error e, s)

/-- Replaces the status of a batch, which has to be the one that the server has. -/
def replaceStatus (send : Transport σ) (batch : JobBatch) (s : σ) : Except Error JobBatch × σ :=
  let (response, s) := send (.replaceStatus batch) s
  (response.read JobBatch.ofJson?, s)

/-- Records an event. -/
def recordEvent (send : Transport σ) (event : Event) (s : σ) : Except Error Unit × σ :=
  let (response, s) := send (.createEvent event) s
  (response.read eventOfJson?, s)

end BatchOperator.Api
