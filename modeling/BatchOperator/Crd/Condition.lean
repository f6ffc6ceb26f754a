import BatchOperator.Crd.Definition
import BatchOperator.Object.Metadata

/-!
# What the API server says about a definition

The conditions of a definition: whether its kind can be served, and why its names were refused.
-/

set_option autoImplicit false

namespace BatchOperator.Crd

/-- A condition of a definition. -/
structure Condition where
  type : String
  status : String
  message : Option String := none
  deriving DecidableEq, Repr

namespace Condition

/-- The condition that a document holds. -/
def ofJson? (document : Json) : Option Condition := do
  let fields ← document.fields?
  let _ ← fields.optional "lastTransitionTime" fun value => value.str?.bind Timestamp.parse?
  let message ← fields.optional "message" Json.str?
  let _ ← fields.optional "reason" Json.str?
  let status ← fields.orDefault "status" Json.str? ""
  let type ← fields.orDefault "type" Json.str? ""
  return { type, status, message }

end Condition

/-- What the API server says about a definition; `none` where it says nothing yet. -/
structure Report where
  conditions : Option (List Condition) := none
  deriving DecidableEq, Repr

namespace Report

/-- The conditions; where there are none reported, there are none. -/
def all (r : Report) : List Condition := r.conditions.getD []

/-- Whether the kind can be served. The first condition about that counts. -/
def isEstablished (r : Report) : Bool :=
  (r.all.find? fun c => c.type == "Established").any fun c => c.status == "True"

/-- Why the names of the kind were refused, if they were. -/
def namesConflict (r : Report) : Option String :=
  (r.all.find? fun c => c.type == "NamesAccepted" && c.status == "False").map fun c =>
    c.message.getD ""

/-- The names of a kind that a document holds. -/
def namesOfJson? (document : Json) : Option Unit := do
  let fields ← document.fields?
  let _ ← fields.optional "categories" Json.strings?
  let _ ← fields.orDefault "kind" Json.str? ""
  let _ ← fields.optional "listKind" Json.str?
  let _ ← fields.orDefault "plural" Json.str? ""
  let _ ← fields.optional "shortNames" Json.strings?
  let _ ← fields.optional "singular" Json.str?
  return ()

/-- The conditions in the status that a document holds. -/
def ofStatus? (document : Json) : Option Report := do
  let fields ← document.fields?
  let _ ← fields.optional "acceptedNames" namesOfJson?
  let conditions ← fields.optional "conditions" (Json.list? Condition.ofJson?)
  let _ ← fields.optional "storedVersions" Json.strings?
  return { conditions }

/-- A version of a kind that a document holds. -/
def versionOfJson? (document : Json) : Option Unit := do
  let fields ← document.fields?
  let _ ← fields.orDefault "name" Json.str? ""
  let _ ← fields.orDefault "served" Json.bool? false
  let _ ← fields.orDefault "storage" Json.bool? false
  let _ ← fields.optional "deprecated" Json.bool?
  let _ ← fields.optional "deprecationWarning" Json.str?
  return ()

/-- Whether a document says what a kind is. -/
def specOfJson? (document : Json) : Option Unit := do
  let fields ← document.fields?
  let _ ← fields.orDefault "group" Json.str? ""
  let _ ← fields.orDefault "names" namesOfJson? ()
  let _ ← fields.optional "preserveUnknownFields" Json.bool?
  let _ ← fields.orDefault "scope" Json.str? ""
  let _ ← fields.orDefault "versions" (Json.list? versionOfJson?) []
  return ()

/-- What is said about the definition that a document holds. -/
def ofJson? (document : Json) : Option Report := do
  let fields ← document.fields?
  fields.fixed "apiVersion" Definition.apiVersion
  fields.fixed "kind" Definition.kindName
  let _ ← fields.orDefault "metadata" Metadata.ofJson? {}
  let _ ← fields.orDefault "spec" specOfJson? ()
  let status ← fields.optional "status" ofStatus?
  return status.getD {}

end Report

end BatchOperator.Crd
