import BatchOperator.Json.Record

/-!
# References to objects

What a notification or an event says about the object that it concerns.
-/

set_option autoImplicit false

namespace BatchOperator

/-- A reference to an object, with as much as is known of it. -/
structure ObjectReference where
  apiVersion : Option String := none
  fieldPath : Option String := none
  kind : Option String := none
  name : Option String := none
  ns : Option String := none
  resourceVersion : Option String := none
  uid : Option String := none
  deriving DecidableEq, Inhabited

namespace ObjectReference

/-- The reference that a document holds. -/
def ofJson? (document : Json) : Option ObjectReference := do
  let fields ← document.fields?
  let apiVersion ← fields.optional "apiVersion" Json.str?
  let fieldPath ← fields.optional "fieldPath" Json.str?
  let kind ← fields.optional "kind" Json.str?
  let name ← fields.optional "name" Json.str?
  let ns ← fields.optional "namespace" Json.str?
  let resourceVersion ← fields.optional "resourceVersion" Json.str?
  let uid ← fields.optional "uid" Json.str?
  return { apiVersion, fieldPath, kind, name, ns, resourceVersion, uid }

/-- The document of a reference: what is known, in the order of the names. -/
def toJson (r : ObjectReference) : Json :=
  .present [("apiVersion", r.apiVersion.map .str), ("fieldPath", r.fieldPath.map .str),
    ("kind", r.kind.map .str), ("name", r.name.map .str), ("namespace", r.ns.map .str),
    ("resourceVersion", r.resourceVersion.map .str), ("uid", r.uid.map .str)]

end ObjectReference

end BatchOperator
