import BatchOperator.Json.Record
import BatchOperator.ObjectKey
import BatchOperator.Timestamp

/-!
# What all objects have in common

The metadata that names an object, says when it came to be and who controls it, and the references
by which objects point at each other.
-/

set_option autoImplicit false

namespace BatchOperator

/-- A reference from an object to one that owns it. -/
structure OwnerReference where
  apiVersion : String
  kind : String
  name : String
  uid : String
  /-- Whether the owner is the one that manages the object. -/
  controller : Option Bool := none
  blockOwnerDeletion : Option Bool := none
  deriving DecidableEq

namespace OwnerReference

/-- The reference that a document holds; missing texts are empty. -/
def ofJson? (document : Json) : Option OwnerReference := do
  let fields ← document.fields?
  let apiVersion ← fields.orDefault "apiVersion" Json.str? ""
  let blockOwnerDeletion ← fields.optional "blockOwnerDeletion" Json.bool?
  let controller ← fields.optional "controller" Json.bool?
  let kind ← fields.orDefault "kind" Json.str? ""
  let name ← fields.orDefault "name" Json.str? ""
  let uid ← fields.orDefault "uid" Json.str? ""
  return { apiVersion, kind, name, uid, controller, blockOwnerDeletion }

/-- The document of a reference. -/
def toJson (r : OwnerReference) : Json :=
  .present [("apiVersion", some (.str r.apiVersion)),
    ("blockOwnerDeletion", r.blockOwnerDeletion.map .bool),
    ("controller", r.controller.map .bool), ("kind", some (.str r.kind)),
    ("name", some (.str r.name)), ("uid", some (.str r.uid))]

end OwnerReference

/-- The metadata of an object. -/
structure Metadata where
  name : Option String := none
  /-- What the server puts in front of a name that it makes up. -/
  generateName : Option String := none
  ns : Option String := none
  uid : Option String := none
  resourceVersion : Option String := none
  labels : Option StringMap := none
  annotations : Option StringMap := none
  finalizers : Option (List String) := none
  generation : Option Int := none
  creationTimestamp : Option Timestamp := none
  ownerReferences : Option (List OwnerReference) := none
  deriving DecidableEq, Inhabited

namespace Metadata

/-- The metadata that a document holds. -/
def ofJson? (document : Json) : Option Metadata := do
  let fields ← document.fields?
  let annotations ← fields.optional "annotations" Json.stringMap?
  let creationTimestamp ← fields.optional "creationTimestamp"
    fun value => value.str?.bind Timestamp.parse?
  let finalizers ← fields.optional "finalizers" Json.strings?
  let generateName ← fields.optional "generateName" Json.str?
  let generation ← fields.optional "generation" Json.int64?
  let labels ← fields.optional "labels" Json.stringMap?
  let name ← fields.optional "name" Json.str?
  let ns ← fields.optional "namespace" Json.str?
  let ownerReferences ← fields.optional "ownerReferences" (Json.list? OwnerReference.ofJson?)
  let resourceVersion ← fields.optional "resourceVersion" Json.str?
  let uid ← fields.optional "uid" Json.str?
  return { name, generateName, ns, uid, resourceVersion, labels, annotations, finalizers,
           generation, creationTimestamp, ownerReferences }

/-- The document of metadata: what is there, in the order of the names. -/
def toJson (m : Metadata) : Json :=
  .present [("annotations", m.annotations.map .ofStringMap),
    ("creationTimestamp", m.creationTimestamp.map fun t => .str t.render),
    ("finalizers", m.finalizers.map .ofStrings), ("generateName", m.generateName.map .str),
    ("generation", m.generation.map .int), ("labels", m.labels.map .ofStringMap),
    ("name", m.name.map .str), ("namespace", m.ns.map .str),
    ("ownerReferences", m.ownerReferences.map fun rs => .arr (rs.map OwnerReference.toJson)),
    ("resourceVersion", m.resourceVersion.map .str), ("uid", m.uid.map .str)]

/-- The labels; an object without labels has none. -/
def labelMap (m : Metadata) : StringMap := m.labels.getD .empty

/-- The annotations; an object without annotations has none. -/
def annotationMap (m : Metadata) : StringMap := m.annotations.getD .empty

/-- The owners; an object without references has none. -/
def owners (m : Metadata) : List OwnerReference := m.ownerReferences.getD []

/-- The name, or what its name will start with; an empty name is a name. -/
def anyName (m : Metadata) : String := (m.name <|> m.generateName).getD ""

/-- The namespace that an object without one is taken to be in. -/
def defaultNs : String := "default"

/-- The namespace, or the default one. -/
def nsOrDefault (m : Metadata) : String := m.ns.getD defaultNs

/-- The key of an object, which has to have a name that is not empty. An object without a namespace
has the empty one. -/
def key (m : Metadata) : Except Error ObjectKey :=
  match m.name with
  | some name =>
    if name.isEmpty then .error nameless else .ok ⟨m.ns.getD "", name⟩
  | none => .error nameless
where
  /-- What is wrong with an object without a name. -/
  nameless : Error := .invalidObject "object has no name"

/-- The resource version as a number, if it is one. -/
def version? (m : Metadata) : Option Nat :=
  m.resourceVersion.bind fun text => Text.unsigned? Text.wordLimit text.toList

end Metadata

/-- A kind of object that has metadata. -/
class Resource (K : Type) where
  metadata : K → Metadata

/-- The key of an object. -/
def Resource.key {K : Type} [Resource K] (object : K) : Except Error ObjectKey :=
  (Resource.metadata object).key

end BatchOperator
