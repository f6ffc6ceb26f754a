import BatchOperator.Object.JobTemplate
import BatchOperator.Json.Record

/-!
# Resource definitions

The definitions under which batches and job templates are known to the API server: their names, the
columns in which they are shown, and what is said about the fields of their specifications and
statuses.
-/

set_option autoImplicit false

namespace BatchOperator.Crd

/-- What a definition says about a field, apart from the fields in it. -/
structure FieldSchema where
  name : String
  type : String
  description : String
  format : Option String := none
  nullable : Bool := false
  default : Option Json := none
  /-- The only values that there are, where there are only some. -/
  values : Option (List String) := none

namespace FieldSchema

/-- The document of what is said about a field. -/
def toJson (s : FieldSchema) : Json :=
  .present [("default", s.default), ("description", some (.str s.description)),
    ("enum", s.values.map .ofStrings), ("format", s.format.map .str),
    ("nullable", if s.nullable then some (.bool true) else none), ("type", some (.str s.type))]

end FieldSchema

/-- What a definition says about a part of an object. -/
structure PartSchema where
  fields : List FieldSchema
  required : List String := []
  nullable : Bool := false

namespace PartSchema

/-- The document of what is said about a part. -/
def toJson (s : PartSchema) : Json :=
  .present [("nullable", if s.nullable then some (.bool true) else none),
    ("properties", some (.obj (s.fields.map fun f => (f.name, f.toJson)))),
    ("required", if s.required.isEmpty then none else some (.ofStrings s.required)),
    ("type", some (.str "object"))]

end PartSchema

/-- A column in which objects are shown. -/
structure Column where
  name : String
  type : String
  /-- Where the value is found. -/
  path : String

namespace Column

/-- The document of a column. -/
def toJson (c : Column) : Json :=
  .obj [("jsonPath", .str c.path), ("name", .str c.name), ("type", .str c.type)]

end Column

/-- The definition of a kind of objects. -/
structure Definition where
  kind : String
  plural : String
  singular : String
  shortNames : List String
  columns : List Column := []
  spec : PartSchema
  status : Option PartSchema := none

namespace Definition

/-- The API version of definitions. -/
def apiVersion : String := "apiextensions.k8s.io/v1"

/-- The kind of definitions. -/
def kindName : String := "CustomResourceDefinition"

/-- All objects belong to namespaces. -/
def scope : String := "Namespaced"

/-- The parts of an object that have to be there. -/
def required : List String := ["spec"]

/-- The name of a definition. -/
def name (d : Definition) : String := d.plural ++ "." ++ apiGroup

/-- The names of the kind. -/
def names (d : Definition) : Json :=
  .obj [("categories", .arr []), ("kind", .str d.kind), ("plural", .str d.plural),
    ("shortNames", .ofStrings d.shortNames), ("singular", .str d.singular)]

/-- What can be written apart from the rest of an object. -/
def subresources (d : Definition) : Json :=
  .obj (if d.status.isSome then [("status", .obj [])] else [])

/-- The manifest with which a definition is registered. -/
def manifest (d : Definition) : Json :=
  let parts : List (String × Option Json) :=
    [("spec", some d.spec.toJson), ("status", d.status.map PartSchema.toJson)]
  let version := Json.obj [
    ("additionalPrinterColumns", .arr (d.columns.map Column.toJson)),
    ("name", .str apiVersionName),
    ("schema", .obj [("openAPIV3Schema", .obj [
      ("properties", .present parts), ("required", .ofStrings required),
      ("title", .str d.kind), ("type", .str "object")])]),
    ("served", .bool true),
    ("storage", .bool true),
    ("subresources", d.subresources)]
  .obj [("apiVersion", .str apiVersion), ("kind", .str kindName),
    ("metadata", .obj [("name", .str d.name)]),
    ("spec", .obj [("group", .str apiGroup), ("names", d.names), ("scope", .str scope),
      ("versions", .arr [version])])]

/-- The lines by which a definition begins in a file of manifests. -/
def heading (d : Definition) : List String :=
  ["---", "# " ++ d.kind ++ " CRD", "apiVersion: " ++ apiVersion, "kind: " ++ kindName,
    "  name: " ++ d.name, "  group: " ++ apiGroup, "  scope: " ++ scope]

end Definition

/-- The definition of batches. -/
def batches : Definition :=
  { kind := "JobBatch", plural := "jobbatches", singular := "jobbatch", shortNames := ["jb"]
    columns := [⟨"Phase", "string", ".status.phase"⟩, ⟨"Success", "boolean", ".status.success"⟩,
      ⟨"Message", "string", ".status.message"⟩]
    spec :=
      { fields := [
          { name := "maxConcurrent", type := "integer", format := some "int32"
            description := "Maximum number of child jobs running at the same time"
            default := some (.int 1) },
          { name := "maxFailures", type := "integer", format := some "int32", nullable := true
            description :=
              "Number of failed child jobs tolerated before no further jobs are started" },
          { name := "selector", type := "object", nullable := true
            description :=
              "Selects the JobTemplates to run. An absent or empty selector selects nothing." }] }
    status := some
      { fields := [
          { name := "message", type := "string", description := "Human readable summary"
            default := some (.str "") },
          { name := "phase", type := "string"
            description := "Pending until every selected template has a terminal child job"
            default := some (.str "Pending"), values := some ["Pending", "Complete"] },
          { name := "success", type := "boolean"
            description := "True when the batch completed without failed child jobs"
            default := some (.bool false) }]
        nullable := true } }

/-- The definition of job templates. -/
def templates : Definition :=
  { kind := "JobTemplate", plural := "jobtemplates", singular := "jobtemplate"
    shortNames := ["jt"]
    spec :=
      { fields := [
          { name := "template", type := "object"
            description :=
              "Pod metadata and spec used for every child job created from this template" }]
        required := ["template"] } }

/-- All definitions that the operator needs, in the order in which they are registered. -/
def all : List Definition := [batches, templates]

end BatchOperator.Crd
