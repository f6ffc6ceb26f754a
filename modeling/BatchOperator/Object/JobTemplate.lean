import BatchOperator.Object.Pod

/-!
# Job templates

A job template holds the pod from which child jobs are started. Batches select templates by their
labels.
-/

set_option autoImplicit false

namespace BatchOperator

/-- The group of the kinds that are defined here. -/
def apiGroup : String := "jobbatch.dev"

/-- The version of the kinds that are defined here. -/
def apiVersionName : String := "v1alpha1"

/-- Group and version of the kinds that are defined here. -/
def groupVersion : String := apiGroup ++ "/" ++ apiVersionName

/-- A template for child jobs. -/
structure JobTemplate where
  metadata : Metadata
  template : PodTemplate
  deriving DecidableEq

namespace JobTemplate

instance : Resource JobTemplate := ⟨JobTemplate.metadata⟩

/-- The kind of job templates. -/
def kind : String := "JobTemplate"

/-- The template in the specification that a document holds. -/
def specOfJson? (document : Json) : Option PodTemplate := do
  let fields ← document.record? ["template"] 1
  fields.required "template" PodTemplate.ofJson?

/-- The job template that a document holds. -/
def ofJson? (document : Json) : Option JobTemplate := do
  let fields ← document.record? ["metadata", "spec"] 2
  let metadata ← fields.required "metadata" Metadata.ofJson?
  let template ← fields.required "spec" specOfJson?
  return { metadata, template }

/-- The document of a job template. -/
def toJson (t : JobTemplate) : Json :=
  .present [("apiVersion", some (.str groupVersion)), ("kind", some (.str kind)),
    ("metadata", some t.metadata.toJson),
    ("spec", some (.obj [("template", t.template.toJson)]))]

/-- The name of a template, by which its children know it. -/
def name (t : JobTemplate) : String := t.metadata.anyName

end JobTemplate

end BatchOperator
