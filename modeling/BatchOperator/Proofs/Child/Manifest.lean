import BatchOperator.Child

/-!
# What a child is made from

The marks of the manifest of a child, and what the API server keeps of them when it makes a pod from
a manifest (`Pod.MadeFrom`): the pod carries the names of the batch and of the template and belongs
to the batch.
-/

set_option autoImplicit false

namespace BatchOperator

/-- A pod as it is made from a manifest: whatever else the API server puts into it, it is in the
same namespace, carries the same labels and owners and has not ended. -/
structure Pod.MadeFrom (manifest child : Pod) : Prop where
  ns : child.metadata.ns = manifest.metadata.ns
  labels : child.metadata.labels = manifest.metadata.labels
  owners : child.metadata.ownerReferences = manifest.metadata.ownerReferences
  unfinished : child.phase.isTerminal = false

/-- Whether a child belongs to a batch depends on its owners only. -/
theorem Pod.isOwnedBy_congr {child child' : Pod} (batch : JobBatch)
    (h : child'.metadata.ownerReferences = child.metadata.ownerReferences) :
    child'.isOwnedBy batch = child.isOwnedBy batch := by
  simp only [isOwnedBy, controllerUid, Metadata.owners, h]

theorem Pod.templateName_congr {child child' : Pod}
    (h : child'.metadata.labels = child.metadata.labels) :
    child'.templateName = child.templateName := by
  simp only [templateName, Metadata.labelMap, h]

theorem Pod.batchName_congr {child child' : Pod}
    (h : child'.metadata.labels = child.metadata.labels) : child'.batchName = child.batchName := by
  simp only [batchName, Metadata.labelMap, h]

namespace JobBatch

variable (batch : JobBatch) (template : JobTemplate)

@[simp] theorem templateName_childManifest :
    (batch.childManifest template).templateName = some template.name := by
  simp [childManifest, Pod.templateName, Metadata.labelMap]

@[simp] theorem batchName_childManifest :
    (batch.childManifest template).batchName = some batch.name := by
  simp [childManifest, Pod.batchName, Metadata.labelMap, batchLabel, templateLabel]

@[simp] theorem isOwnedBy_childManifest :
    (batch.childManifest template).isOwnedBy batch = true := by
  cases h : batch.metadata.uid <;>
    simp [childManifest, Pod.isOwnedBy, Pod.controllerUid, Metadata.owners, ownerReference, h]

end JobBatch

end BatchOperator
