import BatchOperator.Object.JobBatch

/-!
# Child jobs

The pods that a batch starts: how they are marked, which of them belong to a batch, and which one
speaks for its template when there are several. `ChildIndex.build` sorts the children that carry
the name of a batch into those that count, the duplicates and the leftovers of an earlier batch of
the same name.
-/

set_option autoImplicit false

namespace BatchOperator

/-- The label of a child that names its batch. -/
def batchLabel : String := "jobbatch.dev/batch-name"

/-- The label of a child that names its template. -/
def templateLabel : String := "jobbatch.dev/template-name"

/-- The annotation of a child that holds the key of its batch. -/
def ownerAnnotation : String := "jobbatch.dev/owner"

namespace Pod

/-- The name of a pod, or what its name will start with. -/
def name (p : Pod) : String := p.metadata.anyName

/-- The name of the batch that a child is labelled with. -/
def batchName (p : Pod) : Option String := p.metadata.labelMap.get? batchLabel

/-- The name of the template that a child is labelled with. -/
def templateName (p : Pod) : Option String := p.metadata.labelMap.get? templateLabel

/-- The UID of the object that controls the pod; of several the first one counts. -/
def controllerUid (p : Pod) : Option String :=
  (p.metadata.owners.find? fun owner => owner.controller == some true).map (·.uid)

/-- Whether a child belongs to this very batch. A batch that was deleted and made anew has the same
name and another UID. A child without a controller, and a batch without a UID, are taken by their
names alone. -/
def isOwnedBy (p : Pod) (b : JobBatch) : Bool :=
  match p.controllerUid, b.metadata.uid with
  | some owner, some uid => owner == uid
  | _, _ => true

/-- How two times of creation compare; one that is not known comes first. -/
def compareCreation : Option Timestamp → Option Timestamp → Ordering
  | none, none => .eq
  | none, some _ => .lt
  | some _, none => .gt
  | some a, some b => a.compare b

/-- Which of two children was there first: the time of creation decides, and the name between equal
times. -/
def creationOrder (a b : Pod) : Ordering :=
  (compareCreation a.metadata.creationTimestamp b.metadata.creationTimestamp).then
    (compare a.name b.name)

/-- Children from the first to the last, those that compare equal in the order given. -/
def inCreationOrder (pods : List Pod) : List Pod :=
  pods.mergeSort fun a b => (creationOrder a b).isLE

end Pod

namespace JobBatch

/-- The reference by which a child points at its batch. -/
def ownerReference (b : JobBatch) : OwnerReference :=
  { apiVersion := groupVersion, kind := kind, name := b.name, uid := b.metadata.uid.getD "",
    controller := some true, blockOwnerDeletion := some true }

/-- The pod that runs a template for a batch. Of the metadata of the template it takes the labels
and the annotations, and puts its own marks above them. -/
def childManifest (b : JobBatch) (t : JobTemplate) : Pod :=
  let inherited := t.template.metadata.getD {}
  -- The marks are put in last, so that a template cannot set them.
  let labels := (inherited.labelMap.insert batchLabel b.name).insert templateLabel t.name
  let owner : ObjectKey := ⟨b.metadata.nsOrDefault, b.name⟩
  { metadata :=
      { generateName := some (t.name ++ "-"), ns := some b.metadata.nsOrDefault,
        labels := some labels,
        annotations := some (inherited.annotationMap.insert ownerAnnotation owner.render),
        ownerReferences := some [b.ownerReference] }
    spec := t.template.spec }

end JobBatch

/-- The children that carry the name of a batch, sorted by what they are to it. -/
structure ChildIndex where
  /-- For each template the first of its children. -/
  byTemplate : OrderedMap String Pod := .empty
  /-- Later children of templates that have one. -/
  duplicates : List Pod := []
  /-- Children of an earlier batch of the same name. -/
  leftovers : List Pod := []
  /-- How many children have not ended, leftovers and duplicates included. A signed word of 32 bits
  would count the same: all of them are cached at once, each as an object of its own, and 2^31
  objects of a hundred bytes would take 200 GB, where the store of a cluster holds a few. -/
  unfinished : Nat := 0

namespace ChildIndex

/-- Takes in one more child. A child without a template only counts as long as it has not ended. -/
def add (batch : JobBatch) (index : ChildIndex) (child : Pod) : ChildIndex :=
  let index :=
    if child.phase.isTerminal then index
    else { index with unfinished := index.unfinished + 1 }
  -- A leftover holds a slot as long as it runs, but speaks for no template.
  if !child.isOwnedBy batch then { index with leftovers := index.leftovers ++ [child] }
  else match child.templateName with
    | none => index
    | some template =>
      if index.byTemplate.contains template then
        { index with duplicates := index.duplicates ++ [child] }
      else { index with byTemplate := index.byTemplate.insert template child }

/-- Sorts the children of a batch, from the first to the last. -/
def build (batch : JobBatch) (children : List Pod) : ChildIndex :=
  (Pod.inCreationOrder children).foldl (add batch) {}

end ChildIndex

end BatchOperator
