import BatchOperator.Proofs.Cache.Contents
import BatchOperator.Proofs.Child.Index
import BatchOperator.Proofs.Selector.Meaning
import BatchOperator.Reconcile.Plan

/-!
# The children of a batch in the caches

The children of a batch are the pods of its namespace that carry its name (`Caches.mem_childrenOf`).
`Caches.unfinishedOf` counts those that have not ended: one more pod makes them at most one more,
and where children only end or go they do not become more.
-/

set_option autoImplicit false

namespace BatchOperator

/-- The selector for one label selects by the value of that label. -/
theorem Selector.selects_ofLabels_singleton {key value : String} {labels : StringMap} :
    (Selector.ofLabels [(key, value)]).selects labels = true ↔ labels.get? key = some value := by
  rw [selects_ofLabels]
  simp

namespace Caches

variable {c c' : Caches} {batch : ObjectKey}

/-- The selector of the children of a batch asks for its name. -/
theorem selects_batchName {name : String} {child : Pod} :
    (Selector.ofLabels [(batchLabel, name)]).selects (Cache.labelsOf child) = true ↔
      child.batchName = some name :=
  Selector.selects_ofLabels_singleton

/-- The pod under a key is a child of the batch. -/
def HasChild (c : Caches) (batch key : ObjectKey) (child : Pod) : Prop :=
  c.children.get? key = some child ∧ key.ns = batch.ns ∧ child.batchName = some batch.name

theorem mem_childrenOf {child : Pod} :
    child ∈ c.childrenOf batch ↔ ∃ key, c.HasChild batch key child := by
  simp only [childrenOf, Cache.mem_list, selects_batchName, HasChild]

/-- Whether a pod under a key is a child of the batch for which a property holds. -/
def isChildWhere (batch : ObjectKey) (P : Pod → Bool) (key : ObjectKey) (pod : Pod) : Bool :=
  key.ns = batch.ns && pod.batchName == some batch.name && P pod

theorem isChildWhere_iff {P : Pod → Bool} {key : ObjectKey} {pod : Pod} :
    isChildWhere batch P key pod = true ↔
      key.ns = batch.ns ∧ pod.batchName = some batch.name ∧ P pod = true := by
  simp [isChildWhere, and_assoc]

theorem mem_keysWhere_isChildWhere {P : Pod → Bool} {key : ObjectKey} :
    key ∈ c.children.objects.keysWhere (isChildWhere batch P) ↔
      ∃ child, c.HasChild batch key child ∧ P child = true := by
  simp only [OrderedMap.mem_keysWhere, isChildWhere_iff, HasChild, Cache.get?, and_assoc]

/-- The children of a kind are counted by their entries. -/
theorem countP_childrenOf (c : Caches) (batch : ObjectKey) (P : Pod → Bool) :
    (c.childrenOf batch).countP P = c.children.objects.countWhere (isChildWhere batch P) := by
  rw [childrenOf, Cache.countP_list]
  congr 1
  funext key pod
  rw [Bool.eq_iff_iff, isChildWhere_iff]
  simp only [Bool.and_eq_true, decide_eq_true_eq, selects_batchName, and_assoc]

/-- How many children of a batch have not ended. -/
def unfinishedOf (c : Caches) (batch : ObjectKey) : Nat :=
  Pod.countUnfinished (c.childrenOf batch)

theorem unfinishedOf_eq (c : Caches) (batch : ObjectKey) :
    c.unfinishedOf batch =
      c.children.objects.countWhere (isChildWhere batch fun child => !child.phase.isTerminal) :=
  countP_childrenOf c batch _

/-- The caches with other children. -/
def withChildren (c : Caches) (children : Cache Pod) : Caches := { c with children }

/-- The caches with other batches. -/
def withBatches (c : Caches) (batches : Cache JobBatch) : Caches := { c with batches }

/-- The caches without the child of a key. -/
def withoutChild (c : Caches) (key : ObjectKey) : Caches :=
  c.withChildren { c.children with objects := c.children.objects.erase key }

/-- One more pod makes the unfinished children at most one more. -/
theorem unfinishedOf_apply_le (batch : ObjectKey) {child : Pod} {change : Change Pod}
    {children : Cache Pod} (h : c.children.apply child = .ok (change, children)) :
    (c.withChildren children).unfinishedOf batch ≤ c.unfinishedOf batch + 1 := by
  obtain ⟨key, -, rfl⟩ := Cache.apply_cases h
  rw [unfinishedOf_eq, unfinishedOf_eq]
  exact c.children.objects.countWhere_insert_le _ key child

/-- One pod less makes the unfinished children no more. -/
theorem unfinishedOf_withoutChild_le (c : Caches) (batch key : ObjectKey) :
    (c.withoutChild key).unfinishedOf batch ≤ c.unfinishedOf batch := by
  rw [unfinishedOf_eq, unfinishedOf_eq]
  exact c.children.objects.countWhere_erase_le _ key

/-- Every child of a batch was one before, and none that had ended has come back to life. What has
become of pods that are no children of the batch does not matter. -/
def ChildrenSettle (batch : ObjectKey) (c c' : Caches) : Prop :=
  ∀ key child', c'.HasChild batch key child' → ∃ child, c.HasChild batch key child ∧
    (child.phase.isTerminal = true → child'.phase.isTerminal = true)

/-- Children that end or go do not become more. -/
theorem ChildrenSettle.unfinishedOf_le (h : ChildrenSettle batch c c') :
    c'.unfinishedOf batch ≤ c.unfinishedOf batch := by
  rw [unfinishedOf_eq, unfinishedOf_eq]
  refine OrderedMap.countWhere_le ?_
  intro key hkey
  obtain ⟨child', hchild', hrun⟩ := mem_keysWhere_isChildWhere.1 hkey
  obtain ⟨child, hchild, hstays⟩ := h key child' hchild'
  refine mem_keysWhere_isChildWhere.2 ⟨child, hchild, ?_⟩
  cases ht : child.phase.isTerminal with
  | false => rfl
  | true => simp [hstays ht] at hrun

end Caches

end BatchOperator
