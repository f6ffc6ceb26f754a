import BatchOperator.Proofs.Cache.Mutation
import BatchOperator.Proofs.Queue.Invariant
import BatchOperator.Proofs.Reconcile.Store
import BatchOperator.Worker

/-!
# What brings a batch back to work

A pass finds the children of a batch by their labels, the router finds the batch of a child by the
annotation of the pod that a change carries. Whenever a mutation of the children makes a difference
to what a pass sees, one of the changes that it reports is about a child that joined, left or
changed, and every such change whose pod names the batch as its owner is work for the batch
(`Operator.batch_mem_dirty_of_childrenOf_ne`).

A pod that carries the label of a batch without the annotation is nobody's child to the router
(`Operator.queue_eq_of_bare_child`).
-/

set_option autoImplicit false

namespace BatchOperator

/-- The batch that a pod names as its owner, if it names one. -/
def Pod.owner? (pod : Pod) : Option ObjectKey :=
  (pod.metadata.annotationMap.get? ownerAnnotation).bind fun text =>
    (ObjectKey.parse text).toOption

namespace Caches

variable {c c' : Caches} {batch : ObjectKey}

/-- The child of a batch that is kept under a key. -/
def childAt? (c : Caches) (batch key : ObjectKey) : Option Pod :=
  (c.children.get? key).filter fun pod => key.ns = batch.ns && pod.batchName == some batch.name

/-- A pass sees what can be looked up. -/
theorem childrenOf_congr (h : ∀ key, c.childAt? batch key = c'.childAt? batch key) :
    c.childrenOf batch = c'.childrenOf batch := by
  have hselects : ∀ pod : Pod, (Selector.ofLabels [(batchLabel, batch.name)]).selects
      (Cache.labelsOf pod) = (pod.batchName == some batch.name) := by
    intro pod
    rw [Bool.eq_iff_iff, selects_batchName, beq_iff_eq]
  apply Cache.list_congr
  intro key
  simp only [hselects]
  exact h key

/-- A child of the batch joins, leaves or changes, and the change is about it. -/
def Alters (batch : ObjectKey) (c c' : Caches) (change : Change Pod) : Prop :=
  ∃ key, Resource.key change.object = .ok key ∧ c.childAt? batch key ≠ c'.childAt? batch key

/-- A change without a difference alters nothing. -/
theorem Alters.isIdle_eq_false {change : Change Pod} (h : Alters batch c c' change)
    (htells : c.children.Tells c'.children change) : change.isIdle = false := by
  obtain ⟨key, hkey, hne⟩ := h
  obtain ⟨key', hkey', hsaid⟩ := htells
  cases hkey.symm.trans hkey'
  cases change with
  | added object => rfl
  | deleted object => rfl
  | modified old new =>
    obtain ⟨hold, hnew⟩ := hsaid
    -- Equal objects under the same key are no difference.
    apply beq_eq_false_iff_ne.2
    intro hsame
    apply hne
    simp only [childAt?, hold, hnew, hsame]

/-- A change of a child whose pod names its batch is work for the batch. -/
theorem batch_mem_told {change : Change Pod} {key : ObjectKey}
    (hkey : Resource.key change.object = .ok key) (hidle : change.isIdle = false)
    (howner : change.object.owner? = some batch) :
    WorkKey.batch batch ∈ Routing.told (Routing.childKeys change) := by
  obtain ⟨text, htext, hparse⟩ := Option.bind_eq_some_iff.1 howner
  have hbatch : ObjectKey.parse text = .ok batch := by
    cases h : ObjectKey.parse text with
    | error e => simp [h, Except.toOption] at hparse
    | ok found => simpa [h, Except.toOption] using hparse
  simp only [Routing.childKeys, hidle, htext, hbatch, Bool.false_eq_true, if_false]
  cases hended : Routing.ended? change with
  | none => simp [bind, Except.bind, pure, Except.pure, Routing.told]
  | some pod =>
    -- The child that has ended is the pod of the change, which has a key.
    have hpod : pod = change.object := by
      unfold Routing.ended? at hended
      split at hended
      · simp only [Option.ite_none_right_eq_some, Option.some.injEq] at hended
        exact hended.2.symm
      · cases hended
    simp [bind, Except.bind, pure, Except.pure, Routing.told, hpod, hkey]

end Caches

namespace WorkQueue

variable {α : Type} [DecidableEq α]

/-- Until the shutdown, all items that are added are marked. -/
theorem mem_dirty_foldl_add {q : WorkQueue α} (hs : q.isShutDown = false) (items : List α) (x : α) :
    x ∈ (items.foldl add q).dirty ↔ x ∈ items ∨ x ∈ q.dirty := by
  induction items generalizing q with
  | nil => simp
  | cons item items ih =>
    rw [List.foldl_cons, ih (by rw [add_isShutDown]; exact hs), mem_dirty_add hs, List.mem_cons,
      or_left_comm, or_assoc]

end WorkQueue

namespace Operator

variable {σ : Type}

/-- Changes the cache of children and adds the work that follows from it. -/
def mutateChildren (o : Operator σ) (mutation : Cache.Mutation Pod) : Operator σ :=
  let (changes, children) := o.caches.children.mutate mutation
  { o with caches := o.caches.withChildren children }.routeChildren changes

/-- The changes of a mutation of the children that alter what a pass sees of a batch. -/
def Altering (o : Operator σ) (mutation : Cache.Mutation Pod) (batch : ObjectKey)
    (change : Change Pod) : Prop :=
  change ∈ (o.caches.children.mutate mutation).1 ∧
    Caches.Alters batch o.caches (o.mutateChildren mutation).caches change

/-- When a mutation of the children makes a difference to what a pass sees of a batch, there is a
change that is about it, and every such change whose pod names the batch is work for the batch,
which the queue takes in until its shutdown. -/
theorem batch_mem_dirty_of_childrenOf_ne {o : Operator σ} {mutation : Cache.Mutation Pod}
    {batch : ObjectKey} (keyed : o.caches.children.Keyed)
    (hne : o.caches.childrenOf batch ≠ (o.mutateChildren mutation).caches.childrenOf batch) :
    (∃ change, o.Altering mutation batch change) ∧
      ∀ change, o.Altering mutation batch change → change.object.owner? = some batch →
        .batch batch ∈ Routing.told (Routing.childKeys change) ∧
          (o.queue.isShutDown = false →
            .batch batch ∈ (o.mutateChildren mutation).queue.dirty) := by
  constructor
  · -- A difference in the list is one under some key, and no key is passed over.
    obtain ⟨key, hkey⟩ : ∃ key, o.caches.childAt? batch key ≠
        (o.mutateChildren mutation).caches.childAt? batch key := by
      apply Classical.byContradiction
      intro hsame
      apply hne
      apply Caches.childrenOf_congr
      intro key
      exact Classical.byContradiction fun hkey => hsame ⟨key, hkey⟩
    have hget : o.caches.children.get? key ≠
        (o.caches.children.mutate mutation).2.get? key := by
      intro hsame
      apply hkey
      simp only [Caches.childAt?, hsame]
      rfl
    obtain ⟨change, hchange, hobject⟩ := keyed.exists_change_of_get?_ne hget
    exact ⟨change, hchange, key, hobject, hkey⟩
  · rintro change ⟨hchange, halters⟩ howner
    have hidle := halters.isIdle_eq_false (keyed.tells_of_mem_mutate hchange)
    obtain ⟨key, hkey, -⟩ := halters
    have htold := Caches.batch_mem_told hkey hidle howner
    refine ⟨htold, fun hrun => ?_⟩
    apply (WorkQueue.mem_dirty_foldl_add hrun _ _).2
    exact .inl (List.mem_flatMap.2 ⟨change, hchange, htold⟩)

section Children

/-- An operator that sees a small batch. -/
def smallOperator : Operator Unit :=
  { outside := (), caches := smallCaches, queue := .create (.ofMillis 5) (.ofSeconds 60) }

/-- A child as it is made for a small batch. -/
def ownedChild : Pod :=
  { smallBatch.childManifest smallTemplate with
    metadata := { (smallBatch.childManifest smallTemplate).metadata with name := some "t-1" } }

/-- The same child without the annotation that names its batch. -/
def bareChild : Pod :=
  { ownedChild with metadata := { ownedChild.metadata with annotations := none } }

/-- A child as it is made for a batch is work for it when it comes. -/
theorem batch_mem_dirty_of_ownedChild :
    (∃ change, smallOperator.Altering (.apply ownedChild) ⟨"n", "b"⟩ change) ∧
      ∀ change, smallOperator.Altering (.apply ownedChild) ⟨"n", "b"⟩ change →
        change.object.owner? = some ⟨"n", "b"⟩ →
        .batch ⟨"n", "b"⟩ ∈ Routing.told (Routing.childKeys change) ∧
          (smallOperator.queue.isShutDown = false →
            .batch ⟨"n", "b"⟩ ∈ (smallOperator.mutateChildren (.apply ownedChild)).queue.dirty) := by
  have hne : smallOperator.caches.childrenOf ⟨"n", "b"⟩ ≠
      (smallOperator.mutateChildren (.apply ownedChild)).caches.childrenOf ⟨"n", "b"⟩ := by
    decide +kernel
  exact batch_mem_dirty_of_childrenOf_ne (Cache.keyed_empty false) hne

/-- Without the annotation the same child comes without any work following from it, although a pass
sees it. -/
theorem queue_eq_of_bare_child :
    smallOperator.caches.childrenOf ⟨"n", "b"⟩ = [] ∧
      (smallOperator.mutateChildren (.apply bareChild)).caches.childrenOf ⟨"n", "b"⟩ =
        [bareChild] ∧
      (smallOperator.mutateChildren (.apply bareChild)).queue.dirty = [] ∧
      (smallOperator.mutateChildren (.apply bareChild)).queue.depth = 0 := by
  decide +kernel

end Children

end Operator

end BatchOperator
