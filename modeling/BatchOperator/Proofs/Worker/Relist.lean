import BatchOperator.Controller
import BatchOperator.Proofs.Reconcile.Routes

/-!
# A list of all objects as work

When a list of all objects is put in place of what a cache has, the work that follows is that of the
differences and no other (`Operator.takesIn_of_relisted`): a batch is work when it has come, has
gone or is another one than before, a child that has come, has gone or is another one is work for its
owner, and a child that has ended is work itself. So what is listed as it was is no work, and to an
operator that knows of nothing all that is listed is.

Nothing is added before the cache has its new contents, and the changes may come in any order.
-/

set_option autoImplicit false

namespace BatchOperator

namespace Cache

variable {K : Type} [Resource K] {c c' : Cache K} {key : ObjectKey} {change : Change K}

/-- The change of a key is about the key, carries what is there, or was there last, and is idle if
nothing is different. -/
theorem Keyed.changeAt?_facts [DecidableEq K] (h : c.Keyed) (h' : c'.Keyed)
    (hchange : c.changeAt? c' key = some change) :
    change.key = .ok key ∧ some change.object = (c'.get? key).or (c.get? key) ∧
      (change.isIdle = true ↔ c.get? key = c'.get? key) := by
  unfold changeAt? at hchange
  split at hchange
  · cases hchange
  · rename_i new hold hnew
    cases hchange
    refine ⟨h' key new hnew, by rw [hnew]; rfl, ?_⟩
    simp [Change.isIdle, hold, hnew]
  · rename_i old hold hnew
    cases hchange
    refine ⟨h key old hold, by rw [hold, hnew]; rfl, ?_⟩
    simp [Change.isIdle, hold, hnew]
  · rename_i old new hold hnew
    cases hchange
    refine ⟨h' key new hnew, by rw [hnew]; rfl, ?_⟩
    rw [hold, hnew]
    simp [Change.isIdle]

omit [Resource K] in
/-- Where something is different there is a change. -/
theorem exists_changeAt?_of_ne (h : c.get? key ≠ c'.get? key) :
    ∃ change, c.changeAt? c' key = some change := by
  unfold changeAt?
  cases hold : c.get? key <;> cases hnew : c'.get? key
  · exact absurd (hold.trans hnew.symm) h
  all_goals exact ⟨_, rfl⟩

/-- The change of a child shows its end exactly if the child ends. -/
theorem ended?_changeAt? {c c' : Cache Pod} {change : Change Pod}
    (hchange : c.changeAt? c' key = some change) :
    (Routing.ended? change).isSome = Cache.ends key c c' := by
  unfold changeAt? at hchange
  unfold Cache.ends
  split at hchange <;> cases hchange <;> rename_i hold hnew <;>
    rw [Routing.ended?_eq, hold, hnew]
  · rfl
  · rfl
  · dsimp only
    split <;> simp_all

end Cache

/-! ## What is work -/

/-- A batch is work if it is not what it was. -/
def BatchDue (c c' : Cache JobBatch) (work : WorkKey) : Prop :=
  ∃ key, work = .batch key ∧ c.get? key ≠ c'.get? key

/-- What is work because of the children: the owner of a child that is not what it was, and a child
that names its owner and has ended. -/
inductive ChildDue (c c' : Cache Pod) : WorkKey → Prop where
  /-- A child that is gone is known as it was last. -/
  | owner {key batch : ObjectKey} (differs : c.get? key ≠ c'.get? key) {pod : Pod}
      (last : (c'.get? key).or (c.get? key) = some pod) (owned : pod.owner? = some batch) :
      ChildDue c c' (.batch batch)
  | ended {key batch : ObjectKey} (ends : Cache.ends key c c' = true) {pod : Pod}
      (current : c'.get? key = some pod) (owned : pod.owner? = some batch) :
      ChildDue c c' (.childStatus key)

namespace Routing

variable {work : WorkKey}

/-- A list of all batches is work where it differs from what was there. -/
theorem mem_batchWork {c : Cache JobBatch} (h : c.Keyed) {listed : List JobBatch}
    {changes : List (Change JobBatch)} (order : changes.Perm (c.replace listed).1) :
    work ∈ batchWork changes ↔ BatchDue c (c.replace listed).2 work := by
  have h' := c.keyed_replace listed
  rw [batchWork, List.mem_flatMap]
  constructor
  · rintro ⟨change, hchange, hwork⟩
    obtain ⟨key, hat⟩ := Cache.mem_replace_iff.1 (order.mem_iff.1 hchange)
    obtain ⟨hkey, -, hidle⟩ := h.changeAt?_facts h' hat
    rw [told_batchKeys hkey] at hwork
    split at hwork
    · cases hwork
    · rename_i hdiffers
      exact ⟨key, List.mem_singleton.1 hwork, fun hsame => hdiffers (hidle.2 hsame)⟩
  · rintro ⟨key, rfl, hdiffers⟩
    obtain ⟨change, hat⟩ := Cache.exists_changeAt?_of_ne hdiffers
    obtain ⟨hkey, -, hidle⟩ := h.changeAt?_facts h' hat
    refine ⟨change, order.mem_iff.2 (Cache.mem_replace_iff.2 ⟨key, hat⟩), ?_⟩
    rw [told_batchKeys hkey, if_neg fun hsame => hdiffers (hidle.1 hsame)]
    exact List.mem_singleton_self _

/-- A batch is reported in one change, so it is work once. -/
theorem nodup_batchWork {c : Cache JobBatch} (h : c.Keyed) {listed : List JobBatch}
    {changes : List (Change JobBatch)} (order : changes.Perm (c.replace listed).1) :
    (batchWork changes).Nodup := by
  have hkeys : ∀ change ∈ changes, ∃ key, change.key = .ok key := by
    intro change hchange
    obtain ⟨key, hat⟩ := Cache.mem_replace_iff.1 (order.mem_iff.1 hchange)
    exact ⟨key, (h.changeAt?_facts (c.keyed_replace listed) hat).1⟩
  have hnodup : (changes.map Change.key).Nodup :=
    (order.map Change.key).nodup_iff.2 (h.nodup_keys_mutate (.replace listed))
  refine List.nodup_flatMap.2 ⟨?_, ?_⟩
  · intro change hchange
    obtain ⟨key, hkey⟩ := hkeys change hchange
    rw [told_batchKeys hkey]
    split
    · exact List.nodup_nil
    · exact List.nodup_singleton _
  · refine (List.pairwise_map.1 hnodup).imp_of_mem ?_
    intro first second hfirst hsecond hne work hwork hwork'
    -- The same work would be that of the same key.
    obtain ⟨key, hkey⟩ := hkeys first hfirst
    obtain ⟨key', hkey'⟩ := hkeys second hsecond
    simp only [told_batchKeys hkey, List.mem_ite_nil_left, List.mem_singleton] at hwork
    simp only [told_batchKeys hkey', List.mem_ite_nil_left, List.mem_singleton] at hwork'
    cases hwork.2.symm.trans hwork'.2
    exact hne (hkey.trans hkey'.symm)

/-- A list of all children is work for the owners of those that differ from what was there, and for
those that have ended. -/
theorem mem_childWork {c : Cache Pod} (h : c.Keyed) {listed : List Pod}
    {changes : List (Change Pod)} (order : changes.Perm (c.replace listed).1) :
    work ∈ childWork changes ↔ ChildDue c (c.replace listed).2 work := by
  have h' := c.keyed_replace listed
  rw [childWork, List.mem_flatMap]
  constructor
  · rintro ⟨change, hchange, hwork⟩
    obtain ⟨key, hat⟩ := Cache.mem_replace_iff.1 (order.mem_iff.1 hchange)
    obtain ⟨hkey, hobject, hidle⟩ := h.changeAt?_facts h' hat
    rw [told_childKeys hkey] at hwork
    split at hwork
    · cases hwork
    · rename_i hdiffers
      split at hwork
      · cases hwork
      · -- A change of a child that names its owner is work for the owner, or for the child.
        rename_i batch hbatch
        rcases List.mem_cons.1 hwork with rfl | hend
        · exact .owner (fun hsame => hdiffers (hidle.2 hsame)) hobject.symm hbatch
        · obtain ⟨rfl, hended⟩ := mem_endWork.1 hend
          rw [Cache.ended?_changeAt? hat] at hended
          obtain ⟨old, new, -, hnew, -⟩ := Cache.ends_iff.1 hended
          rw [hnew] at hobject
          cases hobject
          exact .ended hended hnew hbatch
  · intro hdue
    cases hdue with
    | @owner key batch hdiffers pod hlast howned =>
      obtain ⟨change, hat⟩ := Cache.exists_changeAt?_of_ne hdiffers
      obtain ⟨hkey, hobject, hidle⟩ := h.changeAt?_facts h' hat
      rw [hlast] at hobject
      obtain rfl := Option.some.inj hobject
      refine ⟨change, order.mem_iff.2 (Cache.mem_replace_iff.2 ⟨key, hat⟩), ?_⟩
      rw [told_childKeys hkey, if_neg fun hsame => hdiffers (hidle.1 hsame), howned]
      exact List.mem_cons_self
    | @ended key batch hends pod hcurrent howned =>
      obtain ⟨old, new, hold, hnew, -⟩ := Cache.ends_iff.1 hends
      obtain rfl := Option.some.inj (hcurrent.symm.trans hnew)
      -- The child was there before and is there now, so its change shows both.
      have hat : c.changeAt? (c.replace listed).2 key = some (.modified old pod) := by
        simp only [Cache.changeAt?, hold, hnew]
      have hkey := (h.changeAt?_facts h' hat).1
      refine ⟨_, order.mem_iff.2 (Cache.mem_replace_iff.2 ⟨key, hat⟩), ?_⟩
      refine (childStatus_mem_told hkey).2 ⟨rfl, ?_, batch, howned⟩
      rw [Cache.ended?_changeAt? hat]
      exact hends

end Routing

/-! ## What is added -/

namespace Operator

variable {σ : Type}

/-- Puts a list of all batches in place of what is known, and passes the changes on in the given
order. -/
def relistBatches (o : Operator σ) (listed : List JobBatch) (changes : List (Change JobBatch)) :
    Operator σ :=
  { o with
    caches := o.caches.withBatches (o.caches.batches.replace listed).2 }.routeBatches changes

/-- The same with a list of all children. -/
def relistChildren (o : Operator σ) (listed : List Pod) (changes : List (Change Pod)) :
    Operator σ :=
  { o with
    caches := o.caches.withChildren (o.caches.children.replace listed).2 }.routeChildren changes

end Operator

/-- What an informer lists once more is put in place of what the cache has. -/
theorem Informer.step_of_resync {K σ : Type} [Resource K] {i : Informer K}
    {server : Api.Server σ} (task : Task K) {now : Instant} {c : Cache K} {s s' : σ}
    {response : Api.Response} {list : Api.ObjectList K} (due : i.nextResync ≤ now)
    (synced : c.synced = true) (sent : server.send (.listAll task.scope) s = (response, s'))
    (read : response.read (Api.ObjectList.ofJson? task.read) = .ok list) :
    ∃ informer, i.step server task now c s = some
      { informer, cache := (c.replace list.items).2, changes := (c.replace list.items).1
        outside := s' } := by
  refine ⟨{ i with nextResync := now + task.period.nanoseconds }, ?_⟩
  simp [Informer.step, due, Informer.resync, synced, sent, read]

namespace Controller

variable {σ : Type} {c : Controller σ} {server : Api.Server σ} {now : Instant} {s : σ}
variable {response : Api.Response}

/-- A controller takes in the batches that are listed once more. -/
theorem operator_stepBatches {list : Api.ObjectList JobBatch} (due : c.batches.nextResync ≤ now)
    (synced : c.operator.caches.batches.synced = true)
    (sent : server.send (.listAll (batchTask c.settings).scope) c.operator.outside = (response, s))
    (read : response.read (Api.ObjectList.ofJson? JobBatch.ofJson?) = .ok list) :
    (c.stepBatches server now).map operator =
      some (({ c.operator with outside := s } : Operator σ).relistBatches list.items
        (c.operator.caches.batches.replace list.items).1) := by
  obtain ⟨informer, hstep⟩ :=
    Informer.step_of_resync (batchTask c.settings) due synced sent read
  simp only [stepBatches, hstep]
  rfl

/-- A controller takes in the children that are listed once more. -/
theorem operator_stepChildren {list : Api.ObjectList Pod} (due : c.children.nextResync ≤ now)
    (synced : c.operator.caches.children.synced = true)
    (sent : server.send (.listAll (childTask c.settings).scope) c.operator.outside = (response, s))
    (read : response.read (Api.ObjectList.ofJson? Pod.ofJson?) = .ok list) :
    (c.stepChildren server now).map operator =
      some (({ c.operator with outside := s } : Operator σ).relistChildren list.items
        (c.operator.caches.children.replace list.items).1) := by
  obtain ⟨informer, hstep⟩ :=
    Informer.step_of_resync (childTask c.settings) due synced sent read
  simp only [stepChildren, hstep]
  rfl

end Controller

namespace Operator

variable {σ : Type}

/-- A list of all objects of one kind has been taken in, and units of work have been added, one after
the other, by an operator that knew the list already. -/
structure TakesIn {K : Type} [Resource K] (before after : Operator σ)
    (view : Caches → Cache K) (listed : List K) (keys : List WorkKey) : Prop where
  contents : ∀ key, (view after.caches).get? key = Cache.lastListed? listed key
  knowing : ∀ earlier work later, keys = earlier ++ work :: later → ∃ between : Operator σ,
    between.caches = after.caches ∧ between.queue = earlier.foldl WorkQueue.add before.queue ∧
      after = between.enqueue (work :: later)
  marked : ∀ work, work ∈ after.queue.dirty ↔ work ∈ keys ∨ work ∈ before.queue.dirty

/-- What an operator adds when it has taken a list in has been added by one that knew the list. -/
theorem takesIn_enqueue {K : Type} [Resource K] (before current : Operator σ)
    (view : Caches → Cache K) (listed : List K)
    (contents : view current.caches = ((view before.caches).replace listed).2)
    (same : current.queue = before.queue) (hopen : before.queue.isShutDown = false)
    (keys : List WorkKey) : before.TakesIn (current.enqueue keys) view listed keys := by
  refine ⟨?_, ?_, ?_⟩
  · intro key
    show (view current.caches).get? key = _
    rw [contents]
    exact Cache.get?_replace _ listed key
  · rintro earlier work later rfl
    refine ⟨current.enqueue earlier, rfl, congrArg (earlier.foldl WorkQueue.add) same, ?_⟩
    simp only [enqueue, List.foldl_append]
  · intro work
    rw [← same] at hopen ⊢
    exact WorkQueue.mem_dirty_foldl_add hopen keys work

/-- A list of all objects is work as far as it differs from what was known before, and nothing else
is: batches that differ, each once, the owners of children that differ, and the children that have
ended. Batches that are as they were add nothing, and where no batch is known all that are listed are
added. -/
theorem takesIn_of_relisted {o : Operator σ} (hopen : o.queue.isShutDown = false)
    (hbatches : o.caches.batches.Keyed) (hchildren : o.caches.children.Keyed) :
    (∀ (listed : List JobBatch) (changes : List (Change JobBatch)),
      changes.Perm (o.caches.batches.replace listed).1 →
        let after := o.relistBatches listed changes
        (∃ keys, o.TakesIn after (·.batches) listed keys ∧ keys.Nodup ∧
          ∀ work, work ∈ keys ↔ BatchDue o.caches.batches after.caches.batches work) ∧
        ((∀ key, Cache.lastListed? listed key = o.caches.batches.get? key) →
          after.queue = o.queue) ∧
        (o.caches.batches.objects = .empty → ∀ batch ∈ listed, ∀ key,
          Resource.key batch = .ok key → .batch key ∈ after.queue.dirty)) ∧
      ∀ (listed : List Pod) (changes : List (Change Pod)),
        changes.Perm (o.caches.children.replace listed).1 →
          let after := o.relistChildren listed changes
          ∃ keys, o.TakesIn after (·.children) listed keys ∧
            ∀ work, work ∈ keys ↔ ChildDue o.caches.children after.caches.children work := by
  constructor
  · intro listed changes order after
    have htakes : o.TakesIn after (·.batches) listed (Routing.batchWork changes) :=
      takesIn_enqueue o { o with
        caches := o.caches.withBatches (o.caches.batches.replace listed).2 } (·.batches) listed
        rfl rfl hopen _
    have hdue : ∀ work, work ∈ Routing.batchWork changes ↔
        BatchDue o.caches.batches after.caches.batches work :=
      fun _ => Routing.mem_batchWork hbatches order
    refine ⟨⟨_, htakes, Routing.nodup_batchWork hbatches order, hdue⟩, ?_, ?_⟩
    · intro hsame
      have hnothing : Routing.batchWork changes = [] := by
        refine List.eq_nil_iff_forall_not_mem.2 fun work hwork => ?_
        obtain ⟨key, -, hdiffers⟩ := (hdue work).1 hwork
        exact hdiffers ((hsame key).symm.trans (htakes.contents key).symm)
      show (Routing.batchWork changes).foldl WorkQueue.add o.queue = o.queue
      rw [hnothing]
      rfl
    · intro hempty batch hbatch key hkey
      refine (htakes.marked (.batch key)).2 (.inl ((hdue _).2 ⟨key, rfl, ?_⟩))
      -- What is listed is there now, and was not there before.
      intro hsame
      have hsome := Cache.lastListed?_isSome.2 ⟨batch, hbatch, hkey⟩
      rw [← htakes.contents key, ← hsame, Cache.get?, hempty, OrderedMap.get?_empty] at hsome
      cases hsome
  · intro listed changes order after
    have htakes : o.TakesIn after (·.children) listed (Routing.childWork changes) :=
      takesIn_enqueue o { o with
        caches := o.caches.withChildren (o.caches.children.replace listed).2 } (·.children) listed
        rfl rfl hopen _
    exact ⟨_, htakes, fun _ => Routing.mem_childWork hchildren order⟩

/-- When the only batch is not listed any more it is work, and when it is listed as it was nothing
is. -/
theorem takesIn_of_smallOperator :
    (∃ keys, smallOperator.TakesIn
        (smallOperator.relistBatches [] (smallOperator.caches.batches.replace []).1)
        (·.batches) [] keys ∧ .batch ⟨"n", "b"⟩ ∈ keys) ∧
      (smallOperator.relistBatches [smallBatch]
        (smallOperator.caches.batches.replace [smallBatch]).1).queue = smallOperator.queue := by
  have hbatches : smallOperator.caches.batches.Keyed := Cache.keyed_singleton rfl true
  obtain ⟨hrelists, -⟩ := takesIn_of_relisted (o := smallOperator) rfl hbatches
    (Cache.keyed_empty false)
  constructor
  · obtain ⟨⟨keys, htakes, -, hdue⟩, -⟩ := hrelists [] _ (.refl _)
    refine ⟨keys, htakes, (hdue _).2 ⟨⟨"n", "b"⟩, rfl, ?_⟩⟩
    rw [htakes.contents]
    exact nofun
  · refine (hrelists [smallBatch] _ (.refl _)).2.1 fun key => ?_
    have hsame : (smallOperator.caches.batches.replace [smallBatch]).2.objects =
        smallOperator.caches.batches.objects := by
      decide +kernel
    rw [← Cache.get?_replace smallOperator.caches.batches, Cache.get?, hsame]
    rfl

end Operator

end BatchOperator
