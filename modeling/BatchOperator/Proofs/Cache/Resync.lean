import BatchOperator.Proofs.Cache.Revisions

/-!
# Watches that are overtaken by lists

A cache is told of the writes to a store one after the other by a watch, and now and then it is given
a list of all objects, which may be ahead of the watch. Under each key such a cache has what the
store had at the later one of two revisions, that of the last list and that of the last write it was
told of, or at least what the store had at the latter (`Mirror.Faithful`). So when the watch has
caught up with the lists the cache is what the store is (`Mirror.objects_eq_of_reachable`).

Until then a cache can be behind its own list. What a watch tells late is passed over for objects
that the list has; an object that was gone by then comes back (`Cache.get?_after_list`,
`Cache.revived_after_list`).
-/

set_option autoImplicit false

namespace BatchOperator

variable {K : Type} [Resource K] {h : History K}

/-! ## A cache that is told late -/

/-- A cache, the revision up to which a watch has told it everything, and the revision of the last
list that it was given. -/
structure Mirror (K : Type) where
  cache : Cache K
  heard : Nat
  listed : Nat

namespace Mirror

/-- What can happen to a cache of a store. -/
inductive Step (h : History K) : Mirror K → Mirror K → Prop
  /-- The watch tells of the next write. -/
  | tells {m : Mirror K} (w : Write K) (hw : w ∈ h.writes) (hnew : m.heard < w.version)
      (hnext : ∀ other ∈ h.writes, m.heard < other.version → w.version ≤ other.version) :
      Step h m { m with cache := (m.cache.watch w.event).2, heard := w.version }
  /-- A list of all objects, not older than what the watch has told last and than the last list. -/
  | lists {m : Mirror K} (revision : Nat) (listed : List K) (hheard : m.heard ≤ revision)
      (hlisted : m.listed ≤ revision) (hall : h.Lists revision listed) :
      Step h m { m with cache := (m.cache.replace listed).2, listed := revision }

/-- What a cache can come to that begins as the store was at some revision. What it begins with
counts as a list of that revision. -/
inductive Reachable (h : History K) : Mirror K → Prop
  | start (revision : Nat) (synced : Bool) :
      Reachable h ⟨⟨h.asOf revision, synced⟩, revision, revision⟩
  | step {m m' : Mirror K} (hm : Reachable h m) (hstep : Step h m m') : Reachable h m'

/-- The later one of the revisions of the last list and of the last write that was told of. -/
def newest (m : Mirror K) : Nat := max m.heard m.listed

/-- Under each key the cache has what the store had at the newest revision, or what it had when the
last write was made that the watch has told of. -/
def Faithful (h : History K) (m : Mirror K) : Prop :=
  ∀ key, m.cache.get? key = (h.asOf m.newest).get? key ∨
    m.cache.get? key = (h.asOf m.heard).get? key

/-- Nothing is passed over where the cache is as old as the last write that was told of. -/
theorem not_isStale_of_heard {w : Write K} {m : Mirror K} (hnew : m.heard < w.version)
    (hget : m.cache.get? w.key = (h.asOf m.heard).get? w.key) :
    ¬ m.cache.isStale w.object = true := by
  intro hstale
  obtain ⟨cached, version, hcached, hversion, hlt⟩ := w.lt_of_isStale hstale
  have hle := History.version_le_of_get?_asOf (hget.symm.trans hcached) hversion
  omega

theorem Faithful.tells {m : Mirror K} (hm : m.Faithful h) {w : Write K} (hw : w ∈ h.writes)
    (hnew : m.heard < w.version)
    (hnext : ∀ other ∈ h.writes, m.heard < other.version → w.version ≤ other.version) :
    Faithful h { m with cache := (m.cache.watch w.event).2, heard := w.version } := by
  have hwrite := History.asOf_next hw hnew hnext
  intro key
  show (m.cache.watch w.event).2.get? key = (h.asOf (max w.version m.listed)).get? key ∨
    (m.cache.watch w.event).2.get? key = (h.asOf w.version).get? key
  rw [hwrite, Write.get?_on]
  -- A write up to the last list was in the store when the list was made; any other one is the first
  -- write after all that the cache knows of.
  by_cases hlist : w.version ≤ m.listed
  · have hnewest : max w.version m.listed = m.newest := by
      unfold newest
      omega
    rw [hnewest]
    by_cases hkey : key = w.key
    · subst hkey
      rw [if_pos rfl, w.get?_watch_key]
      split
      · rename_i hstale
        exact (hm w.key).imp_right fun hget =>
          absurd hstale (not_isStale_of_heard hnew hget)
      · exact .inr rfl
    · rw [if_neg hkey, w.get?_watch_of_ne _ hkey]
      exact hm key
  · have hnone : h.asOf m.newest = h.asOf m.heard := by
      refine History.asOf_congr fun other hother => ?_
      have hlate := hnext other hother
      unfold newest
      omega
    have hget : ∀ key, m.cache.get? key = (h.asOf m.heard).get? key := by
      intro key
      exact (hm key).elim (fun hget => by rw [hget, hnone]) id
    refine .inr ?_
    by_cases hkey : key = w.key
    · subst hkey
      rw [if_pos rfl, w.get?_watch_key, if_neg (not_isStale_of_heard hnew (hget _))]
    · rw [if_neg hkey, w.get?_watch_of_ne _ hkey]
      exact hget key

theorem Faithful.lists {m : Mirror K} {revision : Nat} {listed : List K}
    (hheard : m.heard ≤ revision) (hall : h.Lists revision listed) :
    Faithful h { m with cache := (m.cache.replace listed).2, listed := revision } := by
  intro key
  left
  show (m.cache.replace listed).2.objects.get? key = (h.asOf (max m.heard revision)).get? key
  rw [History.objects_replace hall, Nat.max_eq_right hheard]

theorem faithful_of_reachable {m : Mirror K} (hm : Reachable h m) : m.Faithful h := by
  induction hm with
  | start revision synced => exact fun _ => .inr rfl
  | step _ hstep ih =>
    cases hstep with
    | tells w hw hnew hnext => exact ih.tells hw hnew hnext
    | lists revision listed hheard _ hall => exact Faithful.lists hheard hall

/-- When a cache has been told of exactly the writes up to a revision that is not older than any of
its lists, it has what the store has at that revision. -/
theorem objects_eq_of_reachable {m : Mirror K} (hm : Reachable h m) {revision : Nat}
    (hlisted : m.listed ≤ revision) (hheard : m.heard ≤ revision)
    (hall : ∀ w ∈ h.writes, w.version ≤ revision → w.version ≤ m.heard) :
    m.cache.objects = h.asOf revision := by
  have hlast : h.asOf m.heard = h.asOf revision :=
    History.asOf_congr fun w hw => ⟨fun hle => Nat.le_trans hle hheard, hall w hw⟩
  have hnewest : h.asOf m.newest = h.asOf revision := by
    refine History.asOf_congr fun w hw => ?_
    have htold := hall w hw
    unfold newest
    omega
  refine OrderedMap.ext_get? fun key => ?_
  rcases faithful_of_reachable hm key with hget | hget
  · rw [hnewest] at hget
    exact hget
  · rw [hlast] at hget
    exact hget

end Mirror

/-- A pod of some version. -/
def versionedPod (name version : String) : Pod :=
  { metadata := { name := some name, ns := some "n", resourceVersion := some version } }

/-- Two pods are put, and then the first one is deleted. -/
def History.twoPods : History Pod where
  writes :=
    [ { version := 1, key := ⟨"n", "p"⟩, object := versionedPod "p" "1", keyed := rfl,
        carries := rfl },
      { version := 2, key := ⟨"n", "q"⟩, object := versionedPod "q" "2", keyed := rfl,
        carries := rfl },
      { version := 3, key := ⟨"n", "p"⟩, object := versionedPod "p" "3", isDeletion := true,
        keyed := rfl, carries := rfl } ]
  increasing := by decide

/-- A cache that began with the empty store, and was given the list of revision 3. -/
def Cache.listedTwoPods : Cache Pod :=
  (Cache.replace ⟨History.twoPods.asOf 0, true⟩ (History.twoPods.asOf 3).values).2

/-- All three writes are told of after the list that has seen them. -/
theorem Mirror.objects_eq_of_overtaken_watch :
    (((Cache.listedTwoPods.watch (.applied (versionedPod "p" "1"))).2.watch
      (.applied (versionedPod "q" "2"))).2.watch (.deleted (versionedPod "p" "3"))).2.objects =
        History.twoPods.asOf 3 := by
  have hlist : Mirror.Reachable History.twoPods ⟨Cache.listedTwoPods, 0, 3⟩ :=
    .step (.start 0 true)
      (.lists 3 _ (by decide) (by decide) (History.twoPods.lists_values 3))
  have hfirst := hlist.step (.tells History.twoPods.writes[0] (List.getElem_mem _) (by decide)
    (by decide))
  have hsecond := hfirst.step (.tells History.twoPods.writes[1] (List.getElem_mem _) (by decide)
    (by decide))
  have hlast := hsecond.step (.tells History.twoPods.writes[2] (List.getElem_mem _) (by decide)
    (by decide))
  exact Mirror.objects_eq_of_reachable hlast (by decide) (by decide) (by decide)

/-! ## Before the watch has caught up -/

namespace Cache

/-- A cache after a watch has told it of some writes, the first one first. -/
def afterTold (c : Cache K) (told : List (Write K)) : Cache K :=
  told.foldl (fun c w => (c.watch w.event).2) c

theorem afterTold_concat (c : Cache K) (told : List (Write K)) (w : Write K) :
    c.afterTold (told ++ [w]) = ((c.afterTold told).watch w.event).2 := by
  simp [afterTold]

/-- What a watch tells after a list of writes that the list has seen: objects that the list has stay
as they were listed, and all others are there again as far as the watch has told of them. -/
theorem get?_afterTold {revision : Nat} (hword : revision < Text.wordLimit) {c : Cache K}
    (hc : c.objects = h.asOf revision) {told : List (Write K)}
    (htold : ∀ w ∈ told, w ∈ h.writes ∧ w.version ≤ revision)
    (hsorted : told.Pairwise fun earlier later => earlier.version ≤ later.version)
    (key : ObjectKey) :
    (c.afterTold told).get? key =
      ((h.asOf revision).get? key).or ((Write.contents told).get? key) := by
  induction told using List.reverseRecOn with
  | nil =>
    show c.objects.get? key = _
    rw [hc]
    exact (Option.or_none).symm
  | append_singleton told w ih =>
    obtain ⟨hw, hle⟩ := htold w (List.mem_append_right _ (List.mem_singleton_self w))
    rw [List.pairwise_append] at hsorted
    obtain ⟨hsorted, -, hlast⟩ := hsorted
    have hbefore := ih (fun other hother => htold other (List.mem_append_left _ hother)) hsorted
    rw [afterTold_concat, Write.contents_concat, Write.get?_on]
    by_cases hkey : key = w.key
    · subst hkey
      rw [if_pos rfl, w.get?_watch_key]
      cases hget : (h.asOf revision).get? w.key with
      | some object =>
        -- The list has the object: the write is the one that put it there, or is passed over.
        rw [hget, Option.some_or] at hbefore
        obtain ⟨last, hlastMem, hlastLe, -, hput, rfl, hnewest⟩ := History.of_get?_asOf hget
        rw [Option.some_or]
        rcases Nat.lt_or_eq_of_le (hnewest w hw hle rfl) with hlt | heq
        · rw [if_pos (Write.isStale_of_lt hbefore hlt (Nat.lt_of_le_of_lt hlastLe hword)), hbefore]
        · obtain rfl := History.eq_of_version_eq hw hlastMem heq
          have hleft : w.left? = some w.object := by simp [Write.left?, hput]
          split
          · exact hbefore
          · exact hleft
      | none =>
        -- Nothing newer was told of under the key before, so the write is taken in.
        rw [hget, Option.none_or] at hbefore
        rw [Option.none_or]
        refine if_neg fun hstale => ?_
        obtain ⟨cached, version, hcached, hversion, hlt⟩ := w.lt_of_isStale hstale
        obtain ⟨before, found, after, hsplit, -, hleft, -⟩ :=
          Write.of_get?_contents (hbefore.symm.trans hcached)
        have hfound : found ∈ told := by
          rw [hsplit]
          exact List.mem_append_right _ List.mem_cons_self
        have hversion' := Write.eq_of_version? ((Write.of_left?_eq_some hleft).2 ▸ hversion)
        have := hlast found hfound w (List.mem_singleton_self w)
        omega
    · rw [if_neg hkey, w.get?_watch_of_ne _ hkey]
      exact hbefore

/-- After a list of all objects at a revision that fits a machine word, a watch tells of writes up to
that revision, in their order. Objects that the list has stay as they were listed, and all others are
there as far as the watch has told of them. So the cache stays what was listed, after every single
event, exactly when all objects that the watch tells to be there are in the list. -/
theorem get?_after_list {revision : Nat} (hword : revision < Text.wordLimit) (c : Cache K)
    {listed : List K} (hlisted : h.Lists revision listed) {told : List (Write K)}
    (htold : ∀ w ∈ told, w ∈ h.writes ∧ w.version ≤ revision)
    (hsorted : told.Pairwise fun earlier later => earlier.version ≤ later.version) :
    (∀ key, ((c.replace listed).2.afterTold told).get? key =
        ((h.asOf revision).get? key).or ((Write.contents told).get? key)) ∧
      ((∀ first, first <+: told →
          ((c.replace listed).2.afterTold first).objects = h.asOf revision) ↔
        ∀ w ∈ told, w.isDeletion = false → ∃ object, (h.asOf revision).get? w.key = some object) := by
  have hlist := History.objects_replace hlisted c
  have hget : ∀ first, first <+: told → ∀ key,
      ((c.replace listed).2.afterTold first).get? key =
        ((h.asOf revision).get? key).or ((Write.contents first).get? key) := by
    intro first hfirst key
    exact get?_afterTold hword hlist (fun w hw => htold w (hfirst.subset hw))
      (hsorted.sublist hfirst.sublist) key
  refine ⟨hget told List.prefix_rfl, ?_, ?_⟩
  · intro hsame w hw hput
    obtain ⟨before, after, hsplit⟩ := List.append_of_mem hw
    have hfirst : before ++ [w] <+: told := ⟨after, by simp [hsplit]⟩
    -- Right after the write was told of, its object is in the cache.
    have hthere := hget _ hfirst w.key
    unfold Cache.get? at hthere
    rw [hsame _ hfirst, Write.contents_concat, Write.get?_on, if_pos rfl] at hthere
    cases hlisted' : (h.asOf revision).get? w.key with
    | some object => exact ⟨object, rfl⟩
    | none => simp [hlisted', Write.left?, hput] at hthere
  · intro hall first hfirst
    refine OrderedMap.ext_get? fun key => ?_
    refine (hget first hfirst key).trans ?_
    cases hlisted' : (h.asOf revision).get? key with
    | some object => rfl
    | none =>
      rw [Option.none_or]
      cases htolds : (Write.contents first).get? key with
      | none => rfl
      | some object =>
        obtain ⟨before, w, after, hsplit, rfl, hleft, -⟩ := Write.of_get?_contents htolds
        have hw : w ∈ told := by
          refine hfirst.subset ?_
          rw [hsplit]
          exact List.mem_append_right _ List.mem_cons_self
        obtain ⟨object', hobject'⟩ := hall w hw (Write.of_left?_eq_some hleft).1
        cases hlisted'.symm.trans hobject'

/-- The list of revision 3 has the second pod, and the watch tells late that it was put. -/
theorem get?_after_list_of_put :
    (listedTwoPods.watch (.applied (versionedPod "q" "2"))).2.objects =
      History.twoPods.asOf 3 := by
  have hput : ∀ w ∈ [History.twoPods.writes[1]], w.isDeletion = false →
      ∃ object, (History.twoPods.asOf 3).get? w.key = some object := by
    intro w hw _
    rw [List.mem_singleton.1 hw]
    exact ⟨versionedPod "q" "2", rfl⟩
  have htold : ∀ w ∈ [History.twoPods.writes[1]], w ∈ History.twoPods.writes ∧ w.version ≤ 3 := by
    intro w hw
    rw [List.mem_singleton.1 hw]
    exact ⟨List.getElem_mem _, by decide⟩
  exact (get?_after_list (by decide) _ (History.twoPods.lists_values 3) htold
    (List.pairwise_singleton _ _)).2.2 hput _ List.prefix_rfl

/-- The first pod is gone in the list of revision 3, and comes back when the watch tells late that it
was put. -/
theorem revived_after_list :
    listedTwoPods.objects = History.twoPods.asOf 3 ∧
      History.twoPods.writes[0].version ≤ 3 ∧
      History.twoPods.writes[0].event = .applied (versionedPod "p" "1") ∧
      (listedTwoPods.watch (.applied (versionedPod "p" "1"))).2.objects ≠
        History.twoPods.asOf 3 := by
  refine ⟨by decide, by decide, rfl, fun hsame => ?_⟩
  have hback : (History.twoPods.asOf 3).get? ⟨"n", "p"⟩ = some (versionedPod "p" "1") := by
    rw [← hsame]
    rfl
  cases hback

end Cache

end BatchOperator
