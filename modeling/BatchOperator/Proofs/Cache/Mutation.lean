import BatchOperator.Proofs.Cache.Contents

/-!
# What the changes of a cache tell

Applying and removing an object and replacing all objects are the mutations of a cache. A change
that a mutation reports is about what the cache had before and has afterwards
(`Cache.tells_of_mem_mutate`), and no mutation passes over anything: under every key with something
else than before there is a change (`Cache.exists_change_of_get?_ne`). What a cache lists depends on
what can be looked up in it and selected (`Cache.list_congr`).
-/

set_option autoImplicit false

namespace BatchOperator

/-- The bindings that a property holds of. -/
def OrderedMap.keep {κ α : Type} [LT κ] (m : OrderedMap κ α) (P : κ → α → Bool) :
    OrderedMap κ α :=
  ⟨m.entries.filter fun entry => P entry.1 entry.2, m.increasing.filter _⟩

theorem OrderedMap.get?_keep {κ α : Type} [LT κ] [KeyOrder κ] [DecidableEq κ]
    (m : OrderedMap κ α) (P : κ → α → Bool) (key : κ) :
    (m.keep P).get? key = (m.get? key).filter (P key) := by
  ext value
  rw [← mem_entries_iff, Option.filter_eq_some_iff, ← mem_entries_iff]
  exact List.mem_filter

namespace Cache

variable {K : Type} [Resource K]

/-- The objects that are listed are the values of the bindings that are selected. -/
theorem list_eq_values (c : Cache K) (ns : String) (selector : Selector) :
    c.list ns selector = (c.objects.keep fun key object =>
      key.ns = ns && selector.selects (labelsOf object)).values := by
  simp only [list, OrderedMap.values, OrderedMap.keep]
  induction c.objects.entries with
  | nil => rfl
  | cons entry rest ih =>
    obtain ⟨key, object⟩ := entry
    by_cases h : key.ns = ns ∧ selector.selects (labelsOf object)
    · simp [h, ih]
    · simp [h, ih]

/-- Caches in which the same can be looked up and selected list the same. -/
theorem list_congr {c c' : Cache K} {ns : String} {selector : Selector}
    (h : ∀ key, (c.get? key).filter (fun object =>
        key.ns = ns && selector.selects (labelsOf object)) =
      (c'.get? key).filter fun object => key.ns = ns && selector.selects (labelsOf object)) :
    c.list ns selector = c'.list ns selector := by
  rw [list_eq_values, list_eq_values]
  congr 1
  refine OrderedMap.ext_get? fun key => ?_
  rw [OrderedMap.get?_keep, OrderedMap.get?_keep]
  exact h key

/-- One mutation of a cache. -/
inductive Mutation (K : Type) where
  | apply (object : K)
  | remove (object : K)
  | replace (listed : List K)

/-- The changes that a mutation reports, and the cache afterwards. An object without a name is no
mutation. -/
def mutate (c : Cache K) : Mutation K → List (Change K) × Cache K
  | .apply object => c.taken (c.apply object)
  | .remove object => c.taken (c.remove object)
  | .replace listed => c.replace listed

/-- The change that is reported when an object comes under a key. -/
def noted (c : Cache K) (key : ObjectKey) (object : K) : Change K :=
  match c.get? key with
  | some old => .modified old object
  | none => .added object

omit [Resource K] in
@[simp] theorem object_noted (c : Cache K) (key : ObjectKey) (object : K) :
    (c.noted key object).object = object := by
  unfold noted
  split <;> rfl

/-- A change is right about what one cache had and another one has. -/
def Tells (c c' : Cache K) (change : Change K) : Prop :=
  ∃ key, Resource.key change.object = .ok key ∧
    match change with
    | .added object => c.get? key = none ∧ c'.get? key = some object
    | .modified old new => c.get? key = some old ∧ c'.get? key = some new
    | .deleted _ => c'.get? key = none

theorem tells_noted {c c' : Cache K} {key : ObjectKey} {object : K}
    (hkey : Resource.key object = .ok key) (hget : c'.get? key = some object) :
    c.Tells c' (c.noted key object) := by
  refine ⟨key, by rw [object_noted]; exact hkey, ?_⟩
  unfold noted
  cases hold : c.get? key with
  | none => exact ⟨rfl, hget⟩
  | some old => exact ⟨rfl, hget⟩

/-- What a list of all objects reports: what is gone and what there is. -/
theorem mem_replace {c : Cache K} {listed : List K} {change : Change K} :
    change ∈ (c.replace listed).1 ↔
      (∃ key old, c.get? key = some old ∧ (c.replace listed).2.get? key = none ∧
        change = .deleted old) ∨
      ∃ key new, (c.replace listed).2.get? key = some new ∧ change = c.noted key new := by
  simp only [replace, List.mem_append, List.mem_filterMap, List.mem_map, Prod.exists,
    OrderedMap.mem_entries_iff]
  refine or_congr (exists₂_congr fun key old => and_congr_right fun _ => ?_)
    (exists₂_congr fun key new => and_congr_right fun _ => eq_comm)
  rw [Option.ite_none_left_eq_some, OrderedMap.contains, Option.not_isSome_iff_eq_none,
    Option.some.injEq, @eq_comm _ (Change.deleted old)]
  rfl

/-- A mutation is none at all, puts an object under its key, takes a key out, or puts a list in
place of everything. -/
theorem mutate_cases (c : Cache K) (mutation : Mutation K) :
    c.mutate mutation = ([], c) ∨
      (∃ key object, Resource.key object = .ok key ∧ c.mutate mutation =
        ([c.noted key object], { c with objects := c.objects.insert key object })) ∨
      (∃ key object, Resource.key object = .ok key ∧ c.mutate mutation =
        ([.deleted object], { c with objects := c.objects.erase key })) ∨
      ∃ listed, c.mutate mutation = c.replace listed := by
  cases mutation with
  | apply object =>
    cases hkey : Resource.key object with
    | error e => exact .inl (by simp [mutate, Cache.apply, hkey, taken])
    | ok key =>
      refine .inr (.inl ⟨key, object, hkey, ?_⟩)
      rw [mutate, Cache.apply, hkey]
      rfl
  | remove object =>
    cases hkey : Resource.key object with
    | error e => exact .inl (by simp [mutate, Cache.remove, hkey, taken])
    | ok key =>
      refine .inr (.inr (.inl ⟨key, object, hkey, ?_⟩))
      simp [mutate, Cache.remove, hkey, taken]
  | replace listed => exact .inr (.inr (.inr ⟨listed, rfl⟩))

/-- Every change that a mutation reports is right about what was there and what is. -/
theorem Keyed.tells_of_mem_mutate {c : Cache K} (h : c.Keyed) {mutation : Mutation K}
    {change : Change K} (hchange : change ∈ (c.mutate mutation).1) :
    c.Tells (c.mutate mutation).2 change := by
  obtain e | ⟨key, object, hkey, e⟩ | ⟨key, object, hkey, e⟩ | ⟨listed, e⟩ :=
    c.mutate_cases mutation <;> rw [e] at hchange ⊢
  · cases hchange
  · obtain rfl := List.mem_singleton.1 hchange
    exact tells_noted hkey (by simp [get?, OrderedMap.get?_insert])
  · obtain rfl := List.mem_singleton.1 hchange
    exact ⟨key, hkey, by simp [get?, OrderedMap.get?_erase]⟩
  · rcases mem_replace.1 hchange with ⟨key, old, hold, hgone, rfl⟩ | ⟨key, new, hnew, rfl⟩
    · exact ⟨key, h key old hold, hgone⟩
    · exact tells_noted (c.keyed_replace listed key new hnew) hnew

/-- Where a mutation makes a difference it reports a change. -/
theorem Keyed.exists_change_of_get?_ne {c : Cache K} (h : c.Keyed) {mutation : Mutation K}
    {key : ObjectKey} (hne : c.get? key ≠ (c.mutate mutation).2.get? key) :
    ∃ change ∈ (c.mutate mutation).1, Resource.key change.object = .ok key := by
  obtain e | ⟨k, object, hkey, e⟩ | ⟨k, object, hkey, e⟩ | ⟨listed, e⟩ :=
    c.mutate_cases mutation <;> rw [e] at hne ⊢
  · exact absurd rfl hne
  · -- An insertion makes no difference under other keys.
    obtain rfl : key = k := by
      refine Decidable.byContradiction fun hk => hne ?_
      simp [get?, OrderedMap.get?_insert, hk]
    exact ⟨c.noted key object, List.mem_singleton_self _, by rw [object_noted]; exact hkey⟩
  · obtain rfl : key = k := by
      refine Decidable.byContradiction fun hk => hne ?_
      simp [get?, OrderedMap.get?_erase, hk]
    exact ⟨.deleted object, List.mem_singleton_self _, hkey⟩
  · cases hnew : (c.replace listed).2.get? key with
    | some new =>
      refine ⟨c.noted key new, mem_replace.2 (.inr ⟨key, new, hnew, rfl⟩), ?_⟩
      rw [object_noted]
      exact c.keyed_replace listed key new hnew
    | none =>
      -- What is not listed any more was there before.
      rw [hnew] at hne
      obtain ⟨old, hold⟩ := Option.ne_none_iff_exists'.1 hne
      exact ⟨.deleted old, mem_replace.2 (.inl ⟨key, old, hold, hnew, rfl⟩), h key old hold⟩

end Cache

end BatchOperator
