import BatchOperator.Proofs.Cache.Mutation
import Mathlib.Data.List.Induction
import Mathlib.Data.List.Nodup

/-!
# What a list of all objects comes to

A list of all objects can name a key several times and can have objects without a name in it. Under
a key the cache then has the last object that was listed with it (`Cache.get?_replace`), as if the
objects without a name had not been listed (`Cache.replace_append_nameless`). The changes that are
reported are about the keys that were in the cache or are listed, each of them once
(`Cache.Keyed.exists_keys_replace`); no mutation reports two changes of one key
(`Cache.Keyed.nodup_keys_mutate`).
-/

set_option autoImplicit false

namespace BatchOperator

/-- An object without a name goes by no key. -/
def Resource.Nameless {K : Type} [Resource K] (object : K) : Prop :=
  (Resource.metadata object).name.getD "" = ""

/-- Whether an object goes by a key. -/
def Resource.hasKey {K : Type} [Resource K] (key : ObjectKey) (object : K) : Bool :=
  (Resource.key object).toOption == some key

/-- What a change is about. -/
def Change.key {K : Type} [Resource K] (change : Change K) : Except Error ObjectKey :=
  Resource.key change.object

namespace Resource

variable {K : Type} [Resource K]

@[simp] theorem hasKey_iff {key : ObjectKey} {object : K} :
    hasKey key object = true ↔ Resource.key object = .ok key := by
  cases h : Resource.key object <;> simp [hasKey, h, Except.toOption]

/-- An object has a key that is made of its namespace and its name, or it has no name. -/
theorem key_cases (object : K) :
    (¬Nameless object ∧ ∃ name, (metadata object).name = some name ∧ name ≠ "" ∧
        Resource.key object = .ok ⟨(metadata object).ns.getD "", name⟩) ∨
      (Nameless object ∧ Resource.key object = .error Metadata.key.nameless) := by
  unfold Nameless Resource.key Metadata.key
  cases hname : (metadata object).name with
  | none => exact .inr ⟨rfl, rfl⟩
  | some name =>
    by_cases hempty : name = ""
    · exact .inr ⟨hempty, by simp [hempty]⟩
    · exact .inl ⟨hempty, name, rfl, hempty, by simp [hempty]⟩

/-- Only an object with a name has a key. -/
theorem name_ne_of_key {object : K} {key : ObjectKey} (h : Resource.key object = .ok key) :
    key.name ≠ "" := by
  obtain ⟨-, name, -, hempty, hkey⟩ | ⟨-, herror⟩ := key_cases object
  · cases hkey.symm.trans h
    exact hempty
  · cases herror.symm.trans h

theorem key_of_nameless {object : K} (h : Nameless object) :
    Resource.key object = .error Metadata.key.nameless := by
  obtain ⟨hname, -⟩ | ⟨-, herror⟩ := key_cases object
  · exact absurd h hname
  · exact herror

end Resource

namespace Cache

variable {K : Type} [Resource K] (c : Cache K)

/-! ## What is there afterwards -/

/-- The last object of a list that goes by a key. -/
def lastListed? (listed : List K) (key : ObjectKey) : Option K :=
  listed.reverse.find? (Resource.hasKey key)

theorem lastListed?_concat (listed : List K) (object : K) (key : ObjectKey) :
    lastListed? (listed ++ [object]) key =
      if Resource.hasKey key object then some object else lastListed? listed key := by
  rw [lastListed?, List.reverse_concat, List.find?_cons]
  cases Resource.hasKey key object <;> rfl

/-- An object is found under a key exactly if one is listed that goes by it. -/
theorem lastListed?_isSome {listed : List K} {key : ObjectKey} :
    (lastListed? listed key).isSome = true ↔
      ∃ object ∈ listed, Resource.key object = .ok key := by
  simp [lastListed?, List.find?_isSome]

theorem keyed_concat (listed : List K) (object : K) :
    keyed (listed ++ [object]) =
      match Resource.key object with
      | .ok key => (keyed listed).insert key object
      | .error _ => keyed listed := by
  simp only [keyed, List.filterMap_append, OrderedMap.ofList, List.foldl_append]
  cases hkey : Resource.key object with
  | ok key => simp [hkey]
  | error e => simp [hkey]

/-- Of several objects that go by one key the last one counts. -/
theorem get?_keyed (listed : List K) (key : ObjectKey) :
    (keyed listed).get? key = lastListed? listed key := by
  -- An object that is put in takes the place of the one that was listed before it.
  induction listed using List.reverseRecOn with
  | nil => rfl
  | append_singleton listed object ih =>
    rw [keyed_concat, lastListed?_concat]
    cases hkey : Resource.key object with
    | error e =>
      have hnot : Resource.hasKey key object = false := by
        simp [Resource.hasKey, hkey, Except.toOption]
      rw [hnot]
      exact ih
    | ok found =>
      rw [OrderedMap.get?_insert, ih]
      by_cases heq : key = found
      · rw [if_pos heq, if_pos (Resource.hasKey_iff.2 (heq ▸ hkey))]
      · rw [if_neg heq, if_neg]
        intro hhas
        cases hkey.symm.trans (Resource.hasKey_iff.1 hhas)
        exact heq rfl

/-- After a list of all objects the cache has what was listed, and nothing else. -/
theorem get?_replace (listed : List K) (key : ObjectKey) :
    (c.replace listed).2.get? key = lastListed? listed key :=
  get?_keyed listed key

/-- An object without a name makes no difference to the others of its list. -/
theorem replace_append_nameless {object : K} (h : Resource.Nameless object)
    (before after : List K) :
    c.replace (before ++ object :: after) = c.replace (before ++ after) := by
  have hkeyed : keyed (before ++ object :: after) = keyed (before ++ after) := by
    simp only [keyed, List.filterMap_append, List.filterMap_cons, Resource.key_of_nameless h]
  simp only [replace, hkeyed]

/-- An object without a name cannot be put in or taken out. -/
theorem mutate_nameless {object : K} (h : Resource.Nameless object) :
    c.mutate (.apply object) = ([], c) ∧ c.mutate (.remove object) = ([], c) := by
  have hkey := Resource.key_of_nameless h
  constructor
  · simp only [mutate, Cache.apply, hkey, taken]
  · simp only [mutate, Cache.remove, hkey, taken]

/-! ## What the changes are about -/

variable {c}

/-- A change that is reported of an object that comes is about its key. -/
theorem key_noted {key : ObjectKey} {object : K} (h : Resource.key object = .ok key) :
    (c.noted key object).key = .ok key := by
  rw [Change.key, object_noted, h]

/-- The keys of the changes of a list: those that are gone, and those that are listed. -/
theorem Keyed.keys_replace (h : c.Keyed) (listed : List K) :
    (c.replace listed).1.map Change.key =
      ((c.objects.keysWhere fun key _ => !(keyed listed).contains key) ++
        (keyed listed).keysWhere fun _ _ => true).map .ok := by
  have hlisted := c.keyed_replace listed
  simp only [replace, List.map_append, OrderedMap.keysWhere, List.map_map]
  -- Objects are kept under their own keys, so a change is about the key of its entry.
  congr 1
  · rw [List.map_filterMap, ← List.filterMap_eq_filter, List.map_filterMap]
    refine List.filterMap_congr ?_
    rintro ⟨key, old⟩ hmem
    have hkey := h key old (OrderedMap.mem_entries_iff.1 hmem)
    cases hthere : (keyed listed).contains key <;>
      simp [Change.key, Change.object, Option.guard, hkey, hthere]
  · rw [List.filter_eq_self.2 fun _ _ => rfl]
    refine List.map_congr_left ?_
    rintro ⟨key, new⟩ hmem
    exact key_noted (hlisted key new (OrderedMap.mem_entries_iff.1 hmem))

omit [Resource K] in
/-- The change from what one cache has under a key to what another one has there. -/
def changeAt? (c c' : Cache K) (key : ObjectKey) : Option (Change K) :=
  match c.get? key, c'.get? key with
  | none, none => none
  | none, some new => some (.added new)
  | some old, none => some (.deleted old)
  | some old, some new => some (.modified old new)

/-- A list of all objects is reported as the change of every key. -/
theorem mem_replace_iff {listed : List K} {change : Change K} :
    change ∈ (c.replace listed).1 ↔
      ∃ key, c.changeAt? (c.replace listed).2 key = some change := by
  rw [mem_replace, ← exists_or]
  refine exists_congr fun key => ?_
  unfold changeAt? noted
  cases c.get? key <;> cases (c.replace listed).2.get? key <;> simp [eq_comm]

/-- A list of all objects is reported as one change of every key that the cache has or that is
listed, and no other. -/
theorem Keyed.exists_keys_replace (h : c.Keyed) (listed : List K) :
    ∃ keys : List ObjectKey, (c.replace listed).1.map Change.key = keys.map .ok ∧ keys.Nodup ∧
      ∀ key, key ∈ keys ↔ (c.get? key).isSome = true ∨
        ∃ object ∈ listed, Resource.key object = .ok key := by
  refine ⟨_, h.keys_replace listed, ?_, ?_⟩
  · -- What is gone is not listed.
    refine List.nodup_append.2 ⟨OrderedMap.nodup_keysWhere _ _, OrderedMap.nodup_keysWhere _ _, ?_⟩
    rintro gone hgone there hthere rfl
    obtain ⟨old, -, hnot⟩ := OrderedMap.mem_keysWhere.1 hgone
    obtain ⟨new, hnew, -⟩ := OrderedMap.mem_keysWhere.1 hthere
    rw [OrderedMap.contains, hnew] at hnot
    cases hnot
  · intro key
    -- A key that is cached and listed counts among those that are listed.
    rw [List.mem_append, OrderedMap.mem_keysWhere, OrderedMap.mem_keysWhere,
      ← lastListed?_isSome, ← get?_keyed, OrderedMap.contains]
    cases hnew : (keyed listed).get? key with
    | some new => simp
    | none => simp [get?, Option.isSome_iff_exists]

/-- No mutation reports two changes of one key. -/
theorem Keyed.nodup_keys_mutate (h : c.Keyed) (mutation : Mutation K) :
    ((c.mutate mutation).1.map Change.key).Nodup := by
  obtain e | ⟨key, object, -, e⟩ | ⟨key, object, -, e⟩ | ⟨listed, e⟩ :=
    c.mutate_cases mutation <;> rw [e]
  · exact List.nodup_nil
  · exact List.nodup_singleton _
  · exact List.nodup_singleton _
  · obtain ⟨keys, hkeys, hnodup, -⟩ := h.exists_keys_replace listed
    rw [hkeys]
    exact hnodup.map fun _ _ hsame => Except.ok.inj hsame

end Cache

end BatchOperator
