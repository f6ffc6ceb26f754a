import BatchOperator.Cache

/-!
# What a cache contains

What a cache lists is what can be looked up in it (`Cache.mem_list`), and the entries of a certain
kind can be counted by their keys: when every entry of that kind in one map is one in another map,
the other map has at least as many (`OrderedMap.countWhere_le`). In a cache that was filled by its
own operations every object is kept under its own key (`Cache.Keyed`).
-/

set_option autoImplicit false

namespace BatchOperator

namespace OrderedMap

variable {κ α : Type} [LT κ]

/-- The keys of the entries that a property holds of. -/
def keysWhere (m : OrderedMap κ α) (P : κ → α → Bool) : List κ :=
  (m.entries.filter fun entry => P entry.1 entry.2).map (·.1)

/-- How many entries a property holds of. -/
def countWhere (m : OrderedMap κ α) (P : κ → α → Bool) : Nat :=
  m.entries.countP fun entry => P entry.1 entry.2

theorem length_keysWhere (m : OrderedMap κ α) (P : κ → α → Bool) :
    (m.keysWhere P).length = m.countWhere P := by
  rw [keysWhere, List.length_map, countWhere, List.countP_eq_length_filter]

variable [KeyOrder κ]

theorem nodup_entries (m : OrderedMap κ α) : m.entries.Nodup := by
  refine m.increasing.imp ?_
  intro a b hab hne
  exact KeyOrder.irrefl a.1 (hne ▸ hab)

theorem nodup_keysWhere (m : OrderedMap κ α) (P : κ → α → Bool) : (m.keysWhere P).Nodup := by
  have h := m.increasing.filter fun entry => P entry.1 entry.2
  refine List.pairwise_map.2 (h.imp ?_)
  intro a b hab hne
  exact KeyOrder.irrefl a.1 (hne ▸ hab)

/-- Entries of a kind are no fewer in a map that has one under every key of the other map's. -/
theorem countWhere_le {m n : OrderedMap κ α} {P Q : κ → α → Bool}
    (h : ∀ key ∈ m.keysWhere P, key ∈ n.keysWhere Q) : m.countWhere P ≤ n.countWhere Q := by
  rw [← length_keysWhere, ← length_keysWhere]
  exact (m.nodup_keysWhere P).length_le_of_subset h

/-- With one more key the entries are more by at least one. -/
theorem countWhere_lt {m n : OrderedMap κ α} {P Q : κ → α → Bool} (fresh : κ)
    (h : ∀ key ∈ m.keysWhere P, key ∈ n.keysWhere Q) (hn : fresh ∈ n.keysWhere Q)
    (hm : fresh ∉ m.keysWhere P) : m.countWhere P < n.countWhere Q := by
  rw [← length_keysWhere, ← length_keysWhere]
  -- The new key and those of `m` are all different, and all of them are keys of `n`.
  have hnodup : (fresh :: m.keysWhere P).Nodup :=
    List.nodup_cons.2 ⟨hm, m.nodup_keysWhere P⟩
  have hsub : fresh :: m.keysWhere P ⊆ n.keysWhere Q := by
    intro key hkey
    rcases List.mem_cons.1 hkey with rfl | hkey
    · exact hn
    · exact h key hkey
  exact hnodup.length_le_of_subset hsub

variable [DecidableEq κ]

@[simp] theorem mem_keysWhere {m : OrderedMap κ α} {P : κ → α → Bool} {key : κ} :
    key ∈ m.keysWhere P ↔ ∃ value, m.get? key = some value ∧ P key value = true := by
  simp only [keysWhere, List.mem_map, List.mem_filter]
  constructor
  · rintro ⟨⟨k, v⟩, ⟨hmem, hP⟩, rfl⟩
    exact ⟨v, mem_entries_iff.1 hmem, hP⟩
  · rintro ⟨v, hget, hP⟩
    exact ⟨(key, v), ⟨mem_entries_iff.2 hget, hP⟩, rfl⟩

/-- One entry more makes a count larger by at most one. -/
theorem countWhere_insert_le [DecidableLT κ] (m : OrderedMap κ α) (P : κ → α → Bool) (key : κ)
    (value : α) : (m.insert key value).countWhere P ≤ m.countWhere P + 1 := by
  rw [← length_keysWhere, ← length_keysWhere]
  have hsub : (m.insert key value).keysWhere P ⊆ key :: m.keysWhere P := by
    intro k hk
    obtain ⟨v, hget, hP⟩ := mem_keysWhere.1 hk
    rw [get?_insert] at hget
    by_cases h : k = key
    · exact h ▸ List.mem_cons_self
    · rw [if_neg h] at hget
      exact List.mem_cons_of_mem key (mem_keysWhere.2 ⟨v, hget, hP⟩)
  exact ((m.insert key value).nodup_keysWhere P).length_le_of_subset hsub

/-- A binding of a new key is one entry more. -/
theorem entries_insert_perm [DecidableLT κ] {m : OrderedMap κ α} {key : κ}
    (hfresh : m.get? key = none) (value : α) :
    (m.insert key value).entries.Perm ((key, value) :: m.entries) := by
  have hnot : (key, value) ∉ m.entries := by
    rw [mem_entries_iff, hfresh]
    simp
  refine (List.perm_ext_iff_of_nodup (nodup_entries _)
    (List.nodup_cons.2 ⟨hnot, m.nodup_entries⟩)).2 ?_
  rintro ⟨k, v⟩
  rw [mem_entries_iff, get?_insert, List.mem_cons, mem_entries_iff]
  by_cases hk : k = key
  · subst hk
    simp [hfresh, eq_comm]
  · simp [hk]

/-- Under a new key, what is counted depends on the new entry alone. -/
theorem countWhere_insert_of_fresh [DecidableLT κ] {m : OrderedMap κ α} {key : κ}
    (hfresh : m.get? key = none) (value : α) (P : κ → α → Bool) :
    (m.insert key value).countWhere P = m.countWhere P + (P key value).toNat := by
  rw [countWhere, (entries_insert_perm hfresh value).countP_eq, List.countP_cons, countWhere]
  cases P key value <;> rfl

/-- One entry less makes no count larger. -/
theorem countWhere_erase_le (m : OrderedMap κ α) (P : κ → α → Bool) (key : κ) :
    (m.erase key).countWhere P ≤ m.countWhere P := by
  refine countWhere_le ?_
  intro k hk
  obtain ⟨v, hget, hP⟩ := mem_keysWhere.1 hk
  rw [get?_erase] at hget
  split at hget
  · simp at hget
  · exact mem_keysWhere.2 ⟨v, hget, hP⟩

end OrderedMap

/-- The key of an object is made of its namespace and its name. -/
theorem Metadata.of_key {m : Metadata} {key : ObjectKey} (h : m.key = .ok key) :
    m.name = some key.name ∧ m.ns.getD "" = key.ns := by
  unfold Metadata.key at h
  split at h
  · rename_i name hname
    split at h
    · cases h
    · cases h
      exact ⟨hname, rfl⟩
  · cases h

theorem Metadata.anyName_of_key {m : Metadata} {key : ObjectKey} (h : m.key = .ok key) :
    m.anyName = key.name := by
  simp [anyName, (of_key h).1]

namespace Cache

variable {K : Type} [Resource K]

/-- A cache lists the objects of the namespace that are selected. -/
theorem mem_list {c : Cache K} {ns : String} {selector : Selector} {object : K} :
    object ∈ c.list ns selector ↔
      ∃ key, c.get? key = some object ∧ key.ns = ns ∧ selector.selects (labelsOf object) := by
  simp only [list, List.mem_filterMap]
  constructor
  · rintro ⟨⟨key, found⟩, hmem, h⟩
    simp only [Option.ite_none_right_eq_some, Option.some.injEq] at h
    obtain ⟨⟨hns, hsel⟩, rfl⟩ := h
    exact ⟨key, OrderedMap.mem_entries_iff.1 hmem, hns, hsel⟩
  · rintro ⟨key, hget, hns, hsel⟩
    refine ⟨(key, object), OrderedMap.mem_entries_iff.2 hget, ?_⟩
    simp [hns, hsel]

/-- The listed objects of a kind are counted by their entries. -/
theorem countP_list (c : Cache K) (ns : String) (selector : Selector) (P : K → Bool) :
    (c.list ns selector).countP P =
      c.objects.countWhere fun key object =>
        key.ns = ns && selector.selects (labelsOf object) && P object := by
  rw [list, OrderedMap.countWhere]
  induction c.objects.entries with
  | nil => rfl
  | cons entry rest ih =>
    obtain ⟨key, object⟩ := entry
    by_cases h : key.ns = ns ∧ selector.selects (labelsOf object)
    · simp [List.countP_cons, h, ih]
    · simp [h, ih]

/-- Objects are listed in the order of their keys. -/
theorem pairwise_list_of_lt {c : Cache K} {ns : String} {selector : Selector} {R : K → K → Prop}
    (h : ∀ key key' a b, c.get? key = some a → c.get? key' = some b → key.ns = ns → key'.ns = ns →
      selector.selects (labelsOf a) = true → selector.selects (labelsOf b) = true → key < key' →
      R a b) : (c.list ns selector).Pairwise R := by
  refine (List.Pairwise.and_mem.1 c.objects.increasing).filterMap _ ?_
  rintro ⟨key, a⟩ ⟨key', b⟩ ⟨ha, hb, hlt⟩ a' ha' b' hb'
  simp only [Option.ite_none_right_eq_some, Option.some.injEq] at ha' hb'
  obtain ⟨⟨hns, hsel⟩, rfl⟩ := ha'
  obtain ⟨⟨hns', hsel'⟩, rfl⟩ := hb'
  exact h key key' a b (OrderedMap.mem_entries_iff.1 ha) (OrderedMap.mem_entries_iff.1 hb) hns hns'
    hsel hsel' hlt

/-- Objects that are listed one after the other are kept under different keys. -/
theorem pairwise_list {c : Cache K} {ns : String} {selector : Selector} {R : K → K → Prop}
    (h : ∀ key key' a b, c.get? key = some a → c.get? key' = some b → key.ns = ns → key'.ns = ns →
      selector.selects (labelsOf a) = true → selector.selects (labelsOf b) = true → key ≠ key' →
      R a b) : (c.list ns selector).Pairwise R := by
  refine pairwise_list_of_lt fun key key' a b ha hb hns hns' hsel hsel' hlt => ?_
  refine h key key' a b ha hb hns hns' hsel hsel' ?_
  intro hne
  exact KeyOrder.irrefl key (hne ▸ hlt)

/-- Putting an object in binds its key to it. -/
theorem apply_cases {c c' : Cache K} {object : K} {change : Change K}
    (h : c.apply object = .ok (change, c')) :
    ∃ key, Resource.key object = .ok key ∧
      c' = { c with objects := c.objects.insert key object } := by
  unfold apply at h
  split at h
  · cases h
  · rename_i key hkey
    cases h
    exact ⟨key, hkey, rfl⟩

/-- Every object is kept under its own key. -/
def Keyed (c : Cache K) : Prop :=
  ∀ key object, c.get? key = some object → Resource.key object = .ok key

theorem keyed_empty (synced : Bool) : (Cache.mk .empty synced : Cache K).Keyed := by
  intro key object h
  simp [get?] at h

/-- One object under its own key. -/
theorem keyed_singleton {key : ObjectKey} {object : K} (h : Resource.key object = .ok key)
    (synced : Bool) :
    (Cache.mk ⟨[(key, object)], List.pairwise_singleton _ _⟩ synced : Cache K).Keyed := by
  intro other found hget
  simp only [get?, OrderedMap.get?, OrderedMap.lookup, Option.ite_none_right_eq_some] at hget
  obtain ⟨rfl, hfound⟩ := hget
  cases hfound
  exact h

/-- Putting objects in keeps every object under its own key. -/
theorem Keyed.apply {c c' : Cache K} (h : c.Keyed) {object : K} {change : Change K}
    (happly : c.apply object = .ok (change, c')) : c'.Keyed := by
  obtain ⟨key, hkey, rfl⟩ := apply_cases happly
  intro other found hget
  simp only [get?, OrderedMap.get?_insert] at hget
  split at hget
  · cases hget
    simp_all
  · exact h other found hget

/-- Taking an entry out keeps every object under its own key. -/
theorem Keyed.erase {c : Cache K} (h : c.Keyed) (key : ObjectKey) :
    ({ c with objects := c.objects.erase key } : Cache K).Keyed := by
  intro other found hget
  simp only [get?, OrderedMap.get?_erase] at hget
  split at hget
  · cases hget
  · exact h other found hget

theorem keyed_foldl_insert {m : OrderedMap ObjectKey K} {bindings : List (ObjectKey × K)}
    {synced : Bool} (hm : (Cache.mk m synced).Keyed)
    (h : ∀ binding ∈ bindings, Resource.key binding.2 = .ok binding.1) :
    (Cache.mk (bindings.foldl (fun m binding => m.insert binding.1 binding.2) m) synced).Keyed := by
  induction bindings generalizing m with
  | nil => exact hm
  | cons binding rest ih =>
    refine ih ?_ fun other hother => h other (List.mem_cons_of_mem _ hother)
    intro key object hget
    simp only [get?, OrderedMap.get?_insert] at hget
    split at hget
    · rename_i hkey
      cases hget
      rw [hkey]
      exact h binding List.mem_cons_self
    · exact hm key object hget

/-- A list of all objects keeps every object under its own key. -/
theorem keyed_replace (c : Cache K) (listed : List K) : (c.replace listed).2.Keyed := by
  refine keyed_foldl_insert (keyed_empty c.synced) ?_
  rintro ⟨key, object⟩ hmem
  obtain ⟨listedObject, -, hkeyed⟩ := List.mem_filterMap.1 hmem
  split at hkeyed
  · rename_i found hfound
    cases hkeyed
    exact hfound
  · cases hkeyed

/-- Whatever a watch tells, every object stays under its own key. -/
theorem Keyed.watch {c : Cache K} (h : c.Keyed) (event : WatchEvent K) :
    (c.watch event).2.Keyed := by
  cases event with
  | applied object =>
    simp only [Cache.watch]
    split
    · exact h
    · cases happly : c.apply object with
      | error e => exact h
      | ok answer => exact h.apply happly
  | deleted object =>
    simp only [Cache.watch]
    split
    · exact h
    · cases hremove : c.remove object with
      | error e => exact h
      | ok answer =>
        unfold Cache.remove at hremove
        split at hremove
        · cases hremove
        · cases hremove
          exact h.erase _
  | restarted objects => exact c.keyed_replace objects

end Cache

end BatchOperator
