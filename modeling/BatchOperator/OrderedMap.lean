/-!
# Finite maps in key order

A finite map held as its entries in strictly increasing key order, so that two maps with the same
bindings are equal. The view of a map is `get?`: `get?_insert` and `get?_erase` say what the
operations do to it, `mem_entries_iff` ties it to the entries, and `ext_get?` says that nothing else
can be seen.
-/

set_option autoImplicit false

namespace BatchOperator

/-- The laws of `<` that keys need: a strict order in which any two different keys compare. -/
class KeyOrder (κ : Type) [LT κ] : Prop where
  irrefl : ∀ a : κ, ¬ a < a
  trans : ∀ {a b c : κ}, a < b → b < c → a < c
  trichotomy : ∀ a b : κ, a < b ∨ a = b ∨ b < a

instance : KeyOrder String where
  irrefl := String.lt_irrefl
  trans := String.lt_trans
  trichotomy a b := by
    by_cases h : a < b
    · exact .inl h
    · by_cases h' : b < a
      · exact .inr (.inr h')
      · exact .inr (.inl (String.le_antisymm (String.not_lt.1 h') (String.not_lt.1 h)))

/-- A finite map, held as its entries in strictly increasing key order. -/
structure OrderedMap (κ α : Type) [LT κ] where
  /-- The bindings, smallest key first. -/
  entries : List (κ × α)
  increasing : entries.Pairwise fun a b => a.1 < b.1

namespace OrderedMap

variable {κ α : Type} [LT κ]

/-- Maps with the same entries are equal. -/
theorem ext_entries {m n : OrderedMap κ α} (h : m.entries = n.entries) : m = n := by
  cases m; cases n; simp_all

instance [DecidableEq κ] [DecidableEq α] : DecidableEq (OrderedMap κ α) := fun m n =>
  if h : m.entries = n.entries then isTrue (ext_entries h)
  else isFalse fun e => h (by rw [e])

/-- The map without bindings. -/
def empty : OrderedMap κ α := ⟨[], .nil⟩

instance : EmptyCollection (OrderedMap κ α) := ⟨empty⟩

instance : Inhabited (OrderedMap κ α) := ⟨empty⟩

/-- The number of bindings. -/
def size (m : OrderedMap κ α) : Nat := m.entries.length

/-- Whether there is no binding. -/
def isEmpty (m : OrderedMap κ α) : Bool := m.entries.isEmpty

/-- The keys, smallest first. -/
def keys (m : OrderedMap κ α) : List κ := m.entries.map (·.1)

/-- The values in the order of their keys. -/
def values (m : OrderedMap κ α) : List α := m.entries.map (·.2)

section Lookup

variable {κ α : Type} [DecidableEq κ]

/-- The value bound to a key in a list of entries. -/
def lookup (key : κ) : List (κ × α) → Option α
  | [] => none
  | (k, v) :: rest => if k = key then some v else lookup key rest

/-- Entries without the binding of a key. -/
def drop (key : κ) (entries : List (κ × α)) : List (κ × α) :=
  entries.filter fun entry => decide (entry.1 ≠ key)

/-- A key that no entry has is not found. -/
theorem lookup_eq_none_of_forall_ne {key : κ} {entries : List (κ × α)}
    (h : ∀ entry ∈ entries, entry.1 ≠ key) : lookup key entries = none := by
  induction entries with
  | nil => rfl
  | cons head rest ih =>
    simp only [lookup]
    rw [if_neg (h head (by simp))]
    exact ih fun entry hmem => h entry (by simp [hmem])

/-- Dropping a key takes its binding away and no other. -/
theorem lookup_drop {key other : κ} {entries : List (κ × α)} :
    lookup other (drop key entries) = if other = key then none else lookup other entries := by
  induction entries with
  | nil => simp [drop, lookup]
  | cons head rest ih =>
    obtain ⟨k, v⟩ := head
    by_cases hk : k = key
    · subst hk
      have : drop k ((k, v) :: rest) = drop k rest := by simp [drop]
      rw [this, ih]
      by_cases h : other = k
      · simp [h]
      · simp [h, lookup, Ne.symm h]
    · have : drop key ((k, v) :: rest) = (k, v) :: drop key rest := by simp [drop, hk]
      rw [this]
      simp only [lookup, ih]
      by_cases h : other = key
      · subst h; simp [hk]
      · simp [h]

end Lookup

section Order

variable [KeyOrder κ] [DecidableEq κ]

/-- The entries are what is found, when no key occurs twice. -/
theorem mem_iff_lookup {key : κ} {value : α} {entries : List (κ × α)}
    (h : entries.Pairwise fun a b => a.1 < b.1) :
    (key, value) ∈ entries ↔ lookup key entries = some value := by
  induction entries with
  | nil => simp [lookup]
  | cons head rest ih =>
    obtain ⟨k, v⟩ := head
    obtain ⟨hhead, hrest⟩ := List.pairwise_cons.1 h
    simp only [lookup, List.mem_cons, Prod.mk.injEq]
    by_cases hk : k = key
    · subst hk
      have : (k, value) ∉ rest := fun hm => KeyOrder.irrefl k (hhead _ hm)
      simp [this, eq_comm]
    · simp [hk, Ne.symm hk, ih hrest]

/-- A key below all entries is not found. -/
theorem lookup_eq_none_of_below {key : κ} {entries : List (κ × α)}
    (h : ∀ entry ∈ entries, key < entry.1) : lookup key entries = none :=
  lookup_eq_none_of_forall_ne fun entry hmem heq =>
    KeyOrder.irrefl key (by simpa [heq] using h entry hmem)

/-- Ordered entries in which the same is found are the same. -/
theorem eq_of_lookup_eq {entries others : List (κ × α)}
    (h : entries.Pairwise fun a b => a.1 < b.1) (h' : others.Pairwise fun a b => a.1 < b.1)
    (same : ∀ key, lookup key entries = lookup key others) : entries = others := by
  induction entries generalizing others with
  | nil =>
    cases others with
    | nil => rfl
    | cons head rest => have := same head.1; simp [lookup] at this
  | cons head rest ih =>
    obtain ⟨k, v⟩ := head
    obtain ⟨hhead, hrest⟩ := List.pairwise_cons.1 h
    cases others with
    | nil => have := same k; simp [lookup] at this
    | cons head' rest' =>
      obtain ⟨k', v'⟩ := head'
      obtain ⟨hhead', hrest'⟩ := List.pairwise_cons.1 h'
      rcases KeyOrder.trichotomy k k' with hk | hk | hk
      · -- `k` lies below everything in the other list, so it is bound in one list only.
        have habove : ∀ entry ∈ (k', v') :: rest', k < entry.1 := by
          intro entry hmem
          rcases List.mem_cons.1 hmem with rfl | hmem
          · exact hk
          · exact KeyOrder.trans hk (hhead' entry hmem)
        have := same k
        rw [lookup_eq_none_of_below habove] at this
        simp [lookup] at this
      · subst hk
        have hv : v = v' := by have := same k; simpa [lookup] using this
        -- The heads agree, and the tails agree because no tail binds `k` again.
        subst hv
        rw [ih hrest hrest' fun key => ?_]
        by_cases hkey : k = key
        · subst hkey
          rw [lookup_eq_none_of_below hhead, lookup_eq_none_of_below hhead']
        · have := same key
          simpa [lookup, hkey] using this
      · -- The same with the two lists exchanged.
        have habove : ∀ entry ∈ (k, v) :: rest, k' < entry.1 := by
          intro entry hmem
          rcases List.mem_cons.1 hmem with rfl | hmem
          · exact hk
          · exact KeyOrder.trans hk (hhead entry hmem)
        have := same k'
        rw [lookup_eq_none_of_below habove] at this
        simp [lookup] at this

end Order

section Put

variable [DecidableEq κ] [DecidableLT κ]

/-- Entries with the given binding put in, in place of one of the same key. -/
def put (key : κ) (value : α) : List (κ × α) → List (κ × α)
  | [] => [(key, value)]
  | (k, v) :: rest =>
    if key < k then (key, value) :: (k, v) :: rest
    else if k = key then (key, value) :: rest
    else (k, v) :: put key value rest

/-- An entry after a binding was put in is the new one, up to its value, or an old one. -/
theorem fst_mem_put {key : κ} {value : α} {entries : List (κ × α)} {entry : κ × α}
    (h : entry ∈ put key value entries) : entry.1 = key ∨ entry ∈ entries := by
  induction entries with
  | nil => simp [put] at h; simp [h]
  | cons head rest ih =>
    obtain ⟨k, v⟩ := head
    unfold put at h
    split at h
    · simp only [List.mem_cons] at h
      rcases h with rfl | h
      · simp
      · right; simpa using h
    · split at h
      · simp only [List.mem_cons] at h
        rcases h with rfl | h
        · simp
        · right; simp [h]
      · simp only [List.mem_cons] at h
        rcases h with rfl | h
        · right; simp
        · rcases ih h with h | h
          · exact .inl h
          · right; simp [h]

/-- Putting a binding in keeps the order. -/
theorem pairwise_put [KeyOrder κ] {key : κ} {value : α} {entries : List (κ × α)}
    (h : entries.Pairwise fun a b => a.1 < b.1) :
    (put key value entries).Pairwise fun a b => a.1 < b.1 := by
  induction entries with
  | nil => simp [put]
  | cons head rest ih =>
    obtain ⟨k, v⟩ := head
    obtain ⟨hhead, hrest⟩ := List.pairwise_cons.1 h
    unfold put
    split
    · rename_i hlt
      refine List.pairwise_cons.2 ⟨fun entry hmem => ?_, h⟩
      rcases List.mem_cons.1 hmem with rfl | hmem
      · exact hlt
      · exact KeyOrder.trans hlt (hhead entry hmem)
    · split
      · rename_i hk
        subst hk
        exact List.pairwise_cons.2 ⟨hhead, hrest⟩
      · rename_i hlt hne
        refine List.pairwise_cons.2 ⟨fun entry hmem => ?_, ih hrest⟩
        -- What `put` adds behind the head is the new key, which is above the head, or an old entry.
        rcases fst_mem_put hmem with heq | hmem
        · rcases KeyOrder.trichotomy k key with h1 | h1 | h1
          · simpa [heq] using h1
          · exact absurd h1 hne
          · exact absurd h1 hlt
        · exact hhead entry hmem

/-- Putting a binding in changes what is found for its key only. -/
theorem lookup_put {key other : κ} {value : α} {entries : List (κ × α)} :
    lookup other (put key value entries) =
      if other = key then some value else lookup other entries := by
  induction entries with
  | nil => by_cases h : other = key <;> simp [put, lookup, h, Ne.symm]
  | cons head rest ih =>
    obtain ⟨k, v⟩ := head
    unfold put
    split
    · simp only [lookup]
      by_cases h : other = key
      · simp [h]
      · simp [h, Ne.symm h]
    · split
      · rename_i hk
        subst hk
        simp only [lookup]
        by_cases h : other = k
        · simp [h]
        · simp [h, Ne.symm h]
      · rename_i hne
        simp only [lookup, ih]
        by_cases h : other = key
        · subst h; simp [hne]
        · simp [h]

/-- The map with one binding put in, in place of one of the same key. -/
def insert [KeyOrder κ] (m : OrderedMap κ α) (key : κ) (value : α) : OrderedMap κ α :=
  ⟨put key value m.entries, pairwise_put m.increasing⟩

/-- The map of a list of bindings; the last binding of a key counts. -/
def ofList [KeyOrder κ] (bindings : List (κ × α)) : OrderedMap κ α :=
  bindings.foldl (fun m binding => m.insert binding.1 binding.2) empty

end Put

section View

variable [DecidableEq κ]

/-- The value bound to a key. -/
def get? (m : OrderedMap κ α) (key : κ) : Option α := lookup key m.entries

/-- Whether a key is bound. -/
def contains (m : OrderedMap κ α) (key : κ) : Bool := (m.get? key).isSome

/-- The map without the binding of a key. -/
def erase (m : OrderedMap κ α) (key : κ) : OrderedMap κ α :=
  ⟨drop key m.entries, m.increasing.filter _⟩

/-- The empty map binds no key. -/
@[simp] theorem get?_empty (key : κ) : (empty : OrderedMap κ α).get? key = none := rfl

/-- Insertion binds its key and keeps all other bindings. -/
@[simp] theorem get?_insert [DecidableLT κ] [KeyOrder κ] (m : OrderedMap κ α) (key other : κ)
    (value : α) :
    (m.insert key value).get? other = if other = key then some value else m.get? other :=
  lookup_put

/-- Erasure unbinds its key and keeps all other bindings. -/
@[simp] theorem get?_erase (m : OrderedMap κ α) (key other : κ) :
    (m.erase key).get? other = if other = key then none else m.get? other :=
  lookup_drop

/-- The entries of a map are its bindings. -/
theorem mem_entries_iff [KeyOrder κ] {m : OrderedMap κ α} {key : κ} {value : α} :
    (key, value) ∈ m.entries ↔ m.get? key = some value :=
  mem_iff_lookup m.increasing

/-- Two maps with the same bindings are equal. -/
theorem ext_get? [KeyOrder κ] {m n : OrderedMap κ α} (h : ∀ key, m.get? key = n.get? key) :
    m = n :=
  ext_entries (eq_of_lookup_eq m.increasing n.increasing h)

end View

end OrderedMap

/-- A finite map from text to text: labels, annotations, node selectors. -/
abbrev StringMap := OrderedMap String String

end BatchOperator
