import BatchOperator.Proofs.Cache.Contents
import Mathlib.Data.List.Induction

/-!
# Histories of a store

A store goes through a sequence of writes, each with a version larger than all before. The object
that a write is about carries the version, and so does the event by which a watch tells of the write.
`History.asOf` is what the store has at a revision: what is left by the writes with versions up to
it. An object that a cache passes over as too old has a smaller version than what the cache has
(`Write.lt_of_isStale`), and a list of all objects at a revision makes the cache what the store was
then (`History.objects_replace`).
-/

set_option autoImplicit false

namespace BatchOperator

namespace OrderedMap

variable {κ α : Type} [LT κ] [KeyOrder κ] [DecidableEq κ] [DecidableLT κ]

/-- A key that no binding has is left as it is. -/
theorem get?_foldl_insert_of_forall_ne {bindings : List (κ × α)} {m : OrderedMap κ α} {key : κ}
    (h : ∀ binding ∈ bindings, binding.1 ≠ key) :
    (bindings.foldl (fun m binding => m.insert binding.1 binding.2) m).get? key = m.get? key := by
  induction bindings generalizing m with
  | nil => rfl
  | cons binding rest ih =>
    rw [List.foldl_cons, ih fun other hother => h other (List.mem_cons_of_mem _ hother),
      get?_insert, if_neg (Ne.symm (h binding List.mem_cons_self))]

/-- A binding that is put in is found when all bindings of its key agree. -/
theorem get?_foldl_insert_of_mem {bindings : List (κ × α)} {m : OrderedMap κ α} {key : κ}
    {value : α} (hmem : (key, value) ∈ bindings)
    (h : ∀ binding ∈ bindings, binding.1 = key → binding.2 = value) :
    (bindings.foldl (fun m binding => m.insert binding.1 binding.2) m).get? key = some value := by
  induction bindings generalizing m with
  | nil => cases hmem
  | cons binding rest ih =>
    have hrest := fun other hother => h other (List.mem_cons_of_mem binding hother)
    by_cases hlater : (key, value) ∈ rest
    · exact ih hlater hrest
    · -- The binding is the first one, and no later binding has its key.
      have hfirst : binding = (key, value) := ((List.mem_cons.1 hmem).resolve_right hlater).symm
      have hnone : ∀ other ∈ rest, other.1 ≠ key := by
        intro other hother hkey
        have hsame : other = (key, value) := Prod.ext hkey (hrest other hother hkey)
        exact hlater (hsame ▸ hother)
      rw [List.foldl_cons, get?_foldl_insert_of_forall_ne hnone, hfirst, get?_insert, if_pos rfl]

/-- The map of a list of bindings is the map that has these bindings. -/
theorem ofList_eq {bindings : List (κ × α)} {m : OrderedMap κ α}
    (h : ∀ key value, (key, value) ∈ bindings ↔ m.get? key = some value) : ofList bindings = m := by
  refine ext_get? fun key => ?_
  cases hget : m.get? key with
  | none =>
    refine get?_foldl_insert_of_forall_ne ?_
    rintro ⟨other, value⟩ hmem rfl
    cases hget.symm.trans ((h _ _).1 hmem)
  | some value =>
    refine get?_foldl_insert_of_mem ((h key value).2 hget) ?_
    rintro ⟨other, found⟩ hmem rfl
    exact Option.some.inj (((h _ _).1 hmem).symm.trans hget)

end OrderedMap

/-! ## Writes -/

/-- A write to a store: an object was put under its key, or what was there was deleted. -/
structure Write (K : Type) [Resource K] where
  version : Nat
  key : ObjectKey
  /-- The object as it was put, or as the store tells of it when it is deleted. -/
  object : K
  isDeletion : Bool := false
  keyed : Resource.key object = .ok key
  /-- The object carries the version, and a version that fits a machine word can be read. -/
  carries : (Resource.metadata object).version? =
    if version < Text.wordLimit then some version else none

namespace Write

variable {K : Type} [Resource K]

/-- What a watch tells of a write. -/
def event (w : Write K) : WatchEvent K :=
  if w.isDeletion then .deleted w.object else .applied w.object

/-- What a write leaves under its key. -/
def left? (w : Write K) : Option K := if w.isDeletion then none else some w.object

/-- The objects after a write. -/
def on (w : Write K) (objects : OrderedMap ObjectKey K) : OrderedMap ObjectKey K :=
  if w.isDeletion then objects.erase w.key else objects.insert w.key w.object

/-- The objects after some writes, the first one first. -/
def contents (writes : List (Write K)) : OrderedMap ObjectKey K :=
  writes.foldl (fun objects w => w.on objects) .empty

@[simp] theorem get?_on (w : Write K) (objects : OrderedMap ObjectKey K) (key : ObjectKey) :
    (w.on objects).get? key = if key = w.key then w.left? else objects.get? key := by
  unfold on left?
  split
  · exact OrderedMap.get?_erase objects w.key key
  · exact OrderedMap.get?_insert objects w.key key w.object

/-- What a write leaves is the object that it put. -/
theorem of_left?_eq_some {w : Write K} {object : K} (hleft : w.left? = some object) :
    w.isDeletion = false ∧ w.object = object := by
  unfold left? at hleft
  split at hleft
  · cases hleft
  · rename_i hdeletion
    exact ⟨by simpa using hdeletion, Option.some.inj hleft⟩

theorem contents_concat (writes : List (Write K)) (w : Write K) :
    contents (writes ++ [w]) = w.on (contents writes) := by
  simp [contents]

/-- A version that can be read is that of the write. -/
theorem eq_of_version? {w : Write K} {version : Nat}
    (h : (Resource.metadata w.object).version? = some version) : version = w.version := by
  rw [w.carries] at h
  split at h
  · exact (Option.some.inj h).symm
  · cases h

/-- A cache passes over the object of a write only if it has an object of the same key with a larger
version. -/
theorem lt_of_isStale {w : Write K} {c : Cache K} (h : c.isStale w.object = true) :
    ∃ cached version, c.get? w.key = some cached ∧
      (Resource.metadata cached).version? = some version ∧ w.version < version := by
  unfold Cache.isStale at h
  rw [w.keyed] at h
  dsimp only at h
  split at h
  · cases h
  · rename_i cached hcached
    split at h
    · rename_i version incoming hversion hincoming
      rw [decide_eq_true_eq, eq_of_version? hincoming] at h
      exact ⟨cached, version, hcached, hversion, h⟩
    · cases h

/-- A cache passes over the object of a write if it has that of a later write, and the versions fit a
machine word. -/
theorem isStale_of_lt {w later : Write K} {c : Cache K} (hget : c.get? w.key = some later.object)
    (hlt : w.version < later.version) (hword : later.version < Text.wordLimit) :
    c.isStale w.object = true := by
  unfold Cache.isStale
  rw [w.keyed]
  dsimp only
  rw [hget]
  dsimp only
  rw [later.carries, if_pos hword, w.carries, if_pos (Nat.lt_trans hlt hword)]
  exact decide_eq_true hlt

/-- What a watch tells of a write is passed over, or does to the cache what the write did to the
store. -/
theorem objects_watch (w : Write K) (c : Cache K) :
    (c.watch w.event).2.objects = if c.isStale w.object then c.objects else w.on c.objects := by
  unfold event on
  split
  · simp only [Cache.watch, Cache.remove, w.keyed, Cache.taken]
    split <;> rfl
  · simp only [Cache.watch, Cache.apply, w.keyed, Cache.taken]
    split <;> rfl

/-- What a watch tells of a write makes no difference under other keys. -/
theorem get?_watch_of_ne (w : Write K) (c : Cache K) {key : ObjectKey} (hne : key ≠ w.key) :
    (c.watch w.event).2.get? key = c.get? key := by
  unfold Cache.get?
  rw [w.objects_watch]
  split
  · rfl
  · rw [get?_on, if_neg hne]

/-- Under its own key it leaves what the write left, unless it is passed over. -/
theorem get?_watch_key (w : Write K) (c : Cache K) :
    (c.watch w.event).2.get? w.key = if c.isStale w.object then c.get? w.key else w.left? := by
  unfold Cache.get?
  rw [w.objects_watch]
  split
  · rfl
  · rw [get?_on, if_pos rfl]

end Write

/-! ## Histories -/

/-- All writes to a store, the first one first; every one gets a larger version than those before. -/
structure History (K : Type) [Resource K] where
  writes : List (Write K)
  increasing : writes.Pairwise fun earlier later => earlier.version < later.version

namespace History

variable {K : Type} [Resource K] {h : History K} {revision : Nat}

/-- What the store has at a revision. -/
def asOf (h : History K) (revision : Nat) : OrderedMap ObjectKey K :=
  Write.contents (h.writes.filter fun w => w.version ≤ revision)

/-- The store has the same at two revisions between which nothing is written. -/
theorem asOf_congr {other : Nat}
    (same : ∀ w ∈ h.writes, w.version ≤ revision ↔ w.version ≤ other) :
    h.asOf revision = h.asOf other := by
  have hfilter : h.writes.filter (fun w => w.version ≤ revision) =
      h.writes.filter fun w => w.version ≤ other :=
    List.filter_congr fun w hw => by simp [same w hw]
  rw [asOf, asOf, hfilter]

/-- A write with the same version as another one is that one. -/
theorem eq_of_version_eq {w other : Write K} (hw : w ∈ h.writes) (hother : other ∈ h.writes)
    (hversion : w.version = other.version) : w = other := by
  obtain ⟨before, after, hsplit⟩ := List.append_of_mem hw
  have hincreasing := h.increasing
  rw [hsplit, List.pairwise_append, List.pairwise_cons] at hincreasing
  obtain ⟨-, ⟨hafter, -⟩, hbefore⟩ := hincreasing
  rw [hsplit, List.mem_append, List.mem_cons] at hother
  rcases hother with hother | rfl | hother
  · exact absurd (hbefore other hother w List.mem_cons_self) (by omega)
  · rfl
  · exact absurd (hafter other hother) (by omega)

/-- The next write after a revision makes of the store what it has at the version of the write. -/
theorem asOf_next {w : Write K} (hw : w ∈ h.writes) (hnew : revision < w.version)
    (hnext : ∀ other ∈ h.writes, revision < other.version → w.version ≤ other.version) :
    h.asOf w.version = w.on (h.asOf revision) := by
  obtain ⟨before, after, hsplit⟩ := List.append_of_mem hw
  have hincreasing := h.increasing
  rw [hsplit, List.pairwise_append, List.pairwise_cons] at hincreasing
  obtain ⟨-, ⟨hafter, -⟩, hbefore⟩ := hincreasing
  -- The writes before this one were told of, those behind it come later.
  have hold : ∀ other ∈ before, other.version ≤ revision := by
    intro other hother
    have hlt := hbefore other hother w List.mem_cons_self
    have hmem : other ∈ h.writes := hsplit ▸ List.mem_append_left _ hother
    exact Nat.le_of_not_lt fun hlate => Nat.not_le_of_lt hlt (hnext other hmem hlate)
  have hthen : h.writes.filter (fun other => other.version ≤ w.version) = before ++ [w] := by
    rw [hsplit, List.filter_append, List.filter_cons_of_pos (by simp),
      List.filter_eq_self.2 fun other hother => by
        simpa using Nat.le_trans (hold other hother) (Nat.le_of_lt hnew),
      List.filter_eq_nil_iff.2 fun other hother => by simpa using hafter other hother]
  have hnow : h.writes.filter (fun other => other.version ≤ revision) = before := by
    rw [hsplit, List.filter_append, List.filter_cons_of_neg (by simpa using hnew),
      List.filter_eq_self.2 fun other hother => by simpa using hold other hother,
      List.filter_eq_nil_iff.2 fun other hother => by
        simpa using Nat.lt_trans hnew (hafter other hother), List.append_nil]
  rw [asOf, asOf, hthen, hnow, Write.contents_concat]

end History

/-- What is found after some writes was put by the last write of its key. -/
theorem Write.of_get?_contents {K : Type} [Resource K] {writes : List (Write K)} {key : ObjectKey}
    {object : K} (hget : (contents writes).get? key = some object) :
    ∃ before w after, writes = before ++ w :: after ∧ w.key = key ∧ w.left? = some object ∧
      ∀ other ∈ after, other.key ≠ key := by
  induction writes using List.reverseRecOn with
  | nil => cases hget
  | append_singleton writes w ih =>
    rw [contents_concat, get?_on] at hget
    by_cases hkey : key = w.key
    · rw [if_pos hkey] at hget
      exact ⟨writes, w, [], rfl, hkey.symm, hget, by simp⟩
    · rw [if_neg hkey] at hget
      obtain ⟨before, found, after, rfl, hfound, hleft, hafter⟩ := ih hget
      refine ⟨before, found, after ++ [w], by simp, hfound, hleft, ?_⟩
      intro other hother
      rcases List.mem_append.1 hother with hother | hother
      · exact hafter other hother
      · rw [List.mem_singleton.1 hother]
        exact Ne.symm hkey

namespace History

variable {K : Type} [Resource K] {h : History K} {revision : Nat}

/-- What the store has under a key at a revision was put there by a write up to that revision, and no
later write up to that revision is about the key. -/
theorem of_get?_asOf {key : ObjectKey} {object : K}
    (hget : (h.asOf revision).get? key = some object) :
    ∃ w ∈ h.writes, w.version ≤ revision ∧ w.key = key ∧ w.isDeletion = false ∧
      w.object = object ∧
      ∀ other ∈ h.writes, other.version ≤ revision → other.key = key →
        other.version ≤ w.version := by
  obtain ⟨before, w, after, hsplit, hkey, hleft, hafter⟩ := Write.of_get?_contents hget
  have hincreasing := h.increasing.filter fun w => decide (w.version ≤ revision)
  rw [hsplit, List.pairwise_append, List.pairwise_cons] at hincreasing
  obtain ⟨-, -, hbefore⟩ := hincreasing
  have hw : w ∈ h.writes.filter fun w => w.version ≤ revision := by
    rw [hsplit]
    exact List.mem_append_right _ List.mem_cons_self
  obtain ⟨hmem, hversion⟩ := List.mem_filter.1 hw
  have hput := Write.of_left?_eq_some hleft
  refine ⟨w, hmem, by simpa using hversion, hkey, hput.1, hput.2, ?_⟩
  intro other hother hold hsame
  have hother' : other ∈ h.writes.filter fun w => w.version ≤ revision :=
    List.mem_filter.2 ⟨hother, by simpa using hold⟩
  rw [hsplit, List.mem_append, List.mem_cons] at hother'
  rcases hother' with hother' | rfl | hother'
  · exact Nat.le_of_lt (hbefore other hother' w List.mem_cons_self)
  · exact Nat.le_refl _
  · exact absurd hsame (hafter other hother')

/-- Objects of the store at a revision are not newer than that. -/
theorem version_le_of_get?_asOf {key : ObjectKey} {object : K}
    (hget : (h.asOf revision).get? key = some object) {version : Nat}
    (hversion : (Resource.metadata object).version? = some version) : version ≤ revision := by
  obtain ⟨w, -, hle, -, -, rfl, -⟩ := of_get?_asOf hget
  rw [Write.eq_of_version? hversion]
  exact hle

/-- A list of all objects that the store has at a revision, in any order. -/
def Lists (h : History K) (revision : Nat) (listed : List K) : Prop :=
  ∀ object, object ∈ listed ↔ ∃ key, (h.asOf revision).get? key = some object

/-- What the store has at a revision, in the order of the keys, is such a list. -/
theorem lists_values (h : History K) (revision : Nat) :
    h.Lists revision (h.asOf revision).values := by
  intro object
  rw [OrderedMap.values, List.mem_map]
  constructor
  · rintro ⟨⟨key, found⟩, hentry, rfl⟩
    exact ⟨key, OrderedMap.mem_entries_iff.1 hentry⟩
  · rintro ⟨key, hget⟩
    exact ⟨(key, object), OrderedMap.mem_entries_iff.2 hget, rfl⟩

/-- A list of all objects makes a cache what the store was. -/
theorem objects_replace {listed : List K} (hlisted : h.Lists revision listed) (c : Cache K) :
    (c.replace listed).2.objects = h.asOf revision := by
  have hkeyed : ∀ {key object}, (h.asOf revision).get? key = some object →
      Resource.key object = .ok key := by
    intro key object hget
    obtain ⟨w, -, -, rfl, -, rfl, -⟩ := of_get?_asOf hget
    exact w.keyed
  refine OrderedMap.ofList_eq fun key object => ?_
  rw [List.mem_filterMap]
  constructor
  · rintro ⟨found, hfound, hpair⟩
    obtain ⟨key', hget⟩ := (hlisted found).1 hfound
    rw [hkeyed hget] at hpair
    cases hpair
    exact hget
  · intro hget
    exact ⟨object, (hlisted object).2 ⟨key, hget⟩, by rw [hkeyed hget]⟩

end History

end BatchOperator
