import BatchOperator.Proofs.Cache.Listing

/-!
# The changes of a cache as a log

Whoever only sees the changes of a cache can keep its contents. The objects that are left when the
changes are replayed over nothing are, after every call, those that the cache has, in whatever order
a list of all objects reports its changes (`Cache.faithful_of_logged`). The changes of one mutation
are about different keys, so the place of a change among them makes no difference to what is found
under its key when it comes (`Cache.Keyed.fits_of_perm_mutate`).
-/

set_option autoImplicit false

namespace BatchOperator

namespace Change

variable {K : Type} [Resource K]

/-- What a change leaves under its key. -/
def left? : Change K → Option K
  | .added object | .modified _ object => some object
  | .deleted _ => none

/-- The objects after a change that was made: what has come is put under its key, and what has gone
is taken out. -/
def replay (objects : OrderedMap ObjectKey K) (change : Change K) : OrderedMap ObjectKey K :=
  match change.key with
  | .error _ => objects
  | .ok key =>
    match change.left? with
    | some object => objects.insert key object
    | none => objects.erase key

/-- The objects that are left by some changes, the first one first. -/
def replayed (log : List (Change K)) : OrderedMap ObjectKey K := log.foldl replay .empty

/-- A change is right about what was there before it: nothing, if something is added, and what is
said to have been there, if it is modified. -/
def Fits (objects : OrderedMap ObjectKey K) (change : Change K) : Prop :=
  ∃ key, change.key = .ok key ∧
    match change with
    | .added _ => objects.get? key = none
    | .modified old _ => objects.get? key = some old
    | .deleted _ => True

variable {objects : OrderedMap ObjectKey K} {change : Change K} {key : ObjectKey}

/-- A change makes a difference under its own key only. -/
theorem get?_replay (hkey : change.key = .ok key) (other : ObjectKey) :
    (replay objects change).get? other =
      if other = key then change.left? else objects.get? other := by
  simp only [replay, hkey]
  cases change.left? with
  | some object => exact OrderedMap.get?_insert objects key other object
  | none => exact OrderedMap.get?_erase objects key other

/-- A key that no change is about is left as it is. -/
theorem get?_foldl_replay_of_forall_ne {changes : List (Change K)}
    (h : ∀ change ∈ changes, change.key ≠ .ok key) :
    (changes.foldl replay objects).get? key = objects.get? key := by
  induction changes generalizing objects with
  | nil => rfl
  | cons change rest ih =>
    rw [List.foldl_cons, ih fun later hlater => h later (List.mem_cons_of_mem _ hlater)]
    have hne := h change List.mem_cons_self
    cases hchange : change.key with
    | error e => simp only [replay, hchange]
    | ok found =>
      rw [get?_replay hchange, if_neg]
      rintro rfl
      exact hne hchange

/-- Of changes about different keys the only one about a key decides what is left under it. -/
theorem get?_foldl_replay_of_mem {changes : List (Change K)}
    (hnodup : (changes.map Change.key).Nodup) (hmem : change ∈ changes)
    (hkey : change.key = .ok key) :
    (changes.foldl replay objects).get? key = change.left? := by
  induction changes generalizing objects with
  | nil => cases hmem
  | cons first rest ih =>
    obtain ⟨hfirst, hrest⟩ := List.nodup_cons.1 hnodup
    rw [List.foldl_cons]
    rcases List.mem_cons.1 hmem with rfl | hlater
    · -- No later change is about the same key.
      rw [get?_foldl_replay_of_forall_ne, get?_replay hkey, if_pos rfl]
      intro later hlater hsame
      exact hfirst (List.mem_map.2 ⟨later, hlater, hsame.trans hkey.symm⟩)
    · exact ih hrest hlater

end Change

namespace Cache

variable {K : Type} [Resource K] {c c' : Cache K}

/-- What a change leaves under its key is what the cache has there. -/
theorem Tells.get?_eq_left? {change : Change K} {key : ObjectKey} (h : c.Tells c' change)
    (hkey : change.key = .ok key) : c'.get? key = change.left? := by
  obtain ⟨found, hfound, hsaid⟩ := h
  cases hfound.symm.trans hkey
  cases change with
  | added object => exact hsaid.2
  | modified old new => exact hsaid.2
  | deleted object => exact hsaid

/-- A change is right about what the cache had. -/
theorem Tells.fits {change : Change K} {objects : OrderedMap ObjectKey K} (h : c.Tells c' change)
    (same : ∀ key, change.key = .ok key → objects.get? key = c.get? key) :
    change.Fits objects := by
  obtain ⟨key, hkey, hsaid⟩ := h
  refine ⟨key, hkey, ?_⟩
  cases change with
  | added object => exact (same key hkey).trans hsaid.1
  | modified old new => exact (same key hkey).trans hsaid.1
  | deleted object => trivial

/-! ## One mutation -/

/-- Whatever is done to a cache, every object stays under its own key. -/
theorem Keyed.mutate (h : c.Keyed) (mutation : Mutation K) : (c.mutate mutation).2.Keyed := by
  cases mutation with
  | apply object =>
    cases happly : c.apply object with
    | error e => simpa only [Cache.mutate, happly, taken] using h
    | ok answer =>
      simp only [Cache.mutate, happly, taken]
      exact h.apply happly
  | remove object =>
    cases hkey : Resource.key object with
    | error e => simpa only [Cache.mutate, Cache.remove, hkey, taken] using h
    | ok key =>
      simp only [Cache.mutate, Cache.remove, hkey, taken]
      exact h.erase key
  | replace listed => exact c.keyed_replace listed

section Reported

variable {mutation : Mutation K} {changes : List (Change K)}

/-- Replayed over the contents before a mutation, its changes come to the contents afterwards, in
any order. -/
theorem Keyed.foldl_replay_mutate (h : c.Keyed) (order : changes.Perm (c.mutate mutation).1) :
    changes.foldl Change.replay c.objects = (c.mutate mutation).2.objects := by
  have hnodup : (changes.map Change.key).Nodup :=
    (order.map Change.key).nodup_iff.2 (h.nodup_keys_mutate mutation)
  refine OrderedMap.ext_get? fun key => ?_
  by_cases hchanged : ∃ change ∈ changes, change.key = .ok key
  · obtain ⟨change, hchange, hkey⟩ := hchanged
    have htells := h.tells_of_mem_mutate (order.mem_iff.1 hchange)
    rw [Change.get?_foldl_replay_of_mem hnodup hchange hkey]
    exact (htells.get?_eq_left? hkey).symm
  · -- Where nothing is reported nothing is different.
    rw [Change.get?_foldl_replay_of_forall_ne fun change hchange hkey =>
      hchanged ⟨change, hchange, hkey⟩]
    apply Classical.byContradiction
    intro hne
    obtain ⟨change, hchange, hkey⟩ := h.exists_change_of_get?_ne hne
    exact hchanged ⟨change, order.mem_iff.2 hchange, hkey⟩

/-- A change that a mutation reports is right about what is left by the changes that were reported
before it, in any order. -/
theorem Keyed.fits_of_perm_mutate (h : c.Keyed) {before after : List (Change K)}
    {change : Change K} (order : (before ++ change :: after).Perm (c.mutate mutation).1) :
    change.Fits (before.foldl Change.replay c.objects) := by
  have hmem : change ∈ (c.mutate mutation).1 :=
    order.mem_iff.1 (List.mem_append_right _ List.mem_cons_self)
  refine (h.tells_of_mem_mutate hmem).fits fun key hkey => ?_
  -- The changes before it are about other keys.
  have hnodup := (order.map Change.key).nodup_iff.2 (h.nodup_keys_mutate mutation)
  rw [List.map_append, List.map_cons] at hnodup
  apply Change.get?_foldl_replay_of_forall_ne
  intro earlier hearlier hsame
  have hapart := (List.nodup_append.1 hnodup).2.2
  exact hapart earlier.key (List.mem_map_of_mem hearlier) change.key List.mem_cons_self
    (hsame.trans hkey.symm)

end Reported

/-! ## All mutations -/

/-- A log of a cache: all changes that were reported since it was empty, call by call, those of one
call in any order. -/
inductive Logged : List (Change K) → Cache K → Prop
  | fresh : Logged [] {}
  | call {log : List (Change K)} {c : Cache K} (h : Logged log c) (mutation : Mutation K)
      {changes : List (Change K)} (order : changes.Perm (c.mutate mutation).1) :
      Logged (log ++ changes) (c.mutate mutation).2

/-- A log says all about a cache, and nothing that is wrong. -/
structure Faithful (log : List (Change K)) (c : Cache K) : Prop where
  /-- What the log leaves is what the cache has. -/
  replayed : Change.replayed log = c.objects
  /-- An object is kept under its own namespace and its own name, which is not empty. -/
  placed : ∀ key object, c.get? key = some object →
    (Resource.metadata object).ns.getD "" = key.ns ∧
      (Resource.metadata object).name = some key.name ∧ key.name ≠ ""
  /-- Something is only said to be added where nothing was left before. -/
  added : ∀ before object after, log = before ++ .added object :: after →
    ∃ key, Resource.key object = .ok key ∧ (Change.replayed before).get? key = none
  /-- What is said to be modified is what was left before. -/
  modified : ∀ before old new after, log = before ++ .modified old new :: after →
    ∃ key, Resource.key new = .ok key ∧ (Change.replayed before).get? key = some old
  /-- A list of all objects is reported as one change of every key that is cached or listed. -/
  relisted : ∀ listed : List K, ∃ keys : List ObjectKey,
    (c.replace listed).1.map Change.key = keys.map .ok ∧ keys.Nodup ∧
      ∀ key, key ∈ keys ↔
        (c.get? key).isSome = true ∨ ∃ object ∈ listed, Resource.key object = .ok key
  /-- An object without a name is refused, and a list is taken in as if it were not in it. -/
  nameless : ∀ object : K, Resource.Nameless object →
    c.mutate (.apply object) = ([], c) ∧ c.mutate (.remove object) = ([], c) ∧
      ∀ before after, c.replace (before ++ object :: after) = c.replace (before ++ after)

namespace Logged

variable {log : List (Change K)}

theorem keyed (h : Logged log c) : c.Keyed := by
  induction h with
  | fresh => exact keyed_empty false
  | call h mutation order ih => exact ih.mutate mutation

theorem replayed (h : Logged log c) : Change.replayed log = c.objects := by
  induction h with
  | fresh => rfl
  | call h mutation order ih =>
    rw [Change.replayed, List.foldl_append]
    show List.foldl Change.replay (Change.replayed _) _ = _
    rw [ih]
    exact h.keyed.foldl_replay_mutate order

/-- Every change of a log is right about what the changes before it have left. -/
theorem fits (h : Logged log c) {before after : List (Change K)} {change : Change K}
    (hlog : log = before ++ change :: after) : change.Fits (Change.replayed before) := by
  induction h generalizing after with
  | fresh => simp at hlog
  | @call log c h mutation changes order ih =>
    rcases List.append_eq_append_iff.1 hlog with ⟨rest, hbefore, hchanges⟩ | ⟨rest, hlog', hrest⟩
    · -- The change is one of the last call.
      rw [hchanges] at order
      rw [hbefore, Change.replayed, List.foldl_append]
      show change.Fits (List.foldl Change.replay (Change.replayed log) rest)
      rw [h.replayed]
      exact h.keyed.fits_of_perm_mutate order
    · cases rest with
      | nil =>
        -- It is the first one of the last call.
        rw [List.append_nil] at hlog'
        rw [List.nil_append] at hrest
        rw [← hrest] at order
        have horder : ([] ++ change :: after).Perm (c.mutate mutation).1 := order
        rw [← hlog', h.replayed]
        exact h.keyed.fits_of_perm_mutate horder
      | cons first rest =>
        -- It was there before the last call.
        obtain ⟨rfl, -⟩ := List.cons_eq_cons.1 hrest
        exact ih hlog'

end Logged

/-- All changes that a cache reports since it was empty are a faithful log of it, after every
call. -/
theorem faithful_of_logged {log : List (Change K)} (h : Logged log c) : Faithful log c := by
  refine ⟨h.replayed, ?_, ?_, ?_, h.keyed.exists_keys_replace, ?_⟩
  · intro key object hget
    have hkey := h.keyed key object hget
    obtain ⟨hname, hns⟩ := Metadata.of_key hkey
    exact ⟨hns, hname, Resource.name_ne_of_key hkey⟩
  · intro before object after hlog
    exact h.fits hlog
  · intro before old new after hlog
    exact h.fits hlog
  · intro object hnameless
    obtain ⟨happly, hremove⟩ := c.mutate_nameless hnameless
    exact ⟨happly, hremove, c.replace_append_nameless hnameless⟩

section Example

/-- A pod of some version, with or without a name. -/
def versioned (name : Option String) (version : String) : Pod :=
  { metadata := { name, ns := some "n", resourceVersion := some version } }

/-- A list that has one pod twice, and a pod without a name. -/
def relisting : Mutation Pod :=
  .replace [versioned (some "a") "2", versioned none "1", versioned (some "b") "1",
    versioned (some "a") "3"]

/-- The cache after a pod has come and the list has been taken in. -/
def relisted : Cache Pod :=
  ((({} : Cache Pod).mutate (.apply (versioned (some "a") "1"))).2.mutate relisting).2

/-- The log of this cache, with the changes of the list in the order of the list. -/
def relistedLog : List (Change Pod) :=
  [.added (versioned (some "a") "1"), .added (versioned (some "b") "1"),
    .modified (versioned (some "a") "1") (versioned (some "a") "3")]

/-- The log is faithful although the list is reported in another order than that of its keys. -/
theorem faithful_relisted : Logged relistedLog relisted ∧ Faithful relistedLog relisted := by
  have hlogged : Logged relistedLog relisted := by
    have hcame : Logged [.added (versioned (some "a") "1")]
        (({} : Cache Pod).mutate (.apply (versioned (some "a") "1"))).2 :=
      Logged.fresh.call _ (.refl _)
    have hreported : ((({} : Cache Pod).mutate (.apply (versioned (some "a") "1"))).2.mutate
        relisting).1 = [.modified (versioned (some "a") "1") (versioned (some "a") "3"),
          .added (versioned (some "b") "1")] := by
      decide +kernel
    have hrelisted := hcame.call relisting (List.reverse_perm _)
    rw [hreported] at hrelisted
    exact hrelisted
  exact ⟨hlogged, faithful_of_logged hlogged⟩

end Example

end Cache

end BatchOperator
