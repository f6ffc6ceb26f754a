import BatchOperator.Proofs.Cache.Replay
import BatchOperator.Proofs.Reconcile.Triggers

/-!
# The work that follows from a change

What a change of a batch or of a child is told to be work for, without the errors that the router
passes over (`Routing.told_batchKeys`, `Routing.told_childKeys`): a batch that changed, the owner of
a child that changed, and the child itself when it ends. The changes of one mutation are about
different children, so a child is told to have ended at most once, and only when it has
(`Cache.Keyed.count_childStatus_le`, `Cache.Keyed.childStatus_mem_childWork`).
-/

set_option autoImplicit false

namespace BatchOperator

/-- Whether a child that had not ended has ended. -/
def Pod.hasEnded (old new : Pod) : Bool := !old.phase.isTerminal && new.phase.isTerminal

/-- Whether the child of a key ends between two contents of a cache. -/
def Cache.ends (key : ObjectKey) (before after : Cache Pod) : Bool :=
  match before.get? key, after.get? key with
  | some old, some new => old.hasEnded new
  | _, _ => false

theorem Cache.ends_iff {key : ObjectKey} {before after : Cache Pod} :
    Cache.ends key before after = true ↔ ∃ old new, before.get? key = some old ∧
      after.get? key = some new ∧ old.hasEnded new = true := by
  unfold Cache.ends
  cases before.get? key <;> cases after.get? key <;> simp

/-- A pod names its owner in its annotation. -/
theorem Pod.owner?_eq_some {pod : Pod} {batch : ObjectKey} : pod.owner? = some batch ↔
    ∃ text, pod.metadata.annotationMap.get? ownerAnnotation = some text ∧
      ObjectKey.parse text = .ok batch := by
  refine Option.bind_eq_some_iff.trans (exists_congr fun text => and_congr_right fun _ => ?_)
  cases ObjectKey.parse text <;> simp [Except.toOption]

namespace Routing

/-- The work that follows from changes of batches. -/
def batchWork (changes : List (Change JobBatch)) : List WorkKey :=
  changes.flatMap fun change => told (batchKeys change)

/-- The work that follows from changes of children. -/
def childWork (changes : List (Change Pod)) : List WorkKey :=
  changes.flatMap fun change => told (childKeys change)

/-- The child of a change, if the change shows its end. -/
theorem ended?_eq (change : Change Pod) : ended? change =
    match change with
    | .modified old new => if old.hasEnded new then some new else none
    | _ => none := by
  cases change <;> rfl

/-- The work for the child itself. -/
def endWork (change : Change Pod) (key : ObjectKey) : List WorkKey :=
  if (ended? change).isSome then [.childStatus key] else []

/-- The change of a child is work for the child itself when it ends. -/
theorem endWork_modified (old new : Pod) (key : ObjectKey) :
    endWork (.modified old new) key =
      if !old.phase.isTerminal && new.phase.isTerminal then [.childStatus key] else [] := by
  show (if (if old.hasEnded new then some new else none).isSome then [_] else []) =
    if old.hasEnded new then [_] else []
  cases old.hasEnded new <;> rfl

theorem ended?_isSome {change : Change Pod} : (ended? change).isSome = true ↔
    ∃ old new, change = .modified old new ∧ old.hasEnded new = true := by
  rw [ended?_eq]
  cases change <;> simp

/-- The child that has ended is the one that the change is about. -/
theorem eq_object_of_ended? {change : Change Pod} {pod : Pod} (h : ended? change = some pod) :
    pod = change.object := by
  rw [ended?_eq] at h
  cases change with
  | modified old new =>
    simp only [Option.ite_none_right_eq_some, Option.some.injEq] at h
    exact h.2.symm
  | added object | deleted object => cases h

/-- A change of a child that names its owner is work for the owner, and for the child when it
ends. -/
theorem childKeys_of_owner (change : Change Pod) {key batch : ObjectKey}
    (hkey : change.key = .ok key) (hidle : change.isIdle = false)
    (howner : change.object.owner? = some batch) :
    childKeys change = .ok (.batch batch :: endWork change key) := by
  obtain ⟨text, htext, hparse⟩ := Pod.owner?_eq_some.1 howner
  simp only [childKeys, hidle, htext, hparse, Bool.false_eq_true, if_false, endWork]
  cases hended : ended? change with
  | none => rfl
  | some pod =>
    have hpod : Resource.key pod = .ok key := (eq_object_of_ended? hended) ▸ hkey
    simp [bind, Except.bind, pure, Except.pure, hpod]

/-- The work that follows from a change of a child, as far as it can be told. -/
theorem told_childKeys {change : Change Pod} {key : ObjectKey} (hkey : change.key = .ok key) :
    told (childKeys change) =
      if change.isIdle then []
      else match change.object.owner? with
        | none => []
        | some batch => .batch batch :: endWork change key := by
  cases hidle : change.isIdle with
  | true => simp [childKeys, hidle, told]
  | false =>
    cases howner : change.object.owner? with
    | some batch => rw [childKeys_of_owner change hkey hidle howner]; rfl
    | none =>
      -- Without an annotation, and with one that names no batch, nothing can be told.
      simp only [childKeys, hidle, Bool.false_eq_true, if_false]
      cases htext : change.object.metadata.annotationMap.get? ownerAnnotation with
      | none => rfl
      | some text =>
        cases hparse : ObjectKey.parse text with
        | error e => simp [hparse, bind, Except.bind, told]
        | ok batch => cases howner.symm.trans (Pod.owner?_eq_some.2 ⟨text, htext, hparse⟩)

/-- The work that follows from a change of a batch. -/
theorem told_batchKeys {change : Change JobBatch} {key : ObjectKey} (hkey : change.key = .ok key) :
    told (batchKeys change) = if change.isIdle then [] else [.batch key] := by
  have hobject : Resource.key change.object = .ok key := hkey
  cases hidle : change.isIdle with
  | true => simp [batchKeys, hidle, told]
  | false => simp [batchKeys, hidle, told, hobject, Except.map]

theorem mem_endWork {change : Change Pod} {key : ObjectKey} {work : WorkKey} :
    work ∈ endWork change key ↔ work = .childStatus key ∧ (ended? change).isSome = true := by
  unfold endWork
  split <;> simp_all

/-- What is told to have ended is what the change is about. -/
theorem childStatus_mem_told {change : Change Pod} {key found : ObjectKey}
    (hfound : change.key = .ok found) :
    .childStatus key ∈ told (childKeys change) ↔ found = key ∧ (ended? change).isSome = true ∧
      ∃ batch, change.object.owner? = some batch := by
  rw [told_childKeys hfound]
  split
  · rename_i hidle
    -- What is as it was has not ended.
    refine iff_of_false List.not_mem_nil ?_
    rintro ⟨-, hended, -⟩
    obtain ⟨old, new, rfl, hends⟩ := ended?_isSome.1 hended
    obtain rfl : old = new := by simpa [Change.isIdle] using hidle
    simp [Pod.hasEnded] at hends
  · split
    · rename_i hnone
      simp [hnone]
    · rename_i batch hbatch
      rw [List.mem_cons, mem_endWork, WorkKey.childStatus.injEq, @eq_comm _ key found]
      simp [hbatch]

/-- A change is work for a child at most once. -/
theorem count_told_le {change : Change Pod} {found : ObjectKey} (hfound : change.key = .ok found)
    (key : ObjectKey) : (told (childKeys change)).count (.childStatus key) ≤ 1 := by
  rw [told_childKeys hfound]
  split
  · exact Nat.zero_le 1
  · split
    · exact Nat.zero_le 1
    · have hne : ∀ batch : ObjectKey, WorkKey.batch batch ≠ .childStatus key := by
        rintro batch ⟨⟩
      rw [List.count_cons_of_ne (hne _), endWork]
      split
      · exact List.count_le_length
      · exact Nat.zero_le 1

/-- Changes about different children are work for a child at most once. -/
theorem count_childWork_le {changes : List (Change Pod)} (hnodup : (changes.map Change.key).Nodup)
    (hkeys : ∀ change ∈ changes, ∃ found, change.key = .ok found) (key : ObjectKey) :
    (childWork changes).count (.childStatus key) ≤ 1 := by
  induction changes with
  | nil => exact Nat.zero_le 1
  | cons change rest ih =>
    obtain ⟨hfirst, hrest⟩ := List.nodup_cons.1 hnodup
    obtain ⟨found, hfound⟩ := hkeys change List.mem_cons_self
    have hlater := fun other hother => hkeys other (List.mem_cons_of_mem change hother)
    rw [childWork, List.flatMap_cons, List.count_append]
    by_cases hmem : .childStatus key ∈ told (childKeys change)
    · -- No other change is about the same child.
      have hnone : .childStatus key ∉ childWork rest := by
        intro hwork
        obtain ⟨other, hother, hend⟩ := List.mem_flatMap.1 hwork
        obtain ⟨found', hfound'⟩ := hlater other hother
        obtain rfl := ((childStatus_mem_told hfound).1 hmem).1
        obtain rfl := ((childStatus_mem_told hfound').1 hend).1
        exact hfirst (List.mem_map.2 ⟨other, hother, hfound'.trans hfound.symm⟩)
      have hzero : (childWork rest).count (.childStatus key) = 0 := List.count_eq_zero.2 hnone
      exact Nat.add_le_add (count_told_le hfound key) (Nat.le_of_eq hzero)
    · rw [List.count_eq_zero.2 hmem, Nat.zero_add]
      exact ih hrest hlater

end Routing

namespace Cache

variable {c : Cache Pod} {mutation : Mutation Pod} {changes : List (Change Pod)} {key : ObjectKey}

/-- A child that is work after a mutation has ended in it. -/
theorem Keyed.ends_of_mem_childWork (h : c.Keyed) (order : changes.Perm (c.mutate mutation).1)
    (hwork : .childStatus key ∈ Routing.childWork changes) :
    Cache.ends key c (c.mutate mutation).2 = true := by
  obtain ⟨change, hchange, hend⟩ := List.mem_flatMap.1 hwork
  obtain ⟨found, hfound, hsaid⟩ := h.tells_of_mem_mutate (order.mem_iff.1 hchange)
  obtain ⟨rfl, hended, -⟩ := (Routing.childStatus_mem_told hfound).1 hend
  obtain ⟨old, new, rfl, hends⟩ := Routing.ended?_isSome.1 hended
  exact Cache.ends_iff.2 ⟨old, new, hsaid.1, hsaid.2, hends⟩

/-- A mutation is work for a child at most once, and only if the child ends in it. -/
theorem Keyed.count_childStatus_le (h : c.Keyed) (order : changes.Perm (c.mutate mutation).1) :
    (Routing.childWork changes).count (.childStatus key) ≤
      (Cache.ends key c (c.mutate mutation).2).toNat := by
  by_cases hwork : .childStatus key ∈ Routing.childWork changes
  · rw [h.ends_of_mem_childWork order hwork]
    have hnodup : (changes.map Change.key).Nodup :=
      (order.map Change.key).nodup_iff.2 (h.nodup_keys_mutate mutation)
    refine Routing.count_childWork_le hnodup ?_ key
    intro change hchange
    obtain ⟨found, hfound, -⟩ := h.tells_of_mem_mutate (order.mem_iff.1 hchange)
    exact ⟨found, hfound⟩
  · rw [List.count_eq_zero.2 hwork]
    exact Nat.zero_le _

/-- A child that ends in a mutation, and then names its owner, is work. -/
theorem Keyed.childStatus_mem_childWork (h : c.Keyed) (order : changes.Perm (c.mutate mutation).1)
    (hends : Cache.ends key c (c.mutate mutation).2 = true) {pod : Pod} {batch : ObjectKey}
    (hpod : (c.mutate mutation).2.get? key = some pod) (howner : pod.owner? = some batch) :
    .childStatus key ∈ Routing.childWork changes := by
  obtain ⟨old, new, hold, hnew, hended⟩ := Cache.ends_iff.1 hends
  obtain rfl := Option.some.inj (hpod.symm.trans hnew)
  have hne : c.get? key ≠ (c.mutate mutation).2.get? key := by
    rw [hold, hnew]
    rintro ⟨⟩
    simp [Pod.hasEnded] at hended
  obtain ⟨change, hchange, hobject⟩ := h.exists_change_of_get?_ne hne
  have hkey : change.key = .ok key := hobject
  obtain ⟨found, hfound, hsaid⟩ := h.tells_of_mem_mutate hchange
  cases hfound.symm.trans hobject
  -- The child was there and is there, so the change can only be a modification.
  have hchanged : change = .modified old pod := by
    cases change with
    | added object => cases hsaid.1.symm.trans hold
    | deleted object => cases hsaid.symm.trans hnew
    | modified old' new' =>
      cases hsaid.1.symm.trans hold
      cases hsaid.2.symm.trans hnew
      rfl
  subst hchanged
  refine List.mem_flatMap.2 ⟨_, order.mem_iff.2 hchange, ?_⟩
  exact (Routing.childStatus_mem_told hkey).2
    ⟨rfl, Routing.ended?_isSome.2 ⟨old, pod, rfl, hended⟩, batch, howner⟩

end Cache

end BatchOperator
