import BatchOperator.Proofs.Reconcile.Asked

/-!
# Cleaning up after a batch

A pass over a batch that is gone removes the pods that carry its name, in the order of their names,
and the first removal that fails ends it (`Stage.Path.purged`). It ends well only when all of them
have succeeded. Passes that are made again and again ask for the removal of every pod that comes
before those whose removal keeps failing (`Caches.cleaned_up`), but of none that comes behind one
(`shielded_by_undeletable`).
-/

set_option autoImplicit false

namespace BatchOperator

namespace Caches

variable {c : Caches} {key k : ObjectKey}

/-- A pod that carries the name of a batch is cached under a key. -/
def Carries (c : Caches) (batch key : ObjectKey) : Prop := ∃ child, c.HasChild batch key child

/-- The keys under which a pass removes the pods that carry the name of a batch. -/
def purgeKeys (c : Caches) (batch : ObjectKey) : List ObjectKey :=
  (c.childrenOf batch).map fun child => ⟨batch.ns, child.name⟩

/-- A pod is removed under the key that it is kept under. -/
theorem HasChild.purgeKey_eq {child : Pod} (h : c.HasChild key k child)
    (keyed : c.children.Keyed) : (⟨key.ns, child.name⟩ : ObjectKey) = k := by
  rw [← h.2.1]
  exact congrArg (ObjectKey.mk k.ns) (Metadata.anyName_of_key (keyed k child h.1))

/-- All pods are removed that carry the name of the batch. -/
theorem mem_purgeKeys (keyed : c.children.Keyed) : k ∈ c.purgeKeys key ↔ c.Carries key k := by
  rw [purgeKeys, List.mem_map]
  constructor
  · rintro ⟨child, hchild, rfl⟩
    obtain ⟨k, hk⟩ := mem_childrenOf.1 hchild
    exact ⟨child, hk.purgeKey_eq keyed ▸ hk⟩
  · rintro ⟨child, hchild⟩
    exact ⟨child, mem_childrenOf.2 ⟨k, hchild⟩, hchild.purgeKey_eq keyed⟩

/-- They are removed in the order of their keys. -/
theorem pairwise_purgeKeys (keyed : c.children.Keyed) :
    (c.purgeKeys key).Pairwise (· < ·) := by
  rw [purgeKeys, List.pairwise_map]
  refine Cache.pairwise_list_of_lt fun k k' a b ha hb hns hns' hsel hsel' hlt => ?_
  have hchild : c.HasChild key k a := ⟨ha, hns, selects_batchName.1 hsel⟩
  have hchild' : c.HasChild key k' b := ⟨hb, hns', selects_batchName.1 hsel'⟩
  rwa [hchild.purgeKey_eq keyed, hchild'.purgeKey_eq keyed]

end Caches

variable {σ : Type} {env : Surroundings σ} {timeout : Duration}

/-! ## One pass -/

/-- A pass over a batch that is gone begins to remove its pods. -/
theorem Stage.ofKey_eq_purge {c : Caches} {key : ObjectKey}
    (gone : c.batches.get? key = none) : ofKey c (.batch key) = purge (c.purgeKeys key) := by
  simp only [ofKey, Decision.make, gone, ofDecision, Caches.purgeKeys]

/-- A turn that removes a pod asks for just that. -/
theorem Turn.calls_purging (env : Surroundings σ) (timeout : Duration) (now : Instant) (s : σ)
    (next : ObjectKey) (others : List ObjectKey) :
    Turn.calls env timeout ⟨now, .purging next others, s⟩ =
      [.deleted next (env.deleteChild next s).1] := by
  simp only [calls, Stage.step, Surroundings.recorded, Recorded.after]
  split <;> rfl

/-- What a pass that removes pods comes to: all removals succeed, or one of them fails, after all
before it have succeeded, and none behind it is asked for. -/
theorem Stage.Path.purged {keys : List ObjectKey} (sorted : keys.Pairwise (· < ·))
    {turns : List (Turn σ)} {result : Except Error Unit}
    (h : Path env timeout (purge keys) turns (.finished result)) :
    (result = .ok () ∧
        ∀ k ∈ keys, .deleted k (.ok ()) ∈ Turn.allCalls env timeout turns) ∨
      ∃ stuck ∈ keys, ∃ e, result = .error e ∧
        .deleted stuck (.error e) ∈ Turn.allCalls env timeout turns ∧
        (∀ k ∈ keys, k < stuck → .deleted k (.ok ()) ∈ Turn.allCalls env timeout turns) ∧
        ∀ k answer, .deleted k answer ∈ Turn.allCalls env timeout turns →
          k < stuck ∨ k = stuck := by
  induction keys generalizing turns with
  | nil =>
    obtain ⟨hlast, -⟩ := h.of_finished
    exact .inl ⟨Stage.finished.inj hlast, nofun⟩
  | cons next others ih =>
    obtain ⟨hbehind, hsorted⟩ := List.pairwise_cons.1 sorted
    cases h with
    | @turn now s _ _ turns h =>
      have hcalls := Turn.calls_purging env timeout now s next others
      rw [purge, Turn.allCalls_cons, hcalls]
      rcases hcall : env.deleteChild next s with ⟨e | ⟨⟩, s'⟩
      · -- The pass ends with the failure.
        simp only [purge, step, hcall] at h
        obtain ⟨hlast, hrest⟩ := h.of_finished
        rw [hrest, List.append_nil]
        refine .inr ⟨next, List.mem_cons_self, e, Stage.finished.inj hlast,
          List.mem_singleton_self _, ?_, ?_⟩
        · intro k hk hlt
          rcases List.mem_cons.1 hk with rfl | hk
          · exact absurd hlt (KeyOrder.irrefl k)
          · exact absurd (KeyOrder.trans hlt (hbehind k hk)) (KeyOrder.irrefl k)
        · intro k answer hmem
          cases List.mem_singleton.1 hmem
          exact .inr rfl
      · simp only [purge, step, hcall] at h
        rw [List.singleton_append]
        rcases ih hsorted h with ⟨hok, hdone⟩ | ⟨stuck, hstuck, e, herror, hfails, hdone, hlast⟩
        · refine .inl ⟨hok, fun k hk => ?_⟩
          rcases List.mem_cons.1 hk with rfl | hk
          · exact List.mem_cons_self
          · exact List.mem_cons_of_mem _ (hdone k hk)
        · refine .inr ⟨stuck, List.mem_cons_of_mem _ hstuck, e, herror,
            List.mem_cons_of_mem _ hfails, fun k hk hlt => ?_, fun k answer hmem => ?_⟩
          · rcases List.mem_cons.1 hk with rfl | hk
            · exact List.mem_cons_self
            · exact List.mem_cons_of_mem _ (hdone k hk hlt)
          · rcases List.mem_cons.1 hmem with hmem | hmem
            · cases hmem
              exact .inl (hbehind stuck hstuck)
            · exact hlast k answer hmem

/-- What a pass over a batch that is gone comes to: all removals succeed, or one of them fails,
after all before it have succeeded, and none behind it is asked for. -/
theorem Stage.Path.cleaned {c : Caches} {key : ObjectKey} (gone : c.batches.get? key = none)
    (keyed : c.children.Keyed) {turns : List (Turn σ)} {result : Except Error Unit}
    (h : Path env timeout (ofKey c (.batch key)) turns (.finished result)) :
    (result = .ok () ∧
        ∀ k, c.Carries key k → .deleted k (.ok ()) ∈ Turn.allCalls env timeout turns) ∨
      ∃ stuck, c.Carries key stuck ∧ ∃ e, result = .error e ∧
        .deleted stuck (.error e) ∈ Turn.allCalls env timeout turns ∧
        (∀ k, c.Carries key k → k < stuck →
          .deleted k (.ok ()) ∈ Turn.allCalls env timeout turns) ∧
        ∀ k answer, .deleted k answer ∈ Turn.allCalls env timeout turns →
          k < stuck ∨ k = stuck := by
  rw [ofKey_eq_purge gone] at h
  simpa only [Caches.mem_purgeKeys keyed] using h.purged (Caches.pairwise_purgeKeys keyed)

/-! ## Pass after pass -/

/-- A number of passes over a batch that is gone, with their calls. Whatever happens between two of
them, no other pod comes to carry the name of the batch, and a pod stays cached until its removal
has been asked for. -/
inductive Caches.Cleanups (env : Surroundings σ) (timeout : Duration) (key : ObjectKey)
    (start : Caches) : Nat → List Call → Caches → Prop where
  | none : Cleanups env timeout key start 0 [] start
  | pass {n : Nat} {calls : List Call} {c c' : Caches} {turns : List (Turn σ)}
      {result : Except Error Unit} (h : Cleanups env timeout key start n calls c)
      (gone : c.batches.get? key = none) (keyed : c.children.Keyed)
      (hpass : Stage.Path env timeout (.ofKey c (.batch key)) turns (.finished result))
      (fewer : ∀ k, c'.Carries key k → c.Carries key k)
      (stays : ∀ k, c.Carries key k → c'.Carries key k ∨
        ∃ answer, .deleted k answer ∈ Turn.allCalls env timeout turns) :
      Cleanups env timeout key start (n + 1) (calls ++ Turn.allCalls env timeout turns) c'

/-- A call is a removal of a pod of some kind, and it fails. -/
def Call.isRefusedFor (P : ObjectKey → Bool) : Call → Bool
  | .deleted k (.error _) => P k
  | _ => false

/-- As long as the removal of a pod has not been asked for, the pod is cached, and with every pass a
removal of a pod has failed that does not keep failing, if those that do come behind. -/
theorem Caches.Cleanups.requested_or_refused {key : ObjectKey} {start c : Caches} {n : Nat}
    {calls : List Call} (h : Cleanups env timeout key start n calls c) {stubborn : ObjectKey → Bool}
    {k : ObjectKey} (hcarries : start.Carries key k)
    (hbefore : ∀ k', start.Carries key k' → stubborn k' = true → k < k') :
    (∀ k', c.Carries key k' → start.Carries key k') ∧
      ((∃ answer, .deleted k answer ∈ calls) ∨
        c.Carries key k ∧ n ≤ calls.countP (Call.isRefusedFor fun k => !stubborn k)) := by
  induction h with
  | none => exact ⟨fun _ h => h, .inr ⟨hcarries, Nat.le_refl 0⟩⟩
  | @pass n calls c c' turns result h gone keyed hpass fewer stays ih =>
    obtain ⟨hsome, hasked⟩ := ih
    refine ⟨fun k' hk' => hsome k' (fewer k' hk'), ?_⟩
    rcases hasked with ⟨answer, hmem⟩ | ⟨hthere, hcount⟩
    · exact .inl ⟨answer, List.mem_append_left _ hmem⟩
    · have hnow : ∀ {answer}, .deleted k answer ∈ Turn.allCalls env timeout turns →
          ∃ answer, .deleted k answer ∈ calls ++ Turn.allCalls env timeout turns :=
        fun hmem => ⟨_, List.mem_append_right _ hmem⟩
      rcases hpass.cleaned gone keyed with ⟨-, hall⟩ | ⟨stuck, hstuck, e, -, hfails, hdone, -⟩
      · exact .inl (hnow (hall k hthere))
      · rcases KeyOrder.trichotomy k stuck with hlt | rfl | hgt
        · exact .inl (hnow (hdone k hthere hlt))
        · exact .inl (hnow hfails)
        · -- What fails before the pod does not keep failing.
          rcases stays k hthere with hstill | ⟨answer, hmem⟩
          · refine .inr ⟨hstill, ?_⟩
            have hfree : stubborn stuck = false := by
              refine Bool.eq_false_iff.2 fun hstubborn => ?_
              exact KeyOrder.irrefl k
                (KeyOrder.trans (hbefore stuck (hsome stuck hstuck) hstubborn) hgt)
            have hone : 0 < (Turn.allCalls env timeout turns).countP
                (Call.isRefusedFor fun k => !stubborn k) :=
              List.countP_pos_iff.2 ⟨_, hfails, by simp [Call.isRefusedFor, hfree]⟩
            rw [List.countP_append]
            omega
          · exact .inl (hnow hmem)

/-- Where the pods whose removal keeps failing come after a pod in the order of their keys, its
removal is asked for as soon as there have been more passes than failures of the others. A pass ends
well only when the removal of every pod has succeeded in it that carries the name of the batch. -/
theorem Caches.cleaned_up {key : ObjectKey} {start : Caches} (gone : start.batches.get? key = none)
    (keyed : start.children.Keyed) (stubborn : ObjectKey → Bool) :
    (∀ n calls c, Cleanups env timeout key start n calls c →
      calls.countP (Call.isRefusedFor fun k => !stubborn k) < n →
        ∀ k, start.Carries key k →
          (∀ k', start.Carries key k' → stubborn k' = true → k < k') →
            ∃ answer, .deleted k answer ∈ calls) ∧
      ∀ (turns : List (Turn σ)),
        Stage.Path env timeout (.ofKey start (.batch key)) turns (.finished (.ok ())) →
          ∀ k, start.Carries key k → .deleted k (.ok ()) ∈ Turn.allCalls env timeout turns := by
  constructor
  · intro n calls c h hfew k hcarries hbefore
    rcases (h.requested_or_refused hcarries hbefore).2 with hasked | ⟨-, hmany⟩
    · exact hasked
    · exact absurd hmany (Nat.not_le_of_lt hfew)
  · intro turns hpass
    rcases hpass.cleaned gone keyed with ⟨-, hall⟩ | ⟨_, -, e, hresult, -⟩
    · exact hall
    · cases hresult

/-! ## A pod that cannot be removed -/

section Undeletable

/-- The answer that a pod may not be removed. -/
def removalRefusal : Error :=
  .api { status := "Failure", message := "not to be removed", reason := "Forbidden", code := 403 }

/-- Caches that are their own store, in which the pod of one key cannot be removed. -/
def Caches.refusing (stuck : ObjectKey) : Surroundings Caches :=
  { Caches.store with
    deleteChild := fun key c =>
      if key = stuck then (.error removalRefusal, c) else (.ok (), c.withoutChild key) }

/-- A pod that carries the name of a batch. -/
def abandonedPod (name : String) : Pod :=
  { metadata :=
      { name := some name, ns := some "n", labels := some (.ofList [(batchLabel, "b")]) } }

/-- Caches with two pods of a batch that is gone. -/
def abandonedCaches : Caches :=
  { batches := ⟨.empty, true⟩
    templates := ⟨.empty, true⟩
    children := ⟨.ofList [(⟨"n", "p-1"⟩, abandonedPod "p-1"), (⟨"n", "p-2"⟩, abandonedPod "p-2")],
      true⟩ }

theorem keyed_abandonedCaches : abandonedCaches.children.Keyed := by
  refine Cache.keyed_foldl_insert (Cache.keyed_empty true) fun binding hbinding => ?_
  simp only [List.mem_cons, List.not_mem_nil, or_false] at hbinding
  rcases hbinding with rfl | rfl <;> rfl

/-- The first pod is removed before the second one. -/
theorem purgeKeys_abandonedCaches :
    abandonedCaches.purgeKeys ⟨"n", "b"⟩ = [⟨"n", "p-1"⟩, ⟨"n", "p-2"⟩] := by
  decide +kernel

theorem ofKey_abandonedCaches :
    Stage.ofKey abandonedCaches (.batch ⟨"n", "b"⟩) = .purging ⟨"n", "p-1"⟩ [⟨"n", "p-2"⟩] := by
  rw [Stage.ofKey_eq_purge rfl, purgeKeys_abandonedCaches]
  rfl

theorem carries_abandonedCaches {k : ObjectKey} :
    abandonedCaches.Carries ⟨"n", "b"⟩ k ↔ k = ⟨"n", "p-1"⟩ ∨ k = ⟨"n", "p-2"⟩ := by
  rw [← Caches.mem_purgeKeys keyed_abandonedCaches, purgeKeys_abandonedCaches]
  simp

/-- When the second pod cannot be removed, the removal of the first one is asked for in one pass. -/
theorem cleaned_up_before_undeletable :
    ∃ calls, Caches.Cleanups (Caches.refusing ⟨"n", "p-2"⟩) (.ofSeconds 10) ⟨"n", "b"⟩
        abandonedCaches 1 calls abandonedCaches ∧
      ∃ answer, .deleted ⟨"n", "p-1"⟩ answer ∈ calls := by
  have hpass : Stage.Path (Caches.refusing ⟨"n", "p-2"⟩) (.ofSeconds 10)
      (.ofKey abandonedCaches (.batch ⟨"n", "b"⟩))
      [⟨0, .ofKey abandonedCaches (.batch ⟨"n", "b"⟩), abandonedCaches⟩,
        ⟨0, .purging ⟨"n", "p-2"⟩ [], abandonedCaches⟩]
      (.finished (.error removalRefusal)) := by
    rw [ofKey_abandonedCaches]
    exact .turn 0 abandonedCaches (.turn 0 abandonedCaches (.rest _))
  have hcleanups := Caches.Cleanups.pass .none rfl keyed_abandonedCaches hpass (fun _ h => h)
    fun _ h => .inl h
  refine ⟨_, hcleanups, ?_⟩
  refine (Caches.cleaned_up rfl keyed_abandonedCaches fun k => k = ⟨"n", "p-2"⟩).1 1 _ _
    hcleanups ?_ _ (carries_abandonedCaches.2 (.inl rfl)) ?_
  · rw [ofKey_abandonedCaches, Turn.allCalls_cons, Turn.allCalls_cons, Turn.calls_purging,
      Turn.calls_purging]
    decide +kernel
  · intro k' _ hstubborn
    obtain rfl := of_decide_eq_true hstubborn
    decide +kernel

/-- When the first pod cannot be removed, passes that are made again and again never ask for the
removal of the second one, which would succeed. -/
theorem shielded_by_undeletable :
    abandonedCaches.batches.get? ⟨"n", "b"⟩ = none ∧
      abandonedCaches.Carries ⟨"n", "b"⟩ ⟨"n", "p-2"⟩ ∧
      removalRefusal.isRetryable = true ∧
      (∀ c, ((Caches.refusing ⟨"n", "p-1"⟩).deleteChild ⟨"n", "p-2"⟩ c).1 = .ok ()) ∧
      ∀ n, ∃ calls, Caches.Cleanups (Caches.refusing ⟨"n", "p-1"⟩) (.ofSeconds 10) ⟨"n", "b"⟩
          abandonedCaches n calls abandonedCaches ∧
        ∀ answer, .deleted ⟨"n", "p-2"⟩ answer ∉ calls := by
  refine ⟨rfl, carries_abandonedCaches.2 (.inr rfl), rfl, fun c => rfl, fun n => ?_⟩
  induction n with
  | zero => exact ⟨[], .none, fun _ => List.not_mem_nil⟩
  | succ n ih =>
    obtain ⟨calls, hcleanups, hnever⟩ := ih
    have hpass : Stage.Path (Caches.refusing ⟨"n", "p-1"⟩) (.ofSeconds 10)
        (.ofKey abandonedCaches (.batch ⟨"n", "b"⟩))
        [⟨0, .ofKey abandonedCaches (.batch ⟨"n", "b"⟩), abandonedCaches⟩]
        (.finished (.error removalRefusal)) := by
      rw [ofKey_abandonedCaches]
      exact .turn 0 abandonedCaches (.rest _)
    refine ⟨_, .pass hcleanups rfl keyed_abandonedCaches hpass (fun _ h => h) fun _ h => .inl h, ?_⟩
    intro answer hmem
    rcases List.mem_append.1 hmem with hmem | hmem
    · exact hnever answer hmem
    · rw [ofKey_abandonedCaches, Turn.allCalls_cons, Turn.calls_purging] at hmem
      simp [Turn.allCalls] at hmem

end Undeletable

end BatchOperator
