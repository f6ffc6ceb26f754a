import BatchOperator.Proofs.Worker.Account
import Mathlib.Logic.Relation

/-!
# One announcement for one end

However the cache of children changes and however many workers there are, no end of a child is
announced twice, and none is lost whose child and batch stay as they are until a pass is made over
the child (`Office.announced_once`). An end may be told of while another is still marked, or while a
pass is about to announce one, and a pass sees the child as it is cached then: what is counted is the
account of the child (`Account.Paid`, `Account.Remembers`), along every run of an office
(`Office.Reachable`) and along every run during which the child is shown in its phase
(`Office.Lasts`).
-/

set_option autoImplicit false

namespace BatchOperator

/-- A child that is as it was has not ended. -/
theorem Cache.ends_self (key : ObjectKey) (c : Cache Pod) : Cache.ends key c c = false := by
  refine Bool.eq_false_iff.2 fun hends => ?_
  obtain ⟨old, new, hold, hnew, hended⟩ := Cache.ends_iff.1 hends
  cases hold.symm.trans hnew
  simp [Pod.hasEnded] at hended

namespace Office

variable {σ : Type} {s s' t : Office σ} {key : ObjectKey} {phase : Phase}

/-! ## Children that do not leave the phase in which they have ended -/

/-- A child that is cached as one that has ended is not cached as another one later, not even after
it was removed. -/
def Entry.StaysEnded (key : ObjectKey) : Entry → Entry → Prop
  | .cached before after, .cached _ settled =>
    ∀ old new, settled.get? key = some old → old.phase.isTerminal = true →
      before.get? key = some new ∨ after.get? key = some new → new.phase.isTerminal = true
  | _, _ => True

/-- Such a child does not end again. -/
theorem Entry.StaysEnded.ends_eq_false {later earlier : Entry}
    (h : Entry.StaysEnded key later earlier) (hearlier : earlier.ends key = true) :
    later.ends key = false := by
  refine Bool.eq_false_iff.2 fun hlater => ?_
  cases later with
  | announced => cases hlater
  | cached before after =>
    cases earlier with
    | announced => cases hearlier
    | cached start settled =>
      obtain ⟨begun, ended, -, hsettled, hended⟩ := Cache.ends_iff.1 hearlier
      obtain ⟨old, new, hold, -, hagain⟩ := Cache.ends_iff.1 hlater
      have hterminal : ended.phase.isTerminal = true := (Bool.and_eq_true_iff.1 hended).2
      -- It would have to be at work again before the later change.
      have hstays := h ended old hsettled hterminal (.inl hold)
      simp [Pod.hasEnded, hstays] at hagain

/-- A child that does not leave the phase in which it has ended ends at most once. -/
theorem endsOf_le_one {log : List Entry} (h : log.Pairwise (Entry.StaysEnded key)) :
    endsOf key log ≤ 1 := by
  induction log with
  | nil => exact Nat.zero_le 1
  | cons last before ih =>
    obtain ⟨hlast, hbefore⟩ := List.pairwise_cons.1 h
    by_cases hends : last.ends key = true
    · -- If it ends in the last entry it has not ended before.
      have hnone : endsOf key before = 0 := by
        refine List.countP_eq_zero.2 fun entry hentry hended => ?_
        rw [(hlast entry hentry).ends_eq_false hended] at hends
        cases hends
      rw [endsOf, List.countP_cons_of_pos hends]
      exact Nat.le_of_eq (congrArg (· + 1) hnone)
    · rw [endsOf, List.countP_cons_of_neg hends]
      exact ih hbefore

/-! ## Along the runs -/

/-- In every office the announcements that were made or can still come are no more than the ends. -/
theorem paid_of_reachable {shortest longest : Duration} (h : Reachable shortest longest s)
    (key : ObjectKey) : (s.account key).Paid := by
  induction h with
  | start operator empty keyed now =>
    refine ⟨?_, fun n hn => ?_⟩
    · have hunmarked : WorkKey.childStatus key ∉ operator.queue.dirty := by
        rw [empty]
        exact List.not_mem_nil
      show 0 + (decide (WorkKey.childStatus key ∈ operator.queue.dirty)).toNat + 0 ≤ 0
      rw [decide_eq_false hunmarked]
      exact Nat.le_refl 0
    · obtain ⟨number, ⟨⟩⟩ := hn
  | step hbefore hstep ih => exact ih.step ((sound_of_reachable hbefore).account_step hstep key)

/-- A run during which the child of a key is cached in a phase with its batch. -/
def Lasts (key : ObjectKey) (phase : Phase) : Office σ → Office σ → Prop :=
  Relation.ReflTransGen fun s s' => Stage.Shows key phase s.caches ∧ Step s s'

theorem Lasts.reachable {shortest longest : Duration} (h : Lasts key phase s t)
    (start : Reachable shortest longest s) : Reachable shortest longest t := by
  induction h with
  | refl => exact start
  | tail _ hlast ih => exact ih.step hlast.2

/-- In such a run the end of the child is not lost. -/
theorem Lasts.remembers (h : Lasts key phase s t) (sound : s.Sound)
    (ended : phase.isTerminal = true) (start : (s.account key).Remembers phase) :
    t.Sound ∧ (t.account key).Remembers phase := by
  induction h with
  | refl => exact ⟨sound, start⟩
  | tail _ hlast ih =>
    obtain ⟨hsound, hremembers⟩ := ih
    obtain ⟨hshows, hstep⟩ := hlast
    exact ⟨hsound.step hstep, hremembers.step (hsound.account_step hstep key) ended hshows⟩

/-- The router is told of a child that ends and then names its owner. -/
theorem Sound.remembers_of_step (h : s.Sound) (hstep : Step s s') {pod : Pod} {batch : ObjectKey}
    (ends : Cache.ends key s.caches.children s'.caches.children = true)
    (hpod : s'.caches.children.get? key = some pod) (howner : pod.owner? = some batch) :
    (s'.account key).Remembers phase := by
  -- Only a change of the cache of children can show the end.
  have hother : s'.caches.children ≠ s.caches.children := by
    intro hsame
    rw [hsame, Cache.ends_self] at ends
    cases ends
  cases hstep with
  | mutates mutation order =>
    have hmem := h.keyed.childStatus_mem_childWork order ends hpod howner
    refine .inr (.inl (List.count_pos_iff.2 ?_))
    exact List.mem_append_right _ hmem
  | elsewhere operator children => exact absurd children hother
  | acts env alone timeout number =>
    exact absurd (congrArg Caches.children (h.acts alone timeout number).caches) hother
  | routes | fires | waits | shutsDown => exact absurd rfl hother

/-! ## The result -/

/-- The router has not got to add a unit of work, and in the queue it neither waits nor is in
processing. -/
structure IsDoneWith (s : Office σ) (work : WorkKey) : Prop where
  pending : work ∉ s.pending
  waiting : work ∉ s.queue.waiting
  processing : work ∉ s.queue.processing

/-- In an office that is done with a child, and whose queue is open, what was not lost has been
announced. -/
theorem Sound.exists_notice (h : s.Sound) (running : s.queue.isShutDown = false)
    (done : s.IsDoneWith (.childStatus key)) (hremembers : (s.account key).Remembers phase) :
    ∃ n ∈ noticesOf key s.log, n.Reports phase := by
  rcases hremembers with hshut | htold | hmarked | ⟨n, ⟨number, hnumber⟩, -⟩ | hannounced
  · cases running.symm.trans hshut
  · exact absurd (List.count_pos_iff.1 htold) done.pending
  · -- What is marked waits, or it is in processing and will wait then.
    rcases h.valid.kept_of_dirty running _ (of_decide_eq_true hmarked) with hwaiting | hprocessing
    · exact absurd hwaiting done.waiting
    · exact absurd hprocessing done.processing
  · -- What a worker is about to announce is in processing.
    exact absurd (h.apart.inProcessing (key?_of_working hnumber)) done.processing
  · exact hannounced

/-- No end of a child is announced twice: that a child has ended is announced in passes over the
child only, and not more often than it has ended, so at most once if it does not leave the phase in
which it has. And an end is announced: if a child that names its owner ends, is then cached in its
phase with its batch, and does not end another time, then when the office is done with it there is
one announcement, with the reason and the type of that phase. -/
theorem announced_once {shortest longest : Duration} (h : Reachable shortest longest s) :
    (∀ work n, .announced work n ∈ s.log → n.tellsEnd = true → work.Announces n) ∧
    (∀ key, (noticesOf key s.log).length ≤ endsOf key s.log) ∧
    (∀ key, s.log.Pairwise (Entry.StaysEnded key) → (noticesOf key s.log).length ≤ 1) ∧
    ∀ (key batch : ObjectKey) (pod : Pod) (s' t : Office σ), Step s s' →
      Cache.ends key s.caches.children s'.caches.children = true →
      s'.caches.children.get? key = some pod → pod.owner? = some batch →
      Lasts key pod.phase s' t → endsOf key t.log = 1 → t.queue.isShutDown = false →
      t.IsDoneWith (.childStatus key) →
        ∃ n, noticesOf key t.log = [n] ∧ n.Reports pod.phase := by
  have hsound := sound_of_reachable h
  have hfew : ∀ {t : Office σ}, Reachable shortest longest t → ∀ key,
      (noticesOf key t.log).length ≤ endsOf key t.log := by
    intro t ht key
    refine Nat.le_trans ?_ (paid_of_reachable ht key).due_le
    exact Nat.le_trans (Nat.le_add_right _ _) (Nat.le_add_right _ _)
  refine ⟨hsound.announced, hfew h, ?_, ?_⟩
  · intro key hstays
    exact Nat.le_trans (hfew h key) (endsOf_le_one hstays)
  · intro key batch pod s' t hstep hends hpod howner hlasts hone hrunning hdone
    have hended : pod.phase.isTerminal = true := by
      obtain ⟨old, new, -, hnew, hended⟩ := Cache.ends_iff.1 hends
      cases hpod.symm.trans hnew
      exact (Bool.and_eq_true_iff.1 hended).2
    obtain ⟨hsound', hremembers⟩ := hlasts.remembers (hsound.step hstep) hended
      (hsound.remembers_of_step hstep hends hpod howner)
    obtain ⟨n, hn, hreports⟩ := hsound'.exists_notice hrunning hdone hremembers
    -- So there is one at least, and there are no more than ends.
    have hlength : (noticesOf key t.log).length = 1 :=
      Nat.le_antisymm (hone ▸ hfew (hlasts.reachable (h.step hstep)) key)
        (List.length_pos_of_mem hn)
    obtain ⟨only, honly⟩ := List.length_eq_one_iff.1 hlength
    rw [honly, List.mem_singleton] at hn
    exact ⟨n, hn ▸ honly, hreports⟩

section Example

/-- The child of the small batch in a phase. -/
def childIn (phase : Phase) : Pod :=
  { Operator.ownedChild with status := some { phase := some phase.render } }

/-- An operator that sees the small batch and its child at work, before anything has happened. -/
def smallOffice : Office Unit where
  staff :=
    { operator :=
        { Operator.smallOperator with
          caches := smallCaches.withChildren
            ⟨⟨[(⟨"n", "t-1"⟩, childIn .running)], List.pairwise_singleton _ _⟩, true⟩ }
      now := 0 }

/-- The child has succeeded. -/
def toldOffice : Office Unit :=
  smallOffice.mutated (.apply (childIn .succeeded))
    (smallOffice.caches.children.mutate (.apply (childIn .succeeded))).1

/-- The router has added the child; it has still to add the batch. -/
def routedOffice : Office Unit :=
  { toldOffice.withQueue (toldOffice.queue.add (.childStatus ⟨"n", "t-1"⟩)) with
    pending := [.batch ⟨"n", "b"⟩] }

/-- Surroundings in which every request fails. -/
def failingApi : Surroundings (Operator Unit) :=
  Api.surroundings (fun _ s => (⟨500, ""⟩, s)) ⟨"operator", ""⟩ ⟨0, 0⟩

/-- The office after some steps of a worker. -/
def actedOffice : Nat → Office Unit
  | 0 => routedOffice
  | steps + 1 => (actedOffice steps).acted failingApi (.ofSeconds 10) 0

/-- When the child has succeeded a worker announces it once. -/
theorem announced_once_of_success :
    ∃ n, noticesOf ⟨"n", "t-1"⟩ (actedOffice 3).log = [n] ∧ n.Reports .succeeded := by
  have hstart : Reachable (.ofMillis 5) (.ofSeconds 60) smallOffice :=
    .start smallOffice.staff.operator rfl (Cache.keyed_singleton rfl true) 0
  have halone : failingApi.LeavesAlone := Api.leavesAlone_surroundings _ _ _
  have hshows : ∀ steps, steps < 3 →
      Stage.Shows ⟨"n", "t-1"⟩ .succeeded (actedOffice steps).caches := by
    have htold : Stage.Shows ⟨"n", "t-1"⟩ .succeeded toldOffice.caches :=
      ⟨childIn .succeeded, "b", smallBatch, by decide +kernel⟩
    intro steps hsteps
    match steps, hsteps with
    | 0, _ | 1, _ | 2, _ => exact htold
  have hpending : toldOffice.pending =
      [.batch ⟨"n", "b"⟩] ++ .childStatus ⟨"n", "t-1"⟩ :: [] := by
    decide +kernel
  have hstep : ∀ steps, Step (actedOffice steps) (actedOffice (steps + 1)) :=
    fun _ => .acts failingApi halone _ 0
  have hlasts : Lasts ⟨"n", "t-1"⟩ .succeeded toldOffice (actedOffice 3) :=
    (((Relation.ReflTransGen.single ⟨hshows 0 (by decide), .routes hpending⟩).tail
      ⟨hshows 0 (by decide), hstep 0⟩).tail ⟨hshows 1 (by decide), hstep 1⟩).tail
        ⟨hshows 2 (by decide), hstep 2⟩
  obtain ⟨-, -, -, honce⟩ := announced_once hstart
  exact honce ⟨"n", "t-1"⟩ ⟨"n", "b"⟩ (childIn .succeeded) toldOffice (actedOffice 3)
    (.mutates _ (.refl _)) (by decide +kernel) (by decide +kernel) (by decide +kernel) hlasts
    (by decide +kernel) (by decide +kernel)
    ⟨by decide +kernel, by decide +kernel, by decide +kernel⟩

end Example

end Office

end BatchOperator
