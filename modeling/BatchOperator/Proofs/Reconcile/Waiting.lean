import BatchOperator.Proofs.Reconcile.Confirmation
import BatchOperator.Proofs.Reconcile.Plan
import BatchOperator.Proofs.Reconcile.Store

/-!
# What a pending batch waits for

A pass that leaves its batch pending leaves something that will bring about the next one: a child
that has not ended was there when it began, or its calls have created or adopted one
(`Stage.Path.leaves_something`).

What carries the proof is the plan. When no child runs and there is no verdict, too few templates
have ended and not too many have failed, so a template has no child yet, and with all slots free it
is started (`Plan.starts_ne_nil`). A pass that ends well has brought a child for every template that
it has started (`Stage.Path.brings_starts`).
-/

set_option autoImplicit false

namespace BatchOperator

/-- Every batch has a slot. -/
theorem JobBatch.slots_pos (batch : JobBatch) : 0 < batch.slots :=
  Int.lt_of_lt_of_le Int.zero_lt_one (Int.le_max_right _ _)

namespace Plan

variable {batch : JobBatch} {templates : List JobTemplate} {children : List Pod}

/-- The child that counts for a template is one of the children, and speaks for the template. -/
theorem of_byTemplate {template : String} {child : Pod}
    (h : (ChildIndex.build batch children).byTemplate.get? template = some child) :
    child ∈ children ∧ child.speaksFor batch template = true := by
  rw [(ChildIndex.describes_build batch children).byTemplate] at h
  exact ⟨(Pod.perm_inCreationOrder children).mem_iff.1 (List.mem_of_find?_eq_some h),
    List.find?_some h⟩

/-- The children that count are children. -/
theorem mem_of_mem_authoritative {child : Pod}
    (h : child ∈ authoritative (ChildIndex.build batch children) templates) : child ∈ children := by
  obtain ⟨template, -, hget⟩ := List.mem_filterMap.1 h
  exact (of_byTemplate hget).1

/-- When no child runs, a plan without a verdict starts something. -/
theorem starts_ne_nil (hverdict : (make batch templates children).verdict = none)
    (hnone : Pod.countUnfinished children = 0) : (make batch templates children).starts ≠ [] := by
  have hunfinished : (ChildIndex.build batch children).unfinished = 0 := by
    rw [ChildIndex.unfinished_build, hnone]
  have hslots := batch.slots_pos
  simp only [make, hunfinished, ite_eq_right_iff, reduceCtorEq, imp_false, Bool.or_eq_true,
    Bool.and_eq_true, beq_iff_eq, not_or, and_true, Bool.not_eq_true] at hverdict
  obtain ⟨hrun, hover⟩ := hverdict
  -- All children have ended, so those that count are as many as are completed.
  have hended : ∀ child ∈ authoritative (ChildIndex.build batch children) templates,
      child.phase.isTerminal = true := by
    intro child hchild
    have hzero := List.countP_eq_zero.1 hnone child (mem_of_mem_authoritative hchild)
    simpa using hzero
  rw [Tally.ofChildren_eq, Pod.countFinished, List.countP_eq_length.2 hended] at hrun
  have hlength := length_authoritative_add (ChildIndex.build batch children) templates
  have hfree : 0 < freeSlots batch (ChildIndex.build batch children) := by
    rw [freeSlots, hunfinished]
    omega
  simp only [make, hover, Bool.false_eq_true, if_false, ne_eq, List.take_eq_nil_iff, not_or]
  constructor
  · exact Nat.ne_of_gt hfree
  · -- If every template had its child, all of them would be completed.
    intro hnil
    apply hrun
    rw [hnil] at hlength
    exact hlength

end Plan

variable {σ : Type} {env : Surroundings σ} {timeout : Duration}

/-! ## What a pass brings and writes -/

/-- More calls bring no less. -/
theorem IsBrought.mono {batch : JobBatch} {template : JobTemplate} {calls calls' : List Call}
    {child : Pod} (h : IsBrought batch template calls child) (hsub : calls ⊆ calls') :
    IsBrought batch template calls' child := by
  rcases h with hcreated | ⟨listed, hlisted, hfirst⟩
  · exact .inl (hsub hcreated)
  · exact .inr ⟨listed, hsub hlisted, hfirst⟩

/-- A start that ends well has brought a child. -/
theorem Started.exists_isBrought {template : JobTemplate} {agenda : Agenda} {turns : List (Turn σ)}
    (h : Started env timeout template agenda turns (.ok ())) :
    ∃ child, IsBrought agenda.batch template (Turn.allCalls env timeout turns) child := by
  obtain ⟨fetched, hbrings, ⟨child, rfl, -⟩ | ⟨e, -, hfailed, -⟩⟩ := h.exists_brings
  · exact ⟨child, hbrings.isBrought⟩
  · cases hfailed

/-- A status that is written is written by a call. -/
theorem Turn.exists_replaced {turn : Turn σ} {sent : JobBatch}
    (h : turn.written? env = some sent) :
    ∃ answer, .replaced sent (.ok answer) ∈ turn.calls env timeout := by
  obtain ⟨now, stage, s⟩ := turn
  cases stage with
  | closing verdict batch =>
    obtain ⟨hsent, hok⟩ := Option.filter_eq_some_iff.1 h
    obtain rfl := Option.some.inj hsent
    rcases hcall : env.replaceStatus (batch.withStatus verdict.status) s with ⟨e | answer, s'⟩
    · rw [hcall] at hok
      cases hok
    · refine ⟨answer, ?_⟩
      simp [calls, Stage.step, Surroundings.recorded, Recorded.after, hcall]
  | purging | pruning | starting | announcing | complaining | adopting | confirming | reporting
  | finished => cases h

namespace Stage.Path

variable {turns : List (Turn σ)} {agenda : Agenda}

/-- A pass that ends well has brought a child for every template that it had to start. -/
theorem brings_starts (h : Path env timeout agenda.proceed turns (.finished (.ok ()))) :
    ∀ template ∈ agenda.starts, ∃ child,
      IsBrought agenda.batch template (Turn.allCalls env timeout turns) child := by
  obtain ⟨batch, starts, verdict⟩ := agenda
  induction starts generalizing turns with
  | nil => exact fun _ h => nomatch h
  | cons template starts ih =>
    obtain ⟨start, rest, result, rfl, hstarted, hrest⟩ | hmiddle := h.starting_cases
    · cases result with
      | ok =>
        -- The calls of the first start, and those of the pass that goes on with the others.
        rw [Turn.allCalls_append]
        refine List.forall_mem_cons.2 ⟨?_, fun template' htemplate' => ?_⟩
        · obtain ⟨child, hchild⟩ := hstarted.exists_isBrought
          exact ⟨child, hchild.mono (List.subset_append_left _ _)⟩
        · obtain ⟨child, hchild⟩ := ih hrest template' htemplate'
          exact ⟨child, hchild.mono (List.subset_append_right _ _)⟩
      | error e =>
        -- A pass whose start fails does not end well.
        cases hrest.of_finished.1
    · cases hmiddle

/-- It does not matter what was removed before. -/
theorem brings_starts_of_prune {extras : List ObjectKey}
    (h : Path env timeout (agenda.prune extras) turns (.finished (.ok ()))) :
    ∀ template ∈ agenda.starts, ∃ child,
      IsBrought agenda.batch template (Turn.allCalls env timeout turns) child := by
  induction extras generalizing turns with
  | nil => exact h.brings_starts
  | cons next others ih =>
    simp only [Agenda.prune] at h
    cases h with
    | turn now s h =>
      intro template htemplate
      obtain ⟨child, hchild⟩ := ih h template htemplate
      exact ⟨child, hchild.mono (Turn.allCalls_cons env timeout .. ▸ List.subset_append_right _ _)⟩

/-- A pass over a pending batch that ends well, and by whose calls no status was written, found a
child that has not ended, or has created or adopted one for a template that the batch selects. -/
theorem leaves_something {c : Caches} {key : ObjectKey} {batch : JobBatch} {selector : Selector}
    (hbatch : c.batches.get? key = some batch) (hpending : batch.isComplete = false)
    (hselector : Selector.read batch.spec.selector = .ok selector)
    (hpass : Path env timeout (.ofKey c (.batch key)) turns (.finished (.ok ())))
    (hwritten : ∀ sent answer, .replaced sent (.ok answer) ∉ Turn.allCalls env timeout turns) :
    (∃ child ∈ c.childrenOf key, child.phase.isTerminal = false) ∨
      ∃ template ∈ c.templates.list key.ns selector, ∃ child,
        IsBrought batch template (Turn.allCalls env timeout turns) child := by
  by_cases hnone : Pod.countUnfinished (c.childrenOf key) = 0
  · right
    -- Nothing was written, so there was no verdict.
    have hnothing : turns.filterMap (Turn.written? env) = [] := by
      refine List.filterMap_eq_nil_iff.2 fun turn hturn => ?_
      refine Option.eq_none_iff_forall_ne_some.2 fun sent hsent => ?_
      obtain ⟨answer, hcall⟩ := Turn.exists_replaced hsent
      exact hwritten sent answer (List.mem_flatMap.2 ⟨turn, hturn, hcall⟩)
    have hverdict : (Plan.make batch (c.templates.list key.ns selector)
        (c.childrenOf key)).verdict = none := by
      have hwrites := hpass.done.2
      rw [hnothing, (orders_ofKey hbatch hpending hselector).2, Option.toList_map] at hwrites
      exact Option.toList_eq_nil_iff.1 (List.map_eq_nil_iff.1 hwrites.symm)
    -- So there was something to start, and its child was brought.
    obtain ⟨template, htemplate⟩ :=
      List.exists_mem_of_ne_nil _ (Plan.starts_ne_nil hverdict hnone)
    have hopen := (Plan.starts_sublist _ _ _).subset htemplate
    rw [ofKey, Decision.make_eq_proceed hbatch hpending hselector, ofDecision] at hpass
    exact ⟨template, List.mem_of_mem_filter hopen, hpass.brings_starts_of_prune template htemplate⟩
  · left
    obtain ⟨child, hchild, hruns⟩ := List.countP_pos_iff.1 (Nat.pos_of_ne_zero hnone)
    exact ⟨child, hchild, by simpa using hruns⟩

end Stage.Path

section FirstPass

/-- The turns of the first pass over a small batch. -/
def firstTurns : List (Turn Caches) :=
  Stage.turnsAt Caches.store (.ofSeconds 10) [0, 0, 0]
    (.ofKey smallCaches (.batch ⟨"n", "b"⟩), smallCaches)

/-- The first pass over a small batch starts its template, writes no status and ends well. -/
theorem leaves_something_of_first_pass :
    (∃ child ∈ smallCaches.childrenOf ⟨"n", "b"⟩, child.phase.isTerminal = false) ∨
      ∃ template ∈ smallCaches.templates.list "n" (.ofLabels [("suite", "s")]), ∃ child,
        IsBrought smallBatch template
          (Turn.allCalls Caches.store (.ofSeconds 10) firstTurns) child := by
  have hends : (Stage.after Caches.store (.ofSeconds 10) [0, 0, 0]
      (.ofKey smallCaches (.batch ⟨"n", "b"⟩), smallCaches)).1 = .finished (.ok ()) := by
    with_unfolding_all rfl
  have hpass : Stage.Path Caches.store (.ofSeconds 10)
      (.ofKey smallCaches (.batch ⟨"n", "b"⟩)) firstTurns (.finished (.ok ())) :=
    hends ▸ Stage.path_after Caches.store (.ofSeconds 10) [0, 0, 0] _ smallCaches
  have hnone : ∀ call ∈ Turn.allCalls Caches.store (.ofSeconds 10) firstTurns,
      call.sent?.isNone = true := by
    decide +kernel
  refine Stage.Path.leaves_something rfl rfl rfl hpass fun sent answer hcall => ?_
  cases hnone _ hcall

end FirstPass

end BatchOperator
