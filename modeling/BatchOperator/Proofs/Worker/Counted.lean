import BatchOperator.Controller
import BatchOperator.Proofs.Reconcile.Frame
import BatchOperator.Proofs.Simulation.Store
import BatchOperator.Proofs.Worker.Counters
import BatchOperator.Proofs.Worker.Shift

/-!
# What a pass counts

A pass counts every child that it was answered to have created, and every status that it was
answered to have written, under the outcome that the written batch tells of (`JobBatch.outcome`).
It counts nothing else, so the metrics change as its calls say (`Stage.IsJudged.metrics_step`).
The verdict of a pass is of the outcome that its batch then has from the beginning of the pass on
(`Stage.isJudged_ofKey`, `Stage.IsJudged.next`).
-/

set_option autoImplicit false

namespace BatchOperator

/-! ## Outcomes -/

/-- The outcome that a batch at its end tells of. One whose selector has no meaning is invalid. -/
def JobBatch.outcome (batch : JobBatch) : Outcome :=
  match Selector.read batch.spec.selector with
  | .error _ => .invalid
  | .ok _ => if batch.status.any (·.success) then .succeeded else .failed

/-- A batch tells of the outcome of a verdict when it has its status. -/
def Verdict.Suits (verdict : Verdict) (batch : JobBatch) : Prop :=
  (batch.withStatus verdict.status).outcome = verdict.outcome

theorem Verdict.suits_ofFault {batch : JobBatch} {fault : SelectorFault}
    (h : Selector.read batch.spec.selector = .error fault) : (ofFault fault).Suits batch := by
  have hspec : (batch.withStatus (ofFault fault).status).spec = batch.spec := rfl
  rw [Suits, JobBatch.outcome, hspec, h]
  rfl

theorem Plan.suits_verdict {batch : JobBatch} {selector : Selector}
    (h : Selector.read batch.spec.selector = .ok selector) {templates : List JobTemplate}
    {children : List Pod} {verdict : Verdict}
    (hverdict : (make batch templates children).verdict = some verdict) :
    verdict.Suits batch := by
  have hspec : (batch.withStatus verdict.status).spec = batch.spec := rfl
  rw [Verdict.Suits, JobBatch.outcome, hspec, h]
  have hstatus : (batch.withStatus verdict.status).status = some verdict.status := rfl
  simp only [make] at hverdict
  split at hverdict
  · cases hverdict
    -- The plan has no other outcomes than these two.
    dsimp only
    rw [hstatus]
    split <;> rfl
  · cases hverdict

namespace Stage

/-- The verdict that a pass still has to write suits its batch. -/
def IsJudged : Stage → Prop
  | .pruning _ _ agenda | .starting _ agenda | .announcing _ _ agenda | .adopting _ _ agenda
  | .confirming _ _ _ agenda =>
    ∀ verdict, agenda.verdict = some verdict → verdict.Suits agenda.batch
  | .closing verdict batch => verdict.Suits batch
  | .purging .. | .complaining .. | .reporting _ | .finished _ => True

theorem isJudged_proceed {agenda : Agenda}
    (h : ∀ verdict, agenda.verdict = some verdict → verdict.Suits agenda.batch) :
    agenda.proceed.IsJudged := by
  unfold Agenda.proceed
  split
  · exact h
  · split
    · rename_i verdict hverdict
      exact h verdict hverdict
    · trivial

theorem isJudged_prune {agenda : Agenda}
    (h : ∀ verdict, agenda.verdict = some verdict → verdict.Suits agenda.batch)
    (extras : List ObjectKey) : (agenda.prune extras).IsJudged := by
  cases extras with
  | nil => exact isJudged_proceed h
  | cons => exact h

theorem isJudged_purge (children : List ObjectKey) : (purge children).IsJudged := by
  cases children <;> trivial

/-- A pass begins with a verdict that suits its batch. -/
theorem isJudged_ofKey (c : Caches) (work : WorkKey) : (ofKey c work).IsJudged := by
  cases work with
  | childStatus key =>
    simp only [ofKey]
    split <;> trivial
  | batch key =>
    simp only [ofKey, Decision.make]
    split
    · exact isJudged_purge _
    · split
      · trivial
      · split
        · rename_i fault hselector
          exact Verdict.suits_ofFault hselector
        · rename_i selector hselector
          exact isJudged_prune (fun verdict hverdict => Plan.suits_verdict hselector hverdict) _

/-- No step of a pass changes the verdict. -/
theorem IsJudged.next {σ : Type} {stage : Stage} (h : stage.IsJudged) (env : Surroundings σ)
    (timeout : Duration) (now : Instant) (s : σ) : (stage.step env timeout now s).1.IsJudged := by
  cases stage with
  | purging next others =>
    simp only [step]
    split
    · exact isJudged_purge others
    · trivial
  | pruning next others agenda => exact isJudged_prune h others
  | starting template agenda =>
    simp only [step]
    split
    · exact h
    · split
      · exact h
      · trivial
  | announcing child template agenda => exact h
  | adopting template refusal agenda =>
    simp only [step]
    split
    · trivial
    · split
      · exact h
      · trivial
  | confirming child poll moment agenda =>
    rw [step_confirming, afterLook]
    split
    · exact h
    · split
      · exact isJudged_proceed h
      · trivial
      · exact h
  | closing verdict batch =>
    simp only [step]
    split <;> trivial
  | complaining | reporting | finished => trivial

end Stage

/-! ## Calls that count -/

/-- Whether a call has created a child. -/
def Call.hasCreated : Call → Bool
  | .created _ (.ok _) => true
  | _ => false

/-- The outcome that a call has written. -/
def Call.outcome? : Call → Option Outcome
  | .replaced sent (.ok _) => some sent.outcome
  | _ => none

/-- The metrics after one more call. -/
def Metrics.afterCall (call : Call) (m : Metrics) : Metrics :=
  match call with
  | .created _ (.ok _) => m.countCreated 1
  | .replaced sent (.ok _) => m.countCompleted sent.outcome.label 1
  | _ => m

/-- Surroundings that count nothing. -/
def Surroundings.uncounted {σ : Type} (env : Surroundings σ) : Surroundings σ :=
  { env with count := fun _ s => s }

/-- What passes count goes into the metrics of the operator, which nothing that they ask for
touches; and what they ask for does nothing to the queue but add to it. -/
structure Surroundings.KeepsBooks {σ : Type} (env : Surroundings (Operator σ)) : Prop where
  count : env.count = Operator.count
  requests : ∀ m : Metrics, env.uncounted.Keeps fun o => o.metrics = m
  adds : env.OnlyAdds

section Shown

variable {σ : Type} {env : Surroundings (Operator σ)} {stage : Stage}

/-- The metrics change as the calls of a step say. -/
theorem Stage.IsJudged.metrics_step (h : stage.IsJudged) (books : env.KeepsBooks)
    (timeout : Duration) (now : Instant) (o : Operator σ) :
    (stage.step env timeout now o).2.metrics =
      (Turn.calls env timeout ⟨now, stage, o⟩).foldr Metrics.afterCall o.metrics := by
  have hrequests := books.requests o.metrics
  cases stage with
  | purging next others =>
    have hdeleted := hrequests.deleteChild next rfl
    simp only [Turn.calls, step, Surroundings.recorded, Recorded.after]
    split <;> exact hdeleted
  | pruning next others agenda => exact hrequests.deleteChild next rfl
  | starting template agenda =>
    have hcreated := hrequests.createChild (agenda.batch.childManifest template) rfl
    rcases hcall : env.createChild (agenda.batch.childManifest template) o with ⟨e | child, o'⟩
    · rw [Surroundings.uncounted, hcall] at hcreated
      simp only [Turn.calls, step, Surroundings.recorded, Recorded.after, hcall]
      split <;> exact hcreated
    · rw [Surroundings.uncounted, hcall] at hcreated
      simp only [Turn.calls, step, Surroundings.recorded, Recorded.after, hcall, books.count]
      exact congrArg (Metrics.countCreated · 1) hcreated
  | announcing child template agenda => exact hrequests.publish _ rfl
  | complaining template refusal batch => exact hrequests.publish _ rfl
  | adopting template refusal agenda =>
    have hlisted := hrequests.listChildren agenda.batch.metadata.nsOrDefault
      (adoptionQuery agenda.batch template.name) rfl
    simp only [Turn.calls, step, Surroundings.recorded, Recorded.after]
    split
    · exact hlisted
    · split <;> exact hlisted
  | confirming child poll moment agenda =>
    rw [Turn.calls, step_confirming, step_confirming]
    rfl
  | closing verdict batch =>
    have hwritten := hrequests.replaceStatus (batch.withStatus verdict.status) rfl
    rcases hcall : env.replaceStatus (batch.withStatus verdict.status) o with ⟨e | answer, o'⟩
    · rw [Surroundings.uncounted, hcall] at hwritten
      simp only [Turn.calls, step, Surroundings.recorded, Recorded.after, hcall]
      exact hwritten
    · rw [Surroundings.uncounted, hcall] at hwritten
      simp only [Turn.calls, step, Surroundings.recorded, Recorded.after, hcall, books.count]
      -- The outcome of the verdict is the one that the written batch tells of.
      have hsuits : (batch.withStatus verdict.status).outcome = verdict.outcome := h
      show o'.metrics.countCompleted verdict.outcome.label 1 =
        o.metrics.countCompleted (batch.withStatus verdict.status).outcome.label 1
      rw [hsuits, hwritten]
  | reporting notification => exact hrequests.publish notification rfl
  | finished result => rfl

end Shown

/-! ## Who keeps books -/

/-- Whoever talks to an API server touches nothing but what is outside. -/
theorem Api.keepsBooks_surroundings {σ : Type} (send : Api.Transport σ) (source : EventSource)
    (time : Timestamp) : (Api.surroundings send source time).KeepsBooks := by
  refine ⟨rfl, fun m => ?_, fun q => ?_⟩
  · exact ⟨fun _ _ h => h, fun _ _ _ h => h, fun _ _ h => h, fun _ _ h => h, fun _ _ h => h,
      fun _ _ h => h⟩
  · refine ⟨fun _ _ h => h, fun _ _ _ h => h, fun _ _ h => h, fun _ _ h => h, fun _ _ h => h, ?_⟩
    intro count o h
    cases count <;> exact h

namespace Simulation

variable (w : World)

theorem World.metrics_unlessFaulty {α : Type} (operation : Operation)
    {act : World → Except Error α × World} (hact : (act w).2.metrics = w.metrics) :
    (w.unlessFaulty operation act).2.metrics = w.metrics := by
  rcases w.unlessFaulty_cases operation act with ⟨e, faults, hfaulty⟩ | hacts
  · rw [hfaulty]
    rfl
  · rw [hacts]
    exact hact

theorem World.metrics_putChild (child : Pod) : (w.putChild child).2.metrics = w.metrics := by
  unfold World.putChild
  split
  · rfl
  · unfold World.passOnChildren
    split <;> rfl

theorem World.metrics_dropChild (key : ObjectKey) : (w.dropChild key).2.metrics = w.metrics := by
  unfold World.dropChild
  split
  · rfl
  · split
    · rfl
    · unfold World.passOnChildren
      split <;> rfl

theorem World.metrics_putBatch (batch : JobBatch) : (w.putBatch batch).2.metrics = w.metrics := by
  unfold World.putBatch
  split
  · rfl
  · unfold World.passOnBatches
    split <;> rfl

/-- The store in memory leaves the counting to passes. -/
theorem keepsBooks : surroundings.KeepsBooks := by
  refine ⟨rfl, ?_, onlyAdds⟩
  rintro m
  refine ⟨?_, ?_, ?_, ?_, fun _ _ h => h, fun _ _ h => h⟩
  · rintro manifest w rfl
    refine World.metrics_unlessFaulty (World.log w _) .create ?_
    dsimp only
    split
    · exact World.metrics_putChild _ _
    · rfl
    · rfl
  · rintro ns query w rfl
    exact World.metrics_unlessFaulty (World.log w _) .list rfl
  · rintro key w rfl
    exact World.metrics_unlessFaulty (World.log w _) .delete (World.metrics_dropChild _ key)
  · rintro batch w rfl
    refine World.metrics_unlessFaulty (World.log w _) .status ?_
    split
    · rfl
    · split
      · rfl
      · exact World.metrics_putBatch _ _

end Simulation

end BatchOperator
