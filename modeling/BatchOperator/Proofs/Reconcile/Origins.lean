import BatchOperator.Proofs.Reconcile.Frame

/-!
# Where failures come from

A pass fails with what the API server has answered one of its requests with, or because a child was
not seen in time (`Stage.Path.origin_of_failure?`). The latter may pass, so a failure for good is
always one that the API server has answered with (`Stage.Path.answered_of_failed`), in a pass over a
batch as over a child.
-/

set_option autoImplicit false

namespace BatchOperator

/-- What a call failed with, if it was answered with a failure. -/
def Call.failure? : Call → Option Error
  | .created _ (.error e) | .listed _ _ (.error e) | .deleted _ (.error e)
  | .replaced _ (.error e) => some e
  | _ => none

/-- A wait that found nothing in time may find something when it is made again. -/
theorem Poll.isRetryable_expiry (p : Poll) : p.expiry.isRetryable = true := rfl

namespace Stage

/-- What a pass has failed with, or will fail with if it fails at its next request. -/
def failure? : Stage → Option Error
  | .complaining _ refusal _ | .adopting _ refusal _ | .finished (.error refusal) => some refusal
  | _ => none

@[simp] theorem failure?_proceed (agenda : Agenda) : agenda.proceed.failure? = none := by
  unfold Agenda.proceed
  split
  · rfl
  · split <;> rfl

@[simp] theorem failure?_prune (agenda : Agenda) (extras : List ObjectKey) :
    (agenda.prune extras).failure? = none := by
  cases extras with
  | nil => exact failure?_proceed agenda
  | cons => rfl

@[simp] theorem failure?_purge (children : List ObjectKey) : (purge children).failure? = none := by
  cases children <;> rfl

/-- No pass begins with a failure. -/
theorem failure?_ofKey (c : Caches) (key : WorkKey) : (ofKey c key).failure? = none := by
  cases key with
  | batch key =>
    simp only [ofKey]
    cases Decision.make c key with
    | purge children => exact failure?_purge _
    | rest => rfl
    | refuse batch fault => rfl
    | proceed plan => exact failure?_prune _ _
  | childStatus key =>
    simp only [ofKey]
    split <;> rfl

/-- Every pass that begins has only waits of the time that a child may take before it. -/
theorem isTimed_ofWork {timeout : Duration} (c : Caches) (key : WorkKey) :
    (ofKey c key).IsTimed timeout := by
  cases key with
  | batch key => exact isTimed_ofKey c key
  | childStatus key =>
    simp only [ofKey]
    split <;> trivial

/-- A pass with a failure that asks for nothing more has ended with it. -/
theorem eq_finished_of_failure? {stage : Stage} {e : Error} (h : stage.failure? = some e)
    (hrequest : stage.isRequest = false) : stage = .finished (.error e) := by
  cases stage with
  | finished result =>
    cases result with
    | ok => cases h
    | error refusal => rw [Option.some.inj h]
  | confirming => cases h
  | purging | pruning | starting | announcing | complaining | adopting | closing | reporting =>
    cases hrequest

end Stage

section Answered

variable {σ : Type} {env : Surroundings σ} {timeout : Duration}

/-- One of the calls of a turn was answered with a failure. -/
def Turn.AnsweredWith (env : Surroundings σ) (timeout : Duration) (turn : Turn σ) (e : Error) :
    Prop :=
  ∃ call ∈ turn.calls env timeout, call.failure? = some e

/-- A turn fails with what the pass was about to fail with, with what one of its calls was answered
with, or because the time was up. -/
theorem Turn.origin_of_failure? (turn : Turn σ) (htimed : turn.stage.IsTimed timeout) {e : Error}
    (h : (turn.next env timeout).failure? = some e) :
    turn.stage.failure? = some e ∨ turn.AnsweredWith env timeout e ∨
      ∃ child poll, turn.GivesUp env timeout child poll ∧ e = poll.expiry := by
  obtain ⟨now, stage, s⟩ := turn
  cases stage with
  | purging next others =>
    rcases hcall : env.deleteChild next s with ⟨refusal | ⟨⟩, s'⟩
    · simp only [Turn.next, Stage.step, hcall] at h
      refine .inr (.inl ⟨.deleted next (.error refusal), ?_, h⟩)
      simp [Turn.calls, Stage.step, Surroundings.recorded, Recorded.after, hcall]
    · simp [Turn.next, Stage.step, hcall] at h
  | pruning next others agenda =>
    simp [Turn.next, Stage.step] at h
  | starting template agenda =>
    rcases hcall : env.createChild (agenda.batch.childManifest template) s with
      ⟨refusal | child, s'⟩
    · have hrefused : (Turn.next env timeout ⟨now, .starting template agenda, s⟩).failure? =
          some refusal := by
        simp only [Turn.next, Stage.step, hcall]
        split <;> rfl
      refine .inr (.inl ⟨.created (agenda.batch.childManifest template) (.error refusal), ?_,
        hrefused.symm.trans h⟩)
      simp only [Turn.calls, Stage.step, Surroundings.recorded, Recorded.after, hcall]
      split <;> exact List.mem_singleton_self _
    · simp [Turn.next, Stage.step, hcall, Stage.failure?] at h
  | announcing child template agenda => cases h
  | complaining template refusal batch => exact .inl h
  | adopting template refusal agenda =>
    rcases hcall : env.listChildren agenda.batch.metadata.nsOrDefault
      (Stage.adoptionQuery agenda.batch template.name) s with ⟨fault | listed, s'⟩
    · simp only [Turn.next, Stage.step, hcall] at h
      refine .inr (.inl ⟨.listed agenda.batch.metadata.nsOrDefault
        (Stage.adoptionQuery agenda.batch template.name) (.error fault), ?_, h⟩)
      simp only [Turn.calls, Stage.step, Surroundings.recorded, Recorded.after, hcall]
      exact List.mem_singleton_self _
    · -- What is in the way belongs to somebody else, and the refusal stands.
      cases hfirst : Stage.firstOwned agenda.batch listed with
      | none =>
        simp only [Turn.next, Stage.step, hcall, hfirst] at h
        exact .inl h
      | some child =>
        simp [Turn.next, Stage.step, hcall, hfirst, Stage.confirm, Stage.failure?] at h
  | confirming child poll moment agenda =>
    have hnext := Turn.next_confirming env timeout now s child poll moment agenda
    cases hsees : env.sees child s with
    | true =>
      rw [hnext, Stage.afterLook] at h
      split at h
      · cases h
      · simp [Poll.judge] at h
    | false =>
      rw [hsees, Stage.afterLook_unseen] at hnext
      split at hnext
      · rw [hnext] at h
        cases h
      · split at hnext
        · rename_i hlong
          have hallowed : poll.timeout = timeout := htimed
          rw [hnext] at h
          rw [hallowed] at hlong
          exact .inr (.inr ⟨child, poll, ⟨⟨moment, agenda, rfl⟩, hsees, hallowed, hlong, hnext⟩,
            (Option.some.inj h).symm⟩)
        · rw [hnext] at h
          cases h
  | closing verdict batch =>
    rcases hcall : env.replaceStatus (batch.withStatus verdict.status) s with ⟨refusal | answer, s'⟩
    · simp only [Turn.next, Stage.step, hcall] at h
      refine .inr (.inl ⟨.replaced (batch.withStatus verdict.status) (.error refusal), ?_, h⟩)
      simp only [Turn.calls, Stage.step, Surroundings.recorded, Recorded.after, hcall]
      exact List.mem_singleton_self _
    · simp [Turn.next, Stage.step, hcall, Stage.failure?] at h
  | reporting notification => cases h
  | finished result => exact .inl h

namespace Stage.Path

variable {stage last : Stage} {turns : List (Turn σ)}

/-- What a pass comes to fail with it was about to fail with from the start, or the API server has
answered with, or a child was not seen in time. -/
theorem origin_of_failure? (h : Path env timeout stage turns last) (htimed : stage.IsTimed timeout)
    {e : Error} (he : last.failure? = some e) :
    stage.failure? = some e ∨ (∃ turn ∈ turns, turn.AnsweredWith env timeout e) ∨
      ∃ turn ∈ turns, ∃ child poll, turn.GivesUp env timeout child poll ∧ e = poll.expiry := by
  induction h with
  | rest => exact .inl he
  | @turn now s stage last turns h ih =>
    rcases ih (Turn.isTimed_next env timeout ⟨now, stage, s⟩ htimed) he with
      hnext | ⟨turn, hturn, hanswer⟩ | ⟨turn, hturn, hgives⟩
    · rcases Turn.origin_of_failure? ⟨now, stage, s⟩ htimed hnext with hnow | hanswer | hgives
      · exact .inl hnow
      · exact .inr (.inl ⟨_, List.mem_cons_self, hanswer⟩)
      · exact .inr (.inr ⟨_, List.mem_cons_self, hgives⟩)
    · exact .inr (.inl ⟨turn, List.mem_cons_of_mem _ hturn, hanswer⟩)
    · exact .inr (.inr ⟨turn, List.mem_cons_of_mem _ hturn, hgives⟩)

/-- A pass fails for good only with what the API server has answered one of its requests with. -/
theorem answered_of_failed {c : Caches} {key : WorkKey} {e : Error}
    (h : Path env timeout (.ofKey c key) turns (.finished (.error e)))
    (hfinal : e.isRetryable = false) : ∃ turn ∈ turns, turn.AnsweredWith env timeout e := by
  rcases h.origin_of_failure? (isTimed_ofWork c key) rfl with
    hbegins | hanswer | ⟨_, _, child, poll, -, rfl⟩
  · cases (failure?_ofKey c key).symm.trans hbegins
  · exact hanswer
  · cases poll.isRetryable_expiry.symm.trans hfinal

end Stage.Path

end Answered

end BatchOperator
