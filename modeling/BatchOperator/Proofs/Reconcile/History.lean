import BatchOperator.Proofs.Reconcile.Registry

/-!
# What a step leaves in the record

Every step of a pass writes the status of the batch that the pass began from, announces what the
pass has come to announce, or is quiet: it leaves the batch as it is stored, announces no end and
brings the pass no closer to announcing one (`Stage.step_history`).
-/

set_option autoImplicit false

namespace BatchOperator

/-- The announcement that the batch with a UID has come to its end. -/
def Notification.isEndOf (uid : Option String) (n : Notification) : Bool :=
  ([Reason.batchSucceeded, .batchFailed, .batchInvalid].any fun reason =>
    n.reason == reason.render) && n.involved.uid == uid

namespace Call

/-- The status of the batch with a UID was written. -/
def isWriteOf (uid : Option String) : Call → Bool
  | .replaced sent (.ok _) => sent.metadata.uid == uid
  | _ => false

/-- The end of the batch with a UID was announced. -/
def isEndOf (uid : Option String) : Call → Bool
  | .published notification => notification.isEndOf uid
  | _ => false

end Call

/-- A verdict that a pass can come to about a batch, whatever templates and children it sees. -/
def Verdict.IsAbout (verdict : Verdict) (batch : JobBatch) : Prop :=
  (∃ fault, Selector.read batch.spec.selector = .error fault ∧ verdict = .ofFault fault) ∨
    ∃ selector templates children, Selector.read batch.spec.selector = .ok selector ∧
      (Plan.make batch templates children).verdict = some verdict

/-- The announcement of a verdict is that of the end of its batch and of no other. -/
theorem Verdict.isEndOf_notification (verdict : Verdict) (batch : JobBatch) (uid : Option String) :
    (verdict.notification batch).isEndOf uid = (batch.metadata.uid == uid) := by
  have hreason : [Reason.batchSucceeded, .batchFailed, .batchInvalid].any (fun reason =>
      (verdict.notification batch).reason == reason.render) = true := by
    cases h : verdict.outcome <;>
      simp [notification, h, Notification.normal, Notification.warning]
  have hinvolved : (verdict.notification batch).involved = batch.reference := by
    cases h : verdict.outcome <;>
      simp [notification, h, Notification.normal, Notification.warning]
  rw [Notification.isEndOf, hreason, hinvolved]
  rfl

namespace Stage

/-- The batch whose status a pass may still write, and the verdict if the pass has come to one. -/
def purpose? : Stage → Option (JobBatch × Option Verdict)
  | .pruning _ _ agenda | .starting _ agenda | .announcing _ _ agenda | .adopting _ _ agenda
  | .confirming _ _ _ agenda => some (agenda.batch, agenda.verdict)
  | .closing verdict batch => some (batch, some verdict)
  | .purging .. | .complaining .. | .reporting _ | .finished _ => none

/-- Whether a pass is about to announce the end of the batch with a UID. -/
def isEndOf (uid : Option String) : Stage → Bool
  | .reporting notification => notification.isEndOf uid
  | _ => false

theorem purpose?_proceed {agenda : Agenda} {purpose : JobBatch × Option Verdict}
    (h : agenda.proceed.purpose? = some purpose) : (agenda.batch, agenda.verdict) = purpose := by
  unfold Agenda.proceed at h
  split at h
  · exact Option.some.inj h
  · split at h
    · rename_i verdict hverdict
      rw [hverdict]
      exact Option.some.inj h
    · cases h

theorem purpose?_prune {agenda : Agenda} {extras : List ObjectKey}
    {purpose : JobBatch × Option Verdict} (h : (agenda.prune extras).purpose? = some purpose) :
    (agenda.batch, agenda.verdict) = purpose := by
  cases extras with
  | nil => exact purpose?_proceed h
  | cons => exact Option.some.inj h

theorem purpose?_purge (children : List ObjectKey) : (purge children).purpose? = none := by
  cases children <;> rfl

theorem isEndOf_proceed (agenda : Agenda) (uid : Option String) :
    agenda.proceed.isEndOf uid = false := by
  unfold Agenda.proceed
  split
  · rfl
  · split <;> rfl

theorem isEndOf_prune (agenda : Agenda) (extras : List ObjectKey) (uid : Option String) :
    (agenda.prune extras).isEndOf uid = false := by
  cases extras with
  | nil => exact isEndOf_proceed agenda uid
  | cons => rfl

theorem isEndOf_purge (children : List ObjectKey) (uid : Option String) :
    (purge children).isEndOf uid = false := by
  cases children <;> rfl

theorem isEndOf_ofKey (c : Caches) (key : ObjectKey) (uid : Option String) :
    (ofKey c (.batch key)).isEndOf uid = false := by
  simp only [ofKey]
  cases Decision.make c key with
  | purge children => exact isEndOf_purge _ uid
  | rest => rfl
  | refuse batch fault => rfl
  | proceed plan => exact isEndOf_prune _ _ uid

/-- A pass only writes about the batch that it saw, only if that one was not complete, and only a
verdict that it has come to about this batch. -/
theorem of_purpose?_ofKey {c : Caches} {key : ObjectKey} {batch : JobBatch}
    {verdict : Option Verdict} (h : (ofKey c (.batch key)).purpose? = some (batch, verdict)) :
    c.batches.get? key = some batch ∧ batch.isComplete = false ∧
      ∀ v, verdict = some v → v.IsAbout batch := by
  simp only [ofKey, Decision.make] at h
  split at h
  · simp [ofDecision, purpose?_purge] at h
  · rename_i b hb
    split at h
    · cases h
    · rename_i hpending
      have hpending : b.isComplete = false := by simpa using hpending
      split at h
      · rename_i fault hfault
        cases h
        refine ⟨hb, hpending, ?_⟩
        rintro v hv
        cases hv
        exact .inl ⟨fault, hfault, rfl⟩
      · rename_i selector hselector
        cases purpose?_prune h
        exact ⟨hb, hpending, fun v hv => .inr ⟨selector, _, _, hselector, hv⟩⟩

theorem isEndOf_startNotice (batch : JobBatch) (template : String) (uid : Option String) :
    (startNotice batch template).isEndOf uid = false := by
  simp [startNotice, Notification.isEndOf, Notification.forTemplate, Notification.normal,
    Reason.render]

theorem isEndOf_refusalNotice (batch : JobBatch) (template : String) (refusal : Error)
    (uid : Option String) : (refusalNotice batch template refusal).isEndOf uid = false := by
  simp [refusalNotice, Notification.isEndOf, Notification.forTemplate, Notification.warning,
    Reason.render]

variable {σ : Type} {env : Surroundings σ} {registry : σ → Registry} {key : ObjectKey}

/-- A step that neither writes a status nor announces the end of a batch. -/
structure Quiet (registry : σ → Registry) (stage stage' : Stage) (r r' : Recorded σ) : Prop where
  registry : registry r'.outside = registry r.outside
  calls : r'.calls = r.calls ∨ ∃ call, r'.calls = (r.outside, call) :: r.calls ∧
    ∀ uid, call.isWriteOf uid = false ∧ call.isEndOf uid = false
  purpose : ∀ purpose, stage'.purpose? = some purpose → stage.purpose? = some purpose
  silent : ∀ uid, stage'.isEndOf uid = false

/-- A quiet step after which there is no batch to write about. -/
theorem Quiet.over {stage stage' : Stage} {r r' : Recorded σ}
    (hregistry : registry r'.outside = registry r.outside)
    (hcalls : r'.calls = r.calls ∨ ∃ call, r'.calls = (r.outside, call) :: r.calls ∧
      ∀ uid, call.isWriteOf uid = false ∧ call.isEndOf uid = false)
    (hpurpose : stage'.purpose? = none) (hsilent : ∀ uid, stage'.isEndOf uid = false) :
    Quiet registry stage stage' r r' := by
  refine ⟨hregistry, hcalls, ?_, hsilent⟩
  intro purpose h
  cases hpurpose.symm.trans h

/-- A quiet step leaves the numbers of status writes and announced ends as they are. -/
theorem Quiet.countCalls {stage stage' : Stage} {r r' : Recorded σ}
    (h : Quiet registry stage stage' r r') {P : Call → Bool}
    (hP : ∀ call, (∀ uid, call.isWriteOf uid = false ∧ call.isEndOf uid = false) →
      P call = false) : r'.countCalls P = r.countCalls P := by
  rcases h.calls with hcalls | ⟨call, hcalls, hcall⟩
  · rw [Recorded.countCalls, hcalls, Recorded.countCalls]
  · rw [Recorded.countCalls_of_calls hcalls, hP call hcall]
    rfl

/-- A quiet step writes no status. -/
theorem Quiet.mem_calls {stage stage' : Stage} {r r' : Recorded σ}
    (h : Quiet registry stage stage' r r') {s : σ} {sent answer : JobBatch}
    (hmem : (s, Call.replaced sent (.ok answer)) ∈ r'.calls) :
    (s, Call.replaced sent (.ok answer)) ∈ r.calls := by
  rcases h.calls with hcalls | ⟨call, hcalls, hcall⟩
  · exact hcalls ▸ hmem
  · rw [hcalls] at hmem
    rcases List.mem_cons.1 hmem with hnew | hold
    · cases hnew
      simpa [Call.isWriteOf] using (hcall sent.metadata.uid).1
    · exact hold

/-- A step writes a status, announces what the pass has come to announce, or is quiet. -/
theorem step_history (guards : env.Guards registry key) (timeout : Duration) (now : Instant)
    (r : Recorded σ) (stage : Stage) :
    (∃ verdict batch answer s', stage = .closing verdict batch ∧
        env.replaceStatus (batch.withStatus verdict.status) r.outside = (.ok answer, s') ∧
        registry (stage.step env.recorded timeout now r).2.outside = registry s' ∧
        (stage.step env.recorded timeout now r).2.calls =
          (r.outside, .replaced (batch.withStatus verdict.status) (.ok answer)) :: r.calls ∧
        (stage.step env.recorded timeout now r).1 = .reporting (verdict.notification batch)) ∨
      (∃ notification, stage = .reporting notification ∧
        registry (stage.step env.recorded timeout now r).2.outside = registry r.outside ∧
        (stage.step env.recorded timeout now r).2.calls =
          (r.outside, .published notification) :: r.calls ∧
        (stage.step env.recorded timeout now r).1 = .finished (.ok ())) ∨
      Quiet registry stage (stage.step env.recorded timeout now r).1 r
        (stage.step env.recorded timeout now r).2 := by
  cases stage with
  | purging next others =>
    have hregistry := guards.deleteChild next r.outside
    refine .inr (.inr ?_)
    rcases h : env.deleteChild next r.outside with ⟨e | ⟨⟩, s'⟩ <;> rw [h] at hregistry <;>
      simp only [step, Surroundings.recorded, h]
    · exact ⟨hregistry, .inr ⟨_, rfl, fun _ => ⟨rfl, rfl⟩⟩, fun _ h => h, fun _ => rfl⟩
    · exact .over hregistry (.inr ⟨_, rfl, fun _ => ⟨rfl, rfl⟩⟩) (purpose?_purge _)
        (isEndOf_purge _)
  | pruning next others agenda =>
    have hregistry := guards.deleteChild next r.outside
    refine .inr (.inr ⟨hregistry, .inr ⟨_, rfl, fun _ => ⟨rfl, rfl⟩⟩, ?_, isEndOf_prune _ _⟩)
    intro purpose hpurpose
    exact congrArg some (purpose?_prune hpurpose)
  | starting template agenda =>
    have hregistry := guards.createChild (agenda.batch.childManifest template) r.outside
    refine .inr (.inr ?_)
    rcases h : env.createChild (agenda.batch.childManifest template) r.outside with
      ⟨e | child, s'⟩ <;> rw [h] at hregistry <;> simp only [step, Surroundings.recorded, h]
    · split
      · exact ⟨hregistry, .inr ⟨_, rfl, fun _ => ⟨rfl, rfl⟩⟩, fun _ h => h, fun _ => rfl⟩
      · exact .over hregistry (.inr ⟨_, rfl, fun _ => ⟨rfl, rfl⟩⟩) rfl fun _ => rfl
    · exact ⟨(guards.count .childCreated s').trans hregistry,
        .inr ⟨_, rfl, fun _ => ⟨rfl, rfl⟩⟩, fun _ h => h, fun _ => rfl⟩
  | announcing child template agenda =>
    refine .inr (.inr ⟨guards.publish _ r.outside, .inr ⟨_, rfl, ?_⟩, fun _ h => h, fun _ => rfl⟩)
    exact fun uid => ⟨rfl, isEndOf_startNotice agenda.batch template.name uid⟩
  | complaining template refusal batch =>
    refine .inr (.inr (.over (guards.publish _ r.outside) (.inr ⟨_, rfl, ?_⟩) rfl fun _ => rfl))
    exact fun uid => ⟨rfl, isEndOf_refusalNotice batch template.name refusal uid⟩
  | adopting template refusal agenda =>
    have hregistry := guards.listChildren agenda.batch.metadata.nsOrDefault
      (adoptionQuery agenda.batch template.name) r.outside
    refine .inr (.inr ?_)
    simp only [step, Surroundings.recorded]
    split
    · exact .over hregistry (.inr ⟨_, rfl, fun _ => ⟨rfl, rfl⟩⟩) rfl fun _ => rfl
    · split
      · exact ⟨hregistry, .inr ⟨_, rfl, fun _ => ⟨rfl, rfl⟩⟩, fun _ h => h, fun _ => rfl⟩
      · exact .over hregistry (.inr ⟨_, rfl, fun _ => ⟨rfl, rfl⟩⟩) rfl fun _ => rfl
  | confirming child poll moment agenda =>
    refine .inr (.inr ?_)
    rw [step_confirming]
    refine ⟨rfl, .inl rfl, ?_, ?_⟩ <;> simp only [afterLook]
    · intro purpose hpurpose
      split at hpurpose
      · exact hpurpose
      · split at hpurpose
        · exact congrArg some (purpose?_proceed hpurpose)
        · cases hpurpose
        · exact hpurpose
    · intro uid
      split
      · rfl
      · split
        · exact isEndOf_proceed agenda uid
        · rfl
        · rfl
  | closing verdict batch =>
    rcases h : env.replaceStatus (batch.withStatus verdict.status) r.outside with ⟨e | answer, s'⟩
    · refine .inr (.inr ?_)
      simp only [step, Surroundings.recorded, h]
      exact .over (guards.refused h) (.inr ⟨_, rfl, fun _ => ⟨rfl, rfl⟩⟩) rfl fun _ => rfl
    · have hstep : (closing verdict batch).step env.recorded timeout now r =
          (.reporting (verdict.notification batch),
            (r.after (.replaced (batch.withStatus verdict.status) (.ok answer))
              (env.count (.batchCompleted verdict.outcome) s'))) := by
        simp only [step, Surroundings.recorded, h]
        rfl
      refine .inl ⟨verdict, batch, answer, s', rfl, h, ?_⟩
      rw [hstep]
      exact ⟨guards.count _ s', rfl, rfl⟩
  | reporting notification =>
    exact .inr (.inl ⟨notification, rfl, guards.publish notification r.outside, rfl, rfl⟩)
  | finished result =>
    exact .inr (.inr (.over rfl (.inl rfl) rfl fun _ => rfl))

end Stage

end BatchOperator
