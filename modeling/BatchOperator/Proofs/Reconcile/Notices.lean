import BatchOperator.Proofs.Reconcile.Frame

/-!
# Announcing that a child has ended

Three reasons are those of a child that has ended (`Notification.tellsEnd`). Only a pass over the
child itself gives them (`Stage.reports_of_notice?`): a pass over a batch announces starts, refusals
and the end of the batch, at whatever stage it is (`Stage.IsReserved.next`).

`Turn.published_eq` says which notifications the calls of a turn publish.
-/

set_option autoImplicit false

namespace BatchOperator

/-- The reasons that are given for the end of a child. -/
def Reason.ofEnd : List Reason := [.childJobSucceeded, .childJobFailed, .childJobError]

/-- A notification says that a child has ended. -/
def Notification.tellsEnd (n : Notification) : Bool :=
  Reason.ofEnd.any fun reason => n.reason == reason.render

/-- The reason and the type of the notification that a child has ended in a phase. -/
def Phase.ending? : Phase → Option (Reason × NotificationType)
  | .succeeded => some (.childJobSucceeded, .normal)
  | .failed => some (.childJobFailed, .warning)
  | .unknown => some (.childJobError, .warning)
  | .pending | .running => none

/-- A notification has the reason and the type of the end in a phase. -/
def Notification.Reports (n : Notification) (phase : Phase) : Prop :=
  ∃ reason, phase.ending? = some (reason, n.type) ∧ n.reason = reason.render

/-- What reports an end says that a child has ended. -/
theorem Notification.Reports.tellsEnd {n : Notification} {phase : Phase} (h : n.Reports phase) :
    n.tellsEnd = true := by
  obtain ⟨reason, hending, hreason⟩ := h
  have hmem : reason ∈ Reason.ofEnd := by
    cases phase <;> simp only [Phase.ending?, Option.some.injEq, Prod.mk.injEq, reduceCtorEq]
      at hending <;> rw [← hending.1] <;> decide
  refine List.any_eq_true.2 ⟨reason, hmem, ?_⟩
  rw [hreason]
  exact beq_self_eq_true _

/-- Other reasons than those are not given for the end of a child. -/
theorem Notification.tellsEnd_eq_false {n : Notification} (reason : Reason)
    (h : n.reason = reason.render) (hother : reason ∉ Reason.ofEnd) : n.tellsEnd = false := by
  rw [tellsEnd, h]
  cases reason <;> first | rfl | exact absurd (by decide) hother

theorem Verdict.tellsEnd_notification (verdict : Verdict) (batch : JobBatch) :
    (verdict.notification batch).tellsEnd = false := by
  unfold notification
  cases verdict.outcome with
  | succeeded => exact Notification.tellsEnd_eq_false .batchSucceeded rfl (by decide)
  | failed => exact Notification.tellsEnd_eq_false .batchFailed rfl (by decide)
  | invalid => exact Notification.tellsEnd_eq_false .batchInvalid rfl (by decide)

namespace Stage

/-! ## Passes over children -/

/-- What is announced about a child is that it has ended in its phase. -/
theorem reports_of_endNotice {batch : JobBatch} {child : Pod} {n : Notification}
    (h : endNotice batch child = some n) : n.Reports child.phase := by
  unfold endNotice at h
  -- Naming the template changes neither the reason nor the type.
  cases hphase : child.phase <;> cases htemplate : child.templateName <;>
    simp only [hphase, htemplate] at h <;> cases h <;> exact ⟨_, rfl, rfl⟩

/-- There is something to announce about every child that has ended. -/
theorem exists_endNotice {batch : JobBatch} {child : Pod} (h : child.phase.isTerminal = true) :
    ∃ n, endNotice batch child = some n := by
  unfold endNotice
  cases hphase : child.phase with
  | succeeded | failed | unknown => exact ⟨_, rfl⟩
  | pending | running =>
    rw [hphase] at h
    cases h

/-- The child of a key is cached in a phase, and so is the batch that its label names, to which it
belongs. -/
def Shows (key : ObjectKey) (phase : Phase) (c : Caches) : Prop :=
  ∃ pod name batch, c.children.get? key = some pod ∧ pod.phase = phase ∧
    pod.batchName = some name ∧ c.batches.get? ⟨key.ns, name⟩ = some batch ∧
      pod.isOwnedBy batch = true

/-- What is announced about the child of a key is the end of a child that is cached. -/
theorem notice?_facts {c : Caches} {key : ObjectKey} {n : Notification}
    (h : notice? c key = some n) :
    ∃ child batch, c.children.get? key = some child ∧ endNotice batch child = some n := by
  obtain ⟨child, hchild, h⟩ := Option.bind_eq_some_iff.1 h
  obtain ⟨name, -, h⟩ := Option.bind_eq_some_iff.1 h
  obtain ⟨batch, -, h⟩ := Option.bind_eq_some_iff.1 h
  split at h
  · exact ⟨child, batch, hchild, h⟩
  · cases h

/-- A pass over a child that is cached in a phase in which it has ended, with its batch, comes to
announce this. -/
theorem ofKey_of_shows {c : Caches} {key : ObjectKey} {phase : Phase} (h : Shows key phase c)
    (hended : phase.isTerminal = true) :
    ∃ n, ofKey c (.childStatus key) = .reporting n ∧ n.Reports phase := by
  obtain ⟨pod, name, batch, hpod, rfl, hname, hbatch, howned⟩ := h
  obtain ⟨n, hn⟩ : ∃ n, endNotice batch pod = some n := exists_endNotice hended
  have hnotice : notice? c key = some n := by
    simp [notice?, hpod, hname, hbatch, howned, hn]
  exact ⟨n, by simp only [ofKey, hnotice], reports_of_endNotice hn⟩

/-! ## Passes over batches -/

/-- A pass does not come to announce the end of a child. -/
def IsReserved : Stage → Prop
  | .reporting n => n.tellsEnd = false
  | _ => True

theorem isReserved_proceed (agenda : Agenda) : agenda.proceed.IsReserved := by
  unfold Agenda.proceed
  split
  · trivial
  · split <;> trivial

theorem isReserved_prune (agenda : Agenda) (extras : List ObjectKey) :
    (agenda.prune extras).IsReserved := by
  cases extras with
  | nil => exact isReserved_proceed agenda
  | cons => trivial

theorem isReserved_purge (children : List ObjectKey) : (purge children).IsReserved := by
  cases children <;> trivial

theorem isReserved_ofKey (c : Caches) (key : ObjectKey) : (ofKey c (.batch key)).IsReserved := by
  simp only [ofKey]
  cases Decision.make c key with
  | purge children => exact isReserved_purge _
  | rest => trivial
  | refuse batch fault => trivial
  | proceed plan => exact isReserved_prune _ _

/-- What a pass over a batch comes to announce at last is the end of the batch. -/
theorem IsReserved.next {σ : Type} {env : Surroundings σ} {timeout : Duration} {stage : Stage}
    (h : stage.IsReserved) (now : Instant) (s : σ) :
    (stage.step env timeout now s).1.IsReserved := by
  -- Only a pass that closes its batch has something to announce at last.
  cases stage with
  | purging next others =>
    simp only [step]
    split
    · exact isReserved_purge others
    · trivial
  | pruning next others agenda => exact isReserved_prune agenda others
  | starting template agenda =>
    simp only [step]
    split
    · trivial
    · split <;> trivial
  | announcing child template agenda => trivial
  | complaining template refusal batch => trivial
  | adopting template refusal agenda =>
    simp only [step]
    split
    · trivial
    · split <;> trivial
  | confirming child poll moment agenda =>
    rw [step_confirming, afterLook]
    split
    · trivial
    · split
      · exact isReserved_proceed agenda
      · trivial
      · trivial
  | closing verdict batch =>
    simp only [step]
    split
    · trivial
    · exact verdict.tellsEnd_notification batch
  | reporting n => trivial
  | finished result => trivial

/-! ## What a turn publishes -/

/-- The notification that the next step publishes. -/
def published? : Stage → Option Notification
  | .announcing _ template agenda => some (startNotice agenda.batch template.name)
  | .complaining template refusal batch => some (refusalNotice batch template.name refusal)
  | .reporting n => some n
  | _ => none

/-- A pass that does not come to announce the end of a child does not publish it either. -/
theorem IsReserved.tellsEnd {stage : Stage} (h : stage.IsReserved) {n : Notification}
    (hn : stage.published? = some n) : n.tellsEnd = false := by
  cases stage with
  | announcing child template agenda =>
    cases hn
    exact Notification.tellsEnd_eq_false .childJobStarted rfl (by decide)
  | complaining template refusal batch =>
    cases hn
    exact Notification.tellsEnd_eq_false .childJobCreationFailed rfl (by decide)
  | reporting n =>
    cases hn
    exact h
  | purging | pruning | starting | adopting | confirming | closing | finished => cases hn

end Stage

/-- The notification that a call publishes. -/
def Call.notification? : Call → Option Notification
  | .published n => some n
  | .created .. | .listed .. | .deleted .. | .replaced .. => none

/-- The notifications that a turn publishes, as its calls tell. -/
def Turn.published {σ : Type} (env : Surroundings σ) (timeout : Duration) (turn : Turn σ) :
    List Notification :=
  (turn.calls env timeout).filterMap Call.notification?

/-- A turn publishes the notification that its stage is about. -/
theorem Turn.published_eq {σ : Type} (env : Surroundings σ) (timeout : Duration) (turn : Turn σ) :
    turn.published env timeout = turn.stage.published?.toList := by
  obtain ⟨now, stage, s⟩ := turn
  -- Whether a request fails decides where the pass goes on, but not what is published.
  cases stage with
  | purging next others =>
    simp only [published, calls, Stage.step, Surroundings.recorded]
    split <;> rfl
  | starting template agenda =>
    simp only [published, calls, Stage.step, Surroundings.recorded]
    split
    · rfl
    · split <;> rfl
  | adopting template refusal agenda =>
    simp only [published, calls, Stage.step, Surroundings.recorded]
    split
    · rfl
    · split <;> rfl
  | confirming child poll moment agenda =>
    rw [published, calls, Stage.step_confirming]
    rfl
  | closing verdict batch =>
    simp only [published, calls, Stage.step, Surroundings.recorded]
    split <;> rfl
  | pruning | announcing | complaining | reporting | finished => rfl

end BatchOperator
