import BatchOperator.Proofs.Reconcile.Frame

/-!
# What a pass asks for, one change after the other

The changes that a pass has asked for, followed by those that it has not asked for yet, are those
that it set out with, in the same order; only a pass that fails leaves some of them out
(`Stage.Path.asked_eq`, `Stage.Path.asked_prefix`). Failing removals of children that are too many
do not count as failures: whatever they are answered, they are asked for one after the other, one
with each turn, before anything else (`Stage.Path.removed_eq_take`).
-/

set_option autoImplicit false

namespace BatchOperator

/-- The batch that a change writes the status of, with the status. -/
def Edit.written? : Edit → Option JobBatch
  | .write sent => some sent
  | .create _ | .delete _ => none

namespace Call

/-- The manifest of the child that a call asks for. -/
def manifest? (call : Call) : Option Pod := call.edit?.bind Edit.created?

/-- The batch that a call sends to have its status written. -/
def sent? (call : Call) : Option JobBatch := call.edit?.bind Edit.written?

end Call

namespace Stage

/-- The changes that a pass has not asked for yet. A child that was there already when it was to be
created has been asked for. -/
def unasked : Stage → List Edit
  | .adopting _ _ agenda => agenda.proceed.script
  | stage => stage.script

theorem filterMap_written?_script (stage : Stage) :
    stage.script.filterMap Edit.written? = stage.ending?.toList := by
  have hdeletes : ∀ keys : List ObjectKey, (keys.map Edit.delete).filterMap Edit.written? = [] := by
    intro keys
    simp [List.filterMap_eq_nil_iff, Edit.written?]
  have hcreates : ∀ manifests : List Pod,
      (manifests.map Edit.create).filterMap Edit.written? = [] := by
    intro manifests
    simp [List.filterMap_eq_nil_iff, Edit.written?]
  rw [script, List.filterMap_append, List.filterMap_append, hdeletes, hcreates, List.filterMap_map]
  simp [Function.comp_def, Edit.written?]

/-- Whether a pass removes the children of a batch that is gone. -/
def isPurging : Stage → Bool
  | .purging .. => true
  | _ => false

@[simp] theorem unasked_proceed (agenda : Agenda) :
    agenda.proceed.unasked = agenda.proceed.script := by
  unfold Agenda.proceed
  split
  · rfl
  · split <;> rfl

@[simp] theorem unasked_prune (agenda : Agenda) (extras : List ObjectKey) :
    (agenda.prune extras).unasked = (agenda.prune extras).script := by
  cases extras with
  | nil => exact unasked_proceed agenda
  | cons => rfl

@[simp] theorem unasked_purge (children : List ObjectKey) :
    (purge children).unasked = (purge children).script := by
  cases children <;> rfl

/-- A pass that begins has asked for nothing. -/
theorem unasked_ofKey (c : Caches) (key : ObjectKey) :
    (ofKey c (.batch key)).unasked = (ofKey c (.batch key)).script := by
  simp only [ofKey]
  cases Decision.make c key with
  | purge children => exact unasked_purge _
  | rest => rfl
  | refuse batch fault => rfl
  | proceed plan => exact unasked_prune _ _

theorem unasked_of_isFailing {stage : Stage} (h : stage.isFailing = true) :
    stage.unasked = [] := by
  cases stage <;> first | rfl | cases h

@[simp] theorem isPurging_proceed (agenda : Agenda) : agenda.proceed.isPurging = false := by
  unfold Agenda.proceed
  split
  · rfl
  · split <;> rfl

@[simp] theorem isPurging_prune (agenda : Agenda) (extras : List ObjectKey) :
    (agenda.prune extras).isPurging = false := by
  cases extras with
  | nil => exact isPurging_proceed agenda
  | cons => rfl

/-- A pass over a batch that is cached does not remove all its children. -/
theorem isPurging_ofKey {c : Caches} {key : ObjectKey} {batch : JobBatch}
    (hbatch : c.batches.get? key = some batch) : (ofKey c (.batch key)).isPurging = false := by
  obtain ⟨hnone, -⟩ | ⟨_, -, -, hdecision⟩ | ⟨_, _, -, hdecision⟩ |
    ⟨_, selector, hbatch, hpending, hselector⟩ := Decision.make_cases c key
  · cases hbatch.symm.trans hnone
  · rw [ofKey, hdecision]
    rfl
  · rw [ofKey, hdecision]
    rfl
  · rw [ofKey, Decision.make_eq_proceed hbatch hpending hselector]
    exact isPurging_prune _ _

end Stage

variable {σ : Type}

namespace Turn

/-- The changes that are asked for in some turns. -/
def asked (turns : List (Turn σ)) : List Edit := turns.filterMap fun turn => turn.stage.edit?

/-- The calls of some turns. -/
def allCalls (env : Surroundings σ) (timeout : Duration) (turns : List (Turn σ)) : List Call :=
  turns.flatMap (calls env timeout)

variable (env : Surroundings σ) (timeout : Duration)

theorem allCalls_cons (turn : Turn σ) (turns : List (Turn σ)) :
    allCalls env timeout (turn :: turns) =
      turn.calls env timeout ++ allCalls env timeout turns := List.flatMap_cons

theorem allCalls_append (first rest : List (Turn σ)) :
    allCalls env timeout (first ++ rest) =
      allCalls env timeout first ++ allCalls env timeout rest := List.flatMap_append

/-- The changes that the calls of some turns ask for. -/
theorem filterMap_edit?_allCalls (turns : List (Turn σ)) :
    (allCalls env timeout turns).filterMap Call.edit? = asked turns := by
  induction turns with
  | nil => rfl
  | cons turn turns ih =>
    rw [allCalls_cons, List.filterMap_append, filterMap_edit?_calls, ih, asked, asked,
      List.filterMap_cons]
    cases turn.stage.edit? <;> rfl

/-- What the calls of some turns ask for in one respect. -/
theorem filterMap_allCalls {α : Type} (turns : List (Turn σ)) (f : Edit → Option α) :
    (allCalls env timeout turns).filterMap (fun call => call.edit?.bind f) =
      (asked turns).filterMap f := by
  rw [← filterMap_edit?_allCalls env timeout, List.filterMap_filterMap]

/-- A change is asked for by a call. -/
theorem exists_call_of_mem_asked {turns : List (Turn σ)} {edit : Edit} (h : edit ∈ asked turns) :
    ∃ call ∈ allCalls env timeout turns, call.edit? = some edit := by
  rwa [← filterMap_edit?_allCalls env timeout, List.mem_filterMap] at h

theorem asked_cons (turn : Turn σ) (turns : List (Turn σ)) :
    asked (turn :: turns) = turn.stage.edit?.toList ++ asked turns := by
  rw [asked, List.filterMap_cons]
  cases turn.stage.edit? <;> rfl

/-- A turn asks for the first of the changes that were not asked for before, if it asks for one, and
leaves the others; or the pass fails. -/
theorem asks (turn : Turn σ) :
    turn.stage.edit?.toList ++ (turn.next env timeout).unasked = turn.stage.unasked ∨
      (turn.next env timeout).isFailing = true ∧
        turn.stage.edit?.toList <+: turn.stage.unasked := by
  obtain ⟨now, stage, s⟩ := turn
  cases stage with
  | purging next others =>
    simp only [Turn.next, Stage.step]
    split
    · refine .inl ?_
      rw [Stage.unasked_purge, Stage.script_purge]
      simp [Stage.unasked, Stage.edit?, Stage.script, Stage.removals, Stage.orders, Stage.ending?]
    · refine .inr ⟨rfl, ?_⟩
      simp [Stage.unasked, Stage.edit?, Stage.script, Stage.removals]
  | pruning next others agenda =>
    refine .inl ?_
    rw [Turn.next, Stage.step, Stage.unasked_prune, Stage.script_prune, Stage.script_proceed]
    simp [Stage.unasked, Stage.edit?, Stage.script, Stage.removals, Stage.orders, Stage.ending?]
  | starting template agenda =>
    simp only [Turn.next, Stage.step]
    split
    · exact .inl rfl
    · split
      · refine .inl ?_
        rw [Stage.unasked, Stage.script_proceed]
        rfl
      · exact .inr ⟨rfl, ⟨_, rfl⟩⟩
  | announcing child template agenda => exact .inl rfl
  | complaining template refusal batch => exact .inr ⟨rfl, List.nil_prefix⟩
  | adopting template refusal agenda =>
    simp only [Turn.next, Stage.step]
    split
    · exact .inr ⟨rfl, List.nil_prefix⟩
    · split
      · refine .inl ?_
        rw [Stage.unasked, Stage.script_proceed]
        rfl
      · exact .inr ⟨rfl, List.nil_prefix⟩
  | confirming child poll moment agenda =>
    rw [next_confirming, Stage.afterLook]
    split
    · exact .inl rfl
    · split
      · refine .inl ?_
        rw [Stage.unasked_proceed, Stage.script_proceed]
        rfl
      · exact .inr ⟨rfl, List.nil_prefix⟩
      · exact .inl rfl
  | closing verdict batch =>
    simp only [Turn.next, Stage.step]
    split
    · exact .inr ⟨rfl, ⟨[], rfl⟩⟩
    · exact .inl rfl
  | reporting notification => exact .inl rfl
  | finished result =>
    cases result with
    | ok => exact .inl rfl
    | error e => exact .inr ⟨rfl, List.nil_prefix⟩

/-- A turn asks for the removal of the first child that is too many, and leaves the others, whatever
the answer is. -/
theorem removes (turn : Turn σ) (hpurging : turn.stage.isPurging = false) :
    (turn.next env timeout).isPurging = false ∧
      (turn.next env timeout).removals = turn.stage.removals.tail ∧
      turn.stage.edit?.toList.filterMap Edit.removed? = turn.stage.removals.take 1 := by
  obtain ⟨now, stage, s⟩ := turn
  cases stage with
  | purging next others => cases hpurging
  | pruning next others agenda =>
    exact ⟨Stage.isPurging_prune agenda others, Stage.removals_prune agenda others, rfl⟩
  | starting template agenda =>
    simp only [Turn.next, Stage.step]
    split
    · exact ⟨rfl, rfl, rfl⟩
    · split <;> exact ⟨rfl, rfl, rfl⟩
  | adopting template refusal agenda =>
    simp only [Turn.next, Stage.step]
    split
    · exact ⟨rfl, rfl, rfl⟩
    · split <;> exact ⟨rfl, rfl, rfl⟩
  | confirming child poll moment agenda =>
    rw [next_confirming, Stage.afterLook]
    split
    · exact ⟨rfl, rfl, rfl⟩
    · split
      · exact ⟨Stage.isPurging_proceed agenda, Stage.removals_proceed agenda, rfl⟩
      all_goals exact ⟨rfl, rfl, rfl⟩
  | closing verdict batch =>
    simp only [Turn.next, Stage.step]
    split <;> exact ⟨rfl, rfl, rfl⟩
  | announcing | complaining | reporting | finished => exact ⟨rfl, rfl, rfl⟩

end Turn

namespace Stage.Path

variable {env : Surroundings σ} {timeout : Duration} {stage last : Stage} {turns : List (Turn σ)}

/-- A pass that has ended makes no calls. -/
theorem of_finished {result : Except Error Unit}
    (h : Path env timeout (.finished result) turns last) :
    last = .finished result ∧ Turn.allCalls env timeout turns = [] := by
  generalize hstage : Stage.finished result = stage at h
  induction h with
  | rest => exact ⟨rfl, rfl⟩
  | @turn now s stage last turns h ih =>
    subst hstage
    exact ih rfl

/-- A pass that has not failed has asked for all changes that it set out with but for those that it
has still to ask for. -/
theorem asked_eq (h : Path env timeout stage turns last) (hlast : last.isFailing = false) :
    Turn.asked turns ++ last.unasked = stage.unasked := by
  induction h with
  | rest => rfl
  | @turn now s stage last turns h ih =>
    rcases Turn.asks env timeout ⟨now, stage, s⟩ with hasks | ⟨hfails, -⟩
    · rw [Turn.asked_cons, List.append_assoc, ih hlast]
      exact hasks
    · cases (h.isFailing_last hfails).symm.trans hlast

/-- A pass asks for the changes that it set out with, in their order, as far as it gets. -/
theorem asked_prefix (h : Path env timeout stage turns last) :
    Turn.asked turns ++ last.unasked <+: stage.unasked := by
  induction h with
  | rest => exact List.prefix_rfl
  | @turn now s stage last turns h ih =>
    rw [Turn.asked_cons, List.append_assoc]
    rcases Turn.asks env timeout ⟨now, stage, s⟩ with
      hasks | ⟨hfails, hasks⟩
    · rw [← hasks]
      exact (List.prefix_append_right_inj _).2 ih
    · -- After a failure nothing more is asked for.
      have hnil : Turn.asked turns ++ last.unasked = [] := by
        rw [← List.prefix_nil, ← unasked_of_isFailing hfails]
        exact ih
      rw [hnil, List.append_nil]
      exact hasks

section Begins

variable {c : Caches} {key : ObjectKey}

/-- What a pass over a batch asks for is what it has begun with, as far as it gets. -/
theorem asked_prefix_script (h : Path env timeout (.ofKey c (.batch key)) turns last) :
    Turn.asked turns <+: (ofKey c (.batch key)).script :=
  (List.prefix_append _ _).trans (unasked_ofKey c key ▸ h.asked_prefix)

/-- The children that a pass asks for are those that it has set out to start, as far as it gets. -/
theorem manifests_prefix (h : Path env timeout (.ofKey c (.batch key)) turns last) :
    (Turn.allCalls env timeout turns).filterMap Call.manifest? <+:
      (ofKey c (.batch key)).orders := by
  rw [← filterMap_created?_script]
  exact Turn.filterMap_allCalls env timeout turns Edit.created? ▸ h.asked_prefix_script.filterMap _

/-- What a pass sends is the status that it has set out to write, if it sends anything. -/
theorem sent_prefix (h : Path env timeout (.ofKey c (.batch key)) turns last) :
    (Turn.allCalls env timeout turns).filterMap Call.sent? <+:
      (ofKey c (.batch key)).ending?.toList := by
  rw [← filterMap_written?_script]
  exact Turn.filterMap_allCalls env timeout turns Edit.written? ▸ h.asked_prefix_script.filterMap _

end Begins

/-- Children that are too many are removed one after the other, one with each turn. -/
theorem removed_eq_take (h : Path env timeout stage turns last)
    (hpurging : stage.isPurging = false) :
    (Turn.asked turns).filterMap Edit.removed? = stage.removals.take turns.length ∧
      last.removals = stage.removals.drop turns.length := by
  induction h with
  | rest => exact ⟨rfl, rfl⟩
  | @turn now s stage last turns h ih =>
    obtain ⟨hnext, hrest, hfirst⟩ :=
      Turn.removes env timeout ⟨now, stage, s⟩ hpurging
    obtain ⟨hasked, hlast⟩ := ih hnext
    change (stage.step env timeout now s).1.removals = stage.removals.tail at hrest
    rw [hrest] at hasked hlast
    rw [Turn.asked_cons, List.filterMap_append, hfirst, hasked, hlast]
    cases stage.removals with
    | nil => simp
    | cons next others => exact ⟨rfl, rfl⟩

end Stage.Path

end BatchOperator
