import BatchOperator.Proofs.Reconcile.Asked
import BatchOperator.Proofs.Reconcile.Due
import BatchOperator.Proofs.Reconcile.History
import BatchOperator.Proofs.Reconcile.Notices

/-!
# What a pass over a pending batch writes, and when

Whatever is outside and however the calls are answered, a pass over a pending batch asks for a
status to be written once if the batch is due when the pass begins, and not at all if it is not;
what is written is told by the children that count (`Stage.Path.writes_of_pending`). A pass that is
to write a status has only removals to make before that, and they cannot stop it
(`Stage.Path.sends_or_prunes`). A status that was written, and an end that was announced, leave
nothing to fail (`Stage.IsSettled`).
-/

set_option autoImplicit false

namespace BatchOperator

namespace Stage

@[simp] theorem awaited?_proceed (agenda : Agenda) : agenda.proceed.awaited? = none := by
  unfold Agenda.proceed
  split
  · rfl
  · split <;> rfl

@[simp] theorem awaited?_prune (agenda : Agenda) (extras : List ObjectKey) :
    (agenda.prune extras).awaited? = none := by
  cases extras with
  | nil => exact awaited?_proceed agenda
  | cons => rfl

@[simp] theorem awaited?_purge (children : List ObjectKey) :
    (purge children).awaited? = none := by
  cases children <;> rfl

/-- A pass that begins waits for no child. -/
theorem awaited?_ofKey (c : Caches) (key : ObjectKey) :
    (ofKey c (.batch key)).awaited? = none := by
  simp only [ofKey]
  cases Decision.make c key with
  | purge children => exact awaited?_purge _
  | rest => rfl
  | refuse batch fault => rfl
  | proceed plan => exact awaited?_prune _ _

/-- A pass removes no more than the children that carry the name of its batch. -/
theorem length_removals_ofKey_le (c : Caches) (key : ObjectKey) :
    (ofKey c (.batch key)).removals.length ≤ (c.childrenOf key).length := by
  obtain ⟨-, hdecision⟩ | ⟨batch, -, -, hdecision⟩ | ⟨batch, fault, -, hdecision⟩ |
    ⟨batch, selector, hbatch, hpending, hselector⟩ := Decision.make_cases c key
  · refine Nat.le_of_eq ?_
    rw [ofKey, hdecision, ofDecision, removals_purge, List.length_map]
  · rw [ofKey, hdecision]
    exact Nat.zero_le _
  · rw [ofKey, hdecision]
    exact Nat.zero_le _
  · have hle := ChildIndex.length_leftovers_add_duplicates_le batch
      (Pod.inCreationOrder (c.childrenOf key)) {}
    rw [(Pod.perm_inCreationOrder _).length_eq] at hle
    rw [ofKey, Decision.make_eq_proceed hbatch hpending hselector, ofDecision, removals_prune,
      List.length_map, Plan.make, List.length_append]
    simpa [ChildIndex.build] using hle

/-- A pass has written the status of its batch, or has ended well: it cannot fail any more. -/
def IsSettled : Stage → Prop
  | .reporting _ | .finished (.ok ()) => True
  | _ => False

end Stage

/-! ## One turn -/

namespace Turn

variable {σ : Type} (env : Surroundings σ) (timeout : Duration)

/-- A pass that has only a status to write asks for that, or makes one of the removals that come
before it. -/
theorem sends_or_prunes (turn : Turn σ) {sent : JobBatch} (horders : turn.stage.orders = [])
    (hending : turn.stage.ending? = some sent) (hawaited : turn.stage.awaited? = none) :
    turn.stage.edit? = some (.write sent) ∨
      (turn.next env timeout).orders = [] ∧ (turn.next env timeout).ending? = some sent ∧
        (turn.next env timeout).awaited? = none ∧
        turn.stage.removals.length = (turn.next env timeout).removals.length + 1 := by
  obtain ⟨now, stage, s⟩ := turn
  cases stage with
  | pruning next others agenda =>
    -- The answer to the removal does not matter.
    refine .inr ⟨?_, ?_, Stage.awaited?_prune agenda others, ?_⟩
    · exact (Stage.orders_prune agenda others).trans horders
    · exact (Stage.ending?_prune agenda others).trans hending
    · exact congrArg (·.length + 1) (Stage.removals_prune agenda others).symm
  | closing verdict batch =>
    obtain rfl := Option.some.inj hending
    exact .inl rfl
  | starting | adopting => cases horders
  | announcing | confirming => cases hawaited
  | purging | complaining | reporting | finished => cases hending

theorem isSettled_next (turn : Turn σ) (h : turn.stage.IsSettled) :
    (turn.next env timeout).IsSettled := by
  obtain ⟨now, stage, s⟩ := turn
  cases stage with
  | reporting notification => trivial
  | finished result => exact h
  | purging | pruning | starting | announcing | complaining | adopting | confirming | closing =>
    cases h

/-- Once the status is written the pass cannot fail. -/
theorem isSettled_of_replaced (turn : Turn σ) {sent answer : JobBatch}
    (h : .replaced sent (.ok answer) ∈ turn.calls env timeout) :
    (turn.next env timeout).IsSettled := by
  obtain ⟨now, stage, s⟩ := turn
  cases stage with
  | closing verdict batch =>
    rcases hcall : env.replaceStatus (batch.withStatus verdict.status) s with ⟨e | answer', s'⟩
    · simp [calls, Stage.step, Surroundings.recorded, Recorded.after, hcall] at h
    · simp only [next, Stage.step, hcall]
      trivial
  | purging | pruning | starting | announcing | complaining | adopting | confirming | reporting
  | finished =>
    -- No other stage asks for a status to be written.
    have hmem : Edit.write sent ∈ (calls env timeout ⟨now, _, s⟩).filterMap Call.edit? :=
      List.mem_filterMap.2 ⟨_, h, rfl⟩
    rw [filterMap_edit?_calls] at hmem
    simp [Stage.edit?] at hmem

/-- Once the end of a batch is announced the pass cannot fail. -/
theorem isSettled_of_published (turn : Turn σ) {n : Notification} {uid : Option String}
    (h : .published n ∈ turn.calls env timeout) (hend : n.isEndOf uid = true) :
    (turn.next env timeout).IsSettled := by
  have hmem : n ∈ turn.published env timeout := List.mem_filterMap.2 ⟨_, h, rfl⟩
  rw [published_eq, Option.mem_toList] at hmem
  obtain ⟨now, stage, s⟩ := turn
  cases stage with
  | announcing child template agenda =>
    cases hmem
    cases (Stage.isEndOf_startNotice agenda.batch template.name uid).symm.trans hend
  | complaining template refusal batch =>
    cases hmem
    cases (Stage.isEndOf_refusalNotice batch template.name refusal uid).symm.trans hend
  | reporting notification => trivial
  | purging | pruning | starting | adopting | confirming | closing | finished => cases hmem

end Turn

/-! ## A whole pass -/

variable {σ : Type} {env : Surroundings σ} {timeout : Duration}

namespace Stage.Path

variable {stage last : Stage} {turns : List (Turn σ)}

/-- A pass that has only a status to write asks for that as soon as all removals are made. -/
theorem sends_or_prunes (h : Path env timeout stage turns last) {sent : JobBatch}
    (horders : stage.orders = []) (hending : stage.ending? = some sent)
    (hawaited : stage.awaited? = none) :
    .write sent ∈ Turn.asked turns ∨
      last.ending? = some sent ∧ turns.length ≤ stage.removals.length := by
  induction h with
  | rest => exact .inr ⟨hending, Nat.zero_le _⟩
  | @turn now s stage last turns h ih =>
    rw [Turn.asked_cons, List.mem_append, Option.mem_toList]
    rcases Turn.sends_or_prunes env timeout ⟨now, stage, s⟩ horders hending
      hawaited with hsends | ⟨horders', hending', hawaited', hlength⟩
    · exact .inl (.inl hsends)
    · rcases ih horders' hending' hawaited' with hsends | ⟨hlast, hle⟩
      · exact .inl (.inr hsends)
      · refine .inr ⟨hlast, ?_⟩
        change stage.removals.length = (stage.step env timeout now s).1.removals.length + 1
          at hlength
        rw [List.length_cons, hlength]
        exact Nat.succ_le_succ hle

/-- A pass that cannot fail after one of its turns does not. -/
theorem isSettled_last (h : Path env timeout stage turns last) {turn : Turn σ}
    (hturn : turn ∈ turns) (hnext : (turn.next env timeout).IsSettled) : last.IsSettled := by
  have hkept : ∀ {stage last : Stage} {turns : List (Turn σ)},
      Path env timeout stage turns last → stage.IsSettled → last.IsSettled := by
    intro stage last turns h hstage
    induction h with
    | rest => exact hstage
    | @turn now s stage last turns h ih =>
      exact ih (Turn.isSettled_next env timeout ⟨now, stage, s⟩ hstage)
  induction h with
  | rest => cases hturn
  | @turn now s stage last turns h ih =>
    rcases List.mem_cons.1 hturn with rfl | hturn
    · exact hkept h hnext
    · exact ih hturn

/-- A pass that fails has written no status and announced no end. -/
theorem silent_of_failed {e : Error} (h : Path env timeout stage turns (.finished (.error e))) :
    (∀ sent answer, .replaced sent (.ok answer) ∉ Turn.allCalls env timeout turns) ∧
      ∀ n, .published n ∈ Turn.allCalls env timeout turns → ∀ uid, n.isEndOf uid = false := by
  constructor
  · intro sent answer hreplaced
    obtain ⟨turn, hturn, hcall⟩ := List.mem_flatMap.1 hreplaced
    exact h.isSettled_last hturn (turn.isSettled_of_replaced env timeout hcall)
  · intro n hpublished uid
    refine Bool.eq_false_iff.2 fun hend => ?_
    obtain ⟨turn, hturn, hcall⟩ := List.mem_flatMap.1 hpublished
    exact h.isSettled_last hturn (turn.isSettled_of_published env timeout hcall hend)

section Begins

variable {c : Caches} {key : ObjectKey} {batch : JobBatch}

/-- What a pass sends is the status that it has begun with. -/
theorem ending?_of_call (h : Path env timeout (.ofKey c (.batch key)) turns last) {call : Call}
    (hcall : call ∈ Turn.allCalls env timeout turns) {sent : JobBatch}
    (hsent : call.sent? = some sent) : (ofKey c (.batch key)).ending? = some sent :=
  Option.mem_toList.1 (h.sent_prefix.subset (List.mem_filterMap.2 ⟨call, hcall, hsent⟩))

/-- A pass that has begun with nothing but a status to write sends it before it ends, and before it
has made more turns than there are children. -/
theorem sends_of_ending? (h : Path env timeout (.ofKey c (.batch key)) turns last)
    {sent : JobBatch} (horders : (ofKey c (.batch key)).orders = [])
    (hending : (ofKey c (.batch key)).ending? = some sent)
    (hlast : (∃ result, last = .finished result) ∨ (c.childrenOf key).length < turns.length) :
    ∃ call ∈ Turn.allCalls env timeout turns, call.sent?.isSome = true := by
  rcases h.sends_or_prunes horders hending (awaited?_ofKey c key) with hwrites | ⟨hrest, hle⟩
  · obtain ⟨call, hcall, hedit⟩ := Turn.exists_call_of_mem_asked env timeout hwrites
    exact ⟨call, hcall, by rw [Call.sent?, hedit]; rfl⟩
  · -- A pass with a status still to send is neither at its end nor beyond its removals.
    rcases hlast with ⟨result, rfl⟩ | hlong
    · cases hrest
    · have hextras := length_removals_ofKey_le c key
      omega

/-- What a pass over a pending batch sends is what is to be written about the batch, which is due. -/
theorem isDue_of_sent? (h : Path env timeout (.ofKey c (.batch key)) turns last)
    (hbatch : c.batches.get? key = some batch) (hpending : batch.isComplete = false)
    (keyed : c.children.Keyed) {call : Call} (hcall : call ∈ Turn.allCalls env timeout turns)
    {sent : JobBatch} (hsent : call.sent? = some sent) :
    c.IsDue key batch ∧ c.IsEnded key batch sent := by
  have hending := h.ending?_of_call hcall hsent
  refine ⟨(isDue_iff_ending?_ofKey hbatch hpending keyed).2 ?_, ?_⟩
  · rw [hending]
    rfl
  · exact (isEnded_of_ending?_ofKey hbatch hpending keyed hending).2

/-- About a pending batch that is due something is sent by a pass that has ended, and by one that
has made more turns than there are children. -/
theorem sends_of_isDue (h : Path env timeout (.ofKey c (.batch key)) turns last)
    (hbatch : c.batches.get? key = some batch) (hpending : batch.isComplete = false)
    (keyed : c.children.Keyed) (hdue : c.IsDue key batch)
    (hlast : (∃ result, last = .finished result) ∨ (c.childrenOf key).length < turns.length) :
    ∃ call ∈ Turn.allCalls env timeout turns, call.sent?.isSome = true := by
  obtain ⟨sent, hending⟩ := Option.isSome_iff_exists.1
    ((isDue_iff_ending?_ofKey hbatch hpending keyed).1 hdue)
  obtain ⟨horders, -⟩ := isEnded_of_ending?_ofKey hbatch hpending keyed hending
  exact h.sends_of_ending? horders hending hlast

end Begins

end Stage.Path

/-! ## The result -/

/-- What the calls of a pass over a pending batch write, as far as the pass has come. -/
structure Caches.WrittenBy (env : Surroundings σ) (timeout : Duration) (c : Caches)
    (key : ObjectKey) (batch : JobBatch) (turns : List (Turn σ)) (last : Stage) : Prop where
  /-- A status is asked to be written once at most. -/
  once : ((Turn.allCalls env timeout turns).filterMap Call.sent?).length ≤ 1
  /-- What is sent is what is to be written about the batch, which is due. -/
  due : ∀ call ∈ Turn.allCalls env timeout turns, ∀ sent, call.sent? = some sent →
    c.IsDue key batch ∧ c.IsEnded key batch sent
  /-- About a batch that is due something is sent by every pass that has ended, and by every pass
  that has made more turns than there are children. -/
  always : c.IsDue key batch →
    (∃ result, last = .finished result) ∨ (c.childrenOf key).length < turns.length →
      ∃ call ∈ Turn.allCalls env timeout turns, call.sent?.isSome = true
  /-- A pass that asks for a child does not send anything. -/
  apart : ∀ manifest answer, .created manifest answer ∈ Turn.allCalls env timeout turns →
    ∀ call ∈ Turn.allCalls env timeout turns, call.sent? = none
  /-- A pass that fails has neither written the end of a batch nor announced it. -/
  failed : ∀ e, last = .finished (.error e) →
    (∀ sent answer, .replaced sent (.ok answer) ∉ Turn.allCalls env timeout turns) ∧
      ∀ n, .published n ∈ Turn.allCalls env timeout turns → ∀ uid, n.isEndOf uid = false

/-- A pass over a pending batch asks for a status to be written when the batch is due and not
otherwise, at most once and without creating a child, and only a pass that does not fail has written
or announced the end of the batch. -/
theorem Stage.Path.writes_of_pending {c : Caches} {key : ObjectKey} {batch : JobBatch}
    {turns : List (Turn σ)} {last : Stage} (hbatch : c.batches.get? key = some batch)
    (hpending : batch.isComplete = false) (keyed : c.children.Keyed)
    (hpass : Path env timeout (.ofKey c (.batch key)) turns last) :
    c.WrittenBy env timeout key batch turns last := by
  refine ⟨?_, ?_, ?_, ?_, ?_⟩
  · have hle := hpass.sent_prefix.length_le
    cases hending : (ofKey c (.batch key)).ending? with
    | none =>
      rw [hending] at hle
      exact Nat.le_succ_of_le hle
    | some sent =>
      rw [hending] at hle
      exact hle
  · intro call hcall sent hsent
    exact hpass.isDue_of_sent? hbatch hpending keyed hcall hsent
  · intro hdue hlast
    exact hpass.sends_of_isDue hbatch hpending keyed hdue hlast
  · intro manifest answer hcreated call hcall
    refine Option.eq_none_iff_forall_ne_some.2 fun sent hsent => ?_
    have hending := hpass.ending?_of_call hcall hsent
    obtain ⟨horders, -⟩ := isEnded_of_ending?_ofKey hbatch hpending keyed hending
    obtain ⟨turn, hturn, hcreates⟩ := List.mem_flatMap.1 hcreated
    have hmem := hpass.mem_orders_of_created hturn hcreates
    rw [horders] at hmem
    cases hmem
  · rintro e rfl
    exact hpass.silent_of_failed

/-- A small batch whose child has failed is due, and the first turn writes that it has come to its
end. -/
theorem writes_of_failedChild :
    failedCaches.IsDue ⟨"n", "b"⟩ smallBatch ∧
      (∃ turn ∈ turnsFrom failedCaches [0], turn.sent?.isSome = true) ∧
      failedCaches.WrittenBy Caches.store (.ofSeconds 10) ⟨"n", "b"⟩ smallBatch
        (turnsFrom failedCaches [0])
        (Stage.after Caches.store (.ofSeconds 10) [0]
          (.ofKey failedCaches (.batch ⟨"n", "b"⟩), failedCaches)).1 := by
  refine ⟨.ended rfl ?_, ?_, ?_⟩
  · decide +kernel
  · decide +kernel
  · exact Stage.Path.writes_of_pending rfl rfl (Cache.keyed_singleton rfl true)
      (Stage.path_after Caches.store (.ofSeconds 10) [0] _ failedCaches)

end BatchOperator
