import BatchOperator.Proofs.Reconcile.Confirmation
import BatchOperator.Proofs.Reconcile.Due

/-!
# Which templates a pass starts

The templates that a batch has still to start are those that it selects and that have no child
(`Caches.unstarted`), and a pass may start only some of them, none when too many children have
failed already (`Caches.quota`). A pass starts the first ones, one after the other in the order of
their names, until a start fails: then it ends with that failure and leaves out the others, and its
verdict as well (`Stage.Path.startsQuota`).

How a start ends can be seen from a single turn (`Turn.outcome?`), so that the starts of a pass can
be told from its turns.
-/

set_option autoImplicit false

namespace BatchOperator

variable {σ : Type} {env : Surroundings σ} {timeout : Duration}

/-! ## How starts end -/

namespace Turn

/-- How a start ends with a turn, if one does: its child is seen or was not seen in time, or there
is no child to look for. -/
def outcome? (env : Surroundings σ) (turn : Turn σ) : Option (Except Error Unit) :=
  match turn.stage with
  | .complaining _ refusal _ => some (.error refusal)
  | .adopting template refusal agenda =>
    let query := Stage.adoptionQuery agenda.batch template.name
    match (env.listChildren agenda.batch.metadata.nsOrDefault query turn.outside).1 with
    | .error e => some (.error e)
    | .ok listed =>
      if (Stage.firstOwned agenda.batch listed).isNone then some (.error refusal) else none
  | .confirming child poll moment _ =>
    if turn.now < moment then none
    else match poll.judge turn.now (if env.sees child turn.outside then some () else none) with
      | .ready () => some (.ok ())
      | .expired => some (.error poll.expiry)
      | .again _ => none
  | _ => none

/-- How the starts end that end with some turns. -/
def outcomes (env : Surroundings σ) (turns : List (Turn σ)) : List (Except Error Unit) :=
  turns.filterMap (outcome? env)

theorem outcomes_append (first rest : List (Turn σ)) :
    outcomes env (first ++ rest) = outcomes env first ++ outcomes env rest :=
  List.filterMap_append

end Turn

section Outcomes

variable {template : JobTemplate} {agenda : Agenda} {turns : List (Turn σ)}

/-- A start ends before the search only if it fails. -/
theorem Fetched.outcomes_eq {fetched : Except Error (Pod × Instant)}
    (h : Fetched env template agenda turns fetched) :
    Turn.outcomes env turns =
      match fetched with
      | .ok _ => []
      | .error e => [.error e] := by
  cases h with
  | created | refused => rfl
  | adopted hcreate there hlist first | missing hcreate there hlist first =>
    simp [Turn.outcomes, List.filterMap_cons, Turn.outcome?, hlist, first]
  | unlisted hcreate there hlist =>
    simp [Turn.outcomes, List.filterMap_cons, Turn.outcome?, hlist]

/-- A search ends with its result. -/
theorem Sought.outcomes_eq {child : ObjectKey} {poll : Poll} {moment : Instant}
    {result : Except Error Unit} (h : Sought env child poll agenda moment turns result) :
    Turn.outcomes env turns = [result] := by
  induction h with
  | early hearly _ ih =>
    rw [Turn.outcomes, List.filterMap_cons_none]
    · exact ih
    · exact if_pos hearly
  | seen due hsees =>
    simp [Turn.outcomes, Turn.outcome?, Nat.not_lt.mpr due, hsees, Poll.judge]
  | expired due unseen hlong =>
    simp [Turn.outcomes, Turn.outcome?, Nat.not_lt.mpr due, unseen, Poll.judge, hlong]
  | again due unseen hshort _ ih =>
    rw [Turn.outcomes, List.filterMap_cons_none]
    · exact ih
    · simp [Turn.outcome?, Nat.not_lt.mpr due, unseen, Poll.judge, Nat.not_le.mpr hshort]

/-- A start ends once, with its result. -/
theorem Started.outcomes_eq {result : Except Error Unit}
    (h : Started env timeout template agenda turns result) :
    Turn.outcomes env turns = [result] := by
  cases h with
  | failed fetched => exact fetched.outcomes_eq
  | sought fetched search =>
    rw [Turn.outcomes_append, fetched.outcomes_eq, search.outcomes_eq]
    rfl

/-- A start writes no status. -/
theorem Brings.filterMap_sent? {batch : JobBatch} {calls : List Call} {counts : List Count}
    {fetched : Except Error Pod} (h : Brings batch template calls counts fetched) :
    calls.filterMap Call.sent? = [] := by
  cases h <;> rfl

end Outcomes

/-! ## How a pass gets through its starts -/

/-- A pass that has ended has made all its starts, or those up to the first one that failed. -/
inductive Carried (env : Surroundings σ) (timeout : Duration) (orders : List Pod)
    (turns : List (Turn σ)) (result : Except Error Unit) : Prop where
  | all (houtcomes : Turn.outcomes env turns = List.replicate orders.length (.ok ()))
      (hmanifests : (Turn.allCalls env timeout turns).filterMap Call.manifest? = orders)
  /-- Such a pass ends with the failure, and writes nothing. -/
  | failed (k : Nat) (e : Error) (hk : k < orders.length)
      (houtcomes : Turn.outcomes env turns = List.replicate k (.ok ()) ++ [.error e])
      (hmanifests : (Turn.allCalls env timeout turns).filterMap Call.manifest? =
        orders.take (k + 1))
      (hresult : result = .error e)
      (hsent : (Turn.allCalls env timeout turns).filterMap Call.sent? = [])

/-- A pass has no more starts to make. -/
def Stage.IsPast : Stage → Prop
  | .closing .. | .reporting _ | .finished _ => True
  | _ => False

theorem Turn.isPast_next (turn : Turn σ) (h : turn.stage.IsPast) :
    (turn.next env timeout).IsPast := by
  obtain ⟨now, stage, s⟩ := turn
  cases stage with
  | closing verdict batch =>
    simp only [Turn.next, Stage.step]
    split <;> trivial
  | reporting | finished => trivial
  | purging | pruning | starting | announcing | complaining | adopting | confirming => cases h

namespace Stage.Path

variable {stage last : Stage} {turns : List (Turn σ)} {result : Except Error Unit}

theorem forall_isPast (h : Path env timeout stage turns last) (hpast : stage.IsPast) :
    ∀ turn ∈ turns, turn.stage.IsPast := by
  induction h with
  | rest => exact fun _ h => nomatch h
  | @turn now s stage last turns h ih =>
    exact List.forall_mem_cons.mpr ⟨hpast, ih (Turn.isPast_next ⟨now, stage, s⟩ hpast)⟩

/-- A pass that has no starts to make makes none. -/
theorem of_isPast (h : Path env timeout stage turns last) (hpast : stage.IsPast) :
    Turn.outcomes env turns = [] ∧
      (Turn.allCalls env timeout turns).filterMap Call.manifest? = [] := by
  have hstages := h.forall_isPast hpast
  constructor
  · refine List.filterMap_eq_nil_iff.mpr fun turn hturn => ?_
    have hstage := hstages turn hturn
    obtain ⟨now, stage, s⟩ := turn
    cases stage with
    | closing | reporting | finished => rfl
    | purging | pruning | starting | announcing | complaining | adopting | confirming =>
      cases hstage
  · refine (Turn.filterMap_allCalls env timeout turns Edit.created?).trans
      (List.filterMap_eq_nil_iff.mpr fun edit hedit => ?_)
    obtain ⟨turn, hturn, hasks⟩ := List.mem_filterMap.mp hedit
    have hstage := hstages turn hturn
    obtain ⟨now, stage, s⟩ := turn
    cases stage with
    | closing verdict batch =>
      cases hasks
      rfl
    | reporting | finished => cases hasks
    | purging | pruning | starting | announcing | complaining | adopting | confirming =>
      cases hstage

/-- A pass makes its starts one after the other, until one of them fails. -/
theorem carried_proceed {agenda : Agenda}
    (h : Path env timeout agenda.proceed turns (.finished result)) :
    Carried env timeout agenda.orders turns result := by
  obtain ⟨batch, starts, verdict⟩ := agenda
  induction starts generalizing turns with
  | nil =>
    have hpast : (Agenda.proceed ⟨batch, [], verdict⟩).IsPast := by
      cases verdict <;> trivial
    obtain ⟨houtcomes, hmanifests⟩ := h.of_isPast hpast
    exact .all houtcomes hmanifests
  | cons template starts ih =>
    obtain ⟨start, rest, result', rfl, hstarted, hrest⟩ | hmiddle := h.starting_cases
    · obtain ⟨fetched, hbrings, -⟩ := hstarted.exists_brings
      have houtcomes := hstarted.outcomes_eq
      have hmanifest := hbrings.created_eq
      have hsent := hbrings.filterMap_sent?
      cases result' with
      | ok =>
        cases ih hrest with
        | all houtcomes' hmanifests =>
          refine .all ?_ ?_
          · rw [Turn.outcomes_append, houtcomes, houtcomes']
            rfl
          · rw [Turn.allCalls_append, List.filterMap_append, hmanifest, hmanifests]
            rfl
        | failed k e hk houtcomes' hmanifests hresult hsent' =>
          refine .failed (k + 1) e (Nat.succ_lt_succ hk) ?_ ?_ hresult ?_
          · rw [Turn.outcomes_append, houtcomes, houtcomes']
            rfl
          · rw [Turn.allCalls_append, List.filterMap_append, hmanifest, hmanifests]
            rfl
          · rw [Turn.allCalls_append, List.filterMap_append, hsent, hsent']
            rfl
      | error e =>
        -- The pass has ended, and asks for nothing more.
        obtain ⟨hlast, hcalls⟩ := hrest.of_finished
        obtain ⟨hnone, -⟩ := hrest.of_isPast trivial
        cases hlast
        refine .failed 0 e (Nat.zero_lt_succ _) ?_ ?_ rfl ?_
        · rw [Turn.outcomes_append, houtcomes, hnone]
          rfl
        · rw [Turn.allCalls_append, hcalls, List.append_nil, hmanifest]
          rfl
        · rw [Turn.allCalls_append, hcalls, List.append_nil, hsent]
    · cases hmiddle

/-- The removals before the starts change nothing, whatever they come to. -/
theorem carried_prune {agenda : Agenda} {extras : List ObjectKey}
    (h : Path env timeout (agenda.prune extras) turns (.finished result)) :
    Carried env timeout agenda.orders turns result := by
  induction extras generalizing turns with
  | nil => exact h.carried_proceed
  | cons next others ih =>
    simp only [Agenda.prune] at h
    cases h with
    | turn now s h =>
      have hcalls : Turn.calls env timeout ⟨now, .pruning next others agenda, s⟩ =
          [.deleted next (env.deleteChild next s).1] := rfl
      cases ih h with
      | all houtcomes hmanifests =>
        refine .all houtcomes ?_
        rw [Turn.allCalls_cons, hcalls, List.filterMap_append, hmanifests]
        rfl
      | failed k e hk houtcomes hmanifests hresult hsent =>
        refine .failed k e hk houtcomes ?_ hresult ?_
        · rw [Turn.allCalls_cons, hcalls, List.filterMap_append, hmanifests]
          rfl
        · rw [Turn.allCalls_cons, hcalls, List.filterMap_append, hsent]
          rfl

end Stage.Path

/-! ## Which templates are to be started -/

namespace Caches

variable {c : Caches} {key : ObjectKey} {batch : JobBatch} {selector : Selector}

/-- The templates that are selected and have no child of the batch, in the order of their names. -/
def unstarted (c : Caches) (key : ObjectKey) (batch : JobBatch) (selector : Selector) :
    List JobTemplate :=
  (c.templates.list key.ns selector).filter fun template => c.IsSkipped key batch template

/-- More children have failed than a batch tolerates, of those that count for the templates that it
selects. -/
def IsOverrun (c : Caches) (key : ObjectKey) (batch : JobBatch) (selector : Selector) : Prop :=
  ∃ limit, batch.spec.maxFailures = some limit ∧
    max limit 0 < (c.standing key batch selector Phase.isFailure : Int)

instance : Decidable (c.IsOverrun key batch selector) := decidable_of_iff _ isOver_iff

/-- How many templates a pass may start: none when too many children have failed, else as many as
there are slots that are not taken by what runs under the name of the batch. -/
def quota (c : Caches) (key : ObjectKey) (batch : JobBatch) (selector : Selector) : Nat :=
  if c.IsOverrun key batch selector then 0
  else min (c.unstarted key batch selector).length
    (batch.slots - Pod.countUnfinished (c.childrenOf key)).toNat

theorem mem_unstarted {template : JobTemplate} :
    template ∈ c.unstarted key batch selector ↔
      template ∈ c.templates.list key.ns selector ∧ c.IsSkipped key batch template := by
  rw [unstarted, List.mem_filter, decide_eq_true_iff]

/-- They are in the order of their names, and no two of them have the same. -/
theorem pairwise_unstarted (keyed : c.templates.Keyed) :
    (c.unstarted key batch selector).Pairwise fun a b => a.name < b.name := by
  refine List.Pairwise.filter _ (Cache.pairwise_list_of_lt ?_)
  intro k k' a b ha hb hns hns' _ _ hlt
  have hname : a.name = k.name := Metadata.anyName_of_key (keyed k a ha)
  have hname' : b.name = k'.name := Metadata.anyName_of_key (keyed k' b hb)
  rw [hname, hname']
  -- Within a namespace, keys are in the order of their names.
  obtain hlt | ⟨-, hlt⟩ := ObjectKey.lt_iff.mp hlt
  · exact absurd (hns ▸ hns' ▸ hlt) (String.lt_irrefl _)
  · exact hlt

/-- What a plan starts are the first of them, as many as it may. -/
theorem starts_planOf (keyed : c.children.Keyed) :
    (c.planOf key batch (c.templates.list key.ns selector)).starts =
      (c.unstarted key batch selector).take (c.quota key batch selector) := by
  have hundispatched : Plan.undispatched (ChildIndex.build batch (c.childrenOf key))
      (c.templates.list key.ns selector) = c.unstarted key batch selector := by
    refine List.filter_congr fun template _ => ?_
    rw [Bool.eq_iff_iff, decide_eq_true_iff, isSkipped_iff, Bool.not_eq_true']
  have hover : Tally.isOver ⟨c.standing key batch selector Phase.isTerminal,
      c.standing key batch selector Phase.isFailure⟩ batch.failureThreshold = true ↔
        c.IsOverrun key batch selector := isOver_iff
  simp only [planOf, Plan.make, tally_eq keyed, hundispatched, Plan.freeSlots,
    ChildIndex.unfinished_build, quota]
  by_cases h : c.IsOverrun key batch selector
  · rw [if_pos (hover.mpr h), if_pos h, List.take_zero]
  · rw [if_neg (mt hover.mp h), if_neg h, List.take_eq_take_iff, Nat.min_right_comm, Nat.min_self]
    exact Nat.min_comm ..

theorem quota_le (c : Caches) (key : ObjectKey) (batch : JobBatch) (selector : Selector) :
    c.quota key batch selector ≤ (c.unstarted key batch selector).length := by
  unfold quota
  split
  · exact Nat.zero_le _
  · exact Nat.min_le_left ..

end Caches

/-- What can be said about the starts of a pass over a batch that has ended: they are made for the
first of the templates that have still to be started, as many as the quota of the batch, unless one
of them fails. -/
structure StartsQuota (env : Surroundings σ) (timeout : Duration) (c : Caches) (key : ObjectKey)
    (batch : JobBatch) (selector : Selector) (turns : List (Turn σ)) (result : Except Error Unit) :
    Prop where
  /-- The templates are in the order of their names. -/
  ordered : (c.unstarted key batch selector).Pairwise fun a b => a.name < b.name
  /-- Where no start fails, there are as many as there may be, and children are asked for one after
  the other, each of them once. -/
  all : (∀ outcome ∈ Turn.outcomes env turns, outcome = .ok ()) →
    (Turn.outcomes env turns).length = c.quota key batch selector ∧
      (Turn.allCalls env timeout turns).filterMap Call.manifest? =
        ((c.unstarted key batch selector).take (c.quota key batch selector)).map
          batch.childManifest
  /-- A start that fails is one of these, and the last one. The pass ends with its failure, and no
  status is sent to be written. -/
  failed : ∀ k e, (Turn.outcomes env turns)[k]? = some (.error e) →
    k < c.quota key batch selector ∧
      Turn.outcomes env turns = List.replicate k (.ok ()) ++ [.error e] ∧ result = .error e ∧
      (Turn.allCalls env timeout turns).filterMap Call.manifest? =
        ((c.unstarted key batch selector).take (k + 1)).map batch.childManifest ∧
      ∀ call ∈ Turn.allCalls env timeout turns, call.sent? = none

namespace Stage.Path

variable {c : Caches} {key : ObjectKey} {batch : JobBatch} {selector : Selector}
  {turns : List (Turn σ)} {result : Except Error Unit}

/-- The first failure among some outcomes is the only one. -/
theorem getElem?_replicate_append {k k' : Nat} {e e' : Error}
    (h : (List.replicate k' (.ok ()) ++ [.error e'] : List (Except Error Unit))[k]? =
      some (.error e)) : k = k' ∧ e = e' := by
  obtain hlt | rfl | hgt := Nat.lt_trichotomy k k'
  · rw [List.getElem?_append_left (by rwa [List.length_replicate])] at h
    cases List.eq_of_mem_replicate (List.mem_of_getElem? h)
  · rw [List.getElem?_append_right (by simp), List.length_replicate, Nat.sub_self] at h
    cases h
    exact ⟨rfl, rfl⟩
  · rw [List.getElem?_eq_none (by simpa using Nat.succ_le_of_lt hgt)] at h
    cases h

/-- A pass over a pending batch with a valid selector has orders for as many templates as it may
start. -/
theorem orders_eq_take (hbatch : c.batches.get? key = some batch)
    (hpending : batch.isComplete = false)
    (hselector : Selector.read batch.spec.selector = .ok selector) (keyed : c.children.Keyed) :
    (ofKey c (.batch key)).orders =
      ((c.unstarted key batch selector).take (c.quota key batch selector)).map
        batch.childManifest :=
  (orders_ofKey hbatch hpending hselector).1.trans
    (congrArg (List.map batch.childManifest) (Caches.starts_planOf keyed))

/-- It gets through them, up to the first one that fails. -/
theorem carried_ofKey (hbatch : c.batches.get? key = some batch)
    (hpending : batch.isComplete = false)
    (hselector : Selector.read batch.spec.selector = .ok selector)
    (h : Path env timeout (.ofKey c (.batch key)) turns (.finished result)) :
    Carried env timeout (ofKey c (.batch key)).orders turns result := by
  rw [ofKey, Decision.make_eq_proceed hbatch hpending hselector, ofDecision] at h ⊢
  rw [orders_prune]
  exact h.carried_prune

/-- A pass over a pending batch with a valid selector starts as many templates as it may, in the
order of their names, up to the first that fails, whatever is answered to the removals before. -/
theorem startsQuota (hbatch : c.batches.get? key = some batch) (hpending : batch.isComplete = false)
    (hselector : Selector.read batch.spec.selector = .ok selector) (keyed : c.Keyed)
    (h : Path env timeout (.ofKey c (.batch key)) turns (.finished result)) :
    StartsQuota env timeout c key batch selector turns result := by
  have hcarried := h.carried_ofKey hbatch hpending hselector
  rw [orders_eq_take hbatch hpending hselector keyed.children] at hcarried
  refine ⟨Caches.pairwise_unstarted keyed.templates, fun hok => ?_, fun k e hk => ?_⟩
  · cases hcarried with
    | all houtcomes hmanifests =>
      refine ⟨?_, hmanifests⟩
      rw [houtcomes, List.length_replicate, List.length_map, List.length_take]
      exact Nat.min_eq_left (c.quota_le key batch selector)
    | failed k e _ houtcomes =>
      cases hok (.error e) (houtcomes ▸ List.mem_append_right _ (List.mem_singleton_self _))
  · cases hcarried with
    | all houtcomes =>
      rw [houtcomes] at hk
      cases List.eq_of_mem_replicate (List.mem_of_getElem? hk)
    | failed k' e' hlt houtcomes hmanifests hresult hsent =>
      rw [houtcomes] at hk
      obtain ⟨rfl, rfl⟩ := getElem?_replicate_append hk
      rw [List.length_map, List.length_take, Nat.lt_min] at hlt
      refine ⟨hlt.1, houtcomes, hresult, ?_, List.filterMap_eq_nil_iff.mp hsent⟩
      rw [hmanifests, ← List.map_take, List.take_take, Nat.min_eq_left hlt.1]

end Stage.Path

/-! ## A start that fails between others -/

section Full

/-- A leftover that has ended. -/
def endedLeftover : Pod := { leftoverChild with status := some { phase := some "Failed" } }

/-- Caches with a small batch that has two slots, with three templates and with a leftover. -/
def fullCaches : Caches :=
  { batches := smallCaches.batches
    templates := (({} : Cache JobTemplate).replace (["t", "u", "v"].map fun name =>
      { smallTemplate with metadata := { smallTemplate.metadata with name := some name } })).2
    children := ⟨⟨[(⟨"n", "t-1"⟩, endedLeftover)], List.pairwise_singleton _ _⟩, true⟩ }

theorem keyed_fullCaches : fullCaches.Keyed :=
  ⟨Cache.keyed_singleton rfl true, Cache.keyed_replace _ _, Cache.keyed_singleton rfl true⟩

/-- Surroundings with room for one more child, in which nothing can be removed. -/
def fullSurroundings : Surroundings Bool where
  createChild manifest full :=
    (if full then .error (.internal "no room") else .ok manifest, true)
  listChildren _ _ full := (.ok [], full)
  deleteChild _ full := (.error (.internal "not now"), full)
  replaceStatus sent full := (.ok sent, full)
  publish _ full := full
  sees _ _ := true
  count _ full := full

/-- The turns of a pass over the batch. -/
def fullTurns : List (Turn Bool) :=
  Stage.turnsAt fullSurroundings (.ofSeconds 10) [0, 1, 2, 3, 4, 5]
    (.ofKey fullCaches (.batch ⟨"n", "b"⟩), false)

/-- Of two templates that may be started the second one fails, and the third one is left out. -/
theorem startsQuota_fullTurns :
    (Turn.outcomes fullSurroundings fullTurns).map Except.toOption = [some (), none] ∧
      ∃ selector, Selector.read smallBatch.spec.selector = .ok selector ∧
        fullCaches.quota ⟨"n", "b"⟩ smallBatch selector = 2 ∧
        (fullCaches.unstarted ⟨"n", "b"⟩ smallBatch selector).map (fun template => template.name) =
          ["t", "u", "v"] ∧
        StartsQuota fullSurroundings (.ofSeconds 10) fullCaches ⟨"n", "b"⟩ smallBatch selector
          fullTurns (.error (.internal "no room")) := by
  have hpath := Stage.path_after fullSurroundings (.ofSeconds 10) [0, 1, 2, 3, 4, 5]
    (.ofKey fullCaches (.batch ⟨"n", "b"⟩)) false
  have hlast : (Stage.after fullSurroundings (.ofSeconds 10) [0, 1, 2, 3, 4, 5]
      (.ofKey fullCaches (.batch ⟨"n", "b"⟩), false)).1 =
        .finished (.error (.internal "no room")) :=
    Stage.eq_finished_of_failure? (by decide +kernel) (by decide +kernel)
  rw [hlast] at hpath
  refine ⟨by decide +kernel, _, rfl, by decide +kernel, by decide +kernel, ?_⟩
  exact hpath.startsQuota rfl rfl rfl keyed_fullCaches

end Full

end BatchOperator
