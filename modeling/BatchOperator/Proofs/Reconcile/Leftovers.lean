import BatchOperator.Proofs.Reconcile.Ending
import BatchOperator.Proofs.Reconcile.Origins
import Mathlib.Data.List.Perm.Subperm

/-!
# What leftovers have no part in

A leftover carries the name of a batch and is controlled by something with another UID: an earlier
batch of the same name. Two caches that differ only in leftovers (`Caches.SameButLeftovers`) show
the same children that count, and whatever two passes write that begin from them is the same
(`Caches.SameButLeftovers.isEnded_eq`). Leftovers hold slots and are waited for, so without them a
pass starts no fewer children and is due no later (`Caches.SameButLeftovers.starts_prefix`,
`Caches.SameButLeftovers.isDue`). Every pass over a pending batch with a valid selector asks for
their removal (`Stage.Path.removes_leftover`), and nothing is ever announced about one
(`Stage.Path.allCalls_eq_nil_of_leftover`).
-/

set_option autoImplicit false

namespace BatchOperator

/-- A pass over a batch that is complete has nothing to do. -/
theorem Stage.ofKey_of_complete {c : Caches} {key : ObjectKey} {batch : JobBatch}
    (hbatch : c.batches.get? key = some batch) (hcomplete : batch.isComplete = true) :
    ofKey c (.batch key) = .finished (.ok ()) := by
  simp only [ofKey, Decision.make, hbatch, hcomplete, if_true, ofDecision]

namespace Caches

variable {c c' : Caches} {key : ObjectKey} {batch : JobBatch} {selector : Selector}

/-- A pod under a key is a leftover of a batch: it carries the name of the batch in its namespace,
and what controls it has another UID than the batch. -/
def IsLeftover (key : ObjectKey) (batch : JobBatch) (k : ObjectKey) (pod : Pod) : Prop :=
  IsChild key k pod ∧ ∃ owner uid, pod.controllerUid = some owner ∧
    batch.metadata.uid = some uid ∧ owner ≠ uid

theorem isLeftover_iff {k : ObjectKey} {pod : Pod} :
    IsLeftover key batch k pod ↔ IsChild key k pod ∧ pod.isOwnedBy batch = false := by
  refine and_congr_right fun _ => ?_
  unfold Pod.isOwnedBy
  cases pod.controllerUid <;> cases batch.metadata.uid <;> simp

/-- Two caches differ only in leftovers of a batch. -/
structure SameButLeftovers (c : Caches) (key : ObjectKey) (batch : JobBatch) (c' : Caches) :
    Prop where
  batches : c'.batches = c.batches
  templates : c'.templates = c.templates
  children : ∀ k pod, ¬IsLeftover key batch k pod →
    (c'.children.get? k = some pod ↔ c.children.get? k = some pod)

/-- No leftover of a batch is cached. -/
def IsClean (c : Caches) (key : ObjectKey) (batch : JobBatch) : Prop :=
  ∀ k pod, c.children.get? k = some pod → ¬IsLeftover key batch k pod

/-! ## The children that count -/

namespace SameButLeftovers

/-- The children that belong to the batch are the same. -/
theorem hasChild_iff (h : c.SameButLeftovers key batch c') {k : ObjectKey} {pod : Pod}
    (howned : pod.isOwnedBy batch = true) : c'.HasChild key k pod ↔ c.HasChild key k pod := by
  have hnot : ¬IsLeftover key batch k pod := by
    intro hleftover
    cases howned.symm.trans (isLeftover_iff.1 hleftover).2
  exact and_congr_left' (h.children k pod hnot)

theorem mem_childrenOf_iff (h : c.SameButLeftovers key batch c') {pod : Pod}
    (howned : pod.isOwnedBy batch = true) : pod ∈ c'.childrenOf key ↔ pod ∈ c.childrenOf key := by
  simp only [mem_childrenOf, h.hasChild_iff howned]

theorem countsFor_iff (h : c.SameButLeftovers key batch c') {template : String} {child : Pod} :
    c'.CountsFor key batch template child ↔ c.CountsFor key batch template child := by
  constructor
  · intro hcounts
    refine ⟨(h.mem_childrenOf_iff hcounts.owned).1 hcounts.mem, hcounts.owned, hcounts.labelled, ?_⟩
    intro other hother howned
    exact hcounts.first other ((h.mem_childrenOf_iff howned).2 hother) howned
  · intro hcounts
    refine ⟨(h.mem_childrenOf_iff hcounts.owned).2 hcounts.mem, hcounts.owned, hcounts.labelled, ?_⟩
    intro other hother howned
    exact hcounts.first other ((h.mem_childrenOf_iff howned).1 hother) howned

/-- Both indices have the same child for every template. -/
theorem byTemplate_eq (h : c.SameButLeftovers key batch c') (keyed : c.children.Keyed)
    (keyed' : c'.children.Keyed) (template : String) :
    (ChildIndex.build batch (c'.childrenOf key)).byTemplate.get? template =
      (ChildIndex.build batch (c.childrenOf key)).byTemplate.get? template := by
  apply Option.ext
  intro child
  rw [byTemplate_iff keyed, byTemplate_iff keyed', h.countsFor_iff]

/-- The children that count for some templates are the same. -/
theorem authoritative_eq (h : c.SameButLeftovers key batch c') (keyed : c.children.Keyed)
    (keyed' : c'.children.Keyed) (templates : List JobTemplate) :
    Plan.authoritative (ChildIndex.build batch (c'.childrenOf key)) templates =
      Plan.authoritative (ChildIndex.build batch (c.childrenOf key)) templates :=
  List.filterMap_congr fun template _ => h.byTemplate_eq keyed keyed' template.name

theorem undispatched_eq (h : c.SameButLeftovers key batch c') (keyed : c.children.Keyed)
    (keyed' : c'.children.Keyed) (templates : List JobTemplate) :
    Plan.undispatched (ChildIndex.build batch (c'.childrenOf key)) templates =
      Plan.undispatched (ChildIndex.build batch (c.childrenOf key)) templates := by
  refine List.filter_congr fun template _ => ?_
  rw [OrderedMap.contains, OrderedMap.contains, h.byTemplate_eq keyed keyed']

/-- As many templates have a child that counts and is of some kind. -/
theorem standing_eq (h : c.SameButLeftovers key batch c') (keyed : c.children.Keyed)
    (keyed' : c'.children.Keyed) (selector : Selector) (kind : Phase → Bool) :
    c'.standing key batch selector kind = c.standing key batch selector kind := by
  rw [Caches.standing_eq keyed, Caches.standing_eq keyed', h.authoritative_eq keyed keyed',
    h.templates]

theorem skipped_eq (h : c.SameButLeftovers key batch c') (keyed : c.children.Keyed)
    (keyed' : c'.children.Keyed) (selector : Selector) :
    c'.skipped key batch selector = c.skipped key batch selector := by
  rw [Caches.skipped_eq, Caches.skipped_eq, h.undispatched_eq keyed keyed', h.templates]

theorem stands_iff (h : c.SameButLeftovers key batch c') (keyed : c.children.Keyed)
    (keyed' : c'.children.Keyed) {kind : Phase → Bool} {template : JobTemplate} :
    c'.Stands key batch kind template ↔ c.Stands key batch kind template := by
  rw [Caches.stands_iff keyed, Caches.stands_iff keyed', h.byTemplate_eq keyed keyed']

end SameButLeftovers

/-! ## What is written -/

/-- What is said at the end about a batch is determined. -/
theorem IsReport.eq (h : c.SameButLeftovers key batch c') (keyed : c.children.Keyed)
    (keyed' : c'.children.Keyed) {message message' : String}
    (hreport : c.IsReport key batch selector message)
    (hreport' : c'.IsReport key batch selector message') : message = message' := by
  have hterminal := h.standing_eq keyed keyed' selector Phase.isTerminal
  have hfailure := h.standing_eq keyed keyed' selector Phase.isFailure
  have hskipped := h.skipped_eq keyed keyed' selector
  rcases Nat.eq_zero_or_pos (c.skipped key batch selector) with hnone | hsome
  · rw [hreport.all hnone, hreport'.all (hskipped.trans hnone), hterminal, hfailure]
  · obtain ⟨limit, hlimit, rfl⟩ := hreport.some hsome
    obtain ⟨limit', hlimit', rfl⟩ := hreport'.some (hskipped.symm ▸ hsome)
    cases hlimit.symm.trans hlimit'
    rw [hterminal, hfailure, hskipped]

/-- What is written about a batch at its end does not depend on leftovers. -/
theorem SameButLeftovers.isEnded_eq (h : c.SameButLeftovers key batch c')
    (keyed : c.children.Keyed) (keyed' : c'.children.Keyed) {sent sent' : JobBatch}
    (hsent : c.IsEnded key batch sent) (hsent' : c'.IsEnded key batch sent') : sent = sent' := by
  obtain ⟨hmetadata, hspec, success, message, hstatus, hsuccess, hreport, hfault⟩ := hsent
  obtain ⟨hmetadata', hspec', success', message', hstatus', hsuccess', hreport', hfault'⟩ := hsent'
  have hsame : success = success' := by
    rw [Bool.eq_iff_iff, hsuccess, hsuccess']
    simp only [h.stands_iff keyed keyed', h.templates]
  have hsaid : message = message' := by
    cases hselector : Selector.read batch.spec.selector with
    | ok selector =>
      exact (hreport selector hselector).eq h keyed keyed' (hreport' selector hselector)
    | error fault => rw [hfault fault hselector, hfault' fault hselector]
  obtain ⟨metadata, spec, status⟩ := sent
  obtain ⟨metadata', spec', status'⟩ := sent'
  simp only at hmetadata hspec hstatus hmetadata' hspec' hstatus'
  rw [hmetadata, hspec, hstatus, hmetadata', hspec', hstatus', hsame, hsaid]

/-! ## What leftovers hold up -/

/-- All children of a batch without leftovers are there beside leftovers too. -/
theorem SameButLeftovers.hasChild_of_isClean (h : c.SameButLeftovers key batch c')
    (clean : c'.IsClean key batch) {k : ObjectKey} {pod : Pod} (hchild : c'.HasChild key k pod) :
    c.HasChild key k pod :=
  ⟨(h.children k pod (clean k pod hchild.1)).1 hchild.1, hchild.2⟩

/-- A batch that is due beside leftovers is due without them. -/
theorem SameButLeftovers.isDue (h : c.SameButLeftovers key batch c') (clean : c'.IsClean key batch)
    (keyed : c.children.Keyed) (keyed' : c'.children.Keyed) (hdue : c.IsDue key batch) :
    c'.IsDue key batch := by
  cases hdue with
  | refused hselector => exact .refused hselector
  | ended hselector hended =>
    refine .ended hselector fun template htemplate => ?_
    exact (h.stands_iff keyed keyed').2 (hended template (h.templates ▸ htemplate))
  | overrun hselector hlimit hexceeded hquiet =>
    refine .overrun hselector hlimit ?_ fun k child hchild => ?_
    · rwa [h.standing_eq keyed keyed']
    · exact hquiet k child (h.hasChild_of_isClean clean hchild)

/-- A child that has not ended beside leftovers may be one of them. -/
theorem SameButLeftovers.countUnfinished_le (h : c.SameButLeftovers key batch c')
    (clean : c'.IsClean key batch) (keyed' : c'.children.Keyed) :
    Pod.countUnfinished (c'.childrenOf key) ≤ Pod.countUnfinished (c.childrenOf key) := by
  refine List.Subperm.countP_le _ ((nodup_childrenOf keyed').subperm ?_)
  intro child hchild
  obtain ⟨k, hk⟩ := mem_childrenOf.1 hchild
  exact mem_childrenOf.2 ⟨k, h.hasChild_of_isClean clean hk⟩

/-- What a plan starts beside leftovers it starts without them too, and maybe more. -/
theorem SameButLeftovers.starts_prefix (h : c.SameButLeftovers key batch c')
    (clean : c'.IsClean key batch) (keyed : c.children.Keyed) (keyed' : c'.children.Keyed)
    (templates : List JobTemplate) :
    (Plan.make batch templates (c.childrenOf key)).starts <+:
      (Plan.make batch templates (c'.childrenOf key)).starts := by
  have hunfinished := h.countUnfinished_le clean keyed'
  simp only [Plan.make, h.authoritative_eq keyed keyed', h.undispatched_eq keyed keyed']
  split
  · exact List.prefix_rfl
  · -- Fewer children hold slots.
    refine List.take_prefix_take_left ?_
    simp only [Plan.freeSlots, ChildIndex.unfinished_build]
    omega

/-- What a pass sets out to start beside leftovers it sets out to start without them too. -/
theorem SameButLeftovers.orders_prefix (h : c.SameButLeftovers key batch c')
    (clean : c'.IsClean key batch) (keyed : c.children.Keyed) (keyed' : c'.children.Keyed)
    (hbatch : c.batches.get? key = some batch) :
    (Stage.ofKey c (.batch key)).orders <+: (Stage.ofKey c' (.batch key)).orders := by
  cases hpending : batch.isComplete with
  | true =>
    rw [Stage.ofKey_of_complete hbatch hpending]
    exact List.nil_prefix
  | false =>
    cases hselector : Selector.read batch.spec.selector with
    | error fault =>
      -- A batch whose selector is refused starts nothing.
      simp [Stage.ofKey, Decision.make, hbatch, hpending, hselector, Stage.ofDecision, Stage.orders]
    | ok selector =>
      have hbatch' : c'.batches.get? key = some batch := h.batches ▸ hbatch
      rw [(Stage.orders_ofKey hbatch hpending hselector).1,
        (Stage.orders_ofKey hbatch' hpending hselector).1, h.templates]
      exact (h.starts_prefix clean keyed keyed' _).map _

end Caches

/-! ## What passes do -/

namespace Stage.Path

variable {σ : Type} {env : Surroundings σ} {timeout : Duration}
variable {c : Caches} {key : ObjectKey} {turns : List (Turn σ)} {last : Stage}

/-- A pass that ends well has asked for all children that it has set out to start. -/
theorem manifests_eq (h : Path env timeout (ofKey c (.batch key)) turns (.finished (.ok ()))) :
    (Turn.allCalls env timeout turns).filterMap Call.manifest? =
      (ofKey c (.batch key)).orders := by
  -- Nothing of the script is left when a pass ends well.
  have hasked : Turn.asked turns = (ofKey c (.batch key)).script := by
    rw [← unasked_ofKey, ← h.asked_eq rfl]
    exact (List.append_nil _).symm
  rw [← filterMap_created?_script, ← hasked]
  exact Turn.filterMap_allCalls env timeout turns Edit.created?

/-- A pass whose calls all succeed ends well, unless it gives up waiting for a child. -/
theorem ok_or_gives_up {work : WorkKey} {result : Except Error Unit}
    (h : Path env timeout (ofKey c work) turns (.finished result))
    (hcalls : ∀ call ∈ Turn.allCalls env timeout turns, call.failure? = none) :
    result = .ok () ∨ ∃ turn ∈ turns, ∃ child poll, turn.GivesUp env timeout child poll := by
  cases result with
  | ok => exact .inl rfl
  | error e =>
    rcases h.origin_of_failure? (isTimed_ofWork c work) rfl with
      hbegins | ⟨turn, hturn, call, hcall, hfailure⟩ | ⟨turn, hturn, child, poll, hgives, -⟩
    · cases (failure?_ofKey c work).symm.trans hbegins
    · cases (hcalls call (List.mem_flatMap.2 ⟨turn, hturn, hcall⟩)).symm.trans hfailure
    · exact .inr ⟨turn, hturn, child, poll, hgives⟩

/-- A pass over a pending batch with a valid selector asks for the removal of every leftover, as
soon as it has made as many turns as there are children, whatever it is answered. -/
theorem removes_leftover {batch : JobBatch} {selector : Selector}
    (h : Path env timeout (ofKey c (.batch key)) turns last) (keyed : c.children.Keyed)
    (hbatch : c.batches.get? key = some batch) (hpending : batch.isComplete = false)
    (hselector : Selector.read batch.spec.selector = .ok selector)
    (hlast : (∃ result, last = .finished result) ∨ (c.childrenOf key).length ≤ turns.length)
    {k : ObjectKey} {pod : Pod} (hpod : c.children.get? k = some pod)
    (hleftover : Caches.IsLeftover key batch k pod) :
    ∃ answer, .deleted (childKey pod) answer ∈ Turn.allCalls env timeout turns := by
  obtain ⟨hremoved, hrest⟩ := h.removed_eq_take (isPurging_ofKey hbatch)
  -- By now all removals have been asked for.
  have hall : (ofKey c (.batch key)).removals.length ≤ turns.length := by
    rcases hlast with ⟨result, rfl⟩ | hlong
    · exact List.drop_eq_nil_iff.1 hrest.symm
    · exact Nat.le_trans (length_removals_ofKey_le c key) hlong
  rw [List.take_of_length_le hall] at hremoved
  have hextra : pod ∈ (Plan.make batch (c.templates.list key.ns selector)
      (c.childrenOf key)).extras := by
    rw [Plan.mem_extras_iff (Caches.nodup_childrenOf keyed)]
    exact ⟨Caches.mem_childrenOf.2 ⟨k, hpod, hleftover.1⟩,
      .inl (Caches.isLeftover_iff.1 hleftover).2⟩
  have hmem : childKey pod ∈ (Turn.asked turns).filterMap Edit.removed? := by
    rw [hremoved, ofKey, Decision.make_eq_proceed hbatch hpending hselector, ofDecision,
      removals_prune]
    exact List.mem_map_of_mem hextra
  obtain ⟨edit, hedit, hkey⟩ := List.mem_filterMap.1 hmem
  obtain ⟨call, hcall, hasks⟩ :=
    Turn.exists_call_of_mem_asked env timeout hedit
  cases call with
  | deleted child answer =>
    obtain rfl := Option.some.inj hasks
    obtain rfl := Option.some.inj hkey
    exact ⟨answer, hcall⟩
  | created manifest answer | replaced sent answer =>
    obtain rfl := Option.some.inj hasks
    cases hkey
  | listed | published => cases hasks

/-- Nothing is announced about a leftover. -/
theorem allCalls_eq_nil_of_leftover {batch : JobBatch} {k : ObjectKey} {pod : Pod}
    (h : Path env timeout (ofKey c (.childStatus k)) turns last)
    (hbatch : c.batches.get? key = some batch) (hpod : c.children.get? k = some pod)
    (hleftover : Caches.IsLeftover key batch k pod) : Turn.allCalls env timeout turns = [] := by
  obtain ⟨⟨hns, hname⟩, howned⟩ := Caches.isLeftover_iff.1 hleftover
  have howner : c.batches.get? ⟨k.ns, key.name⟩ = some batch := by
    rw [hns]
    exact hbatch
  have hnotice : notice? c k = none := by
    simp [notice?, hpod, hname, howner, howned]
  simp only [ofKey, hnotice] at h
  exact h.of_finished.2

end Stage.Path

/-! ## The result -/

section Unswayed

variable {σ σ' : Type} {env : Surroundings σ} {env' : Surroundings σ'} {timeout timeout' : Duration}

/-- What two passes over a batch have in common of which the second begins from caches that have
other leftovers, or none. -/
structure Caches.Unswayed (env : Surroundings σ) (env' : Surroundings σ')
    (timeout timeout' : Duration) (c c' : Caches) (key : ObjectKey) (batch : JobBatch)
    (turns : List (Turn σ)) (last : Stage) (turns' : List (Turn σ')) (last' : Stage) : Prop where
  /-- The same child counts for every template. -/
  byTemplate : ∀ template,
    (ChildIndex.build batch (c'.childrenOf key)).byTemplate.get? template =
      (ChildIndex.build batch (c.childrenOf key)).byTemplate.get? template
  /-- As many have ended and as many have failed. -/
  tally : ∀ templates,
    Tally.ofChildren
        (Plan.authoritative (ChildIndex.build batch (c'.childrenOf key)) templates) =
      Tally.ofChildren (Plan.authoritative (ChildIndex.build batch (c.childrenOf key)) templates)
  /-- If both send a status it is the same. -/
  sent : ∀ call ∈ Turn.allCalls env timeout turns, ∀ call' ∈ Turn.allCalls env' timeout' turns',
    ∀ sent sent', call.sent? = some sent → call'.sent? = some sent' → sent' = sent
  /-- Without leftovers a pass sets out to start all children that are started beside leftovers, and
  maybe more. -/
  orders : c'.IsClean key batch →
    (Stage.ofKey c (.batch key)).orders <+: (Stage.ofKey c' (.batch key)).orders
  /-- It asks for all children that are asked for beside leftovers, if its calls succeed and it does
  not give up waiting for one. -/
  started : c'.IsClean key batch →
    (∀ call ∈ Turn.allCalls env' timeout' turns', call.failure? = none) →
      (∃ result, last' = .finished result) →
        (Turn.allCalls env timeout turns).filterMap Call.manifest? <+:
            (Turn.allCalls env' timeout' turns').filterMap Call.manifest? ∨
          ∃ turn ∈ turns', ∃ child poll, turn.GivesUp env' timeout' child poll
  /-- Without leftovers a pass sends a status if one is sent beside leftovers. -/
  ended : c'.IsClean key batch → (∃ result, last' = .finished result) →
    (∃ call ∈ Turn.allCalls env timeout turns, call.sent?.isSome = true) →
      ∃ call ∈ Turn.allCalls env' timeout' turns', call.sent?.isSome = true
  /-- While the batch is pending the removal of every leftover is asked for, by a pass that has ended
  as by one that has made as many turns as there are children. -/
  removed : batch.isComplete = false →
    ∀ selector, Selector.read batch.spec.selector = .ok selector →
      (∃ result, last = .finished result) ∨ (c.childrenOf key).length ≤ turns.length →
        ∀ k pod, c.children.get? k = some pod → Caches.IsLeftover key batch k pod →
          ∃ answer, .deleted (Stage.childKey pod) answer ∈ Turn.allCalls env timeout turns

/-- Leftovers have no part in how a batch ends: all that they can do to a pass over it is to hold it
up. A pass over a leftover itself makes no calls, so nothing is announced about it. -/
theorem Caches.SameButLeftovers.unswayed {c c' : Caches} {key : ObjectKey} {batch : JobBatch}
    (h : c.SameButLeftovers key batch c') (keyed : c.children.Keyed) (keyed' : c'.children.Keyed)
    (hbatch : c.batches.get? key = some batch) :
    (∀ (turns : List (Turn σ)) (last : Stage) (turns' : List (Turn σ')) (last' : Stage),
      Stage.Path env timeout (.ofKey c (.batch key)) turns last →
      Stage.Path env' timeout' (.ofKey c' (.batch key)) turns' last' →
        Unswayed env env' timeout timeout' c c' key batch turns last turns' last') ∧
      ∀ k pod, c.children.get? k = some pod → IsLeftover key batch k pod →
        ∀ (turns : List (Turn σ)) (last : Stage),
          Stage.Path env timeout (.ofKey c (.childStatus k)) turns last →
            Turn.allCalls env timeout turns = [] := by
  have hbatch' : c'.batches.get? key = some batch := h.batches ▸ hbatch
  refine ⟨fun turns last turns' last' hpass hpass' => ?_, ?_⟩
  · -- About a batch that is complete nothing is sent.
    have hpending {call : Call} (hcall : call ∈ Turn.allCalls env timeout turns) :
        batch.isComplete = false := by
      refine Bool.eq_false_iff.2 fun hcomplete => ?_
      rw [Stage.ofKey_of_complete hbatch hcomplete] at hpass
      rw [hpass.of_finished.2] at hcall
      cases hcall
    refine
      { byTemplate := h.byTemplate_eq keyed keyed', tally := ?tally, sent := ?sent,
        orders := fun clean => h.orders_prefix clean keyed keyed' hbatch, started := ?started,
        ended := ?ended, removed := ?removed }
    case tally =>
      intro templates
      rw [h.authoritative_eq keyed keyed']
    case sent =>
      intro call hcall call' hcall' sent sent' hsent hsent'
      have hended := (hpass.isDue_of_sent? hbatch (hpending hcall) keyed hcall hsent).2
      have hended' := (hpass'.isDue_of_sent? hbatch' (hpending hcall) keyed' hcall' hsent').2
      exact (h.isEnded_eq keyed keyed' hended hended').symm
    case started =>
      rintro clean hcalls ⟨result, rfl⟩
      rcases hpass'.ok_or_gives_up hcalls with rfl | hgives
      · refine .inl ?_
        rw [hpass'.manifests_eq]
        exact hpass.manifests_prefix.trans (h.orders_prefix clean keyed keyed' hbatch)
      · exact .inr hgives
    case ended =>
      rintro clean hlast ⟨call, hcall, hsome⟩
      obtain ⟨sent, hsent⟩ := Option.isSome_iff_exists.1 hsome
      have hdue := (hpass.isDue_of_sent? hbatch (hpending hcall) keyed hcall hsent).1
      exact hpass'.sends_of_isDue hbatch' (hpending hcall) keyed'
        (h.isDue clean keyed keyed' hdue) (.inl hlast)
    case removed =>
      intro hpending selector hselector hlast k pod hpod hleftover
      exact hpass.removes_leftover keyed hbatch hpending hselector hlast hpod hleftover
  · intro k pod hpod hleftover turns last hpass
    exact hpass.allCalls_eq_nil_of_leftover hbatch hpod hleftover

end Unswayed

/-! ## A leftover that holds up its batch -/

section HeldUp

/-- The caches of a crowded batch without its leftover. -/
def clearedCaches : Caches := { crowdedCaches with children := ⟨.empty, true⟩ }

theorem isLeftover_leftoverChild :
    Caches.IsLeftover ⟨"n", "b"⟩ narrowBatch ⟨"n", "t-1"⟩ leftoverChild := by
  rw [Caches.isLeftover_iff]
  refine ⟨⟨rfl, ?_⟩, ?_⟩ <;> decide +kernel

theorem sameButLeftovers_clearedCaches :
    crowdedCaches.SameButLeftovers ⟨"n", "b"⟩ narrowBatch clearedCaches := by
  refine ⟨rfl, rfl, fun k pod hnot => ⟨nofun, fun hpod => ?_⟩⟩
  have hmem : (k, pod) ∈ [((⟨"n", "t-1"⟩ : ObjectKey), leftoverChild)] :=
    OrderedMap.mem_entries_iff.2 hpod
  cases List.mem_singleton.1 hmem
  exact absurd isLeftover_leftoverChild hnot

/-- A leftover takes the only slot of its batch, so a pass asks for its removal and starts nothing.
Without the leftover a pass starts the child of the template, with calls that all succeed. Nothing
is announced about the leftover. -/
theorem unswayed_of_crowdedCaches :
    ((Turn.allCalls Caches.store (.ofSeconds 10) (turnsFrom crowdedCaches [0])).filterMap
        Call.manifest? = [] ∧
      (Turn.allCalls Caches.store (.ofSeconds 10) (turnsFrom clearedCaches [0, 0, 0])).filterMap
        Call.manifest? = [narrowBatch.childManifest smallTemplate] ∧
      ∀ call ∈ Turn.allCalls Caches.store (.ofSeconds 10) (turnsFrom clearedCaches [0, 0, 0]),
        call.failure?.isNone = true) ∧
      Caches.Unswayed Caches.store Caches.store (.ofSeconds 10) (.ofSeconds 10) crowdedCaches
        clearedCaches ⟨"n", "b"⟩ narrowBatch (turnsFrom crowdedCaches [0])
        (Stage.after Caches.store (.ofSeconds 10) [0]
          (.ofKey crowdedCaches (.batch ⟨"n", "b"⟩), crowdedCaches)).1
        (turnsFrom clearedCaches [0, 0, 0])
        (Stage.after Caches.store (.ofSeconds 10) [0, 0, 0]
          (.ofKey clearedCaches (.batch ⟨"n", "b"⟩), clearedCaches)).1 ∧
      Turn.allCalls Caches.store (.ofSeconds 10) (Stage.turnsAt Caches.store (.ofSeconds 10) [0]
        (.ofKey crowdedCaches (.childStatus ⟨"n", "t-1"⟩), crowdedCaches)) = [] := by
  obtain ⟨hpasses, hsilent⟩ := @Caches.SameButLeftovers.unswayed _ _ Caches.store Caches.store
    (.ofSeconds 10) (.ofSeconds 10) _ _ _ _ sameButLeftovers_clearedCaches
    (Cache.keyed_singleton rfl true) (Cache.keyed_empty true) rfl
  refine ⟨⟨by decide +kernel, by decide +kernel, by decide +kernel⟩, ?_, ?_⟩
  · exact hpasses _ _ _ _ (Stage.path_after Caches.store (.ofSeconds 10) [0] _ crowdedCaches)
      (Stage.path_after Caches.store (.ofSeconds 10) [0, 0, 0] _ clearedCaches)
  · exact hsilent ⟨"n", "t-1"⟩ leftoverChild rfl isLeftover_leftoverChild _ _
      (Stage.path_after Caches.store (.ofSeconds 10) [0] _ crowdedCaches)

end HeldUp

end BatchOperator
