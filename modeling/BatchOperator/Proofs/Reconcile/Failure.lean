import BatchOperator.Proofs.Child.Order
import BatchOperator.Proofs.Reconcile.Plan
import BatchOperator.Proofs.Reconcile.Store
import BatchOperator.Proofs.Reconcile.Turns

/-!
# How a failure comes to the batch

The child that counts for a template is the first one that belongs to the batch and is labelled with
the template (`Caches.CountsFor`). When it has failed and its template is one of those that the
batch selects, no pass writes that the batch has succeeded (`Stage.Path.success_eq_false`).

Without that condition a failure can get lost. Only the templates that are selected when the pass
begins are looked at, so when the template of a failed child is deleted the failure is not counted,
and the batch is written to have succeeded (`succeeded_despite_failedChild`).
-/

set_option autoImplicit false

namespace BatchOperator

namespace Caches

variable {c : Caches} {key : ObjectKey} {batch : JobBatch} {template : String} {child : Pod}

/-- The child that counts for a template: it belongs to the batch, is labelled with the template and
was there before all others of which that is true. -/
structure CountsFor (c : Caches) (key : ObjectKey) (batch : JobBatch) (template : String)
    (child : Pod) : Prop where
  mem : child ∈ c.childrenOf key
  owned : child.isOwnedBy batch = true
  labelled : child.templateName = some template
  first : ∀ other ∈ c.childrenOf key, other.isOwnedBy batch = true →
    other.templateName = some template → other = child ∨ Pod.creationOrder child other = .lt

/-- Children of a batch with the same name are the same. -/
theorem eq_of_name_eq (keyed : c.children.Keyed) {a b : Pod} (ha : a ∈ c.childrenOf key)
    (hb : b ∈ c.childrenOf key) (hname : a.name = b.name) : a = b := by
  obtain ⟨k, hk, hns, -⟩ := mem_childrenOf.1 ha
  obtain ⟨k', hk', hns', -⟩ := mem_childrenOf.1 hb
  have hkname : a.name = k.name := Metadata.anyName_of_key (keyed k a hk)
  have hkname' : b.name = k'.name := Metadata.anyName_of_key (keyed k' b hk')
  obtain ⟨ns, name⟩ := k
  obtain ⟨ns', name'⟩ := k'
  obtain rfl : ns = ns' := hns.trans hns'.symm
  obtain rfl : name = name' := (hkname.symm.trans hname).trans hkname'
  exact Option.some.inj (hk.symm.trans hk')

/-- Where every child is kept under its own key, the first one is before all others: no two of them
have the same name. -/
theorem countsFor_of_isLE (keyed : c.children.Keyed) (hmem : child ∈ c.childrenOf key)
    (howned : child.isOwnedBy batch = true) (hlabelled : child.templateName = some template)
    (hfirst : ∀ other ∈ c.childrenOf key, other.isOwnedBy batch = true →
      other.templateName = some template → (Pod.creationOrder child other).isLE = true) :
    c.CountsFor key batch template child := by
  refine ⟨hmem, howned, hlabelled, ?_⟩
  intro other hother howned' hlabelled'
  have hle := hfirst other hother howned' hlabelled'
  cases hcompare : Pod.creationOrder child other with
  | lt => exact .inr rfl
  | eq =>
    have hname := Pod.name_eq_of_creationOrder_eq hcompare
    exact .inl (eq_of_name_eq keyed hother hmem hname.symm)
  | gt =>
    rw [hcompare] at hle
    cases hle

/-- The index has the child that counts. -/
theorem CountsFor.byTemplate (h : c.CountsFor key batch template child) :
    (ChildIndex.build batch (c.childrenOf key)).byTemplate.get? template = some child := by
  rw [(ChildIndex.describes_build batch _).byTemplate]
  apply Pod.find?_inCreationOrder h.mem
  · exact Pod.speaksFor_iff.2 ⟨h.owned, h.labelled⟩
  · intro other hother hspeaks
    obtain ⟨howned, hlabelled⟩ := Pod.speaksFor_iff.1 hspeaks
    exact h.first other hother howned hlabelled

end Caches

/-- A plan does not end in success when a child that counts for one of its templates has failed. -/
theorem Plan.outcome_of_failed {batch : JobBatch} {templates : List JobTemplate}
    {children : List Pod} {template : JobTemplate} {child : Pod} (htemplate : template ∈ templates)
    (hget : (ChildIndex.build batch children).byTemplate.get? template.name = some child)
    (hfailed : child.phase.isFailure = true) {verdict : Verdict}
    (hverdict : (make batch templates children).verdict = some verdict) :
    verdict.outcome = .failed := by
  -- The tally counts the child, so not everything has succeeded.
  have hmem : child ∈ authoritative (ChildIndex.build batch children) templates :=
    List.mem_filterMap.2 ⟨template, htemplate, hget⟩
  have hpos : 0 < Pod.countFailed (authoritative (ChildIndex.build batch children) templates) :=
    List.countP_pos_iff.2 ⟨child, hmem, hfailed⟩
  simp only [make, Option.ite_none_right_eq_some, Option.some.injEq] at hverdict
  obtain ⟨-, rfl⟩ := hverdict
  simp only [Tally.ofChildren_eq, Nat.ne_of_gt hpos, beq_false_of_ne, Bool.false_and, ne_eq,
    not_false_eq_true, Bool.false_eq_true, if_false]

variable {σ : Type} {env : Surroundings σ} {timeout : Duration}

/-- When the child that counts for a selected template has failed, a pass over the batch writes no
other end than one without success. -/
theorem Stage.Path.success_eq_false {c : Caches} {key : ObjectKey} {batch : JobBatch}
    {selector : Selector} {template : JobTemplate} {child : Pod} {turns : List (Turn σ)}
    {last : Stage} (hbatch : c.batches.get? key = some batch)
    (hselector : Selector.read batch.spec.selector = .ok selector)
    (hcounts : c.CountsFor key batch template.name child)
    (hselected : template ∈ c.templates.list key.ns selector)
    (hfailed : child.phase.isFailure = true)
    (hpass : Path env timeout (.ofKey c (.batch key)) turns last) :
    ∀ turn ∈ turns, ∀ sent, turn.sent? = some sent →
      ∃ message, sent.status = some ⟨.complete, false, message⟩ := by
  intro turn hturn sent hsent
  have hending := hpass.ending?_eq_of_sent? hturn hsent
  cases hpending : batch.isComplete with
  | true =>
    -- A complete batch is left alone.
    simp [ofKey, Decision.make, hbatch, hpending, ofDecision, ending?] at hending
  | false =>
    rw [(orders_ofKey hbatch hpending hselector).2, Option.map_eq_some_iff] at hending
    obtain ⟨verdict, hverdict, rfl⟩ := hending
    have houtcome := Plan.outcome_of_failed hselected hcounts.byTemplate hfailed hverdict
    refine ⟨verdict.message, ?_⟩
    show some verdict.status = _
    simp [Verdict.status, houtcome]

/-! ## A failed child with and without its template -/

section WithoutTemplate

/-- The child of a small batch, which has failed. -/
def failedChild : Pod :=
  { smallBatch.childManifest smallTemplate with
    metadata := { (smallBatch.childManifest smallTemplate).metadata with name := some "t-1" }
    status := some { phase := some "Failed" } }

/-- Caches with a small batch and its failed child. -/
def failedCaches : Caches :=
  smallCaches.withChildren ⟨⟨[(⟨"n", "t-1"⟩, failedChild)], List.pairwise_singleton _ _⟩, true⟩

/-- The same caches when the template has been deleted. -/
def orphanedCaches : Caches := { failedCaches with templates := ⟨.empty, true⟩ }

/-- The turns of a pass that begins from caches. -/
def turnsFrom (c : Caches) (moments : List Instant) : List (Turn Caches) :=
  Stage.turnsAt Caches.store (.ofSeconds 10) moments (.ofKey c (.batch ⟨"n", "b"⟩), c)

theorem countsFor_failedChild (templates : Cache JobTemplate) :
    ({ failedCaches with templates } : Caches).CountsFor ⟨"n", "b"⟩ smallBatch "t" failedChild := by
  have hchildren : ({ failedCaches with templates } : Caches).childrenOf ⟨"n", "b"⟩ =
      [failedChild] := by
    show failedCaches.childrenOf ⟨"n", "b"⟩ = [failedChild]
    decide +kernel
  apply Caches.countsFor_of_isLE
  · exact Cache.keyed_singleton rfl true
  · exact hchildren ▸ List.mem_singleton_self _
  · decide +kernel
  · decide +kernel
  · intro other hother _ _
    obtain rfl := List.mem_singleton.1 (hchildren ▸ hother)
    decide +kernel

/-- With its template there a failed child fails the batch. -/
theorem success_eq_false_of_failedChild :
    (∃ turn ∈ turnsFrom failedCaches [0], turn.sent?.isSome = true) ∧
      ∀ turn ∈ turnsFrom failedCaches [0], ∀ sent, turn.sent? = some sent →
        ∃ message, sent.status = some ⟨.complete, false, message⟩ := by
  have hselected : smallTemplate ∈ failedCaches.templates.list "n"
      (.ofLabels [("suite", "s")]) := by
    refine Cache.mem_list.2 ⟨⟨"n", "t"⟩, rfl, rfl, ?_⟩
    decide +kernel
  constructor
  · decide +kernel
  · exact Stage.Path.success_eq_false rfl rfl (countsFor_failedChild _) hselected
      (by decide +kernel) (Stage.path_after Caches.store (.ofSeconds 10) [0] _ failedCaches)

/-- With its template deleted the same child does not: the batch is written to have succeeded. -/
theorem succeeded_despite_failedChild :
    orphanedCaches.batches.get? ⟨"n", "b"⟩ = some smallBatch ∧
      (Selector.read smallBatch.spec.selector).isOk = true ∧
      orphanedCaches.CountsFor ⟨"n", "b"⟩ smallBatch "t" failedChild ∧
      failedChild.phase = .failed ∧
      ∃ turn ∈ turnsFrom orphanedCaches [0],
        (turn.written? Caches.store).map JobBatch.status =
          some (some ⟨.complete, true, "Ran 0 tests, 0 failures"⟩) := by
  refine ⟨rfl, rfl, countsFor_failedChild _, ?_, ?_⟩
  · decide +kernel
  · decide +kernel

end WithoutTemplate

end BatchOperator
