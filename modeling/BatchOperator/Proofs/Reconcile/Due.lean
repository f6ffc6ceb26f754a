import BatchOperator.Proofs.Reconcile.Aftermath
import BatchOperator.Proofs.Reconcile.Convergence
import BatchOperator.Proofs.Reconcile.Failure

/-!
# When a batch is due

A batch is due (`Caches.IsDue`) when what it asks for has no meaning, when the child that counts has
ended for each of the templates that it selects, or when more of these children have failed than it
tolerates and nothing runs any more that carries its name. What is then to be written is told by the
children that count, one template after the other (`Caches.IsEnded`).

That is what a pass comes to that sees the batch: its plan has a verdict for a batch that is due and
for no other, and the verdict says just this (`Stage.isDue_iff_ending?_ofKey`,
`Stage.isEnded_of_ending?_ofKey`).
-/

set_option autoImplicit false

namespace BatchOperator

namespace Caches

variable {c : Caches} {key : ObjectKey} {batch : JobBatch} {selector : Selector}

instance (template : String) (child : Pod) : Decidable (c.CountsFor key batch template child) :=
  decidable_of_iff (child ∈ c.childrenOf key ∧ child.isOwnedBy batch = true ∧
      child.templateName = some template ∧ ∀ other ∈ c.childrenOf key,
        other.isOwnedBy batch = true → other.templateName = some template →
          other = child ∨ Pod.creationOrder child other = .lt)
    ⟨fun ⟨mem, owned, labelled, first⟩ => ⟨mem, owned, labelled, first⟩,
      fun ⟨mem, owned, labelled, first⟩ => ⟨mem, owned, labelled, first⟩⟩

/-! ## How the templates stand -/

/-- A template has a child that counts, and that child is in a phase of some kind. -/
def Stands (c : Caches) (key : ObjectKey) (batch : JobBatch) (kind : Phase → Bool)
    (template : JobTemplate) : Prop :=
  ∃ child ∈ c.childrenOf key, c.CountsFor key batch template.name child ∧ kind child.phase = true

/-- No child of the batch is labelled with a template. -/
def IsSkipped (c : Caches) (key : ObjectKey) (batch : JobBatch) (template : JobTemplate) : Prop :=
  ∀ child ∈ c.childrenOf key, child.isOwnedBy batch = true →
    child.templateName ≠ some template.name

instance (kind : Phase → Bool) : DecidablePred (c.Stands key batch kind) := fun template =>
  inferInstanceAs (Decidable (∃ child ∈ c.childrenOf key,
    c.CountsFor key batch template.name child ∧ kind child.phase = true))

instance : DecidablePred (c.IsSkipped key batch) := fun template =>
  inferInstanceAs (Decidable (∀ child ∈ c.childrenOf key, child.isOwnedBy batch = true →
    child.templateName ≠ some template.name))

/-- How many of the templates that are selected have a child that counts and that is in a phase of
some kind. -/
def standing (c : Caches) (key : ObjectKey) (batch : JobBatch) (selector : Selector)
    (kind : Phase → Bool) : Nat :=
  (c.templates.list key.ns selector).countP fun template => c.Stands key batch kind template

/-- How many of the templates that are selected have no child of the batch. -/
def skipped (c : Caches) (key : ObjectKey) (batch : JobBatch) (selector : Selector) : Nat :=
  (c.templates.list key.ns selector).countP fun template => c.IsSkipped key batch template

/-! ## What is to be written and when -/

/-- A batch is due: what it asks for has no meaning, or the children that count for the templates
that it selects have all ended, or more of them have failed than it tolerates and nothing runs any
more that carries its name. -/
inductive IsDue (c : Caches) (key : ObjectKey) (batch : JobBatch) : Prop where
  | refused {fault : SelectorFault} (hselector : Selector.read batch.spec.selector = .error fault)
  | ended {selector : Selector} (hselector : Selector.read batch.spec.selector = .ok selector)
      (ended : ∀ template ∈ c.templates.list key.ns selector,
        c.Stands key batch Phase.isTerminal template)
  | overrun {selector : Selector} (hselector : Selector.read batch.spec.selector = .ok selector)
      {limit : Int} (hlimit : batch.spec.maxFailures = some limit)
      (exceeded : max limit 0 < (c.standing key batch selector Phase.isFailure : Int))
      (quiet : ∀ k child, c.HasChild key k child → child.phase.isTerminal = true)

/-- What is said at the end about a batch with a valid selector: how many of the children that count
have ended and how many have failed, and how many templates were skipped, if any were. -/
structure IsReport (c : Caches) (key : ObjectKey) (batch : JobBatch) (selector : Selector)
    (message : String) : Prop where
  all : c.skipped key batch selector = 0 → message =
    "Ran " ++ toString (c.standing key batch selector Phase.isTerminal) ++ " tests, " ++
      toString (c.standing key batch selector Phase.isFailure) ++ " failures"
  some : 0 < c.skipped key batch selector → ∃ limit, batch.spec.maxFailures = some limit ∧
    message = "Ran " ++ toString (c.standing key batch selector Phase.isTerminal) ++ " tests, " ++
      toString (c.standing key batch selector Phase.isFailure) ++ " failures" ++ " (" ++
      toString (c.skipped key batch selector) ++ " skipped after exceeding maxFailures=" ++
      toString (max limit 0) ++ ")"

/-- What is written about a batch at its end: the batch as it is cached with the status that it is
complete. It has succeeded if all children that count have succeeded, one for each template that a
valid selector selects. -/
structure IsEnded (c : Caches) (key : ObjectKey) (batch sent : JobBatch) : Prop where
  metadata : sent.metadata = batch.metadata
  spec : sent.spec = batch.spec
  status : ∃ success message, sent.status = some ⟨.complete, success, message⟩ ∧
    (success = true ↔ ∃ selector, Selector.read batch.spec.selector = .ok selector ∧
      ∀ template ∈ c.templates.list key.ns selector,
        c.Stands key batch (fun phase => phase = .succeeded) template) ∧
    (∀ selector, Selector.read batch.spec.selector = .ok selector →
      c.IsReport key batch selector message) ∧
    ∀ fault, Selector.read batch.spec.selector = .error fault →
      message = "invalid selector: " ++ fault.error.message

/-! ## What the index says of it -/

/-- The child that the index has for a template is the one that counts. -/
theorem byTemplate_iff (keyed : c.children.Keyed) {template : String} {child : Pod} :
    (ChildIndex.build batch (c.childrenOf key)).byTemplate.get? template = some child ↔
      c.CountsFor key batch template child := by
  refine ⟨fun hget => ?_, CountsFor.byTemplate⟩
  obtain ⟨hmem, howned, hlabelled⟩ := Plan.of_byTemplate_eq_some hget
  rw [(ChildIndex.describes_build batch _).byTemplate] at hget
  refine countsFor_of_isLE keyed hmem howned hlabelled fun other hother howned' hlabelled' => ?_
  exact Pod.isLE_of_find?_inCreationOrder hget hother (Pod.speaksFor_iff.2 ⟨howned', hlabelled'⟩)

theorem stands_iff (keyed : c.children.Keyed) {kind : Phase → Bool} {template : JobTemplate} :
    c.Stands key batch kind template ↔
      ((ChildIndex.build batch (c.childrenOf key)).byTemplate.get? template.name).any
        (fun child => kind child.phase) = true := by
  simp only [Stands, Option.any_eq_true, byTemplate_iff keyed]
  refine exists_congr fun child => ?_
  constructor
  · rintro ⟨-, hcounts, hkind⟩
    exact ⟨hcounts, hkind⟩
  · rintro ⟨hcounts, hkind⟩
    exact ⟨hcounts.mem, hcounts, hkind⟩

theorem isSkipped_iff {template : JobTemplate} :
    c.IsSkipped key batch template ↔
      (ChildIndex.build batch (c.childrenOf key)).byTemplate.contains template.name = false := by
  rw [OrderedMap.contains, (ChildIndex.describes_build batch _).byTemplate,
    Option.isSome_eq_false_iff, Option.isNone_iff_eq_none, List.find?_eq_none]
  simp only [(Pod.perm_inCreationOrder _).mem_iff, Pod.speaksFor_iff, not_and]
  rfl

/-- The templates with a child of some kind are as many as the children that count and are of that
kind. -/
theorem standing_eq (keyed : c.children.Keyed) (kind : Phase → Bool) :
    c.standing key batch selector kind =
      (Plan.authoritative (ChildIndex.build batch (c.childrenOf key))
        (c.templates.list key.ns selector)).countP fun child => kind child.phase := by
  rw [standing, Plan.authoritative, List.countP_filterMap]
  refine List.countP_congr fun template _ => ?_
  rw [decide_eq_true_eq, stands_iff keyed]
  cases (ChildIndex.build batch (c.childrenOf key)).byTemplate.get? template.name <;> exact Iff.rfl

/-- The templates that are skipped are those without a child that counts. -/
theorem skipped_eq :
    c.skipped key batch selector =
      (Plan.undispatched (ChildIndex.build batch (c.childrenOf key))
        (c.templates.list key.ns selector)).length := by
  rw [skipped, Plan.undispatched, ← List.countP_eq_length_filter]
  refine List.countP_congr fun template _ => ?_
  rw [decide_eq_true_eq, isSkipped_iff, Bool.not_eq_true']

/-- Everything that carries the name of a batch has ended when nothing is counted as unfinished. -/
theorem countUnfinished_eq_zero_iff : Pod.countUnfinished (c.childrenOf key) = 0 ↔
    ∀ k child, c.HasChild key k child → child.phase.isTerminal = true := by
  simp only [Pod.countUnfinished, List.countP_eq_zero, Bool.not_eq_true', Bool.not_eq_false,
    mem_childrenOf]
  constructor
  · intro h k child hchild
    exact h child ⟨k, hchild⟩
  · rintro h child ⟨k, hchild⟩
    exact h k child hchild

/-- Every template has a child that counts and that has succeeded when as many have ended as there
are, and none has failed. -/
theorem forall_stands_succeeded_iff (keyed : c.children.Keyed) :
    (∀ template ∈ c.templates.list key.ns selector,
        c.Stands key batch (fun phase => phase = .succeeded) template) ↔
      c.standing key batch selector Phase.isFailure = 0 ∧
        c.standing key batch selector Phase.isTerminal =
          (c.templates.list key.ns selector).length := by
  simp only [standing, List.countP_eq_zero, List.countP_eq_length, decide_eq_true_eq]
  rw [← forall₂_and]
  refine forall₂_congr fun template _ => ?_
  simp only [stands_iff keyed]
  cases (ChildIndex.build batch (c.childrenOf key)).byTemplate.get? template.name with
  | none => simp
  | some child =>
    simp only [Option.any_some, decide_eq_true_eq, Phase.eq_succeeded_iff, Bool.not_eq_true]
    exact And.comm

/-! ## What a plan comes to -/

/-- More of the children that count have failed than a batch tolerates. -/
def isOver (c : Caches) (key : ObjectKey) (batch : JobBatch) (selector : Selector) : Bool :=
  batch.failureThreshold.any fun n => c.standing key batch selector Phase.isFailure > n

theorem isOver_iff : c.isOver key batch selector = true ↔
    ∃ limit, batch.spec.maxFailures = some limit ∧
      max limit 0 < (c.standing key batch selector Phase.isFailure : Int) := by
  simp only [isOver, JobBatch.failureThreshold, Option.any_map, Option.any_eq_true,
    decide_eq_true_eq]
  exact exists_congr fun limit => and_congr_right fun _ => by omega

/-- The tally of a plan, told by how the templates stand. -/
theorem tally_eq (keyed : c.children.Keyed) :
    Tally.ofChildren (Plan.authoritative (ChildIndex.build batch (c.childrenOf key))
      (c.templates.list key.ns selector)) =
        ⟨c.standing key batch selector Phase.isTerminal,
          c.standing key batch selector Phase.isFailure⟩ := by
  rw [Tally.ofChildren_eq, standing_eq keyed, standing_eq keyed]
  rfl

/-- What a plan starts and which verdict it has, told by how the templates stand. -/
theorem planOf_facts (keyed : c.children.Keyed) :
    let completed := c.standing key batch selector Phase.isTerminal
    let failed := c.standing key batch selector Phase.isFailure
    let total := (c.templates.list key.ns selector).length
    let isOver := c.isOver key batch selector
    (isOver = true → (c.planOf key batch (c.templates.list key.ns selector)).starts = []) ∧
      (c.planOf key batch (c.templates.list key.ns selector)).verdict =
        if completed = total ∨ isOver = true ∧ Pod.countUnfinished (c.childrenOf key) = 0 then
          some ⟨if failed = 0 ∧ completed = total then .succeeded else .failed,
            Tally.summary ⟨completed, failed⟩ total
              (if isOver then batch.failureThreshold else none)⟩
        else none := by
  simp only [planOf, Plan.make, tally_eq keyed, ChildIndex.unfinished_build, Bool.or_eq_true,
    Bool.and_eq_true, beq_iff_eq]
  refine ⟨fun hover => if_pos hover, rfl⟩

/-- A template whose child has ended is not skipped. -/
theorem standing_add_skipped_le (keyed : c.children.Keyed) (key : ObjectKey) (batch : JobBatch)
    (selector : Selector) :
    c.standing key batch selector Phase.isTerminal + c.skipped key batch selector ≤
      (c.templates.list key.ns selector).length := by
  have hlength := Plan.length_authoritative_add (ChildIndex.build batch (c.childrenOf key))
    (c.templates.list key.ns selector)
  have hle := List.countP_le_length (p := fun child : Pod => child.phase.isTerminal)
    (l := Plan.authoritative (ChildIndex.build batch (c.childrenOf key))
      (c.templates.list key.ns selector))
  rw [standing_eq keyed, skipped_eq]
  omega

/-- When nothing runs any more, every template has a child that has ended or is skipped. -/
theorem standing_add_skipped (keyed : c.children.Keyed) (batch : JobBatch) (selector : Selector)
    (hquiet : Pod.countUnfinished (c.childrenOf key) = 0) :
    c.standing key batch selector Phase.isTerminal + c.skipped key batch selector =
      (c.templates.list key.ns selector).length := by
  rw [standing_eq keyed, skipped_eq, List.countP_eq_length.2, Plan.length_authoritative_add]
  intro child hchild
  -- A child that counts is one of those that carry the name of the batch.
  obtain ⟨template, -, hget⟩ := List.mem_filterMap.1 hchild
  obtain ⟨k, hk⟩ := mem_childrenOf.1 (Plan.of_byTemplate_eq_some hget).1
  exact countUnfinished_eq_zero_iff.1 hquiet k child hk

/-- A plan has a verdict just when its batch is due. -/
theorem isDue_iff_verdict (keyed : c.children.Keyed)
    (hselector : Selector.read batch.spec.selector = .ok selector) :
    c.IsDue key batch ↔
      (c.planOf key batch (c.templates.list key.ns selector)).verdict.isSome = true := by
  have hended : c.standing key batch selector Phase.isTerminal =
      (c.templates.list key.ns selector).length ↔
        ∀ template ∈ c.templates.list key.ns selector,
          c.Stands key batch Phase.isTerminal template := by
    simp only [standing, List.countP_eq_length, decide_eq_true_eq]
  simp only [(planOf_facts keyed).2, Option.isSome_ite, isOver_iff, hended,
    countUnfinished_eq_zero_iff]
  constructor
  · rintro (hselector' | ⟨hselector', hall⟩ | ⟨hselector', hlimit, hexceeded, hquiet⟩) <;>
      cases hselector.symm.trans hselector'
    · exact .inl hall
    · exact .inr ⟨⟨_, hlimit, hexceeded⟩, hquiet⟩
  · rintro (hall | ⟨⟨limit, hlimit, hexceeded⟩, hquiet⟩)
    · exact .ended hselector hall
    · exact .overrun hselector hlimit hexceeded hquiet

/-- A plan with a verdict starts nothing. -/
theorem starts_eq_nil_of_verdict (keyed : c.children.Keyed) {verdict : Verdict}
    (hverdict : (c.planOf key batch (c.templates.list key.ns selector)).verdict = some verdict) :
    (c.planOf key batch (c.templates.list key.ns selector)).starts = [] := by
  rw [(planOf_facts keyed).2, Option.ite_none_right_eq_some] at hverdict
  rcases hverdict.1 with hall | ⟨hover, -⟩
  · -- Where every template has a child that has ended, there is none to start.
    have hadd := standing_add_skipped_le keyed key batch selector
    have hnone : c.skipped key batch selector = 0 := by omega
    rw [skipped_eq, List.length_eq_zero_iff] at hnone
    exact List.sublist_nil.1 (hnone ▸ Plan.starts_sublist batch _ _)
  · exact (planOf_facts keyed).1 hover

/-- What a plan with a verdict says is the report on the batch. -/
theorem isReport_of_verdict (keyed : c.children.Keyed) {verdict : Verdict}
    (hverdict : (c.planOf key batch (c.templates.list key.ns selector)).verdict = some verdict) :
    c.IsReport key batch selector verdict.message := by
  rw [(planOf_facts keyed).2, Option.ite_none_right_eq_some] at hverdict
  obtain ⟨hdone, hverdict⟩ := hverdict
  obtain rfl := Option.some.inj hverdict
  constructor
  · intro hnone
    -- With nothing skipped every template has a child that has ended.
    have hall : c.standing key batch selector Phase.isTerminal =
        (c.templates.list key.ns selector).length := by
      rcases hdone with hall | ⟨-, hquiet⟩
      · exact hall
      · have hadd := standing_add_skipped keyed batch selector hquiet
        omega
    simp only [Tally.summary, hall, Nat.lt_irrefl, if_false]
    split <;> rfl
  · intro hsome
    have hadd := standing_add_skipped_le keyed key batch selector
    have hless : c.standing key batch selector Phase.isTerminal <
        (c.templates.list key.ns selector).length := by omega
    obtain ⟨hover, hquiet⟩ := hdone.resolve_left (Nat.ne_of_lt hless)
    obtain ⟨limit, hlimit, -⟩ := isOver_iff.1 hover
    have hrest : (c.templates.list key.ns selector).length -
        c.standing key batch selector Phase.isTerminal = c.skipped key batch selector := by
      have hadd := standing_add_skipped keyed batch selector hquiet
      omega
    have hmax : max limit 0 = (limit.toNat : Int) := by omega
    refine ⟨limit, hlimit, ?_⟩
    rw [if_pos hover, hmax]
    simp only [Tally.summary, JobBatch.failureThreshold, hlimit, Option.map_some, hless, if_true,
      hrest]
    rfl

/-- A plan ends in success when all children that count have succeeded, one for each template. -/
theorem outcome_eq_succeeded_iff (keyed : c.children.Keyed) {verdict : Verdict}
    (hverdict : (c.planOf key batch (c.templates.list key.ns selector)).verdict = some verdict) :
    verdict.outcome = .succeeded ↔ ∀ template ∈ c.templates.list key.ns selector,
      c.Stands key batch (fun phase => phase = .succeeded) template := by
  rw [(planOf_facts keyed).2, Option.ite_none_right_eq_some] at hverdict
  obtain rfl := Option.some.inj hverdict.2
  rw [forall_stands_succeeded_iff keyed]
  simp only
  split
  · rename_i hall
    exact ⟨fun _ => hall, fun _ => rfl⟩
  · rename_i hnot
    exact ⟨nofun, fun hall => absurd hall hnot⟩

end Caches

/-! ## What a pass comes to -/

namespace Stage

variable {c : Caches} {key : ObjectKey} {batch : JobBatch}

/-- A pass over a pending batch has a status to write just when the batch is due. -/
theorem isDue_iff_ending?_ofKey (hbatch : c.batches.get? key = some batch)
    (hpending : batch.isComplete = false) (keyed : c.children.Keyed) :
    c.IsDue key batch ↔ (ofKey c (.batch key)).ending?.isSome = true := by
  cases hselector : Selector.read batch.spec.selector with
  | error fault =>
    have hending : (ofKey c (.batch key)).ending?.isSome = true := by
      simp [ofKey, Decision.make, hbatch, hpending, hselector, ofDecision, ending?]
    exact ⟨fun _ => hending, fun _ => .refused hselector⟩
  | ok selector =>
    rw [(orders_ofKey hbatch hpending hselector).2, Option.isSome_map]
    exact Caches.isDue_iff_verdict keyed hselector

/-- What a pass over a pending batch has to write is what is to be written about the batch, and it
then has no child to bring. -/
theorem isEnded_of_ending?_ofKey (hbatch : c.batches.get? key = some batch)
    (hpending : batch.isComplete = false) (keyed : c.children.Keyed) {sent : JobBatch}
    (hending : (ofKey c (.batch key)).ending? = some sent) :
    (ofKey c (.batch key)).orders = [] ∧ c.IsEnded key batch sent := by
  cases hselector : Selector.read batch.spec.selector with
  | error fault =>
    simp only [ofKey, Decision.make, hbatch, hpending, hselector, Bool.false_eq_true, if_false,
      ofDecision, ending?, orders, Option.some.injEq] at hending ⊢
    obtain rfl := hending
    refine ⟨trivial, rfl, rfl, _, _, rfl, ?_, ?_, ?_⟩
    · simp [Verdict.ofFault, hselector]
    · intro selector hvalid
      cases hselector.symm.trans hvalid
    · intro fault' hselector'
      cases hselector.symm.trans hselector'
      rfl
  | ok selector =>
    rw [(orders_ofKey hbatch hpending hselector).2] at hending
    rw [(orders_ofKey hbatch hpending hselector).1]
    obtain ⟨verdict, hverdict, rfl⟩ := Option.map_eq_some_iff.1 hending
    refine ⟨?_, rfl, rfl, _, _, rfl, ?_, ?_, ?_⟩
    · exact List.map_eq_nil_iff.2 (Caches.starts_eq_nil_of_verdict keyed hverdict)
    · rw [decide_eq_true_eq, Caches.outcome_eq_succeeded_iff keyed hverdict]
      refine ⟨fun hall => ⟨selector, hselector, hall⟩, ?_⟩
      rintro ⟨selector', hselector', hall⟩
      cases hselector.symm.trans hselector'
      exact hall
    · intro selector' hselector'
      cases hselector.symm.trans hselector'
      exact Caches.isReport_of_verdict keyed hverdict
    · intro fault hinvalid
      cases hselector.symm.trans hinvalid

end Stage

end BatchOperator
