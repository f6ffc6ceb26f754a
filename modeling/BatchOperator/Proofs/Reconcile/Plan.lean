import BatchOperator.Proofs.Child.Index
import BatchOperator.Reconcile.Plan
import Mathlib.Data.List.Nodup
import Mathlib.Data.List.Pairwise

/-!
# What a plan does when nothing is out of order

Nothing is out of order (`Tidy`) when every child belongs to the batch, runs one of its templates
and is the only one that runs it. A plan then removes nothing, its tally is that of all children
(`tally_eq`), and every template either has its child or is not dispatched yet
(`length_undispatched`).
-/

set_option autoImplicit false

namespace BatchOperator

theorem Phase.isTerminal_of_isFailure {phase : Phase} (h : phase.isFailure = true) :
    phase.isTerminal = true := by
  cases phase <;> first | rfl | cases h

/-- A phase that has ended and is no failure is that of success. -/
theorem Phase.eq_succeeded_iff {phase : Phase} :
    phase = .succeeded ↔ phase.isTerminal = true ∧ phase.isFailure = false := by
  cases phase <;> simp [isTerminal, isFailure]

/-- Two children do not run the same template. -/
def Pod.Apart (a b : Pod) : Prop := a.templateName = b.templateName → a.templateName = none

theorem Pod.Apart.symm {a b : Pod} (h : a.Apart b) : b.Apart a := by
  intro hsame
  rw [hsame]
  exact h hsame.symm

instance : Std.Symm Pod.Apart := ⟨fun _ _ => Pod.Apart.symm⟩

/-- How many of the children have ended. -/
def Pod.countFinished (children : List Pod) : Nat :=
  children.countP fun child => child.phase.isTerminal

/-- How many of the children have failed. -/
def Pod.countFailed (children : List Pod) : Nat :=
  children.countP fun child => child.phase.isFailure

theorem Pod.countFinished_add_countUnfinished (children : List Pod) :
    countFinished children + countUnfinished children = children.length := by
  rw [List.length_eq_countP_add_countP fun child : Pod => child.phase.isTerminal]
  simp [countFinished, countUnfinished]

namespace Tally

/-- The tally with those counts added. -/
theorem foldl_add (children : List Pod) (t : Tally) :
    children.foldl add t =
      ⟨t.completed + Pod.countFinished children, t.failed + Pod.countFailed children⟩ := by
  induction children generalizing t with
  | nil => rfl
  | cons child rest ih =>
    rw [List.foldl_cons, ih]
    simp only [Pod.countFinished, Pod.countFailed, List.countP_cons, add]
    by_cases ht : child.phase.isTerminal = true
    · by_cases hf : child.phase.isFailure = true <;> simp [ht, hf, Nat.add_assoc, Nat.add_comm]
    · have hf : child.phase.isFailure = false := by
        cases h : child.phase.isFailure with
        | false => rfl
        | true => exact absurd (Phase.isTerminal_of_isFailure h) ht
      simp [ht, hf]

/-- A tally counts the children that have ended and those that have failed. -/
theorem ofChildren_eq (children : List Pod) :
    ofChildren children = ⟨Pod.countFinished children, Pod.countFailed children⟩ := by
  rw [ofChildren, foldl_add]
  simp

end Tally

namespace Plan

/-- Every template has a child that counts or is not dispatched yet. -/
theorem length_authoritative_add (index : ChildIndex) (templates : List JobTemplate) :
    (authoritative index templates).length + (undispatched index templates).length =
      templates.length := by
  induction templates with
  | nil => rfl
  | cons template rest ih =>
    simp only [authoritative, undispatched] at ih ⊢
    cases h : index.byTemplate.get? template.name with
    | none =>
      simp only [List.filterMap_cons, List.filter_cons, OrderedMap.contains, h,
        Option.isSome_none, Bool.not_false, if_true, List.length_cons]
      simp only [OrderedMap.contains] at ih
      omega
    | some child =>
      simp only [List.filterMap_cons, List.filter_cons, OrderedMap.contains, h,
        Option.isSome_some, Bool.not_true, Bool.false_eq_true, if_false, List.length_cons]
      simp only [OrderedMap.contains] at ih
      omega

/-- Only templates that have no child are started, each of them once. -/
theorem starts_sublist (batch : JobBatch) (templates : List JobTemplate) (children : List Pod) :
    (make batch templates children).starts.Sublist
      (undispatched (ChildIndex.build batch children) templates) := by
  simp only [make]
  split
  · exact List.nil_sublist _
  · exact List.take_sublist _ _

/-- No child speaks for a template that is not dispatched yet. -/
theorem speaksFor_of_mem_undispatched {batch : JobBatch} {templates : List JobTemplate}
    {children : List Pod} {template : JobTemplate}
    (h : template ∈ undispatched (ChildIndex.build batch children) templates) :
    ∀ child ∈ children, child.speaksFor batch template.name = false := by
  intro child hchild
  have hnone := (List.mem_filter.1 h).2
  simp only [OrderedMap.contains, (ChildIndex.describes_build batch children).byTemplate,
    Bool.not_eq_true', Option.isSome_eq_false_iff, Option.isNone_iff_eq_none] at hnone
  have hsorted := (Pod.perm_inCreationOrder children).mem_iff.2 hchild
  simpa using List.find?_eq_none.1 hnone child hsorted

/-- Every child belongs to the batch, and no two of them run the same template. -/
structure Orderly (batch : JobBatch) (children : List Pod) : Prop where
  owned : ∀ child ∈ children, child.isOwnedBy batch = true
  distinct : children.Pairwise Pod.Apart

variable {batch : JobBatch} {templates : List JobTemplate} {children : List Pod}

/-- Children in any order. -/
theorem Orderly.perm (h : Orderly batch children) {others : List Pod}
    (hperm : others.Perm children) : Orderly batch others := by
  constructor
  · intro child hchild
    exact h.owned child (hperm.mem_iff.1 hchild)
  · exact (hperm.pairwise_iff Pod.Apart.symm).2 h.distinct

/-- A template has one child at most. -/
theorem Orderly.eq_of_templateName (h : Orderly batch children) {a b : Pod} {template : String}
    (ha : a ∈ children) (hb : b ∈ children) (hat : a.templateName = some template)
    (hbt : b.templateName = some template) : a = b := by
  refine Classical.byContradiction fun hne => ?_
  have hnone := h.distinct.forall ha hb hne (hat.trans hbt.symm)
  cases hat.symm.trans hnone

/-- Nothing is removed. -/
theorem Orderly.extras_eq_nil (h : Orderly batch children) (templates : List JobTemplate) :
    (make batch templates children).extras = [] := by
  have hsorted := h.perm (Pod.perm_inCreationOrder children)
  have hindex := ChildIndex.describes_build batch children
  have hleftovers : (ChildIndex.build batch children).leftovers = [] := by
    rw [hindex.leftovers, List.filter_eq_nil_iff]
    intro child hchild
    simp [hsorted.owned child hchild]
  have hduplicates : (ChildIndex.build batch children).duplicates = [] := by
    rw [List.eq_nil_iff_forall_not_mem]
    intro child hchild
    -- Another child of the same template would come before a duplicate.
    obtain ⟨template, first, hspeaks, hfirst, hsub⟩ := hindex.duplicates child hchild
    have hname := (Pod.speaksFor_iff.1 hspeaks).2
    have hname' := (Pod.speaksFor_iff.1 hfirst).2
    have hnone := hsorted.distinct.forall_sublist hsub (hname'.trans hname.symm)
    cases hname'.symm.trans hnone
  simp only [make, hleftovers, hduplicates, List.append_nil]

/-- A child is found by the name of its template. -/
theorem Orderly.byTemplate_iff (h : Orderly batch children) {template : String} {child : Pod} :
    (ChildIndex.build batch children).byTemplate.get? template = some child ↔
      child ∈ children ∧ child.templateName = some template := by
  have hsorted := h.perm (Pod.perm_inCreationOrder children)
  rw [(ChildIndex.describes_build batch children).byTemplate]
  constructor
  · intro hfind
    have hmem := (Pod.perm_inCreationOrder children).mem_iff.1 (List.mem_of_find?_eq_some hfind)
    exact ⟨hmem, (Pod.speaksFor_iff.1 (List.find?_some hfind)).2⟩
  · rintro ⟨hmem, hname⟩
    have hmem' := (Pod.perm_inCreationOrder children).mem_iff.2 hmem
    have hspeaks := Pod.speaksFor_iff.2 ⟨h.owned child hmem, hname⟩
    obtain ⟨found, hfound⟩ := Option.isSome_iff_exists.1
      (List.find?_isSome.2 ⟨child, hmem', hspeaks⟩)
    have hname' := (Pod.speaksFor_iff.1 (List.find?_some hfound)).2
    rw [hfound, hsorted.eq_of_templateName (List.mem_of_find?_eq_some hfound) hmem' hname' hname]

/-- The templates have different names, and every child belongs to the batch, runs one of the
templates and is the only one that runs it. -/
structure Tidy (batch : JobBatch) (templates : List JobTemplate) (children : List Pod) : Prop where
  names : (templates.map JobTemplate.name).Nodup
  owned : ∀ child ∈ children, child.isOwnedBy batch = true
  selected : ∀ child ∈ children, ∃ template ∈ templates,
    child.templateName = some template.name
  distinct : (children.map Pod.templateName).Nodup

theorem Tidy.orderly (h : Tidy batch templates children) : Orderly batch children := by
  refine ⟨h.owned, (List.pairwise_map.1 h.distinct).imp ?_⟩
  intro a b hne hsame
  exact absurd hsame hne

theorem Tidy.extras_eq_nil (h : Tidy batch templates children) :
    (make batch templates children).extras = [] := h.orderly.extras_eq_nil templates

theorem Tidy.byTemplate_iff (h : Tidy batch templates children) {template : String} {child : Pod} :
    (ChildIndex.build batch children).byTemplate.get? template = some child ↔
      child ∈ children ∧ child.templateName = some template := h.orderly.byTemplate_iff

/-- The children that count are all children. -/
theorem Tidy.authoritative_perm (h : Tidy batch templates children) :
    (authoritative (ChildIndex.build batch children) templates).Perm children := by
  refine (List.perm_ext_iff_of_nodup ?_ h.distinct.of_map).2 ?_
  · -- Templates with different names have different children.
    have hnames := List.pairwise_map.1 h.names
    refine hnames.filterMap _ ?_
    intro a b hab found hfound other hother hsame
    have ha := (h.byTemplate_iff.1 hfound).2
    have hb := (h.byTemplate_iff.1 hother).2
    rw [hsame, hb] at ha
    exact hab (Option.some.inj ha).symm
  · intro child
    rw [authoritative, List.mem_filterMap]
    constructor
    · rintro ⟨template, -, hfound⟩
      exact (h.byTemplate_iff.1 hfound).1
    · intro hchild
      obtain ⟨template, htemplate, hname⟩ := h.selected child hchild
      exact ⟨template, htemplate, h.byTemplate_iff.2 ⟨hchild, hname⟩⟩

/-- The tally counts all children. -/
theorem Tidy.tally_eq (h : Tidy batch templates children) :
    Tally.ofChildren (authoritative (ChildIndex.build batch children) templates) =
      ⟨Pod.countFinished children, Pod.countFailed children⟩ := by
  rw [Tally.ofChildren_eq, Pod.countFinished, Pod.countFailed, h.authoritative_perm.countP_eq,
    h.authoritative_perm.countP_eq]
  rfl

/-- A template is not dispatched yet when no child runs it. -/
theorem Tidy.mem_undispatched (h : Tidy batch templates children) {template : JobTemplate} :
    template ∈ undispatched (ChildIndex.build batch children) templates ↔
      template ∈ templates ∧ ∀ child ∈ children, child.templateName ≠ some template.name := by
  rw [undispatched, List.mem_filter]
  refine and_congr_right fun _ => ?_
  cases hget : (ChildIndex.build batch children).byTemplate.get? template.name with
  | none =>
    simp only [OrderedMap.contains, hget, Option.isSome_none, Bool.not_false, true_iff]
    intro child hchild hname
    cases hget.symm.trans (h.byTemplate_iff.2 ⟨hchild, hname⟩)
  | some child =>
    obtain ⟨hchild, hname⟩ := h.byTemplate_iff.1 hget
    simp only [OrderedMap.contains, hget, Option.isSome_some, Bool.not_true, Bool.false_eq_true,
      false_iff]
    exact fun hnone => hnone child hchild hname

/-- Every template has its child or is not dispatched yet. -/
theorem Tidy.length_undispatched (h : Tidy batch templates children) :
    children.length + (undispatched (ChildIndex.build batch children) templates).length =
      templates.length := by
  rw [← h.authoritative_perm.length_eq]
  exact length_authoritative_add _ templates

/-- How many children run a template. -/
theorem Tidy.countP_templateName (h : Tidy batch templates children) (template : String) :
    children.countP (fun child => child.templateName == some template) =
      if some template ∈ children.map Pod.templateName then 1 else 0 := by
  rw [← h.distinct.count, List.count, List.countP_map]
  rfl

/-- No template has more than one child. -/
theorem Tidy.countP_templateName_le (h : Tidy batch templates children) (template : String) :
    children.countP (fun child => child.templateName == some template) ≤ 1 := by
  rw [h.countP_templateName]
  split <;> omega

/-- Whether more children have failed than the batch tolerates. -/
def isOver (batch : JobBatch) (children : List Pod) : Bool :=
  batch.failureThreshold.any fun n => Pod.countFailed children > n

/-- What a plan decides, told by the numbers of children that have ended, failed and not ended. -/
theorem Tidy.make_eq (h : Tidy batch templates children) :
    make batch templates children =
      { batch, extras := []
        starts :=
          if isOver batch children then []
          else (undispatched (ChildIndex.build batch children) templates).take
            (batch.slots - Pod.countUnfinished children).toNat
        verdict :=
          if Pod.countFinished children = templates.length ∨
              isOver batch children = true ∧ Pod.countUnfinished children = 0 then
            some ⟨if Pod.countFailed children = 0 ∧ Pod.countFinished children = templates.length
                then .succeeded else .failed,
              Tally.summary ⟨Pod.countFinished children, Pod.countFailed children⟩ templates.length
                (if isOver batch children then batch.failureThreshold else none)⟩
          else none } := by
  have hextras := h.extras_eq_nil
  simp only [make] at hextras
  simp only [make, hextras, h.tally_eq, freeSlots, ChildIndex.unfinished_build, Tally.isOver,
    isOver, Bool.or_eq_true, Bool.and_eq_true, beq_iff_eq]
  congr

/-- A plan without a verdict is one for a batch that has more to run, and after it something
runs. -/
theorem Tidy.of_verdict_eq_none (h : Tidy batch templates children)
    (hverdict : (make batch templates children).verdict = none) :
    Pod.countFinished children < templates.length ∧
      0 < Pod.countUnfinished children + (make batch templates children).starts.length := by
  rw [h.make_eq] at hverdict ⊢
  simp only [ite_eq_right_iff, reduceCtorEq, imp_false, not_or, not_and] at hverdict
  obtain ⟨hmore, hruns⟩ := hverdict
  have hcount := Pod.countFinished_add_countUnfinished children
  have hlength := h.length_undispatched
  refine ⟨by omega, ?_⟩
  by_cases hover : isOver batch children = true
  · have := hruns hover
    omega
  · -- There is a slot at least, and a template to start in it unless something runs already.
    have hslots : 1 ≤ batch.slots := Int.le_max_right _ _
    simp only [hover, Bool.false_eq_true, if_false, List.length_take]
    omega

/-- What the status of a batch says about its children at the end. -/
structure Concluded (batch : JobBatch) (templates : List JobTemplate) (children : List Pod)
    (status : BatchStatus) : Prop where
  phase : status.phase = .complete
  ended : ∀ child ∈ children, child.phase.isTerminal = true
  success : status.success = true ↔
    children.length = templates.length ∧ ∀ child ∈ children, child.phase = .succeeded
  /-- What is said when every template has run. -/
  all : Pod.countFinished children = templates.length → status.message =
    "Ran " ++ toString (Pod.countFinished children) ++ " tests, " ++
      toString (Pod.countFailed children) ++ " failures"
  /-- What is said when too many have failed before every template has run. -/
  skipped : Pod.countFinished children < templates.length →
    ∃ threshold, batch.failureThreshold = some threshold ∧ status.message =
      "Ran " ++ toString (Pod.countFinished children) ++ " tests, " ++
        toString (Pod.countFailed children) ++ " failures" ++ " (" ++
        toString (templates.length - Pod.countFinished children) ++
        " skipped after exceeding maxFailures=" ++ toString threshold ++ ")"
  /-- Without a limit on failures every template has run. -/
  unlimited : batch.spec.maxFailures = none → ∀ template ∈ templates,
    children.countP (fun child => child.templateName == some template.name) = 1

/-- A plan with a verdict starts nothing, and the verdict says how the children have ended. -/
theorem Tidy.concluded (h : Tidy batch templates children) {verdict : Verdict}
    (hverdict : (make batch templates children).verdict = some verdict) :
    (make batch templates children).starts = [] ∧
      Concluded batch templates children verdict.status := by
  rw [h.make_eq] at hverdict ⊢
  simp only [Option.ite_none_right_eq_some, Option.some.injEq] at hverdict
  obtain ⟨hdone, rfl⟩ := hverdict
  have hcount := Pod.countFinished_add_countUnfinished children
  have hlength := h.length_undispatched
  have hnone : Pod.countUnfinished children = 0 := by omega
  have hended : ∀ child ∈ children, child.phase.isTerminal = true := by
    intro child hchild
    have hrun := List.countP_eq_zero.1 hnone child hchild
    simpa using hrun
  refine ⟨?_, rfl, hended, ?_, ?_, ?_, ?_⟩
  · by_cases hover : isOver batch children = true
    · simp [hover]
    · have hall : Pod.countFinished children = templates.length :=
        hdone.resolve_right fun hstop => hover hstop.1
      have hnil : undispatched (ChildIndex.build batch children) templates = [] :=
        List.eq_nil_of_length_eq_zero (by omega)
      simp [hnil]
  · have hsuccess : (∀ child ∈ children, child.phase = .succeeded) ↔
        Pod.countFailed children = 0 := by
      rw [Pod.countFailed, List.countP_eq_zero]
      refine forall₂_congr fun child hchild => ?_
      rw [Phase.eq_succeeded_iff]
      simp [hended child hchild]
    rw [hsuccess]
    simp only [Verdict.status, decide_eq_true_eq]
    split <;> simp <;> omega
  · intro hall
    simp only [Verdict.status, Tally.summary, hall, Nat.lt_irrefl, if_false]
    split <;> rfl
  · intro hless
    have hover : isOver batch children = true := (hdone.resolve_left (Nat.ne_of_lt hless)).1
    obtain ⟨threshold, hthreshold, -⟩ := (Option.any_eq_true _ _).1 hover
    refine ⟨threshold, hthreshold, ?_⟩
    simp only [Verdict.status, Tally.summary, hover, if_true, hthreshold, hless]
  · intro hunlimited
    have hover : isOver batch children = false := by
      simp [isOver, JobBatch.failureThreshold, hunlimited]
    have hall := hdone.resolve_right fun hstop => by simp [hover] at hstop
    have hnil : undispatched (ChildIndex.build batch children) templates = [] :=
      List.eq_nil_of_length_eq_zero (by omega)
    intro template htemplate
    rw [h.countP_templateName, if_pos]
    -- A template that no child runs would not be dispatched yet.
    refine Decidable.byContradiction fun hnot => ?_
    have hmem : template ∈ undispatched (ChildIndex.build batch children) templates := by
      refine h.mem_undispatched.2 ⟨htemplate, fun child hchild hname => hnot ?_⟩
      exact List.mem_map.2 ⟨child, hchild, hname⟩
    rw [hnil] at hmem
    cases hmem

end Plan

namespace Decision

variable {c : Caches} {key : ObjectKey} {batch : JobBatch} {selector : Selector}

/-- The decision about a pending batch with a valid selector is its plan. -/
theorem make_eq_proceed (hbatch : c.batches.get? key = some batch)
    (hpending : batch.isComplete = false)
    (hselector : Selector.read batch.spec.selector = .ok selector) :
    make c key =
      .proceed (.make batch (c.templates.list key.ns selector) (c.childrenOf key)) := by
  simp [make, hbatch, hpending, hselector]

/-- The decisions about the batch of a key, and what they are made for. -/
theorem make_cases (c : Caches) (key : ObjectKey) :
    (c.batches.get? key = none ∧ make c key = .purge (c.childrenOf key)) ∨
      (∃ batch, c.batches.get? key = some batch ∧ batch.isComplete = true ∧ make c key = .rest) ∨
      (∃ batch fault, c.batches.get? key = some batch ∧ make c key = .refuse batch fault) ∨
      ∃ batch selector, c.batches.get? key = some batch ∧ batch.isComplete = false ∧
        Selector.read batch.spec.selector = .ok selector := by
  unfold make
  split
  · rename_i hnone
    exact .inl ⟨hnone, rfl⟩
  · rename_i batch hbatch
    by_cases hcomplete : batch.isComplete = true
    · exact .inr (.inl ⟨batch, hbatch, hcomplete, if_pos hcomplete⟩)
    · rw [if_neg hcomplete]
      have hpending : batch.isComplete = false := Bool.eq_false_iff.2 hcomplete
      split
      · rename_i fault _
        exact .inr (.inr (.inl ⟨batch, fault, hbatch, rfl⟩))
      · rename_i selector hselector
        exact .inr (.inr (.inr ⟨batch, selector, hbatch, hpending, hselector⟩))

end Decision

end BatchOperator
