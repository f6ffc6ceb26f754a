import BatchOperator.Proofs.Reconcile.Plan
import Mathlib.Data.List.Forall2

/-!
# The plan after a plan

When a plan has been followed (`Plan.Followed`), the children that were too many are gone and every
template that was to be started has a child of its own that has not ended. The next plan is made
from that. It removes nothing (`Followed.orderly`) and its tally is the same (`Followed.tally_eq`),
so it can only come to something else where what was removed had not ended: it was holding slots,
or was waited for. Otherwise there is nothing left to do (`Followed.idle`).
-/

set_option autoImplicit false

namespace BatchOperator

/-- Every element on the right has one on the left. -/
theorem exists_left_of_forall₂ {α β : Type} {R : α → β → Prop} {xs : List α} {ys : List β}
    (h : List.Forall₂ R xs ys) {y : β} (hy : y ∈ ys) : ∃ x ∈ xs, R x y := by
  induction h with
  | nil => cases hy
  | @cons x _ xs _ hR _ ih =>
    rcases List.mem_cons.1 hy with rfl | hy
    · exact ⟨x, List.mem_cons_self, hR⟩
    · obtain ⟨x, hx, hR⟩ := ih hy
      exact ⟨x, List.mem_cons_of_mem _ hx, hR⟩

/-- A child runs a template for a batch and has not ended. -/
structure Pod.Runs (batch : JobBatch) (template : JobTemplate) (child : Pod) : Prop where
  owned : child.isOwnedBy batch = true
  templateName : child.templateName = some template.name
  unfinished : child.phase.isTerminal = false

theorem Pod.map_templateName_of_runs {batch : JobBatch} {templates : List JobTemplate}
    {children : List Pod} (h : List.Forall₂ (Pod.Runs batch) templates children) :
    children.map Pod.templateName = templates.map fun template => some template.name := by
  induction h with
  | nil => rfl
  | cons hruns _ ih => rw [List.map_cons, List.map_cons, hruns.templateName, ih]

namespace Plan

/-- Nothing is left to do. -/
structure Idle (plan : Plan) : Prop where
  extras : plan.extras = []
  starts : plan.starts = []
  verdict : plan.verdict = none

/-- What there is after a plan: the children that were too many are gone, and each of the templates
that were to be started has a child of its own that has not ended. -/
def Followed (plan : Plan) (children children' : List Pod) : Prop :=
  ∃ made, List.Forall₂ (Pod.Runs plan.batch) plan.starts made ∧
    children'.Perm (children.filter (fun child => child ∉ plan.extras) ++ made)

variable {batch : JobBatch} {templates : List JobTemplate} {children children' : List Pod}

/-- The children that are too many are those of another batch, and those that speak for a template
for which another child counts. -/
theorem mem_extras_iff (hnodup : children.Nodup) (templates : List JobTemplate) {child : Pod} :
    child ∈ (make batch templates children).extras ↔ child ∈ children ∧
      (child.isOwnedBy batch = false ∨ ∃ template, child.speaksFor batch template = true ∧
        (ChildIndex.build batch children).byTemplate.get? template ≠ some child) := by
  have hleftovers : child ∈ (ChildIndex.build batch children).leftovers ↔
      child ∈ children ∧ child.isOwnedBy batch = false := by
    rw [(ChildIndex.describes_build batch children).leftovers, List.mem_filter,
      (Pod.perm_inCreationOrder children).mem_iff, Bool.not_eq_true']
  simp only [make, List.mem_append, hleftovers, ChildIndex.mem_duplicates_build hnodup, and_or_left]

/-- The children that stay belong to the batch, and each of them counts for its template, if it has
one. -/
theorem mem_kept_iff (hnodup : children.Nodup) (templates : List JobTemplate) {child : Pod} :
    child ∈ children.filter (fun child => child ∉ (make batch templates children).extras) ↔
      child ∈ children ∧ child.isOwnedBy batch = true ∧
        ∀ template, child.templateName = some template →
          (ChildIndex.build batch children).byTemplate.get? template = some child := by
  rw [List.mem_filter, decide_eq_true_eq, mem_extras_iff hnodup]
  constructor
  · rintro ⟨hchild, hkept⟩
    have howned : child.isOwnedBy batch = true := by
      cases howned : child.isOwnedBy batch with
      | true => rfl
      | false => exact absurd ⟨hchild, .inl howned⟩ hkept
    refine ⟨hchild, howned, ?_⟩
    intro template hname
    refine Classical.byContradiction fun hother => hkept ?_
    exact ⟨hchild, .inr ⟨template, Pod.speaksFor_iff.2 ⟨howned, hname⟩, hother⟩⟩
  · rintro ⟨hchild, howned, hcounts⟩
    refine ⟨hchild, ?_⟩
    rintro ⟨-, hforeign | ⟨template, hspeaks, hother⟩⟩
    · cases howned.symm.trans hforeign
    · exact hother (hcounts template (Pod.speaksFor_iff.1 hspeaks).2)

/-- A child that counts belongs to the batch and is labelled with its template. -/
theorem of_byTemplate_eq_some {template : String} {child : Pod}
    (h : (ChildIndex.build batch children).byTemplate.get? template = some child) :
    child ∈ children ∧ child.isOwnedBy batch = true ∧ child.templateName = some template := by
  rw [(ChildIndex.describes_build batch children).byTemplate] at h
  have hspeaks := Pod.speaksFor_iff.1 (List.find?_some h)
  exact ⟨(Pod.perm_inCreationOrder children).mem_iff.1 (List.mem_of_find?_eq_some h), hspeaks⟩

section Made

variable {made : List Pod}

/-- The children that were made run templates that had no child before. -/
theorem byTemplate_eq_none_of_made
    (hmade : List.Forall₂ (Pod.Runs batch) (make batch templates children).starts made)
    {child : Pod} (hchild : child ∈ made) {template : String}
    (hname : child.templateName = some template) :
    (ChildIndex.build batch children).byTemplate.get? template = none := by
  have hmem : some template ∈ made.map Pod.templateName := hname ▸ List.mem_map_of_mem hchild
  rw [Pod.map_templateName_of_runs hmade] at hmem
  obtain ⟨started, hstarted, hsame⟩ := List.mem_map.1 hmem
  cases hsame
  have hopen := (List.mem_filter.1 ((starts_sublist batch templates children).subset hstarted)).2
  simpa [OrderedMap.contains] using hopen

/-- The children that stay and those that were made are in order. -/
theorem orderly_kept_append (hnodup : children.Nodup)
    (hnames : (templates.map JobTemplate.name).Nodup)
    (hmade : List.Forall₂ (Pod.Runs batch) (make batch templates children).starts made) :
    Orderly batch (children.filter
      (fun child => child ∉ (make batch templates children).extras) ++ made) := by
  constructor
  · intro child hchild
    rcases List.mem_append.1 hchild with hkept | hchild
    · exact ((mem_kept_iff hnodup templates).1 hkept).2.1
    · obtain ⟨template, -, hruns⟩ := exists_left_of_forall₂ hmade hchild
      exact hruns.owned
  · refine List.pairwise_append.2 ⟨?_, ?_, ?_⟩
    · -- Two children that stay and run the same template would both be the one that counts.
      refine (List.Pairwise.and_mem.1 (hnodup.filter _)).imp ?_
      rintro a b ⟨ha, hb, hne⟩ hsame
      cases hname : a.templateName with
      | none => rfl
      | some template =>
        have hcounts := ((mem_kept_iff hnodup templates).1 ha).2.2 template hname
        have hcounts' := ((mem_kept_iff hnodup templates).1 hb).2.2 template (hsame ▸ hname)
        exact absurd (Option.some.inj (hcounts.symm.trans hcounts')) hne
    · have hstarts : ((make batch templates children).starts.map fun template =>
          some template.name).Nodup := by
        have hsub := (starts_sublist batch templates children).trans List.filter_sublist
        have hsome := (hnames.sublist (hsub.map JobTemplate.name)).map fun _ _ => Option.some.inj
        rwa [List.map_map] at hsome
      rw [← Pod.map_templateName_of_runs hmade] at hstarts
      refine (List.pairwise_map.1 hstarts).imp ?_
      intro a b hne hsame
      exact absurd hsame hne
    · intro a ha b hb hsame
      cases hname : a.templateName with
      | none => rfl
      | some template =>
        -- A template was only started when nobody counted for it.
        have hcounts := ((mem_kept_iff hnodup templates).1 ha).2.2 template hname
        cases hcounts.symm.trans (byTemplate_eq_none_of_made hmade hb (hsame ▸ hname))

end Made

namespace Followed

/-- After a plan the children are in order. -/
theorem orderly (h : (make batch templates children).Followed children children')
    (hnodup : children.Nodup) (hnames : (templates.map JobTemplate.name).Nodup) :
    Orderly batch children' := by
  obtain ⟨made, hmade, hperm⟩ := h
  exact (orderly_kept_append hnodup hnames hmade).perm hperm

/-- After a plan the children that count are those that counted before, and those that were made. -/
theorem any_byTemplate (h : (make batch templates children).Followed children children')
    (hnodup : children.Nodup) (hnames : (templates.map JobTemplate.name).Nodup)
    {P : Pod → Bool} (hP : ∀ child, P child = true → child.phase.isTerminal = true)
    (template : String) :
    ((ChildIndex.build batch children').byTemplate.get? template).any P =
      ((ChildIndex.build batch children).byTemplate.get? template).any P := by
  have horderly := h.orderly hnodup hnames
  obtain ⟨made, hmade, hperm⟩ := h
  rw [Bool.eq_iff_iff, Option.any_eq_true, Option.any_eq_true]
  constructor
  · rintro ⟨child, hget, hchild⟩
    obtain ⟨hmem, hname⟩ := horderly.byTemplate_iff.1 hget
    refine ⟨child, ?_, hchild⟩
    rcases List.mem_append.1 (hperm.mem_iff.1 hmem) with hkept | hmem
    · exact ((mem_kept_iff hnodup templates).1 hkept).2.2 template hname
    · -- What was made has not ended.
      obtain ⟨started, -, hruns⟩ := exists_left_of_forall₂ hmade hmem
      cases hruns.unfinished.symm.trans (hP child hchild)
  · rintro ⟨child, hget, hchild⟩
    obtain ⟨hmem, howned, hname⟩ := of_byTemplate_eq_some hget
    refine ⟨child, horderly.byTemplate_iff.2 ⟨?_, hname⟩, hchild⟩
    apply hperm.mem_iff.2
    refine List.mem_append_left _ ((mem_kept_iff hnodup templates).2 ⟨hmem, howned, ?_⟩)
    intro other hother
    cases hname.symm.trans hother
    exact hget

/-- After a plan the tally is the same. -/
theorem tally_eq (h : (make batch templates children).Followed children children')
    (hnodup : children.Nodup) (hnames : (templates.map JobTemplate.name).Nodup) :
    Tally.ofChildren (authoritative (ChildIndex.build batch children') templates) =
      Tally.ofChildren (authoritative (ChildIndex.build batch children) templates) := by
  have hcount : ∀ P : Pod → Bool, (∀ child, P child = true → child.phase.isTerminal = true) →
      (authoritative (ChildIndex.build batch children') templates).countP P =
        (authoritative (ChildIndex.build batch children) templates).countP P := by
    intro P hP
    have hgetD : ∀ found : Option Pod, (found.map P).getD false = found.any P := by
      rintro (_ | _) <;> rfl
    simp only [authoritative, List.countP_filterMap, hgetD,
      h.any_byTemplate hnodup hnames hP]
  rw [Tally.ofChildren_eq, Tally.ofChildren_eq]
  simp only [Pod.countFinished, Pod.countFailed]
  rw [hcount _ fun _ hended => hended, hcount _ fun _ => Phase.isTerminal_of_isFailure]

/-- After a plan that has removed no child that had not ended, what runs is what ran before and what
was started. -/
theorem countUnfinished_eq (h : (make batch templates children).Followed children children')
    (hended : ∀ child ∈ (make batch templates children).extras, child.phase.isTerminal = true) :
    Pod.countUnfinished children' =
      Pod.countUnfinished children + (make batch templates children).starts.length := by
  obtain ⟨made, hmade, hperm⟩ := h
  have hkept : (children.filter
      (fun child => child ∉ (make batch templates children).extras)).countP
        (fun child => !child.phase.isTerminal) = Pod.countUnfinished children := by
    rw [List.countP_filter, Pod.countUnfinished]
    apply List.countP_congr
    intro child _
    simp only [Bool.and_eq_true, decide_eq_true_eq, and_iff_left_iff_imp]
    intro hruns hextra
    rw [hended child hextra] at hruns
    cases hruns
  have hnew : made.countP (fun child => !child.phase.isTerminal) = made.length := by
    apply List.countP_eq_length.2
    intro child hchild
    obtain ⟨template, -, hruns⟩ := exists_left_of_forall₂ hmade hchild
    rw [hruns.unfinished]
    rfl
  rw [Pod.countUnfinished, hperm.countP_eq, List.countP_append, hkept, hnew, hmade.length_eq]

/-- After a plan the templates that have no child are those that had none and were not started. -/
theorem mem_undispatched (h : (make batch templates children).Followed children children')
    (hnodup : children.Nodup) (hnames : (templates.map JobTemplate.name).Nodup)
    {template : JobTemplate}
    (htemplate : template ∈ undispatched (ChildIndex.build batch children') templates) :
    template ∈ undispatched (ChildIndex.build batch children) templates ∧
      template ∉ (make batch templates children).starts := by
  have horderly := h.orderly hnodup hnames
  obtain ⟨made, hmade, hperm⟩ := h
  obtain ⟨hselected, hopen⟩ := List.mem_filter.1 htemplate
  have hnobody : ∀ child, child ∈ children' → child.templateName ≠ some template.name := by
    intro child hchild hname
    simp [OrderedMap.contains, horderly.byTemplate_iff.2 ⟨hchild, hname⟩] at hopen
  constructor
  · refine List.mem_filter.2 ⟨hselected, ?_⟩
    cases hget : (ChildIndex.build batch children).byTemplate.get? template.name with
    | none => simp [OrderedMap.contains, hget]
    | some child =>
      -- A child that counts is one that stays.
      obtain ⟨hmem, howned, hname⟩ := of_byTemplate_eq_some hget
      refine absurd hname (hnobody child (hperm.mem_iff.2 (List.mem_append_left _ ?_)))
      refine (mem_kept_iff hnodup templates).2 ⟨hmem, howned, ?_⟩
      intro other hother
      cases hname.symm.trans hother
      exact hget
  · intro hstarted
    obtain ⟨child, hchild, hruns⟩ := exists_left_of_forall₂ hmade.flip hstarted
    exact hnobody child (hperm.mem_iff.2 (List.mem_append_right _ hchild)) hruns.templateName

/-- After a plan that came to no verdict and has removed no child that had not ended, nothing is
left to do. -/
theorem idle (h : (make batch templates children).Followed children children')
    (hnodup : children.Nodup) (hnames : (templates.map JobTemplate.name).Nodup)
    (hverdict : (make batch templates children).verdict = none)
    (hended : ∀ child ∈ (make batch templates children).extras, child.phase.isTerminal = true) :
    (make batch templates children').Idle := by
  have hruns := h.countUnfinished_eq hended
  have htally := h.tally_eq hnodup hnames
  refine ⟨(h.orderly hnodup hnames).extras_eq_nil templates, ?_, ?_⟩
  · simp only [make, htally]
    split
    · rfl
    · rename_i hover
      rw [List.eq_nil_iff_forall_not_mem]
      intro template htemplate
      obtain ⟨hopen, hleft⟩ := h.mem_undispatched hnodup hnames (List.mem_of_mem_take htemplate)
      -- A template that was left over found no slot, so all slots have been taken.
      have hstarts : (make batch templates children).starts =
          (undispatched (ChildIndex.build batch children) templates).take
            (freeSlots batch (ChildIndex.build batch children)) := if_neg hover
      rw [hstarts] at hruns hleft
      have hslots : freeSlots batch (ChildIndex.build batch children) ≤
          (undispatched (ChildIndex.build batch children) templates).length := by
        refine Nat.le_of_not_lt fun hlt => hleft ?_
        rw [List.take_of_length_le (Nat.le_of_lt hlt)]
        exact hopen
      rw [List.length_take_of_le hslots] at hruns
      have hnone : freeSlots batch (ChildIndex.build batch children') = 0 := by
        simp only [freeSlots, ChildIndex.unfinished_build] at hruns ⊢
        omega
      rw [hnone, List.take_zero] at htemplate
      cases htemplate
  · simp only [make, ite_eq_right_iff, reduceCtorEq, imp_false, Bool.not_eq_true,
      Bool.or_eq_false_iff, Bool.and_eq_false_imp] at hverdict
    obtain ⟨hmore, hwaits⟩ := hverdict
    simp only [make, htally, hmore, Bool.false_or, ite_eq_right_iff, reduceCtorEq, imp_false,
      Bool.not_eq_true, Bool.and_eq_false_imp]
    intro hover
    -- Nothing was started, so what is waited for is what was waited for before.
    have hstarts : (make batch templates children).starts = [] := if_pos hover
    rw [hstarts, List.length_nil, Nat.add_zero] at hruns
    rw [ChildIndex.unfinished_build, hruns, ← ChildIndex.unfinished_build batch]
    exact hwaits hover

end Followed

end Plan

end BatchOperator
