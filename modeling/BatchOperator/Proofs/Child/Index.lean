import BatchOperator.Child

/-!
# What the index of the children says

`ChildIndex.Describes` says what an index has to say about the children that it has taken in, from
the first to the last. Taking in one more child keeps it right (`Describes.add`), so an index that
was built describes all of its children (`describes_build`). Of children that are all different it
also tells exactly which of them are duplicates (`mem_duplicates_build`).
-/

set_option autoImplicit false

namespace BatchOperator

/-- Whether a child of this very batch is labelled with a template. -/
def Pod.speaksFor (batch : JobBatch) (template : String) (child : Pod) : Bool :=
  child.isOwnedBy batch && child.templateName == some template

theorem Pod.speaksFor_iff {batch : JobBatch} {template : String} {child : Pod} :
    child.speaksFor batch template = true ↔
      child.isOwnedBy batch = true ∧ child.templateName = some template := by
  simp [speaksFor]

theorem Pod.perm_inCreationOrder (pods : List Pod) : (inCreationOrder pods).Perm pods :=
  List.mergeSort_perm pods _

/-- How many of the children have not ended. -/
def Pod.countUnfinished (children : List Pod) : Nat :=
  children.countP fun child => !child.phase.isTerminal

namespace ChildIndex

/-- An index is right about the children that it has taken in. -/
structure Describes (batch : JobBatch) (seen : List Pod) (index : ChildIndex) : Prop where
  unfinished : index.unfinished = Pod.countUnfinished seen
  leftovers : index.leftovers = seen.filter fun child => !child.isOwnedBy batch
  /-- The first child that speaks for a template is the one that counts. -/
  byTemplate : ∀ template,
    index.byTemplate.get? template = seen.find? (Pod.speaksFor batch template)
  /-- A duplicate comes after another child that speaks for its template. -/
  duplicates : ∀ child ∈ index.duplicates, ∃ template first,
    child.speaksFor batch template ∧ first.speaksFor batch template ∧ [first, child].Sublist seen

variable {batch : JobBatch} {seen : List Pod} {index : ChildIndex}

theorem describes_empty (batch : JobBatch) : Describes batch [] {} :=
  ⟨rfl, rfl, fun _ => rfl, by simp⟩

/-- The index with a child counted, if it has not ended. -/
def count (index : ChildIndex) (child : Pod) : ChildIndex :=
  { index with unfinished := index.unfinished + if child.phase.isTerminal then 0 else 1 }

/-- One more child is counted, and goes to the leftovers, to nobody, to the duplicates or to its
template. -/
theorem add_cases (batch : JobBatch) (index : ChildIndex) (child : Pod) :
    (child.isOwnedBy batch = false ∧ index.add batch child =
        { index.count child with leftovers := index.leftovers ++ [child] }) ∨
      (child.isOwnedBy batch = true ∧ child.templateName = none ∧
        index.add batch child = index.count child) ∨
      ∃ template, child.isOwnedBy batch = true ∧ child.templateName = some template ∧
        (((index.byTemplate.get? template).isSome = true ∧ index.add batch child =
            { index.count child with duplicates := index.duplicates ++ [child] }) ∨
          (index.byTemplate.get? template = none ∧ index.add batch child =
            { index.count child with byTemplate := index.byTemplate.insert template child })) := by
  by_cases ho : child.isOwnedBy batch = true
  · cases ht : child.templateName with
    | none =>
      refine .inr (.inl ⟨ho, rfl, ?_⟩)
      by_cases hp : child.phase.isTerminal = true <;> simp [add, count, ho, ht, hp]
    | some template =>
      refine .inr (.inr ⟨template, ho, rfl, ?_⟩)
      cases hc : index.byTemplate.get? template <;>
        by_cases hp : child.phase.isTerminal = true <;>
          simp [add, count, OrderedMap.contains, ho, ht, hc, hp]
  · refine .inl ⟨by simpa using ho, ?_⟩
    by_cases hp : child.phase.isTerminal = true <;> simp [add, count, ho, hp]

theorem Describes.count_unfinished (h : Describes batch seen index) (child : Pod) :
    (index.count child).unfinished = Pod.countUnfinished (seen ++ [child]) := by
  simp only [count, h.unfinished, Pod.countUnfinished, List.countP_append, List.countP_singleton]
  cases child.phase.isTerminal <;> rfl

/-- A child that is no leftover leaves the leftovers as they are. -/
theorem Describes.filter_owned (h : Describes batch seen index) {child : Pod}
    (ho : child.isOwnedBy batch = true) :
    index.leftovers = (seen ++ [child]).filter fun child => !child.isOwnedBy batch := by
  simp [h.leftovers, ho]

/-- What is said of the duplicates stays right with more children. -/
theorem Describes.duplicates_append (h : Describes batch seen index) (child : Pod) :
    ∀ d ∈ index.duplicates, ∃ template first, d.speaksFor batch template ∧
      first.speaksFor batch template ∧ [first, d].Sublist (seen ++ [child]) := by
  intro d hd
  obtain ⟨template, first, hds, hfirst, hsub⟩ := h.duplicates d hd
  exact ⟨template, first, hds, hfirst, hsub.trans (List.sublist_append_left seen [child])⟩

/-- A child that speaks for no template changes nothing about those that do. -/
theorem Describes.find?_of_silent (h : Describes batch seen index) {child : Pod}
    (hs : ∀ template, child.speaksFor batch template = false) (template : String) :
    index.byTemplate.get? template = (seen ++ [child]).find? (Pod.speaksFor batch template) := by
  simp [h.byTemplate, List.find?_append, hs]

/-- Taking in one more child keeps an index right. -/
theorem Describes.add (h : Describes batch seen index) (child : Pod) :
    Describes batch (seen ++ [child]) (index.add batch child) := by
  obtain ⟨ho, e⟩ | ⟨ho, ht, e⟩ | ⟨template, ho, ht, ⟨hsome, e⟩ | ⟨hnone, e⟩⟩ :=
    add_cases batch index child
  · -- A child that belongs to another batch speaks for no template.
    have hs : ∀ t, child.speaksFor batch t = false := by simp [Pod.speaksFor, ho]
    rw [e]
    refine ⟨h.count_unfinished child, ?_, h.find?_of_silent hs, h.duplicates_append child⟩
    simp [h.leftovers, ho]
  · have hs : ∀ t, child.speaksFor batch t = false := by simp [Pod.speaksFor, ht]
    rw [e]
    exact ⟨h.count_unfinished child, h.filter_owned ho, h.find?_of_silent hs,
      h.duplicates_append child⟩
  · have hs : child.speaksFor batch template = true := Pod.speaksFor_iff.2 ⟨ho, ht⟩
    obtain ⟨first, hfirst⟩ := Option.isSome_iff_exists.1 hsome
    rw [h.byTemplate] at hfirst
    rw [e]
    refine ⟨h.count_unfinished child, h.filter_owned ho, ?_, ?_⟩
    · intro t
      show index.byTemplate.get? t = _
      rw [h.byTemplate, List.find?_append]
      by_cases hts : child.speaksFor batch t = true
      · -- The child speaks for one template only, and that one has its first child already.
        obtain rfl : template = t := by simpa [ht] using (Pod.speaksFor_iff.1 hts).2
        rw [hfirst]
        rfl
      · simp [hts]
    · intro d hd
      rcases List.mem_append.1 hd with hd | hd
      · exact h.duplicates_append child d hd
      · obtain rfl : d = child := by simpa using hd
        have hmem : [first].Sublist seen :=
          List.singleton_sublist.2 (List.mem_of_find?_eq_some hfirst)
        exact ⟨template, first, hs, List.find?_some hfirst, hmem.append (List.Sublist.refl [d])⟩
  · have hs : child.speaksFor batch template = true := Pod.speaksFor_iff.2 ⟨ho, ht⟩
    rw [h.byTemplate] at hnone
    rw [e]
    refine ⟨h.count_unfinished child, h.filter_owned ho, ?_, h.duplicates_append child⟩
    -- The first child of its template is found from now on, and for no other template.
    intro t
    show (index.byTemplate.insert template child).get? t = _
    rw [OrderedMap.get?_insert, h.byTemplate, List.find?_append]
    by_cases htt : t = template
    · subst htt
      simp [hnone, hs]
    · have hts : child.speaksFor batch t = false := by
        simp [Pod.speaksFor, ho, ht, Ne.symm htt]
      simp [htt, hts]

theorem describes_foldl (h : Describes batch seen index) (children : List Pod) :
    Describes batch (seen ++ children) (children.foldl (ChildIndex.add batch) index) := by
  induction children generalizing seen index with
  | nil => simpa using h
  | cons child rest ih => simpa using ih (h.add child)

/-- An index that was built is right about all its children, in the order of their creation. -/
theorem describes_build (batch : JobBatch) (children : List Pod) :
    Describes batch (Pod.inCreationOrder children) (build batch children) := by
  simpa [build] using describes_foldl (describes_empty batch) (Pod.inCreationOrder children)

/-- The children that have not ended are counted whatever else they are. -/
theorem unfinished_build (batch : JobBatch) (children : List Pod) :
    (build batch children).unfinished = Pod.countUnfinished children := by
  rw [(describes_build batch children).unfinished]
  exact (Pod.perm_inCreationOrder children).countP_eq _

/-- No child is set aside twice. -/
theorem length_leftovers_add_duplicates_le (batch : JobBatch) (children : List Pod)
    (index : ChildIndex) :
    (children.foldl (ChildIndex.add batch) index).leftovers.length +
        (children.foldl (ChildIndex.add batch) index).duplicates.length ≤
      index.leftovers.length + index.duplicates.length + children.length := by
  induction children generalizing index with
  | nil => exact Nat.le_refl _
  | cons child rest ih =>
    have hone : (index.add batch child).leftovers.length +
        (index.add batch child).duplicates.length ≤
          index.leftovers.length + index.duplicates.length + 1 := by
      obtain ⟨-, e⟩ | ⟨-, -, e⟩ | ⟨template, -, -, ⟨-, e⟩ | ⟨-, e⟩⟩ := add_cases batch index child <;>
        simp only [e, count, List.length_append, List.length_singleton] <;> omega
    have hrest := ih (index.add batch child)
    rw [List.foldl_cons, List.length_cons]
    omega

/-- The duplicates are the children that speak for a template for which another child counts. -/
def Separates (batch : JobBatch) (seen : List Pod) (index : ChildIndex) : Prop :=
  ∀ child, child ∈ index.duplicates ↔ child ∈ seen ∧
    ∃ template, child.speaksFor batch template = true ∧
      index.byTemplate.get? template ≠ some child

/-- Taking in a child that speaks for no template makes no duplicates. -/
theorem Separates.silent (h : Separates batch seen index) {child : Pod}
    (hs : ∀ template, child.speaksFor batch template = false) (d : Pod) :
    d ∈ index.duplicates ↔ d ∈ seen ++ [child] ∧
      ∃ template, d.speaksFor batch template = true ∧ index.byTemplate.get? template ≠ some d := by
  rw [h d, List.mem_append, List.mem_singleton]
  constructor
  · rintro ⟨hseen, hspeaks⟩
    exact ⟨.inl hseen, hspeaks⟩
  · rintro ⟨hseen | rfl, template, hspeaks, hother⟩
    · exact ⟨hseen, template, hspeaks, hother⟩
    · rw [hs template] at hspeaks
      cases hspeaks

/-- Taking in a child that was not there before keeps the duplicates right. -/
theorem Separates.add (h : Separates batch seen index) (hindex : Describes batch seen index)
    {child : Pod} (hnew : child ∉ seen) :
    Separates batch (seen ++ [child]) (index.add batch child) := by
  intro d
  obtain ⟨ho, e⟩ | ⟨ho, ht, e⟩ | ⟨template, ho, ht, ⟨hsome, e⟩ | ⟨hnone, e⟩⟩ :=
    add_cases batch index child <;> rw [e]
  · exact h.silent (by simp [Pod.speaksFor, ho]) d
  · exact h.silent (by simp [Pod.speaksFor, ht]) d
  · -- The child that counts for the template was there before, so it is another one.
    obtain ⟨first, hfirst⟩ := Option.isSome_iff_exists.1 hsome
    have hmem : first ∈ seen := by
      rw [hindex.byTemplate] at hfirst
      exact List.mem_of_find?_eq_some hfirst
    simp only [count, List.mem_append, List.mem_singleton, h d]
    constructor
    · rintro (⟨hseen, hspeaks⟩ | rfl)
      · exact ⟨.inl hseen, hspeaks⟩
      · refine ⟨.inr rfl, template, Pod.speaksFor_iff.2 ⟨ho, ht⟩, ?_⟩
        rw [hfirst]
        rintro ⟨⟩
        exact hnew hmem
    · rintro ⟨hseen | rfl, hspeaks⟩
      · exact .inl ⟨hseen, hspeaks⟩
      · exact .inr rfl
  · -- Nobody spoke for the template of the child, which counts for it from now on.
    rw [hindex.byTemplate] at hnone
    simp only [count, List.mem_append, List.mem_singleton, h d, OrderedMap.get?_insert]
    constructor
    · rintro ⟨hseen, t, hspeaks, hother⟩
      refine ⟨.inl hseen, t, hspeaks, ?_⟩
      rw [if_neg]
      · exact hother
      · rintro rfl
        exact absurd hspeaks (List.find?_eq_none.1 hnone d hseen)
    · rintro ⟨hseen | rfl, t, hspeaks, hother⟩
      · refine ⟨hseen, t, hspeaks, ?_⟩
        rw [if_neg] at hother
        · exact hother
        · rintro rfl
          exact absurd hspeaks (List.find?_eq_none.1 hnone d hseen)
      · obtain rfl : template = t := by simpa [ht] using (Pod.speaksFor_iff.1 hspeaks).2
        exact absurd (if_pos rfl) hother

theorem separates_foldl (h : Separates batch seen index) (hindex : Describes batch seen index)
    {children : List Pod} (hnodup : (seen ++ children).Nodup) :
    Separates batch (seen ++ children) (children.foldl (ChildIndex.add batch) index) := by
  induction children generalizing seen index with
  | nil => simpa using h
  | cons child rest ih =>
    have hnew : child ∉ seen := by
      have hdisjoint := (List.nodup_append.1 hnodup).2.2
      intro hseen
      exact hdisjoint child hseen child List.mem_cons_self rfl
    have hnodup' : (seen ++ [child] ++ rest).Nodup := by simpa using hnodup
    simpa using ih (h.add hindex hnew) (hindex.add child) hnodup'

/-- Of different children, the duplicates are those that speak for a template for which another one
counts. -/
theorem mem_duplicates_build {children : List Pod} (hnodup : children.Nodup) {child : Pod} :
    child ∈ (build batch children).duplicates ↔ child ∈ children ∧
      ∃ template, child.speaksFor batch template = true ∧
        (build batch children).byTemplate.get? template ≠ some child := by
  have hperm := Pod.perm_inCreationOrder children
  have hempty : Separates batch [] {} := by simp [Separates]
  have hsorted : ([] ++ Pod.inCreationOrder children).Nodup := hperm.nodup_iff.2 hnodup
  rw [← hperm.mem_iff]
  exact separates_foldl hempty (describes_empty batch) hsorted child

end ChildIndex

end BatchOperator
