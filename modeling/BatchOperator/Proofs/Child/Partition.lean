import BatchOperator.Proofs.Child.Index
import BatchOperator.Proofs.Child.Order
import Mathlib.Data.List.Nodup
import Mathlib.Tactic.FinCases

/-!
# How children are sorted out

An index splits the children of a batch into those that count for their templates, the duplicates,
the leftovers and those of the batch that name no template. Children are told apart by their names.
Then the child that counts for a template is the one that was there before all others that speak for
it (`Pod.IsBefore`), and the order in which the children were handed over does not matter.

The main statement is `ChildIndex.sortsOut_build`.
-/

set_option autoImplicit false

namespace BatchOperator

/-! ## What came first -/

/-- A time comes before another one: the seconds decide, or what is behind them. -/
def Timestamp.IsBefore (s t : Timestamp) : Prop :=
  s.seconds < t.seconds ∨ s.seconds = t.seconds ∧ s.nanos < t.nanos

theorem Timestamp.compare_eq_lt_iff {s t : Timestamp} : s.compare t = .lt ↔ s.IsBefore t := by
  rw [Timestamp.compare, Ordering.then_eq_lt, Int.compare_eq_lt, Int.compare_eq_eq,
    Nat.compare_eq_lt]
  rfl

namespace Pod

/-- A child was there before another one. -/
inductive IsBefore (a b : Pod) : Prop where
  /-- A time of creation that is not known comes first. -/
  | unknown {t : Timestamp} (ha : a.metadata.creationTimestamp = none)
      (hb : b.metadata.creationTimestamp = some t)
  | created {s t : Timestamp} (ha : a.metadata.creationTimestamp = some s)
      (hb : b.metadata.creationTimestamp = some t) (h : s.IsBefore t)
  /-- Of children that were created at the same time the names decide. -/
  | named (htime : a.metadata.creationTimestamp = b.metadata.creationTimestamp)
      (h : a.name < b.name)

theorem compareCreation_eq_lt_iff {s t : Option Timestamp} :
    compareCreation s t = .lt ↔
      (s = none ∧ ∃ u, t = some u) ∨ ∃ u v, s = some u ∧ t = some v ∧ u.IsBefore v := by
  cases s <;> cases t <;> simp [compareCreation, Timestamp.compare_eq_lt_iff]

theorem compareCreation_eq_eq_iff {s t : Option Timestamp} : compareCreation s t = .eq ↔ s = t := by
  cases s with
  | none => cases t <;> simp [compareCreation]
  | some s =>
    cases t with
    | none => simp [compareCreation]
    | some t =>
      rw [compareCreation, Timestamp.compare, Ordering.then_eq_eq,
        Std.LawfulEqOrd.compare_eq_iff_eq, Std.LawfulEqOrd.compare_eq_iff_eq]
      cases s
      cases t
      simp

/-- The order of creation is the one that times and names make. -/
theorem creationOrder_eq_lt_iff {a b : Pod} : creationOrder a b = .lt ↔ a.IsBefore b := by
  rw [creationOrder, Ordering.then_eq_lt, compareCreation_eq_lt_iff, compareCreation_eq_eq_iff,
    show compare a.name b.name = .lt ↔ a.name < b.name from compareOfLessAndEq_eq_lt]
  constructor
  · rintro ((⟨ha, t, hb⟩ | ⟨s, t, ha, hb, h⟩) | ⟨htime, h⟩)
    · exact .unknown ha hb
    · exact .created ha hb h
    · exact .named htime h
  · rintro (⟨ha, hb⟩ | ⟨ha, hb, h⟩ | ⟨htime, h⟩)
    · exact .inl (.inl ⟨ha, _, hb⟩)
    · exact .inl (.inr ⟨_, _, ha, hb, h⟩)
    · exact .inr ⟨htime, h⟩

variable {children children' : List Pod}

/-- Children of different names are the same if they have the same name. -/
theorem eq_of_name_eq (hnames : (children.map name).Nodup) {a b : Pod} (ha : a ∈ children)
    (hb : b ∈ children) (h : a.name = b.name) : a = b :=
  List.inj_on_of_nodup_map hnames ha hb h

/-- Of two children with different names one was there before the other. -/
theorem isBefore_of_isLE (hnames : (children.map name).Nodup) {a b : Pod} (ha : a ∈ children)
    (hb : b ∈ children) (hne : b ≠ a) (hle : (creationOrder a b).isLE = true) : a.IsBefore b := by
  apply creationOrder_eq_lt_iff.1
  cases horder : creationOrder a b with
  | lt => rfl
  | eq => exact absurd (eq_of_name_eq hnames ha hb (name_eq_of_creationOrder_eq horder)).symm hne
  | gt =>
    rw [horder] at hle
    cases hle

/-- The order in which children of different names are handed over does not matter. -/
theorem inCreationOrder_eq_of_perm (hnames : (children.map name).Nodup)
    (hperm : children'.Perm children) : inCreationOrder children' = inCreationOrder children := by
  have hsame : (inCreationOrder children').Perm (inCreationOrder children) :=
    (perm_inCreationOrder children').trans (hperm.trans (perm_inCreationOrder children).symm)
  apply hsame.eq_of_pairwise ?_ (pairwise_inCreationOrder children')
    (pairwise_inCreationOrder children)
  intro a b ha hb hab hba
  -- Two children that do not come after each other have the same name.
  have horder : creationOrder a b = .eq := by
    rw [creationOrder_swap b a] at hba
    cases h : creationOrder a b <;> simp_all
  have hmem : a ∈ children := hperm.mem_iff.1 ((perm_inCreationOrder children').mem_iff.1 ha)
  exact eq_of_name_eq hnames hmem ((perm_inCreationOrder children).mem_iff.1 hb)
    (name_eq_of_creationOrder_eq horder)

end Pod

/-- A new key adds its value to the values of a map. -/
theorem OrderedMap.perm_values_insert {κ α : Type} [LT κ] [DecidableEq κ] [DecidableLT κ]
    [KeyOrder κ] {m : OrderedMap κ α} {key : κ} (hnew : m.get? key = none) (value : α) :
    (m.insert key value).values.Perm (value :: m.values) := by
  obtain ⟨entries, increasing⟩ := m
  change lookup key entries = none at hnew
  change ((put key value entries).map (·.2)).Perm (value :: entries.map (·.2))
  clear increasing
  induction entries with
  | nil => rfl
  | cons head rest ih =>
    obtain ⟨k, v⟩ := head
    have hne : k ≠ key := by
      rintro rfl
      simp [lookup] at hnew
    have hrest : lookup key rest = none := by simpa [lookup, hne] using hnew
    rw [put, if_neg hne]
    split
    · rfl
    · exact ((ih hrest).cons v).trans (.swap value v _)

namespace ChildIndex

/-! ## The four places -/

/-- A child of this very batch that names no template. -/
def isMute (batch : JobBatch) (child : Pod) : Bool :=
  child.isOwnedBy batch && child.templateName.isNone

variable {batch : JobBatch} {seen children : List Pod} {index : ChildIndex} {child : Pod}

/-- The children that an index has split up. -/
def contents (batch : JobBatch) (seen : List Pod) (index : ChildIndex) : List Pod :=
  index.byTemplate.values ++ index.duplicates ++ index.leftovers ++ seen.filter (isMute batch)

theorem contents_concat (batch : JobBatch) (seen : List Pod) (index : ChildIndex) (child : Pod) :
    contents batch (seen ++ [child]) index =
      contents batch seen index ++ if isMute batch child then [child] else [] := by
  rw [contents, contents, List.filter_append, ← List.append_assoc, List.filter_cons,
    List.filter_nil]

/-- One more child goes to one place. -/
theorem perm_contents_add (h : (contents batch seen index).Perm seen) (child : Pod) :
    (contents batch (seen ++ [child]) (index.add batch child)).Perm (seen ++ [child]) := by
  refine .trans ?_ (h.append_right [child])
  rw [contents_concat]
  apply List.perm_iff_count.2
  intro pod
  obtain ⟨ho, e⟩ | ⟨ho, ht, e⟩ | ⟨template, ho, ht, ⟨-, e⟩ | ⟨hnone, e⟩⟩ :=
    add_cases batch index child
  · simp only [e, contents, count, isMute, ho, Bool.false_and, Bool.false_eq_true, if_false,
      List.count_append, List.count_nil]
    omega
  · simp only [e, contents, count, isMute, ho, ht, Option.isNone_none, Bool.and_self, if_true,
      List.count_append]
  · simp only [e, contents, count, isMute, ht, Option.isNone_some, Bool.and_false,
      Bool.false_eq_true, if_false, List.count_append, List.count_nil]
    omega
  · have hvalues := (OrderedMap.perm_values_insert hnone child).count_eq pod
    simp only [e, contents, count, isMute, ht, Option.isNone_some, Bool.and_false,
      Bool.false_eq_true, if_false, List.count_append, List.count_nil, hvalues, List.count_cons]
    omega

theorem perm_contents_foldl (h : (contents batch seen index).Perm seen) (children : List Pod) :
    (contents batch (seen ++ children) (children.foldl (ChildIndex.add batch) index)).Perm
      (seen ++ children) := by
  induction children generalizing seen index with
  | nil => simpa using h
  | cons child rest ih => simpa using ih (perm_contents_add h child)

/-- The four places hold all children, each of them once. -/
theorem perm_contents_build (batch : JobBatch) (children : List Pod) :
    (contents batch children (build batch children)).Perm children := by
  have hperm := Pod.perm_inCreationOrder children
  have hempty : (contents batch [] {}).Perm [] := .refl []
  have hsorted := perm_contents_foldl hempty (Pod.inCreationOrder children)
  rw [List.nil_append] at hsorted
  exact ((hperm.filter _).symm.append_left _).trans (hsorted.trans hperm)

/-! ## Which child counts -/

theorem mem_leftovers_build :
    child ∈ (build batch children).leftovers ↔
      child ∈ children ∧ child.isOwnedBy batch = false := by
  rw [(describes_build batch children).leftovers, List.mem_filter,
    (Pod.perm_inCreationOrder children).mem_iff, Bool.not_eq_true']

theorem isSome_get?_build {template : String} :
    ((build batch children).byTemplate.get? template).isSome = true ↔
      ∃ child ∈ children, child.speaksFor batch template = true := by
  rw [(describes_build batch children).byTemplate, List.find?_isSome]
  simp only [(Pod.perm_inCreationOrder children).mem_iff]

/-- The child that counts for a template was there before all others that speak for it. -/
theorem get?_build_eq_some_iff (hnames : (children.map Pod.name).Nodup) {template : String} :
    (build batch children).byTemplate.get? template = some child ↔
      child ∈ children ∧ child.speaksFor batch template = true ∧
        ∀ other ∈ children, other.speaksFor batch template = true → other ≠ child →
          child.IsBefore other := by
  rw [(describes_build batch children).byTemplate]
  constructor
  · intro hfind
    have hmem : child ∈ children :=
      (Pod.perm_inCreationOrder children).mem_iff.1 (List.mem_of_find?_eq_some hfind)
    refine ⟨hmem, List.find?_some hfind, ?_⟩
    intro other hother hspeaks hne
    exact Pod.isBefore_of_isLE hnames hmem hother hne
      (Pod.isLE_of_find?_inCreationOrder hfind hother hspeaks)
  · rintro ⟨hmem, hspeaks, hfirst⟩
    apply Pod.find?_inCreationOrder hmem hspeaks
    intro other hother hspeaks'
    by_cases hne : other = child
    · exact .inl hne
    · exact .inr (Pod.creationOrder_eq_lt_iff.2 (hfirst other hother hspeaks' hne))

/-- The children that are left when leftovers and duplicates were removed by their names. -/
def remaining (index : ChildIndex) (children : List Pod) : List Pod :=
  children.filter fun child => child.name ∉ (index.leftovers ++ index.duplicates).map Pod.name

/-- Of the children that speak for a template the one that counts is left. -/
theorem filter_remaining_build (hnames : (children.map Pod.name).Nodup) {template : String}
    (hfirst : (build batch children).byTemplate.get? template = some child) :
    ((build batch children).remaining children).filter (Pod.speaksFor batch template) =
      [child] := by
  have hnodup : children.Nodup := hnames.of_map Pod.name
  obtain ⟨hmem, hspeaks, -⟩ := (get?_build_eq_some_iff hnames).1 hfirst
  -- A child that speaks for the template is an extra one just when another one counts.
  have hextra : ∀ other ∈ children, other.speaksFor batch template = true →
      (other.name ∈ ((build batch children).leftovers ++
        (build batch children).duplicates).map Pod.name ↔ other ≠ child) := by
    intro other hother hspeaks'
    obtain ⟨howned, ht⟩ := Pod.speaksFor_iff.1 hspeaks'
    rw [List.mem_map]
    constructor
    · rintro ⟨extra, hin, hname⟩ rfl
      rcases List.mem_append.1 hin with hin | hin
      · obtain ⟨hin, hnot⟩ := mem_leftovers_build.1 hin
        rw [Pod.eq_of_name_eq hnames hin hother hname, howned] at hnot
        cases hnot
      · obtain ⟨hin, t, hspeaks'', hne⟩ := (mem_duplicates_build hnodup).1 hin
        obtain rfl := Pod.eq_of_name_eq hnames hin hother hname
        obtain rfl : template = t := by simpa [ht] using (Pod.speaksFor_iff.1 hspeaks'').2
        exact hne hfirst
    · intro hne
      refine ⟨other, List.mem_append_right _ ((mem_duplicates_build hnodup).2 ?_), rfl⟩
      refine ⟨hother, template, hspeaks', ?_⟩
      rw [hfirst]
      rintro ⟨⟩
      exact hne rfl
  have honly : ∀ other ∈ children, (other.speaksFor batch template && decide (other.name ∉
      ((build batch children).leftovers ++ (build batch children).duplicates).map Pod.name)) =
        (other == child) := by
    intro other hother
    by_cases hspeaks' : other.speaksFor batch template = true
    · simp only [hspeaks', hextra other hother hspeaks', Bool.true_and, ne_eq, not_not,
        beq_eq_decide]
    · have hne : other ≠ child := by
        rintro rfl
        exact hspeaks' hspeaks
      simp [hspeaks', hne]
  rw [remaining, List.filter_filter, List.filter_congr honly, List.filter_beq,
    List.count_eq_one_of_mem hnodup hmem, List.replicate_one]

/-! ## The result -/

/-- An index says of each child what it is to the batch. -/
structure SortsOut (batch : JobBatch) (children : List Pod) (index : ChildIndex) : Prop where
  /-- Every child counts for its template, is a duplicate, is a leftover, or belongs to the batch
  without naming a template. -/
  partition : (contents batch children index).Perm children
  /-- No child is in two of these places. -/
  once : (contents batch children index).Nodup
  /-- Leftovers are the children that do not belong to the batch. -/
  leftovers : ∀ child, child ∈ index.leftovers ↔
    child ∈ children ∧ child.isOwnedBy batch = false
  /-- Every template that a child of the batch names has a child that counts for it. -/
  named : ∀ template, (index.byTemplate.get? template).isSome = true ↔
    ∃ child ∈ children, child.speaksFor batch template = true
  /-- It is the one that was there before all others. -/
  first : ∀ template child, index.byTemplate.get? template = some child ↔
    child ∈ children ∧ child.speaksFor batch template = true ∧
      ∀ other ∈ children, other.speaksFor batch template = true → other ≠ child →
        child.IsBefore other
  /-- Duplicates are these others. -/
  duplicates : ∀ child, child ∈ index.duplicates ↔ child ∈ children ∧
    ∃ template, child.speaksFor batch template = true ∧
      index.byTemplate.get? template ≠ some child
  /-- All children that have not ended are counted, wherever they are. -/
  unfinished : index.unfinished = children.countP fun child => !child.phase.isTerminal
  /-- It does not matter in which order the children are handed over. -/
  rearranged : ∀ children' : List Pod, children'.Perm children → build batch children' = index
  /-- When leftovers and duplicates are removed, one child is left for every template. -/
  kept : ∀ template, (∃ child ∈ children, child.speaksFor batch template = true) →
    ∃ child, (index.remaining children).filter (Pod.speaksFor batch template) = [child]

/-- Children of different names are sorted out by the index that is built of them. -/
theorem sortsOut_build (batch : JobBatch) (children : List Pod)
    (hnames : (children.map Pod.name).Nodup) :
    SortsOut batch children (build batch children) where
  partition := perm_contents_build batch children
  once := (perm_contents_build batch children).nodup_iff.2 (hnames.of_map Pod.name)
  leftovers _ := mem_leftovers_build
  named _ := isSome_get?_build
  first _ _ := get?_build_eq_some_iff hnames
  duplicates _ := mem_duplicates_build (hnames.of_map Pod.name)
  unfinished := unfinished_build batch children
  rearranged children' hperm := by
    rw [build, build, Pod.inCreationOrder_eq_of_perm hnames hperm]
  kept template hspeaks := by
    obtain ⟨child, hfirst⟩ := Option.isSome_iff_exists.1 (isSome_get?_build.2 hspeaks)
    exact ⟨child, filter_remaining_build hnames hfirst⟩

section Example

/-- A batch that was deleted and made anew. -/
def renewedBatch : JobBatch :=
  { metadata := { name := some "b", ns := some "n", uid := some "new" }, spec := {} }

/-- A child of a batch of that name. -/
def childOf (uid name : String) (template : Option String) (time : Option Timestamp) : Pod :=
  { metadata :=
      { name := some name, ns := some "n", creationTimestamp := time
        labels := template.map fun t => .ofList [(batchLabel, "b"), (templateLabel, t)]
        ownerReferences := some
          [{ renewedBatch.ownerReference with uid := uid }] } }

/-- Two children for one template, the second of them of an unknown time, one from before the batch
was renewed, and one that names no template. -/
def mixedChildren : List Pod :=
  [childOf "new" "t-a" (some "t") (some ⟨20, 0⟩), childOf "new" "t-b" (some "t") none,
    childOf "old" "t-c" (some "t") (some ⟨10, 0⟩), childOf "new" "x" none (some ⟨30, 0⟩)]

theorem sortsOut_mixedChildren : (mixedChildren.map Pod.name).Nodup ∧
    SortsOut renewedBatch mixedChildren (build renewedBatch mixedChildren) ∧
      (build renewedBatch mixedChildren).byTemplate.get? "t" =
        some (childOf "new" "t-b" (some "t") none) := by
  have hnames : (mixedChildren.map Pod.name).Nodup := by decide
  have hsorts := sortsOut_build renewedBatch mixedChildren hnames
  refine ⟨hnames, hsorts, (hsorts.first _ _).2 ⟨by decide, by decide +kernel, ?_⟩⟩
  -- An unknown time comes before any other.
  intro other hother hspeaks hne
  fin_cases hother
  · exact .unknown rfl rfl
  · exact absurd rfl hne
  · exact absurd hspeaks (by decide +kernel)
  · exact absurd hspeaks (by decide +kernel)

end Example

end ChildIndex

end BatchOperator
