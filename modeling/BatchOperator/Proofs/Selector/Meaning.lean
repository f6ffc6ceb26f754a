import BatchOperator.Selector

/-!
# What a label selector means

A label selector is written as labels that an object has to have and as expressions, each of which
compares one label by an operator. `LabelSelector.Admits` says which labels satisfy it: all of its
clauses hold, and there is one at least. `LabelExpression.IsFaulty` says which expressions have no
meaning.

Reading a selector fails just when one of its expressions is faulty, and what is read selects just
the labels that are admitted (`Selector.read_eq_error_iff`, `Selector.selects_iff_admits`). Neither
depends on the order of expressions and values, nor on how often they are written; the whole of it
is `Selector.isUnderstood`.
-/

set_option autoImplicit false

namespace BatchOperator

/-! ## Sets of texts -/

namespace OrderedMap

variable {κ α : Type} [LT κ] [DecidableEq κ] [KeyOrder κ]

theorem contains_iff {m : OrderedMap κ α} {key : κ} :
    m.contains key = true ↔ ∃ value, (key, value) ∈ m.entries := by
  simp only [contains, Option.isSome_iff_exists, mem_entries_iff]

/-- A map without entries is one that has no keys. -/
theorem isEmpty_iff {m : OrderedMap κ α} : m.isEmpty = true ↔ ∀ key, m.contains key = false := by
  rw [isEmpty, List.isEmpty_iff, List.eq_nil_iff_forall_not_mem]
  constructor
  · intro hnone key
    refine Bool.eq_false_iff.2 fun hkey => ?_
    obtain ⟨value, hmem⟩ := contains_iff.1 hkey
    exact hnone _ hmem
  · rintro hnone ⟨key, value⟩ hmem
    have hkey : m.contains key = true := contains_iff.2 ⟨value, hmem⟩
    cases (hnone key).symm.trans hkey

variable [DecidableLT κ]

theorem contains_foldl_insert {bindings : List (κ × α)} {m : OrderedMap κ α} {key : κ} :
    (bindings.foldl (fun m binding => m.insert binding.1 binding.2) m).contains key = true ↔
      m.contains key = true ∨ ∃ value, (key, value) ∈ bindings := by
  induction bindings generalizing m with
  | nil => simp
  | cons binding rest ih =>
    obtain ⟨other, value⟩ := binding
    rw [List.foldl_cons, ih, contains, contains, get?_insert]
    by_cases hkey : key = other
    · subst hkey
      simp
    · simp [hkey]

/-- The keys of a map are those of the bindings that it is made of. -/
theorem contains_ofList {bindings : List (κ × α)} {key : κ} :
    (ofList bindings).contains key = true ↔ ∃ value, (key, value) ∈ bindings := by
  rw [ofList, contains_foldl_insert]
  simp [contains]

end OrderedMap

namespace StringSet

/-- A set has the texts that it is made of, however often and in whatever order they are given. -/
theorem contains_ofTexts {texts : List String} {text : String} :
    (ofTexts texts).contains text = true ↔ text ∈ texts := by
  simp [ofTexts, OrderedMap.contains_ofList]

theorem isEmpty_ofTexts {texts : List String} : (ofTexts texts).isEmpty = true ↔ texts = [] := by
  simp only [OrderedMap.isEmpty_iff, Bool.eq_false_iff, ne_eq, contains_ofTexts,
    List.eq_nil_iff_forall_not_mem]

end StringSet

/-! ## Clauses -/

namespace LabelTest

variable {texts : List String} {found : Option String}

theorem passes_among : (among (.ofTexts texts)).passes found = true ↔
    ∃ value ∈ texts, found = some value := by
  cases found with
  | none => simp [passes]
  | some value => simp [passes, StringSet.contains_ofTexts]

theorem passes_notAmong : (notAmong (.ofTexts texts)).passes found = true ↔
    ∀ value ∈ texts, found ≠ some value := by
  cases found with
  | none => simp [passes]
  | some value =>
    rw [passes, Bool.not_eq_true', ← Bool.not_eq_true, StringSet.contains_ofTexts]
    constructor
    · rintro hnot other hother ⟨⟩
      exact hnot hother
    · exact fun h hmem => h value hmem rfl

theorem passes_present : present.passes found = true ↔ ∃ value, found = some value := by
  rw [passes, Option.isSome_iff_exists]

theorem passes_absent : absent.passes found = true ↔ found = none := by
  rw [passes, Option.isNone_iff_eq_none]

end LabelTest

/-- The clause that asks for a value holds for labels that have it. -/
theorem Clause.holds_equals {key value : String} {labels : StringMap} :
    (equals key value).holds labels = true ↔ labels.get? key = some value := by
  rw [holds, equals, LabelTest.passes_among]
  simp

/-! ## Expressions -/

namespace LabelExpression

/-- The values that an expression is written with. -/
def texts (e : LabelExpression) : List String := e.values.getD []

/-- An expression has no meaning: nobody knows its operator, or the operator compares with values
and there are none, or it compares with nothing and there are values. -/
inductive IsFaulty (e : LabelExpression) : Prop where
  | unknown (h : e.operator ∉ ["In", "NotIn", "Exists", "DoesNotExist"])
  | valueless (h : e.operator = "In" ∨ e.operator = "NotIn") (hnone : e.texts = [])
  | burdened (h : e.operator = "Exists" ∨ e.operator = "DoesNotExist") (hsome : e.texts ≠ [])

/-- Labels satisfy an expression, each operator in its own way. A label that is not there has none
of the values, so it satisfies an operator that forbids them. -/
structure IsMetBy (e : LabelExpression) (labels : StringMap) : Prop where
  among : e.operator = "In" → ∃ value ∈ e.texts, labels.get? e.key = some value
  notAmong : e.operator = "NotIn" → ∀ value ∈ e.texts, labels.get? e.key ≠ some value
  present : e.operator = "Exists" → ∃ value, labels.get? e.key = some value
  absent : e.operator = "DoesNotExist" → labels.get? e.key = none

theorem isMetBy_iff {e : LabelExpression} {labels : StringMap} : e.IsMetBy labels ↔
    (e.operator = "In" → ∃ value ∈ e.texts, labels.get? e.key = some value) ∧
      (e.operator = "NotIn" → ∀ value ∈ e.texts, labels.get? e.key ≠ some value) ∧
      (e.operator = "Exists" → ∃ value, labels.get? e.key = some value) ∧
      (e.operator = "DoesNotExist" → labels.get? e.key = none) :=
  ⟨fun ⟨among, notAmong, present, absent⟩ => ⟨among, notAmong, present, absent⟩,
    fun ⟨among, notAmong, present, absent⟩ => ⟨among, notAmong, present, absent⟩⟩

/-- What reading an expression comes to: a fault if it has no meaning, and otherwise a clause that
holds for the labels that satisfy it. -/
def IsRead (e : LabelExpression) : Except SelectorFault Clause → Prop
  | .error _ => e.IsFaulty
  | .ok clause => ¬e.IsFaulty ∧ ∀ labels, clause.holds labels = true ↔ e.IsMetBy labels

variable {e : LabelExpression} {test : LabelTest}

/-- An operator that compares with values is read if there are some. -/
theorem isRead_comparing (hop : e.operator = "In" ∨ e.operator = "NotIn")
    (htest : ∀ labels : StringMap, test.passes (labels.get? e.key) = true ↔ e.IsMetBy labels) :
    e.IsRead (if (StringSet.ofTexts e.texts).isEmpty then .error (.noValues e.operator e.key)
      else .ok ⟨e.key, test⟩) := by
  by_cases hnone : e.texts = []
  · rw [if_pos (StringSet.isEmpty_ofTexts.2 hnone)]
    exact .valueless hop hnone
  · rw [if_neg fun hempty => hnone (StringSet.isEmpty_ofTexts.1 hempty)]
    refine ⟨?_, htest⟩
    rintro (hunknown | ⟨-, hnone'⟩ | ⟨hop', -⟩)
    · rcases hop with hop | hop <;> simp [hop] at hunknown
    · exact hnone hnone'
    · rcases hop with hop | hop <;> simp [hop] at hop'

/-- An operator that compares with nothing is read if there are no values. -/
theorem isRead_bare (hop : e.operator = "Exists" ∨ e.operator = "DoesNotExist")
    (htest : ∀ labels : StringMap, test.passes (labels.get? e.key) = true ↔ e.IsMetBy labels) :
    e.IsRead (if (StringSet.ofTexts e.texts).isEmpty then .ok ⟨e.key, test⟩
      else .error (.needlessValues e.operator e.key)) := by
  by_cases hnone : e.texts = []
  · rw [if_pos (StringSet.isEmpty_ofTexts.2 hnone)]
    refine ⟨?_, htest⟩
    rintro (hunknown | ⟨hop', -⟩ | ⟨-, hsome⟩)
    · rcases hop with hop | hop <;> simp [hop] at hunknown
    · rcases hop with hop | hop <;> simp [hop] at hop'
    · exact hsome hnone
  · rw [if_neg fun hempty => hnone (StringSet.isEmpty_ofTexts.1 hempty)]
    exact .burdened hop hnone

/-- Every expression is read as what it means, operator by operator. -/
theorem isRead_clause (e : LabelExpression) : e.IsRead e.clause := by
  by_cases hin : e.operator = "In"
  · simp only [clause, if_pos hin]
    apply isRead_comparing (.inl hin)
    intro labels
    rw [LabelTest.passes_among]
    simp [isMetBy_iff, hin, texts]
  by_cases hnotIn : e.operator = "NotIn"
  · simp only [clause, if_neg hin, if_pos hnotIn]
    apply isRead_comparing (.inr hnotIn)
    intro labels
    rw [LabelTest.passes_notAmong]
    simp [isMetBy_iff, hnotIn, texts]
  by_cases hexists : e.operator = "Exists"
  · simp only [clause, if_neg hin, if_neg hnotIn, if_pos hexists]
    apply isRead_bare (.inl hexists)
    intro labels
    rw [LabelTest.passes_present]
    simp [isMetBy_iff, hexists]
  by_cases hnotExists : e.operator = "DoesNotExist"
  · simp only [clause, if_neg hin, if_neg hnotIn, if_neg hexists, if_pos hnotExists]
    apply isRead_bare (.inr hnotExists)
    intro labels
    rw [LabelTest.passes_absent]
    simp [isMetBy_iff, hnotExists]
  · simp only [clause, if_neg hin, if_neg hnotIn, if_neg hexists, if_neg hnotExists]
    exact .unknown (by simp [hin, hnotIn, hexists, hnotExists])

/-- Two expressions say the same: they have the same key, the same operator and the same values, in
whatever order and however often. -/
structure Alike (e e' : LabelExpression) : Prop where
  key : e'.key = e.key
  operator : e'.operator = e.operator
  texts : ∀ text, text ∈ e'.texts ↔ text ∈ e.texts

variable {e' : LabelExpression}

theorem Alike.symm (h : e.Alike e') : e'.Alike e :=
  ⟨h.key.symm, h.operator.symm, fun text => (h.texts text).symm⟩

theorem Alike.isFaulty (h : e.Alike e') (hfaulty : e.IsFaulty) : e'.IsFaulty := by
  have hnil : e'.texts = [] ↔ e.texts = [] := by
    simp only [List.eq_nil_iff_forall_not_mem, h.texts]
  rcases hfaulty with hunknown | ⟨hop, hnone⟩ | ⟨hop, hsome⟩
  · exact .unknown (h.operator ▸ hunknown)
  · exact .valueless (h.operator ▸ hop) (hnil.2 hnone)
  · exact .burdened (h.operator ▸ hop) (hsome ∘ hnil.1)

theorem Alike.isMetBy (h : e.Alike e') {labels : StringMap} (hmet : e.IsMetBy labels) :
    e'.IsMetBy labels := by
  rw [isMetBy_iff] at hmet ⊢
  simpa only [h.key, h.operator, h.texts] using hmet

end LabelExpression

/-! ## Lists of expressions -/

section Traversal

variable {ε α β : Type}

/-- Every element of a list is read, or one of them cannot be. -/
theorem mapM_cases (f : α → Except ε β) (xs : List α) :
    (∃ e, xs.mapM f = .error e ∧ ∃ x ∈ xs, f x = .error e) ∨
      ∃ ys, xs.mapM f = .ok ys ∧ xs.map f = ys.map .ok := by
  induction xs with
  | nil => exact .inr ⟨[], rfl, rfl⟩
  | cons x rest ih =>
    rw [List.mapM_cons]
    cases hx : f x with
    | error e => exact .inl ⟨e, rfl, x, List.mem_cons_self, hx⟩
    | ok y =>
      rcases ih with ⟨e, hrest, other, hother, he⟩ | ⟨ys, hrest, hys⟩
      · exact .inl ⟨e, by rw [hrest]; rfl, other, List.mem_cons_of_mem x hother, he⟩
      · refine .inr ⟨y :: ys, by rw [hrest]; rfl, ?_⟩
        rw [List.map_cons, List.map_cons, hx, hys]

end Traversal

/-! ## Selectors -/

namespace LabelSelector

/-- The labels that a selector asks for. -/
def labels (s : LabelSelector) : StringMap := s.matchLabels.getD .empty

/-- The expressions of a selector. -/
def expressions (s : LabelSelector) : List LabelExpression := s.matchExpressions.getD []

/-- A selector has no clauses. -/
def IsBlank (s : LabelSelector) : Prop := s.labels.isEmpty = true ∧ s.expressions = []

/-- Labels satisfy a selector: it has a clause at least, and they satisfy all of its clauses. -/
structure Admits (s : LabelSelector) (labels : StringMap) : Prop where
  nonblank : ¬s.IsBlank
  has : ∀ key value, s.labels.get? key = some value → labels.get? key = some value
  meets : ∀ e ∈ s.expressions, e.IsMetBy labels

/-- Two selectors say the same: they ask for the same labels, and what one of them says by an
expression the other says too, in whatever order and however often. -/
structure Alike (s s' : LabelSelector) : Prop where
  labels : s'.labels = s.labels
  expressions : ∀ e ∈ s.expressions, ∃ e' ∈ s'.expressions, e.Alike e'
  expressions' : ∀ e' ∈ s'.expressions, ∃ e ∈ s.expressions, e.Alike e'

end LabelSelector

namespace Selector

/-- A selector selects labels for which all of its clauses hold, if it has clauses. -/
theorem selects_iff {selector : Selector} {labels : StringMap} :
    selector.selects labels = true ↔
      selector.clauses ≠ [] ∧ ∀ clause ∈ selector.clauses, clause.holds labels = true := by
  simp [selects, isNothing]

/-- The selector for labels selects what has all of them, if there are any. -/
theorem selects_ofLabels {pairs : List (String × String)} {labels : StringMap} :
    (ofLabels pairs).selects labels = true ↔
      pairs ≠ [] ∧ ∀ pair ∈ pairs, labels.get? pair.1 = some pair.2 := by
  rw [selects_iff, ofLabels, ne_eq, List.map_eq_nil_iff]
  simp only [List.forall_mem_map, Clause.holds_equals]

/-- A selector is read expression by expression. -/
theorem read_some (s : LabelSelector) : read (some s) =
    (s.expressions.mapM LabelExpression.clause).map fun clauses =>
      ⟨(s.labels.entries.map fun entry => .equals entry.1 entry.2) ++ clauses⟩ := by
  show (s.expressions.mapM LabelExpression.clause >>= fun clauses => _) = _
  cases s.expressions.mapM LabelExpression.clause <;> rfl

/-- Labels alone are read as the selector that asks for them. -/
theorem read_labels (wanted : StringMap) :
    read (some { matchLabels := some wanted }) = .ok (.ofLabels wanted.entries) := by
  rw [read_some]
  show Except.ok (Selector.mk (_ ++ [])) = _
  rw [List.append_nil]
  rfl

/-- What reading a selector comes to: a fault if one of its expressions has no meaning, and
otherwise clauses that all hold for the labels that are admitted. -/
theorem read_cases (s : LabelSelector) :
    ((∃ fault, read (some s) = .error fault) ∧ ∃ e ∈ s.expressions, e.IsFaulty) ∨
      ∃ selector, read (some s) = .ok selector ∧ (∀ e ∈ s.expressions, ¬e.IsFaulty) ∧
        ∀ labels, selector.selects labels = true ↔ s.Admits labels := by
  rcases mapM_cases LabelExpression.clause s.expressions with
    ⟨fault, hmap, e, he, hclause⟩ | ⟨clauses, hmap, hclauses⟩
  · have hread : e.IsRead (.error fault) := hclause ▸ e.isRead_clause
    exact .inl ⟨⟨fault, by rw [read_some, hmap]; rfl⟩, e, he, hread⟩
  · -- Each expression has its clause among those that are read, and each clause its expression.
    have hleft : ∀ e ∈ s.expressions, ∃ clause ∈ clauses, e.IsRead (.ok clause) := by
      intro e he
      obtain ⟨clause, hmem, hclause⟩ := List.mem_map.1 (hclauses ▸ List.mem_map_of_mem he)
      exact ⟨clause, hmem, hclause ▸ e.isRead_clause⟩
    have hright : ∀ clause ∈ clauses, ∃ e ∈ s.expressions, e.IsRead (.ok clause) := by
      intro clause hmem
      obtain ⟨e, he, hclause⟩ := List.mem_map.1 (hclauses.symm ▸ List.mem_map_of_mem hmem)
      exact ⟨e, he, hclause ▸ e.isRead_clause⟩
    have hlength : s.expressions.length = clauses.length := by
      simpa only [List.length_map] using congrArg List.length hclauses
    have hnil : clauses = [] ↔ s.expressions = [] := by
      rw [← List.length_eq_zero_iff, ← hlength, List.length_eq_zero_iff]
    have hblank : s.IsBlank ↔
        (s.labels.entries.map fun entry => Clause.equals entry.1 entry.2) ++ clauses = [] := by
      rw [List.append_eq_nil_iff, List.map_eq_nil_iff, hnil, LabelSelector.IsBlank,
        OrderedMap.isEmpty, List.isEmpty_iff]
    refine .inr ⟨_, by rw [read_some, hmap]; rfl, ?_, fun labels => ?_⟩
    · intro e he
      obtain ⟨clause, -, hnot, -⟩ := hleft e he
      exact hnot
    · rw [selects_iff, ne_eq, ← hblank]
      simp only [List.forall_mem_append, List.forall_mem_map, Clause.holds_equals]
      constructor
      · rintro ⟨hsome, hhas, hholds⟩
        refine ⟨hsome, ?_, ?_⟩
        · intro key value hget
          exact hhas (key, value) (OrderedMap.mem_entries_iff.2 hget)
        · intro e he
          obtain ⟨clause, hmem, -, hmeets⟩ := hleft e he
          exact (hmeets labels).1 (hholds clause hmem)
      · rintro ⟨hsome, hhas, hmeets⟩
        refine ⟨hsome, ?_, ?_⟩
        · rintro ⟨key, value⟩ hmem
          exact hhas key value (OrderedMap.mem_entries_iff.1 hmem)
        · intro clause hmem
          obtain ⟨e, he, -, hclause⟩ := hright clause hmem
          exact (hclause labels).2 (hmeets e he)

/-- A selector that is not written at all is read as one without clauses. -/
theorem read_getD (written : Option LabelSelector) :
    read written = read (some (written.getD {})) := by
  cases written <;> rfl

variable {written written' : Option LabelSelector}

theorem read_eq_error_iff : (∃ fault, read written = .error fault) ↔
    ∃ e ∈ (written.getD {}).expressions, e.IsFaulty := by
  rw [read_getD]
  rcases read_cases (written.getD {}) with ⟨hread, hfaulty⟩ | ⟨selector, hread, hnot, -⟩
  · exact iff_of_true hread hfaulty
  · refine iff_of_false ?_ ?_
    · rintro ⟨fault, hfault⟩
      cases hread.symm.trans hfault
    · rintro ⟨e, he, hfaulty⟩
      exact hnot e he hfaulty

theorem selects_iff_admits {selector : Selector} (h : read written = .ok selector)
    {labels : StringMap} :
    selector.selects labels = true ↔ (written.getD {}).Admits labels := by
  rw [read_getD] at h
  rcases read_cases (written.getD {}) with ⟨⟨fault, hread⟩, -⟩ | ⟨found, hread, -, hselects⟩
  · cases hread.symm.trans h
  · cases hread.symm.trans h
    exact hselects labels

/-- A selector without faulty expressions is read. -/
theorem exists_read (written : Option LabelSelector)
    (h : ∀ e ∈ (written.getD {}).expressions, ¬e.IsFaulty) :
    ∃ selector, read written = .ok selector := by
  cases hread : read written with
  | ok selector => exact ⟨selector, rfl⟩
  | error fault =>
    obtain ⟨e, he, hfaulty⟩ := read_eq_error_iff.1 ⟨fault, hread⟩
    exact absurd hfaulty (h e he)

end Selector

namespace LabelSelector

variable {s s' : LabelSelector}

theorem Alike.symm (h : s.Alike s') : s'.Alike s := by
  refine ⟨h.labels.symm, ?_, ?_⟩
  · intro e' he'
    obtain ⟨e, he, halike⟩ := h.expressions' e' he'
    exact ⟨e, he, halike.symm⟩
  · intro e he
    obtain ⟨e', he', halike⟩ := h.expressions e he
    exact ⟨e', he', halike.symm⟩

theorem Alike.exists_isFaulty (h : s.Alike s') (hfaulty : ∃ e ∈ s.expressions, e.IsFaulty) :
    ∃ e ∈ s'.expressions, e.IsFaulty := by
  obtain ⟨e, he, hfaulty⟩ := hfaulty
  obtain ⟨e', he', halike⟩ := h.expressions e he
  exact ⟨e', he', halike.isFaulty hfaulty⟩

theorem Alike.admits (h : s.Alike s') {labels : StringMap} (hadmits : s.Admits labels) :
    s'.Admits labels := by
  refine ⟨?_, h.labels ▸ hadmits.has, ?_⟩
  · rintro ⟨hempty, hnone⟩
    -- What one of the selectors says by an expression the other one would say too.
    refine hadmits.nonblank ⟨h.labels ▸ hempty, List.eq_nil_iff_forall_not_mem.2 ?_⟩
    intro e he
    obtain ⟨e', he', -⟩ := h.expressions e he
    rw [hnone] at he'
    cases he'
  · intro e' he'
    obtain ⟨e, he, halike⟩ := h.expressions' e' he'
    exact halike.isMetBy (hadmits.meets e he)

end LabelSelector

/-! ## The result -/

namespace Selector

/-- What is made of a selector that is written, or not written at all. -/
structure IsUnderstood (written : Option LabelSelector) : Prop where
  /-- It is turned down if one of its expressions has no meaning, and only then. -/
  refused : (∃ fault, read written = .error fault) ↔
    ∃ e ∈ (written.getD {}).expressions, e.IsFaulty
  /-- It selects the labels that it admits. -/
  selects : ∀ selector, read written = .ok selector → ∀ labels,
    selector.selects labels = true ↔ (written.getD {}).Admits labels
  /-- It does not matter in which order and how often expressions and values are written. -/
  rearranged : ∀ written', (written.getD {}).Alike (written'.getD {}) →
    ((∃ fault, read written' = .error fault) ↔ ∃ fault, read written = .error fault) ∧
      ∀ selector selector', read written = .ok selector → read written' = .ok selector' →
        ∀ labels, selector'.selects labels = selector.selects labels
  /-- Labels alone are understood as the selector that asks for them is made. -/
  ofLabels : ∀ (wanted : StringMap) (pairs : List (String × String)),
    written = some { matchLabels := some wanted } → pairs.Perm wanted.entries →
      ∃ selector, read written = .ok selector ∧
        ∀ labels, (ofLabels pairs).selects labels = selector.selects labels
  /-- Without clauses it selects nothing, not even what has no labels. -/
  blank : (written.getD {}).IsBlank →
    ∃ selector, read written = .ok selector ∧ ∀ labels, selector.selects labels = false

/-- A label selector means that all of its clauses hold: that labels are equal, and what each
expression says by its operator. -/
theorem isUnderstood (written : Option LabelSelector) : IsUnderstood written where
  refused := read_eq_error_iff
  selects selector hread labels := selects_iff_admits hread
  rearranged written' halike := by
    constructor
    · rw [read_eq_error_iff, read_eq_error_iff]
      exact ⟨halike.symm.exists_isFaulty, halike.exists_isFaulty⟩
    · intro selector selector' hread hread' labels
      rw [Bool.eq_iff_iff, selects_iff_admits hread, selects_iff_admits hread']
      exact ⟨halike.symm.admits, halike.admits⟩
  ofLabels wanted pairs hwritten hperm := by
    subst hwritten
    refine ⟨.ofLabels wanted.entries, read_labels wanted, fun labels => ?_⟩
    have hnil : pairs = [] ↔ wanted.entries = [] := by
      rw [← List.length_eq_zero_iff, hperm.length_eq, List.length_eq_zero_iff]
    rw [Bool.eq_iff_iff, selects_ofLabels, selects_ofLabels, ne_eq, hnil]
    simp only [hperm.mem_iff]
  blank hblank := by
    obtain ⟨selector, hread⟩ := exists_read written (by simp [hblank.2])
    refine ⟨selector, hread, fun labels => Bool.eq_false_iff.2 fun hselects => ?_⟩
    exact ((selects_iff_admits hread).1 hselects).nonblank hblank

/-- A label that is not there has none of the forbidden values. -/
example : (read (some { matchExpressions := some [⟨"tier", "NotIn", some ["db"]⟩] })).toOption.map
    (fun selector => selector.selects .empty) = some true := by
  decide

end Selector

end BatchOperator
