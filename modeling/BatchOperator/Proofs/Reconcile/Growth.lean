import BatchOperator.Proofs.Reconcile.Rounds

/-!
# A batch that is tended

Between passes a batch is `Tended`: its children belong to it and run one of its templates each, no
two of them the same. That stays so when children go on (`Tended.goesOn`), which makes those that
have ended more (`Moves.finishedOf_lt`), and when a child is made for a template that has none
(`Tended.create`, `Grown.create`).
-/

set_option autoImplicit false

namespace BatchOperator

variable {key : ObjectKey} {batch : JobBatch} {templates : List JobTemplate} {c c' : Caches}

/-- Every child belongs to the batch and runs one of the templates, and no two of them the same. -/
structure Caches.Tended (c : Caches) (key : ObjectKey) (batch : JobBatch)
    (templates : List JobTemplate) : Prop where
  owned : ∀ k child, c.HasChild key k child → child.isOwnedBy batch = true
  selected : ∀ k child, c.HasChild key k child →
    ∃ template ∈ templates, child.templateName = some template.name
  distinct : ∀ k k' child child', c.HasChild key k child → c.HasChild key k' child' →
    child.templateName = child'.templateName → k = k'

/-- The manifest of a child of the batch of a key, for every batch of one UID. -/
structure Pod.IsFor (key : ObjectKey) (uid : Option String) (manifest : Pod) : Prop where
  ns : manifest.metadata.ns = some key.ns
  batchName : manifest.batchName = some key.name
  owned : ∀ batch : JobBatch, batch.metadata.uid = uid → manifest.isOwnedBy batch = true

/-- Whether a child belongs to a batch depends on the UID of the batch only. -/
theorem Pod.isOwnedBy_of_uid_eq {child : Pod} {batch other : JobBatch}
    (h : other.metadata.uid = batch.metadata.uid) :
    child.isOwnedBy other = child.isOwnedBy batch := by
  simp only [isOwnedBy, h]

namespace Caches

/-- A batch without children is tended. -/
theorem tended_of_childrenOf_eq_nil (h : c.childrenOf key = []) :
    c.Tended key batch templates := by
  have hnone : ∀ k child, ¬c.HasChild key k child := by
    intro k child hchild
    have hmem := mem_childrenOf.2 ⟨k, hchild⟩
    rw [h] at hmem
    cases hmem
  exact ⟨fun k child hchild => absurd hchild (hnone k child),
    fun k child hchild => absurd hchild (hnone k child),
    fun k _ child _ hchild => absurd hchild (hnone k child)⟩

/-- The templates of a namespace have different names. -/
theorem nodup_names (h : c.templates.Keyed) (ns : String) (selector : Selector) :
    ((c.templates.list ns selector).map JobTemplate.name).Nodup := by
  refine List.pairwise_map.2 (Cache.pairwise_list ?_)
  -- Different keys of one namespace differ by their names, which are those of the templates.
  intro k k' a b ha hb hns hns' _ _ hne hname
  have hsame : k.name = k'.name :=
    (Metadata.anyName_of_key (h k a ha)).symm.trans
      (hname.trans (Metadata.anyName_of_key (h k' b hb)))
  exact hne (by cases k; cases k'; simp_all)

theorem Begins.nodup_names (h : c.Begins key batch templates) :
    (templates.map JobTemplate.name).Nodup := by
  obtain ⟨selector, -, hlist⟩ := h.selected
  rw [← hlist]
  exact Caches.nodup_names h.keyed key.ns selector

/-- The children of a tended batch are in order for a plan. -/
theorem Tended.tidy (h : c.Tended key batch templates)
    (hnames : (templates.map JobTemplate.name).Nodup) :
    Plan.Tidy batch templates (c.childrenOf key) := by
  refine ⟨hnames, ?_, ?_, ?_⟩
  · intro child hchild
    obtain ⟨k, hk⟩ := mem_childrenOf.1 hchild
    exact h.owned k child hk
  · intro child hchild
    obtain ⟨k, hk⟩ := mem_childrenOf.1 hchild
    exact h.selected k child hk
  · refine List.pairwise_map.2 (Cache.pairwise_list ?_)
    intro k k' a b ha hb hns hns' hsel hsel' hne hname
    exact hne (h.distinct k k' a b ⟨ha, hns, selects_batchName.1 hsel⟩
      ⟨hb, hns', selects_batchName.1 hsel'⟩ hname)

/-- Children that go on stay tended, whatever else there is in the cache. -/
theorem Tended.goesOn (h : c.Tended key batch templates)
    (hback : ∀ k child', c'.HasChild key k child' →
      ∃ child, c.HasChild key k child ∧ child.GoesOn child') : c'.Tended key batch templates := by
  refine ⟨?_, ?_, ?_⟩
  · intro k child' hchild'
    obtain ⟨child, hchild, hgoes⟩ := hback k child' hchild'
    rw [Pod.isOwnedBy_congr batch hgoes.owners]
    exact h.owned k child hchild
  · intro k child' hchild'
    obtain ⟨child, hchild, hgoes⟩ := hback k child' hchild'
    rw [Pod.templateName_congr hgoes.labels]
    exact h.selected k child hchild
  · intro k k' a' b' ha' hb' hab
    obtain ⟨a, ha, hgoesa⟩ := hback k a' ha'
    obtain ⟨b, hb, hgoesb⟩ := hback k' b' hb'
    rw [Pod.templateName_congr hgoesa.labels, Pod.templateName_congr hgoesb.labels] at hab
    exact h.distinct k k' a b ha hb hab

theorem Tended.moves (h : c.Tended key batch templates) (hmove : c.Moves key c') :
    c'.Tended key batch templates := by
  apply h.goesOn
  intro k child' hchild'
  obtain ⟨child, hget, hgoes⟩ := hmove.backwards k child' hchild'
  refine ⟨child, ⟨hget, hchild'.2.1, ?_⟩, hgoes⟩
  exact (Pod.batchName_congr hgoes.labels).symm.trans hchild'.2.2

/-- How many children of a batch have ended. -/
def finishedOf (c : Caches) (batch : ObjectKey) : Nat := Pod.countFinished (c.childrenOf batch)

theorem finishedOf_eq (c : Caches) (batch : ObjectKey) :
    c.finishedOf batch =
      c.children.objects.countWhere (isChildWhere batch fun child => child.phase.isTerminal) :=
  countP_childrenOf c batch _

/-- A move makes the children that have ended more. -/
theorem Moves.finishedOf_lt (hmove : c.Moves key c') : c.finishedOf key < c'.finishedOf key := by
  have honwards : ∀ k child, c.HasChild key k child →
      ∃ child', c'.HasChild key k child' ∧ child.GoesOn child' := by
    intro k child hchild
    obtain ⟨child', hget, hgoes⟩ := hmove.onwards k child hchild
    refine ⟨child', ⟨hget, hchild.2.1, ?_⟩, hgoes⟩
    exact (Pod.batchName_congr hgoes.labels).trans hchild.2.2
  obtain ⟨k, child, child', hchild, hruns, hget, hended⟩ := hmove.ends
  rw [finishedOf_eq, finishedOf_eq]
  refine OrderedMap.countWhere_lt k ?_ ?_ ?_
  · intro k hk
    obtain ⟨child, hchild, hended⟩ := mem_keysWhere_isChildWhere.1 hk
    obtain ⟨child', hchild', hgoes⟩ := honwards k child hchild
    exact mem_keysWhere_isChildWhere.2 ⟨child', hchild', hgoes.stays hended⟩
  · obtain ⟨other, hother, -⟩ := honwards k child hchild
    cases hget.symm.trans hother.1
    exact mem_keysWhere_isChildWhere.2 ⟨child', hother, hended⟩
  · intro hk
    obtain ⟨other, hother, hended⟩ := mem_keysWhere_isChildWhere.1 hk
    cases hchild.1.symm.trans hother.1
    rw [hruns] at hended
    cases hended

/-- What a pass has made of the caches that it began from, with some templates still to be started:
the children that were made run the other templates that it starts, and have not ended. -/
structure Grown (key : ObjectKey) (batch : JobBatch) (templates : List JobTemplate) (c₀ : Caches)
    (total : Nat) (rest : List JobTemplate) (c : Caches) : Prop where
  sameBatches : c.batches = c₀.batches
  sameTemplates : c.templates = c₀.templates
  tended : c.Tended key batch templates
  waiting : ∀ template ∈ rest, template ∈ templates ∧
    ∀ k child, c.HasChild key k child → child.templateName ≠ some template.name
  names : (rest.map JobTemplate.name).Nodup
  finished : c.finishedOf key = c₀.finishedOf key
  unfinished : c.unfinishedOf key + rest.length = total

/-- The batch is the one of the key, in a namespace that is not empty. -/
structure IsOf (batch : JobBatch) (key : ObjectKey) : Prop where
  ns : batch.metadata.nsOrDefault = key.ns
  name : batch.name = key.name

/-- A batch is the one of its own key. -/
theorem isOf_of_key (hns : key.ns ≠ "") (hkey : Resource.key batch = .ok key) : IsOf batch key := by
  have hns' : batch.metadata.ns.getD "" = key.ns := (Metadata.of_key hkey).2
  refine ⟨?_, Metadata.anyName_of_key hkey⟩
  cases hsome : batch.metadata.ns with
  | none =>
    rw [hsome] at hns'
    exact absurd hns'.symm hns
  | some ns =>
    rw [hsome] at hns'
    simpa [Metadata.nsOrDefault, hsome] using hns'

theorem Begins.isOf (h : c.Begins key batch templates) : IsOf batch key := isOf_of_key h.ns h.own

/-- What a batch makes is for every batch of its UID. -/
theorem isFor_of_isOf (hof : IsOf batch key) (template : JobTemplate) :
    (batch.childManifest template).IsFor key batch.metadata.uid := by
  refine ⟨congrArg some hof.ns, ?_, ?_⟩
  · rw [JobBatch.batchName_childManifest, hof.name]
  · intro other hother
    rw [Pod.isOwnedBy_of_uid_eq hother, JobBatch.isOwnedBy_childManifest]

/-- A child that was made for a template of the batch. -/
structure MadeFor (batch : JobBatch) (key : ObjectKey) (template : JobTemplate) (child : Pod) :
    Prop where
  own : Resource.key child = .ok (Stage.childKey child)
  ns : (Stage.childKey child).ns = key.ns
  batchName : child.batchName = some key.name
  templateName : child.templateName = some template.name
  owned : child.isOwnedBy batch = true
  unfinished : child.phase.isTerminal = false

/-- A child is made for the template that its manifest names. -/
theorem madeFor_of_isFor {manifest child : Pod} {template : JobTemplate} {k : ObjectKey}
    (hfor : manifest.IsFor key batch.metadata.uid)
    (hname : manifest.templateName = some template.name) (h : manifest.MadeFrom child)
    (hk : Resource.key child = .ok k) : MadeFor batch key template child := by
  have hns : child.metadata.ns = some key.ns := h.ns.trans hfor.ns
  have hkns : child.metadata.ns.getD "" = k.ns := (Metadata.of_key hk).2
  have hkname : child.name = k.name := Metadata.anyName_of_key hk
  have hkey : Stage.childKey child = k := by
    obtain ⟨ns, name⟩ := k
    simp only [hns, Option.getD_some] at hkns
    simp only [Stage.childKey, Metadata.nsOrDefault, hns, hkname, Option.getD_some, hkns]
  refine ⟨hkey ▸ hk, ?_, ?_, ?_, ?_, h.unfinished⟩
  · simp [Stage.childKey, Metadata.nsOrDefault, hns]
  · rw [Pod.batchName_congr h.labels, hfor.batchName]
  · rw [Pod.templateName_congr h.labels, hname]
  · rw [Pod.isOwnedBy_congr batch h.owners]
    exact hfor.owned batch rfl

theorem madeFor_of_madeFrom (hof : IsOf batch key) {template : JobTemplate} {child : Pod}
    (h : (batch.childManifest template).MadeFrom child) {k : ObjectKey}
    (hk : Resource.key child = .ok k) : MadeFor batch key template child :=
  madeFor_of_isFor (isFor_of_isOf hof template) (JobBatch.templateName_childManifest batch template)
    h hk

section Create

variable {template : JobTemplate} {child : Pod} {change : Change Pod} {children : Cache Pod}

/-- The children of a batch when one was made under a new key. -/
theorem hasChild_withChildren_iff (hmade : MadeFor batch key template child)
    (happly : c.children.apply child = .ok (change, children))
    (hfresh : c.children.get? (Stage.childKey child) = none) {k : ObjectKey} {p : Pod} :
    (c.withChildren children).HasChild key k p ↔
      k = Stage.childKey child ∧ p = child ∨ c.HasChild key k p := by
  obtain ⟨k₀, hk₀, rfl⟩ := Cache.apply_cases happly
  cases hmade.own.symm.trans hk₀
  simp only [HasChild, withChildren, Cache.get?, OrderedMap.get?_insert]
  by_cases hk : k = Stage.childKey child
  · subst hk
    simp only [Cache.get?] at hfresh
    simp only [if_true, Option.some.injEq, hfresh, reduceCtorEq, false_and, or_false, true_and]
    constructor
    · exact fun h => h.1.symm
    · rintro rfl
      exact ⟨rfl, hmade.ns, hmade.batchName⟩
  · simp [hk]

/-- With a child that was made, what is counted depends on that child alone. -/
theorem countP_withChildren (hmade : MadeFor batch key template child)
    (happly : c.children.apply child = .ok (change, children))
    (hfresh : c.children.get? (Stage.childKey child) = none) (P : Pod → Bool) :
    ((c.withChildren children).childrenOf key).countP P =
      (c.childrenOf key).countP P + (P child).toNat := by
  obtain ⟨k, hk, rfl⟩ := Cache.apply_cases happly
  cases hmade.own.symm.trans hk
  rw [countP_childrenOf, countP_childrenOf]
  simp only [withChildren]
  rw [OrderedMap.countWhere_insert_of_fresh hfresh]
  simp [isChildWhere, hmade.ns, hmade.batchName]

/-- A batch stays tended when a child is made for a template that has none. -/
theorem Tended.create (h : c.Tended key batch templates) (htemplate : template ∈ templates)
    (hnone : ∀ k p, c.HasChild key k p → p.templateName ≠ some template.name)
    (hmade : MadeFor batch key template child)
    (happly : c.children.apply child = .ok (change, children))
    (hfresh : c.children.get? (Stage.childKey child) = none) :
    (c.withChildren children).Tended key batch templates := by
  have hiff : ∀ k p, (c.withChildren children).HasChild key k p ↔
      k = Stage.childKey child ∧ p = child ∨ c.HasChild key k p :=
    fun k p => hasChild_withChildren_iff hmade happly hfresh
  refine ⟨?_, ?_, ?_⟩
  · intro k p hp
    rcases (hiff k p).1 hp with ⟨rfl, rfl⟩ | hp
    · exact hmade.owned
    · exact h.owned k p hp
  · intro k p hp
    rcases (hiff k p).1 hp with ⟨rfl, rfl⟩ | hp
    · exact ⟨template, htemplate, hmade.templateName⟩
    · exact h.selected k p hp
  · intro k k' p p' hp hp' hsame
    rcases (hiff k p).1 hp with ⟨rfl, rfl⟩ | hp <;> rcases (hiff k' p').1 hp' with ⟨rfl, rfl⟩ | hp'
    · rfl
    -- No child that was there before runs the template of the new one.
    · exact absurd (hsame.symm.trans hmade.templateName) (hnone k' p' hp')
    · exact absurd (hsame.trans hmade.templateName) (hnone k p hp)
    · exact h.distinct k k' p p' hp hp' hsame

/-- A child that was made runs no template of another name. -/
theorem waiting_create (hmade : MadeFor batch key template child)
    (happly : c.children.apply child = .ok (change, children))
    (hfresh : c.children.get? (Stage.childKey child) = none) {name : String}
    (hname : template.name ≠ name)
    (hnone : ∀ k p, c.HasChild key k p → p.templateName ≠ some name) :
    ∀ k p, (c.withChildren children).HasChild key k p → p.templateName ≠ some name := by
  intro k p hp hpname
  rcases (hasChild_withChildren_iff hmade happly hfresh).1 hp with ⟨rfl, rfl⟩ | hp
  · exact hname (Option.some.inj (hmade.templateName.symm.trans hpname))
  · exact hnone k p hp hpname

/-- A pass makes the child of the next template. -/
theorem Grown.create {c₀ : Caches} {total : Nat} {rest : List JobTemplate}
    (h : Grown key batch templates c₀ total (template :: rest) c)
    (hmade : MadeFor batch key template child)
    (happly : c.children.apply child = .ok (change, children))
    (hfresh : c.children.get? (Stage.childKey child) = none) :
    Grown key batch templates c₀ total rest (c.withChildren children) ∧
      ((c.withChildren children).children.get? (Stage.childKey child)).isSome = true := by
  obtain ⟨htemplate, hnone⟩ := h.waiting template List.mem_cons_self
  obtain ⟨hname, hnames⟩ := List.nodup_cons.1 h.names
  have hcount := countP_withChildren hmade happly hfresh
  refine ⟨⟨h.sameBatches, h.sameTemplates, h.tended.create htemplate hnone hmade happly hfresh,
    ?_, hnames, ?_, ?_⟩, ?_⟩
  · intro other hother
    obtain ⟨hmem, hwaits⟩ := h.waiting other (List.mem_cons_of_mem _ hother)
    refine ⟨hmem, waiting_create hmade happly hfresh ?_ hwaits⟩
    -- The templates that still wait have other names than this one.
    intro hsame
    exact hname (hsame ▸ List.mem_map_of_mem hother)
  · rw [← h.finished, finishedOf, Pod.countFinished, hcount, hmade.unfinished]
    rfl
  · have htotal := h.unfinished
    rw [← htotal, unfinishedOf, Pod.countUnfinished, hcount, hmade.unfinished]
    simp only [unfinishedOf, Pod.countUnfinished, List.length_cons, Bool.not_false, Bool.toNat_true]
    omega
  · have hchild : (c.withChildren children).HasChild key (Stage.childKey child) child :=
      (hasChild_withChildren_iff hmade happly hfresh).2 (.inl ⟨rfl, rfl⟩)
    rw [hchild.1]
    rfl

end Create

end Caches

end BatchOperator
