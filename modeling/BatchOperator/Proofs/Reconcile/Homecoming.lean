import BatchOperator.Proofs.Keys
import BatchOperator.Proofs.Reconcile.Frame
import BatchOperator.Proofs.Reconcile.Outlook
import BatchOperator.Proofs.Reconcile.Routes

/-!
# How a child finds its way back

What a batch writes into the manifest of a child is read in four places: by the query for its
children, by the index that says which templates have one, by the test whose child it is, and by
the router. A child that was stored from a manifest, under any name and in any state, is understood
in all four (`JobBatch.returns_of_storedAs`), whatever labels and annotations the template carries,
because the marks of the batch are put above those of the template.

The key of a batch goes through the text of an annotation and is read back from it, which needs a
namespace and a name that are not empty and have no slash in them (`ObjectKey.parse_render`).
-/

set_option autoImplicit false

namespace BatchOperator

/-- A readable key has a namespace. -/
theorem ObjectKey.ns_ne_of_isReadable {key : ObjectKey} (h : key.isReadable = true) :
    key.ns ≠ "" :=
  (isReadable_iff.1 h).ns.ne_empty

/-- A pod as it is stored under a name that was made up for it. Whatever else is put into it, and
whatever becomes of its status, its marks are those of its manifest. -/
structure Pod.StoredAs (manifest : Pod) (name : String) (pod : Pod) : Prop
    extends manifest.SameMarks pod where
  name : pod.metadata.name = some name
  ns : pod.metadata.ns = manifest.metadata.ns
  annotations : pod.metadata.annotations = manifest.metadata.annotations

/-- A child of the batch of a key and with a UID is understood wherever its marks are read: it is
selected by the query for the children of the batch, runs the template, belongs to this batch and to
no other one, and as long as it is cached it counts for its template, or is a duplicate of another
child that does, and no pass starts the template again. -/
structure Pod.Returns (batch : ObjectKey) (uid template : String) (own : ObjectKey) (pod : Pod) :
    Prop where
  keyed : Resource.key pod = .ok own
  selected : (Selector.ofLabels [(batchLabel, batch.name)]).selects (Cache.labelsOf pod) = true
  templateName : pod.templateName = some template
  owned : ∀ other : JobBatch, other.metadata.uid = some uid → pod.isOwnedBy other = true
  alien : ∀ (other : JobBatch) (uid' : String), other.metadata.uid = some uid' → uid' ≠ uid →
    pod.isOwnedBy other = false
  listed : ∀ c : Caches, c.children.get? own = some pod → pod ∈ c.childrenOf batch
  indexed : ∀ (c : Caches) (current : JobBatch), c.children.Keyed →
    c.children.get? own = some pod → current.metadata.uid = some uid →
    ∃ first, (ChildIndex.build current (c.childrenOf batch)).byTemplate.get? template = some first ∧
      (first = pod ∨ pod ∈ (ChildIndex.build current (c.childrenOf batch)).duplicates)
  /-- A pass over the batch that begins while the child is cached asks for no other one. -/
  single : ∀ (c : Caches), c.children.get? own = some pod →
    (∀ current, c.batches.get? batch = some current → current.metadata.uid = some uid) →
    ∀ {σ : Type} (env : Surroundings σ) (timeout : Duration) (turns : List (Turn σ)) (last : Stage),
      Stage.Path env timeout (.ofKey c (.batch batch)) turns last →
      ∀ turn ∈ turns, ∀ manifest answer, .created manifest answer ∈ turn.calls env timeout →
        manifest.templateName ≠ some template

/-- A pass has no order for a template for which one of the children speaks. -/
theorem Stage.templateName_ne_of_mem_orders {c : Caches} {key : ObjectKey} {order child : Pod}
    {template : String} (horder : order ∈ (ofKey c (.batch key)).orders)
    (hchild : child ∈ c.childrenOf key)
    (hspeaks : ∀ current, c.batches.get? key = some current →
      child.speaksFor current template = true) : order.templateName ≠ some template := by
  obtain ⟨batch, selector, hbatch, horders⟩ := of_mem_orders_ofKey horder
  rw [horders] at horder
  obtain ⟨started, hstarted, rfl⟩ := List.mem_map.1 horder
  have hsilent := Plan.speaksFor_of_mem_undispatched
    ((Plan.starts_sublist _ _ _).subset hstarted) child hchild
  rw [JobBatch.templateName_childManifest]
  rintro hsame
  obtain rfl := Option.some.inj hsame
  cases (hspeaks batch hbatch).symm.trans hsilent

namespace JobBatch

variable {batch : JobBatch} {key : ObjectKey} {uid name : String} {template : JobTemplate}
variable {pod : Pod}

/-- A child names its batch in its annotation, over any annotation of its template. -/
theorem owner?_childManifest (hof : Caches.IsOf batch key) (hreadable : key.isReadable = true) :
    (batch.childManifest template).owner? = some key := by
  have hkey : (⟨batch.metadata.nsOrDefault, batch.name⟩ : ObjectKey) = key := by
    rw [hof.ns, hof.name]
  refine Pod.owner?_eq_some.2 ⟨key.render, ?_, ObjectKey.parse_render hreadable⟩
  simp [childManifest, Metadata.annotationMap, hkey]

/-- The controller of a child is its batch. -/
theorem controllerUid_childManifest (huid : batch.metadata.uid = some uid) :
    (batch.childManifest template).controllerUid = some uid := by
  simp [childManifest, Pod.controllerUid, Metadata.owners, ownerReference, huid]

theorem owner?_of_storedAs (hof : Caches.IsOf batch key) (hreadable : key.isReadable = true)
    (h : (batch.childManifest template).StoredAs name pod) : pod.owner? = some key := by
  have hsame : pod.owner? = (batch.childManifest template).owner? := by
    simp only [Pod.owner?, Metadata.annotationMap, h.annotations]
  rw [hsame]
  exact owner?_childManifest hof hreadable

/-- A stored child has a key in the namespace of its batch. -/
theorem key_of_storedAs (hof : Caches.IsOf batch key) (hname : name ≠ "")
    (h : (batch.childManifest template).StoredAs name pod) :
    Resource.key pod = .ok ⟨key.ns, name⟩ := by
  have hns : pod.metadata.ns = some key.ns := h.ns.trans (congrArg some hof.ns)
  show pod.metadata.key = _
  simp [Metadata.key, h.name, hns, hname]

/-- The controller of a stored child is its batch. -/
theorem controllerUid_of_storedAs (huid : batch.metadata.uid = some uid)
    (h : (batch.childManifest template).StoredAs name pod) : pod.controllerUid = some uid := by
  have hsame : pod.controllerUid = (batch.childManifest template).controllerUid := by
    simp only [Pod.controllerUid, Metadata.owners, h.owners]
  rw [hsame]
  exact controllerUid_childManifest huid

theorem returns_storedAs (hof : Caches.IsOf batch key) (huid : batch.metadata.uid = some uid)
    (hname : name ≠ "") (h : (batch.childManifest template).StoredAs name pod) :
    pod.Returns key uid template.name ⟨key.ns, name⟩ := by
  have hcontroller := controllerUid_of_storedAs huid h
  have hbatchName : pod.batchName = some key.name := by
    rw [Pod.batchName_congr h.labels, batchName_childManifest, hof.name]
  have htemplate : pod.templateName = some template.name := by
    rw [Pod.templateName_congr h.labels, templateName_childManifest]
  have howned : ∀ other : JobBatch, other.metadata.uid = some uid → pod.isOwnedBy other = true := by
    intro other hother
    simp [Pod.isOwnedBy, hcontroller, hother]
  have hlisted : ∀ c : Caches, c.children.get? ⟨key.ns, name⟩ = some pod →
      pod ∈ c.childrenOf key :=
    fun c hget => Caches.mem_childrenOf.2 ⟨_, hget, rfl, hbatchName⟩
  -- The batch may have changed since the child was made, but its UID has not.
  have hspeaks : ∀ current : JobBatch, current.metadata.uid = some uid →
      pod.speaksFor current template.name = true :=
    fun current hcurrent => Pod.speaksFor_iff.2 ⟨howned current hcurrent, htemplate⟩
  refine ⟨key_of_storedAs hof hname h, Caches.selects_batchName.2 hbatchName, htemplate, howned, ?_,
    hlisted, ?_, ?_⟩
  · intro other uid' hother hne
    simp [Pod.isOwnedBy, hcontroller, hother, Ne.symm hne]
  · intro c current hkeyed hget hcurrent
    have hdescribes := ChildIndex.describes_build current (c.childrenOf key)
    have hsorted : pod ∈ Pod.inCreationOrder (c.childrenOf key) :=
      (Pod.perm_inCreationOrder _).mem_iff.2 (hlisted c hget)
    -- At least this child speaks for the template, so the index has one that does.
    have hsome : (List.find? (Pod.speaksFor current template.name)
        (Pod.inCreationOrder (c.childrenOf key))).isSome = true :=
      List.find?_isSome.2 ⟨pod, hsorted, hspeaks current hcurrent⟩
    rw [← hdescribes.byTemplate] at hsome
    obtain ⟨first, hfirst⟩ := Option.isSome_iff_exists.1 hsome
    refine ⟨first, hfirst, ?_⟩
    by_cases hsame : first = pod
    · exact .inl hsame
    · -- Of two children of a template the one that does not count is a duplicate.
      refine .inr ((ChildIndex.mem_duplicates_build (Caches.nodup_childrenOf hkeyed)).2
        ⟨hlisted c hget, template.name, hspeaks current hcurrent, ?_⟩)
      rw [hfirst]
      rintro ⟨⟩
      exact hsame rfl
  · intro c hget hcurrent σ env timeout turns last hpath turn hturn manifest answer hcall
    refine Stage.templateName_ne_of_mem_orders (hpath.mem_orders_of_created hturn hcall)
      (hlisted c hget) ?_
    exact fun current hbatch => hspeaks current (hcurrent current hbatch)

/-- A child of a batch with a UID is understood wherever its marks are read, and every change of it
is work for its batch first, and then for the child itself if the change shows its end. -/
theorem returns_of_storedAs (hkey : Resource.key batch = .ok key)
    (hreadable : key.isReadable = true) (huid : batch.metadata.uid = some uid) (hname : name ≠ "")
    (h : (batch.childManifest template).StoredAs name pod) :
    pod.Returns key uid template.name ⟨key.ns, name⟩ ∧
      Routing.childKeys (.added pod) = .ok [.batch key] ∧
      Routing.childKeys (.deleted pod) = .ok [.batch key] ∧
      ∀ later, (batch.childManifest template).StoredAs name later → later ≠ pod →
        Routing.childKeys (.modified pod later) = .ok (.batch key ::
          if !pod.phase.isTerminal && later.phase.isTerminal then
            [.childStatus ⟨key.ns, name⟩]
          else []) := by
  have hof := Caches.isOf_of_key (ObjectKey.ns_ne_of_isReadable hreadable) hkey
  have hown := key_of_storedAs hof hname h
  have howner := owner?_of_storedAs hof hreadable h
  refine ⟨returns_storedAs hof huid hname h, ?_, ?_, ?_⟩
  · exact Routing.childKeys_of_owner (.added pod) hown rfl howner
  · exact Routing.childKeys_of_owner (.deleted pod) hown rfl howner
  · intro later hlater hne
    have hidle : (Change.modified pod later).isIdle = false := by
      simp [Change.isIdle, Ne.symm hne]
    rw [Routing.childKeys_of_owner (.modified pod later) (key_of_storedAs hof hname hlater) hidle
      (owner?_of_storedAs hof hreadable hlater), Routing.endWork_modified]

section Example

/-- A template whose pod carries the marks of children of another batch. -/
def spoofingTemplate : JobTemplate :=
  { metadata := { name := some "t", ns := some "n" }
    template :=
      { metadata := some
          { labels := some (.ofList [(batchLabel, "other"), (templateLabel, "none")])
            annotations := some (.ofList [( ownerAnnotation, "n/other")]) } } }

/-- A child of the small batch that was made from this template, in a phase. -/
def spoofedChild (phase : Phase) : Pod :=
  { smallBatch.childManifest spoofingTemplate with
    metadata :=
      { (smallBatch.childManifest spoofingTemplate).metadata with
        name := some "t-x7", uid := some "v", resourceVersion := some "7" }
    status := some { phase := some phase.render } }

theorem spoofedChild_storedAs (phase : Phase) :
    (smallBatch.childManifest spoofingTemplate).StoredAs "t-x7" (spoofedChild phase) :=
  ⟨⟨rfl, rfl⟩, rfl, rfl, rfl⟩

/-- The marks of the template are of no avail. -/
theorem returns_spoofedChild :
    (spoofedChild .running).Returns ⟨"n", "b"⟩ "u" "t" ⟨"n", "t-x7"⟩ ∧
      Routing.childKeys (.modified (spoofedChild .running) (spoofedChild .failed)) =
        .ok [.batch ⟨"n", "b"⟩, .childStatus ⟨"n", "t-x7"⟩] := by
  have hsmall : Resource.key smallBatch = .ok ⟨"n", "b"⟩ := rfl
  obtain ⟨hreturns, -, -, hmodified⟩ := returns_of_storedAs hsmall (by decide +kernel) rfl
    (by decide) (spoofedChild_storedAs .running)
  exact ⟨hreturns, hmodified _ (spoofedChild_storedAs .failed) (by decide +kernel)⟩

end Example

end JobBatch

end BatchOperator
