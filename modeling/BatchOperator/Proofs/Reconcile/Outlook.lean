import BatchOperator.Proofs.Reconcile.Growth
import BatchOperator.Proofs.Reconcile.Store

/-!
# A cache that comes later

The cache of children shows a pod some time after it was stored, be it after a moment or after
hours. An `Outlook` is what the caches show and what is stored. `Surroundings.Lags` says what a pass
can rely on when nobody deletes children or changes their marks: a child that was created is stored,
and stays so; what the cache has shown it goes on showing; and it shows nothing that is not stored.

Nothing is said about when a child that is stored comes to be shown.
-/

set_option autoImplicit false

namespace BatchOperator

/-- A pod has the marks of another one: it carries the same labels and has the same owners. -/
structure Pod.SameMarks (pod other : Pod) : Prop where
  labels : other.metadata.labels = pod.metadata.labels
  owners : other.metadata.ownerReferences = pod.metadata.ownerReferences

theorem Pod.SameMarks.refl (pod : Pod) : pod.SameMarks pod := ⟨rfl, rfl⟩

theorem Pod.SameMarks.trans {a b c : Pod} (h : a.SameMarks b) (h' : b.SameMarks c) :
    a.SameMarks c :=
  ⟨h'.labels.trans h.labels, h'.owners.trans h.owners⟩

/-- What the caches show, and which pods are stored. -/
structure Outlook where
  shown : Caches := {}
  stored : OrderedMap ObjectKey Pod := .empty

namespace Outlook

variable {o o' o'' : Outlook} {key : ObjectKey} {uid : Option String}

/-- The cache shows children that are stored, and batches of one UID under the key. -/
structure Sound (key : ObjectKey) (uid : Option String) (o : Outlook) : Prop where
  children : ∀ k shown, o.shown.children.get? k = some shown →
    ∃ stored, o.stored.get? k = some stored ∧ stored.SameMarks shown
  batch : ∀ batch, o.shown.batches.get? key = some batch →
    Resource.key batch = .ok key ∧ batch.metadata.uid = uid
  templates : o.shown.templates.Keyed

/-- Children may have come, but none is gone and none has got other marks; and what was shown is
shown. -/
structure Grows (o o' : Outlook) : Prop where
  stored : ∀ k pod, o.stored.get? k = some pod →
    ∃ pod', o'.stored.get? k = some pod' ∧ pod.SameMarks pod'
  shown : ∀ k, (o.shown.children.get? k).isSome = true →
    (o'.shown.children.get? k).isSome = true

theorem Grows.refl (o : Outlook) : o.Grows o :=
  ⟨fun _ pod h => ⟨pod, h, .refl pod⟩, fun _ h => h⟩

theorem Grows.trans (h : o.Grows o') (h' : o'.Grows o'') : o.Grows o'' := by
  constructor
  · intro k pod hpod
    obtain ⟨pod', hpod', hsame⟩ := h.stored k pod hpod
    obtain ⟨pod'', hpod'', hsame'⟩ := h'.stored k pod' hpod'
    exact ⟨pod'', hpod'', hsame.trans hsame'⟩
  · intro k hk
    exact h'.shown k (h.shown k hk)

end Outlook

/-- Surroundings in which a child that was created is stored under its key and comes into the cache
at some time or other. Names need not be fresh for what follows. -/
structure Surroundings.Lags {σ : Type} (env : Surroundings σ) (outlook : σ → Outlook)
    (key : ObjectKey) (uid : Option String) : Prop where
  created : ∀ {manifest child : Pod} {s s' : σ}, env.createChild manifest s = (.ok child, s') →
    child.metadata.ns = manifest.metadata.ns ∧
      ∃ stored, (outlook s').stored.get? (Stage.childKey child) = some stored ∧
        manifest.SameMarks stored
  sees : ∀ k s, env.sees k s = ((outlook s).shown.children.get? k).isSome
  sound : env.Keeps fun s => (outlook s).Sound key uid
  grows : ∀ o : Outlook, env.Keeps fun s => o.Grows (outlook s)

/-! ## A store with a late cache -/

section LateStore

/-- The caches as they would be if everything that is stored were shown. -/
def Outlook.current (o : Outlook) : Caches := o.shown.withChildren ⟨o.stored, true⟩

/-- An outlook with one more pod stored. -/
def Outlook.withStored (o : Outlook) (manifest : Pod) : Outlook :=
  let child := Caches.newChild manifest o.current
  { o with stored := o.stored.insert (Stage.childKey child) child }

/-- An outlook in which everything that is stored is shown. -/
def Outlook.caughtUp (o : Outlook) : Outlook := { o with shown := o.current }

/-- A store that nothing is deleted from, with caches that show nothing by themselves. -/
def lateStore : Surroundings Outlook where
  createChild manifest o := (.ok (Caches.newChild manifest o.current), o.withStored manifest)
  listChildren _ _ o := (.ok [], o)
  deleteChild _ o := (.error (.invalidObject "not deleted"), o)
  replaceStatus batch o := (.ok batch, o)
  publish _ o := o
  sees key o := (o.shown.children.get? key).isSome
  count _ o := o

/-- A pod that is stored under a new name leaves all others as they are. -/
theorem Outlook.get?_withStored {o : Outlook} (manifest : Pod) {key : ObjectKey} {pod : Pod}
    (h : o.stored.get? key = some pod) : (o.withStored manifest).stored.get? key = some pod := by
  rw [withStored, OrderedMap.get?_insert, if_neg]
  · exact h
  · -- Nothing is stored under the name that the new pod is given.
    rintro rfl
    have hfresh : o.current.children.get? (Stage.childKey (Caches.newChild manifest o.current)) =
        none := Caches.get?_eq_none_of_newName rfl
    cases hfresh.symm.trans h

theorem Outlook.Sound.withStored {o : Outlook} {key : ObjectKey} {uid : Option String}
    (h : o.Sound key uid) (manifest : Pod) : (o.withStored manifest).Sound key uid := by
  refine ⟨?_, h.batch, h.templates⟩
  intro k shown hshown
  obtain ⟨stored, hstored, hsame⟩ := h.children k shown hshown
  exact ⟨stored, Outlook.get?_withStored manifest hstored, hsame⟩

theorem Outlook.grows_withStored (o : Outlook) (manifest : Pod) : o.Grows (o.withStored manifest) :=
  ⟨fun _ pod h => ⟨pod, Outlook.get?_withStored manifest h, .refl pod⟩, fun _ h => h⟩

/-- Everything that is stored can be shown at any time. -/
theorem Outlook.Sound.caughtUp {o : Outlook} {key : ObjectKey} {uid : Option String}
    (h : o.Sound key uid) : o.caughtUp.Sound key uid ∧ o.Grows o.caughtUp := by
  refine ⟨⟨fun k pod hpod => ⟨pod, hpod, .refl pod⟩, h.batch, h.templates⟩,
    fun k pod hpod => ⟨pod, hpod, .refl pod⟩, ?_⟩
  -- What was shown before is stored, so it is still shown.
  intro k hk
  obtain ⟨shown, hshown⟩ := Option.isSome_iff_exists.1 hk
  obtain ⟨stored, hstored, -⟩ := h.children k shown hshown
  exact Option.isSome_of_eq_some hstored

theorem lags_lateStore (key : ObjectKey) (uid : Option String) :
    lateStore.Lags (fun o => o) key uid where
  created {manifest child s s'} hcall := by
    cases hcall
    refine ⟨rfl, Caches.newChild manifest s.current, ?_, rfl, rfl⟩
    rw [Outlook.withStored, OrderedMap.get?_insert, if_pos rfl]
  sees _ _ := rfl
  sound :=
    { createChild := fun manifest _ h => h.withStored manifest
      listChildren := fun _ _ _ h => h
      deleteChild := fun _ _ h => h
      replaceStatus := fun _ _ h => h
      publish := fun _ _ h => h
      count := fun _ _ h => h }
  grows _ :=
    { createChild := fun manifest s h => h.trans (s.grows_withStored manifest)
      listChildren := fun _ _ _ h => h
      deleteChild := fun _ _ h => h
      replaceStatus := fun _ _ h => h
      publish := fun _ _ h => h
      count := fun _ _ h => h }

end LateStore

end BatchOperator
