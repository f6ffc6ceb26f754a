import BatchOperator.Proofs.Reconcile.Surroundings
import BatchOperator.Simulation.Store

/-!
# The store in memory as surroundings

As long as new children are seen at once, what the store in memory is asked for is seen in the
caches when it answers, and what it is told to fail at has no effect there (`mirrors`).
-/

set_option autoImplicit false

namespace BatchOperator.Simulation

namespace World

/-- New children are seen at once, and batches and children are kept under their own keys. -/
structure Open (w : World) : Prop where
  visibility : w.outside.visibility = .atOnce
  batches : w.caches.batches.Keyed
  children : w.caches.children.Keyed

/-- An operation fails without an effect on the caches, or is carried out. -/
theorem unlessFaulty_cases {α : Type} (w : World) (operation : Operation)
    (act : World → Except Error α × World) :
    (∃ e faults, w.unlessFaulty operation act =
        (.error e, w.withStore fun s => { s with faults })) ∨
      w.unlessFaulty operation act = act w := by
  unfold unlessFaulty
  split
  · rename_i e faults _
    exact .inl ⟨e, faults, rfl⟩
  · exact .inr rfl

@[simp] theorem passOnBatches_caches (w : World) (changes : List (Change JobBatch)) :
    (w.passOnBatches changes).caches = w.caches := by
  unfold passOnBatches
  split <;> rfl

@[simp] theorem passOnBatches_outside (w : World) (changes : List (Change JobBatch)) :
    (w.passOnBatches changes).outside = w.outside := by
  unfold passOnBatches
  split <;> rfl

@[simp] theorem passOnChildren_caches (w : World) (changes : List (Change Pod)) :
    (w.passOnChildren changes).caches = w.caches := by
  unfold passOnChildren
  split <;> rfl

@[simp] theorem passOnChildren_outside (w : World) (changes : List (Change Pod)) :
    (w.passOnChildren changes).outside = w.outside := by
  unfold passOnChildren
  split <;> rfl

/-- Putting a child with a key into its cache. -/
theorem putChild_of_key {w : World} {child : Pod} {key : ObjectKey}
    (hkey : Resource.key child = .ok key) :
    ∃ change children, w.caches.children.apply child = .ok (change, children) ∧
      (w.putChild child).2.caches = w.caches.withChildren children ∧
      (w.putChild child).2.outside = w.outside := by
  have happly : ∃ change children, w.caches.children.apply child = .ok (change, children) := by
    rw [Cache.apply, hkey]
    exact ⟨_, _, rfl⟩
  obtain ⟨change, children, happly⟩ := happly
  refine ⟨change, children, happly, ?_, ?_⟩
  · simp only [putChild, happly, passOnChildren_caches]
    rfl
  · simp only [putChild, happly, passOnChildren_outside]

/-- Taking a child out of its cache. -/
theorem dropChild_caches {w : World} (h : w.caches.children.Keyed) (key : ObjectKey) :
    (w.dropChild key).2.caches = w.caches.withoutChild key ∧
      (w.dropChild key).2.outside = w.outside := by
  unfold dropChild
  split
  · rename_i hnone
    refine ⟨?_, rfl⟩
    -- Without the child there is nothing to take out.
    have hsame : w.caches.children.objects.erase key = w.caches.children.objects := by
      refine OrderedMap.ext_get? ?_
      intro other
      rw [OrderedMap.get?_erase]
      split
      · rename_i hother
        rw [hother]
        exact hnone.symm
      · rfl
    simp [Caches.withoutChild, Caches.withChildren, hsame]
  · rename_i child hchild
    simp only [Cache.remove, h key child hchild, passOnChildren_caches, passOnChildren_outside]
    exact ⟨rfl, trivial⟩

/-- Putting a batch into its cache, in place of one of the same key. -/
theorem putBatch_of_key {w : World} {batch : JobBatch} {key : ObjectKey}
    (hkey : Resource.key batch = .ok key) :
    ∃ change batches, w.caches.batches.apply batch = .ok (change, batches) ∧
      (w.putBatch batch).2.caches = w.caches.withBatches batches ∧
      (w.putBatch batch).2.outside = w.outside := by
  have happly : ∃ change batches, w.caches.batches.apply batch = .ok (change, batches) := by
    rw [Cache.apply, hkey]
    exact ⟨_, _, rfl⟩
  obtain ⟨change, batches, happly⟩ := happly
  refine ⟨change, batches, happly, ?_, ?_⟩
  · simp only [putBatch, happly, passOnBatches_caches]
    rfl
  · simp only [putBatch, happly, passOnBatches_outside]

end World

/-- The name of a child that the store made up. -/
def madeName (pod : Pod) (n : Nat) : String :=
  pod.metadata.generateName.getD "" ++ String.ofList (Text.atLeast 5 n)

theorem length_atLeast (width n : Nat) : width ≤ (Text.atLeast width n).length := by
  simp only [Text.atLeast, List.length_append, List.length_replicate]
  omega

theorem key_storedChild (pod : Pod) (n : Nat) :
    Resource.key (storedChild pod n) = .ok ⟨pod.metadata.ns.getD "", madeName pod n⟩ := by
  have hname : (madeName pod n).isEmpty = false := by
    have hlength := length_atLeast 5 n
    have hpos : (madeName pod n).length ≠ 0 := by
      simp only [madeName, String.length_append, String.length_ofList]
      omega
    simpa [← String.length_eq_zero_iff] using hpos
  simp [Resource.key, Resource.metadata, Metadata.key, storedChild, madeName] at hname ⊢
  exact hname

variable {w : World}

/-- Creating a child fails without an effect on the caches, or puts a child of its own name into its
cache. -/
theorem createChild_cases (h : w.Open) (pod : Pod) :
    (createChild pod w).2.outside.visibility = .atOnce ∧
      ((∃ e, (createChild pod w).1 = .error e ∧ (createChild pod w).2.caches = w.caches) ∨
        ∃ change children,
          (createChild pod w).1 = .ok (storedChild pod w.outside.created) ∧
          w.caches.children.apply (storedChild pod w.outside.created) = .ok (change, children) ∧
          (createChild pod w).2.caches = w.caches.withChildren children) := by
  simp only [createChild]
  rcases World.unlessFaulty_cases _ .create _ with ⟨e, faults, he⟩ | he
  · rw [he]
    exact ⟨h.visibility, .inl ⟨e, rfl, rfl⟩⟩
  · rw [he]
    split
    · obtain ⟨change, children, happly, hcaches, houtside⟩ :=
        World.putChild_of_key
          (w := (w.log _).withStore fun s => { s with created := s.created + 1 })
          (key_storedChild pod w.outside.created)
      refine ⟨?_, .inr ⟨change, children, rfl, happly, hcaches⟩⟩
      exact (congrArg Store.visibility houtside).trans h.visibility
    · rename_i hv
      cases h.visibility.symm.trans hv
    · rename_i delay hv
      cases h.visibility.symm.trans hv

/-- Deleting a child fails without an effect on the caches, or takes the child out of its cache. -/
theorem deleteChild_cases (h : w.Open) (key : ObjectKey) :
    (deleteChild key w).2.outside.visibility = .atOnce ∧
      ((∃ e, (deleteChild key w).1 = .error e ∧ (deleteChild key w).2.caches = w.caches) ∨
        (deleteChild key w).1 = .ok () ∧
          (deleteChild key w).2.caches = w.caches.withoutChild key) := by
  simp only [deleteChild]
  rcases World.unlessFaulty_cases _ .delete _ with ⟨e, faults, he⟩ | he
  · rw [he]
    exact ⟨h.visibility, .inl ⟨e, rfl, rfl⟩⟩
  · rw [he]
    obtain ⟨hcaches, houtside⟩ :=
      World.dropChild_caches (w := w.log ("delete " ++ key.render)) h.children key
    refine ⟨?_, .inr ⟨rfl, hcaches⟩⟩
    rw [houtside]
    exact h.visibility

/-- Writing a status fails without an effect on the caches, or puts the batch that is stored into
its cache again, with the status and another version. -/
theorem replaceStatus_cases (h : w.Open) (batch : JobBatch) :
    (replaceStatus batch w).2.outside.visibility = .atOnce ∧
      ((∃ e, (replaceStatus batch w).1 = .error e ∧
          (replaceStatus batch w).2.caches = w.caches) ∨
        ∃ key stored change batches, w.caches.batches.get? key = some stored ∧
          Resource.key stored = .ok key ∧
          (replaceStatus batch w).1 = .ok (stored.rewritten batch.status (nextVersion stored)) ∧
          w.caches.batches.apply (stored.rewritten batch.status (nextVersion stored)) =
            .ok (change, batches) ∧
          (replaceStatus batch w).2.caches = w.caches.withBatches batches) := by
  simp only [replaceStatus]
  rcases World.unlessFaulty_cases _ .status _ with ⟨e, faults, he⟩ | he
  · rw [he]
    exact ⟨h.visibility, .inl ⟨e, rfl, rfl⟩⟩
  · rw [he]
    split
    · exact ⟨h.visibility, .inl ⟨_, rfl, rfl⟩⟩
    · rename_i stored hstored
      split
      · exact ⟨h.visibility, .inl ⟨_, rfl, rfl⟩⟩
      · have hkey := h.batches _ stored hstored
        obtain ⟨change, batches, happly, hcaches, houtside⟩ :=
          World.putBatch_of_key (w := w.log _)
            (show Resource.key (stored.rewritten batch.status (nextVersion stored)) = _ from hkey)
        refine ⟨?_, .inr ⟨_, stored, change, batches, hstored, hkey, rfl, happly, hcaches⟩⟩
        exact (congrArg Store.visibility houtside).trans h.visibility

/-- Listing children changes nothing in the caches. -/
theorem listChildren_caches (ns query : String) (w : World) :
    (listChildren ns query w).2.caches = w.caches ∧
      (listChildren ns query w).2.outside.visibility = w.outside.visibility := by
  simp only [listChildren]
  rcases World.unlessFaulty_cases _ .list _ with ⟨e, faults, he⟩ | he
  · rw [he]
    exact ⟨rfl, rfl⟩
  · rw [he]
    exact ⟨rfl, rfl⟩

@[simp] theorem count_caches (count : Count) (w : World) :
    (Operator.count count w).caches = w.caches := by
  cases count <;> rfl

@[simp] theorem count_outside (count : Count) (w : World) :
    (Operator.count count w).outside = w.outside := by
  cases count <;> rfl

/-- An open store stays open. -/
theorem keeps_open : surroundings.Keeps World.Open where
  createChild pod w h := by
    obtain ⟨hvisibility, ⟨e, -, hcaches⟩ | ⟨change, children, -, happly, hcaches⟩⟩ :=
      createChild_cases h pod
    · exact ⟨hvisibility, hcaches ▸ h.batches, hcaches ▸ h.children⟩
    · refine ⟨hvisibility, ?_, ?_⟩
      · show (createChild pod w).2.caches.batches.Keyed
        rw [hcaches]
        exact h.batches
      · show (createChild pod w).2.caches.children.Keyed
        rw [hcaches]
        exact h.children.apply happly
  listChildren ns query w h := by
    obtain ⟨hcaches, hvisibility⟩ := listChildren_caches ns query w
    exact ⟨hvisibility.trans h.visibility, hcaches ▸ h.batches, hcaches ▸ h.children⟩
  deleteChild key w h := by
    obtain ⟨hvisibility, ⟨e, -, hcaches⟩ | ⟨-, hcaches⟩⟩ := deleteChild_cases h key
    · exact ⟨hvisibility, hcaches ▸ h.batches, hcaches ▸ h.children⟩
    · refine ⟨hvisibility, ?_, ?_⟩
      · show (deleteChild key w).2.caches.batches.Keyed
        rw [hcaches]
        exact h.batches
      · show (deleteChild key w).2.caches.children.Keyed
        rw [hcaches]
        exact h.children.erase key
  replaceStatus batch w h := by
    obtain ⟨hvisibility, ⟨e, -, hcaches⟩ |
      ⟨key, stored, change, batches, -, -, -, happly, hcaches⟩⟩ := replaceStatus_cases h batch
    · exact ⟨hvisibility, hcaches ▸ h.batches, hcaches ▸ h.children⟩
    · refine ⟨hvisibility, ?_, ?_⟩
      · show (replaceStatus batch w).2.caches.batches.Keyed
        rw [hcaches]
        exact h.batches.apply happly
      · show (replaceStatus batch w).2.caches.children.Keyed
        rw [hcaches]
        exact h.children
  publish notification w h := ⟨h.visibility, h.batches, h.children⟩
  count count w h := by
    refine ⟨?_, ?_, ?_⟩
    · exact (congrArg Store.visibility (count_outside count w)).trans h.visibility
    · exact (count_caches count w).symm ▸ h.batches
    · exact (count_caches count w).symm ▸ h.children

/-- An open store in memory, as the surroundings of a pass. -/
def openSurroundings : Surroundings { w : World // w.Open } := surroundings.on keeps_open

/-- An open store shows in the caches what it is asked for. -/
theorem mirrors : openSurroundings.Mirrors fun w => w.val.caches where
  created {manifest child s s'} hcall := by
    obtain ⟨hanswer, rfl⟩ := Prod.mk.inj hcall
    obtain ⟨-, ⟨e, he, -⟩ | ⟨change, children, hok, happly, hcaches⟩⟩ :=
      createChild_cases s.property manifest
    · cases he.symm.trans hanswer
    · cases hok.symm.trans hanswer
      exact ⟨change, children, happly, hcaches⟩
  notCreated {manifest e s s'} hcall := by
    obtain ⟨hanswer, rfl⟩ := Prod.mk.inj hcall
    obtain ⟨-, ⟨e, -, hcaches⟩ | ⟨change, children, hok, -, -⟩⟩ :=
      createChild_cases s.property manifest
    · exact hcaches
    · cases hok.symm.trans hanswer
  deleted {key s s'} hcall := by
    obtain ⟨hanswer, rfl⟩ := Prod.mk.inj hcall
    obtain ⟨-, ⟨e, he, -⟩ | ⟨-, hcaches⟩⟩ := deleteChild_cases s.property key
    · cases he.symm.trans hanswer
    · exact hcaches
  notDeleted {key e s s'} hcall := by
    obtain ⟨hanswer, rfl⟩ := Prod.mk.inj hcall
    obtain ⟨-, ⟨e, -, hcaches⟩ | ⟨hok, -⟩⟩ := deleteChild_cases s.property key
    · exact hcaches
    · cases hok.symm.trans hanswer
  written {sent answer s s'} hcall := by
    obtain ⟨hanswer, rfl⟩ := Prod.mk.inj hcall
    obtain ⟨-, ⟨e, he, -⟩ | ⟨key, stored, change, batches, hstored, hkey, -, happly, hcaches⟩⟩ :=
      replaceStatus_cases s.property sent
    · cases he.symm.trans hanswer
    · refine ⟨batches, hcaches, ?_⟩
      intro other batch' hget
      obtain ⟨key', hkey', rfl⟩ := Cache.apply_cases happly
      -- Another status and another version do not change the key.
      cases hkey.symm.trans hkey'
      simp only [Cache.get?, OrderedMap.get?_insert] at hget
      split at hget
      · rename_i hother
        cases hget
        exact ⟨stored, hother ▸ hstored, rfl⟩
      · exact ⟨batch', hget, rfl⟩
  notWritten {sent e s s'} hcall := by
    obtain ⟨hanswer, rfl⟩ := Prod.mk.inj hcall
    obtain ⟨-, ⟨e, -, hcaches⟩ | ⟨key, stored, change, batches, -, -, hok, -, -⟩⟩ :=
      replaceStatus_cases s.property sent
    · exact hcaches
    · cases hok.symm.trans hanswer
  listed ns query s := (listChildren_caches ns query s.val).1
  published notification s := rfl
  counted count s := count_caches count s.val

end BatchOperator.Simulation
