import BatchOperator.Proofs.Reconcile.Surroundings

/-!
# Caches as a store

Caches that are their own store: what is asked of them is done at once, and nothing fails
(`Caches.serves_store`).
-/

set_option autoImplicit false

namespace BatchOperator

namespace Caches

/-- A text that is longer than the names of all entries. -/
def longName : List (ObjectKey × Pod) → String
  | [] => "c"
  | entry :: rest => entry.1.name ++ longName rest

theorem length_longName_pos (entries : List (ObjectKey × Pod)) : 0 < (longName entries).length := by
  induction entries with
  | nil => decide
  | cons entry rest ih =>
    rw [longName, String.length_append]
    exact Nat.lt_of_lt_of_le ih (Nat.le_add_left _ _)

theorem length_lt_longName {entries : List (ObjectKey × Pod)} {entry : ObjectKey × Pod}
    (h : entry ∈ entries) : entry.1.name.length < (longName entries).length := by
  induction entries with
  | nil => cases h
  | cons head rest ih =>
    rw [longName, String.length_append]
    rcases List.mem_cons.1 h with rfl | h
    · exact Nat.lt_add_of_pos_right (length_longName_pos rest)
    · exact Nat.lt_of_lt_of_le (ih h) (Nat.le_add_left _ _)

/-- The name that a new child is given: what the manifest wants it to start with, and more than any
child has. -/
def newName (manifest : Pod) (c : Caches) : String :=
  manifest.metadata.generateName.getD "" ++ longName c.children.objects.entries

/-- The child that is made from a manifest. -/
def newChild (manifest : Pod) (c : Caches) : Pod :=
  { manifest with
    metadata := { manifest.metadata with name := some (newName manifest c) }, status := none }

/-- The key of a child that is made from a manifest. -/
def newKey (manifest : Pod) (c : Caches) : ObjectKey :=
  ⟨manifest.metadata.ns.getD "", newName manifest c⟩

/-- The caches with the child that is made from a manifest. -/
def withNew (manifest : Pod) (c : Caches) : Caches :=
  c.withChildren { c.children with
    objects := c.children.objects.insert (newKey manifest c) (newChild manifest c) }

/-- A batch with a status that was sent and the next version. -/
def written (stored sent : JobBatch) : JobBatch :=
  stored.rewritten sent.status (stored.metadata.resourceVersion.getD "" ++ "1")

/-- The caches with a batch in place of the one of its key. -/
def withBatch (c : Caches) (key : ObjectKey) (batch : JobBatch) : Caches :=
  c.withBatches { c.batches with objects := c.batches.objects.insert key batch }

/-- Writes a status over the version that was sent. -/
def writeStatus (sent : JobBatch) (c : Caches) : Except Error JobBatch × Caches :=
  match Resource.key sent with
  | .error e => (.error e, c)
  | .ok key =>
    match c.batches.get? key with
    | none => (.error (.invalidObject "no such batch"), c)
    | some stored =>
      if sent.metadata.resourceVersion = stored.metadata.resourceVersion then
        (.ok (written stored sent), c.withBatch key (written stored sent))
      else (.error (.invalidObject "another version"), c)

/-- Caches that are their own store, in which everything succeeds. -/
def store : Surroundings Caches where
  createChild manifest c := (.ok (newChild manifest c), withNew manifest c)
  listChildren _ _ c := (.ok [], c)
  deleteChild key c := (.ok (), c.withoutChild key)
  replaceStatus := writeStatus
  publish _ c := c
  sees key c := (c.children.get? key).isSome
  count _ c := c

theorem length_newName (manifest : Pod) (c : Caches) :
    (longName c.children.objects.entries).length ≤ (newName manifest c).length := by
  rw [newName, String.length_append]
  exact Nat.le_add_left _ _

theorem key_newChild (manifest : Pod) (c : Caches) :
    Resource.key (newChild manifest c) = .ok (newKey manifest c) := by
  have hname : (newName manifest c).isEmpty = false := by
    have hpos := length_longName_pos c.children.objects.entries
    have hlength := length_newName manifest c
    have hne : (newName manifest c).length ≠ 0 := by omega
    simpa [← String.length_eq_zero_iff] using hne
  simp [Resource.key, Resource.metadata, Metadata.key, newChild, newKey, hname]

/-- No child has the name that a new child is given. -/
theorem get?_eq_none_of_newName {manifest : Pod} {c : Caches} {key : ObjectKey}
    (hname : key.name = newName manifest c) : c.children.get? key = none := by
  cases hget : c.children.get? key with
  | none => rfl
  | some child =>
    -- A child of that name would be named longer than itself.
    have hlong := length_lt_longName (OrderedMap.mem_entries_iff.2 hget)
    have hlength := length_newName manifest c
    rw [← hname] at hlength
    exact absurd (Nat.lt_of_lt_of_le hlong hlength) (Nat.lt_irrefl _)

theorem get?_newKey (manifest : Pod) (c : Caches) :
    c.children.get? (newKey manifest c) = none := get?_eq_none_of_newName rfl

/-- Writing a status changes nothing, or puts the batch that is stored into its cache again. -/
theorem writeStatus_cases (sent : JobBatch) (c : Caches) :
    (∃ e, writeStatus sent c = (.error e, c)) ∨
      ∃ key stored, c.batches.get? key = some stored ∧
        writeStatus sent c =
          (.ok (written stored sent), c.withBatch key (written stored sent)) := by
  unfold writeStatus
  split
  · exact .inl ⟨_, rfl⟩
  · split
    · exact .inl ⟨_, rfl⟩
    · rename_i stored hstored
      split
      · exact .inr ⟨_, stored, hstored, rfl⟩
      · exact .inl ⟨_, rfl⟩

/-- Caches that are their own store serve a pass. -/
theorem serves_store : store.Serves fun c => c where
  created {manifest child s s'} hcall := by
    cases hcall
    rw [Cache.apply, key_newChild]
    exact ⟨_, _, rfl, rfl⟩
  notCreated hcall := by cases hcall
  deleted hcall := by
    cases hcall
    rfl
  notDeleted hcall := by cases hcall
  written {sent answer s s'} hcall := by
    change writeStatus sent s = _ at hcall
    obtain ⟨e, he⟩ | ⟨key, stored, hstored, hwrite⟩ := writeStatus_cases sent s
    · cases he.symm.trans hcall
    · cases hwrite.symm.trans hcall
      refine ⟨_, rfl, ?_⟩
      intro other batch' hget
      simp only [Cache.get?, OrderedMap.get?_insert] at hget
      split at hget
      · rename_i hother
        cases hget
        exact ⟨stored, hother ▸ hstored, rfl⟩
      · exact ⟨batch', hget, rfl⟩
  notWritten {sent e s s'} hcall := by
    change writeStatus sent s = _ at hcall
    obtain ⟨e, he⟩ | ⟨key, stored, hstored, hwrite⟩ := writeStatus_cases sent s
    · cases he.symm.trans hcall
      rfl
    · cases hwrite.symm.trans hcall
  listed _ _ _ := rfl
  published _ _ := rfl
  counted _ _ := rfl
  creates manifest s := by
    refine ⟨newChild manifest s, withNew manifest s, rfl, ⟨rfl, rfl, rfl, rfl⟩, ?_⟩
    intro key hkey
    cases (key_newChild manifest s).symm.trans hkey
    exact get?_newKey manifest s
  writes {key stored sent s} hget hkey hversion := by
    refine ⟨written stored sent, stored.metadata.resourceVersion.getD "" ++ "1",
      s.withBatch key (written stored sent), ?_, ?_⟩
    · simp [store, writeStatus, hkey, hget, hversion]
    · simp only [withBatch, withBatches, Cache.get?, OrderedMap.get?_insert, if_true]
      rfl
  sees _ _ := rfl

end Caches

/-! ## One batch and one template -/

/-- A batch that selects one template and has two slots. -/
def smallBatch : JobBatch :=
  { metadata := { name := some "b", ns := some "n", uid := some "u" }
    spec :=
      { selector := some { matchLabels := some ⟨[("suite", "s")], List.pairwise_singleton _ _⟩ }
        maxConcurrent := 2 } }

/-- The template that the batch selects. -/
def smallTemplate : JobTemplate :=
  { metadata :=
      { name := some "t", ns := some "n"
        labels := some ⟨[("suite", "s")], List.pairwise_singleton _ _⟩ }
    template := {} }

/-- Caches with one batch and one template. -/
def smallCaches : Caches :=
  { batches := ⟨⟨[(⟨"n", "b"⟩, smallBatch)], List.pairwise_singleton _ _⟩, true⟩
    templates := ⟨⟨[(⟨"n", "t"⟩, smallTemplate)], List.pairwise_singleton _ _⟩, true⟩ }

end BatchOperator
