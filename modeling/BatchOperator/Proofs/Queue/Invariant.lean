import BatchOperator.Queue.Delays

/-!
# What every operation of a work queue keeps

The waiting list, the marks and the items in processing stay in step: an item waits at most once and
never while it is being processed, what waits is marked, and until the queue is shut down a marked
item waits or is being processed (`WorkQueue.Valid`). Each operation is described once by what it
does to the three collections (`add_cases`, `look_cases`, `done_cases`), and the invariant of each
follows from that description.
-/

set_option autoImplicit false

namespace BatchOperator

namespace WorkQueue

variable {α : Type}

/-- Waiting list, marks and items in processing are in step. -/
structure Valid (q : WorkQueue α) : Prop where
  waiting_nodup : q.waiting.Nodup
  dirty_of_waiting : ∀ x ∈ q.waiting, x ∈ q.dirty
  not_processing_of_waiting : ∀ x ∈ q.waiting, x ∉ q.processing
  /-- Only a queue that was shut down has marked items that nobody will see again. -/
  kept_of_dirty : q.isShutDown = false → ∀ x ∈ q.dirty, x ∈ q.waiting ∨ x ∈ q.processing

/-- Two queues that agree on what the invariant speaks of. -/
structure SameItems (q r : WorkQueue α) : Prop where
  waiting : r.waiting = q.waiting
  dirty : r.dirty = q.dirty
  processing : r.processing = q.processing
  isShutDown : r.isShutDown = q.isShutDown

theorem Valid.congr {q r : WorkQueue α} (h : q.Valid) (same : SameItems q r) : r.Valid := by
  obtain ⟨hw, hd, hp, hs⟩ := same
  refine ⟨?_, ?_, ?_, ?_⟩
  · rw [hw]
    exact h.waiting_nodup
  · rw [hw, hd]
    exact h.dirty_of_waiting
  · rw [hw, hp]
    exact h.not_processing_of_waiting
  · rw [hs, hd, hw, hp]
    exact h.kept_of_dirty

theorem SameItems.refl (q : WorkQueue α) : SameItems q q := ⟨rfl, rfl, rfl, rfl⟩

/-- A queue without items is in step. -/
theorem valid_create (shortest longest : Duration) :
    (create shortest longest : WorkQueue α).Valid := by
  refine ⟨.nil, ?_, ?_, ?_⟩ <;> simp [create]

/-- Shutting down keeps the queue in step. -/
theorem Valid.shutDown {q : WorkQueue α} (h : q.Valid) : q.shutDown.Valid :=
  ⟨h.waiting_nodup, h.dirty_of_waiting, h.not_processing_of_waiting, by simp [WorkQueue.shutDown]⟩

/-! ## Adding -/

variable [DecidableEq α]

/-- What adding an item does: nothing, or it marks an item in processing, or the item is marked and
waits behind all others. -/
theorem add_cases (q : WorkQueue α) (x : α) :
    ((q.isShutDown = true ∨ x ∈ q.dirty) ∧ q.add x = q) ∨
      (q.isShutDown = false ∧ x ∉ q.dirty ∧ x ∈ q.processing ∧
        q.add x = { q with dirty := x :: q.dirty }) ∨
      (q.isShutDown = false ∧ x ∉ q.dirty ∧ x ∉ q.processing ∧
        q.add x = { q with dirty := x :: q.dirty }.append x) := by
  by_cases hs : q.isShutDown = true
  · exact .inl ⟨.inl hs, by simp [add, hs]⟩
  · have hs' : q.isShutDown = false := by simpa using hs
    by_cases hd : x ∈ q.dirty
    · exact .inl ⟨.inr hd, by simp [add, hd]⟩
    · by_cases hp : x ∈ q.processing
      · exact .inr (.inl ⟨hs', hd, hp, by simp [add, hs', hd, hp]⟩)
      · exact .inr (.inr ⟨hs', hd, hp, by simp [add, hs', hd, hp]⟩)

@[simp] theorem add_processing (q : WorkQueue α) (x : α) :
    (q.add x).processing = q.processing := by
  obtain ⟨-, h⟩ | ⟨-, -, -, h⟩ | ⟨-, -, -, h⟩ := q.add_cases x <;> rw [h]
  rfl

@[simp] theorem add_isShutDown (q : WorkQueue α) (x : α) :
    (q.add x).isShutDown = q.isShutDown := by
  obtain ⟨-, h⟩ | ⟨-, -, -, h⟩ | ⟨-, -, -, h⟩ := q.add_cases x <;> rw [h]
  rfl

/-- Until the shutdown, adding marks the item and leaves all other marks alone. -/
theorem mem_dirty_add {q : WorkQueue α} (hs : q.isShutDown = false) (x y : α) :
    y ∈ (q.add x).dirty ↔ y = x ∨ y ∈ q.dirty := by
  obtain ⟨h | h, e⟩ | ⟨-, -, -, e⟩ | ⟨-, -, -, e⟩ := q.add_cases x
  · simp [hs] at h
  · rw [e]
    exact ⟨.inr, fun hy => hy.elim (fun e => e ▸ h) id⟩
  · rw [e]
    exact List.mem_cons
  · rw [e]
    exact List.mem_cons

theorem Valid.add {q : WorkQueue α} (h : q.Valid) (x : α) : (q.add x).Valid := by
  obtain ⟨-, e⟩ | ⟨hs, hd, hp, e⟩ | ⟨hs, hd, hp, e⟩ := q.add_cases x
  · rw [e]
    exact h
  · rw [e]
    refine ⟨h.waiting_nodup, ?_, h.not_processing_of_waiting, ?_⟩
    · intro y hy
      exact List.mem_cons_of_mem x (h.dirty_of_waiting y hy)
    · intro hs' y hy
      rcases List.mem_cons.1 hy with rfl | hy
      · exact .inr hp
      · exact h.kept_of_dirty hs' y hy
  · rw [e]
    -- What waits is marked, so an unmarked item waits nowhere yet.
    have hw : x ∉ q.waiting := fun hx => hd (h.dirty_of_waiting x hx)
    refine ⟨?_, ?_, ?_, ?_⟩ <;> simp only [append, List.mem_append, List.mem_singleton]
    · rw [List.nodup_append]
      refine ⟨h.waiting_nodup, by simp, ?_⟩
      intro a ha b hb hab
      rw [List.mem_singleton] at hb
      exact hw (hb ▸ hab ▸ ha)
    · rintro y (hy | rfl)
      · exact List.mem_cons_of_mem x (h.dirty_of_waiting y hy)
      · exact List.mem_cons_self
    · rintro y (hy | rfl)
      · exact h.not_processing_of_waiting y hy
      · exact hp
    · intro hs' y hy
      rcases List.mem_cons.1 hy with rfl | hy
      · exact .inl (.inr rfl)
      · rcases h.kept_of_dirty hs' y hy with hy | hy
        · exact .inl (.inl hy)
        · exact .inr hy

/-- The queue with one more failure of an item. -/
def blamed (q : WorkQueue α) (x : α) : WorkQueue α :=
  { q with backoff := q.backoff.record x, retries := (q.retries + 1) % Text.wordLimit }

/-- A failure is counted, and the item is added when the delay is over that the failures before it
ask for. -/
theorem addRateLimited_eq (q : WorkQueue α) (now : Instant) (x : α) :
    q.addRateLimited now x =
      (q.blamed x).addAfter now x (q.backoff.delayAfter (q.failures x)) := rfl

/-! ## Taking -/

/-- What a look does: it takes the first item that waits, or changes nothing but the bell. -/
theorem look_cases (q : WorkQueue α) :
    (∃ x rest, q.waiting = x :: rest ∧ (q.look).1 = .item x ∧ (q.look).2.waiting = rest ∧
        (∀ y, y ∈ (q.look).2.dirty ↔ y ∈ q.dirty ∧ y ≠ x) ∧
        (∀ y, y ∈ (q.look).2.processing ↔ y = x ∨ y ∈ q.processing) ∧
        (q.look).2.isShutDown = q.isShutDown) ∨
      (q.waiting = [] ∧ (∀ x, (q.look).1 ≠ .item x) ∧ SameItems q (q.look).2) := by
  cases hw : q.waiting with
  | nil =>
    refine .inr ⟨rfl, ?_, ?_⟩
    · intro x
      simp only [look, hw]
      split <;> simp
    · refine ⟨?_, ?_, ?_, ?_⟩ <;> simp [look, hw]
  | cons x rest =>
    refine .inl ⟨x, rest, rfl, ?_, ?_, ?_, ?_, ?_⟩
    · simp [look, hw]
    · simp [look, hw]
    · intro y
      simp [look, hw]
    · intro y
      simp only [look, hw]
      split
      · rename_i hx
        have hx' : x ∈ q.processing := by simpa using hx
        exact ⟨.inr, fun hy => hy.elim (fun e => e ▸ hx') id⟩
      · exact List.mem_cons
    · simp [look, hw]

theorem Valid.look {q : WorkQueue α} (h : q.Valid) : (q.look).2.Valid := by
  obtain ⟨x, rest, hw, -, hw', hd, hp, hs⟩ | ⟨-, -, same⟩ := q.look_cases
  · have hnodup := h.waiting_nodup
    rw [hw, List.nodup_cons] at hnodup
    obtain ⟨hx, hrest⟩ := hnodup
    have old : ∀ y ∈ rest, y ∈ q.waiting := fun y hy => by rw [hw]; exact List.mem_cons_of_mem x hy
    refine ⟨?_, ?_, ?_, ?_⟩
    · rw [hw']
      exact hrest
    · intro y hy
      rw [hw'] at hy
      rw [hd]
      exact ⟨h.dirty_of_waiting y (old y hy), fun e => hx (e ▸ hy)⟩
    · intro y hy
      rw [hw'] at hy
      rw [hp]
      rintro (rfl | hy')
      · exact hx hy
      · exact h.not_processing_of_waiting y (old y hy) hy'
    · intro hs' y hy
      rw [hs] at hs'
      rw [hd] at hy
      rw [hw', hp]
      rcases h.kept_of_dirty hs' y hy.1 with hy' | hy'
      · rw [hw] at hy'
        rcases List.mem_cons.1 hy' with e | hy'
        · exact .inr (.inl e)
        · exact .inl hy'
      · exact .inr (.inr hy')
  · exact h.congr same

/-- A getter that finds nothing goes to sleep; otherwise it gets what its look gave it. -/
theorem get_cases (q : WorkQueue α) (getter : Nat) :
    (q.get getter).1 = (q.look).1 ∧ SameItems (q.look).2 (q.get getter).2 := by
  unfold get
  split
  · rename_i r hr
    rw [hr]
    exact ⟨rfl, rfl, rfl, rfl, rfl⟩
  · exact ⟨rfl, .refl _⟩

theorem Valid.get {q : WorkQueue α} (h : q.Valid) (getter : Nat) : (q.get getter).2.Valid :=
  h.look.congr (q.get_cases getter).2

/-! ## Finishing -/

/-- What finishing an item does: it is no longer in processing, and if it was marked meanwhile it
waits again. -/
theorem done_cases (q : WorkQueue α) (x : α) :
    (q.done x).dirty = q.dirty ∧ (q.done x).isShutDown = q.isShutDown ∧
      (∀ y, y ∈ (q.done x).processing ↔ y ∈ q.processing ∧ y ≠ x) ∧
      ((x ∈ q.dirty ∧ q.isShutDown = false ∧ (q.done x).waiting = q.waiting ++ [x]) ∨
        ((x ∉ q.dirty ∨ q.isShutDown = true) ∧ (q.done x).waiting = q.waiting)) := by
  by_cases h : x ∈ q.dirty ∧ q.isShutDown = false
  · obtain ⟨hd, hs⟩ := h
    refine ⟨by simp [done, hd, hs, append], by simp [done, hd, hs, append], ?_,
      .inl ⟨hd, hs, by simp [done, hd, hs, append]⟩⟩
    intro y
    simp [done, hd, hs, append]
  · have hno : ¬ ((q.dirty.contains x && !q.isShutDown) = true) := by simpa using h
    refine ⟨by simp only [done, if_neg hno], by simp only [done, if_neg hno], ?_, .inr ⟨?_, ?_⟩⟩
    · intro y
      simp only [done, if_neg hno]
      simp
    · by_cases hd : x ∈ q.dirty
      · exact .inr (by simpa [hd] using h)
      · exact .inl hd
    · simp only [done, if_neg hno]

/-- Finishing an item that does not wait keeps the queue in step. -/
theorem Valid.done {q : WorkQueue α} (h : q.Valid) {x : α} (hx : x ∈ q.processing) :
    (q.done x).Valid := by
  have hw : x ∉ q.waiting := fun hx' => h.not_processing_of_waiting x hx' hx
  obtain ⟨hd, hs, hp, ⟨hdx, -, hwait⟩ | ⟨hno, hwait⟩⟩ := q.done_cases x
  · refine ⟨?_, ?_, ?_, ?_⟩
    · rw [hwait, List.nodup_append]
      refine ⟨h.waiting_nodup, by simp, ?_⟩
      intro a ha b hb hab
      rw [List.mem_singleton] at hb
      exact hw (hb ▸ hab ▸ ha)
    · intro y hy
      rw [hwait, List.mem_append, List.mem_singleton] at hy
      rw [hd]
      rcases hy with hy | rfl
      · exact h.dirty_of_waiting y hy
      · exact hdx
    · intro y hy
      rw [hwait, List.mem_append, List.mem_singleton] at hy
      rw [hp]
      rintro ⟨hy', hne⟩
      rcases hy with hy | rfl
      · exact h.not_processing_of_waiting y hy hy'
      · exact hne rfl
    · intro hs' y hy
      rw [hs] at hs'
      rw [hd] at hy
      rw [hwait, hp, List.mem_append, List.mem_singleton]
      by_cases e : y = x
      · exact .inl (.inr e)
      · rcases h.kept_of_dirty hs' y hy with hy' | hy'
        · exact .inl (.inl hy')
        · exact .inr ⟨hy', e⟩
  · refine ⟨?_, ?_, ?_, ?_⟩
    · rw [hwait]
      exact h.waiting_nodup
    · rw [hwait, hd]
      exact h.dirty_of_waiting
    · intro y hy
      rw [hwait] at hy
      rw [hp]
      exact fun hy' => h.not_processing_of_waiting y hy hy'.1
    · intro hs' y hy
      rw [hs] at hs'
      rw [hd] at hy
      rw [hwait, hp]
      rcases h.kept_of_dirty hs' y hy with hy' | hy'
      · exact .inl hy'
      · refine .inr ⟨hy', fun e => ?_⟩
        rcases hno with hno | hno
        · exact hno (e ▸ hy)
        · simp [hs'] at hno

end WorkQueue

end BatchOperator
