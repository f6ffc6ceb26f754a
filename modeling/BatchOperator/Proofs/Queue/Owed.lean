import BatchOperator.Proofs.Queue.Invariant

/-!
# What a queue owes

An item that was put off, or that is marked, is one that the queue owes (`WorkQueue.Owes`). Every
operation on an open queue leaves marks where they are, unless it hands the marked item out, and
leaves what is put off where it is, unless it marks it. So an item that is owed goes on being owed
until it is handed out, and at any time it waits, is marked while it is in processing, or is still
put off (`WorkQueue.Owes.places`).
-/

set_option autoImplicit false

namespace BatchOperator

namespace WorkQueue

variable {α : Type} {q r : WorkQueue α} {x : α} {due : Instant}

/-- Two queues that agree on the failures and on what is put off. -/
structure SamePlans (q r : WorkQueue α) : Prop where
  backoff : r.backoff = q.backoff
  delayed : r.delayed = q.delayed

/-- An item is marked, or will be added at the given moment. -/
def Owes (q : WorkQueue α) (x : α) (due : Instant) : Prop := x ∈ q.dirty ∨ ⟨due, x⟩ ∈ q.delayed

/-- What an open queue in step owes waits, is marked while it is in processing, or is put off. -/
theorem Owes.places (h : q.Owes x due) (hvalid : q.Valid) (hopen : q.isShutDown = false) :
    x ∈ q.waiting ∨ (x ∈ q.dirty ∧ x ∈ q.processing) ∨ ⟨due, x⟩ ∈ q.delayed := by
  rcases h with hdirty | hdelayed
  · rcases hvalid.kept_of_dirty hopen x hdirty with hwaiting | hprocessing
    · exact .inl hwaiting
    · exact .inr (.inl ⟨hdirty, hprocessing⟩)
  · exact .inr (.inr hdelayed)

variable [DecidableEq α]

theorem samePlans_add (q : WorkQueue α) (x : α) : q.SamePlans (q.add x) := by
  obtain ⟨-, e⟩ | ⟨-, -, -, e⟩ | ⟨-, -, -, e⟩ := q.add_cases x <;> rw [e] <;> exact ⟨rfl, rfl⟩

theorem samePlans_get (q : WorkQueue α) (getter : Nat) : q.SamePlans (q.get getter).2 := by
  have hlook : q.SamePlans (q.look).2 := by
    simp only [look]
    split <;> exact ⟨rfl, rfl⟩
  unfold get
  split
  · rename_i r hr
    rw [hr] at hlook
    exact ⟨hlook.backoff, hlook.delayed⟩
  · exact hlook

theorem samePlans_done (q : WorkQueue α) (x : α) : q.SamePlans (q.done x) := by
  simp only [done]
  split <;> exact ⟨rfl, rfl⟩

/-- Adding keeps what is owed. -/
theorem Owes.add (h : q.Owes x due) (hopen : q.isShutDown = false) (y : α) :
    (q.add y).Owes x due := by
  rcases h with hdirty | hdelayed
  · exact .inl ((mem_dirty_add hopen y x).2 (.inr hdirty))
  · exact .inr ((q.samePlans_add y).delayed ▸ hdelayed)

/-- An item that is handed out waited, and is no longer marked. Everything else is marked as
before. -/
theorem get_marks (q : WorkQueue α) (getter : Nat) :
    (q.get getter).2.isShutDown = q.isShutDown ∧
      ((∃ y, (q.get getter).1 = .item y ∧ y ∈ q.waiting ∧
          ∀ z, z ∈ (q.get getter).2.dirty ↔ z ∈ q.dirty ∧ z ≠ y) ∨
        (∀ y, (q.get getter).1 ≠ .item y) ∧ (q.get getter).2.dirty = q.dirty) := by
  obtain ⟨hlook, hsame⟩ := q.get_cases getter
  rw [hlook, hsame.dirty, hsame.isShutDown]
  obtain ⟨y, rest, hwaiting, hy, -, hdirty, -, hshut⟩ | ⟨-, hnone, hnothing⟩ := q.look_cases
  · exact ⟨hshut, .inl ⟨y, hy, hwaiting ▸ List.mem_cons_self, hdirty⟩⟩
  · exact ⟨hnothing.isShutDown, .inr ⟨hnone, hnothing.dirty⟩⟩

/-- Only the item that is handed out is owed no longer. -/
theorem Owes.get (h : q.Owes x due) {getter : Nat} (hother : (q.get getter).1 ≠ .item x) :
    (q.get getter).2.Owes x due := by
  rcases h with hdirty | hdelayed
  · left
    obtain ⟨-, ⟨y, hy, -, hmarked⟩ | ⟨-, hsame⟩⟩ := q.get_marks getter
    · exact (hmarked x).2 ⟨hdirty, fun hxy => hother (hxy ▸ hy)⟩
    · rw [hsame]
      exact hdirty
  · exact .inr ((q.samePlans_get getter).delayed ▸ hdelayed)

/-- Finishing keeps what is owed. -/
theorem Owes.done (h : q.Owes x due) (y : α) : (q.done y).Owes x due := by
  obtain ⟨hdirty, -⟩ := q.done_cases y
  unfold Owes
  rw [hdirty, (q.samePlans_done y).delayed]
  exact h

/-! ## Adding later -/

/-- What adding later leaves as it is. -/
theorem addAfter_facts (q : WorkQueue α) (now : Instant) (x : α) (delay : Duration) :
    (q.addAfter now x delay).processing = q.processing ∧
      (q.addAfter now x delay).isShutDown = q.isShutDown ∧
      (q.addAfter now x delay).backoff = q.backoff := by
  unfold addAfter
  split
  · exact ⟨q.add_processing x, q.add_isShutDown x, (q.samePlans_add x).backoff⟩
  · exact ⟨rfl, rfl, rfl⟩

theorem Valid.addAfter (h : q.Valid) (now : Instant) (x : α) (delay : Duration) :
    (q.addAfter now x delay).Valid := by
  unfold WorkQueue.addAfter
  split
  · exact h.add x
  · exact h.congr ⟨rfl, rfl, rfl, rfl⟩

/-- Adding later keeps what is owed. -/
theorem Owes.addAfter (h : q.Owes x due) (hopen : q.isShutDown = false) (now : Instant) (y : α)
    (delay : Duration) : (q.addAfter now y delay).Owes x due := by
  unfold WorkQueue.addAfter
  split
  · exact h.add hopen y
  · exact h.imp_right (List.mem_append_left _)

/-- An item that was added with a delay is owed at its end, at once if there is none. -/
theorem owes_addAfter (hopen : q.isShutDown = false) (now : Instant) (x : α) (delay : Duration) :
    (q.addAfter now x delay).Owes x (now + delay.nanoseconds) := by
  unfold addAfter
  split
  · exact .inl ((mem_dirty_add hopen x x).2 (.inl rfl))
  · exact .inr (List.mem_append_right _ (List.mem_singleton_self _))

/-- Other items are marked exactly if they were, open or not. -/
theorem mem_dirty_add_of_ne {y : α} (h : y ≠ x) : y ∈ (q.add x).dirty ↔ y ∈ q.dirty := by
  obtain ⟨-, e⟩ | ⟨-, -, -, e⟩ | ⟨-, -, -, e⟩ := q.add_cases x <;> rw [e]
  · exact List.mem_cons.trans (or_iff_right h)
  · exact List.mem_cons.trans (or_iff_right h)

/-- The item itself is marked then, unless the queue is shut down and it was not. -/
theorem mem_dirty_add_self : x ∈ (q.add x).dirty ↔ q.isShutDown = false ∨ x ∈ q.dirty := by
  obtain ⟨hsame, e⟩ | ⟨hopen, -, -, e⟩ | ⟨hopen, -, -, e⟩ := q.add_cases x <;> rw [e]
  · refine ⟨.inr, fun h => h.elim (fun hopen => hsame.resolve_left ?_) id⟩
    rw [hopen]
    exact Bool.false_ne_true
  · exact iff_of_true List.mem_cons_self (.inl hopen)
  · exact iff_of_true List.mem_cons_self (.inl hopen)

theorem mem_dirty_addAfter_of_ne {y : α} (h : y ≠ x) (now : Instant) (delay : Duration) :
    y ∈ (q.addAfter now x delay).dirty ↔ y ∈ q.dirty := by
  unfold addAfter
  split
  · exact mem_dirty_add_of_ne h
  · exact Iff.rfl

/-- What is put off was put off before, or is the item itself. -/
theorem mem_delayed_addAfter {now : Instant} {delay : Duration} {d : Delayed α}
    (h : d ∈ (q.addAfter now x delay).delayed) : d ∈ q.delayed ∨ d.item = x := by
  unfold addAfter at h
  split at h
  · exact .inl ((q.samePlans_add x).delayed ▸ h)
  · rcases List.mem_append.1 h with hold | hnew
    · exact .inl hold
    · obtain rfl := List.mem_singleton.1 hnew
      exact .inr rfl

theorem Valid.addRateLimited (h : q.Valid) (now : Instant) (x : α) :
    (q.addRateLimited now x).Valid := by
  have hblamed : (q.blamed x).Valid := h.congr ⟨rfl, rfl, rfl, rfl⟩
  exact hblamed.addAfter now x _

/-- Adding what has failed keeps what is owed. -/
theorem Owes.addRateLimited (h : q.Owes x due) (hopen : q.isShutDown = false) (now : Instant)
    (y : α) : (q.addRateLimited now y).Owes x due :=
  Owes.addAfter (q := q.blamed y) h hopen now y _

/-! ## Delays that are over -/

omit [DecidableEq α] in
/-- What is put off stays so, or is what is due. -/
theorem mem_of_takeDue {moment : Instant} {delayed others : List (Delayed α)}
    (h : takeDue moment delayed = some (x, others)) {d : Delayed α} (hd : d ∈ delayed) :
    d ∈ others ∨ d.item = x := by
  induction delayed generalizing others with
  | nil => cases hd
  | cons first rest ih =>
    unfold takeDue at h
    split at h
    · obtain ⟨rfl, rfl⟩ := Prod.mk.inj (Option.some.inj h)
      rcases List.mem_cons.1 hd with rfl | hrest
      · exact .inr rfl
      · exact .inl hrest
    · obtain ⟨⟨y, later⟩, hlater, hpair⟩ := Option.map_eq_some_iff.1 h
      obtain ⟨rfl, rfl⟩ := Prod.mk.inj hpair
      rcases List.mem_cons.1 hd with rfl | hrest
      · exact .inl List.mem_cons_self
      · exact (ih hlater hrest).imp_left (List.mem_cons_of_mem first)

omit [DecidableEq α] in
/-- What is due was put off, and so were all that stay so. -/
theorem of_takeDue {moment : Instant} {delayed others : List (Delayed α)}
    (h : takeDue moment delayed = some (x, others)) :
    others.Sublist delayed ∧ ∃ d ∈ delayed, d.item = x := by
  induction delayed generalizing others with
  | nil => cases h
  | cons first rest ih =>
    unfold takeDue at h
    split at h
    · obtain ⟨rfl, rfl⟩ := Prod.mk.inj (Option.some.inj h)
      exact ⟨List.sublist_cons_self first rest, first, List.mem_cons_self, rfl⟩
    · obtain ⟨⟨y, later⟩, hlater, hpair⟩ := Option.map_eq_some_iff.1 h
      obtain ⟨rfl, rfl⟩ := Prod.mk.inj hpair
      obtain ⟨hsub, d, hd, hitem⟩ := ih hlater
      exact ⟨hsub.cons_cons first, d, List.mem_cons_of_mem first hd, hitem⟩

/-- What a delay that is over does: the item is no longer put off, and is added. -/
theorem fire_cases {moment : Instant} (h : q.fire moment = some r) :
    ∃ y others, takeDue moment q.delayed = some (y, others) ∧
      r = { q with delayed := others }.add y := by
  obtain ⟨⟨y, others⟩, hdue, rfl⟩ := Option.map_eq_some_iff.1 h
  exact ⟨y, others, hdue, rfl⟩

/-- When a delay is over its item is marked. -/
theorem Owes.fire (h : q.Owes x due) (hopen : q.isShutDown = false) {moment : Instant}
    (hfire : q.fire moment = some r) : r.Owes x due := by
  obtain ⟨y, others, hdue, rfl⟩ := fire_cases hfire
  rcases h with hdirty | hdelayed
  · exact Owes.add (q := { q with delayed := others }) (.inl hdirty) hopen y
  · rcases mem_of_takeDue hdue hdelayed with hothers | hitem
    · exact Owes.add (q := { q with delayed := others }) (.inr hothers) hopen y
    · exact .inl ((mem_dirty_add (q := { q with delayed := others }) hopen y x).2 (.inl hitem))

theorem Valid.fire {q r : WorkQueue α} (h : q.Valid) {moment : Instant}
    (hfire : q.fire moment = some r) : r.Valid := by
  obtain ⟨y, others, -, rfl⟩ := fire_cases hfire
  exact (h.congr (r := { q with delayed := others }) ⟨rfl, rfl, rfl, rfl⟩).add y

end WorkQueue

end BatchOperator
