import BatchOperator.Proofs.Queue.Journal

/-!
# Hand-outs of a work queue

* `Journal.sound_of_reachable`: after every run the three collections of the queue say about each
  item what the history says about it, and the history is lawful: items are handed out only when
  they are owed and nobody holds them.
* `Journal.orderly_of_reachable`: between two hand-outs of an item lie a report that the first one
  is done and an addition; no addition is lost before the shutdown; additions during processing
  cause one more hand-out, however many they are; and items are handed out in the order in which
  they entered the waiting list.
-/

set_option autoImplicit false

namespace BatchOperator

namespace WorkQueue

variable {α : Type} [DecidableEq α]

/-! ## The history alone -/

section History

omit [DecidableEq α]

@[simp] theorem handedIn_cons (e : Event α) (events : List (Event α)) :
    handedIn (e :: events) = handedIn events ++ e.handed?.toList := by
  cases h : e.handed? <;> simp [handedIn, h]

@[simp] theorem enteredIn_cons (e : Event α) (events : List (Event α)) :
    enteredIn (e :: events) = enteredIn events ++ e.entered?.toList := by
  cases h : e.entered? <;> simp [enteredIn, h]

end History

/-- A history in which items are handed out only when they are owed and nobody holds them, and are
finished only by those who hold them. -/
inductive Lawful : List (Event α) → Prop
  | nil : Lawful []
  | added {events : List (Event α)} (x : α) : Lawful events → Lawful (.added x :: events)
  | entered {events : List (Event α)} (x : α) : Lawful events → Lawful (.entered x :: events)
  | handed {events : List (Event α)} (worker : Nat) (x : α) :
      Lawful events → holder? x events = none → IsOwed x events →
      Lawful (.handed worker x :: events)
  | finished {events : List (Event α)} (worker : Nat) (x : α) :
      Lawful events → holder? x events = some worker → Lawful (.finished worker x :: events)

theorem Lawful.of_append {later events : List (Event α)} (h : Lawful (later ++ events)) :
    Lawful events := by
  induction later with
  | nil => exact h
  | cons e later ih => cases h with
    | added _ h | entered _ h | handed _ _ h | finished _ _ h => exact ih h

/-- A worker that was handed an item holds it until it finishes it. -/
theorem finished_mem_of_holder?_ne {worker : Nat} {x : α} {between earlier : List (Event α)}
    (h : Lawful (between ++ .handed worker x :: earlier))
    (hne : holder? x (between ++ .handed worker x :: earlier) ≠ some worker) :
    Event.finished worker x ∈ between := by
  induction between with
  | nil => simp [holder?] at hne
  | cons e between ih =>
    refine List.mem_cons.2 ?_
    cases h with
    | added y h => exact .inr (ih h hne)
    | entered y h => exact .inr (ih h hne)
    | handed worker' y h hnone _ =>
      by_cases hy : y = x
      · -- When the item was handed out again, nobody held it any more.
        subst hy
        exact .inr (ih h fun e => by simpa using hnone.symm.trans e)
      · exact .inr (ih h (by simpa [holder?, hy] using hne))
    | finished worker' y h hsome =>
      by_cases hy : y = x
      · subst hy
        by_cases hw : worker' = worker
        · subst hw
          exact .inl rfl
        · exact .inr (ih h fun e => hw (Option.some.inj (hsome.symm.trans e)))
      · exact .inr (ih h (by simpa [holder?, hy] using hne))

omit [DecidableEq α] in
/-- What was handed out is owed again only after an addition. -/
theorem added_mem_of_isOwed {worker : Nat} {x : α} {between earlier : List (Event α)}
    (h : IsOwed x (between ++ .handed worker x :: earlier)) : Event.added x ∈ between := by
  induction between with
  | nil => exact absurd rfl h.1
  | cons e between ih =>
    refine List.mem_cons.2 ?_
    cases e with
    | added y =>
      rcases h with rfl | h
      · exact .inl rfl
      · exact .inr (ih h)
    | entered y => exact .inr (ih h)
    | handed worker' y => exact .inr (ih h.2)
    | finished worker' y => exact .inr (ih h)

/-- An addition while a worker holds the item makes it owed as long as the worker holds it. -/
theorem isOwed_of_added_while_held {worker : Nat} {x : α} {during earlier : List (Event α)}
    (h : Lawful (during ++ .handed worker x :: earlier)) (hheld : Event.finished worker x ∉ during)
    (hadd : Event.added x ∈ during) : IsOwed x (during ++ .handed worker x :: earlier) := by
  induction during with
  | nil => simp at hadd
  | cons e during ih =>
    have hheld' : Event.finished worker x ∉ during := fun hm => hheld (List.mem_cons_of_mem e hm)
    have howed : Event.added x ≠ e → Lawful (during ++ .handed worker x :: earlier) →
        IsOwed x (during ++ .handed worker x :: earlier) := fun hne h =>
      ih h hheld' ((List.mem_cons.1 hadd).resolve_left hne)
    cases h with
    | added y h =>
      by_cases hy : y = x
      · exact .inl hy
      · exact .inr (howed (fun e => hy (Event.added.inj e).symm) h)
    | entered y h => exact howed nofun h
    | handed worker' y h hnone _ =>
      refine ⟨?_, howed nofun h⟩
      -- Nobody else is handed the item while the worker holds it.
      rintro rfl
      exact hheld' (finished_mem_of_holder?_ne h fun e => by simpa using hnone.symm.trans e)
    | finished worker' y h _ => exact howed nofun h

/-- Without a further addition an item that is owed and held by nobody is handed out at most once:
either not at all, and it is owed still, or once, and it is owed no longer. -/
theorem handOuts_of_not_added {x : α} {later earlier : List (Event α)}
    (h : Lawful (later ++ earlier)) (howed : IsOwed x earlier) (hfree : holder? x earlier = none)
    (hadd : Event.added x ∉ later) :
    (x ∉ handedIn later ∧ IsOwed x (later ++ earlier) ∧ holder? x (later ++ earlier) = none) ∨
      ((handedIn later).count x = 1 ∧ ¬ IsOwed x (later ++ earlier)) := by
  induction later with
  | nil => exact .inl ⟨by simp [handedIn], howed, hfree⟩
  | cons e later ih =>
    obtain ⟨hne, hlater⟩ := not_or.1 (mt List.mem_cons.2 hadd)
    cases h with
    | added y h =>
      have hy : y ≠ x := fun e => hne (e ▸ rfl)
      obtain ⟨h1, h2, h3⟩ | ⟨h1, h2⟩ := ih h hlater
      · exact .inl ⟨by simpa [Event.handed?] using h1, .inr h2, h3⟩
      · exact .inr ⟨by simpa [Event.handed?] using h1, fun h' => h'.elim hy h2⟩
    | entered y h =>
      obtain ⟨h1, h2, h3⟩ | ⟨h1, h2⟩ := ih h hlater
      · exact .inl ⟨by simpa [Event.handed?] using h1, h2, h3⟩
      · exact .inr ⟨by simpa [Event.handed?] using h1, h2⟩
    | handed worker y h hnone hy =>
      by_cases hyx : y = x
      · subst hyx
        obtain ⟨h1, -, -⟩ | ⟨-, h2⟩ := ih h hlater
        · -- This is the one hand-out; it settles what is owed.
          refine .inr ⟨?_, fun h' => h'.1 rfl⟩
          simp [Event.handed?, List.count_eq_zero.2 h1]
        · exact absurd hy h2
      · obtain ⟨h1, h2, h3⟩ | ⟨h1, h2⟩ := ih h hlater
        · refine .inl ⟨?_, ⟨hyx, h2⟩, by simpa [holder?, hyx] using h3⟩
          simp [Event.handed?, h1, Ne.symm hyx]
        · refine .inr ⟨?_, fun h' => h2 h'.2⟩
          simp [Event.handed?, h1, hyx]
    | finished worker y h hsome =>
      obtain ⟨h1, h2, h3⟩ | ⟨h1, h2⟩ := ih h hlater
      · refine .inl ⟨by simpa [Event.handed?] using h1, h2, ?_⟩
        simp only [List.cons_append, holder?, h3, ite_self]
      · exact .inr ⟨by simpa [Event.handed?] using h1, h2⟩

/-! ## Queue and history -/

namespace Journal

/-- The queue says about each item what the history says about it. -/
structure Sound (j : Journal α) : Prop where
  valid : j.queue.Valid
  lawful : Lawful j.events
  processing_iff : ∀ x, x ∈ j.queue.processing ↔ ∃ worker, holder? x j.events = some worker
  owed_of_waiting : ∀ x ∈ j.queue.waiting, IsOwed x j.events
  dirty_iff : j.queue.isShutDown = false → ∀ x, x ∈ j.queue.dirty ↔ IsOwed x j.events
  entered_eq : enteredIn j.events = handedIn j.events ++ j.queue.waiting

omit [DecidableEq α] in
/-- The history after an effect that makes nothing wait. -/
theorem events_record_of_le (j : Journal α) {q : WorkQueue α} (events : List (Event α))
    (h : q.waiting.length ≤ j.queue.waiting.length) :
    (j.record q events).events = events ++ j.events := by
  simp [record, List.drop_eq_nil_of_le h]

omit [DecidableEq α] in
/-- The history after an effect that makes one more item wait. -/
theorem events_record_of_append (j : Journal α) {q : WorkQueue α} (events : List (Event α)) {x : α}
    (h : q.waiting = j.queue.waiting ++ [x]) :
    (j.record q events).events = .entered x :: (events ++ j.events) := by
  simp [record, h]

theorem Sound.quiet {j : Journal α} (h : j.Sound) {q : WorkQueue α} (same : SameItems j.queue q) :
    (j.record q []).Sound := by
  have hevents : (j.record q []).events = j.events :=
    j.events_record_of_le [] (Nat.le_of_eq (congrArg List.length same.waiting))
  refine ⟨h.valid.congr same, ?_, ?_, ?_, ?_, ?_⟩
  · rw [hevents]
    exact h.lawful
  · rw [hevents]
    exact same.processing ▸ h.processing_iff
  · rw [hevents]
    exact same.waiting ▸ h.owed_of_waiting
  · rw [hevents]
    intro hs x
    exact same.dirty ▸ h.dirty_iff (same.isShutDown ▸ hs) x
  · rw [hevents]
    exact same.waiting ▸ h.entered_eq

theorem Sound.added {j : Journal α} (h : j.Sound) {p : WorkQueue α} (same : SameItems j.queue p)
    (x : α) : (j.record (p.add x) [.added x]).Sound := by
  have hvalid : (p.add x).Valid := (h.valid.congr same).add x
  have hdirty : (p.add x).isShutDown = false →
      ∀ y, y ∈ (p.add x).dirty ↔ IsOwed y (.added x :: j.events) := by
    intro hs y
    have hs' : p.isShutDown = false := p.add_isShutDown x ▸ hs
    rw [mem_dirty_add hs', same.dirty, h.dirty_iff (same.isShutDown ▸ hs')]
    simp [IsOwed, eq_comm]
  have hprocessing : ∀ y, y ∈ (p.add x).processing ↔
      ∃ worker, holder? y (.added x :: j.events) = some worker := by
    rw [add_processing, same.processing]
    exact h.processing_iff
  have hheld : ∀ y ∈ j.queue.waiting, IsOwed y (.added x :: j.events) :=
    fun y hy => .inr (h.owed_of_waiting y hy)
  by_cases hw : (p.add x).waiting = j.queue.waiting
  · -- The item is not seen to enter: it waits already, or it is in processing.
    have hevents : (j.record (p.add x) [.added x]).events = .added x :: j.events :=
      j.events_record_of_le _ (Nat.le_of_eq (congrArg List.length hw))
    refine ⟨hvalid, ?_, ?_, ?_, ?_, ?_⟩ <;> rw [hevents]
    · exact .added x h.lawful
    · exact hprocessing
    · exact fun y hy => hheld y (hw ▸ hy)
    · exact hdirty
    · show enteredIn (.added x :: j.events) = handedIn (.added x :: j.events) ++ (p.add x).waiting
      rw [hw]
      simpa [Event.entered?, Event.handed?] using h.entered_eq
  · have happend : (p.add x).waiting = j.queue.waiting ++ [x] := by
      obtain ⟨-, e⟩ | ⟨-, -, -, e⟩ | ⟨-, -, -, e⟩ := p.add_cases x
      · rw [e] at hw
        exact absurd same.waiting hw
      · rw [e] at hw
        exact absurd same.waiting hw
      · rw [e]
        exact congrArg (· ++ [x]) same.waiting
    have hevents : (j.record (p.add x) [.added x]).events = .entered x :: .added x :: j.events :=
      j.events_record_of_append _ happend
    refine ⟨hvalid, ?_, ?_, ?_, ?_, ?_⟩ <;> rw [hevents]
    · exact .entered x (.added x h.lawful)
    · exact hprocessing
    · intro y hy
      have hy' : y ∈ j.queue.waiting ++ [x] := happend ▸ hy
      rcases List.mem_append.1 hy' with hy' | hy'
      · exact hheld y hy'
      · exact .inl (List.mem_singleton.1 hy').symm
    · exact hdirty
    · show enteredIn (.entered x :: .added x :: j.events) =
        handedIn (.entered x :: .added x :: j.events) ++ (p.add x).waiting
      rw [happend]
      simp [Event.entered?, Event.handed?, h.entered_eq]

theorem Sound.handed {j : Journal α} (h : j.Sound) {r : WorkQueue α} {worker : Nat} {x : α}
    {rest : List α} (hw : j.queue.waiting = x :: rest) (hw' : r.waiting = rest)
    (hd : ∀ y, y ∈ r.dirty ↔ y ∈ j.queue.dirty ∧ y ≠ x)
    (hp : ∀ y, y ∈ r.processing ↔ y = x ∨ y ∈ j.queue.processing)
    (hs : r.isShutDown = j.queue.isShutDown) (hvalid : r.Valid) :
    (j.record r [.handed worker x]).Sound := by
  have hx : x ∈ j.queue.waiting := hw ▸ List.mem_cons_self
  have hevents : (j.record r [.handed worker x]).events = .handed worker x :: j.events :=
    j.events_record_of_le _ (by rw [hw, hw']; simp)
  -- What waits is not in processing, so nobody holds it.
  have hfree : holder? x j.events = none := by
    refine Option.eq_none_iff_forall_ne_some.2 fun worker' hsome => ?_
    exact h.valid.not_processing_of_waiting x hx ((h.processing_iff x).2 ⟨worker', hsome⟩)
  refine ⟨hvalid, ?_, ?_, ?_, ?_, ?_⟩ <;> rw [hevents]
  · exact .handed worker x h.lawful hfree (h.owed_of_waiting x hx)
  · intro y
    show y ∈ r.processing ↔ _
    rw [hp, h.processing_iff]
    by_cases hy : y = x
    · simp [hy, holder?]
    · simp [hy, Ne.symm hy, holder?]
  · intro y hy
    have hy' : y ∈ rest := hw' ▸ hy
    refine ⟨?_, h.owed_of_waiting y (hw ▸ List.mem_cons_of_mem x hy')⟩
    rintro rfl
    have := h.valid.waiting_nodup
    rw [hw, List.nodup_cons] at this
    exact this.1 hy'
  · intro hs' y
    show y ∈ r.dirty ↔ _
    rw [hd, h.dirty_iff (hs ▸ hs')]
    simp [IsOwed, and_comm, eq_comm]
  · show enteredIn (.handed worker x :: j.events) =
      handedIn (.handed worker x :: j.events) ++ r.waiting
    rw [hw']
    simp [Event.entered?, Event.handed?, h.entered_eq, hw]

theorem Sound.finished {j : Journal α} (h : j.Sound) {worker : Nat} {x : α}
    (hheld : holder? x j.events = some worker) :
    (j.record (j.queue.done x) [.finished worker x]).Sound := by
  have hx : x ∈ j.queue.processing := (h.processing_iff x).2 ⟨worker, hheld⟩
  have hvalid := h.valid.done hx
  obtain ⟨hd, hs, hp, hwait⟩ := j.queue.done_cases x
  have hprocessing : ∀ y, y ∈ (j.queue.done x).processing ↔
      ∃ worker', holder? y (.finished worker x :: j.events) = some worker' := by
    intro y
    rw [hp, h.processing_iff]
    by_cases hy : y = x
    · simp [hy, holder?]
    · simp [hy, Ne.symm hy, holder?]
  have hdirty : (j.queue.done x).isShutDown = false →
      ∀ y, y ∈ (j.queue.done x).dirty ↔ IsOwed y (.finished worker x :: j.events) := by
    intro hs' y
    rw [hd, h.dirty_iff (hs ▸ hs')]
    rfl
  obtain ⟨hdx, hs', hwait⟩ | ⟨-, hwait⟩ := hwait
  · -- The item was marked while it was processed, so it waits again.
    have hevents : (j.record (j.queue.done x) [.finished worker x]).events =
        .entered x :: .finished worker x :: j.events := j.events_record_of_append _ hwait
    refine ⟨hvalid, ?_, ?_, ?_, ?_, ?_⟩ <;> rw [hevents]
    · exact .entered x (.finished worker x h.lawful hheld)
    · exact hprocessing
    · intro y hy
      have hy' : y ∈ j.queue.waiting ++ [x] := hwait ▸ hy
      rcases List.mem_append.1 hy' with hy' | hy'
      · exact h.owed_of_waiting y hy'
      · exact (h.dirty_iff hs' y).1 (List.mem_singleton.1 hy' ▸ hdx)
    · exact hdirty
    · show enteredIn (.entered x :: .finished worker x :: j.events) =
        handedIn (.entered x :: .finished worker x :: j.events) ++ (j.queue.done x).waiting
      rw [hwait]
      simp [Event.entered?, Event.handed?, h.entered_eq]
  · have hevents : (j.record (j.queue.done x) [.finished worker x]).events =
        .finished worker x :: j.events :=
      j.events_record_of_le _ (Nat.le_of_eq (congrArg List.length hwait))
    refine ⟨hvalid, ?_, ?_, ?_, ?_, ?_⟩ <;> rw [hevents]
    · exact .finished worker x h.lawful hheld
    · exact hprocessing
    · exact fun y hy => h.owed_of_waiting y (hwait ▸ hy)
    · exact hdirty
    · show enteredIn (.finished worker x :: j.events) =
        handedIn (.finished worker x :: j.events) ++ (j.queue.done x).waiting
      rw [hwait]
      simpa [Event.entered?, Event.handed?] using h.entered_eq

theorem Sound.shutDown {j : Journal α} (h : j.Sound) : (j.record j.queue.shutDown []).Sound := by
  have hevents : (j.record j.queue.shutDown []).events = j.events :=
    j.events_record_of_le [] (Nat.le_refl _)
  refine ⟨h.valid.shutDown, ?_, ?_, ?_, ?_, ?_⟩ <;> rw [hevents]
  · exact h.lawful
  · exact h.processing_iff
  · exact h.owed_of_waiting
  · exact fun hs => absurd hs (by simp [record, WorkQueue.shutDown])
  · exact h.entered_eq

/-- Every operation that is allowed keeps queue and history together. -/
theorem Sound.perform {j : Journal α} (h : j.Sound) {op : Operation α} (hop : j.Permits op) :
    (j.perform op).Sound := by
  have heffect := effect_run h.valid hop
  unfold Journal.perform
  generalize (op.run j.queue).1 = q, (op.run j.queue).2 = events at heffect ⊢
  cases heffect with
  | quiet same => exact h.quiet same
  | added x same => exact h.added same x
  | handed worker x rest hw hw' hd hp hs hvalid => exact h.handed hw hw' hd hp hs hvalid
  | finished worker x hheld => exact h.finished hheld
  | shutDown => exact h.shutDown

/-- After every run queue and history are together. -/
theorem sound_of_reachable {shortest longest : Duration} {j : Journal α}
    (h : Reachable shortest longest j) : j.Sound := by
  induction h with
  | start =>
    refine ⟨valid_create shortest longest, .nil, ?_, ?_, ?_, rfl⟩ <;>
      simp [WorkQueue.create, holder?, IsOwed]
  | perform op _ hop ih => exact ih.perform hop

/-- The discipline of hand-outs. -/
structure Orderly (j : Journal α) : Prop where
  waiting_nodup : j.queue.waiting.Nodup
  not_processing_of_waiting : ∀ x ∈ j.queue.waiting, x ∉ j.queue.processing
  /-- Between two hand-outs of an item the first worker has finished it, and it was added. -/
  separated : ∀ (later between earlier : List (Event α)) (worker worker' : Nat) (x : α),
    j.events = later ++ .handed worker' x :: (between ++ .handed worker x :: earlier) →
      Event.finished worker x ∈ between ∧ Event.added x ∈ between
  /-- Until the shutdown, what was added since its last hand-out waits, or is marked while it is
  being processed, and nothing else is. -/
  isOwed_iff : j.queue.isShutDown = false → ∀ x, IsOwed x j.events ↔
    x ∈ j.queue.waiting ∨ (x ∈ j.queue.dirty ∧ x ∈ j.queue.processing)
  /-- An item that was added while a worker holds it waits again, once, when the worker is done. -/
  waiting_done : j.queue.isShutDown = false → ∀ (worker : Nat) (x : α),
    holder? x j.events = some worker → IsOwed x j.events →
      (j.perform (.done worker x)).queue.waiting = j.queue.waiting ++ [x] ∧
        (j.perform (.done worker x)).queue.waiting.count x = 1
  /-- However often an item is added while a worker holds it, that makes one more hand-out: it has
  taken place, or it is still to come. -/
  once_more : j.queue.isShutDown = false →
    ∀ (later during earlier : List (Event α)) (worker : Nat) (x : α),
      j.events = later ++ .finished worker x :: (during ++ .handed worker x :: earlier) →
      Event.finished worker x ∉ during → Event.added x ∈ during → Event.added x ∉ later →
        (handedIn later).count x + j.queue.waiting.count x = 1
  /-- Items are handed out in the order in which they entered the waiting list. -/
  entered_eq : enteredIn j.events = handedIn j.events ++ j.queue.waiting

theorem Sound.isOwed_iff {j : Journal α} (h : j.Sound) (hs : j.queue.isShutDown = false) (x : α) :
    IsOwed x j.events ↔ x ∈ j.queue.waiting ∨ (x ∈ j.queue.dirty ∧ x ∈ j.queue.processing) := by
  rw [← h.dirty_iff hs]
  constructor
  · intro hx
    exact (h.valid.kept_of_dirty hs x hx).imp_right fun hp => ⟨hx, hp⟩
  · rintro (hx | hx)
    · exact h.valid.dirty_of_waiting x hx
    · exact hx.1

theorem Sound.once_more {j : Journal α} (h : j.Sound) (hs : j.queue.isShutDown = false)
    {later during earlier : List (Event α)} {worker : Nat} {x : α}
    (hevents : j.events = later ++ .finished worker x :: (during ++ .handed worker x :: earlier))
    (hheld : Event.finished worker x ∉ during) (hadd : Event.added x ∈ during)
    (hno : Event.added x ∉ later) : (handedIn later).count x + j.queue.waiting.count x = 1 := by
  have hlawful := h.lawful
  rw [hevents] at hlawful
  have hduring : Lawful (during ++ .handed worker x :: earlier) := by
    cases hlawful.of_append with
    | finished _ _ h _ => exact h
  have howed : IsOwed x (.finished worker x :: (during ++ .handed worker x :: earlier)) :=
    isOwed_of_added_while_held hduring hheld hadd
  have hfree :
      holder? x (.finished worker x :: (during ++ .handed worker x :: earlier)) = none := by
    simp [holder?]
  obtain ⟨hout, howed', hfree'⟩ | ⟨hout, howed'⟩ := handOuts_of_not_added hlawful howed hfree hno
  · -- It was not handed out, and nobody processes it: it waits.
    rw [← hevents] at howed' hfree'
    have hp : x ∉ j.queue.processing := fun hp => by
      obtain ⟨worker', hsome⟩ := (h.processing_iff x).1 hp
      simp [hfree'] at hsome
    have hw : x ∈ j.queue.waiting := ((h.isOwed_iff hs x).1 howed').resolve_right fun hx => hp hx.2
    rw [List.count_eq_zero.2 hout, h.valid.waiting_nodup.count, if_pos hw]
  · rw [← hevents] at howed'
    have hw : x ∉ j.queue.waiting := fun hw => howed' (h.owed_of_waiting x hw)
    rw [hout, List.count_eq_zero.2 hw]

/-- After every run hand-outs have kept to the discipline. -/
theorem orderly_of_reachable {shortest longest : Duration} {j : Journal α}
    (h : Reachable shortest longest j) : j.Orderly := by
  have hj : j.Sound := sound_of_reachable h
  refine ⟨hj.valid.waiting_nodup, hj.valid.not_processing_of_waiting, ?_, hj.isOwed_iff, ?_, ?_,
    hj.entered_eq⟩
  · intro later between earlier worker worker' x hevents
    have hlawful := hj.lawful
    rw [hevents] at hlawful
    cases hlawful.of_append with
    | handed _ _ hbetween hnone howed =>
      exact ⟨finished_mem_of_holder?_ne hbetween (by simp [hnone]), added_mem_of_isOwed howed⟩
  · intro hs worker x hheld howed
    have hx : x ∈ j.queue.processing := (hj.processing_iff x).2 ⟨worker, hheld⟩
    have hw : x ∉ j.queue.waiting := fun hw => hj.valid.not_processing_of_waiting x hw hx
    have hwait : (j.queue.done x).waiting = j.queue.waiting ++ [x] := by
      obtain ⟨-, -, -, ⟨-, -, hwait⟩ | ⟨hno, -⟩⟩ := j.queue.done_cases x
      · exact hwait
      · rcases hno with hno | hno
        · exact absurd ((hj.dirty_iff hs x).2 howed) hno
        · simp [hs] at hno
    refine ⟨hwait, ?_⟩
    show (j.queue.done x).waiting.count x = 1
    rw [hwait, List.count_append, List.count_eq_zero.2 hw, List.count_singleton_self]
  · intro hs later during earlier worker x hevents hheld hadd hno
    exact hj.once_more hs hevents hheld hadd hno

/-- An item that is added twice while worker 1 holds it waits once after worker 1 is done, and
worker 2 gets it. -/
theorem orderly_of_added_twice :
    let ops : List (Operation Nat) := [.add 7, .get 1, .add 7, .add 7, .done 1 7, .get 2]
    let j := ops.foldl Journal.perform { queue := .create Backoff.usualBase Backoff.usualLimit }
    Reachable Backoff.usualBase Backoff.usualLimit j ∧ j.Orderly ∧
      handedIn j.events = [7, 7] ∧ j.queue.waiting = [] := by
  intro ops j
  have h : Reachable Backoff.usualBase Backoff.usualLimit j :=
    .perform (.get 2) (.perform (.done 1 7) (.perform (.add 7) (.perform (.add 7)
      (.perform (.get 1) (.perform (.add 7) .start trivial) trivial) trivial) trivial) rfl) trivial
  exact ⟨h, orderly_of_reachable h, by decide, by decide⟩

end Journal

end WorkQueue

end BatchOperator
