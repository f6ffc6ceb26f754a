import BatchOperator.Proofs.Queue.Shutdown

/-!
# No ring is lost

Getters that find nothing sleep until the bell rings, and rings are few: one ring may stand for
several items, a ring may be used up by a getter that takes nothing, and getters give up at any
moment. A queue is `Attended` when somebody is up to look wherever something waits and somebody
sleeps. Every operation keeps a queue attended, so once no woken getter is left to look, a getter
sleeps only where there is nothing to get (`sleeps_idle_of_reachable`). Getters that were woken and
look one after the other come to such a point, since every look leaves fewer looks to make
(`looks_getAgain_lt`).
-/

set_option autoImplicit false

namespace BatchOperator

namespace Bell

/-- After a ring somebody is up, unless nobody sleeps. -/
theorem woken_ring_ne_nil {b : Bell} (h : b.ring.asleep ≠ []) : b.ring.woken ≠ [] := by
  cases hasleep : b.asleep with
  | nil =>
    rw [ring_of_asleep_eq_nil hasleep] at h
    exact absurd hasleep h
  | cons getter rest => simp [ring, hasleep]

/-- A single ring wakes with a single ring. -/
theorem single_of_mem_ring {b : Bell} (h : ∀ entry ∈ b.woken, entry.2 = .single) :
    ∀ entry ∈ b.ring.woken, entry.2 = .single := by
  unfold ring
  split
  · exact h
  · intro entry hentry
    rcases List.mem_append.1 hentry with hentry | hentry
    · exact h entry hentry
    · rw [List.mem_singleton.1 hentry]

/-- A ring makes for one more look at most: its getter may fall asleep again. -/
theorem looks_ring_le (b : Bell) : b.ring.looks ≤ b.looks + 1 := by
  cases hasleep : b.asleep with
  | nil =>
    rw [ring_of_asleep_eq_nil hasleep]
    exact Nat.le_succ _
  | cons getter rest =>
    simp only [ring, hasleep, looks, List.length_append, List.length_cons, List.length_nil]
    omega

/-- A woken getter that gets up has its look behind it. -/
theorem looks_rise_le {b : Bell} {getter : Nat} {ring : Ring} {rest : List (Nat × Ring)}
    (h : b.woken = (getter, ring) :: rest) : (b.rise getter).looks + 2 ≤ b.looks := by
  have hgone : (b.rise getter).woken = rest.filter fun entry => entry.1 != getter := by
    simp [rise, h]
  have hle := List.length_filter_le (fun entry : Nat × Ring => entry.1 != getter) rest
  have hlength : b.woken.length = rest.length + 1 := by simp [h]
  have hasleep : (b.rise getter).asleep = b.asleep := rfl
  simp only [looks, hgone, hasleep, hlength]
  omega

end Bell

namespace WorkQueue

variable {α : Type} {q r : WorkQueue α}

/-- Nobody sleeps after the shutdown, and before it every ring that woke somebody was meant for one
getter, who hands it on when it gives up. -/
structure Tuned (q : WorkQueue α) : Prop where
  asleep : q.isShutDown = true → q.bell.asleep = []
  single : q.isShutDown = false → ∀ entry ∈ q.bell.woken, entry.2 = .single

/-- Wherever something waits and somebody sleeps, somebody else is up to look. -/
structure Attended (q : WorkQueue α) : Prop extends q.Tuned where
  up : q.waiting ≠ [] → q.bell.asleep ≠ [] → q.bell.woken ≠ []

theorem attended_create (shortest longest : Duration) :
    (create shortest longest : WorkQueue α).Attended := by
  refine ⟨⟨fun _ => rfl, ?_⟩, fun h => absurd rfl h⟩
  intro _ entry hentry
  cases hentry

theorem Attended.congr (h : q.Attended) (same : q.Unmoved r) : r.Attended := by
  obtain ⟨hshut, hwaiting, hbell⟩ := same
  refine ⟨⟨?_, ?_⟩, ?_⟩
  · rw [hshut, hbell]
    exact h.asleep
  · rw [hshut, hbell]
    exact h.single
  · rw [hwaiting, hbell]
    exact h.up

/-! ## Adding and finishing -/

/-- What enters the waiting list rings for somebody. -/
theorem Attended.append (h : q.Attended) (hopen : q.isShutDown = false) (x : α) :
    (q.append x).Attended := by
  refine ⟨⟨?_, ?_⟩, ?_⟩
  · intro hshut
    exact absurd (hopen.symm.trans hshut) Bool.false_ne_true
  · intro _
    exact Bell.single_of_mem_ring (h.single hopen)
  · intro _
    exact Bell.woken_ring_ne_nil

variable [DecidableEq α]

theorem Attended.add (h : q.Attended) (x : α) : (q.add x).Attended := by
  obtain ⟨-, e⟩ | ⟨-, -, -, e⟩ | ⟨hopen, -, -, e⟩ := q.add_cases x
  · rw [e]
    exact h
  · rw [e]
    exact h.congr ⟨rfl, rfl, rfl⟩
  · rw [e]
    have hmarked : ({ q with dirty := x :: q.dirty } : WorkQueue α).Attended :=
      h.congr ⟨rfl, rfl, rfl⟩
    exact hmarked.append hopen x

theorem Attended.addAfter (h : q.Attended) (now : Instant) (x : α) (delay : Duration) :
    (q.addAfter now x delay).Attended := by
  unfold WorkQueue.addAfter
  split
  · exact h.add x
  · exact h.congr ⟨rfl, rfl, rfl⟩

theorem Attended.fire (h : q.Attended) (moment : Instant) :
    ((q.fire moment).getD q).Attended := by
  unfold WorkQueue.fire
  cases takeDue moment q.delayed with
  | none => exact h
  | some due =>
    have hfired : ({ q with delayed := due.2 } : WorkQueue α).Attended := h.congr ⟨rfl, rfl, rfl⟩
    exact hfired.add due.1

theorem Attended.done (h : q.Attended) (x : α) : (q.done x).Attended := by
  have hfinished : ({ q with processing := q.processing.filter fun other => other ≠ x } :
      WorkQueue α).Attended := h.congr ⟨rfl, rfl, rfl⟩
  simp only [WorkQueue.done]
  split
  · rename_i hmarked
    exact hfinished.append (by simpa using (Bool.and_eq_true_iff.1 hmarked).2) x
  · exact hfinished

/-! ## Looking and giving up -/

omit [DecidableEq α] in
/-- A getter that gets up leaves the bell in tune. -/
theorem Tuned.rise (h : q.Tuned) (getter : Nat) :
    ({ q with bell := q.bell.rise getter } : WorkQueue α).Tuned := by
  refine ⟨h.asleep, ?_⟩
  intro hopen entry hentry
  exact h.single hopen entry (List.mem_filter.1 hentry).1

/-- Whoever looks hands the ring on if it leaves something: after a look a queue is attended, even if
nobody was up before. -/
theorem Tuned.look (h : q.Tuned) : (q.look).2.Attended := by
  cases hw : q.waiting with
  | nil =>
    simp only [WorkQueue.look, hw]
    exact ⟨⟨h.asleep, h.single⟩, fun hne => absurd rfl hne⟩
  | cons x rest =>
    simp only [WorkQueue.look, hw]
    cases rest with
    | nil => exact ⟨⟨h.asleep, h.single⟩, fun hne => absurd rfl hne⟩
    | cons y rest =>
      refine ⟨⟨?_, ?_⟩, fun _ => Bell.woken_ring_ne_nil⟩
      · intro hshut
        have hasleep : q.bell.answer.asleep = [] := h.asleep hshut
        exact (congrArg Bell.asleep (Bell.ring_of_asleep_eq_nil hasleep)).trans hasleep
      · intro hopen
        exact Bell.single_of_mem_ring (h.single hopen)

/-- A look that finds nothing yet was made at an open queue where nothing waits, and leaves it so. -/
theorem look_eq_nothing (hlook : (q.look).1 = .nothing) :
    (q.look).2.waiting = [] ∧ (q.look).2.isShutDown = false := by
  cases hw : q.waiting with
  | nil =>
    cases hshut : q.isShutDown with
    | true => simp [WorkQueue.look, hw, hshut] at hlook
    | false => simp [WorkQueue.look, hw, hshut]
  | cons x rest => simp [WorkQueue.look, hw] at hlook

/-- Somebody goes to sleep only where there is nothing to get. -/
theorem Tuned.get (h : q.Tuned) (getter : Nat) : (q.get getter).2.Attended := by
  have hlook := h.look
  unfold WorkQueue.get
  split
  · rename_i r hr
    have hfound : (q.look).1 = .nothing := by rw [hr]
    obtain ⟨hwaiting, hopen⟩ := look_eq_nothing hfound
    rw [hr] at hlook hwaiting hopen
    refine ⟨⟨?_, hlook.single⟩, ?_⟩
    · intro hshut
      exact absurd (hopen.symm.trans hshut) Bool.false_ne_true
    · intro hne
      exact absurd hwaiting hne
  · exact hlook

omit [DecidableEq α] in
/-- Who gives up after a single ring hands it on; anybody else who gives up was not up. -/
theorem Attended.leave (h : q.Attended) (getter : Nat) : (q.leave getter).Attended := by
  have htuned := h.toTuned.rise getter
  have hasleep : q.isShutDown = true →
      q.bell.asleep.filter (fun other => other != getter) = [] := by
    intro hshut
    rw [h.asleep hshut]
    rfl
  simp only [WorkQueue.leave, Bell.leave]
  split
  · refine ⟨⟨?_, ?_⟩, fun _ => Bell.woken_ring_ne_nil⟩
    · intro hshut
      exact (congrArg Bell.asleep (Bell.ring_of_asleep_eq_nil (hasleep hshut))).trans
        (hasleep hshut)
    · intro hopen
      exact Bell.single_of_mem_ring (htuned.single hopen)
  · rename_i hnot
    refine ⟨⟨hasleep, htuned.single⟩, ?_⟩
    intro hwaiting hsleeps
    cases hshut : q.isShutDown with
    | true => exact absurd (hasleep hshut) hsleeps
    | false =>
      -- Before the shutdown everybody who is up was woken by a single ring.
      have hstays : (q.bell.rise getter).woken = q.bell.woken := by
        refine List.filter_eq_self.2 ?_
        rintro ⟨other, ring⟩ hentry
        have hsingle : ring = .single := h.single hshut _ hentry
        rw [Bool.not_eq_true, List.any_eq_false] at hnot
        simpa [hsingle] using hnot _ hentry
      have hsome : q.bell.asleep ≠ [] := by
        intro hnone
        rw [hnone] at hsleeps
        exact hsleeps rfl
      show (q.bell.rise getter).woken ≠ []
      rw [hstays]
      exact h.up hwaiting hsome

/-! ## Runs -/

/-- Whatever is done with an attended queue, somebody attends it. -/
theorem Attended.run (h : q.Attended) (op : Operation α) : (op.run q).1.Attended := by
  cases op with
  | add x => exact h.add x
  | addAfter now x delay => exact h.addAfter now x delay
  | addRateLimited now x =>
    have hfailed : (q.blamed x).Attended := h.congr ⟨rfl, rfl, rfl⟩
    exact hfailed.addAfter now x (q.backoff.fail x).1
  | fire moment => exact h.fire moment
  | get getter => exact h.toTuned.get getter
  | getAgain getter => exact (h.toTuned.rise getter).get getter
  | leave getter => exact h.leave getter
  | done worker x => exact h.done x
  | forget x => exact h.congr ⟨rfl, rfl, rfl⟩
  | shutDown =>
    refine ⟨⟨fun _ => rfl, ?_⟩, fun _ hsleeps => absurd rfl hsleeps⟩
    intro hopen
    cases hopen

/-- The queues that any operations can lead to, by whomever and in whatever order. -/
inductive Reachable (shortest longest : Duration) : WorkQueue α → Prop
  | start : Reachable shortest longest (.create shortest longest)
  | run {q : WorkQueue α} (op : Operation α) :
      Reachable shortest longest q → Reachable shortest longest (op.run q).1
  /-- A getter looks that does not wait for anything. -/
  | attempt {q : WorkQueue α} :
      Reachable shortest longest q → Reachable shortest longest (q.look).2

theorem attended_of_reachable {shortest longest : Duration} (h : Reachable shortest longest q) :
    q.Attended := by
  induction h with
  | start => exact attended_create shortest longest
  | run op _ ih => exact ih.run op
  | attempt _ ih => exact ih.toTuned.look

/-- A look makes for one more look at most. -/
theorem looks_get_le (q : WorkQueue α) (getter : Nat) :
    (q.get getter).2.bell.looks ≤ q.bell.looks + 1 := by
  unfold get
  cases hw : q.waiting with
  | nil =>
    cases hshut : q.isShutDown with
    | true =>
      simp only [look, hw, hshut, if_true]
      exact Nat.le_succ _
    | false =>
      simp only [look, hw, hshut, Bool.false_eq_true, if_false, Bell.looks, Bell.sleep, Bell.answer,
        List.length_append, List.length_singleton]
      omega
  | cons x rest =>
    simp only [look, hw]
    split
    · exact Nat.le_succ _
    · exact Bell.looks_ring_le q.bell.answer

/-- Whenever somebody who was woken looks, fewer looks are left to make. -/
theorem looks_getAgain_lt {getter : Nat} {ring : Ring} {rest : List (Nat × Ring)}
    (h : q.bell.woken = (getter, ring) :: rest) :
    (q.getAgain getter).2.bell.looks < q.bell.looks := by
  have hrise := Bell.looks_rise_le h
  have hget := looks_get_le { q with bell := q.bell.rise getter } getter
  exact Nat.lt_of_lt_of_le (Nat.lt_succ_of_le hget) hrise

/-- Letting everybody look who was woken is a run, and in the end nobody is left who was woken. -/
theorem reachable_settleWithin {shortest longest : Duration} (fuel : Nat)
    (h : Reachable shortest longest q) (hfuel : q.bell.looks ≤ fuel) :
    Reachable shortest longest (settleWithin fuel q).2 ∧
      (settleWithin fuel q).2.bell.woken = [] := by
  induction fuel generalizing q with
  | zero =>
    refine ⟨h, List.eq_nil_of_length_eq_zero ?_⟩
    unfold Bell.looks at hfuel
    show q.bell.woken.length = 0
    omega
  | succ fuel ih =>
    unfold settleWithin
    split
    · rename_i hnone
      exact ⟨h, hnone⟩
    · rename_i getter ring rest hwoken
      have hnext := ih (.run (.getAgain getter) h)
        (Nat.le_of_lt_succ (Nat.lt_of_lt_of_le (looks_getAgain_lt hwoken) hfuel))
      simp only [Operation.run] at hnext
      rcases hagain : q.getAgain getter with ⟨found, r⟩
      rw [hagain] at hnext
      cases found <;> exact hnext

theorem reachable_settle {shortest longest : Duration} (h : Reachable shortest longest q) :
    Reachable shortest longest (q.settle).2 ∧ (q.settle).2.bell.woken = [] :=
  reachable_settleWithin q.bell.looks h (Nat.le_refl _)

/-- Where no woken getter is left to look, getters sleep only where nothing waits and the queue was
not shut down. That point is reached from everywhere, by letting those look who were woken. -/
theorem sleeps_idle_of_reachable {shortest longest : Duration} (h : Reachable shortest longest q) :
    (q.bell.woken = [] → ∀ getter ∈ q.bell.asleep, q.waiting = [] ∧ q.isShutDown = false) ∧
      (q.settle).2.bell.woken = [] ∧
      ∀ getter ∈ (q.settle).2.bell.asleep,
        (q.settle).2.waiting = [] ∧ (q.settle).2.isShutDown = false := by
  have hidle : ∀ {r : WorkQueue α}, Reachable shortest longest r → r.bell.woken = [] →
      ∀ getter ∈ r.bell.asleep, r.waiting = [] ∧ r.isShutDown = false := by
    intro r hr hnone getter hgetter
    have hattended := attended_of_reachable hr
    have hsleeps : r.bell.asleep ≠ [] := List.ne_nil_of_mem hgetter
    constructor
    · cases hwaiting : r.waiting with
      | nil => rfl
      | cons x rest =>
        have hne : r.waiting ≠ [] := by simp [hwaiting]
        exact absurd hnone (hattended.up hne hsleeps)
    · cases hshut : r.isShutDown with
      | true => exact absurd (hattended.asleep hshut) hsleeps
      | false => rfl
  obtain ⟨hsettled, hnone⟩ := reachable_settle h
  exact ⟨hidle h, hnone, hidle hsettled hnone⟩

/-- Two getters sleep, the first is woken by an item and gives up: the second takes its place, and
after it has looked nobody sleeps where something waits. -/
theorem sleeps_idle_of_handed_on :
    let ops : List (Operation Nat) := [.get 1, .get 2, .get 3, .add 7, .leave 1]
    let q := ops.foldl (fun q op => (op.run q).1)
      (.create Backoff.usualBase Backoff.usualLimit : WorkQueue Nat)
    Reachable Backoff.usualBase Backoff.usualLimit q ∧ q.bell.woken = [(2, .single)] ∧
      (q.settle).1 = [(2, some 7)] ∧ (q.settle).2.bell.asleep = [3] ∧
      (q.settle).2.waiting = [] ∧ (q.settle).2.isShutDown = false := by
  intro ops q
  have h : Reachable Backoff.usualBase Backoff.usualLimit q :=
    .run (.leave 1) (.run (.add 7) (.run (.get 3) (.run (.get 2) (.run (.get 1) .start))))
  have hasleep : (q.settle).2.bell.asleep = [3] := by decide
  obtain ⟨-, -, hidle⟩ := sleeps_idle_of_reachable h
  exact ⟨h, by decide, by decide, hasleep, hidle 3 (by rw [hasleep]; exact List.mem_singleton_self 3)⟩

end WorkQueue

end BatchOperator
