import BatchOperator.Proofs.Backoff
import BatchOperator.Proofs.Queue.Owed
import BatchOperator.Proofs.Reconcile.Origins
import BatchOperator.Proofs.Worker.Shift

/-!
# Failures that are not forgotten

Work that has failed and may be tried again is not lost. It is added again when its delay is over, or
somebody adds it before; until it is handed out it waits, is marked while somebody has it in hand, or
is put off until the moment that its failures ask for (`Shift.Owing`). Meanwhile the failures of each
unit of work are counted (`Shift.Counted`). Both are kept by every step of a shift.

Together with where failures come from this says what becomes of failed work
(`failures_remembered`): it is only dropped for a failure that the API server has answered with.
-/

set_option autoImplicit false

namespace BatchOperator

/-! ## After a pass -/

namespace WorkQueue

variable (q : WorkQueue WorkKey) (now : Instant) (key : WorkKey) (result : Except Error Unit)

/-- After a pass a failure that may pass is counted, and the work is put off; after any other end its
failures are forgotten. -/
theorem afterPass_cases :
    (∃ e, result = .error e ∧ e.isRetryable = true ∧
        q.afterPass now key result = q.addRateLimited now key) ∨
      ((∀ e, result = .error e → e.isRetryable = false) ∧
        q.afterPass now key result = q.forget key) := by
  cases result with
  | ok => exact .inr ⟨nofun, rfl⟩
  | error e =>
    cases he : e.isRetryable with
    | true =>
      refine .inl ⟨e, rfl, he, ?_⟩
      simp only [afterPass, PassResult.ofResult, he]
      rfl
    | false =>
      refine .inr ⟨?_, ?_⟩
      · rintro _ ⟨⟩
        exact he
      · simp only [afterPass, PassResult.ofResult, he]
        rfl

/-- Dealing with a result leaves what is in processing, and the bounds of the delays. -/
theorem afterPass_facts :
    (q.afterPass now key result).processing = q.processing ∧
      (q.afterPass now key result).isShutDown = q.isShutDown ∧
      (q.afterPass now key result).backoff.base = q.backoff.base ∧
      (q.afterPass now key result).backoff.limit = q.backoff.limit := by
  obtain ⟨e, -, -, h⟩ | ⟨-, h⟩ := q.afterPass_cases now key result
  · obtain ⟨hprocessing, hshut, hbackoff⟩ :=
      (q.blamed key).addAfter_facts now key (q.backoff.delayAfter (q.failures key))
    rw [h, addRateLimited_eq, hbackoff]
    exact ⟨hprocessing, hshut, rfl, rfl⟩
  · rw [h]
    exact ⟨rfl, rfl, rfl, rfl⟩

variable {q}

theorem Valid.afterPass (h : q.Valid) : (q.afterPass now key result).Valid := by
  obtain ⟨e, -, -, hafter⟩ | ⟨-, hafter⟩ := q.afterPass_cases now key result
  · rw [hafter]
    exact h.addRateLimited now key
  · rw [hafter]
    exact h.congr ⟨rfl, rfl, rfl, rfl⟩

/-- Dealing with a result keeps what is owed. -/
theorem Owes.afterPass {other : WorkKey} {due : Instant} (h : q.Owes other due)
    (hopen : q.isShutDown = false) : (q.afterPass now key result).Owes other due := by
  obtain ⟨e, -, -, hafter⟩ | ⟨-, hafter⟩ := q.afterPass_cases now key result
  · rw [hafter]
    exact h.addRateLimited hopen now key
  · rw [hafter]
    exact h

/-- What is put off after a pass was put off before, or is the work of a pass that has failed. -/
theorem mem_delayed_afterPass {d : Delayed WorkKey}
    (h : d ∈ (q.afterPass now key result).delayed) :
    d ∈ q.delayed ∨ (d.item = key ∧ ∃ e, result = .error e) := by
  obtain ⟨e, rfl, -, hafter⟩ | ⟨-, hafter⟩ := q.afterPass_cases now key result
  · rw [hafter, addRateLimited_eq] at h
    exact (mem_delayed_addAfter h).imp_right fun hitem => ⟨hitem, e, rfl⟩
  · rw [hafter] at h
    exact .inl h

/-- A pass marks no other work, and none at all if it ends well. -/
theorem mem_dirty_afterPass {other : WorkKey} (h : other ≠ key ∨ result = .ok ()) :
    other ∈ (q.afterPass now key result).dirty ↔ other ∈ q.dirty := by
  obtain ⟨e, rfl, -, hafter⟩ | ⟨-, hafter⟩ := q.afterPass_cases now key result
  · rw [hafter, addRateLimited_eq]
    rcases h with hother | hok
    · exact mem_dirty_addAfter_of_ne hother now _
    · cases hok
  · rw [hafter]
    exact Iff.rfl

/-- Dealing with a result changes the failures of its own work only. -/
theorem failures_afterPass (other : WorkKey) :
    (q.afterPass now key result).failures other =
      if other = key then
        match result with
        | .ok () => 0
        | .error e => if e.isRetryable then min (q.failures key + 1) Backoff.countLimit else 0
      else q.failures other := by
  obtain ⟨e, rfl, he, hafter⟩ | ⟨hfinal, hafter⟩ := q.afterPass_cases now key result
  · obtain ⟨-, -, hbackoff⟩ :=
      (q.blamed key).addAfter_facts now key (q.backoff.delayAfter (q.failures key))
    rw [← addRateLimited_eq, ← hafter] at hbackoff
    simp only [failures, hbackoff, blamed, Backoff.failures_record, he, if_true]
  · have hbackoff : (q.afterPass now key result).backoff = q.backoff.forget key := by
      rw [hafter]
      rfl
    simp only [failures, hbackoff, Backoff.failures_forget]
    cases result with
    | ok => rfl
    | error e => simp [hfinal e rfl]

end WorkQueue

/-! ## Hands -/

namespace Shift

/-- What workers have in hand is in processing, and no two of them have the same in hand. -/
structure Apart (hands : Nat → Hand) (processing : List WorkKey) : Prop where
  inProcessing : ∀ {number key}, (hands number).key? = some key → key ∈ processing
  alone : ∀ {number other key}, (hands number).key? = some key → (hands other).key? = some key →
    number = other

/-- One worker takes something else into its hand. -/
theorem Apart.update {hands : Nat → Hand} {processing processing' : List WorkKey}
    (h : Apart hands processing) {number : Nat} {hand : Hand}
    (mine : ∀ key, hand.key? = some key →
      key ∈ processing' ∧ ∀ other, other ≠ number → (hands other).key? ≠ some key)
    (others : ∀ other key, other ≠ number → (hands other).key? = some key → key ∈ processing') :
    Apart (Function.update hands number hand) processing' := by
  refine ⟨?_, ?_⟩
  · intro other key hkey
    by_cases hother : other = number
    · subst hother
      rw [Function.update_self] at hkey
      exact (mine key hkey).1
    · rw [Function.update_of_ne hother] at hkey
      exact others other key hother hkey
  · intro first second key hfirst hsecond
    by_cases hone : first = number
    · by_cases htwo : second = number
      · exact hone.trans htwo.symm
      · subst hone
        rw [Function.update_self] at hfirst
        rw [Function.update_of_ne htwo] at hsecond
        exact absurd hsecond ((mine key hfirst).2 second htwo)
    · rw [Function.update_of_ne hone] at hfirst
      by_cases htwo : second = number
      · subst htwo
        rw [Function.update_self] at hsecond
        exact absurd hfirst ((mine key hsecond).2 first hone)
      · rw [Function.update_of_ne htwo] at hsecond
        exact h.alone hfirst hsecond

/-- What a look gives a worker has waited, so nobody else has it in hand. -/
theorem Apart.found {hands : Nat → Hand} {q : WorkQueue WorkKey} (h : Apart hands q.processing)
    (valid : q.Valid) (number : Nat) :
    Apart (Function.update hands number (.ofLook (q.get number).1))
      (q.get number).2.processing := by
  obtain ⟨hlook, hget⟩ := q.get_cases number
  rw [hlook, hget.processing]
  obtain ⟨x, rest, hwaiting, hx, -, -, hprocessing, -⟩ | ⟨-, hx, hnothing⟩ := q.look_cases
  · rw [hx]
    have hfree : x ∉ q.processing :=
      valid.not_processing_of_waiting x (hwaiting ▸ List.mem_cons_self)
    refine h.update ?_ ?_
    · rintro key ⟨⟩
      refine ⟨(hprocessing x).2 (.inl rfl), fun other _ hother => ?_⟩
      exact hfree (h.inProcessing hother)
    · intro other key _ hother
      rw [hprocessing]
      exact .inr (h.inProcessing hother)
  · rw [hnothing.processing]
    refine h.update ?_ fun other key _ hother => h.inProcessing hother
    intro key hkey
    cases hfound : (q.look).1 with
    | item x => exact absurd hfound (hx x)
    | shutDown | nothing =>
      rw [hfound] at hkey
      cases hkey

/-- A worker that has reported its work as done has nothing in hand. -/
theorem Apart.reported {hands : Nat → Hand} {q : WorkQueue WorkKey} (h : Apart hands q.processing)
    {number : Nat} {key : WorkKey} (mine : (hands number).key? = some key) :
    Apart (Function.update hands number .looking) (q.done key).processing := by
  obtain ⟨-, -, hprocessing, -⟩ := q.done_cases key
  refine h.update nofun ?_
  intro other held hne hother
  refine (hprocessing held).2 ⟨h.inProcessing hother, ?_⟩
  rintro rfl
  exact hne (h.alone hother mine)

/-- The queue of a shift is in step and open, its delays are those that it began with, and no work is
in two hands. -/
structure Sound (shortest longest : Duration) (s : Shift) : Prop where
  valid : s.queue.Valid
  isOpen : s.queue.isShutDown = false
  base : s.queue.backoff.base = shortest
  limit : s.queue.backoff.limit = longest
  apart : Apart s.hands s.queue.processing

variable {shortest longest : Duration} {s s' : Shift}

theorem Sound.found (h : s.Sound shortest longest) (number : Nat) {p : WorkQueue WorkKey}
    (same : WorkQueue.SameItems s.queue p) (plans : s.queue.SamePlans p) :
    (s.found number (p.get number)).Sound shortest longest := by
  obtain ⟨hlook, hget⟩ := p.get_cases number
  have hplans := p.samePlans_get number
  have hbackoff : (p.get number).2.backoff = s.queue.backoff := hplans.backoff.trans plans.backoff
  have hvalid : p.Valid := h.valid.congr same
  refine ⟨hvalid.get number, ?_, ?_, ?_, ?_⟩
  · show (p.get number).2.isShutDown = false
    rw [hget.isShutDown]
    obtain ⟨x, rest, -, -, -, -, -, hshut⟩ | ⟨-, -, hnothing⟩ := p.look_cases
    · rw [hshut, same.isShutDown]
      exact h.isOpen
    · rw [hnothing.isShutDown, same.isShutDown]
      exact h.isOpen
  · exact (congrArg Backoff.base hbackoff).trans h.base
  · exact (congrArg Backoff.limit hbackoff).trans h.limit
  · have hapart : Apart s.hands p.processing := same.processing ▸ h.apart
    exact hapart.found hvalid number

/-- Whatever is added, by somebody outside or when a delay is over, a shift stays sound. -/
theorem Sound.added (h : s.Sound shortest longest) {p : WorkQueue WorkKey}
    (same : WorkQueue.SameItems s.queue p) (backoff : p.backoff = s.queue.backoff) (key : WorkKey) :
    Sound shortest longest { s with queue := p.add key } := by
  have hbackoff : (p.add key).backoff = s.queue.backoff :=
    (p.samePlans_add key).backoff.trans backoff
  refine ⟨(h.valid.congr same).add key, ?_, ?_, ?_, ?_⟩
  · exact (p.add_isShutDown key).trans (same.isShutDown.trans h.isOpen)
  · exact (congrArg Backoff.base hbackoff).trans h.base
  · exact (congrArg Backoff.limit hbackoff).trans h.limit
  · show Apart s.hands (p.add key).processing
    rw [p.add_processing, same.processing]
    exact h.apart

/-- Every step keeps a shift sound. -/
theorem Sound.step (h : s.Sound shortest longest) (hstep : Step s s') :
    s'.Sound shortest longest := by
  cases hstep with
  | adds key => exact h.added (.refl _) rfl key
  | looks number hand => exact h.found number (.refl _) ⟨rfl, rfl⟩
  | looksAgain number hand =>
    exact h.found (p := { s.queue with bell := s.queue.bell.rise number }) number
      ⟨rfl, rfl, rfl, rfl⟩ ⟨rfl, rfl⟩
  | @concludes number key hand result =>
    obtain ⟨hprocessing, hshut, hbase, hlimit⟩ := s.queue.afterPass_facts s.now key result
    refine ⟨h.valid.afterPass s.now key result, hshut.trans h.isOpen, hbase.trans h.base,
      hlimit.trans h.limit, ?_⟩
    show Apart (Function.update s.hands number (.reporting key))
      (s.queue.afterPass s.now key result).processing
    rw [hprocessing]
    have hmine : (s.hands number).key? = some key := by rw [hand]; rfl
    refine h.apart.update ?_ fun other key _ hother => h.apart.inProcessing hother
    rintro _ ⟨⟩
    exact ⟨h.apart.inProcessing hmine, fun other hne hother => hne (h.apart.alone hother hmine)⟩
  | @reports number key hand =>
    have hmine : (s.hands number).key? = some key := by rw [hand]; rfl
    obtain ⟨-, hshut, -⟩ := s.queue.done_cases key
    have hbackoff := (s.queue.samePlans_done key).backoff
    exact ⟨h.valid.done (h.apart.inProcessing hmine), hshut.trans h.isOpen,
      (congrArg Backoff.base hbackoff).trans h.base, (congrArg Backoff.limit hbackoff).trans h.limit,
      h.apart.reported hmine⟩
  | fires elapsed fired =>
    obtain ⟨y, others, -, rfl⟩ := WorkQueue.fire_cases fired
    exact h.added (p := { s.queue with delayed := others }) ⟨rfl, rfl, rfl, rfl⟩ rfl y
  | waits => exact ⟨h.valid, h.isOpen, h.base, h.limit, h.apart⟩

theorem sound_of_reachable (h : Reachable shortest longest s) : s.Sound shortest longest := by
  induction h with
  | start now =>
    exact ⟨WorkQueue.valid_create shortest longest, rfl, rfl, rfl, nofun, nofun⟩
  | step _ hstep ih => exact ih.step hstep

/-! ## Failures that are counted -/

/-- How often work has failed in a way that may pass, since it last ended in another way. -/
def retriesIn (key : WorkKey) : List Event → Nat
  | [] => 0
  | .handed _ _ :: earlier => retriesIn key earlier
  | .ended other result _ :: earlier =>
    if key = other then
      match result with
      | .ok () => 0
      | .error e => if e.isRetryable then retriesIn key earlier + 1 else 0
    else retriesIn key earlier

/-- The queue counts the failures of all work, as far as the counter gets. -/
def Counted (s : Shift) : Prop :=
  ∀ key, s.queue.failures key = min (retriesIn key s.events) Backoff.countLimit

/-- Looking is no end of a pass. -/
theorem retriesIn_handedBy (key : WorkKey) (number : Nat) (look : Look WorkKey)
    (events : List Event) :
    retriesIn key (handedBy number look ++ events) = retriesIn key events := by
  cases look <;> rfl

theorem Counted.congr (h : s.Counted) (hbackoff : s'.queue.backoff = s.queue.backoff)
    (hevents : ∀ key, retriesIn key s'.events = retriesIn key s.events) : s'.Counted := by
  intro key
  have hcount := h key
  unfold WorkQueue.failures at hcount ⊢
  rw [hbackoff, hevents, hcount]

theorem Counted.step (h : s.Counted) (hstep : Step s s') : s'.Counted := by
  cases hstep with
  | adds key => exact h.congr (s.queue.samePlans_add key).backoff fun _ => rfl
  | looks number =>
    exact h.congr (s.queue.samePlans_get number).backoff fun key => retriesIn_handedBy key _ _ _
  | looksAgain number =>
    exact h.congr (WorkQueue.samePlans_get _ number).backoff fun key => retriesIn_handedBy key _ _ _
  | @concludes number key hand result =>
    intro other
    refine (WorkQueue.failures_afterPass s.now key result other).trans ?_
    have hcount := h other
    by_cases hother : other = key
    · subst hother
      cases result with
      | ok => simp [retriesIn]
      | error e =>
        cases he : e.isRetryable with
        | true =>
          simp only [retriesIn, he, if_true, hcount]
          omega
        | false => simp [retriesIn, he]
    · simp only [retriesIn, if_neg hother]
      exact hcount
  | reports number => exact h.congr (s.queue.samePlans_done _).backoff fun _ => rfl
  | fires elapsed fired =>
    obtain ⟨y, others, -, rfl⟩ := WorkQueue.fire_cases fired
    exact h.congr (WorkQueue.samePlans_add { s.queue with delayed := others } y).backoff
      fun _ => rfl
  | waits => exact h

theorem counted_of_reachable (h : Reachable shortest longest s) : s.Counted := by
  induction h with
  | start now => exact fun _ => rfl
  | step _ hstep ih => exact ih.step hstep

/-! ## Failures that are owed -/

/-- How long work is put off that has failed some times before. -/
def delayAfter (shortest longest : Duration) (failures : Nat) : Duration :=
  ({ base := shortest, limit := longest } : Backoff WorkKey).delayAfter failures

/-- Work that has failed in a way that may pass, and has not been handed out since, is owed by the
moment that the failure and those before it ask for. -/
def Owing (shortest longest : Duration) (s : Shift) : Prop :=
  ∀ {after before : List Event} {key : WorkKey} {e : Error} {moment : Instant},
    s.events = after ++ .ended key (.error e) moment :: before → e.isRetryable = true →
    (∀ number, .handed number key ∉ after) →
    s.queue.Owes key (moment + (delayAfter shortest longest (retriesIn key before)).nanoseconds)

/-- What a worker is handed it was owed; all else is owed as before. -/
theorem Owing.found (h : s.Owing shortest longest) (number : Nat) {p : WorkQueue WorkKey}
    (same : WorkQueue.SameItems s.queue p) (plans : s.queue.SamePlans p) :
    (s.found number (p.get number)).Owing shortest longest := by
  intro after before key e moment hsplit he hnot
  -- The look itself was not the hand-out of this work, so what it was owed for is in the past.
  have hpast : ∃ past, s.events = past ++ .ended key (.error e) moment :: before ∧
      (∀ number, .handed number key ∉ past) ∧ (p.get number).1 ≠ .item key := by
    change handedBy number (p.get number).1 ++ s.events = _ at hsplit
    cases hlook : (p.get number).1 with
    | shutDown | nothing =>
      rw [hlook] at hsplit
      exact ⟨after, hsplit, hnot, nofun⟩
    | item x =>
      rw [hlook] at hsplit
      rcases List.cons_eq_append_iff.1 hsplit with ⟨-, hhead⟩ | ⟨past, rfl, hpast⟩
      · cases hhead
      · refine ⟨past, hpast, fun other hmem => hnot other (List.mem_cons_of_mem _ hmem), ?_⟩
        rintro ⟨⟩
        exact hnot number List.mem_cons_self
  obtain ⟨past, hpast, hnever, hother⟩ := hpast
  have howed := h hpast he hnever
  unfold WorkQueue.Owes at howed
  rw [← same.dirty, ← plans.delayed] at howed
  exact WorkQueue.Owes.get howed hother

theorem Owing.step (h : s.Owing shortest longest) (hsound : s.Sound shortest longest)
    (hcounted : s.Counted) (hstep : Step s s') : s'.Owing shortest longest := by
  cases hstep with
  | adds key =>
    intro after before other e moment hsplit he hnot
    exact (h hsplit he hnot).add hsound.isOpen key
  | looks number => exact h.found number (.refl _) ⟨rfl, rfl⟩
  | looksAgain number =>
    exact h.found (p := { s.queue with bell := s.queue.bell.rise number }) number
      ⟨rfl, rfl, rfl, rfl⟩ ⟨rfl, rfl⟩
  | @concludes number key hand result =>
    intro after before other e moment hsplit he hnot
    rcases List.cons_eq_append_iff.1 hsplit with ⟨-, hhead⟩ | ⟨past, rfl, hpast⟩
    · -- This is the failure: its delay follows from the failures that were counted before.
      cases hhead
      have hdelay : s.queue.backoff.delayAfter (s.queue.failures key) =
          delayAfter shortest longest (retriesIn key s.events) := by
        rw [hcounted key, Backoff.delayAfter_min]
        unfold delayAfter Backoff.delayAfter
        rw [hsound.base, hsound.limit]
      obtain ⟨-, -, -, hafter⟩ | ⟨hfinal, -⟩ := s.queue.afterPass_cases s.now key (.error e)
      · show (s.queue.afterPass s.now key (.error e)).Owes key _
        rw [hafter, WorkQueue.addRateLimited_eq, hdelay]
        exact WorkQueue.owes_addAfter (q := s.queue.blamed key) hsound.isOpen s.now key _
      · cases he.symm.trans (hfinal e rfl)
    · have howed := h hpast he fun number hmem => hnot number (List.mem_cons_of_mem _ hmem)
      exact howed.afterPass s.now key result hsound.isOpen
  | reports number =>
    intro after before other e moment hsplit he hnot
    exact (h hsplit he hnot).done _
  | fires elapsed fired =>
    intro after before other e moment hsplit he hnot
    exact (h hsplit he hnot).fire hsound.isOpen fired
  | waits => exact h

theorem owing_of_reachable (h : Reachable shortest longest s) : s.Owing shortest longest := by
  induction h with
  | start now =>
    intro after before key e moment hsplit
    cases after <;> cases hsplit
  | step hbefore hstep ih =>
    exact ih.step (sound_of_reachable hbefore) (counted_of_reachable hbefore) hstep

/-- No failure that may pass is forgotten, by a queue and what was written down about its work. -/
structure Remembers (shortest longest : Duration) (queue : WorkQueue WorkKey)
    (events : List Event) : Prop where
  /-- From the end of a pass with such a failure, until its work is handed out again, the work waits,
  is marked while somebody has it in hand, or is put off until exactly the delay is over that its
  failures ask for. -/
  owed : ∀ (after before : List Event) {key : WorkKey} {e : Error} {moment : Instant},
    events = after ++ .ended key (.error e) moment :: before → e.isRetryable = true →
    (∀ number, .handed number key ∉ after) →
    key ∈ queue.waiting ∨ (key ∈ queue.dirty ∧ key ∈ queue.processing) ∨
      ⟨moment + (delayAfter shortest longest (retriesIn key before)).nanoseconds, key⟩ ∈ queue.delayed
  /-- Such failures are counted from the last end of another kind on. -/
  counted : ∀ key, queue.failures key = min (retriesIn key events) Backoff.countLimit

theorem remembers_of_reachable (h : Reachable shortest longest s) :
    Remembers shortest longest s.queue s.events := by
  have hsound := sound_of_reachable h
  refine ⟨?_, counted_of_reachable h⟩
  intro after before key e moment hsplit he hnot
  exact (owing_of_reachable h hsplit he hnot).places hsound.valid hsound.isOpen

end Shift

/-- No failure that may pass is forgotten in a shift, whatever passes end with, or by workers that
make steps as they do, whatever goes on around them. And a pass ends with a failure for good only if
that is what the API server has answered with. -/
theorem failures_remembered (shortest longest : Duration) :
    (∀ shift, Shift.Reachable shortest longest shift →
        Shift.Remembers shortest longest shift.queue shift.events) ∧
      (∀ {σ : Type} (env : Surroundings (Operator σ)) (timeout : Duration) (staff : Staff σ),
        env.OnlyAdds → staff.Reachable env timeout shortest longest →
        Shift.Remembers shortest longest staff.operator.queue staff.events) ∧
      ∀ {σ : Type} (env : Surroundings σ) (timeout : Duration) (c : Caches) (key : WorkKey)
        (turns : List (Turn σ)) (e : Error),
        Stage.Path env timeout (.ofKey c key) turns (.finished (.error e)) →
        e.isRetryable = false → ∃ turn ∈ turns, turn.AnsweredWith env timeout e := by
  refine ⟨fun shift => Shift.remembers_of_reachable, ?_, ?_⟩
  · intro σ env timeout staff adds h
    obtain ⟨shift, hshift, hqueue, -, -, hevents⟩ := Staff.exists_shift adds h
    rw [← hqueue, ← hevents]
    exact Shift.remembers_of_reachable hshift
  · intro σ env timeout c key turns e hpass hfinal
    exact hpass.answered_of_failed hfinal

/-- Surroundings that refuse every request with the same failure. -/
def refusing (e : Error) : Surroundings Unit where
  createChild _ _ := (.error e, ())
  listChildren _ _ _ := (.error e, ())
  deleteChild _ _ := (.error e, ())
  replaceStatus _ _ := (.error e, ())
  publish _ _ := ()
  sees _ _ := false
  count _ _ := ()

/-- A store in memory that has one batch and one template, and fails once to create a child. -/
def failingStore (e : Error) : Simulation.World where
  outside := { faults := [(.create, e)] }
  caches := smallCaches
  queue := .create Backoff.usualBase Backoff.usualLimit

/-- Workers on that store: the batch is added, and the first worker takes it, makes a pass that fails
and reports it. -/
def failedOnce (e : Error) : Staff Simulation.Store :=
  let start : Staff Simulation.Store := { operator := failingStore e, now := 0 }
  let added := { start with operator := (failingStore e).enqueue [.batch ⟨"n", "b"⟩] }
  (List.range 4).foldl (fun staff _ => staff.afterStep Simulation.surroundings (.ofSeconds 10) 0)
    added

/-- A batch whose first pass has failed is put off for five seconds, in a shift as by workers on a
store in memory. A pass whose requests are refused for good ends with that refusal. -/
theorem failures_remembered_of_timeout :
    let key : WorkKey := .batch ⟨"n", "b"⟩
    let late : Error := .timeout "after 1s"
    let refusal : Error := .invalidObject "no namespace"
    (∃ shift : Shift, shift.Reachable Backoff.usualBase Backoff.usualLimit ∧
      shift.events = [.ended key (.error late) 0, .handed 0 key] ∧ shift.queue.failures key = 1 ∧
      ⟨5000000000, key⟩ ∈ shift.queue.delayed) ∧
    ((failedOnce late).Reachable Simulation.surroundings (.ofSeconds 10) Backoff.usualBase
        Backoff.usualLimit ∧
      (failedOnce late).operator.queue.failures key = 1 ∧
      ⟨5000000000, key⟩ ∈ (failedOnce late).operator.queue.delayed) ∧
    ∃ turn ∈ Stage.turnsAt (refusing refusal) (.ofSeconds 10) [0, 0] (.ofKey smallCaches key, ()),
      turn.AnsweredWith (refusing refusal) (.ofSeconds 10) refusal := by
  intro key late refusal
  obtain ⟨hshifts, hstaffs, horigin⟩ :=
    failures_remembered Backoff.usualBase Backoff.usualLimit
  have hdelay : 0 + (Shift.delayAfter Backoff.usualBase Backoff.usualLimit
      (Shift.retriesIn key [.handed 0 key])).nanoseconds = 5000000000 := by decide
  refine ⟨?_, ?_, ?_⟩
  · have hstart : Shift.Reachable Backoff.usualBase Backoff.usualLimit
        { queue := .create Backoff.usualBase Backoff.usualLimit, now := 0 } := .start 0
    have hadded := hstart.step (.adds key)
    have hlooked := hadded.step (.looks 0 rfl)
    have hfailed := hlooked.step (@Shift.Step.concludes _ 0 key rfl (.error late))
    have hdone := hfailed.step (.reports 0 rfl)
    have hremembers := hshifts _ hdone
    refine ⟨_, hdone, rfl, (hremembers.counted key).trans (by decide), ?_⟩
    rw [← hdelay]
    rcases hremembers.owed [] _ rfl rfl nofun with hwaiting | ⟨hdirty, -⟩ | hdelayed
    · exact absurd hwaiting (by decide)
    · exact absurd hdirty (by decide)
    · exact hdelayed
  · have hstart : Staff.Reachable Simulation.surroundings (.ofSeconds 10) Backoff.usualBase
        Backoff.usualLimit { operator := failingStore late, now := 0 } := .start _ rfl 0
    have hadded := hstart.elsewhere ((failingStore late).enqueue [key]) [key] rfl
    have hfailed : (failedOnce late).Reachable Simulation.surroundings (.ofSeconds 10)
        Backoff.usualBase Backoff.usualLimit := (((hadded.acts 0).acts 0).acts 0).acts 0
    have hevents : (failedOnce late).events = [.ended key (.error late) 0, .handed 0 key] := by
      decide +kernel
    have hremembers := hstaffs _ _ _ Simulation.onlyAdds hfailed
    refine ⟨hfailed, (hremembers.counted key).trans (by rw [hevents]; decide), ?_⟩
    rw [← hdelay]
    rcases hremembers.owed [] _ hevents rfl nofun with hwaiting | ⟨hdirty, -⟩ | hdelayed
    · exact absurd hwaiting (by decide +kernel)
    · exact absurd hdirty (by decide +kernel)
    · exact hdelayed
  · have hends : (Stage.after (refusing refusal) (.ofSeconds 10) [0, 0]
        (.ofKey smallCaches key, ())).1 = .finished (.error refusal) :=
      Stage.eq_finished_of_failure? (by decide +kernel) (by decide +kernel)
    have hpass := Stage.path_after (refusing refusal) (.ofSeconds 10) [0, 0]
      (.ofKey smallCaches key) ()
    rw [hends] at hpass
    exact horigin (refusing refusal) (.ofSeconds 10) smallCaches key _ refusal hpass rfl

end BatchOperator
