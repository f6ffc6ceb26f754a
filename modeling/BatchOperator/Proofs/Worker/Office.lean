import BatchOperator.Controller
import BatchOperator.Proofs.Reconcile.Notices
import BatchOperator.Proofs.Reconcile.Routes
import BatchOperator.Proofs.Worker.Retries

/-!
# From the cache of children to the notifications

An `Office` is an operator with its workers, the work that the router was told of and has still to
add, and a log of what became of the cache of children and of what was announced. The cache changes
at any time, the router adds what it was told of at any later time and in any order, and in between
the workers go on, delays are over, everything else changes, and the queue may be shut down.

Every worker makes passes that keep to their work (`Worker.Fits`): a pass over a batch announces no
end of a child, and a pass over a child announces its end or nothing, and cannot fail. A step of a
worker is described once by what it does to its own hand, to the marks of the queue and to the log
(`Office.Act`, `Office.Sound.acts`), and every step of an office keeps it sound
(`Office.Sound.step`).
-/

set_option autoImplicit false

namespace BatchOperator

/-- What passes ask for changes neither the caches nor the queue. -/
def Surroundings.LeavesAlone {σ : Type} (env : Surroundings (Operator σ)) : Prop :=
  ∀ (c : Caches) (q : WorkQueue WorkKey), env.Keeps fun o => o.caches = c ∧ o.queue = q

/-- Whoever talks to an API server touches nothing but what is outside. -/
theorem Api.leavesAlone_surroundings {σ : Type} (send : Api.Transport σ) (source : EventSource)
    (time : Timestamp) : (Api.surroundings send source time).LeavesAlone := by
  intro c q
  refine ⟨?_, ?_, ?_, ?_, ?_, ?_⟩
  · exact fun _ _ h => h
  · exact fun _ _ _ h => h
  · exact fun _ _ h => h
  · exact fun _ _ h => h
  · exact fun _ _ h => h
  · intro count o h
    cases count <;> exact h

/-! ## What happens -/

/-- What is written down in an office. -/
inductive Office.Entry where
  /-- The contents of the cache of children have changed. -/
  | cached (before after : Cache Pod)
  /-- A pass over a unit of work has announced something. -/
  | announced (work : WorkKey) (notification : Notification)

/-- What is to be written down about a step of a worker: what it announces. -/
def Worker.announced {σ : Type} (env : Surroundings (Operator σ)) (timeout : Duration)
    (now : Instant) (o : Operator σ) : Worker → List Office.Entry
  | .working key stage =>
    (Turn.published env timeout ⟨now, stage, o⟩).map fun n => .announced key n
  | .looking | .asleep | .stopped => []

/-- An operator with its workers, the work that the router has still to add, and what was written
down, the last entry first. -/
structure Office (σ : Type) where
  staff : Staff σ
  pending : List WorkKey := []
  log : List Office.Entry := []

namespace Office

variable {σ : Type}

def caches (s : Office σ) : Caches := s.staff.operator.caches

def queue (s : Office σ) : WorkQueue WorkKey := s.staff.operator.queue

/-- The office with another operator. -/
def withOperator (s : Office σ) (operator : Operator σ) : Office σ :=
  { s with staff := { s.staff with operator } }

/-- The office with another queue. -/
def withQueue (s : Office σ) (queue : WorkQueue WorkKey) : Office σ :=
  s.withOperator { s.staff.operator with queue }

/-- The cache of children has been changed, and the router is told of the changes. -/
def mutated (s : Office σ) (mutation : Cache.Mutation Pod) (changes : List (Change Pod)) :
    Office σ :=
  let children := (s.caches.children.mutate mutation).2
  { s.withOperator { s.staff.operator with caches := s.caches.withChildren children } with
    pending := s.pending ++ Routing.childWork changes
    log := .cached s.caches.children children :: s.log }

/-- A worker has made a step. -/
def acted (s : Office σ) (env : Surroundings (Operator σ)) (timeout : Duration) (number : Nat) :
    Office σ :=
  { s with
    staff := s.staff.afterStep env timeout number
    log := (s.staff.workers number).announced env timeout s.staff.now s.staff.operator ++ s.log }

/-- What can happen in an office. -/
inductive Step (s : Office σ) : Office σ → Prop where
  /-- The cache of children is changed; the changes are reported in any order. -/
  | mutates (mutation : Cache.Mutation Pod) {changes : List (Change Pod)}
      (order : changes.Perm (s.caches.children.mutate mutation).1) :
      Step s (s.mutated mutation changes)
  /-- Something else changes, and batches become work. -/
  | elsewhere (operator : Operator σ) (children : operator.caches.children = s.caches.children)
      (queue : operator.queue = s.queue) (batches : List ObjectKey) :
      Step s { s.withOperator operator with pending := s.pending ++ batches.map .batch }
  /-- The router adds something that it was told of. -/
  | routes {before after : List WorkKey} {work : WorkKey}
      (told : s.pending = before ++ work :: after) :
      Step s { s.withQueue (s.queue.add work) with pending := before ++ after }
  | acts (env : Surroundings (Operator σ)) (alone : env.LeavesAlone) (timeout : Duration)
      (number : Nat) : Step s (s.acted env timeout number)
  /-- A delay that is over adds its unit of work. -/
  | fires {moment : Instant} (elapsed : moment ≤ s.staff.now) {queue : WorkQueue WorkKey}
      (fired : s.queue.fire moment = some queue) : Step s (s.withQueue queue)
  | waits {later : Instant} (h : s.staff.now ≤ later) :
      Step s { s with staff := { s.staff with now := later } }
  | shutsDown : Step s (s.withQueue s.queue.shutDown)

/-- What an office can come to that begins with an empty queue. -/
inductive Reachable (shortest longest : Duration) : Office σ → Prop where
  | start (operator : Operator σ) (empty : operator.queue = .create shortest longest)
      (keyed : operator.caches.children.Keyed) (now : Instant) :
      Reachable shortest longest { staff := { operator, now } }
  | step {s s' : Office σ} (h : Reachable shortest longest s) (hstep : Step s s') :
      Reachable shortest longest s'

end Office

/-! ## What workers are at -/

/-- A pass over the unit of work announces that a child has ended. -/
def WorkKey.Announces (work : WorkKey) (n : Notification) : Prop :=
  ∃ key batch child, work = .childStatus key ∧ Resource.key child = .ok key ∧
    Stage.endNotice batch child = some n

namespace Worker

/-- A worker is at a stage that a pass over its work can come to. A pass over a child has something
to announce or is over. -/
def Fits : Worker → Prop
  | .working (.batch _) stage => stage.IsReserved
  | .working (.childStatus key) stage =>
    stage = .finished (.ok ()) ∨
      ∃ n, stage = .reporting n ∧ WorkKey.Announces (.childStatus key) n
  | .looking | .asleep | .stopped => True

/-- A pass begins at such a stage. -/
theorem fits_ofKey {c : Caches} (keyed : c.children.Keyed) (work : WorkKey) :
    (working work (.ofKey c work)).Fits := by
  cases work with
  | batch key => exact Stage.isReserved_ofKey c key
  | childStatus key =>
    simp only [Stage.ofKey]
    cases hnotice : Stage.notice? c key with
    | none => exact .inl rfl
    | some n =>
      obtain ⟨child, batch, hchild, hend⟩ := Stage.notice?_facts hnotice
      exact .inr ⟨n, rfl, key, batch, child, rfl, keyed key child hchild, hend⟩

variable {work : WorkKey} {stage : Stage}

section Next

variable {σ : Type} (env : Surroundings σ) (timeout : Duration) (now : Instant) (s : σ)

/-- A pass over a child is over when it has announced what it had to announce. -/
theorem Fits.step_childStatus {key : ObjectKey} (h : (working (.childStatus key) stage).Fits) :
    (stage.step env timeout now s).1 = .finished (.ok ()) := by
  rcases h with rfl | ⟨n, rfl, -⟩ <;> rfl

/-- A pass comes to such stages. -/
theorem Fits.next (h : (working work stage).Fits) :
    (working work (stage.step env timeout now s).1).Fits := by
  cases work with
  | batch key => exact Stage.IsReserved.next h now s
  | childStatus key => exact .inl (h.step_childStatus env timeout now s)

end Next

/-- What is published as the end of a child is published by a pass over the child. -/
theorem Fits.announces (h : (working work stage).Fits) {n : Notification}
    (hn : stage.published? = some n) (htells : n.tellsEnd = true) : work.Announces n := by
  cases work with
  | batch key => cases htells.symm.trans (Stage.IsReserved.tellsEnd h hn)
  | childStatus key =>
    rcases h with rfl | ⟨n', rfl, hannounces⟩
    · cases hn
    · cases hn
      exact hannounces

/-- Only a pass over a batch fails. -/
theorem Fits.of_error {e : Error} (h : (working work (.finished (.error e))).Fits) :
    ∃ batch, work = .batch batch := by
  cases work with
  | batch batch => exact ⟨batch, rfl⟩
  | childStatus key =>
    rcases h with h | ⟨n, h, -⟩
    · cases h
    · cases h

end Worker

namespace Office

variable {σ : Type} {s s' : Office σ}

/-- The caches and the queue are in step with the workers, and passes keep to their work. -/
structure Sound (s : Office σ) : Prop where
  keyed : s.caches.children.Keyed
  valid : s.queue.Valid
  apart : Shift.Apart (Hand.ofWorker ∘ s.staff.workers) s.queue.processing
  fits : ∀ number, (s.staff.workers number).Fits
  /-- Work that is put off is work on batches. -/
  late : ∀ d ∈ s.queue.delayed, ∃ batch, d.item = .batch batch
  announced : ∀ work n, .announced work n ∈ s.log → n.tellsEnd = true → work.Announces n

/-- What a step of a worker comes to. -/
inductive Act (s s' : Office σ) (number : Nat) : Prop where
  /-- A worker that had nothing in hand begins a pass over work that was marked. -/
  | takes (work : WorkKey) (free : (Hand.ofWorker (s.staff.workers number)).key? = none)
      (next : s'.staff.workers =
        Function.update s.staff.workers number (.working work (.ofKey s.caches work)))
      (marked : work ∈ s.queue.dirty)
      (dirty : ∀ other, other ∈ s'.queue.dirty ↔ other ∈ s.queue.dirty ∧ other ≠ work)
      (log : s'.log = s.log)
  /-- It finds nothing. -/
  | rests (free : (Hand.ofWorker (s.staff.workers number)).key? = none) (worker : Worker)
      (resting : (Hand.ofWorker worker).key? = none)
      (next : s'.staff.workers = Function.update s.staff.workers number worker)
      (dirty : s'.queue.dirty = s.queue.dirty) (log : s'.log = s.log)
  /-- A pass goes on; over a child it is then at its end. -/
  | goesOn (work : WorkKey) (stage last : Stage)
      (hand : s.staff.workers number = .working work stage)
      (last_childStatus : ∀ key, work = .childStatus key → last = .finished (.ok ()))
      (next : s'.staff.workers = Function.update s.staff.workers number (.working work last))
      (dirty : s'.queue.dirty = s.queue.dirty)
      (log : s'.log = stage.published?.toList.map (.announced work) ++ s.log)
  /-- A pass is over. -/
  | ends (work : WorkKey) (result : Except Error Unit)
      (hand : s.staff.workers number = .working work (.finished result))
      (next : s'.staff.workers = Function.update s.staff.workers number .looking)
      (dirty : ∀ other, other ≠ work ∨ result = .ok () →
        (other ∈ s'.queue.dirty ↔ other ∈ s.queue.dirty))
      (log : s'.log = s.log)

/-- What a step of a worker does, and what it leaves as it is. -/
structure Acts (s s' : Office σ) (number : Nat) : Prop where
  sound : s'.Sound
  act : Act s s' number
  caches : s'.caches = s.caches
  pending : s'.pending = s.pending
  isShutDown : s'.queue.isShutDown = s.queue.isShutDown

section Acted

variable {env : Surroundings (Operator σ)} {timeout : Duration} {number : Nat}

/-- A worker that makes a pass has its work in hand. -/
theorem key?_of_working {work : WorkKey} {stage : Stage}
    (hand : s.staff.workers number = .working work stage) :
    ((Hand.ofWorker ∘ s.staff.workers) number).key? = some work := by
  rw [Function.comp_apply, hand]
  rfl

/-- The workers and the operator after a step of a worker. -/
theorem acted_facts {after : Worker × Operator σ}
    (step : (s.staff.workers number).step env timeout number s.staff.now s.staff.operator = after) :
    (s.acted env timeout number).staff.workers =
        Function.update s.staff.workers number after.1 ∧
      (s.acted env timeout number).staff.operator = after.2 := by
  subst step
  exact ⟨rfl, rfl⟩

/-- The log after a step of a worker. -/
theorem log_acted {entries : List Entry}
    (announced : (s.staff.workers number).announced env timeout s.staff.now s.staff.operator =
      entries) : (s.acted env timeout number).log = entries ++ s.log :=
  congrArg (· ++ s.log) announced

/-- The hands after a step of a worker. -/
theorem hands_acted (s : Office σ) (env : Surroundings (Operator σ)) (timeout : Duration)
    (number : Nat) :
    Hand.ofWorker ∘ (s.acted env timeout number).staff.workers =
      Function.update (Hand.ofWorker ∘ s.staff.workers) number (.ofWorker
        ((s.staff.workers number).step env timeout number s.staff.now s.staff.operator).1) :=
  Function.comp_update _ _ _ _

/-- After a step of a worker whose pass keeps to its work all passes do. -/
theorem Sound.fits_acted (h : s.Sound) (env : Surroundings (Operator σ)) (timeout : Duration)
    (number : Nat)
    (mine :
      ((s.staff.workers number).step env timeout number s.staff.now s.staff.operator).1.Fits) :
    ∀ other, ((s.acted env timeout number).staff.workers other).Fits := by
  intro other
  show (Function.update s.staff.workers number _ other).Fits
  by_cases hother : other = number
  · subst hother
    rw [Function.update_self]
    exact mine
  · rw [Function.update_of_ne hother]
    exact h.fits other

/-- What has to be shown of a step of a worker that leaves the caches as they are. -/
theorem Sound.acted (h : s.Sound) (caches : (s.acted env timeout number).caches = s.caches)
    (valid : (s.acted env timeout number).queue.Valid)
    (apart : Shift.Apart (Hand.ofWorker ∘ (s.acted env timeout number).staff.workers)
      (s.acted env timeout number).queue.processing)
    (mine : ((s.staff.workers number).step env timeout number s.staff.now s.staff.operator).1.Fits)
    (late : ∀ d ∈ (s.acted env timeout number).queue.delayed, ∃ batch, d.item = .batch batch)
    (announced : ∀ entry ∈ (s.staff.workers number).announced env timeout s.staff.now
      s.staff.operator, ∀ work n, entry = .announced work n → n.tellsEnd = true →
        work.Announces n) :
    (s.acted env timeout number).Sound := by
  refine ⟨?_, valid, apart, h.fits_acted env timeout number mine, late, ?_⟩
  · rw [caches]
    exact h.keyed
  · intro work n hmem htells
    rcases List.mem_append.1 hmem with hnew | hold
    · exact announced _ hnew work n rfl htells
    · exact h.announced work n hold htells

/-- A worker that has nothing in hand looks at the queue. -/
theorem Sound.looks (h : s.Sound) {p : WorkQueue WorkKey} (same : WorkQueue.SameItems s.queue p)
    (delayed : p.delayed = s.queue.delayed)
    (free : (Hand.ofWorker (s.staff.workers number)).key? = none)
    (step : (s.staff.workers number).step env timeout number s.staff.now s.staff.operator =
      Worker.afterLook s.staff.operator (p.get number))
    (silent : (s.staff.workers number).announced env timeout s.staff.now s.staff.operator = []) :
    Acts s (s.acted env timeout number) number := by
  have hvalid : p.Valid := h.valid.congr same
  obtain ⟨hhand, hafter, -⟩ :=
    Worker.afterLook_facts number s.staff.now s.staff.operator (p.get number)
  obtain ⟨hworkers, hoperator⟩ := acted_facts step
  have hlog : (s.acted env timeout number).log = s.log := log_acted silent
  have hqueue : (s.acted env timeout number).queue = (p.get number).2 :=
    (congrArg Operator.queue hoperator).trans hafter
  have hcaches : (s.acted env timeout number).caches = s.caches := by
    refine (congrArg Operator.caches hoperator).trans ?_
    rcases p.get number with ⟨work | _ | _, q⟩ <;> rfl
  have hsound : (s.acted env timeout number).Sound := by
    refine h.acted hcaches ?_ ?_ ?_ ?_ ?_
    · rw [hqueue]
      exact hvalid.get number
    · have hbefore : Shift.Apart (Hand.ofWorker ∘ s.staff.workers) p.processing :=
        same.processing ▸ h.apart
      rw [hands_acted, step, hhand, hqueue]
      exact hbefore.found hvalid number
    · rw [step]
      -- A pass begins with the caches as they are now.
      rcases p.get number with ⟨work | _ | _, q⟩
      · exact Worker.fits_ofKey h.keyed work
      · trivial
      · trivial
    · rw [hqueue, (p.samePlans_get number).delayed, delayed]
      exact h.late
    · rw [silent]
      exact fun _ hmem => absurd hmem List.not_mem_nil
  obtain ⟨hshut, hmarks⟩ := p.get_marks number
  refine ⟨hsound, ?_, hcaches, rfl, by rw [hqueue, hshut, same.isShutDown]⟩
  rcases hmarks with ⟨work, hfound, hwaiting, hdirty⟩ | ⟨hnone, hdirty⟩
  · refine .takes work free ?_ ?_ ?_ hlog
    · rw [hworkers]
      rcases hp : p.get number with ⟨look, q⟩
      rw [hp] at hfound
      cases hfound
      rfl
    · rw [← same.dirty]
      exact hvalid.dirty_of_waiting work hwaiting
    · intro other
      rw [hqueue, hdirty, same.dirty]
  · refine .rests free _ ?_ hworkers ?_ hlog
    · rw [hhand]
      cases hfound : (p.get number).1 with
      | item work => exact absurd hfound (hnone work)
      | shutDown | nothing => rfl
    · rw [hqueue, hdirty, same.dirty]

/-- What a pass that goes on publishes is written down with its work. -/
theorem announced_working (env : Surroundings (Operator σ)) (timeout : Duration) (now : Instant)
    (o : Operator σ) (work : WorkKey) (stage : Stage) :
    (Worker.working work stage).announced env timeout now o =
      stage.published?.toList.map (.announced work) := by
  rw [Worker.announced, Turn.published_eq]

/-- A pass that has not ended goes on. -/
theorem Sound.goesOn (h : s.Sound) (alone : env.LeavesAlone) {work : WorkKey} {stage : Stage}
    (hand : s.staff.workers number = .working work stage)
    (unfinished : ∀ result, stage ≠ .finished result) :
    Acts s (s.acted env timeout number) number := by
  have hstep : (s.staff.workers number).step env timeout number s.staff.now s.staff.operator =
      (.working work (stage.step env timeout s.staff.now s.staff.operator).1,
        (stage.step env timeout s.staff.now s.staff.operator).2) := by
    rw [hand]
    exact (Worker.step_working env timeout number s.staff.now s.staff.operator work unfinished).1
  obtain ⟨hworkers, hoperator⟩ := acted_facts hstep
  have hlog : (s.acted env timeout number).log =
      stage.published?.toList.map (.announced work) ++ s.log :=
    log_acted (hand ▸ announced_working env timeout s.staff.now s.staff.operator work stage)
  obtain ⟨hcaches, hqueue⟩ : (s.acted env timeout number).caches = s.caches ∧
      (s.acted env timeout number).queue = s.queue := by
    rw [caches, queue, hoperator]
    exact stage.step_keeps (alone s.caches s.queue) timeout s.staff.now ⟨rfl, rfl⟩
  have hmine : (Worker.working work stage).Fits := hand ▸ h.fits number
  have hlast : ∀ key, work = .childStatus key →
      (stage.step env timeout s.staff.now s.staff.operator).1 = .finished (.ok ()) := by
    rintro key rfl
    exact hmine.step_childStatus env timeout s.staff.now s.staff.operator
  -- The worker still has the same work in hand.
  have hsame : Hand.ofWorker ∘ (s.acted env timeout number).staff.workers =
      Hand.ofWorker ∘ s.staff.workers := by
    rw [hands_acted, hstep]
    have hheld : Hand.ofWorker (.working work (stage.step env timeout s.staff.now
        s.staff.operator).1) = (Hand.ofWorker ∘ s.staff.workers) number := by
      rw [Function.comp_apply, hand]
      rfl
    rw [hheld, Function.update_eq_self]
  have hsound : (s.acted env timeout number).Sound := by
    refine h.acted hcaches (hqueue ▸ h.valid) ?_ ?_ (hqueue ▸ h.late) ?_
    · rw [hsame, hqueue]
      exact h.apart
    · rw [hstep]
      exact hmine.next env timeout s.staff.now s.staff.operator
    · rw [hand, announced_working]
      rintro entry hentry work' n rfl htells
      obtain ⟨published, hpublished, ⟨⟩⟩ := List.mem_map.1 hentry
      exact hmine.announces (Option.mem_toList.1 hpublished) htells
  exact ⟨hsound, .goesOn work stage _ hand hlast hworkers (by rw [hqueue]) hlog, hcaches, rfl,
    by rw [hqueue]⟩

/-- A pass that has ended is concluded. -/
theorem Sound.concludes (h : s.Sound) {work : WorkKey} {result : Except Error Unit}
    (hand : s.staff.workers number = .working work (.finished result)) :
    Acts s (s.acted env timeout number) number := by
  have hstep : (s.staff.workers number).step env timeout number s.staff.now s.staff.operator =
      (.looking, s.staff.operator.conclude s.staff.now work result) := by
    rw [hand]
    rfl
  obtain ⟨hworkers, hoperator⟩ := acted_facts hstep
  have hlog : (s.acted env timeout number).log = s.log :=
    log_acted (hand ▸ announced_working env timeout s.staff.now s.staff.operator work _)
  have hcaches : (s.acted env timeout number).caches = s.caches := by
    rw [caches, hoperator]
    rfl
  have hqueue : (s.acted env timeout number).queue =
      (s.queue.afterPass s.staff.now work result).done work :=
    (congrArg Operator.queue hoperator).trans
      (s.staff.operator.queue_conclude s.staff.now work result)
  obtain ⟨hprocessing, hshut, -⟩ := s.queue.afterPass_facts s.staff.now work result
  obtain ⟨hdirty, hshut', -⟩ := (s.queue.afterPass s.staff.now work result).done_cases work
  have hheld : ((Hand.ofWorker ∘ s.staff.workers) number).key? = some work := key?_of_working hand
  -- Dealing with the result leaves the work in processing; only then it is reported as done.
  have hapart : Shift.Apart (Hand.ofWorker ∘ s.staff.workers)
      (s.queue.afterPass s.staff.now work result).processing := hprocessing ▸ h.apart
  have hmine : (Worker.working work (.finished result)).Fits := hand ▸ h.fits number
  have hsound : (s.acted env timeout number).Sound := by
    refine h.acted hcaches ?_ ?_ (by rw [hstep]; trivial) ?_ ?_
    · rw [hqueue]
      exact (h.valid.afterPass s.staff.now work result).done (hapart.inProcessing hheld)
    · rw [hands_acted, hstep, hqueue]
      exact hapart.reported hheld
    · intro d hd
      rw [hqueue, (WorkQueue.samePlans_done _ work).delayed] at hd
      rcases WorkQueue.mem_delayed_afterPass s.staff.now work result hd with hold | ⟨hitem, e, rfl⟩
      · exact h.late d hold
      · -- Only a pass over a batch fails.
        obtain ⟨batch, rfl⟩ := hmine.of_error
        exact ⟨batch, hitem⟩
    · rw [hand, announced_working]
      exact fun _ hmem => absurd hmem List.not_mem_nil
  refine ⟨hsound, .ends work result hand hworkers ?_ hlog, hcaches, rfl,
    by rw [hqueue, hshut', hshut]⟩
  intro other hother
  rw [hqueue, hdirty]
  exact WorkQueue.mem_dirty_afterPass s.staff.now work result hother

/-- A worker that has been sent away does nothing any more. -/
theorem Sound.stays (h : s.Sound) (hand : s.staff.workers number = .stopped) :
    Acts s (s.acted env timeout number) number := by
  have hstep : (s.staff.workers number).step env timeout number s.staff.now s.staff.operator =
      (.stopped, s.staff.operator) := by
    rw [hand]
    rfl
  obtain ⟨hworkers, hoperator⟩ := acted_facts hstep
  have hsilent :
      (s.staff.workers number).announced env timeout s.staff.now s.staff.operator = [] := by
    rw [hand]
    rfl
  have hlog : (s.acted env timeout number).log = s.log := log_acted hsilent
  have hsame : (s.acted env timeout number).staff.workers = s.staff.workers := by
    rw [hworkers, ← hand, Function.update_eq_self]
  have hqueue : (s.acted env timeout number).queue = s.queue := congrArg Operator.queue hoperator
  have hcaches : (s.acted env timeout number).caches = s.caches :=
    congrArg Operator.caches hoperator
  have hsound : (s.acted env timeout number).Sound := by
    refine h.acted hcaches (hqueue ▸ h.valid) ?_ (by rw [hstep]; trivial) (hqueue ▸ h.late) ?_
    · rw [hsame, hqueue]
      exact h.apart
    · rw [hsilent]
      exact fun _ hmem => absurd hmem List.not_mem_nil
  refine ⟨hsound, .rests ?_ .stopped rfl hworkers (by rw [hqueue]) hlog, hcaches, rfl,
    by rw [hqueue]⟩
  rw [hand]
  rfl

/-- Every step of a worker does one of four things, and keeps the office sound. -/
theorem Sound.acts (h : s.Sound) (alone : env.LeavesAlone) (timeout : Duration) (number : Nat) :
    Acts s (s.acted env timeout number) number := by
  cases hand : s.staff.workers number with
  | looking =>
    refine h.looks (.refl s.queue) rfl ?_ ?_ ?_ <;> rw [hand] <;> rfl
  | asleep =>
    -- It looks at the queue after it has got up, which changes the bell only.
    refine h.looks (p := { s.queue with bell := s.queue.bell.rise number }) ⟨rfl, rfl, rfl, rfl⟩ rfl
      ?_ ?_ ?_ <;> rw [hand] <;> rfl
  | working work stage =>
    by_cases hfinished : ∃ result, stage = .finished result
    · obtain ⟨result, rfl⟩ := hfinished
      exact h.concludes hand
    · exact h.goesOn alone hand fun result hstage => hfinished ⟨result, hstage⟩
  | stopped => exact h.stays hand

end Acted

/-! ## Soundness -/

/-- Another queue with the same work in processing keeps an office sound. -/
theorem Sound.withQueue (h : s.Sound) {q : WorkQueue WorkKey} (valid : q.Valid)
    (processing : q.processing = s.queue.processing)
    (late : ∀ d ∈ q.delayed, ∃ batch, d.item = .batch batch) : (s.withQueue q).Sound := by
  refine ⟨h.keyed, valid, ?_, h.fits, late, h.announced⟩
  show Shift.Apart (Hand.ofWorker ∘ s.staff.workers) q.processing
  rw [processing]
  exact h.apart

/-- What a delay that is over does to the queue of an office. -/
theorem Sound.of_fired (h : s.Sound) {moment : Instant} {q : WorkQueue WorkKey}
    (fired : s.queue.fire moment = some q) :
    ∃ batch others, q = { s.queue with delayed := others }.add (.batch batch) ∧
      others.Sublist s.queue.delayed := by
  obtain ⟨work, others, hdue, rfl⟩ := WorkQueue.fire_cases fired
  obtain ⟨hsub, d, hd, rfl⟩ := WorkQueue.of_takeDue hdue
  obtain ⟨batch, hbatch⟩ := h.late d hd
  exact ⟨batch, others, by rw [hbatch], hsub⟩

/-- Every step keeps an office sound. -/
theorem Sound.step (h : s.Sound) (hstep : Step s s') : s'.Sound := by
  cases hstep with
  | mutates mutation order =>
    refine ⟨h.keyed.mutate mutation, h.valid, h.apart, h.fits, h.late, ?_⟩
    -- A change of the cache is no announcement.
    intro work n hmem htells
    rcases List.mem_cons.1 hmem with hnew | hold
    · cases hnew
    · exact h.announced work n hold htells
  | elsewhere operator children queue batches =>
    refine ⟨?_, ?_, ?_, h.fits, ?_, h.announced⟩
    · show operator.caches.children.Keyed
      rw [children]
      exact h.keyed
    · show operator.queue.Valid
      rw [queue]
      exact h.valid
    · show Shift.Apart (Hand.ofWorker ∘ s.staff.workers) operator.queue.processing
      rw [queue]
      exact h.apart
    · show ∀ d ∈ operator.queue.delayed, _
      rw [queue]
      exact h.late
  | @routes before after work told =>
    have hlate : ∀ d ∈ (s.queue.add work).delayed, ∃ batch, d.item = .batch batch := by
      rw [(s.queue.samePlans_add work).delayed]
      exact h.late
    have hsound := h.withQueue (h.valid.add work) (s.queue.add_processing work) hlate
    exact ⟨hsound.keyed, hsound.valid, hsound.apart, hsound.fits, hsound.late, hsound.announced⟩
  | acts env alone timeout number => exact (h.acts alone timeout number).sound
  | fires elapsed fired =>
    obtain ⟨batch, others, rfl, hsub⟩ := h.of_fired fired
    have hsame : WorkQueue.SameItems s.queue { s.queue with delayed := others } :=
      ⟨rfl, rfl, rfl, rfl⟩
    refine h.withQueue ((h.valid.congr hsame).add _) (WorkQueue.add_processing _ _) ?_
    intro d hd
    rw [(WorkQueue.samePlans_add _ _).delayed] at hd
    exact h.late d (hsub.subset hd)
  | waits => exact ⟨h.keyed, h.valid, h.apart, h.fits, h.late, h.announced⟩
  | shutsDown => exact h.withQueue h.valid.shutDown rfl h.late

variable {shortest longest : Duration}

theorem sound_of_reachable (h : Reachable shortest longest s) : s.Sound := by
  induction h with
  | start operator empty keyed now =>
    refine ⟨keyed, ?_, ⟨nofun, nofun⟩, fun _ => trivial, ?_,
      fun _ _ hmem => absurd hmem List.not_mem_nil⟩
    · show operator.queue.Valid
      rw [empty]
      exact WorkQueue.valid_create shortest longest
    · show ∀ d ∈ operator.queue.delayed, _
      rw [empty]
      exact nofun
  | step _ hstep ih => exact ih.step hstep

/-! ## Changes that are passed on at once -/

/-- The router can add all that it was told of. -/
theorem Reachable.routesAll (h : Reachable shortest longest s) :
    Reachable shortest longest
      { s.withOperator (s.staff.operator.enqueue s.pending) with pending := [] } := by
  obtain ⟨staff, pending, log⟩ := s
  induction pending generalizing staff with
  | nil => exact h
  | cons work rest ih => exact ih _ (h.step (@Step.routes _ _ [] rest work rfl))

/-- An operator that changes the cache of children and adds the work that follows is one of an
office. -/
theorem Reachable.mutateChildren (h : Reachable shortest longest s) (told : s.pending = [])
    (mutation : Cache.Mutation Pod) :
    Reachable shortest longest { s.withOperator (s.staff.operator.mutateChildren mutation) with
      log := .cached s.caches.children (s.caches.children.mutate mutation).2 :: s.log } := by
  have hrouted := (h.step (.mutates mutation (.refl _))).routesAll
  obtain ⟨staff, pending, log⟩ := s
  obtain rfl : pending = [] := told
  exact hrouted

end Office

end BatchOperator
