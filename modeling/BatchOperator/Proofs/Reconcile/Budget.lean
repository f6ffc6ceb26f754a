import BatchOperator.Proofs.Reconcile.Scene
import BatchOperator.Proofs.Reconcile.Store
import BatchOperator.Proofs.Simulation.Store

/-!
# The budget of a batch

While the passes of a batch, one after the other, start children, and while children end or are
removed at any time in between, the children that run are never more than the slots of the batch, or
than there were at the beginning (`Scene.unfinished_le_of_reachable`).

A pass reckons its free slots once, from what it saw when it began. What carries the proof is that
from then on the unfinished children and the starts that the pass still has before it are together
no more than they were then (`Stage.step_budget`): a start that succeeds moves one from the second
to the first, and everything else only makes one of the two smaller.
-/

set_option autoImplicit false

namespace BatchOperator

namespace Stage

/-- How many children a pass may still create. -/
def pendingStarts : Stage → Nat
  | .starting _ agenda => agenda.starts.length + 1
  | .pruning _ _ agenda | .announcing _ _ agenda | .adopting _ _ agenda
  | .confirming _ _ _ agenda => agenda.starts.length
  | .purging .. | .complaining .. | .closing .. | .reporting _ | .finished _ => 0

@[simp] theorem pendingStarts_proceed (agenda : Agenda) :
    agenda.proceed.pendingStarts = agenda.starts.length := by
  unfold Agenda.proceed
  split
  · rename_i h
    rw [h]
    rfl
  · rename_i h
    rw [h]
    split <;> rfl

@[simp] theorem pendingStarts_prune (agenda : Agenda) (extras : List ObjectKey) :
    (agenda.prune extras).pendingStarts = agenda.starts.length := by
  cases extras with
  | nil => exact pendingStarts_proceed agenda
  | cons => rfl

@[simp] theorem pendingStarts_purge (children : List ObjectKey) :
    (purge children).pendingStarts = 0 := by
  cases children <;> rfl

variable {σ : Type} {env : Surroundings σ} {view : σ → Caches}

/-- What a step does to the caches: it puts a child in and has one start less before it, or it
leaves the caches as they are, takes a child out or has a status written, and has no more starts
before it than it had. -/
theorem step_cases (mirrors : env.Mirrors view) (timeout : Duration) (now : Instant) (s : σ)
    (stage : Stage) :
    (∃ child change children, (view s).children.apply child = .ok (change, children) ∧
        view (stage.step env timeout now s).2 = (view s).withChildren children ∧
        (stage.step env timeout now s).1.pendingStarts + 1 = stage.pendingStarts) ∨
      ((view (stage.step env timeout now s).2 = view s ∨
          (∃ key, view (stage.step env timeout now s).2 = (view s).withoutChild key) ∨
          ∃ batches, view (stage.step env timeout now s).2 = (view s).withBatches batches ∧
            (view s).batches.SpecsKept batches) ∧
        (stage.step env timeout now s).1.pendingStarts ≤ stage.pendingStarts) := by
  cases stage with
  | purging next others =>
    rcases h : env.deleteChild next s with ⟨e | ⟨⟩, s'⟩
    · simp only [step, h]
      exact .inr ⟨.inl (mirrors.notDeleted h), Nat.le_refl _⟩
    · simp only [step, h, pendingStarts_purge]
      exact .inr ⟨.inr (.inl ⟨next, mirrors.deleted h⟩), Nat.zero_le _⟩
  | pruning next others agenda =>
    rcases h : env.deleteChild next s with ⟨e | ⟨⟩, s'⟩
    · simp only [step, h, pendingStarts_prune]
      exact .inr ⟨.inl (mirrors.notDeleted h), Nat.le_refl _⟩
    · simp only [step, h, pendingStarts_prune]
      exact .inr ⟨.inr (.inl ⟨next, mirrors.deleted h⟩), Nat.le_refl _⟩
  | starting template agenda =>
    rcases h : env.createChild (agenda.batch.childManifest template) s with ⟨e | child, s'⟩
    · simp only [step, h]
      split
      · exact .inr ⟨.inl (mirrors.notCreated h), Nat.le_succ _⟩
      · exact .inr ⟨.inl (mirrors.notCreated h), Nat.zero_le _⟩
    · obtain ⟨change, children, happly, hview⟩ := mirrors.created h
      simp only [step, h, mirrors.counted]
      exact .inl ⟨child, change, children, happly, hview, rfl⟩
  | announcing child template agenda =>
    exact .inr ⟨.inl (mirrors.published _ s), Nat.le_refl _⟩
  | complaining template refusal batch =>
    exact .inr ⟨.inl (mirrors.published _ s), Nat.le_refl _⟩
  | adopting template refusal agenda =>
    have hview := mirrors.listed agenda.batch.metadata.nsOrDefault
      (adoptionQuery agenda.batch template.name) s
    simp only [step]
    split
    · exact .inr ⟨.inl hview, Nat.zero_le _⟩
    · split
      · exact .inr ⟨.inl hview, Nat.le_refl _⟩
      · exact .inr ⟨.inl hview, Nat.zero_le _⟩
  | confirming child poll moment agenda =>
    rw [step_confirming]
    refine .inr ⟨.inl rfl, ?_⟩
    simp only [afterLook]
    split
    · exact Nat.le_refl _
    · split
      · rw [pendingStarts_proceed]
        exact Nat.le_refl _
      · exact Nat.zero_le _
      · exact Nat.le_refl _
  | closing verdict batch =>
    rcases h : env.replaceStatus (batch.withStatus verdict.status) s with ⟨e | answer, s'⟩
    · simp only [step, h]
      exact .inr ⟨.inl (mirrors.notWritten h), Nat.le_refl _⟩
    · obtain ⟨batches, hview, hspecs⟩ := mirrors.written h
      simp only [step, h, mirrors.counted]
      exact .inr ⟨.inr (.inr ⟨batches, hview, hspecs⟩), Nat.le_refl _⟩
  | reporting notification =>
    exact .inr ⟨.inl (mirrors.published notification s), Nat.le_refl _⟩
  | finished result => exact .inr ⟨.inl rfl, Nat.le_refl _⟩

/-- No step makes the unfinished children and the starts to come more than they were together. -/
theorem step_budget (mirrors : env.Mirrors view) (batch : ObjectKey) (timeout : Duration)
    (now : Instant) (s : σ) (stage : Stage) :
    (view (stage.step env timeout now s).2).unfinishedOf batch +
        (stage.step env timeout now s).1.pendingStarts ≤
      (view s).unfinishedOf batch + stage.pendingStarts := by
  obtain ⟨child, change, children, happly, hview, hstarts⟩ |
    ⟨hview | ⟨key, hview⟩ | ⟨batches, hview, -⟩, hstarts⟩ := step_cases mirrors timeout now s stage
  · have hle := Caches.unfinishedOf_apply_le batch happly
    rw [hview]
    omega
  · rw [hview]
    exact Nat.add_le_add_left hstarts _
  · rw [hview]
    exact Nat.add_le_add ((view s).unfinishedOf_withoutChild_le batch key) hstarts
  · rw [hview]
    exact Nat.add_le_add_left hstarts _

/-- No step gives a batch another specification. -/
theorem step_specs (mirrors : env.Mirrors view) (timeout : Duration) (now : Instant) (s : σ)
    (stage : Stage) :
    (view s).batches.SpecsKept (view (stage.step env timeout now s).2).batches := by
  obtain ⟨child, change, children, -, hview, -⟩ |
    ⟨hview | ⟨key, hview⟩ | ⟨batches, hview, hspecs⟩, -⟩ := step_cases mirrors timeout now s stage
  · rw [hview]
    exact .refl _
  · rw [hview]
    exact .refl _
  · rw [hview]
    exact .refl _
  · rw [hview]
    exact hspecs

end Stage

/-- A plan starts no more children than fit beside those that have not ended. -/
theorem Plan.starts_le (batch : JobBatch) (templates : List JobTemplate) (children : List Pod) :
    ((Pod.countUnfinished children + (make batch templates children).starts.length : Nat) : Int) ≤
      max batch.slots (Pod.countUnfinished children) := by
  have hlen : (make batch templates children).starts.length ≤
      (batch.slots - (Pod.countUnfinished children : Int)).toNat := by
    simp only [make, freeSlots, ChildIndex.unfinished_build]
    split
    · exact Nat.zero_le _
    · exact List.length_take_le _ _
  omega

/-- The children that have not ended and the starts of a pass that begins fit into the slots of the
batch, unless there are too many children already. -/
theorem Stage.pendingStarts_ofKey_le {c : Caches} {key : ObjectKey} {spec : BatchSpec}
    (hspec : ∀ batch, c.batches.get? key = some batch → batch.spec = spec) :
    ((c.unfinishedOf key + (ofKey c (.batch key)).pendingStarts : Nat) : Int) ≤
      max (max spec.maxConcurrent 1) (c.unfinishedOf key) := by
  -- A pass that starts nothing leaves the children that there are.
  have hnone : ∀ n : Nat, n = 0 → ((c.unfinishedOf key + n : Nat) : Int) ≤
      max (max spec.maxConcurrent 1) (c.unfinishedOf key) := by omega
  simp only [ofKey, Decision.make]
  split
  · exact hnone _ (pendingStarts_purge _)
  · rename_i batch hbatch
    split
    · exact hnone _ rfl
    · split
      · exact hnone _ rfl
      · rename_i selector hselector
        have hslots : batch.slots = max spec.maxConcurrent 1 := by
          rw [JobBatch.slots, hspec batch hbatch]
        rw [← hslots]
        simp only [ofDecision, pendingStarts_prune]
        exact Plan.starts_le batch _ _

namespace Scene

variable {σ : Type} {env : Surroundings σ} {view : σ → Caches} {timeout : Duration}
variable {key : ObjectKey} {spec : BatchSpec} {limit : Int} {scene scene' : Scene σ}

/-- How many children the pass under way may still create. -/
def pendingStarts (scene : Scene σ) : Nat := (scene.pass.map Stage.pendingStarts).getD 0

/-- The children that have not ended and the starts to come are within a limit, and the batch has
its specification. -/
structure Within (view : σ → Caches) (key : ObjectKey) (spec : BatchSpec) (limit : Int)
    (scene : Scene σ) : Prop where
  budget : (((view scene.outside).unfinishedOf key + scene.pendingStarts : Nat) : Int) ≤ limit
  batch : ∀ batch, (view scene.outside).batches.get? key = some batch → batch.spec = spec

/-- A step keeps within every limit that is no smaller than the slots of the batch. -/
theorem Within.step (mirrors : env.Mirrors view) (hlimit : max spec.maxConcurrent 1 ≤ limit)
    (h : Within view key spec limit scene) (hstep : Step env view timeout key spec scene scene') :
    Within view key spec limit scene' := by
  cases hstep with
  | begins s =>
    have hbegin := Stage.pendingStarts_ofKey_le h.batch
    have hnow := h.budget
    refine ⟨?_, h.batch⟩
    simp only [pendingStarts, Option.map_none, Option.map_some, Option.getD_none,
      Option.getD_some] at hnow hbegin ⊢
    omega
  | advances now s stage =>
    refine ⟨?_, ?_⟩
    · have hle := Stage.step_budget mirrors key timeout now s stage
      have hnow := h.budget
      simp only [pendingStarts, Option.map_some, Option.getD_some] at hnow ⊢
      omega
    · intro batch' hbatch'
      obtain ⟨batch, hbatch, hsame⟩ :=
        Stage.step_specs mirrors timeout now s stage key batch' hbatch'
      exact hsame.trans (h.batch batch hbatch)
  | leaves s stage =>
    refine ⟨?_, h.batch⟩
    have hnow := h.budget
    simp only [pendingStarts, Option.map_none, Option.getD_none] at hnow ⊢
    omega
  | elsewhere pass helse =>
    refine ⟨?_, helse.batch⟩
    have hle := helse.children.unfinishedOf_le
    have hnow := h.budget
    simp only [pendingStarts] at hnow ⊢
    omega

/-- In every run of passes for a batch, one after the other and with others ending and removing
children at any time, the unfinished children are never more than the slots of the batch, or than
there were at the start. -/
theorem unfinished_le_of_reachable (mirrors : env.Mirrors view) {start : σ} {batch : JobBatch}
    (hbatch : (view start).batches.get? key = some batch)
    (h : Reachable env view timeout key batch.spec ⟨start, none⟩ scene) :
    ((view scene.outside).unfinishedOf key : Int) ≤
      max batch.slots ((view start).unfinishedOf key) := by
  have hwithin : Within view key batch.spec (max batch.slots ((view start).unfinishedOf key))
      scene := by
    induction h with
    | start =>
      refine ⟨Int.le_max_right _ _, ?_⟩
      intro b hb
      rw [hbatch] at hb
      cases hb
      rfl
    | step h hstep ih => exact ih.step mirrors (Int.le_max_left _ _) hstep
  have hbudget := hwithin.budget
  omega

section Start

open Simulation

/-- An open store with one batch and one template. -/
def smallStore : { w : World // w.Open } :=
  ⟨{ outside := {}, caches := smallCaches, queue := .create (.ofMillis 5) (.ofSeconds 60) },
   ⟨rfl, Cache.keyed_singleton rfl true, Cache.keyed_empty false⟩⟩

/-- The first step of the first pass over the batch. -/
def firstStep : Stage × { w : World // w.Open } :=
  (Stage.ofKey smallStore.val.caches (.batch ⟨"n", "b"⟩)).step openSurroundings (.ofSeconds 10) 0
    smallStore

/-- The first step of a pass starts a child, which is within the slots of the batch. -/
theorem unfinished_le_of_firstStep :
    firstStep.2.val.caches.unfinishedOf ⟨"n", "b"⟩ = 1 ∧
      (firstStep.2.val.caches.unfinishedOf ⟨"n", "b"⟩ : Int) ≤
        max smallBatch.slots (smallStore.val.caches.unfinishedOf ⟨"n", "b"⟩) := by
  refine ⟨by decide +kernel, ?_⟩
  have hrun : Reachable openSurroundings (fun w => w.val.caches) (.ofSeconds 10) ⟨"n", "b"⟩
      smallBatch.spec ⟨smallStore, none⟩ ⟨firstStep.2, some firstStep.1⟩ :=
    .step (.step .start (.begins smallStore)) (.advances 0 smallStore _)
  exact unfinished_le_of_reachable mirrors rfl hrun

end Start

end Scene

end BatchOperator
