import BatchOperator.Proofs.Reconcile.Plan
import BatchOperator.Proofs.Reconcile.Surroundings

/-!
# Rounds of passes and moves

A round is a pass over a batch that goes on to its end, and a move: some children of the batch end,
at least one of them, while no child comes back to life and none comes or goes (`Caches.Moves`).
`Stage.Ends` says how a pass ends, whatever the times of its steps, and `Rounds` where the rounds
lead to.
-/

set_option autoImplicit false

namespace BatchOperator

variable {σ : Type}

/-- A child goes on: it keeps its labels and owners, and has not come back to life. -/
structure Pod.GoesOn (child child' : Pod) : Prop where
  labels : child'.metadata.labels = child.metadata.labels
  owners : child'.metadata.ownerReferences = child.metadata.ownerReferences
  stays : child.phase.isTerminal = true → child'.phase.isTerminal = true

/-- At least one child of the batch of a key ends. Others may go on as well, but none comes and none
goes; the batch and all templates stay as they are. -/
structure Caches.Moves (key : ObjectKey) (c c' : Caches) : Prop where
  batch : c'.batches.get? key = c.batches.get? key
  templates : c'.templates = c.templates
  onwards : ∀ k child, c.HasChild key k child →
    ∃ child', c'.children.get? k = some child' ∧ child.GoesOn child'
  backwards : ∀ k child', c'.HasChild key k child' →
    ∃ child, c.children.get? k = some child ∧ child.GoesOn child'
  ends : ∃ k child child', c.HasChild key k child ∧ child.phase.isTerminal = false ∧
    c'.children.get? k = some child' ∧ child'.phase.isTerminal = true

/-- A single child that ends is a move. -/
theorem Caches.moves_of_ends {c : Caches} {key k : ObjectKey} {child child' : Pod}
    (hchild : c.HasChild key k child) (hruns : child.phase.isTerminal = false)
    (hgoes : child.GoesOn child') (hended : child'.phase.isTerminal = true) :
    c.Moves key (c.withChildren
      { c.children with objects := c.children.objects.insert k child' }) := by
  have hrefl : ∀ p : Pod, p.GoesOn p := fun p => ⟨rfl, rfl, id⟩
  refine ⟨rfl, rfl, ?_, ?_, k, child, child', hchild, hruns, ?_, hended⟩
  · intro other p hp
    simp only [withChildren, Cache.get?, OrderedMap.get?_insert]
    by_cases hother : other = k
    · subst hother
      cases hchild.1.symm.trans hp.1
      exact ⟨child', by simp, hgoes⟩
    · rw [if_neg hother]
      exact ⟨p, hp.1, hrefl p⟩
  · rintro other p' ⟨hget, -, -⟩
    simp only [withChildren, Cache.get?, OrderedMap.get?_insert] at hget
    by_cases hother : other = k
    · subst hother
      simp only [if_true, Option.some.injEq] at hget
      exact ⟨child, hchild.1, hget ▸ hgoes⟩
    · rw [if_neg hother] at hget
      exact ⟨p', hget, hrefl p'⟩
  · simp [withChildren, Cache.get?]

/-- A pass in a stage comes to its end with a result, whenever its steps are made. -/
inductive Stage.Ends (env : Surroundings σ) (timeout : Duration) :
    Stage → σ → Except Error Unit → σ → Prop where
  | finished (result : Except Error Unit) (s : σ) : Ends env timeout (.finished result) s result s
  | step (now : Instant) {stage : Stage} {s s' : σ} {result : Except Error Unit}
      (h : Ends env timeout (stage.step env timeout now s).1 (stage.step env timeout now s).2
        result s') :
      Ends env timeout stage s result s'

/-- What every step keeps is there at the end. -/
theorem Stage.Ends.invariant {env : Surroundings σ} {timeout : Duration} {I : Stage → σ → Prop}
    (hstep : ∀ now stage s, I stage s →
      I (stage.step env timeout now s).1 (stage.step env timeout now s).2)
    {stage : Stage} {s s' : σ} {result : Except Error Unit}
    (h : Ends env timeout stage s result s') (hI : I stage s) : I (.finished result) s' := by
  induction h with
  | finished => exact hI
  | step now _ ih => exact ih (hstep now _ _ hI)

/-- A pass over the batch of a key, from what the caches show to its end. -/
def PassEnds (env : Surroundings σ) (view : σ → Caches) (timeout : Duration) (key : ObjectKey)
    (s : σ) (result : Except Error Unit) (s' : σ) : Prop :=
  Stage.Ends env timeout (.ofKey (view s) (.batch key)) s result s'

/-- Where a number of rounds can lead to. -/
inductive Rounds (env : Surroundings σ) (view : σ → Caches) (timeout : Duration)
    (key : ObjectKey) (start : σ) : Nat → σ → Prop where
  | start : Rounds env view timeout key start 0 start
  | round {n : Nat} {s s' s'' : σ} {result : Except Error Unit}
      (h : Rounds env view timeout key start n s)
      (hpass : PassEnds env view timeout key s result s')
      (hmove : (view s').Moves key (view s'')) :
      Rounds env view timeout key start (n + 1) s''

/-- A batch at the beginning: it is pending, its selector selects the templates, and there is no
child that carries its name. What fills a cache puts every object under its own key
(`Cache.Keyed.watch`). -/
structure Caches.Begins (c : Caches) (key : ObjectKey) (batch : JobBatch)
    (templates : List JobTemplate) : Prop where
  ns : key.ns ≠ ""
  stored : c.batches.get? key = some batch
  own : Resource.key batch = .ok key
  pending : batch.isComplete = false
  selected : ∃ selector, Selector.read batch.spec.selector = .ok selector ∧
    c.templates.list key.ns selector = templates
  keyed : c.templates.Keyed
  children : c.childrenOf key = []

/-- What a batch has come to after a number of rounds and one more pass: every child runs one of the
templates, no template has more than one child, and the batch is pending and something runs, after
fewer rounds than there are templates, or it is complete. -/
structure Caches.Advanced (c : Caches) (key : ObjectKey) (batch : JobBatch)
    (templates : List JobTemplate) (rounds : Nat) : Prop where
  selected : ∀ child ∈ c.childrenOf key, ∃ template ∈ templates,
    child.templateName = some template.name
  atMostOne : ∀ template ∈ templates, (c.childrenOf key).countP
    (fun child => child.templateName == some template.name) ≤ 1
  progress : (c.batches.get? key = some batch ∧ rounds < templates.length ∧
      0 < c.unfinishedOf key) ∨
    ∃ status version, c.batches.get? key = some (batch.rewritten (some status) version) ∧
      Plan.Concluded batch templates (c.childrenOf key) status

end BatchOperator
