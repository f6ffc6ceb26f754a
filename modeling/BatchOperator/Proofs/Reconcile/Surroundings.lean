import BatchOperator.Proofs.Child.Manifest
import BatchOperator.Proofs.Reconcile.Children
import BatchOperator.Reconcile.Pass

/-!
# What passes can rely on

A pass acts in surroundings that answer as they like. `Surroundings.Mirrors` says that they show the
effect of their answers in the caches before they answer, and that a failure has no effect;
`Surroundings.Serves` says in addition that nothing fails. `Surroundings.on` restricts surroundings
to the states with a property that every answer keeps. A look for a child asks for nothing, and so
changes nothing outside (`Stage.step_confirming`).
-/

set_option autoImplicit false

namespace BatchOperator

/-- A batch with another status and another resource version. -/
def JobBatch.rewritten (batch : JobBatch) (status : Option BatchStatus) (version : String) :
    JobBatch :=
  { batch with metadata := { batch.metadata with resourceVersion := some version }, status }

/-- Every batch was there before, with the specification that it has. -/
def Cache.SpecsKept (c c' : Cache JobBatch) : Prop :=
  ∀ key batch', c'.get? key = some batch' →
    ∃ batch, c.get? key = some batch ∧ batch'.spec = batch.spec

theorem Cache.SpecsKept.refl (c : Cache JobBatch) : c.SpecsKept c :=
  fun _ batch h => ⟨batch, h, rfl⟩

namespace Surroundings

variable {σ : Type}

/-- What is asked of the API server is seen in the caches at once, and what fails changes nothing
there. Writing a status makes no batches and changes no specifications. -/
structure Mirrors (env : Surroundings σ) (view : σ → Caches) : Prop where
  created : ∀ {manifest child : Pod} {s s' : σ}, env.createChild manifest s = (.ok child, s') →
    ∃ change children, (view s).children.apply child = .ok (change, children) ∧
      view s' = (view s).withChildren children
  notCreated : ∀ {manifest : Pod} {e : Error} {s s' : σ},
    env.createChild manifest s = (.error e, s') → view s' = view s
  deleted : ∀ {key : ObjectKey} {s s' : σ}, env.deleteChild key s = (.ok (), s') →
    view s' = (view s).withoutChild key
  notDeleted : ∀ {key : ObjectKey} {e : Error} {s s' : σ},
    env.deleteChild key s = (.error e, s') → view s' = view s
  written : ∀ {sent answer : JobBatch} {s s' : σ}, env.replaceStatus sent s = (.ok answer, s') →
    ∃ batches, view s' = (view s).withBatches batches ∧ (view s).batches.SpecsKept batches
  notWritten : ∀ {sent : JobBatch} {e : Error} {s s' : σ},
    env.replaceStatus sent s = (.error e, s') → view s' = view s
  listed : ∀ ns query s, view (env.listChildren ns query s).2 = view s
  published : ∀ notification s, view (env.publish notification s) = view s
  counted : ∀ count s, view (env.count count s) = view s

/-- Surroundings in which everything succeeds: a child is made under a name of its own, and a status
is written over the version that was sent. -/
structure Serves (env : Surroundings σ) (view : σ → Caches) : Prop extends env.Mirrors view where
  creates : ∀ (manifest : Pod) (s : σ), ∃ child s', env.createChild manifest s = (.ok child, s') ∧
    manifest.MadeFrom child ∧
    ∀ key, Resource.key child = .ok key → (view s).children.get? key = none
  writes : ∀ {key : ObjectKey} {stored sent : JobBatch} {s : σ},
    (view s).batches.get? key = some stored → Resource.key sent = .ok key →
    sent.metadata.resourceVersion = stored.metadata.resourceVersion →
    ∃ answer version s', env.replaceStatus sent s = (.ok answer, s') ∧
      (view s').batches.get? key = some (stored.rewritten sent.status version)
  sees : ∀ key s, env.sees key s = ((view s).children.get? key).isSome

/-- A property of states that every answer keeps. -/
structure Keeps (env : Surroundings σ) (P : σ → Prop) : Prop where
  createChild : ∀ manifest {s}, P s → P (env.createChild manifest s).2
  listChildren : ∀ ns query {s}, P s → P (env.listChildren ns query s).2
  deleteChild : ∀ key {s}, P s → P (env.deleteChild key s).2
  replaceStatus : ∀ batch {s}, P s → P (env.replaceStatus batch s).2
  publish : ∀ notification {s}, P s → P (env.publish notification s)
  count : ∀ count {s}, P s → P (env.count count s)

/-- Surroundings on the states with a property that every answer keeps. -/
def on (env : Surroundings σ) {P : σ → Prop} (keeps : env.Keeps P) :
    Surroundings { s : σ // P s } where
  createChild manifest s :=
    ((env.createChild manifest s).1, ⟨_, keeps.createChild manifest s.property⟩)
  listChildren ns query s :=
    ((env.listChildren ns query s).1, ⟨_, keeps.listChildren ns query s.property⟩)
  deleteChild key s := ((env.deleteChild key s).1, ⟨_, keeps.deleteChild key s.property⟩)
  replaceStatus batch s :=
    ((env.replaceStatus batch s).1, ⟨_, keeps.replaceStatus batch s.property⟩)
  publish notification s := ⟨_, keeps.publish notification s.property⟩
  sees key s := env.sees key s
  count count s := ⟨_, keeps.count count s.property⟩

end Surroundings

/-- The stage after a look for a child at `now`, which has or has not been seen. -/
def Stage.afterLook (now : Instant) (seen : Bool) (child : ObjectKey) (poll : Poll)
    (moment : Instant) (agenda : Agenda) : Stage :=
  if now < moment then .confirming child poll moment agenda
  else match poll.judge now (if seen then some () else none) with
    | .ready () => agenda.proceed
    | .expired => .finished (.error poll.expiry)
    | .again moment => .confirming child poll moment agenda

/-- A look for a child leaves everything outside as it is. -/
theorem Stage.step_confirming {σ : Type} (env : Surroundings σ) (timeout : Duration)
    (now : Instant) (s : σ) (child : ObjectKey) (poll : Poll) (moment : Instant)
    (agenda : Agenda) :
    (Stage.confirming child poll moment agenda).step env timeout now s =
      (afterLook now (env.sees child s) child poll moment agenda, s) := by
  simp only [step, afterLook]
  split
  · rfl
  · split <;> simp_all

end BatchOperator
