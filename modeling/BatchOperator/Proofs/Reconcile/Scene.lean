import BatchOperator.Proofs.Reconcile.Surroundings

/-!
# The passes of a batch, one after the other

A scene is what is outside and the pass over a batch that is under way, if there is one. A step
begins a pass from what the caches show, makes one step of the pass, or leaves the pass; and at any
time, also between two steps of a pass, others may change the children of the batch as long as these
only end or go.
-/

set_option autoImplicit false

namespace BatchOperator

/-- What is outside, and the pass over a batch that is under way. -/
structure Scene (σ : Type) where
  outside : σ
  pass : Option Stage := none

namespace Scene

variable {σ : Type}

/-- What others may do: children of the batch end or go, and the batch, if it is there, keeps its
specification. -/
structure Elsewhere (key : ObjectKey) (spec : BatchSpec) (c c' : Caches) : Prop where
  children : Caches.ChildrenSettle key c c'
  batch : ∀ batch, c'.batches.get? key = some batch → batch.spec = spec

/-- One step of a scene, for the batch of a key and with a specification. -/
inductive Step (env : Surroundings σ) (view : σ → Caches) (timeout : Duration) (key : ObjectKey)
    (spec : BatchSpec) : Scene σ → Scene σ → Prop where
  | begins (s : σ) :
      Step env view timeout key spec ⟨s, none⟩ ⟨s, some (.ofKey (view s) (.batch key))⟩
  | advances (now : Instant) (s : σ) (stage : Stage) :
      Step env view timeout key spec ⟨s, some stage⟩
        ⟨(stage.step env timeout now s).2, some (stage.step env timeout now s).1⟩
  /-- A pass is over when it has finished, or is broken off. -/
  | leaves (s : σ) (stage : Stage) :
      Step env view timeout key spec ⟨s, some stage⟩ ⟨s, none⟩
  | elsewhere {s s' : σ} (pass : Option Stage) (h : Elsewhere key spec (view s) (view s')) :
      Step env view timeout key spec ⟨s, pass⟩ ⟨s', pass⟩

/-- The scenes that a run can come to from a scene. -/
inductive Reachable (env : Surroundings σ) (view : σ → Caches) (timeout : Duration)
    (key : ObjectKey) (spec : BatchSpec) (start : Scene σ) : Scene σ → Prop where
  | start : Reachable env view timeout key spec start start
  | step {scene scene' : Scene σ} (h : Reachable env view timeout key spec start scene)
      (hstep : Step env view timeout key spec scene scene') :
      Reachable env view timeout key spec start scene'

end Scene

end BatchOperator
