import BatchOperator.Proofs.Reconcile.Surroundings

/-!
# A record of what passes ask for

Surroundings that write down every request with its answer, and every announcement, together with
what was outside at that moment. Being recorded makes no difference to a pass (`step_recorded`).
-/

set_option autoImplicit false

namespace BatchOperator

/-- Something that a pass asked for or announced, and how it was answered. -/
inductive Call where
  | created (manifest : Pod) (answer : Except Error Pod)
  | listed (ns query : String) (answer : Except Error (List Pod))
  | deleted (child : ObjectKey) (answer : Except Error Unit)
  | replaced (sent : JobBatch) (answer : Except Error JobBatch)
  | published (notification : Notification)

/-- What is outside, and all that it was asked for, the last first, each call with what was outside
before it. -/
structure Recorded (σ : Type) where
  outside : σ
  calls : List (σ × Call) := []

namespace Recorded

variable {σ : Type}

/-- The record with one more call, after which something else is outside. -/
def after (r : Recorded σ) (call : Call) (outside : σ) : Recorded σ :=
  ⟨outside, (r.outside, call) :: r.calls⟩

/-- How many calls are of a kind. -/
def countCalls (r : Recorded σ) (P : Call → Bool) : Nat := r.calls.countP fun entry => P entry.2

theorem countCalls_of_calls {r r' : Recorded σ} {s : σ} {call : Call}
    (h : r'.calls = (s, call) :: r.calls) (P : Call → Bool) :
    r'.countCalls P = r.countCalls P + (P call).toNat := by
  simp only [countCalls, h]
  by_cases hP : P call = true <;> simp [hP]

end Recorded

namespace Surroundings

variable {σ : Type}

/-- The surroundings that keep a record. -/
def recorded (env : Surroundings σ) : Surroundings (Recorded σ) where
  createChild manifest r :=
    let (answer, s) := env.createChild manifest r.outside
    (answer, r.after (.created manifest answer) s)
  listChildren ns query r :=
    let (answer, s) := env.listChildren ns query r.outside
    (answer, r.after (.listed ns query answer) s)
  deleteChild child r :=
    let (answer, s) := env.deleteChild child r.outside
    (answer, r.after (.deleted child answer) s)
  replaceStatus sent r :=
    let (answer, s) := env.replaceStatus sent r.outside
    (answer, r.after (.replaced sent answer) s)
  publish notification r :=
    r.after (.published notification) (env.publish notification r.outside)
  sees key r := env.sees key r.outside
  count count r := { r with outside := env.count count r.outside }

end Surroundings

/-- A pass goes on in the same way and with the same effects when it is recorded. -/
theorem Stage.step_recorded {σ : Type} (env : Surroundings σ) (timeout : Duration) (now : Instant)
    (r : Recorded σ) (stage : Stage) :
    (stage.step env.recorded timeout now r).1 = (stage.step env timeout now r.outside).1 ∧
      (stage.step env.recorded timeout now r).2.outside =
        (stage.step env timeout now r.outside).2 := by
  cases stage with
  | purging next others =>
    simp only [step, Surroundings.recorded]
    split <;> exact ⟨rfl, rfl⟩
  | starting template agenda =>
    simp only [step, Surroundings.recorded]
    split
    · exact ⟨rfl, rfl⟩
    · split <;> exact ⟨rfl, rfl⟩
  | adopting template refusal agenda =>
    simp only [step, Surroundings.recorded]
    split
    · exact ⟨rfl, rfl⟩
    · split <;> exact ⟨rfl, rfl⟩
  | confirming child poll moment agenda =>
    rw [step_confirming, step_confirming]
    exact ⟨rfl, rfl⟩
  | closing verdict batch =>
    simp only [step, Surroundings.recorded]
    split <;> exact ⟨rfl, rfl⟩
  | pruning | announcing | complaining | reporting | finished => exact ⟨rfl, rfl⟩

end BatchOperator
