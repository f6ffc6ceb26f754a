import BatchOperator.Proofs.Queue.Invariant

/-!
# What a queue reports

A queue reports how many items wait, and how often an item was added again because it had failed.
Every operation that changes the waiting list says so, and only `WorkQueue.addRateLimited` reports
one more failure.
-/

set_option autoImplicit false

namespace BatchOperator

namespace WorkQueue

variable {α : Type} {q : WorkQueue α} {retries : Nat}

/-- A queue reports the number of items that wait, and a number of failures. -/
structure Reports (q : WorkQueue α) (retries : Nat) : Prop where
  depth : q.depth = q.waiting.length
  retries : q.retries = retries

theorem reports_create (shortest longest : Duration) :
    (create shortest longest : WorkQueue α).Reports 0 := ⟨rfl, rfl⟩

theorem Reports.shutDown (h : q.Reports retries) : q.shutDown.Reports retries :=
  ⟨h.depth, h.retries⟩

variable [DecidableEq α]

theorem Reports.forget (h : q.Reports retries) (x : α) : (q.forget x).Reports retries :=
  ⟨h.depth, h.retries⟩

theorem Reports.add (h : q.Reports retries) (x : α) : (q.add x).Reports retries := by
  obtain ⟨-, hadd⟩ | ⟨-, -, -, hadd⟩ | ⟨-, -, -, hadd⟩ := q.add_cases x <;> rw [hadd]
  · exact h
  · exact ⟨h.depth, h.retries⟩
  · exact ⟨rfl, h.retries⟩

theorem Reports.foldl_add (h : q.Reports retries) (items : List α) :
    (items.foldl WorkQueue.add q).Reports retries := by
  induction items generalizing q with
  | nil => exact h
  | cons x items ih => exact ih (h.add x)

theorem Reports.addAfter (h : q.Reports retries) (now : Instant) (x : α) (delay : Duration) :
    (q.addAfter now x delay).Reports retries := by
  unfold WorkQueue.addAfter
  split
  · exact h.add x
  · exact ⟨h.depth, h.retries⟩

/-- One more failure is reported. -/
theorem Reports.addRateLimited (h : q.Reports retries) (now : Instant) (x : α) :
    (q.addRateLimited now x).Reports ((retries + 1) % Text.wordLimit) := by
  have hblamed : (q.blamed x).Reports ((retries + 1) % Text.wordLimit) :=
    ⟨h.depth, congrArg (fun n => (n + 1) % Text.wordLimit) h.retries⟩
  exact hblamed.addAfter now x _

theorem Reports.fire (h : q.Reports retries) {moment : Instant} {p : WorkQueue α}
    (fired : q.fire moment = some p) : p.Reports retries := by
  obtain ⟨⟨x, others⟩, -, rfl⟩ := Option.map_eq_some_iff.1 fired
  have hothers : ({ q with delayed := others } : WorkQueue α).Reports retries :=
    ⟨h.depth, h.retries⟩
  exact hothers.add x

theorem Reports.look (h : q.Reports retries) : q.look.2.Reports retries := by
  unfold WorkQueue.look
  cases hwaiting : q.waiting with
  | nil => exact ⟨h.depth.trans (congrArg List.length hwaiting), h.retries⟩
  | cons x rest => exact ⟨rfl, h.retries⟩

theorem Reports.get (h : q.Reports retries) (getter : Nat) : (q.get getter).2.Reports retries := by
  have hlook := h.look
  unfold WorkQueue.get
  split
  · rename_i p hp
    rw [hp] at hlook
    exact ⟨hlook.depth, hlook.retries⟩
  · exact hlook

theorem Reports.getAgain (h : q.Reports retries) (getter : Nat) :
    (q.getAgain getter).2.Reports retries := by
  have hrisen : ({ q with bell := q.bell.rise getter } : WorkQueue α).Reports retries :=
    ⟨h.depth, h.retries⟩
  exact hrisen.get getter

theorem Reports.done (h : q.Reports retries) (x : α) : (q.done x).Reports retries := by
  simp only [WorkQueue.done]
  split
  · exact ⟨rfl, h.retries⟩
  · exact ⟨h.depth, h.retries⟩

end WorkQueue

end BatchOperator
