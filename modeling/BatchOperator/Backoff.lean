import BatchOperator.Duration
import BatchOperator.OrderedMap

/-!
# Growing delays

How long to wait before something that failed is tried again: a base delay that doubles with every
failure of the same item, up to a maximum. Failures are counted for each item on its own, and
forgotten when the item succeeds. `failures_record` and `failures_forget` say what the operations do
to the counts.
-/

set_option autoImplicit false

namespace BatchOperator

/-- The failures of the items of type `α` and the delays that follow from them. -/
structure Backoff (α : Type) where
  /-- The delay after the first failure. -/
  base : Duration
  /-- The longest delay. -/
  limit : Duration
  /-- The items that failed since they were forgotten, with the number of failures. -/
  counts : List (α × Nat) := []

namespace Backoff

variable {α : Type} [DecidableEq α]

/-- The shortest delay unless something else is configured. -/
def usualBase : Duration := .ofSeconds 5

/-- The longest delay unless something else is configured. -/
def usualLimit : Duration := .ofSeconds 60

/-- The counter of failures does not get beyond this number. -/
def countLimit : Nat := 4294967295

/-- The delay is not doubled more often than this. -/
def doublingLimit : Nat := 31

/-- How often an item has failed since it was last forgotten. -/
def failures (b : Backoff α) (item : α) : Nat := (OrderedMap.lookup item b.counts).getD 0

/-- The delay before an item that has failed `n` times before is tried again. A product that no
duration can hold counts as longer than any maximum. -/
def delayAfter (b : Backoff α) (n : Nat) : Duration :=
  match b.base.times? (Nat.pow 2 (min n doublingLimit)) with
  | some delay => delay.shorter b.limit
  | none => b.limit

/-- The failures with one more failure of an item. -/
def record (b : Backoff α) (item : α) : Backoff α :=
  { b with counts :=
      (item, min (b.failures item + 1) countLimit) :: OrderedMap.drop item b.counts }

/-- The delay before an item that has just failed is tried again, and the failures with this one. -/
def fail (b : Backoff α) (item : α) : Duration × Backoff α :=
  (b.delayAfter (b.failures item), b.record item)

/-- The failures without those of an item. -/
def forget (b : Backoff α) (item : α) : Backoff α :=
  { b with counts := OrderedMap.drop item b.counts }

/-- A failure counts for its own item only, up to the limit of the counter. -/
@[simp] theorem failures_record (b : Backoff α) (item other : α) :
    (b.record item).failures other =
      if other = item then min (b.failures item + 1) countLimit else b.failures other := by
  -- The counter in front is found first, and dropping the old one touches no other item.
  by_cases h : other = item
  · simp [failures, record, OrderedMap.lookup, h]
  · simp [failures, record, OrderedMap.lookup, OrderedMap.lookup_drop, h, Ne.symm h]

/-- Forgetting an item clears its own counter only. -/
@[simp] theorem failures_forget (b : Backoff α) (item other : α) :
    (b.forget item).failures other = if other = item then 0 else b.failures other := by
  by_cases h : other = item <;> simp [failures, forget, OrderedMap.lookup_drop, h]

end Backoff

end BatchOperator
