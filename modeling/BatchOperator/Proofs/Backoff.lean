import BatchOperator.Backoff
import Mathlib.Algebra.Ring.Nat
import Mathlib.Data.List.Induction

/-!
# Delays in closed form

What a `Backoff` answers is said here by the calls that were made of it before, and not by its
counters. The `streak` of an item is how often it has failed since it was last forgotten; the delay
that it earns next is the base doubled that often, as a number of nanoseconds and without any bound
on the way, and then cut off at the limit (`nanoseconds_delayAfter`, `failures_after`). Whatever is
said about delays follows from this (`followsStreak`).
-/

set_option autoImplicit false

namespace BatchOperator

namespace Backoff

variable {α : Type}

/-! ## One delay -/

/-- The counter of failures gets further than the delay grows. -/
theorem delayAfter_min (b : Backoff α) (n : Nat) :
    b.delayAfter (min n countLimit) = b.delayAfter n := by
  have hmin : min (min n countLimit) doublingLimit = min n doublingLimit := by
    unfold countLimit doublingLimit
    omega
  unfold delayAfter
  rw [hmin]

/-- The length of a delay, in exact numbers. -/
theorem nanoseconds_delayAfter (b : Backoff α) (n : Nat) :
    (b.delayAfter n).nanoseconds =
      min b.limit.nanoseconds (b.base.nanoseconds * 2 ^ min n doublingLimit) := by
  unfold delayAfter
  split
  · rename_i delay hdelay
    rw [Duration.nanoseconds_shorter, Duration.nanoseconds_of_times? hdelay, Nat.min_comm]
    rfl
  · -- Without the bound of a duration the product would be longer than the limit.
    rename_i hnone
    have hlong := Duration.times?_eq_none_iff.1 hnone
    exact (Nat.min_eq_left (Nat.le_trans (Nat.le_of_lt b.limit.nanoseconds_lt) hlong)).symm

/-- More failures never earn a shorter delay. -/
theorem delayAfter_mono (b : Backoff α) {n m : Nat} (h : n ≤ m) :
    (b.delayAfter n).nanoseconds ≤ (b.delayAfter m).nanoseconds := by
  rw [nanoseconds_delayAfter, nanoseconds_delayAfter]
  have hpow : 2 ^ min n doublingLimit ≤ 2 ^ min m doublingLimit :=
    Nat.pow_le_pow_right (by decide) (by omega)
  have hproduct := Nat.mul_le_mul_left b.base.nanoseconds hpow
  omega

/-! ## Calls -/

/-- A call that changes what is remembered of an item. -/
inductive Call (α : Type) where
  | fail (item : α)
  | forget (item : α)
  deriving DecidableEq

/-- The item that a call is about. -/
def Call.item : Call α → α
  | .fail item | .forget item => item

@[simp] theorem Call.item_fail (item : α) : (fail item).item = item := rfl

@[simp] theorem Call.item_forget (item : α) : (forget item).item = item := rfl

variable [DecidableEq α]

/-- The failures after one more call. -/
def perform (b : Backoff α) : Call α → Backoff α
  | .fail item => (b.fail item).2
  | .forget item => b.forget item

/-- The failures after some calls, the first one first, when there were none before. -/
def after (base limit : Duration) (calls : List (Call α)) : Backoff α :=
  calls.foldl perform { base, limit }

/-- How often an item has failed, by the calls that were made, since it was last forgotten. -/
def streak (item : α) (calls : List (Call α)) : Nat :=
  -- From the last call back to the one that forgot the item.
  (calls.reverse.takeWhile fun call => call ≠ .forget item).count (.fail item)

/-- The delay that an item earns if it fails now, after some calls. -/
def nextDelay (base limit : Duration) (calls : List (Call α)) (item : α) : Duration :=
  ((after base limit calls).fail item).1

variable {base limit : Duration} {calls later : List (Call α)} {call : Call α} {item other : α}

theorem after_concat :
    after base limit (calls ++ [call]) = (after base limit calls).perform call := by
  simp [after]

/-- No call changes the base or the limit. -/
theorem after_bounds (base limit : Duration) (calls : List (Call α)) :
    (after base limit calls).base = base ∧ (after base limit calls).limit = limit := by
  induction calls using List.reverseRecOn with
  | nil => exact ⟨rfl, rfl⟩
  | append_singleton calls call ih =>
    rw [after_concat]
    cases call with
    | fail => exact ih
    | forget => exact ih

theorem streak_concat_fail : streak item (calls ++ [.fail other]) =
    if other = item then streak item calls + 1 else streak item calls := by
  by_cases h : other = item
  · simp [streak, h]
  · simp [streak, h]

theorem streak_concat_forget : streak item (calls ++ [.forget other]) =
    if other = item then 0 else streak item calls := by
  by_cases h : other = item
  · simp [streak, h]
  · simp [streak, h]

/-- As long as an item is not forgotten its failures add up. -/
theorem streak_append (h : .forget item ∉ later) :
    streak item (calls ++ later) = later.count (.fail item) + streak item calls := by
  have hkept : ∀ call ∈ later.reverse, decide (call ≠ .forget item) = true := by
    intro call hmem
    exact decide_eq_true fun heq => h (heq ▸ List.mem_reverse.1 hmem)
  rw [streak, streak, List.reverse_append, List.takeWhile_append_of_pos hkept, List.count_append,
    List.count_reverse]

/-- Only the calls about an item count for it. -/
theorem streak_filter (item : α) (calls : List (Call α)) :
    streak item (calls.filter fun call => call.item = item) = streak item calls := by
  -- The induction is on the last call, since that is where a streak is counted from.
  induction calls using List.reverseRecOn with
  | nil => rfl
  | append_singleton calls call ih =>
    rw [List.filter_append]
    cases call with
    | fail other =>
      rw [streak_concat_fail]
      by_cases h : other = item
      · simp [h, streak_concat_fail, ih]
      · simp [h, ih]
    | forget other =>
      rw [streak_concat_forget]
      by_cases h : other = item
      · simp [h, streak_concat_forget]
      · simp [h, ih]

/-- The counter of an item has its streak, as far as it gets. -/
theorem failures_after (base limit : Duration) (calls : List (Call α)) (item : α) :
    (after base limit calls).failures item = min (streak item calls) countLimit := by
  induction calls using List.reverseRecOn with
  | nil => rfl
  | append_singleton calls call ih =>
    rw [after_concat]
    cases call with
    | fail other =>
      rw [perform, fail, failures_record, streak_concat_fail]
      by_cases h : other = item
      · -- A counter that has reached its limit stays there.
        subst h
        rw [if_pos rfl, if_pos rfl, ih]
        omega
      · rw [if_neg (Ne.symm h), if_neg h, ih]
    | forget other =>
      rw [perform, failures_forget, streak_concat_forget]
      by_cases h : other = item
      · rw [if_pos h.symm, if_pos h, Nat.zero_min]
      · rw [if_neg (Ne.symm h), if_neg h, ih]

/-- The next delay of an item is the one that its streak earns. -/
theorem nextDelay_eq (base limit : Duration) (calls : List (Call α)) (item : α) :
    nextDelay base limit calls item =
      ({ base, limit } : Backoff α).delayAfter (streak item calls) := by
  obtain ⟨hbase, hlimit⟩ := after_bounds base limit calls
  -- The counter may have stopped long after the delay has stopped growing.
  rw [nextDelay, fail, failures_after, delayAfter_min]
  unfold delayAfter
  rw [hbase, hlimit]

/-! ## The result -/

/-- What is remembered of an item after some calls is its streak, and no call about another item has
a part in it. -/
structure FollowsStreak (base limit : Duration) (calls : List (Call α)) (item : α) : Prop where
  /-- The next delay is the base, doubled for every failure up to the 31st, and at most the
  limit. -/
  delay : (nextDelay base limit calls item).nanoseconds =
    min limit.nanoseconds (base.nanoseconds * 2 ^ min (streak item calls) 31)
  /-- The counter has the streak, and stays at the last number of 32 bits. -/
  count : (after base limit calls).failures item = min (streak item calls) (2 ^ 32 - 1)
  /-- Until the item is forgotten its delays do not get shorter. -/
  grows : ∀ later, .forget item ∉ later →
    (nextDelay base limit calls item).nanoseconds ≤
      (nextDelay base limit (calls ++ later) item).nanoseconds
  bounded : (nextDelay base limit calls item).nanoseconds ≤ limit.nanoseconds
  /-- Without the calls about other items, wherever they were made, it would all be the same. -/
  own : nextDelay base limit (calls.filter fun call => call.item = item) item =
      nextDelay base limit calls item ∧
    (after base limit (calls.filter fun call => call.item = item)).failures item =
      (after base limit calls).failures item

/-- Whatever the base and the limit are, and whatever calls were made, every item gets the delays of
its own streak. -/
theorem followsStreak (base limit : Duration) (calls : List (Call α)) (item : α) :
    FollowsStreak base limit calls item where
  delay := by
    rw [nextDelay_eq, nanoseconds_delayAfter]
    rfl
  count := failures_after base limit calls item
  grows later h := by
    rw [nextDelay_eq, nextDelay_eq, streak_append h]
    exact delayAfter_mono _ (Nat.le_add_left _ _)
  bounded := by
    rw [nextDelay_eq, nanoseconds_delayAfter]
    exact Nat.min_le_left _ _
  own := by
    constructor
    · rw [nextDelay_eq, nextDelay_eq, streak_filter]
    · rw [failures_after, failures_after, streak_filter]

end Backoff

end BatchOperator
