import BatchOperator.Metrics
import Mathlib.Logic.Function.Basic

/-!
# Counters

A counter is a word: when it was increased `n` times from zero it shows `Metrics.shown n`, and
begins again at zero after the last word. To increase a labelled counter changes no other
(`Metrics.counter_increased`), and changes the sum over all labels by just as much
(`Metrics.total_increased`). So counters that show how often each item is in a list show it with one
more item (`Metrics.Shows.increased`), and their sum shows its length (`Metrics.IsTotal.increased`).
-/

set_option autoImplicit false

namespace BatchOperator

namespace OrderedMap

variable {κ : Type} [DecidableEq κ]

/-- The sum of all values. -/
def sum (entries : List (κ × Nat)) : Nat := entries.foldr (fun entry n => entry.2 + n) 0

theorem getD_lookup_le_sum (key : κ) (entries : List (κ × Nat)) :
    (lookup key entries).getD 0 ≤ sum entries := by
  induction entries with
  | nil => exact Nat.le_refl 0
  | cons head rest ih =>
    rw [sum, List.foldr_cons, lookup]
    split
    · exact Nat.le_add_right _ _
    · exact Nat.le_add_left_of_le ih

/-- A value that is put in takes the place of the one that was there in the sum of all values. -/
theorem sum_put [LT κ] [DecidableLT κ] [KeyOrder κ] (key : κ) (value : Nat)
    {entries : List (κ × Nat)} (h : entries.Pairwise fun a b => a.1 < b.1) :
    sum (put key value entries) + (lookup key entries).getD 0 = sum entries + value := by
  induction entries with
  | nil => simp [sum, put, lookup]
  | cons head rest ih =>
    obtain ⟨k, v⟩ := head
    obtain ⟨hhead, hrest⟩ := List.pairwise_cons.1 h
    unfold put
    split
    · rename_i hlt
      -- A key below all others has no value yet.
      have hnone : lookup key ((k, v) :: rest) = none := by
        refine lookup_eq_none_of_below fun entry hmem => ?_
        rcases List.mem_cons.1 hmem with rfl | hmem
        · exact hlt
        · exact KeyOrder.trans hlt (hhead entry hmem)
      simp only [hnone, sum, List.foldr_cons, Option.getD_none]
      omega
    · split
      · rename_i hk
        simp only [lookup, if_pos hk, sum, List.foldr_cons, Option.getD_some]
        omega
      · rename_i hk
        have hih := ih hrest
        simp only [sum] at hih
        simp only [lookup, if_neg hk, sum, List.foldr_cons]
        omega

end OrderedMap

namespace Metrics

/-- What a counter shows that was increased so often. -/
def shown (n : Nat) : Nat := n % Text.wordLimit

/-- What a labelled counter shows; one without a sample shows zero. -/
def counter (counters : OrderedMap String Nat) (label : String) : Nat :=
  (counters.get? label).getD 0

/-- The sum of labelled counters over all labels. -/
def total (counters : OrderedMap String Nat) : Nat := OrderedMap.sum counters.entries

/-- A sum of counters comes to a number: it is that number as long as this is a word, and differs
from it by whole words afterwards. -/
structure IsTotal (total n : Nat) : Prop where
  exact : n < Text.wordLimit → total = n
  shown : shown total = shown n

theorem sum_shown (n : Nat) : sum (shown n) 1 = shown (n + 1) :=
  Nat.mod_add_mod n Text.wordLimit 1

variable (counters : OrderedMap String Nat) (label : String)

/-- To increase one counter changes no other. -/
theorem counter_increased (other : String) (amount : Nat) :
    counter (increased counters label amount) other =
      if other = label then sum (counter counters label) amount else counter counters other := by
  rw [increased, counter, OrderedMap.get?_insert]
  split <;> rfl

theorem counter_le_total : counter counters label ≤ total counters :=
  OrderedMap.getD_lookup_le_sum label counters.entries

/-- The sum changes by as much as the counter. -/
theorem total_increased (amount : Nat) :
    total (increased counters label amount) + counter counters label =
      total counters + sum (counter counters label) amount :=
  OrderedMap.sum_put label _ counters.increasing

variable {counters}

theorem IsTotal.increased {n : Nat} (h : IsTotal (total counters) n) :
    IsTotal (total (increased counters label 1)) (n + 1) := by
  have hle := counter_le_total counters label
  have hsum := total_increased counters label 1
  have hshown := h.shown
  unfold Metrics.shown at hshown
  unfold sum at hsum
  refine ⟨fun hword => ?_, ?_⟩
  · -- No counter is above the sum, so this one does not begin again.
    have htotal := h.exact (Nat.lt_of_succ_lt hword)
    rw [Nat.mod_eq_of_lt (by omega)] at hsum
    omega
  · unfold Metrics.shown
    unfold Text.wordLimit at hsum hshown ⊢
    omega

/-- Labelled counters show how often each item is in a list. -/
def Shows {α : Type} [DecidableEq α] (label : α → String) (counters : OrderedMap String Nat)
    (items : List α) : Prop :=
  ∀ item, counter counters (label item) = shown (items.count item)

theorem Shows.increased {α : Type} [DecidableEq α] {label : α → String} {items : List α}
    (h : Shows label counters items) (distinct : Function.Injective label) (item : α) :
    Shows label (increased counters (label item) 1) (item :: items) := by
  intro other
  rw [counter_increased, h, h, List.count_cons]
  by_cases hsame : other = item
  · rw [hsame, if_pos rfl, beq_self_eq_true, if_pos rfl, sum_shown]
  · rw [if_neg (distinct.ne hsame), if_neg (by simpa using Ne.symm hsame), Nat.add_zero]

end Metrics

end BatchOperator
