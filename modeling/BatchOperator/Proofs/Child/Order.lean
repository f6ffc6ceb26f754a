import BatchOperator.Child
import Mathlib.Order.Defs.LinearOrder

/-!
# The order of creation

The order in which children were created is a total one up to equal times and names, so children in
creation order are sorted by it (`Pod.pairwise_inCreationOrder`), and the first child of a kind is
the one that a search finds (`Pod.find?_inCreationOrder`).
-/

set_option autoImplicit false

namespace BatchOperator

open Std

instance : TransCmp Timestamp.compare :=
  inferInstanceAs (TransCmp (compareLex (compareOn Timestamp.seconds) (compareOn Timestamp.nanos)))

namespace Pod

instance : TransCmp compareCreation where
  eq_swap {a b} := by
    cases a with
    | none => cases b <;> rfl
    | some a =>
      cases b with
      | none => rfl
      | some b =>
        show a.compare b = (b.compare a).swap
        exact OrientedCmp.eq_swap
  isLE_trans {a b c} hab hbc := by
    cases a with
    | none => cases c <;> rfl
    | some a =>
      cases b with
      | none => cases hab
      | some b =>
        cases c with
        | none => cases hbc
        | some c =>
          change (a.compare b).isLE = true at hab
          change (b.compare c).isLE = true at hbc
          show (a.compare c).isLE = true
          exact TransCmp.isLE_trans hab hbc

/-- The times of creation compare as times do. -/
instance : TransCmp fun a b : Pod =>
    compareCreation a.metadata.creationTimestamp b.metadata.creationTimestamp where
  eq_swap := OrientedCmp.eq_swap
  isLE_trans hab hbc := TransCmp.isLE_trans hab hbc

instance : TransCmp creationOrder :=
  inferInstanceAs (TransCmp (compareLex
    (fun a b : Pod => compareCreation a.metadata.creationTimestamp b.metadata.creationTimestamp)
    (compareOn name)))

/-- What comes before something else does not come after it. -/
theorem creationOrder_swap (a b : Pod) : creationOrder a b = (creationOrder b a).swap :=
  OrientedCmp.eq_swap

/-- Children that compare equal have the same name. -/
theorem name_eq_of_creationOrder_eq {a b : Pod} (h : creationOrder a b = .eq) :
    a.name = b.name := by
  rw [creationOrder, Ordering.then_eq_eq] at h
  exact LawfulEqOrd.eq_of_compare h.2

/-- Children in creation order are sorted. -/
theorem pairwise_inCreationOrder (pods : List Pod) :
    (inCreationOrder pods).Pairwise fun a b => (creationOrder a b).isLE = true := by
  refine List.pairwise_mergeSort ?_ ?_ pods
  · exact fun a b c hab hbc => TransCmp.isLE_trans hab hbc
  · intro a b
    rw [creationOrder_swap b a]
    cases creationOrder a b <;> rfl

/-- A search in creation order finds the first child of a kind. -/
theorem find?_inCreationOrder {pods : List Pod} {P : Pod → Bool} {child : Pod} (hmem : child ∈ pods)
    (hP : P child = true)
    (hfirst : ∀ other ∈ pods, P other = true → other = child ∨ creationOrder child other = .lt) :
    (inCreationOrder pods).find? P = some child := by
  have hsorted : ∀ pod, pod ∈ inCreationOrder pods ↔ pod ∈ pods :=
    fun pod => (List.mergeSort_perm pods _).mem_iff
  obtain ⟨found, hfound⟩ := Option.isSome_iff_exists.1
    (List.find?_isSome.2 ⟨child, (hsorted child).2 hmem, hP⟩)
  obtain ⟨hPfound, before, behind, hsplit, hbefore⟩ := List.find?_eq_some_iff_append.1 hfound
  have hfoundmem : found ∈ pods := (hsorted found).1 (List.mem_of_find?_eq_some hfound)
  rcases hfirst found hfoundmem hPfound with rfl | hlt
  · exact hfound
  · -- The child would come behind one that is later than itself.
    have hchild : child ∈ before ++ found :: behind := hsplit ▸ (hsorted child).2 hmem
    have hpairwise := pairwise_inCreationOrder pods
    rw [hsplit, List.pairwise_append, List.pairwise_cons] at hpairwise
    rcases List.mem_append.1 hchild with hin | hin
    · have hnot := hbefore child hin
      rw [hP] at hnot
      cases hnot
    · rcases List.mem_cons.1 hin with rfl | hin
      · exact hfound
      · have hle := hpairwise.2.1.1 child hin
        rw [creationOrder_swap, hlt] at hle
        cases hle

/-- What a search in creation order finds no other child of its kind comes before. -/
theorem isLE_of_find?_inCreationOrder {pods : List Pod} {P : Pod → Bool} {child : Pod}
    (hfind : (inCreationOrder pods).find? P = some child) {other : Pod} (hmem : other ∈ pods)
    (hP : P other = true) : (creationOrder child other).isLE = true := by
  obtain ⟨-, before, behind, hsplit, hbefore⟩ := List.find?_eq_some_iff_append.1 hfind
  have hother : other ∈ inCreationOrder pods := (List.mergeSort_perm pods _).mem_iff.2 hmem
  have hpairwise := pairwise_inCreationOrder pods
  rw [hsplit, List.pairwise_append, List.pairwise_cons] at hpairwise
  rw [hsplit] at hother
  rcases List.mem_append.1 hother with hin | hin
  · have hnot := hbefore other hin
    rw [hP] at hnot
    cases hnot
  · rcases List.mem_cons.1 hin with rfl | hin
    · exact ReflCmp.isLE_rfl
    · exact hpairwise.2.1.1 other hin

end Pod

end BatchOperator
