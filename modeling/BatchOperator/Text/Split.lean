/-!
# Cutting text at a separator

`cut` splits a list of characters at the first occurrence of a separator. Its main statement,
`cut_eq_some_iff`, says that the two parts and the separator give the text back and that the
first part is free of the separator; `cut_eq_none_iff` says when there is nothing to cut.
-/

set_option autoImplicit false

namespace BatchOperator.Text

/-- The parts before and after the first `sep`; `none` when `sep` does not occur. -/
def cut (sep : Char) : List Char → Option (List Char × List Char)
  | [] => none
  | c :: rest =>
    if c = sep then some ([], rest)
    else match cut sep rest with
      | some (before, after) => some (c :: before, after)
      | none => none

/-- A text is cut at a separator that does not occur before. -/
theorem cut_append {sep : Char} {before after : List Char} (h : sep ∉ before) :
    cut sep (before ++ sep :: after) = some (before, after) := by
  induction before with
  | nil => simp [cut]
  | cons c before ih =>
    have hc : c ≠ sep := fun e => h (by simp [e])
    have hb : sep ∉ before := fun m => h (by simp [m])
    simp [cut, hc, ih hb]

/-- What cutting gives is the text around its first separator. -/
theorem cut_eq_some_iff {sep : Char} {text before after : List Char} :
    cut sep text = some (before, after) ↔ text = before ++ sep :: after ∧ sep ∉ before := by
  constructor
  · intro h
    induction text generalizing before with
    | nil => simp [cut] at h
    | cons c text ih =>
      unfold cut at h
      by_cases hc : c = sep
      · simp only [hc, if_true, Option.some.injEq, Prod.mk.injEq] at h
        obtain ⟨rfl, rfl⟩ := h
        simp [hc]
      · simp only [hc, if_false] at h
        -- The separator comes later, behind the first character.
        split at h
        · rename_i b a hcut
          simp only [Option.some.injEq, Prod.mk.injEq] at h
          obtain ⟨rfl, rfl⟩ := h
          obtain ⟨rfl, hb⟩ := ih hcut
          exact ⟨rfl, by simp [hb, Ne.symm hc]⟩
        · simp at h
  · rintro ⟨rfl, h⟩
    exact cut_append h

/-- Only a text without separators cannot be cut. -/
theorem cut_eq_none_iff {sep : Char} {text : List Char} : cut sep text = none ↔ sep ∉ text := by
  induction text with
  | nil => simp [cut]
  | cons c text ih =>
    unfold cut
    by_cases hc : c = sep
    · simp [hc]
    · simp only [hc, if_false]
      split
      · rename_i hcut
        simp [hcut] at ih
        simp [ih]
      · rename_i hcut
        simp only [hcut, true_iff] at ih
        simp [ih, Ne.symm hc]

/-- The pieces of `text` between the occurrences of `sep`; an empty text has one empty piece. -/
def pieces (sep : Char) : List Char → List (List Char)
  | [] => [[]]
  | c :: rest =>
    if c = sep then [] :: pieces sep rest
    else match pieces sep rest with
      | piece :: others => (c :: piece) :: others
      | [] => [[c]]

end BatchOperator.Text
