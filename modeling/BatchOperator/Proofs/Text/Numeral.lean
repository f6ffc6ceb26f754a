import BatchOperator.Text.Blank
import BatchOperator.Text.Numeral
import Mathlib.Algebra.Group.Nat.Defs
import Mathlib.Data.List.TakeWhile

/-!
# Numbers in texts

`Text.Writes` says how a text writes a number: decimal digits, a plus sign in front of them or none,
and white space around. A number is read from a text without its white space just when the text
writes it and it is below the limit (`Text.unsigned?_trim_eq_some_iff`). A number that was written
with leading zeros is read again if there was room for it (`Text.digits?_padded`).
-/

set_option autoImplicit false

namespace BatchOperator.Text

/-! ## Digits -/

theorem digit?_eq_some_iff {c : Char} {d : Nat} :
    digit? c = some d ↔ c.isDigit = true ∧ c.toNat - '0'.toNat = d := by
  have hdigit : c.isDigit = true ↔ '0' ≤ c ∧ c ≤ '9' := by
    simp only [Char.isDigit, Bool.and_eq_true, decide_eq_true_eq]
    rfl
  rw [digit?, Option.ite_none_right_eq_some, Option.some.injEq, hdigit]

/-- What is read digit by digit is the number that the digits write. -/
theorem appendDigits?_eq_some_iff {acc n : Nat} {digits : List Char} :
    appendDigits? acc digits = some n ↔
      (∀ c ∈ digits, c.isDigit = true) ∧ Nat.ofDigitChars 10 digits acc = n := by
  induction digits generalizing acc with
  | nil => simp [appendDigits?]
  | cons c digits ih =>
    rw [appendDigits?, List.forall_mem_cons, Nat.ofDigitChars_cons]
    cases hd : digit? c with
    | some d =>
      obtain ⟨hdigit, hvalue⟩ := digit?_eq_some_iff.1 hd
      rw [ih, hvalue, Nat.mul_comm acc]
      simp [hdigit]
    | none =>
      have hdigit : ¬ c.isDigit = true := fun h => by
        rw [digit?_eq_some_iff.2 ⟨h, rfl⟩] at hd
        cases hd
      simp [hdigit]

theorem digits?_eq_some_iff {n : Nat} {digits : List Char} :
    digits? digits = some n ↔
      digits ≠ [] ∧ (∀ c ∈ digits, c.isDigit = true) ∧ Nat.ofDigitChars 10 digits 0 = n := by
  cases digits with
  | nil => simp [digits?]
  | cons c rest => simp [digits?, appendDigits?_eq_some_iff]

/-! ## Digits of a fixed width -/

/-- What is written with leading zeros is digits. -/
theorem exists_of_mem_padded {width n : Nat} {c : Char} (h : c ∈ padded width n) :
    ∃ d < 10, c = digitChar d := by
  induction width generalizing n with
  | zero => cases h
  | succ width ih =>
    rcases List.mem_append.1 h with h | h
    · exact ih h
    · exact ⟨n % 10, Nat.mod_lt n (by decide), List.mem_singleton.1 h⟩

theorem digit?_digitChar : ∀ d < 10, digit? (digitChar d) = some d := by decide

theorem appendDigits?_append (acc : Nat) (digits rest : List Char) :
    appendDigits? acc (digits ++ rest) =
      (appendDigits? acc digits).bind fun n => appendDigits? n rest := by
  induction digits generalizing acc with
  | nil => rfl
  | cons c digits ih =>
    rw [List.cons_append, appendDigits?, appendDigits?]
    cases digit? c with
    | none => rfl
    | some d => exact ih (acc * 10 + d)

theorem appendDigits?_padded (width n : Nat) :
    appendDigits? 0 (padded width n) = some (n % 10 ^ width) := by
  induction width generalizing n with
  | zero => rw [Nat.pow_zero, Nat.mod_one]; rfl
  | succ width ih =>
    have hlast := digit?_digitChar (n % 10) (Nat.mod_lt n (by decide))
    rw [padded, appendDigits?_append, ih, Option.bind_some, appendDigits?, hlast]
    simp only [appendDigits?]
    rw [Nat.pow_succ, Nat.mul_comm (10 ^ width), Nat.mod_mul, Nat.add_comm, Nat.mul_comm 10]

/-- With any width a number begins with a digit. -/
theorem exists_padded_eq_cons {width : Nat} (hwidth : 0 < width) (n : Nat) :
    ∃ d rest, d < 10 ∧ padded width n = digitChar d :: rest := by
  have hlength := length_padded width n
  cases h : padded width n with
  | nil =>
    rw [h] at hlength
    cases hlength
    cases hwidth
  | cons c rest =>
    obtain ⟨d, hd, rfl⟩ := exists_of_mem_padded (h ▸ List.mem_cons_self)
    exact ⟨d, rest, hd, rfl⟩

/-- A number that was written with leading zeros is read again if there was room for it. -/
theorem digits?_padded {width n : Nat} (hwidth : 0 < width) (hn : n < 10 ^ width) :
    digits? (padded width n) = some n := by
  have hvalue := appendDigits?_padded width n
  obtain ⟨d, rest, -, h⟩ := exists_padded_eq_cons hwidth n
  rw [Nat.mod_eq_of_lt hn, h] at hvalue
  rw [h]
  exact hvalue

theorem digit?_lt {c : Char} {d : Nat} (h : digit? c = some d) : d < 10 := by
  unfold digit? at h
  split at h
  · rename_i hdigit
    have hle : c.toNat ≤ '9'.toNat := hdigit.2
    have hnine : '9'.toNat = 57 := rfl
    have hzero : '0'.toNat = 48 := rfl
    cases h
    omega
  · cases h

theorem lt_of_appendDigits? {acc n : Nat} {digits : List Char}
    (h : appendDigits? acc digits = some n) : n < (acc + 1) * 10 ^ digits.length := by
  induction digits generalizing acc with
  | nil =>
    cases h
    simp
  | cons c digits ih =>
    rw [appendDigits?] at h
    split at h
    · rename_i d hd
      have hdigit := digit?_lt hd
      calc n < (acc * 10 + d + 1) * 10 ^ digits.length := ih h
        _ ≤ ((acc + 1) * 10) * 10 ^ digits.length := Nat.mul_le_mul_right _ (by omega)
        _ = (acc + 1) * 10 ^ (digits.length + 1) := by rw [Nat.mul_assoc, Nat.pow_succ']
    · cases h

/-- A number is less than the power of ten that has one digit more. -/
theorem lt_of_digits? {digits : List Char} {n : Nat} (h : digits? digits = some n) :
    n < 10 ^ digits.length := by
  cases digits with
  | nil => cases h
  | cons c rest => simpa using lt_of_appendDigits? h

/-! ## White space around a text -/

/-- Trimming takes away white space only. -/
theorem exists_trim (text : List Char) : ∃ before behind, text = before ++ trim text ++ behind ∧
    (∀ c ∈ before, isBlank c = true) ∧ ∀ c ∈ behind, isBlank c = true := by
  refine ⟨text.takeWhile isBlank, ((trimStart text).reverse.takeWhile isBlank).reverse, ?_, ?_, ?_⟩
  · have hsplit (l : List Char) : l.takeWhile isBlank ++ trimStart l = l :=
      List.takeWhile_append_dropWhile
    have hback : trim text ++ ((trimStart text).reverse.takeWhile isBlank).reverse =
        trimStart text := by
      rw [trim, ← List.reverse_append, hsplit, List.reverse_reverse]
    rw [List.append_assoc, hback, hsplit]
  · intro c hc
    exact List.mem_takeWhile_imp hc
  · intro c hc
    exact List.mem_takeWhile_imp (List.mem_reverse.1 hc)

/-- Nothing is trimmed in front of a character that is no white space. -/
theorem trimStart_cons {c : Char} (hc : isBlank c = false) (rest : List Char) :
    trimStart (c :: rest) = c :: rest := by
  rw [trimStart, List.dropWhile_cons_of_neg]
  simp [hc]

/-- White space is trimmed up to a character that is none. -/
theorem trimStart_append {before rest : List Char} {c : Char}
    (hbefore : ∀ c ∈ before, isBlank c = true) (hc : isBlank c = false) :
    trimStart (before ++ c :: rest) = c :: rest := by
  rw [trimStart, List.dropWhile_append_of_pos hbefore]
  exact trimStart_cons hc rest

/-- White space around a text without white space is trimmed. -/
theorem trim_append {before core behind : List Char} (hbefore : ∀ c ∈ before, isBlank c = true)
    (hcore : ∀ c ∈ core, isBlank c = false) (hsome : core ≠ [])
    (hbehind : ∀ c ∈ behind, isBlank c = true) : trim (before ++ core ++ behind) = core := by
  obtain ⟨first, rest, rfl⟩ := List.exists_cons_of_ne_nil hsome
  have hfront : trimStart (before ++ (first :: rest) ++ behind) = first :: rest ++ behind := by
    rw [List.append_assoc]
    exact trimStart_append hbefore (hcore first List.mem_cons_self)
  -- The last character of the core comes first in the reversed text.
  obtain ⟨last, others, hreverse⟩ :=
    List.exists_cons_of_ne_nil (mt List.reverse_eq_nil_iff.1 hsome)
  have hlast : isBlank last = false :=
    hcore last (List.mem_reverse.1 (hreverse ▸ List.mem_cons_self))
  rw [trim, hfront, List.reverse_append, hreverse, trimStart_append _ hlast, ← hreverse,
    List.reverse_reverse]
  intro c hc
  exact hbehind c (List.mem_reverse.1 hc)

/-! ## Numbers -/

/-- A text writes a number. -/
inductive Writes : List Char → Nat → Prop
  | intro {before sign digits behind : List Char} (hbefore : ∀ c ∈ before, isBlank c = true)
    (hsign : sign = [] ∨ sign = ['+']) (hsome : digits ≠ [])
    (hdigits : ∀ c ∈ digits, c.isDigit = true) (hbehind : ∀ c ∈ behind, isBlank c = true) :
    Writes (before ++ (sign ++ digits) ++ behind) (Nat.ofDigitChars 10 digits 0)

/-- The digits of an unsigned numeral, which stand behind a plus sign or alone. -/
def unsignedDigits : List Char → List Char
  | [] => []
  | c :: rest => if c = '+' then rest else c :: rest

theorem unsigned?_eq (limit : Nat) (text : List Char) :
    unsigned? limit text = (digits? (unsignedDigits text)).filter (· < limit) := by
  cases text with
  | nil => rfl
  | cons c rest =>
    by_cases hc : c = '+'
    · subst hc
      cases hread : digits? rest <;> simp [unsigned?, unsignedDigits, hread, Option.filter]
    · cases hread : digits? (c :: rest) <;>
        simp [unsigned?, unsignedDigits, hc, hread, Option.filter]

/-- What is read as an unsigned numeral is its digits, behind a plus sign or alone. -/
theorem unsigned?_eq_some_iff {limit n : Nat} {text : List Char} :
    unsigned? limit text = some n ↔ n < limit ∧ ∃ sign digits, text = sign ++ digits ∧
      (sign = [] ∨ sign = ['+']) ∧ digits? digits = some n := by
  rw [unsigned?_eq, Option.filter_eq_some_iff, decide_eq_true_eq, and_comm]
  apply and_congr_right
  intro hlt
  constructor
  · intro hread
    cases text with
    | nil => cases hread
    | cons c rest =>
      by_cases hc : c = '+'
      · subst hc
        exact ⟨['+'], rest, rfl, .inr rfl, hread⟩
      · rw [unsignedDigits, if_neg hc] at hread
        exact ⟨[], c :: rest, rfl, .inl rfl, hread⟩
  · rintro ⟨sign, digits, rfl, rfl | rfl, hread⟩
    · cases digits with
      | nil => cases hread
      | cons c rest =>
        have hdigit := (digits?_eq_some_iff.1 hread).2.1 c List.mem_cons_self
        have hc : c ≠ '+' := by
          rintro rfl
          cases hdigit
        rwa [List.nil_append, unsignedDigits, if_neg hc]
    · exact hread

theorem isBlank_of_isDigit {c : Char} (h : c.isDigit = true) : isBlank c = false := by
  have hcode : 48 ≤ c.toNat ∧ c.toNat ≤ 57 := by
    simpa [Char.isDigit, UInt32.le_iff_toNat_le] using h
  simp [isBlank, blankRanges]
  omega

/-- A number is read from a text that writes it. -/
theorem unsigned?_trim_eq_some_iff {limit n : Nat} {text : List Char} :
    unsigned? limit (trim text) = some n ↔ Writes text n ∧ n < limit := by
  rw [unsigned?_eq_some_iff]
  constructor
  · rintro ⟨hlt, sign, digits, htrim, hsign, hdigits⟩
    obtain ⟨hsome, hall, rfl⟩ := digits?_eq_some_iff.1 hdigits
    obtain ⟨before, behind, htext, hbefore, hbehind⟩ := exists_trim text
    rw [htext, htrim]
    exact ⟨.intro hbefore hsign hsome hall hbehind, hlt⟩
  · rintro ⟨@⟨before, sign, digits, behind, hbefore, hsign, hsome, hdigits, hbehind⟩, hlt⟩
    refine ⟨hlt, sign, digits, ?_, hsign, digits?_eq_some_iff.2 ⟨hsome, hdigits, rfl⟩⟩
    apply trim_append hbefore _ (List.append_ne_nil_of_right_ne_nil sign hsome) hbehind
    intro c hc
    rcases List.mem_append.1 hc with hc | hc
    · rcases hsign with rfl | rfl
      · cases hc
      · rw [List.mem_singleton.1 hc]
        rfl
    · exact isBlank_of_isDigit (hdigits c hc)

end BatchOperator.Text
