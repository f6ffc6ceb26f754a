import BatchOperator.Json.Parser

/-!
# Strings and numbers in documents

A string that was written is read again whatever characters it has, and stands for itself without
any control character (`readString_stringTail`, `space_le_of_mem_stringTail`). A whole number is
read again in front of a text that does not go on with the number (`readNumber_int`).
-/

set_option autoImplicit false

namespace BatchOperator.Json

/-! ## Strings -/

/-- A character is written as a short escape, as an escaped code point, or as it is. -/
theorem escaped_cases (c : Char) :
    (∃ e, escaped c = ['\\', e] ∧ shortEscape? e = some c ∧ e ≠ 'u' ∧ 0x20 ≤ e.toNat) ∨
      (c.toNat < 0x20 ∧ escaped c =
        ['\\', 'u', '0', '0', hexDigit (c.toNat / 16), hexDigit (c.toNat % 16)]) ∨
      (escaped c = [c] ∧ c ≠ '"' ∧ c ≠ '\\' ∧ 0x20 ≤ c.toNat) := by
  by_cases hquote : c = '"'
  · subst hquote; exact .inl ⟨'"', rfl, rfl, by decide, by decide⟩
  by_cases hbackslash : c = '\\'
  · subst hbackslash; exact .inl ⟨'\\', rfl, rfl, by decide, by decide⟩
  by_cases hbackspace : c = '\x08'
  · subst hbackspace; exact .inl ⟨'b', rfl, rfl, by decide, by decide⟩
  by_cases hformFeed : c = '\x0c'
  · subst hformFeed; exact .inl ⟨'f', rfl, rfl, by decide, by decide⟩
  by_cases hlineFeed : c = '\n'
  · subst hlineFeed; exact .inl ⟨'n', rfl, rfl, by decide, by decide⟩
  by_cases hreturn : c = '\r'
  · subst hreturn; exact .inl ⟨'r', rfl, rfl, by decide, by decide⟩
  by_cases htab : c = '\t'
  · subst htab; exact .inl ⟨'t', rfl, rfl, by decide, by decide⟩
  right
  simp only [escaped, hquote, hbackslash, hbackspace, hformFeed, hlineFeed, hreturn, htab, if_false]
  by_cases hlow : c.toNat < 0x20
  · exact .inl ⟨hlow, if_pos hlow⟩
  · exact .inr ⟨if_neg hlow, hquote, hbackslash, by omega⟩

theorem hexValue?_hexDigit : ∀ d < 16, hexValue? (hexDigit d) = some d := by decide

theorem space_le_hexDigit : ∀ d < 16, 0x20 ≤ (hexDigit d).toNat := by decide

/-- An escaped control character is read as the character that it stands for. -/
theorem hex4?_hexDigit {n : Nat} (h : n < 0x20) :
    hex4? '0' '0' (hexDigit (n / 16)) (hexDigit (n % 16)) = some n := by
  have hzero : hexValue? '0' = some 0 := rfl
  have hhigh := hexValue?_hexDigit (n / 16) (by omega)
  have hlow := hexValue?_hexDigit (n % 16) (by omega)
  simp only [hex4?, hzero, hhigh, hlow, bind, Option.bind, pure, Option.some.injEq]
  omega

/-- A character that was written is read again, and the rest of the string behind it. -/
theorem readString_escaped (c : Char) (rest : List Char) :
    readString none (escaped c ++ rest) = addChar c (readString none rest) := by
  obtain ⟨e, heq, hshort, hne, -⟩ | ⟨hlow, heq⟩ | ⟨heq, hquote, hbackslash, hprint⟩ :=
    escaped_cases c <;> rw [heq]
  · simp [readString, hne, hshort]
  · simp only [List.cons_append, List.nil_append, readString, hex4?_hexDigit hlow]
    rw [if_neg (by omega), if_neg (by omega), Char.ofNat_toNat]
  · rw [List.singleton_append, readString]
    · simp [hquote, Nat.not_lt.2 hprint]
    all_goals simp [hbackslash]

/-- A string that was written is read again, with the text behind it. -/
theorem readString_stringTail (chars rest : List Char) :
    readString none (stringTail chars ++ rest) = .ok (chars, rest) := by
  induction chars with
  | nil => simp [stringTail, readString]
  | cons c chars ih => rw [stringTail, List.append_assoc, readString_escaped, ih, addChar]

theorem space_le_of_mem_escaped {c d : Char} (h : d ∈ escaped c) : 0x20 ≤ d.toNat := by
  obtain ⟨e, heq, -, -, hprint⟩ | ⟨hlow, heq⟩ | ⟨heq, -, -, hprint⟩ := escaped_cases c <;>
    rw [heq] at h
  · simp only [List.mem_cons, List.not_mem_nil, or_false] at h
    rcases h with rfl | rfl
    · decide
    · exact hprint
  · have hhigh := space_le_hexDigit (c.toNat / 16) (by omega)
    have hrest := space_le_hexDigit (c.toNat % 16) (by omega)
    simp only [List.mem_cons, List.not_mem_nil, or_false] at h
    rcases h with rfl | rfl | rfl | rfl | rfl | rfl
    · decide
    · decide
    · decide
    · decide
    · exact hhigh
    · exact hrest
  · rw [List.mem_singleton.1 h]
    exact hprint

/-- Nothing that is written for a string is a control character. -/
theorem space_le_of_mem_stringTail {chars : List Char} {d : Char} (h : d ∈ stringTail chars) :
    0x20 ≤ d.toNat := by
  induction chars with
  | nil =>
    rw [List.mem_singleton.1 h]
    decide
  | cons c chars ih =>
    rcases List.mem_append.1 h with h | h
    · exact space_le_of_mem_escaped h
    · exact ih h

/-! ## Numbers -/

/-- A text behind a whole number does not go on with it. -/
def EndsNumber (text : List Char) : Prop :=
  ∀ c ∈ text.head?, isDecimal c = false ∧ c ≠ '.' ∧ c ≠ 'e' ∧ c ≠ 'E'

theorem spanDigits_append {digits rest : List Char} (hdigits : ∀ c ∈ digits, isDecimal c = true)
    (hrest : EndsNumber rest) : spanDigits (digits ++ rest) = (digits, rest) := by
  induction digits with
  | nil =>
    cases rest with
    | nil => rfl
    | cons c rest => simp [spanDigits, (hrest c rfl).1]
  | cons c digits ih =>
    have hc := hdigits c (by simp)
    have hih := ih fun d hd => hdigits d (by simp [hd])
    simp [spanDigits, hc, hih]

theorem decimalValue_toDigits (n : Nat) : decimalValue (Nat.toDigits 10 n) = n := by
  have hvalue := Nat.ofDigitChars_ten_toDigits (n := n)
  rw [Nat.ofDigitChars_eq_foldl] at hvalue
  simp only [decimalValue, Nat.mul_comm _ 10]
  exact hvalue

/-- The digits of a number start with a zero only if there is no other digit. -/
theorem toDigits_cases (n : Nat) : Nat.toDigits 10 n = ['0'] ∨
    ∃ d digits, Nat.toDigits 10 n = d :: digits ∧ d ≠ '0' := by
  induction n using Nat.strongRecOn with
  | ind n ih =>
    rw [Nat.toDigits_eq_if (by decide)]
    split
    · by_cases hzero : n = 0
      · exact .inl (by rw [hzero]; rfl)
      · exact .inr ⟨n.digitChar, [], rfl, by simpa using hzero⟩
    · rename_i hlarge
      -- The digits in front are those of a smaller number that is not zero.
      rcases ih (n / 10) (by omega) with hzero | ⟨d, digits, hdigits, hne⟩
      · have hvalue := decimalValue_toDigits (n / 10)
        rw [hzero] at hvalue
        have : n / 10 = 0 := hvalue.symm
        omega
      · exact .inr ⟨d, digits ++ [Nat.digitChar (n % 10)], by rw [hdigits]; rfl, hne⟩

theorem readWhole_toDigits (n : Nat) {rest : List Char} (hrest : EndsNumber rest) :
    readWhole (Nat.toDigits 10 n ++ rest) = .ok (Nat.toDigits 10 n, rest) := by
  have hdigits : ∀ c ∈ Nat.toDigits 10 n, isDecimal c = true :=
    fun c hc => Nat.isDigit_of_mem_toDigits (by decide) (by decide) hc
  rw [readWhole, spanDigits_append hdigits hrest]
  rcases toDigits_cases n with hzero | ⟨d, digits, heq, hne⟩
  · rw [hzero]
    rfl
  · rw [heq]
    simp [hne]

theorem readFraction_of_endsNumber {rest : List Char} (hrest : EndsNumber rest) :
    readFraction rest = .ok ([], rest) := by
  cases rest with
  | nil => rfl
  | cons c rest => simp [readFraction, (hrest c rfl).2.1]

theorem readExponent_of_endsNumber {rest : List Char} (hrest : EndsNumber rest) :
    readExponent rest = .ok ([], rest) := by
  cases rest with
  | nil => rfl
  | cons c rest => simp [readExponent, (hrest c rfl).2.2]

/-- A whole number is written as its digits, with a sign in front of them if it is below zero. -/
theorem toList_toString_int (value : Int) :
    (0 ≤ value ∧ (toString value).toList = Nat.toDigits 10 value.natAbs) ∨
      (value < 0 ∧ (toString value).toList = '-' :: Nat.toDigits 10 value.natAbs) := by
  cases value with
  | ofNat n =>
    refine .inl ⟨Int.natCast_nonneg n, ?_⟩
    show (toString n).toList = Nat.toDigits 10 n
    rw [Nat.toString_eq_repr, Nat.toList_repr]
  | negSucc n =>
    refine .inr ⟨Int.negSucc_lt_zero n, ?_⟩
    show ("-" ++ toString (n + 1)).toList = '-' :: Nat.toDigits 10 (n + 1)
    rw [Nat.toString_eq_repr, String.toList_append, Nat.toList_repr]
    rfl

/-- Digits start with a digit. -/
theorem exists_toDigits_eq_cons (n : Nat) :
    ∃ d digits, Nat.toDigits 10 n = d :: digits ∧ isDecimal d = true := by
  cases h : Nat.toDigits 10 n with
  | nil => exact absurd h Nat.toDigits_ne_nil
  | cons d digits =>
    refine ⟨d, digits, rfl, Nat.isDigit_of_mem_toDigits (b := 10) (n := n) ?_ ?_ ?_⟩
    · decide
    · decide
    · rw [h]
      exact List.mem_cons_self

/-- A whole number that was written is read again, with the text behind it. -/
theorem readNumber_int (value : Int) {rest : List Char} (hrest : EndsNumber rest) :
    readNumber ((toString value).toList ++ rest) = .ok (.int value, rest) := by
  have hwhole := readWhole_toDigits value.natAbs hrest
  have hfraction := readFraction_of_endsNumber hrest
  have hexponent := readExponent_of_endsNumber hrest
  have hvalue := decimalValue_toDigits value.natAbs
  obtain ⟨hsign, htext⟩ | ⟨hsign, htext⟩ := toList_toString_int value
  · obtain ⟨d, digits, heq, hd⟩ := exists_toDigits_eq_cons value.natAbs
    have hne : d ≠ '-' := by
      rintro rfl
      cases hd
    rw [heq, List.cons_append] at hwhole
    rw [heq] at hvalue
    rw [htext, heq, List.cons_append]
    simp [readNumber, hne, hwhole, hfraction, hexponent, hvalue, Int.natAbs_of_nonneg hsign]
  · have hne : value.natAbs ≠ 0 := by omega
    have hneg : value = -(value.natAbs : Int) := by omega
    rw [htext, List.cons_append]
    generalize value.natAbs = n at *
    subst hneg
    simp [readNumber, hwhole, hfraction, hexponent, hvalue, hne]

end BatchOperator.Json
