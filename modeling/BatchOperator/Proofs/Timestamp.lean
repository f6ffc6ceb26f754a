import BatchOperator.Proofs.Text.Numeral
import BatchOperator.Timestamp
import Mathlib.Tactic.IntervalCases

/-!
# Timestamps that come back

A point in time in one of the years 1 to 9999 is read back from its text without its fraction
(`Timestamp.parse?_render`), and its text is that of its whole seconds (`Timestamp.render_settled`).
A leap second has to be the last one of its minute, which all points in time are that were read from
a text (`Timestamp.isProper_of_parse?`).
-/

set_option autoImplicit false

namespace BatchOperator

/-! ## Dates -/

namespace Date

/-- The last day of a cycle year is there only if the year after it is a leap year. -/
theorem isLeap_of_last_day {day : Int} (h0 : 0 ≤ day) (h1 : day < 146097)
    (hlast : day - yearStart (yearOf day) = 365) (cycle : Int) :
    isLeap (400 * cycle + yearOf day + 1) = true := by
  simp only [isLeap, decide_eq_true_eq]
  simp only [yearOf, yearStart] at hlast ⊢
  generalize hcentury : min (day / 36524) 3 = century at *
  generalize hrest : day - century * 36524 = rest at *
  generalize hspan : rest / 1461 = span at *
  generalize hleft : rest - span * 1461 = left at *
  generalize hyear : min (left / 365) 3 = year at *
  have h4 : (century * 100 + span * 4 + year) / 4 = century * 25 + span := by omega
  have h100 : (century * 100 + span * 4 + year) / 100 = century := by omega
  rw [h4, h100] at hlast
  omega

/-- The lengths of the months from March to January. -/
theorem monthStart_succ_sub {month : Int} (h0 : 0 ≤ month) (h1 : month ≤ 10) :
    monthStart (month + 1) - monthStart month =
      if month = 1 ∨ month = 3 ∨ month = 6 ∨ month = 8 then 30 else 31 := by
  interval_cases month <;> rfl

/-- A day of the year lies in its month. -/
theorem monthStart_monthOf_bounds {day : Int} :
    monthStart (monthOf day) ≤ day ∧ day < monthStart (monthOf day + 1) := by
  simp only [monthStart, monthOf]
  omega

/-- The date of a day exists. -/
theorem isValid_ofDayNumber (days : Int) : (ofDayNumber days).isValid = true := by
  unfold ofDayNumber
  have h0 : 0 ≤ (days + 719468) % 146097 := by omega
  have h1 : (days + 719468) % 146097 < 146097 := by omega
  generalize (days + 719468) / 146097 = cycle at *
  generalize (days + 719468) % 146097 = day at *
  obtain ⟨-, -, hd0, hd1⟩ := yearOf_bounds h0 h1
  obtain ⟨hm0, hm1⟩ := monthOf_bounds hd0 hd1
  obtain ⟨hs0, hs1⟩ := @monthStart_monthOf_bounds (day - yearStart (yearOf day))
  have hleap := isLeap_of_last_day h0 h1
  simp only [ofDayOfCycle]
  -- Year and month can be any from here on that hold the day.
  generalize yearOf day = year at *
  generalize day - yearStart year = dayOfYear at *
  generalize monthOf dayOfYear = month at *
  split
  · -- March to December.
    have hlength := monthStart_succ_sub hm0 (by omega)
    simp only [isValid, monthLength, decide_eq_true_eq]
    rw [if_neg (by omega)]
    split at hlength <;> split <;> omega
  · obtain rfl | rfl : month = 10 ∨ month = 11 := by omega
    · have hjanuary : monthStart 10 = 306 := rfl
      have hfebruary : monthStart (10 + 1) = 337 := rfl
      rw [hjanuary] at hs0
      rw [hfebruary] at hs1
      simp [isValid, monthLength, hjanuary]
      omega
    · -- February is short, and a day longer only in a leap year.
      have hfebruary : monthStart 11 = 337 := rfl
      simp [isValid, monthLength, hfebruary] at hs0 ⊢
      split
      · omega
      · rename_i hnot
        have hnotLast : dayOfYear ≠ 365 := fun hlast => hnot (hleap hlast cycle)
        omega

end Date

/-! ## Numbers of a fixed width -/

namespace Timestamp

theorem takeDigits_append {digits : List Char} (h : ∀ c ∈ digits, '0' ≤ c ∧ c ≤ '9')
    (rest : List Char) : takeDigits digits.length (digits ++ rest) = (digits, rest) := by
  induction digits with
  | nil => cases rest <;> rfl
  | cons c digits ih =>
    have hc := h c List.mem_cons_self
    rw [List.length_cons, List.cons_append, takeDigits, if_pos hc,
      ih fun d hd => h d (List.mem_cons_of_mem c hd)]

theorem digitChar_bounds : ∀ d < 10, '0' ≤ Text.digitChar d ∧ Text.digitChar d ≤ '9' := by decide

theorem isBlank_digitChar : ∀ d < 10, Text.isBlank (Text.digitChar d) = false := by decide

/-- Nothing is trimmed in front of a digit. -/
theorem trimStart_padded {width : Nat} (hwidth : 0 < width) (n : Nat) (rest : List Char) :
    Text.trimStart (Text.padded width n ++ rest) = Text.padded width n ++ rest := by
  obtain ⟨d, digits, hd, h⟩ := Text.exists_padded_eq_cons hwidth n
  rw [h, List.cons_append]
  exact Text.trimStart_cons (isBlank_digitChar d hd) _

/-- A number of a fixed width is read again. -/
theorem number?_padded {width n : Nat} (hwidth : 0 < width) (hn : n < 10 ^ width)
    (rest : List Char) : number? width (Text.padded width n ++ rest) = some (n, rest) := by
  have hdigits : ∀ c ∈ Text.padded width n, '0' ≤ c ∧ c ≤ '9' := by
    intro c hc
    obtain ⟨d, hd, rfl⟩ := Text.exists_of_mem_padded hc
    exact digitChar_bounds d hd
  have htake := takeDigits_append hdigits rest
  rw [Text.length_padded] at htake
  rw [number?, trimStart_padded hwidth, htake]
  simp only [Text.digits?_padded hwidth hn]

/-! ## Points in time -/

/-- The year of a point in time in universal time. -/
def year (t : Timestamp) : Int := (Date.ofDayNumber (t.seconds / 86400)).year

/-- The year of a point in time has at most four digits and is none before the first. -/
def IsInRange (t : Timestamp) : Prop := 1 ≤ t.year ∧ t.year ≤ 9999

/-- A leap second is the last one of its minute. -/
def IsProper (t : Timestamp) : Prop := 1000000000 ≤ t.nanos → t.seconds % 60 = 59

/-- A whole second of a year with at most four digits. -/
structure IsOrdinary (t : Timestamp) : Prop where
  inRange : t.IsInRange
  whole : t.nanos = 0

/-- What can be read again from its text. -/
structure IsLegible (t : Timestamp) : Prop where
  inRange : t.IsInRange
  proper : t.IsProper

/-- The point in time without its fraction. -/
def settled (t : Timestamp) : Timestamp :=
  { t with nanos := if 1000000000 ≤ t.nanos then 1000000000 else 0 }

/-- A digit is no sign. -/
theorem digitChar_ne_sign : ∀ d < 10, Text.digitChar d ≠ '-' ∧ Text.digitChar d ≠ '+' := by decide

/-- A year of four digits is read again. -/
theorem year?_padded {n : Nat} (hn : n < 10000) (rest : List Char) :
    year? (Text.padded 4 n ++ rest) = some ((n : Int), rest) := by
  have hnumber := number?_padded (by decide : 0 < 4) hn rest
  obtain ⟨d, digits, hd, h⟩ := Text.exists_padded_eq_cons (by decide : 0 < 4) n
  obtain ⟨hminus, hplus⟩ := digitChar_ne_sign d hd
  rw [year?, trimStart_padded (by decide)]
  rw [h, List.cons_append] at hnumber ⊢
  simp [hminus, hplus, hnumber]

theorem behind?_self {c : Char} (h : Text.isBlank c = false) (rest : List Char) :
    behind? c (c :: rest) = some rest := by
  rw [behind?, Text.trimStart_cons h]
  exact if_pos rfl

/-- A date that was written is read again. -/
theorem date?_written {d : Date} (hvalid : d.isValid = true) (hyear : 1 ≤ d.year ∧ d.year ≤ 9999)
    (rest : List Char) :
    date? (yearChars d.year ++ '-' :: (Text.padded 2 d.month.toNat ++
      '-' :: (Text.padded 2 d.day.toNat ++ rest))) = some (d, rest) := by
  have hdate := of_decide_eq_true hvalid
  have hlength : Date.monthLength d.year d.month ≤ 31 := by
    unfold Date.monthLength
    split <;> split <;> omega
  have hmonth : (d.month.toNat : Int) = d.month := Int.toNat_of_nonneg (by omega)
  have hday : (d.day.toNat : Int) = d.day := Int.toNat_of_nonneg (by omega)
  have hyearNat : (d.year.toNat : Int) = d.year := Int.toNat_of_nonneg (by omega)
  rw [yearChars, if_pos ⟨by omega, hyear.2⟩]
  simp only [date?, year?_padded (by omega : d.year.toNat < 10000), behind?_self (c := '-') rfl,
    number?_padded (by decide : 0 < 2) (by omega : d.month.toNat < 10 ^ 2),
    number?_padded (by decide : 0 < 2) (by omega : d.day.toNat < 10 ^ 2), bind, Option.bind_some,
    hmonth, hday, hyearNat]
  exact if_pos ⟨by simp only [firstYear]; omega, by simp only [lastYear]; omega, hvalid⟩

/-- A time of day that was written in whole seconds is read again. -/
theorem timeOfDay?_written {hour minute second : Nat} (hhour : hour < 24) (hminute : minute < 60)
    (hsecond : second ≤ 60) :
    timeOfDay? (Text.padded 2 hour ++ ':' :: (Text.padded 2 minute ++
      ':' :: (Text.padded 2 second ++ ['Z']))) =
        if second = 60 then some (hour * 3600 + minute * 60 + 59, 1000000000, ['Z'])
        else some (hour * 3600 + minute * 60 + second, 0, ['Z']) := by
  have hfraction : fraction? ['Z'] = some (0, ['Z']) := rfl
  simp only [timeOfDay?, behind?_self (c := ':') rfl,
    number?_padded (by decide : 0 < 2) (by omega : hour < 10 ^ 2),
    number?_padded (by decide : 0 < 2) (by omega : minute < 10 ^ 2),
    number?_padded (by decide : 0 < 2) (by omega : second < 10 ^ 2), bind, Option.bind_some,
    hfraction]
  exact if_pos ⟨hhour, hminute, hsecond⟩

/-- The second of a day that was written is read again, and so is the mark of a leap second. -/
theorem timeOfDay?_ofSecond {second nanos : Nat} (hsecond : second < 86400)
    (hleap : 1000000000 ≤ nanos → second % 60 = 59) :
    timeOfDay? (Text.padded 2 (second / 3600) ++ ':' :: (Text.padded 2 (second / 60 % 60) ++
      ':' :: (Text.padded 2 (second % 60 + if 1000000000 ≤ nanos then 1 else 0) ++ ['Z']))) =
        some (second, if 1000000000 ≤ nanos then 1000000000 else 0, ['Z']) := by
  have hhour : second / 3600 < 24 := by omega
  have hminute : second / 60 % 60 < 60 := by omega
  by_cases hnanos : 1000000000 ≤ nanos
  · have hlast := hleap hnanos
    rw [if_pos hnanos, if_pos hnanos, timeOfDay?_written hhour hminute (by omega),
      if_pos (by omega)]
    have hwhole : second / 3600 * 3600 + second / 60 % 60 * 60 + 59 = second := by omega
    rw [hwhole]
  · rw [if_neg hnanos, if_neg hnanos, timeOfDay?_written hhour hminute (by omega),
      if_neg (by omega)]
    have hwhole : second / 3600 * 3600 + second / 60 % 60 * 60 + (second % 60 + 0) = second := by
      omega
    rw [hwhole]

/-- The text of a point in time is read again without the fraction. -/
theorem parse?_render {t : Timestamp} (hlegible : t.IsLegible) :
    parse? t.render = some t.settled := by
  obtain ⟨hrange, hproper⟩ := hlegible
  have hdate := date?_written (Date.isValid_ofDayNumber (t.seconds / 86400)) hrange
  have hnumber := Date.dayNumber_ofDayNumber (t.seconds / 86400)
  have hsecond : ((t.seconds % 86400).toNat : Int) = t.seconds % 86400 :=
    Int.toNat_of_nonneg (by omega)
  have htime := @timeOfDay?_ofSecond (t.seconds % 86400).toNat t.nanos (by omega) fun hnanos => by
    have hlast := hproper hnanos
    omega
  have hrest : offset? (Text.trimStart ['Z']) = some (0, []) := rfl
  have hend : (Text.trimStart []).isEmpty = true := rfl
  simp only [parse?, parseChars?, render, chars, String.toList_ofList, List.append_assoc,
    List.cons_append, hdate, bind, Option.bind_some, ge_iff_le, true_or, if_true, htime, hrest,
    hend, hnumber, hsecond, settled, Int.sub_zero, Int.ediv_mul_add_emod]

/-- A point in time and the same one without its fraction have the same text. -/
theorem render_settled (t : Timestamp) : t.settled.render = t.render := by
  by_cases h : 1000000000 ≤ t.nanos
  · simp [render, chars, settled, h]
  · simp [render, chars, settled, h]

theorem settled_of_nanos_eq_zero {t : Timestamp} (h : t.nanos = 0) : t.settled = t := by
  obtain ⟨seconds, nanos⟩ := t
  cases h
  rfl

theorem IsOrdinary.isLegible {t : Timestamp} (h : t.IsOrdinary) : t.IsLegible where
  inRange := h.inRange
  proper := fun hleap => by
    rw [h.whole] at hleap
    cases hleap

/-! ## What was read -/

theorem length_takeDigits_le (most : Nat) (text : List Char) :
    (takeDigits most text).1.length ≤ most := by
  induction most generalizing text with
  | zero => exact Nat.le_refl 0
  | succ most ih =>
    cases text with
    | nil => exact Nat.zero_le _
    | cons c rest =>
      rw [takeDigits]
      split
      · exact Nat.succ_le_succ (ih rest)
      · exact Nat.zero_le _

/-- A fraction is less than a second. -/
theorem lt_of_fraction? {text rest : List Char} {nanos : Nat}
    (h : fraction? text = some (nanos, rest)) : nanos < 1000000000 := by
  unfold fraction? at h
  split at h
  · rename_i digits
    have hlength := length_takeDigits_le 9 digits
    generalize takeDigits 9 digits = split at *
    simp only at h
    split at h
    · rename_i n hn
      have hbound := Text.lt_of_digits? hn
      injection h with h
      injection h with h _
      calc nanos = n * 10 ^ (9 - split.1.length) := h.symm
        _ < 10 ^ split.1.length * 10 ^ (9 - split.1.length) :=
          Nat.mul_lt_mul_of_pos_right hbound (Nat.pow_pos (by decide))
        _ = 10 ^ 9 := by rw [← Nat.pow_add, Nat.add_sub_cancel' hlength]
    · cases h
  · injection h with h
    injection h with h _
    omega

/-- Only the sixtieth second has the mark of a leap second, and it is told as the second before. -/
theorem last_of_timeOfDay? {text rest : List Char} {second nanos : Nat}
    (h : timeOfDay? text = some (second, nanos, rest)) (hleap : 1000000000 ≤ nanos) :
    second % 60 = 59 := by
  simp only [timeOfDay?, bind, Option.bind_eq_some_iff] at h
  obtain ⟨⟨hour, _⟩, _, _, _, ⟨minute, _⟩, _, _, _, ⟨last, _⟩, _, ⟨fraction, _⟩, hfraction, h⟩ := h
  have hbound := lt_of_fraction? hfraction
  split at h
  · split at h
    · cases h
      omega
    · cases h
      omega
  · cases h

/-- An offset is a number of whole minutes. -/
theorem emod_of_offset? {text rest : List Char} {offset : Int}
    (h : offset? text = some (offset, rest)) : offset % 60 = 0 := by
  unfold offset? at h
  extract_lets signed at h
  have hsigned (negative : Bool) (digits : List Char)
      (h : signed negative digits = some (offset, rest)) : offset % 60 = 0 := by
    simp only [signed, bind, Option.bind_eq_some_iff] at h
    obtain ⟨⟨hours, _⟩, _, ⟨minutes, _⟩, _, h⟩ := h
    split at h
    · cases h
      split <;> omega
    · cases h
  split at h
  · rename_i u t c digits
    by_cases hname : u.toUpper = 'U' ∧ t.toUpper = 'T' ∧ c.toUpper = 'C'
    · rw [if_pos hname] at h
      cases h
      rfl
    rw [if_neg hname] at h
    by_cases hletter : u = 'Z' ∨ u = 'z'
    · rw [if_pos hletter] at h
      cases h
      rfl
    rw [if_neg hletter] at h
    split at h
    · exact hsigned false _ h
    · split at h
      · exact hsigned true _ h
      · cases h
  · split at h <;> cases h
    rfl
  · cases h

/-- What was read has a leap second at the end of a minute only. -/
theorem isProper_of_parse? {text : String} {t : Timestamp} (h : parse? text = some t) :
    t.IsProper := by
  intro hleap
  obtain ⟨⟨date, behind⟩, -, h⟩ := Option.bind_eq_some_iff.1 h
  -- A letter has to stand between the date and the time.
  cases behind with
  | nil => cases h
  | cons c clock =>
    simp only at h
    split at h
    · simp only [bind, Option.bind_some, Option.bind_eq_some_iff] at h
      obtain ⟨⟨second, nanos, _⟩, htime, ⟨offset, _⟩, hoffset, h⟩ := h
      have hwhole := emod_of_offset? hoffset
      split at h
      · cases h
        have hlast := last_of_timeOfDay? htime hleap
        simp only
        omega
      · cases h
    · cases h

end Timestamp

end BatchOperator
