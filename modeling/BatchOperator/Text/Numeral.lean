/-!
# Decimal numerals

Reading unsigned numerals (an optional plus sign and at least one decimal digit) and writing
natural numbers with a fixed number of digits.
-/

set_option autoImplicit false

namespace BatchOperator.Text

/-- The value of a decimal digit. -/
def digit? (c : Char) : Option Nat :=
  if '0' ≤ c ∧ c ≤ '9' then some (c.toNat - '0'.toNat) else none

/-- The number that `acc` becomes when the given digits are written behind it; `none` when one of
the characters is no digit. -/
def appendDigits? (acc : Nat) : List Char → Option Nat
  | [] => some acc
  | c :: rest => match digit? c with
    | some d => appendDigits? (acc * 10 + d) rest
    | none => none

/-- The number written by one or more decimal digits. -/
def digits? : List Char → Option Nat
  | [] => none
  | text => appendDigits? 0 text

/-- An unsigned numeral below `limit`: an optional plus sign, then one or more decimal digits. -/
def unsigned? (limit : Nat) (text : List Char) : Option Nat :=
  let digits := match text with
    | '+' :: rest => rest
    | _ => text
  match digits? digits with
  | some n => if n < limit then some n else none
  | none => none

/-- The bound of the 64-bit numerals that settings and versions are written in. -/
def wordLimit : Nat := 18446744073709551616

/-- The character of a digit below ten. -/
def digitChar (d : Nat) : Char := Char.ofNat ('0'.toNat + d)

/-- The last `width` decimal digits of `n`, with leading zeros. -/
def padded : Nat → Nat → List Char
  | 0, _ => []
  | width + 1, n => padded width (n / 10) ++ [digitChar (n % 10)]

/-- A padded number has as many digits as were asked for. -/
theorem length_padded (width n : Nat) : (padded width n).length = width := by
  induction width generalizing n with
  | zero => rfl
  | succ width ih => simp [padded, ih]

/-- `n` in decimal, with leading zeros up to `width` digits and more digits if it needs them. -/
def atLeast (width n : Nat) : List Char :=
  let plain := (toString n).toList
  List.replicate (width - plain.length) '0' ++ plain

end BatchOperator.Text
