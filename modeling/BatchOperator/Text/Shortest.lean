/-!
# Whole numbers in binary floating point

Counts are reported as binary floating point numbers of 53 digits: a count that needs more digits is
rounded to the nearest such number, and of two equally near ones to the even one. What is written is
the whole number with the fewest digits before its zeros that is rounded to the same floating point
number, and of several the one nearest to it.
-/

set_option autoImplicit false

namespace BatchOperator.Text

/-- A floating point number that is a whole number. -/
structure WholeFloat where
  mantissa : Nat
  exponent : Nat
  deriving DecidableEq, Repr

namespace WholeFloat

/-- How many binary digits a mantissa has. -/
def precision : Nat := 53

/-- The value of a floating point number. -/
def value (f : WholeFloat) : Nat := f.mantissa * Nat.pow 2 f.exponent

/-- The floating point number nearest to a whole number. -/
def nearest (n : Nat) : WholeFloat :=
  let exponent := n.log2 + 1 - precision
  let unit := Nat.pow 2 exponent
  let rest := n % unit
  -- A number half way between two is rounded to the even one.
  let isUp := 2 * rest > unit || (2 * rest = unit && n / unit % 2 = 1)
  let mantissa := if isUp then n / unit + 1 else n / unit
  -- Rounding up may need one binary digit more.
  if mantissa = Nat.pow 2 precision then { mantissa := mantissa / 2, exponent := exponent + 1 }
  else { mantissa, exponent }

/-- Whether a whole number is rounded to a floating point number. -/
def isNearest (f : WholeFloat) (n : Nat) : Bool := nearest n = f

/-- The number nearest to a floating point number among the two multiples of `unit` around it that
are rounded to it. -/
def multiple? (f : WholeFloat) (unit : Nat) : Option Nat :=
  let below := f.value / unit * unit
  let above := below + unit
  if f.isNearest below && (!f.isNearest above || f.value - below ≤ above - f.value) then some below
  else if f.isNearest above then some above
  else none

/-- The number with the fewest digits that is rounded to a floating point number, among those that
end in at most `zeros` zeros. -/
def shortestWithin (f : WholeFloat) : Nat → Nat
  | 0 => f.value
  | zeros + 1 => (f.multiple? (Nat.pow 10 (zeros + 1))).getD (shortestWithin f zeros)

/-- The number with the fewest digits that is rounded to a floating point number. -/
def shortest (f : WholeFloat) : Nat := f.shortestWithin f.exponent

end WholeFloat

/-- The text of a count. -/
def count (n : Nat) : String := toString (WholeFloat.nearest n).shortest

end BatchOperator.Text
