import BatchOperator.Text.Numeral

/-!
# Durations and instants

A duration is a number of whole seconds of one machine word and a number of nanoseconds below one
second. `nanoseconds` is its exact length; the order, the sums and the products of durations are
those of their lengths. An instant is a number of nanoseconds since the clock was started.
-/

set_option autoImplicit false

namespace BatchOperator

/-- The nanoseconds of a second. -/
def nanosPerSecond : Nat := 1000000000

/-- A length of time: whole seconds and the nanoseconds behind them. -/
structure Duration where
  seconds : Nat
  nanos : Nat
  seconds_lt : seconds < Text.wordLimit
  nanos_lt : nanos < nanosPerSecond
  deriving DecidableEq

/-- A point in time, in nanoseconds since the clock was started. -/
abbrev Instant := Nat

namespace Duration

/-- The length in nanoseconds. -/
def nanoseconds (d : Duration) : Nat := d.seconds * nanosPerSecond + d.nanos

/-- Durations of the same length are equal. -/
theorem ext_nanoseconds {d e : Duration} (h : d.nanoseconds = e.nanoseconds) : d = e := by
  obtain ⟨s, n, hs, hn⟩ := d
  obtain ⟨s', n', hs', hn'⟩ := e
  simp only [nanoseconds, nanosPerSecond] at h hn hn'
  have hs : s = s' := by omega
  have hn : n = n' := by omega
  subst hs hn
  rfl

/-- No time at all. -/
def zero : Duration := ⟨0, 0, by decide, by decide⟩

instance : Inhabited Duration := ⟨zero⟩

/-- Whether the duration is no time at all. -/
def isZero (d : Duration) : Bool := d.seconds == 0 && d.nanos == 0

/-- The duration of the given length, if its seconds fit a machine word. -/
def ofNanoseconds? (n : Nat) : Option Duration :=
  if h : n / nanosPerSecond < Text.wordLimit then
    some ⟨n / nanosPerSecond, n % nanosPerSecond, h, Nat.mod_lt _ (by decide)⟩
  else none

/-- The longest duration. -/
def longest : Duration := ⟨Text.wordLimit - 1, nanosPerSecond - 1, by decide, by decide⟩

/-- The duration of the given length, or the longest one if there is none of that length. -/
def ofNanoseconds (n : Nat) : Duration := (ofNanoseconds? n).getD longest

/-- The given number of whole seconds, or the longest duration if that is too much. -/
def ofSeconds (n : Nat) : Duration := ofNanoseconds (n * nanosPerSecond)

/-- The given number of milliseconds, or the longest duration if that is too much. -/
def ofMillis (n : Nat) : Duration := ofNanoseconds (n * 1000000)

/-- The given number of whole seconds, if it fits a machine word. -/
def ofSeconds? (n : Nat) : Option Duration := ofNanoseconds? (n * nanosPerSecond)

/-- The given number of milliseconds, if its seconds fit a machine word. -/
def ofMillis? (n : Nat) : Option Duration :=
  ofNanoseconds? (n * 1000000)

/-- Seconds and nanoseconds of which those beyond a second are carried over. -/
def ofParts? (seconds nanos : Nat) : Option Duration :=
  ofNanoseconds? (seconds * nanosPerSecond + nanos)

/-- Whether `d` is no longer than `e`: the seconds decide, or the nanoseconds if those are equal. -/
def atMost (d e : Duration) : Bool :=
  d.seconds < e.seconds || (d.seconds == e.seconds && d.nanos ≤ e.nanos)

/-- Durations compare like their lengths. -/
theorem atMost_iff {d e : Duration} : d.atMost e = true ↔ d.nanoseconds ≤ e.nanoseconds := by
  obtain ⟨s, n, hs, hn⟩ := d
  obtain ⟨s', n', hs', hn'⟩ := e
  simp only [nanosPerSecond] at hn hn'
  simp only [atMost, nanoseconds, nanosPerSecond, Bool.or_eq_true, Bool.and_eq_true,
    decide_eq_true_eq, beq_iff_eq]
  omega

/-- The shorter of two durations. -/
def shorter (d e : Duration) : Duration := if d.atMost e then d else e

theorem nanoseconds_shorter (d e : Duration) :
    (d.shorter e).nanoseconds = min d.nanoseconds e.nanoseconds := by
  unfold shorter
  split
  · rename_i h
    exact (Nat.min_eq_left (atMost_iff.1 h)).symm
  · rename_i h
    exact (Nat.min_eq_right (Nat.le_of_lt (Nat.lt_of_not_le (h ∘ atMost_iff.2)))).symm

/-- Every duration is shorter than the seconds that do not fit a machine word any more. -/
theorem nanoseconds_lt (d : Duration) : d.nanoseconds < Text.wordLimit * nanosPerSecond := by
  have hseconds := Nat.mul_le_mul_right nanosPerSecond (Nat.succ_le_of_lt d.seconds_lt)
  rw [Nat.succ_mul] at hseconds
  have hnanos := d.nanos_lt
  unfold nanoseconds
  omega

/-- The product of a duration and a number, with the nanoseconds carried into the seconds; `none`
when the seconds do not fit a machine word. -/
def times? (d : Duration) (k : Nat) : Option Duration :=
  if h : d.seconds * k + d.nanos * k / nanosPerSecond < Text.wordLimit then
    some ⟨_, d.nanos * k % nanosPerSecond, h, Nat.mod_lt _ (by decide)⟩
  else none

/-- The length of a product is the product of the lengths. -/
theorem nanoseconds_of_times? {d e : Duration} {k : Nat} (h : d.times? k = some e) :
    e.nanoseconds = d.nanoseconds * k := by
  unfold times? at h
  split at h
  · cases h
    -- The whole seconds among the nanoseconds are what is carried.
    have := Nat.div_add_mod (d.nanos * k) nanosPerSecond
    simp only [nanoseconds, Nat.add_mul]
    have h1 : d.seconds * k * nanosPerSecond = d.seconds * nanosPerSecond * k := by
      rw [Nat.mul_assoc, Nat.mul_comm k, ← Nat.mul_assoc]
    rw [h1, Nat.mul_comm (d.nanos * k / nanosPerSecond)]
    omega
  · simp at h

/-- There is no product just when its length is more than any duration has. -/
theorem times?_eq_none_iff {d : Duration} {k : Nat} :
    d.times? k = none ↔ Text.wordLimit * nanosPerSecond ≤ d.nanoseconds * k := by
  have hlength : d.nanoseconds * k = d.nanos * k + nanosPerSecond * (d.seconds * k) := by
    rw [nanoseconds, Nat.add_mul, Nat.mul_right_comm, Nat.mul_comm (d.seconds * k), Nat.add_comm]
  have hseconds : d.seconds * k + d.nanos * k / nanosPerSecond =
      d.nanoseconds * k / nanosPerSecond := by
    rw [hlength, Nat.add_mul_div_left _ _ (by decide), Nat.add_comm]
  rw [← Nat.le_div_iff_mul_le (by decide), ← hseconds]
  unfold times?
  split
  · rename_i h
    exact iff_of_false nofun (Nat.not_le_of_lt h)
  · rename_i h
    exact iff_of_true rfl (Nat.le_of_not_lt h)

/-- The decimals of `n` out of `10 ^ width`, without trailing zeros; `none` if nothing is left. -/
def decimals (width n : Nat) : List Char :=
  let digits := ((Text.padded width n).reverse.dropWhile (· == '0')).reverse
  if digits.isEmpty then [] else '.' :: digits

/-- The text of a duration in the largest unit of which it holds at least one: seconds,
milliseconds, microseconds or nanoseconds, with as many decimals as it needs. -/
def render (d : Duration) : String :=
  let scaled (whole fraction width : Nat) (unit : String) : String :=
    toString whole ++ String.ofList (decimals width fraction) ++ unit
  if d.seconds > 0 then scaled d.seconds d.nanos 9 "s"
  else if d.nanos ≥ 1000000 then scaled (d.nanos / 1000000) (d.nanos % 1000000) 6 "ms"
  else if d.nanos ≥ 1000 then scaled (d.nanos / 1000) (d.nanos % 1000) 3 "µs"
  else toString d.nanos ++ "ns"

end Duration

end BatchOperator
