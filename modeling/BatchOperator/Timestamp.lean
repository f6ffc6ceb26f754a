import BatchOperator.Calendar
import BatchOperator.Text.Blank
import BatchOperator.Text.Numeral

/-!
# Points in time as objects carry them

A timestamp is read from an RFC 3339 text with any offset, in a lenient form: numbers may be short,
blanks may stand in front of numbers and separators, the letters may be small, and a blank may stand
between date and time. It keeps its fraction for comparisons, but is written in whole seconds of
universal time.
-/

set_option autoImplicit false

namespace BatchOperator

/-- A point in time: whole seconds since 1970-01-01 in universal time, and the nanoseconds behind
them. A leap second is the second before it with a thousand million nanoseconds more. -/
structure Timestamp where
  seconds : Int
  nanos : Nat
  deriving DecidableEq, Repr

namespace Timestamp

/-- The order in time. -/
def compare (a b : Timestamp) : Ordering :=
  (Ord.compare a.seconds b.seconds).then (Ord.compare a.nanos b.nanos)

/-! ## Reading -/

/-- The first digits of a text, at most `most` of them, and the rest. -/
def takeDigits : Nat → List Char → List Char × List Char
  | 0, text => ([], text)
  | _, [] => ([], [])
  | most + 1, c :: rest =>
    if '0' ≤ c ∧ c ≤ '9' then
      let (digits, behind) := takeDigits most rest
      (c :: digits, behind)
    else ([], c :: rest)

/-- A number of one to `most` digits behind blanks. -/
def number? (most : Nat) (text : List Char) : Option (Nat × List Char) :=
  let (digits, rest) := takeDigits most (Text.trimStart text)
  match Text.digits? digits with
  | some n => some (n, rest)
  | none => none

/-- A year: four digits at most, or any number of digits behind a sign. -/
def year? (text : List Char) : Option (Int × List Char) :=
  let text := Text.trimStart text
  let signed (rest : List Char) : Option (Nat × List Char) :=
    let (digits, behind) := takeDigits rest.length rest
    (Text.digits? digits).map fun n => (n, behind)
  match text with
  | '-' :: rest => (signed rest).map fun (n, behind) => (-(n : Int), behind)
  | '+' :: rest => (signed rest).map fun (n, behind) => ((n : Int), behind)
  | _ => (number? 4 text).map fun (n, behind) => ((n : Int), behind)

/-- The text behind a separator, in front of which blanks may stand. -/
def behind? (separator : Char) (text : List Char) : Option (List Char) :=
  match Text.trimStart text with
  | c :: rest => if c = separator then some rest else none
  | [] => none

/-- The fraction of a second in nanoseconds; digits beyond the ninth are passed over. -/
def fraction? (text : List Char) : Option (Nat × List Char) :=
  match text with
  | '.' :: rest =>
    let (digits, behind) := takeDigits 9 rest
    match Text.digits? digits with
    | some n => some (n * Nat.pow 10 (9 - digits.length), (takeDigits behind.length behind).2)
    | none => none
  | _ => some (0, text)

/-- Two digits. -/
def pair? : List Char → Option (Nat × List Char)
  | a :: b :: rest => (Text.digits? [a, b]).map fun n => (n, rest)
  | _ => none

/-- Whether a character may stand between the hours and the minutes of an offset. -/
def isOffsetGap (c : Char) : Bool := c = ':' || Text.isBlank c

/-- The offset from universal time in seconds. -/
def offset? (text : List Char) : Option (Int × List Char) :=
  let signed (negative : Bool) (rest : List Char) : Option (Int × List Char) := do
    let (hours, rest) ← pair? rest
    let (minutes, rest) ← pair? (rest.dropWhile isOffsetGap)
    if minutes < 60 ∧ hours < 24 then
      let seconds : Int := hours * 3600 + minutes * 60
      some (if negative then -seconds else seconds, rest)
    else none
  match text with
  | u :: t :: c :: rest =>
    if u.toUpper = 'U' ∧ t.toUpper = 'T' ∧ c.toUpper = 'C' then some (0, rest)
    else if u = 'Z' ∨ u = 'z' then some (0, t :: c :: rest)
    else if u = '+' then signed false (t :: c :: rest)
    -- The second one is the mathematical minus sign.
    else if u = '-' ∨ u = '−' then signed true (t :: c :: rest)
    else none
  | u :: rest => if u = 'Z' ∨ u = 'z' then some (0, rest) else none
  | [] => none

/-- The bounds of the years that a timestamp may have. -/
def firstYear : Int := -262143

/-- The last year that a timestamp may have. -/
def lastYear : Int := 262142

/-- The date in front of a text. -/
def date? (text : List Char) : Option (Date × List Char) := do
  let (year, text) ← year? text
  let text ← behind? '-' text
  let (month, text) ← number? 2 text
  let text ← behind? '-' text
  let (day, text) ← number? 2 text
  let date : Date := ⟨year, month, day⟩
  if firstYear ≤ year ∧ year ≤ lastYear ∧ date.isValid then some (date, text) else none

/-- The time of day in front of a text, in seconds and nanoseconds. The sixtieth second is a leap
second. -/
def timeOfDay? (text : List Char) : Option (Nat × Nat × List Char) := do
  let (hour, text) ← number? 2 text
  let text ← behind? ':' text
  let (minute, text) ← number? 2 text
  let text ← behind? ':' text
  let (second, text) ← number? 2 text
  let (nanos, text) ← fraction? text
  if hour < 24 ∧ minute < 60 ∧ second ≤ 60 then
    if second = 60 then some (hour * 3600 + minute * 60 + 59, nanosOfLeap + nanos, text)
    else some (hour * 3600 + minute * 60 + second, nanos, text)
  else none
where
  /-- What marks the nanoseconds of a leap second. -/
  nanosOfLeap : Nat := 1000000000

/-- The point in time that a text names. -/
def parseChars? (text : List Char) : Option Timestamp := do
  let (date, text) ← date? text
  let text ← match text with
    | c :: rest => if c = 'T' ∨ c = 't' ∨ c = ' ' then some rest else none
    | [] => none
  let (second, nanos, text) ← timeOfDay? text
  let (offset, text) ← offset? (Text.trimStart text)
  if (Text.trimStart text).isEmpty then
    some { seconds := date.dayNumber * 86400 + (second : Int) - offset, nanos }
  else none

/-- The point in time that a text names. -/
def parse? (text : String) : Option Timestamp := parseChars? text.toList

/-! ## Writing -/

/-- A year: four digits, or a sign and at least four digits outside of the years 0 to 9999. -/
def yearChars (year : Int) : List Char :=
  if 0 ≤ year ∧ year ≤ 9999 then Text.padded 4 year.toNat
  else (if year < 0 then '-' else '+') :: Text.atLeast 4 year.natAbs

/-- The text of a point in time, in whole seconds of universal time. -/
def chars (t : Timestamp) : List Char :=
  let date := Date.ofDayNumber (t.seconds / 86400)
  let second := (t.seconds % 86400).toNat
  let leap := if t.nanos ≥ 1000000000 then 1 else 0
  yearChars date.year ++ '-' :: Text.padded 2 date.month.toNat ++
    '-' :: Text.padded 2 date.day.toNat ++ 'T' :: Text.padded 2 (second / 3600) ++
    ':' :: Text.padded 2 (second / 60 % 60) ++ ':' :: Text.padded 2 (second % 60 + leap) ++ ['Z']

/-- The text of a point in time, in whole seconds of universal time. -/
def render (t : Timestamp) : String := String.ofList t.chars

end Timestamp

end BatchOperator
