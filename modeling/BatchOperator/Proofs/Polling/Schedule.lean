import BatchOperator.Proofs.Polling
import Mathlib.Algebra.BigOperators.Intervals
import Mathlib.Algebra.Order.Floor.Div

/-!
# When a wait ends

The attempts of a wait are given here as an endless script: how long each of them takes, and what it
comes to. Attempt `n` ends when all attempts up to it have taken their time and `n` pauses were made
(`Poll.endOf`). A wait stops at the first attempt that has an answer or ends when the time is up
(`Poll.exists_stops`); since the pauses alone use up the time there is such an attempt, and few are
made before it (`Poll.le_of_goesOn`). An answer is taken even if it comes late, and what an attempt
fails with is never seen (`Poll.isPunctual`).
-/

set_option autoImplicit false

namespace BatchOperator

namespace Poll

variable {α : Type}

/-- An attempt as it is written in a script. -/
structure Attempt (α : Type) where
  /-- How long it takes, in nanoseconds. -/
  takes : Nat
  /-- What it comes to: an answer, no answer yet, or a failure. -/
  result : Except Error (Option α)

namespace Attempt

/-- The attempt has an answer. -/
def Answers (a : Attempt α) (value : α) : Prop := a.result = .ok (some value)

/-- The attempt has no answer, or it has failed. -/
def IsSilent (a : Attempt α) : Prop := ∀ value, ¬a.Answers value

/-- What a wait takes notice of: the answer, if there is one. -/
def answer? (a : Attempt α) : Option α :=
  match a.result with
  | .ok answer => answer
  | .error _ => none

/-- The attempt with no answer in place of a failure. -/
def hushed (a : Attempt α) : Attempt α := { a with result := .ok a.answer? }

variable {a : Attempt α} {value : α}

theorem answer?_eq_some_iff : a.answer? = some value ↔ a.Answers value := by
  unfold answer? Answers
  cases a.result with
  | ok answer => simp
  | error e => simp

theorem answer?_eq_none_iff : a.answer? = none ↔ a.IsSilent := by
  unfold IsSilent
  simp only [← answer?_eq_some_iff, Option.eq_none_iff_forall_ne_some, ne_eq]

end Attempt

/-- The attempts of a wait, in order. The wait decides how many of them are made. -/
abbrev Script (α : Type) := Nat → Attempt α

namespace Script

/-- The attempts of a script, made one after the other. The state is the number of attempts that
were made. -/
def play (script : Script α) (now : Instant) (made : Nat) :
    Instant × Nat × Except Error (Option α) :=
  (now + (script made).takes, made + 1, (script made).result)

/-- The first attempt that has an answer. -/
structure IsFirstAnswer (script : Script α) (n : Nat) (value : α) : Prop where
  answers : (script n).Answers value
  silent : ∀ m < n, (script m).IsSilent

/-- The script with no answer in place of every failure. -/
def hushed (script : Script α) : Script α := fun n => (script n).hushed

end Script

variable {p : Poll} {script : Script α} {now : Instant} {n : Nat} {value : α}

/-- An attempt of a script takes its time, and only its answer is looked at. -/
theorem heard_play (script : Script α) (now : Instant) (made : Nat) :
    heard script.play now made =
      (now + (script made).takes, made + 1, (script made).answer?) := by
  unfold heard Script.play Attempt.answer?
  cases (script made).result with
  | ok answer => rfl
  | error e => rfl

/-- What an attempt fails with makes no difference. -/
theorem heard_hushed (script : Script α) : heard script.hushed.play = heard script.play := by
  funext now made
  rw [heard_play, heard_play]
  rfl

/-! ## The end of an attempt -/

/-- When attempt `n` ends if there was no answer before: after the times of all attempts up to it
and `n` pauses. -/
def endOf (p : Poll) (script : Script α) (n : Nat) : Nat :=
  (∑ i ∈ Finset.range (n + 1), (script i).takes) + n * p.interval.nanoseconds

theorem endOf_zero (p : Poll) (script : Script α) : p.endOf script 0 = (script 0).takes := by
  simp [endOf]

theorem endOf_succ (p : Poll) (script : Script α) (n : Nat) : p.endOf script (n + 1) =
    p.endOf script n + p.interval.nanoseconds + (script (n + 1)).takes := by
  rw [endOf, endOf, Finset.sum_range_succ, Nat.succ_mul]
  omega

/-- The pauses before an attempt are over when it ends. -/
theorem mul_interval_le_endOf (p : Poll) (script : Script α) (n : Nat) :
    n * p.interval.nanoseconds ≤ p.endOf script n :=
  Nat.le_add_left _ _

/-! ## Where a wait stops -/

/-- After this attempt there is another one: it is silent, and ends in time. -/
structure GoesOn (p : Poll) (script : Script α) (n : Nat) : Prop where
  silent : (script n).IsSilent
  inTime : p.endOf script n < p.timeout.nanoseconds

/-- What a wait comes to that stops after an attempt: the answer of the attempt, or the time is
up. -/
inductive Stops (p : Poll) (script : Script α) (n : Nat) :
    Instant × Nat × Except Error α → Prop where
  | ready {value : α} (hanswers : (script n).Answers value) :
      Stops p script n (p.start + p.endOf script n, n + 1, .ok value)
  | expired (hsilent : (script n).IsSilent)
      (hlong : p.timeout.nanoseconds ≤ p.endOf script n) :
      Stops p script n (p.start + p.endOf script n, n + 1, .error p.expiry)

/-- A wait that has come to attempt `n` in time goes on up to the attempt that it stops at. -/
theorem Waits.exists_stops {outcome : Instant × Nat × Except Error α}
    (h : p.Waits (heard script.play) now n outcome)
    (hnow : now + (script n).takes = p.start + p.endOf script n) :
    ∃ m, n ≤ m ∧ p.Stops script m outcome ∧ ∀ k, n ≤ k → k < m → p.GoesOn script k := by
  -- By induction on the wait: what is kept is that attempt `n` will end when the script says.
  induction h with
  | @ready now later n made value hattempt =>
    rw [heard_play, Prod.mk.injEq, Prod.mk.injEq, hnow] at hattempt
    obtain ⟨rfl, rfl, hanswer⟩ := hattempt
    have hanswers := Attempt.answer?_eq_some_iff.1 hanswer
    exact ⟨n, Nat.le_refl n, .ready hanswers, fun k hk hlt => absurd hk (Nat.not_le_of_lt hlt)⟩
  | @expired now later n made hattempt hlong =>
    rw [heard_play, Prod.mk.injEq, Prod.mk.injEq, hnow] at hattempt
    obtain ⟨rfl, rfl, hanswer⟩ := hattempt
    have hsilent := Attempt.answer?_eq_none_iff.1 hanswer
    rw [Nat.add_sub_cancel_left] at hlong
    exact ⟨n, Nat.le_refl n, .expired hsilent hlong,
      fun k hk hlt => absurd hk (Nat.not_le_of_lt hlt)⟩
  | @again now later n made outcome hattempt hshort rest ih =>
    rw [heard_play, Prod.mk.injEq, Prod.mk.injEq, hnow] at hattempt
    obtain ⟨rfl, rfl, hanswer⟩ := hattempt
    have hsilent := Attempt.answer?_eq_none_iff.1 hanswer
    rw [Nat.add_sub_cancel_left] at hshort
    -- The next attempt begins after a pause, and takes its own time.
    have hnext : p.start + p.endOf script n + p.interval.nanoseconds + (script (n + 1)).takes =
        p.start + p.endOf script (n + 1) := by
      rw [endOf_succ, ← Nat.add_assoc, ← Nat.add_assoc]
    obtain ⟨m, hle, hstops, hbefore⟩ := ih hnext
    refine ⟨m, Nat.le_of_succ_le hle, hstops, ?_⟩
    intro k hk hlt
    obtain rfl | hlater := Nat.eq_or_lt_of_le hk
    · exact ⟨hsilent, hshort⟩
    · exact hbefore k hlater hlt

/-- A wait stops at an attempt, and goes on after all of those before it. -/
theorem exists_stops (hinterval : 0 < p.interval.nanoseconds) (script : Script α) :
    ∃ n, p.Stops script n (p.wait script.play 0) ∧ ∀ k < n, p.GoesOn script k := by
  have forward : ∀ now made, now ≤ (heard script.play now made).1 := by
    intro now made
    rw [heard_play]
    exact Nat.le_add_right _ _
  have hwaits : p.Waits (heard script.play) p.start 0 (p.wait script.play 0) :=
    waits_run hinterval forward 0
  obtain ⟨n, -, hstops, hbefore⟩ := hwaits.exists_stops (by rw [endOf_zero])
  exact ⟨n, hstops, fun k => hbefore k (Nat.zero_le k)⟩

section Stops

variable {outcome : Instant × Nat × Except Error α} {first : Nat}

/-- A wait stops neither before the first answer nor behind it, if the time was never up before. -/
theorem Stops.eq_of_isFirstAnswer (hstops : p.Stops script n outcome)
    (hbefore : ∀ k < n, p.GoesOn script k) (hfirst : script.IsFirstAnswer first value)
    (hinTime : ∀ m < first, p.endOf script m < p.timeout.nanoseconds) :
    outcome = (p.start + p.endOf script first, first + 1, .ok value) := by
  obtain hlt | rfl | hgt := Nat.lt_trichotomy n first
  · -- Before the first answer there is nothing to stop at while there is time.
    cases hstops with
    | ready hanswers => exact absurd hanswers (hfirst.silent n hlt _)
    | expired _ hlong => exact absurd (hinTime n hlt) (Nat.not_lt_of_le hlong)
  · cases hstops with
    | ready hanswers =>
      cases hanswers.symm.trans hfirst.answers
      rfl
    | expired hsilent => exact absurd hfirst.answers (hsilent value)
  · exact absurd hfirst.answers ((hbefore first hgt).silent value)

/-- A wait that comes to no answer in time expires. -/
theorem Stops.exists_expired (hstops : p.Stops script n outcome)
    (hbefore : ∀ k < n, p.GoesOn script k)
    (hnone : ¬∃ first value, script.IsFirstAnswer first value ∧
      ∀ m < first, p.endOf script m < p.timeout.nanoseconds) :
    ∃ m, p.timeout.nanoseconds ≤ p.endOf script m ∧
      (∀ k < m, p.endOf script k < p.timeout.nanoseconds) ∧
        outcome = (p.start + p.endOf script m, m + 1, .error p.expiry) := by
  cases hstops with
  | ready hanswers =>
    have hfirst : script.IsFirstAnswer n _ := ⟨hanswers, fun m hm => (hbefore m hm).silent⟩
    exact absurd ⟨n, _, hfirst, fun m hm => (hbefore m hm).inTime⟩ hnone
  | expired _ hlong => exact ⟨n, hlong, fun k hk => (hbefore k hk).inTime, rfl⟩

theorem Stops.attempts_eq (hstops : p.Stops script n outcome) : outcome.2.1 = n + 1 := by
  cases hstops with
  | ready => rfl
  | expired => rfl

theorem Stops.eq_expiry (hstops : p.Stops script n outcome) {e : Error}
    (he : outcome.2.2 = .error e) : e = p.expiry := by
  cases hstops with
  | ready => cases he
  | expired =>
    cases he
    rfl

end Stops

/-- A wait that goes on after every attempt before this one has made few: the pauses up to the one
before it do not fill the time. -/
theorem le_of_goesOn (hinterval : 0 < p.interval.nanoseconds)
    (h : ∀ k < n, p.GoesOn script k) :
    n ≤ p.timeout.nanoseconds ⌈/⌉ p.interval.nanoseconds := by
  cases n with
  | zero => exact Nat.zero_le _
  | succ n =>
    have hpauses : n * p.interval.nanoseconds < p.timeout.nanoseconds :=
      Nat.lt_of_le_of_lt (p.mul_interval_le_endOf script n) (h n (Nat.lt_succ_self n)).inTime
    -- As many pauses as the time is rounded up to would fill it.
    apply Nat.succ_le_of_lt
    rw [← not_le, ceilDiv_le_iff_le_mul hinterval, Nat.mul_comm]
    exact Nat.not_le_of_lt hpauses

/-! ## The result -/

/-- A wait that ends, and ends right, with what its attempts come to. -/
structure IsPunctual (p : Poll) (script : Script α) : Prop where
  /-- The first answer is taken if the time was never up before it. -/
  answers : ∀ n value, script.IsFirstAnswer n value →
    (∀ m < n, p.endOf script m < p.timeout.nanoseconds) →
      p.wait script.play 0 = (p.start + p.endOf script n, n + 1, .ok value)
  /-- If there is no such answer the wait expires with the first attempt after which the time is
  up. -/
  expires : (¬∃ n value, script.IsFirstAnswer n value ∧
      ∀ m < n, p.endOf script m < p.timeout.nanoseconds) →
    ∃ m, p.timeout.nanoseconds ≤ p.endOf script m ∧
      (∀ k < m, p.endOf script k < p.timeout.nanoseconds) ∧
        p.wait script.play 0 = (p.start + p.endOf script m, m + 1, .error p.expiry)
  /-- There is an attempt, and there are not many more than pauses that the time has room for. -/
  attempts : 1 ≤ (p.wait script.play 0).2.1 ∧
    (p.wait script.play 0).2.1 ≤ p.timeout.nanoseconds ⌈/⌉ p.interval.nanoseconds + 1
  /-- No wait fails with what an attempt failed with. -/
  failure : ∀ e, (p.wait script.play 0).2.2 = .error e → e = p.expiry
  /-- A failed attempt is as good as one without an answer. -/
  hushed : p.wait script.hushed.play 0 = p.wait script.play 0

/-- Every wait with pauses ends at the first answer, or else with the first attempt after which the
time is up, whatever its attempts come to and however long they take. -/
theorem isPunctual (hinterval : 0 < p.interval.nanoseconds) (script : Script α) :
    p.IsPunctual script := by
  obtain ⟨n, hstops, hbefore⟩ := exists_stops hinterval script
  refine ⟨?_, ?_, ?_, ?_, ?_⟩
  · intro first value hfirst hinTime
    exact hstops.eq_of_isFirstAnswer hbefore hfirst hinTime
  · intro hnone
    exact hstops.exists_expired hbefore hnone
  · rw [hstops.attempts_eq]
    exact ⟨Nat.le_add_left 1 n, Nat.succ_le_succ (le_of_goesOn hinterval hbefore)⟩
  · intro e he
    exact hstops.eq_expiry he
  · rw [wait, wait, heard_hushed]

/-- An attempt that fails at once, and then one that takes long and has an answer. -/
def lateScript : Script Nat
  | 0 => ⟨400000000, .error (.internal "flaky")⟩
  | 1 => ⟨5000000000, .ok (some 7)⟩
  | _ => ⟨0, .ok none⟩

/-- A wait of one second. -/
def shortWait : Poll :=
  { description := "thing", timeout := .ofSeconds 1, interval := usualInterval, start := 0 }

/-- The failure does not end the wait, and the answer is taken although the time is up by then. -/
theorem isPunctual_of_lateAnswer : 0 < shortWait.interval.nanoseconds ∧
    lateScript.IsFirstAnswer 1 7 ∧ shortWait.timeout.nanoseconds ≤ shortWait.endOf lateScript 1 ∧
      shortWait.wait lateScript.play 0 = (5900000000, 2, .ok 7) := by
  have hinterval : 0 < shortWait.interval.nanoseconds := usualInterval_pos
  have hfirst : lateScript.IsFirstAnswer 1 7 := by
    refine ⟨rfl, fun m hm value => ?_⟩
    obtain rfl : m = 0 := by omega
    exact nofun
  have hinTime : ∀ m < 1, shortWait.endOf lateScript m < shortWait.timeout.nanoseconds := by
    decide
  exact ⟨hinterval, hfirst, by decide, (isPunctual hinterval lateScript).answers 1 7 hfirst hinTime⟩

end Poll

end BatchOperator
