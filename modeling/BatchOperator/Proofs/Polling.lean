import BatchOperator.Polling

/-!
# What a wait comes to

`Poll.Waits` says how a wait goes on from one attempt to the next: it ends with an attempt that has
an answer, or with one that has none and after which the time is up, and otherwise there is another
attempt after a pause. Nothing in it bounds the number of attempts.

`Poll.run` makes no more than `Poll.attempts` of them. Where every attempt takes its time that is
enough, since every pause brings the end nearer (`Poll.waits_run`).
-/

set_option autoImplicit false

namespace BatchOperator

namespace Poll

variable {σ α : Type}

/-- A wait that goes on at a moment, up to what it comes to. -/
inductive Waits (p : Poll) (attempt : Instant → σ → Instant × σ × Option α) :
    Instant → σ → Instant × σ × Except Error α → Prop where
  /-- The attempt has an answer. -/
  | ready {now later : Instant} {s s' : σ} {value : α}
      (hattempt : attempt now s = (later, s', some value)) :
      Waits p attempt now s (later, s', .ok value)
  /-- The attempt has no answer, and the time is up. -/
  | expired {now later : Instant} {s s' : σ} (hattempt : attempt now s = (later, s', none))
      (hlong : p.timeout.nanoseconds ≤ later - p.start) :
      Waits p attempt now s (later, s', .error p.expiry)
  /-- The attempt has no answer, and there is another one after a pause. -/
  | again {now later : Instant} {s s' : σ} {outcome : Instant × σ × Except Error α}
      (hattempt : attempt now s = (later, s', none))
      (hshort : later - p.start < p.timeout.nanoseconds)
      (rest : Waits p attempt (later + p.interval.nanoseconds) s' outcome) :
      Waits p attempt now s outcome

variable {p : Poll} {attempt : Instant → σ → Instant × σ × Option α}

theorem usualInterval_pos : 0 < usualInterval.nanoseconds := by decide

/-- A wait comes to one thing only. -/
theorem Waits.unique {now : Instant} {s : σ} {outcome outcome' : Instant × σ × Except Error α}
    (h : p.Waits attempt now s outcome) (h' : p.Waits attempt now s outcome') :
    outcome = outcome' := by
  induction h with
  | ready hattempt =>
    cases h' with
    | ready hattempt' => cases hattempt.symm.trans hattempt'; rfl
    | expired hattempt' => cases hattempt.symm.trans hattempt'
    | again hattempt' => cases hattempt.symm.trans hattempt'
  | expired hattempt hlong =>
    cases h' with
    | ready hattempt' => cases hattempt.symm.trans hattempt'
    | expired hattempt' => cases hattempt.symm.trans hattempt'; rfl
    | again hattempt' hshort =>
      cases hattempt.symm.trans hattempt'
      exact absurd hlong (Nat.not_le_of_lt hshort)
  | again hattempt hshort _ ih =>
    cases h' with
    | ready hattempt' => cases hattempt.symm.trans hattempt'
    | expired hattempt' hlong =>
      cases hattempt.symm.trans hattempt'
      exact absurd hlong (Nat.not_le_of_lt hshort)
    | again hattempt' _ rest =>
      cases hattempt.symm.trans hattempt'
      exact ih rest

theorem runWithin_of_some {now later : Instant} {s s' : σ} {value : α}
    (hattempt : attempt now s = (later, s', some value)) (fuel : Nat) :
    p.runWithin attempt (fuel + 1) now s = (later, s', .ok value) := by
  simp only [runWithin, hattempt, judge]

theorem runWithin_of_none {now later : Instant} {s s' : σ}
    (hattempt : attempt now s = (later, s', none)) (fuel : Nat) :
    p.runWithin attempt (fuel + 1) now s =
      if p.timeout.nanoseconds ≤ later - p.start then (later, s', .error p.expiry)
      else p.runWithin attempt fuel (later + p.interval.nanoseconds) s' := by
  by_cases hlong : p.timeout.nanoseconds ≤ later - p.start
  · have hjudge : p.judge later (none : Option α) = .expired := if_pos hlong
    simp only [runWithin, hattempt, hjudge, if_pos hlong]
  · have hjudge : p.judge later (none : Option α) = .again (later + p.interval.nanoseconds) :=
      if_neg hlong
    simp only [runWithin, hattempt, hjudge, if_neg hlong]

/-- There are enough attempts when the pauses before all of them but the last fill the time that is
left. -/
theorem waits_runWithin (forward : ∀ now s, now ≤ (attempt now s).1) {fuel : Nat} {now : Instant}
    {s : σ} (hstart : p.start ≤ now)
    (hfuel : p.timeout.nanoseconds ≤ (now - p.start) + fuel * p.interval.nanoseconds) :
    p.Waits attempt now s (p.runWithin attempt (fuel + 1) now s) := by
  induction fuel generalizing now s with
  | zero =>
    rcases hattempt : attempt now s with ⟨later, s', answer⟩
    have hlater : now ≤ later := by simpa only [hattempt] using forward now s
    cases answer with
    | some value => exact runWithin_of_some hattempt 0 ▸ .ready hattempt
    | none =>
      -- No pause is left, so the time is up already.
      have hlong : p.timeout.nanoseconds ≤ later - p.start := by
        rw [Nat.zero_mul] at hfuel
        exact Nat.le_trans hfuel (Nat.sub_le_sub_right hlater _)
      rw [runWithin_of_none hattempt, if_pos hlong]
      exact .expired hattempt hlong
  | succ fuel ih =>
    rcases hattempt : attempt now s with ⟨later, s', answer⟩
    have hlater : now ≤ later := by simpa only [hattempt] using forward now s
    cases answer with
    | some value => exact runWithin_of_some hattempt (fuel + 1) ▸ .ready hattempt
    | none =>
      rw [runWithin_of_none hattempt]
      by_cases hlong : p.timeout.nanoseconds ≤ later - p.start
      · rw [if_pos hlong]
        exact .expired hattempt hlong
      · rw [if_neg hlong]
        have hbegun : p.start ≤ later := Nat.le_trans hstart hlater
        refine .again hattempt (Nat.lt_of_not_le hlong) (ih (Nat.le_add_right_of_le hbegun) ?_)
        -- The pause that is made now is one less to be made later.
        calc p.timeout.nanoseconds
            ≤ (now - p.start) + (fuel + 1) * p.interval.nanoseconds := hfuel
          _ ≤ (later - p.start) + (fuel + 1) * p.interval.nanoseconds :=
            Nat.add_le_add_right (Nat.sub_le_sub_right hlater _) _
          _ = (later + p.interval.nanoseconds - p.start) + fuel * p.interval.nanoseconds := by
            rw [Nat.sub_add_comm hbegun, Nat.succ_mul, Nat.add_assoc, Nat.add_comm _ (fuel * _)]

/-- A wait makes as many attempts as it takes. -/
theorem waits_run (hinterval : 0 < p.interval.nanoseconds)
    (forward : ∀ now s, now ≤ (attempt now s).1) (s : σ) :
    p.Waits attempt p.start s (p.run attempt s) := by
  apply waits_runWithin forward (Nat.le_refl _)
  -- Rounded up, the time is a whole number of pauses.
  rw [Nat.sub_self, Nat.zero_add]
  exact Nat.le_of_lt (Nat.lt_mul_of_div_lt (Nat.lt_succ_self _) hinterval)

end Poll

end BatchOperator
