import BatchOperator.Proofs.Reconcile.History
import BatchOperator.Simulation.Store

/-!
# A batch completes at most once

In every run of passes for the key of a batch, any number of them at a time and each begun from any
version that the batch ever had, at most one status is written for each incarnation of the batch,
the status stays as it was written, the end is announced at most once, and a verdict is only written
over the very version that it was made from (`Course.completesOnce_of_reachable`).

A pass remembers the version that it began from, which was not complete. As no resource version is
used twice, a write that is accepted is one over that version. Afterwards the incarnation is
complete whatever others do to it, so no version of it that is stored later is one that a pass could
have begun from.
-/

set_option autoImplicit false

namespace BatchOperator

/-- What is outside, with a record of what it was asked for, and the passes that are under way. -/
structure Course (σ : Type) where
  site : Recorded σ
  passes : List Stage := []

namespace Course

variable {σ : Type} {env : Surroundings σ} {registry : σ → Registry} {timeout : Duration}
variable {key : ObjectKey} {course course' : Course σ}

/-- One step of a course. A pass begins from caches that show any version of the batch or none;
nothing is said about the templates and the children that they show. -/
inductive Step (env : Surroundings σ) (registry : σ → Registry) (timeout : Duration)
    (key : ObjectKey) : Course σ → Course σ → Prop where
  | begins (site : Recorded σ) (passes : List Stage) (caches : Caches)
      (h : ∀ batch, caches.batches.get? key = some batch →
        batch ∈ (registry site.outside).versions) :
      Step env registry timeout key ⟨site, passes⟩ ⟨site, .ofKey caches (.batch key) :: passes⟩
  | advances (now : Instant) (site : Recorded σ) (before after : List Stage) (stage : Stage) :
      Step env registry timeout key ⟨site, before ++ stage :: after⟩
        ⟨(stage.step env.recorded timeout now site).2,
          before ++ (stage.step env.recorded timeout now site).1 :: after⟩
  /-- A pass is over when it has finished, or is broken off. -/
  | leaves (site : Recorded σ) (before after : List Stage) (stage : Stage) :
      Step env registry timeout key ⟨site, before ++ stage :: after⟩ ⟨site, before ++ after⟩
  | elsewhere (site : Recorded σ) (passes : List Stage) (s : σ)
      (h : Registry.Elsewhere key (registry site.outside) (registry s)) :
      Step env registry timeout key ⟨site, passes⟩ ⟨⟨s, site.calls⟩, passes⟩

/-- The courses that a run can come to from a course. -/
inductive Reachable (env : Surroundings σ) (registry : σ → Registry) (timeout : Duration)
    (key : ObjectKey) (start : Course σ) : Course σ → Prop where
  | start : Reachable env registry timeout key start start
  | step {course course' : Course σ} (h : Reachable env registry timeout key start course)
      (hstep : Step env registry timeout key course course') :
      Reachable env registry timeout key start course'

/-- How many statuses were written for the batch with a UID. -/
def writes (course : Course σ) (uid : Option String) : Nat :=
  course.site.countCalls (Call.isWriteOf uid)

/-- How often the end of the batch with a UID was announced. -/
def ends (course : Course σ) (uid : Option String) : Nat :=
  course.site.countCalls (Call.isEndOf uid)

/-- How many passes are about to announce the end of the batch with a UID. -/
def endings (course : Course σ) (uid : Option String) : Nat :=
  course.passes.countP (Stage.isEndOf uid)

/-- A status was written: `sent` was accepted in the state `s`. -/
def Wrote (course : Course σ) (s : σ) (sent : JobBatch) : Prop :=
  ∃ answer, (s, Call.replaced sent (.ok answer)) ∈ course.site.calls

theorem exists_wrote {uid : Option String} (h : course.writes uid ≠ 0) :
    ∃ s sent, course.Wrote s sent ∧ sent.metadata.uid = uid := by
  obtain ⟨⟨s, call⟩, hmem, hcall⟩ := List.countP_pos_iff.1 (Nat.pos_of_ne_zero h)
  cases call with
  | replaced sent answer =>
    cases answer with
    | ok answer => exact ⟨s, sent, ⟨answer, hmem⟩, by simpa [Call.isWriteOf] using hcall⟩
    | error e => cases hcall
  | created | listed | deleted | published => cases hcall

/-- After one more status was written, that one was written or one of those before. -/
theorem wrote_of_calls {site site' : Recorded σ} {passes passes' : List Stage} {s₀ s : σ}
    {batch answer sent : JobBatch}
    (hcalls : site'.calls = (s₀, .replaced batch (.ok answer)) :: site.calls)
    (h : Wrote ⟨site', passes'⟩ s sent) : s = s₀ ∧ sent = batch ∨ Wrote ⟨site, passes⟩ s sent := by
  obtain ⟨other, hmem⟩ := h
  rw [hcalls] at hmem
  rcases List.mem_cons.1 hmem with hnew | hold
  · cases hnew
    exact .inl ⟨rfl, rfl⟩
  · exact .inr ⟨other, hold⟩

/-- What was written was a verdict about the very version that was stored, and nothing but the
status was another one. -/
def WroteOwn (registry : σ → Registry) (s : σ) (sent : JobBatch) : Prop :=
  ∃ (stored : JobBatch) (verdict : Verdict), (registry s).current = some stored ∧
    verdict.IsAbout stored ∧ sent = stored.withStatus verdict.status

theorem WroteOwn.isComplete {s : σ} {sent : JobBatch} (h : WroteOwn registry s sent) :
    sent.isComplete = true := by
  obtain ⟨stored, verdict, -, -, rfl⟩ := h
  simp [JobBatch.withStatus, JobBatch.isComplete, Verdict.status]

/-- A pass that may still write began from a version of the batch that was not complete, and its
verdict is about that version. -/
def Faithful (r : Registry) (stage : Stage) : Prop :=
  ∀ batch verdict, stage.purpose? = some (batch, verdict) →
    batch ∈ r.versions ∧ batch.isComplete = false ∧ ∀ v, verdict = some v → v.IsAbout batch

/-- A pass stays faithful when there are more versions. -/
theorem Faithful.mono {r r' : Registry} {stage : Stage} (h : Faithful r stage)
    (hversions : ∀ batch ∈ r.versions, batch ∈ r'.versions) : Faithful r' stage := by
  intro batch verdict hpurpose
  obtain ⟨hmem, hrest⟩ := h batch verdict hpurpose
  exact ⟨hversions batch hmem, hrest⟩

/-- A pass that cannot write any more is faithful. -/
theorem faithful_of_purpose?_eq_none {r : Registry} {stage : Stage} (h : stage.purpose? = none) :
    Faithful r stage := by
  intro batch verdict hpurpose
  cases h.symm.trans hpurpose

/-- What holds all along. -/
structure Sound (registry : σ → Registry) (key : ObjectKey) (course : Course σ) : Prop where
  stored : (registry course.site.outside).Sound key
  passes : ∀ stage ∈ course.passes, Faithful (registry course.site.outside) stage
  own : ∀ s sent, course.Wrote s sent → WroteOwn registry s sent
  known : ∀ s sent, course.Wrote s sent →
    ∃ batch ∈ (registry course.site.outside).versions, batch.metadata.uid = sent.metadata.uid
  kept : ∀ s sent, course.Wrote s sent → ∀ batch,
    (registry course.site.outside).current = some batch → batch.metadata.uid = sent.metadata.uid →
    batch.status = sent.status
  once : ∀ uid, course.writes uid ≤ 1
  /-- An end is announced by the pass that wrote it. -/
  earned : ∀ uid, course.ends uid + course.endings uid ≤ course.writes uid

/-- As long as the batch that is stored is not complete, what was written was for others. -/
theorem Sound.uid_ne_of_wrote (h : Sound registry key course) {batch sent : JobBatch} {s : σ}
    (hbatch : (registry course.site.outside).current = some batch)
    (hpending : batch.isComplete = false) (hwrote : course.Wrote s sent) :
    batch.metadata.uid ≠ sent.metadata.uid := by
  intro huid
  have hstatus := h.kept s sent hwrote batch hbatch huid
  have hcomplete := (h.own s sent hwrote).isComplete
  rw [JobBatch.isComplete, ← hstatus, ← JobBatch.isComplete, hpending] at hcomplete
  cases hcomplete

/-- As long as the batch that is stored is not complete, no status was written for it. -/
theorem Sound.writes_eq_zero (h : Sound registry key course) {batch : JobBatch}
    (hbatch : (registry course.site.outside).current = some batch)
    (hpending : batch.isComplete = false) : course.writes batch.metadata.uid = 0 := by
  refine Decidable.byContradiction fun hne => ?_
  obtain ⟨s, sent, hwrote, huid⟩ := exists_wrote hne
  exact h.uid_ne_of_wrote hbatch hpending hwrote huid.symm

/-- A course in which the batch was not touched, and nothing was written or announced. -/
theorem Sound.of_quiet (h : Sound registry key course)
    (hstored : registry course'.site.outside = registry course.site.outside)
    (hpasses : ∀ stage ∈ course'.passes, Faithful (registry course.site.outside) stage)
    (hwrote : ∀ s sent, course'.Wrote s sent → course.Wrote s sent)
    (hwrites : ∀ uid, course'.writes uid = course.writes uid)
    (hearned : ∀ uid, course'.ends uid + course'.endings uid ≤
      course.ends uid + course.endings uid) :
    Sound registry key course' := by
  refine ⟨?_, ?_, ?_, ?_, ?_, ?_, ?_⟩
  · rw [hstored]
    exact h.stored
  · rw [hstored]
    exact hpasses
  · intro s sent hw
    exact h.own s sent (hwrote s sent hw)
  · intro s sent hw
    rw [hstored]
    exact h.known s sent (hwrote s sent hw)
  · intro s sent hw
    rw [hstored]
    exact h.kept s sent (hwrote s sent hw)
  · intro uid
    rw [hwrites]
    exact h.once uid
  · intro uid
    rw [hwrites]
    exact Nat.le_trans (hearned uid) (h.earned uid)

/-- What holds of all passes holds of them after one of them has come to another stage, if it holds
of that stage. -/
theorem forall_mem_replaced {P : Stage → Prop} {before after : List Stage} {stage stage' : Stage}
    (h : ∀ x ∈ before ++ stage :: after, P x) (hstage' : P stage') :
    ∀ x ∈ before ++ stage' :: after, P x := by
  intro x hx
  rcases List.mem_append.1 hx with hx | hx
  · exact h x (List.mem_append_left _ hx)
  · rcases List.mem_cons.1 hx with rfl | hx
    · exact hstage'
    · exact h x (List.mem_append_right _ (List.mem_cons_of_mem _ hx))

theorem endings_at (site : Recorded σ) (before after : List Stage) (stage : Stage)
    (uid : Option String) :
    endings ⟨site, before ++ stage :: after⟩ uid =
      endings ⟨site, before ++ after⟩ uid + (stage.isEndOf uid).toNat := by
  simp only [endings, List.countP_append, List.countP_cons]
  cases stage.isEndOf uid with
  | false => rfl
  | true => exact (Nat.add_assoc _ _ _).symm

/-- A quiet step of a pass. -/
theorem Sound.quiet {site site' : Recorded σ} {before after : List Stage} {stage stage' : Stage}
    (h : Sound registry key ⟨site, before ++ stage :: after⟩)
    (hquiet : Stage.Quiet registry stage stage' site site') :
    Sound registry key ⟨site', before ++ stage' :: after⟩ := by
  have hpass : Faithful (registry site.outside) stage' := by
    intro batch verdict hpurpose
    exact h.passes stage (by simp) batch verdict (hquiet.purpose _ hpurpose)
  refine h.of_quiet hquiet.registry (forall_mem_replaced h.passes hpass) ?_ ?_ ?_
  · rintro s sent ⟨answer, hmem⟩
    exact ⟨answer, hquiet.mem_calls hmem⟩
  · intro uid
    exact hquiet.countCalls fun call hcall => (hcall uid).1
  · intro uid
    have hends : ends ⟨site', before ++ stage' :: after⟩ uid =
        ends ⟨site, before ++ stage :: after⟩ uid :=
      hquiet.countCalls fun call hcall => (hcall uid).2
    -- Whether or not the pass was about to announce an end, now it is not.
    rw [hends, endings_at, endings_at, hquiet.silent uid]
    simp only [endings, Bool.toNat_false]
    omega

/-- A pass announces what it has come to announce. -/
theorem Sound.announces {site site' : Recorded σ} {before after : List Stage}
    {notification : Notification} {result : Except Error Unit}
    (h : Sound registry key ⟨site, before ++ .reporting notification :: after⟩)
    (hstored : registry site'.outside = registry site.outside)
    (hcalls : site'.calls = (site.outside, .published notification) :: site.calls) :
    Sound registry key ⟨site', before ++ .finished result :: after⟩ := by
  have hpass := faithful_of_purpose?_eq_none (r := registry site.outside)
    (show (Stage.finished result).purpose? = none from rfl)
  refine h.of_quiet hstored (forall_mem_replaced h.passes hpass) ?_ ?_ ?_
  · rintro s sent ⟨answer, hmem⟩
    rw [hcalls] at hmem
    rcases List.mem_cons.1 hmem with hnew | hold
    · cases hnew
    · exact ⟨answer, hold⟩
  · intro uid
    exact Recorded.countCalls_of_calls hcalls _
  · intro uid
    have hends : ends ⟨site', before ++ .finished result :: after⟩ uid =
        ends ⟨site, before ++ .reporting notification :: after⟩ uid +
          (notification.isEndOf uid).toNat :=
      Recorded.countCalls_of_calls hcalls _
    rw [hends, endings_at, endings_at]
    simp only [Stage.isEndOf, endings, Bool.toNat_false]
    omega

/-- A pass writes the status of its batch: the batch is stored as it was when the pass began, and
nothing was written for this incarnation before. -/
theorem Sound.accepts {site site' : Recorded σ} {before after : List Stage} {verdict : Verdict}
    {batch answer : JobBatch} {s' : σ} (guards : env.Guards registry key)
    (h : Sound registry key ⟨site, before ++ .closing verdict batch :: after⟩)
    (hanswer : env.replaceStatus (batch.withStatus verdict.status) site.outside = (.ok answer, s'))
    (hstored : registry site'.outside = registry s')
    (hcalls : site'.calls =
      (site.outside, .replaced (batch.withStatus verdict.status) (.ok answer)) :: site.calls) :
    Sound registry key ⟨site', before ++ .reporting (verdict.notification batch) :: after⟩ := by
  obtain ⟨hknown, hpending, hverdict⟩ := h.passes (.closing verdict batch) (by simp) batch _ rfl
  -- The batch is stored as the pass saw it, so it was not complete until now.
  obtain ⟨version, hcurrent, hputs⟩ := h.stored.accepted guards hknown hanswer
  rw [← hstored] at hputs
  have hold : ∀ b ∈ (registry site.outside).versions, b ∈ (registry site'.outside).versions := by
    intro b hb
    rw [hputs.versions]
    exact List.mem_cons_of_mem _ hb
  have hwrites : ∀ uid, writes ⟨site', before ++ .reporting (verdict.notification batch) :: after⟩
      uid = writes ⟨site, before ++ .closing verdict batch :: after⟩ uid +
        (batch.metadata.uid == uid).toNat :=
    fun uid => Recorded.countCalls_of_calls hcalls _
  refine ⟨?_, ?_, ?_, ?_, ?_, ?_, ?_⟩
  · have hkey : Resource.key (batch.rewritten (some verdict.status) version) = .ok key :=
      h.stored.keys batch hknown
    exact h.stored.puts hkey hputs
  · have hpasses : ∀ stage ∈ before ++ .closing verdict batch :: after,
        Faithful (registry site'.outside) stage :=
      fun stage hstage => (h.passes stage hstage).mono hold
    exact forall_mem_replaced hpasses (faithful_of_purpose?_eq_none rfl)
  · intro s sent hw
    rcases wrote_of_calls hcalls hw with ⟨rfl, rfl⟩ | hw
    · exact ⟨batch, verdict, hcurrent, hverdict verdict rfl, rfl⟩
    · exact h.own s sent hw
  · intro s sent hw
    rcases wrote_of_calls hcalls hw with ⟨rfl, rfl⟩ | hw
    · exact ⟨batch, hold batch hknown, rfl⟩
    · obtain ⟨b, hb, huid⟩ := h.known s sent hw
      exact ⟨b, hold b hb, huid⟩
  · intro s sent hw b hb huid
    cases hputs.current.symm.trans hb
    rcases wrote_of_calls hcalls hw with ⟨rfl, rfl⟩ | hw
    · rfl
    · have hother := h.uid_ne_of_wrote hcurrent hpending hw
      exact absurd huid hother
  · intro uid
    rw [hwrites]
    by_cases huid : batch.metadata.uid = uid
    · subst huid
      rw [h.writes_eq_zero hcurrent hpending]
      simp
    · rw [beq_false_of_ne huid]
      exact h.once uid
  · intro uid
    have hends : ends ⟨site', before ++ .reporting (verdict.notification batch) :: after⟩ uid =
        ends ⟨site, before ++ .closing verdict batch :: after⟩ uid :=
      Recorded.countCalls_of_calls hcalls _
    have hearned := h.earned uid
    rw [endings_at] at hearned
    rw [hends, hwrites, endings_at, Stage.isEndOf, Verdict.isEndOf_notification]
    simp only [endings, Stage.isEndOf, Bool.toNat_false] at hearned ⊢
    omega

/-- What others do to the batch. -/
theorem Sound.elsewhere {site : Recorded σ} {passes : List Stage} {s' : σ}
    (h : Sound registry key ⟨site, passes⟩)
    (helse : Registry.Elsewhere key (registry site.outside) (registry s')) :
    Sound registry key ⟨⟨s', site.calls⟩, passes⟩ := by
  refine ⟨h.stored.elsewhere helse, ?_, h.own, ?_, ?_, h.once, h.earned⟩
  · intro stage hstage
    exact (h.passes stage hstage).mono helse.versions
  · intro s sent hw
    obtain ⟨batch, hmem, huid⟩ := h.known s sent hw
    exact ⟨batch, helse.versions batch hmem, huid⟩
  · intro s sent hw batch hbatch huid
    obtain ⟨old, hold, huid', hstatus⟩ | hnew := helse.current hbatch
    · rw [hstatus]
      exact h.kept s sent hw old hold (huid'.symm.trans huid)
    · -- Nothing was written for an incarnation that was never there before.
      obtain ⟨known, hmem, hknown⟩ := h.known s sent hw
      exact absurd (hknown.trans huid.symm) (hnew known hmem)

theorem Sound.step (guards : env.Guards registry key) (h : Sound registry key course)
    (hstep : Step env registry timeout key course course') : Sound registry key course' := by
  cases hstep with
  | begins site passes caches hcaches =>
    refine h.of_quiet rfl ?_ (fun _ _ hw => hw) (fun _ => rfl) ?_
    · intro stage hstage
      rcases List.mem_cons.1 hstage with rfl | hstage
      · intro batch verdict hpurpose
        obtain ⟨hget, hrest⟩ := Stage.of_purpose?_ofKey hpurpose
        exact ⟨hcaches batch hget, hrest⟩
      · exact h.passes stage hstage
    · intro uid
      simp [endings, ends, Stage.isEndOf_ofKey]
  | advances now site before after stage =>
    obtain ⟨verdict, batch, answer, s', rfl, hanswer, hstored, hcalls, hstage⟩ |
      ⟨notification, rfl, hstored, hcalls, hstage⟩ | hquiet :=
      Stage.step_history guards timeout now site stage
    · rw [hstage]
      exact h.accepts guards hanswer hstored hcalls
    · rw [hstage]
      exact h.announces hstored hcalls
    · exact h.quiet hquiet
  | leaves site before after stage =>
    refine h.of_quiet rfl ?_ (fun _ _ hw => hw) (fun _ => rfl) ?_
    · intro other hother
      refine h.passes other ?_
      rcases List.mem_append.1 hother with hother | hother
      · exact List.mem_append_left _ hother
      · exact List.mem_append_right _ (List.mem_cons_of_mem _ hother)
    · intro uid
      rw [endings_at]
      exact Nat.add_le_add_left (Nat.le_add_right _ _) _
  | elsewhere site passes s helse => exact h.elsewhere helse

theorem sound_of_reachable (guards : env.Guards registry key) {s : σ}
    (hs : (registry s).Sound key)
    (h : Reachable env registry timeout key ⟨⟨s, []⟩, []⟩ course) :
    Sound registry key course := by
  induction h with
  | start =>
    refine ⟨hs, ?_, ?_, ?_, ?_, ?_, ?_⟩ <;>
      simp [Wrote, Course.writes, ends, endings, Recorded.countCalls]
  | step _ hstep ih => exact ih.step guards hstep

/-- The batch with a UID completes at most once. -/
structure CompletesOnce (registry : σ → Registry) (course : Course σ) (uid : Option String) :
    Prop where
  writes_le_one : course.writes uid ≤ 1
  ends_le_one : course.ends uid ≤ 1
  /-- The status stays as it was written. -/
  kept : ∀ s sent, course.Wrote s sent → sent.metadata.uid = uid →
    ∀ batch, (registry course.site.outside).current = some batch → batch.metadata.uid = uid →
      batch.status = sent.status
  /-- What was written was the verdict over the very version that was stored. -/
  own : ∀ s sent, course.Wrote s sent → sent.metadata.uid = uid → WroteOwn registry s sent

/-- In every run of passes for the key of a batch, with other writers changing, deleting and making
the batch at any time, every incarnation of the batch completes at most once. -/
theorem completesOnce_of_reachable (guards : env.Guards registry key) {s : σ}
    (hs : (registry s).Sound key)
    (h : Reachable env registry timeout key ⟨⟨s, []⟩, []⟩ course) (uid : Option String) :
    CompletesOnce registry course uid := by
  have hsound := sound_of_reachable guards hs h
  refine ⟨hsound.once uid, ?_, ?_, ?_⟩
  · have honce := hsound.once uid
    have hearned := hsound.earned uid
    omega
  · intro s sent hw huid batch hbatch hsame
    exact hsound.kept s sent hw batch hbatch (hsame.trans huid.symm)
  · intro s sent hw _
    exact hsound.own s sent hw

section Conflict

open Simulation

/-- A text that is longer than the resource versions of all batches. -/
def longVersion : List JobBatch → String
  | [] => "1"
  | batch :: rest => batch.metadata.resourceVersion.getD "" ++ longVersion rest

theorem length_lt_longVersion {batches : List JobBatch} {batch : JobBatch} (h : batch ∈ batches) :
    (batch.metadata.resourceVersion.getD "").length < (longVersion batches).length := by
  have hpos : ∀ rest, 0 < (longVersion rest).length := by
    intro rest
    induction rest with
    | nil => decide
    | cons head tail ih =>
      rw [longVersion, String.length_append]
      exact Nat.lt_of_lt_of_le ih (Nat.le_add_left _ _)
  induction batches with
  | nil => cases h
  | cons head tail ih =>
    rw [longVersion, String.length_append]
    rcases List.mem_cons.1 h with rfl | h
    · exact Nat.lt_add_of_pos_right (hpos tail)
    · exact Nat.lt_of_lt_of_le (ih h) (Nat.le_add_left _ _)

/-- Writes a status over the version that was sent, with a resource version longer than all that
there were. -/
def writeStatus (sent : JobBatch) (r : Registry) : Except Error JobBatch × Registry :=
  match r.current with
  | none => (.error noSuchBatch, r)
  | some stored =>
    if stored.metadata.resourceVersion = sent.metadata.resourceVersion then
      let written := stored.rewritten sent.status (longVersion r.versions)
      (.ok written, ⟨some written, written :: r.versions⟩)
    else (.error changedBatch, r)

/-- A store for one batch, which takes no interest in children. -/
def batchStore : Surroundings Registry where
  createChild manifest r := (.ok manifest, r)
  listChildren _ _ r := (.ok [], r)
  deleteChild _ r := (.ok (), r)
  replaceStatus := writeStatus
  publish _ r := r
  sees _ _ := true
  count _ r := r

theorem guards_batchStore (key : ObjectKey) : batchStore.Guards (fun r => r) key where
  accepted {sent answer r r'} hanswer _ := by
    simp only [batchStore, writeStatus] at hanswer
    split at hanswer
    · cases hanswer
    · rename_i stored hcurrent
      split at hanswer
      · rename_i hversion
        cases hanswer
        refine ⟨stored, longVersion r.versions, hcurrent, hversion, ?_, rfl, rfl⟩
        intro b hb heq
        have hlength := length_lt_longVersion hb
        rw [heq] at hlength
        exact Nat.lt_irrefl _ hlength
      · cases hanswer
  refused {sent e r r'} hanswer := by
    simp only [batchStore, writeStatus] at hanswer
    split at hanswer
    · cases hanswer
      rfl
    · split at hanswer
      · cases hanswer
      · cases hanswer
        rfl
  createChild _ _ := rfl
  listChildren _ _ _ := rfl
  deleteChild _ _ := rfl
  publish _ _ := rfl
  count _ _ := rfl

/-- A batch that selects nothing, and so completes at once. -/
def idleBatch : JobBatch :=
  { metadata := { name := some "b", ns := some "n", uid := some "u", resourceVersion := some "7" }
    spec := {} }

/-- Caches that show the batch as it was at first. -/
def staleCaches : Caches :=
  { batches := ⟨⟨[(⟨"n", "b"⟩, idleBatch)], List.pairwise_singleton _ _⟩, true⟩ }

/-- A pass over the batch as it was at first. -/
def stalePass : Stage := .ofKey staleCaches (.batch ⟨"n", "b"⟩)

/-- The pass and what is outside after two steps of a pass over the batch as it was at first. -/
def afterStalePass (site : Recorded Registry) : Stage × Recorded Registry :=
  let first := stalePass.step batchStore.recorded (.ofSeconds 10) 0 site
  first.1.step batchStore.recorded (.ofSeconds 10) 0 first.2

/-- The batch as it was at first is stored, and nothing was asked for. -/
def idleSite : Recorded Registry := ⟨⟨some idleBatch, [idleBatch]⟩, []⟩

/-- A pass that finds the batch stored as it saw it. -/
def firstPass : Stage × Recorded Registry := afterStalePass idleSite

/-- A later pass that saw the same version. -/
def secondPass : Stage × Recorded Registry := afterStalePass firstPass.2

theorem reachable_afterStalePass {start : Course Registry} (site : Recorded Registry)
    (passes : List Stage) (hmem : idleBatch ∈ site.outside.versions)
    (h : Reachable batchStore (fun r => r) (.ofSeconds 10) ⟨"n", "b"⟩ start ⟨site, passes⟩) :
    Reachable batchStore (fun r => r) (.ofSeconds 10) ⟨"n", "b"⟩ start
      ⟨(afterStalePass site).2, (afterStalePass site).1 :: passes⟩ := by
  have hseen : ∀ batch, staleCaches.batches.get? ⟨"n", "b"⟩ = some batch →
      batch ∈ site.outside.versions := by
    rintro batch hget
    cases hget
    exact hmem
  have hbegun := h.step (.begins site passes staleCaches hseen)
  have hfirst := hbegun.step (.advances 0 site [] passes stalePass)
  exact hfirst.step (.advances 0 _ [] passes _)

/-- Of two passes that saw the same version one writes and announces the end, and the other is
refused. -/
theorem completesOnce_of_conflict :
    writes ⟨secondPass.2, [secondPass.1, firstPass.1]⟩ (some "u") = 1 ∧
      CompletesOnce (fun r => r) ⟨secondPass.2, [secondPass.1, firstPass.1]⟩ (some "u") := by
  refine ⟨by decide +kernel, ?_⟩
  have hsound : Registry.Sound ⟨"n", "b"⟩ ⟨some idleBatch, [idleBatch]⟩ := by
    refine ⟨?_, ?_, ?_⟩ <;> simp only [List.mem_singleton]
    · rintro batch hbatch
      exact (Option.some.inj hbatch).symm
    · rintro batch rfl
      rfl
    · rintro a rfl b rfl _
      rfl
  have hfirst := reachable_afterStalePass idleSite [] List.mem_cons_self .start
  have hrun := reachable_afterStalePass firstPass.2 [firstPass.1] (by decide +kernel) hfirst
  exact completesOnce_of_reachable (guards_batchStore _) hsound hrun (some "u")

end Conflict

end Course

end BatchOperator
