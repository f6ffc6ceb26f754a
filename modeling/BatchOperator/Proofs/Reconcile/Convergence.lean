import BatchOperator.Proofs.Reconcile.Growth
import BatchOperator.Proofs.Reconcile.Store

/-!
# A batch converges

A batch whose children end one after the other, in whatever order and phases, is complete after at
most one pass more than it has templates, and its status says how they ended (`advanced_of_rounds`).

Every round ends a child for good, so after as many rounds as there are templates all children have
ended; and a pass that leaves the batch pending leaves something running, so that there can be
another round.
-/

set_option autoImplicit false

namespace BatchOperator

variable {σ : Type} {env : Surroundings σ} {view : σ → Caches} {timeout : Duration}
variable {key : ObjectKey} {batch : JobBatch} {templates : List JobTemplate}

namespace Stage

/-- A pass that starts children: what is left to start fits the caches, and a child that is looked
for is there to be found. -/
def Dispatches (batch : JobBatch) (I : List JobTemplate → Caches → Prop) (c : Caches) :
    Stage → Prop
  | .starting template agenda =>
    agenda.batch = batch ∧ agenda.verdict = none ∧ I (template :: agenda.starts) c
  | .announcing child _ agenda =>
    agenda.batch = batch ∧ agenda.verdict = none ∧ I agenda.starts c ∧
      (c.children.get? (childKey child)).isSome = true
  | .confirming child _ _ agenda =>
    agenda.batch = batch ∧ agenda.verdict = none ∧ I agenda.starts c ∧
      (c.children.get? child).isSome = true
  | .finished result => result = .ok () ∧ I [] c
  | _ => False

theorem dispatches_proceed {I : List JobTemplate → Caches → Prop} {c : Caches} {agenda : Agenda}
    (hbatch : agenda.batch = batch) (hverdict : agenda.verdict = none) (hI : I agenda.starts c) :
    agenda.proceed.Dispatches batch I c := by
  unfold Agenda.proceed
  split
  · rename_i template rest hstarts
    rw [hstarts] at hI
    exact ⟨hbatch, hverdict, hI⟩
  · rename_i hstarts
    rw [hstarts] at hI
    rw [hverdict]
    exact ⟨rfl, hI⟩

/-- How many steps a pass that starts children still has before it, if none comes too early. -/
def stepsLeft : Stage → Nat
  | .starting _ agenda => 3 * agenda.starts.length + 3
  | .announcing _ _ agenda => 3 * agenda.starts.length + 2
  | .confirming _ _ _ agenda => 3 * agenda.starts.length + 1
  | _ => 0

theorem stepsLeft_proceed (agenda : Agenda) :
    agenda.proceed.stepsLeft ≤ 3 * agenda.starts.length := by
  unfold Agenda.proceed
  split
  · rename_i template rest hstarts
    rw [hstarts]
    simp only [stepsLeft, List.length_cons]
    omega
  · split <;> exact Nat.zero_le _

/-- A pass that starts children goes on doing so. -/
theorem Dispatches.step (serves : env.Serves view) (hof : Caches.IsOf batch key) {c₀ : Caches}
    {total : Nat} (now : Instant) {s : σ} {stage : Stage}
    (h : stage.Dispatches batch (Caches.Grown key batch templates c₀ total) (view s)) :
    (stage.step env timeout now s).1.Dispatches batch (Caches.Grown key batch templates c₀ total)
      (view (stage.step env timeout now s).2) := by
  cases stage with
  | starting template agenda =>
    obtain ⟨rfl, hverdict, hgrown⟩ := h
    obtain ⟨child, s', hcreate, hfrom, hfresh⟩ :=
      serves.creates (agenda.batch.childManifest template) s
    obtain ⟨change, children, happly, hview⟩ := serves.created hcreate
    obtain ⟨k, hk, -⟩ := Cache.apply_cases happly
    have hmade := Caches.madeFor_of_madeFrom hof hfrom hk
    -- The child is in the cache before the answer comes, so the look for it will find it.
    obtain ⟨hgrown', hthere⟩ := hgrown.create hmade happly (hfresh _ hmade.own)
    simp only [Stage.step, hcreate, serves.counted, hview]
    exact ⟨rfl, hverdict, hgrown', hthere⟩
  | announcing child template agenda =>
    obtain ⟨hbatch, hverdict, hgrown, hthere⟩ := h
    simp only [Stage.step, serves.published]
    exact ⟨hbatch, hverdict, hgrown, hthere⟩
  | confirming child poll moment agenda =>
    obtain ⟨hbatch, hverdict, hgrown, hthere⟩ := h
    rw [step_confirming, serves.sees, hthere]
    simp only [afterLook, if_true, Poll.judge]
    split
    · exact ⟨hbatch, hverdict, hgrown, hthere⟩
    · exact dispatches_proceed hbatch hverdict hgrown
  | finished result => exact h
  | purging | pruning | complaining | adopting | closing | reporting => exact h.elim

/-- A step that does not come too early leaves fewer steps. -/
theorem Dispatches.stepsLeft_lt (serves : env.Serves view) (timeout : Duration)
    {I : List JobTemplate → Caches → Prop} {s : σ} {stage : Stage}
    (h : stage.Dispatches batch I (view s)) (hopen : ∀ result, stage ≠ .finished result) :
    (stage.step env timeout (stage.moment?.getD 0) s).1.stepsLeft < stage.stepsLeft := by
  cases stage with
  | starting template agenda =>
    obtain ⟨child, s', hcreate, -⟩ := serves.creates (agenda.batch.childManifest template) s
    simp only [Stage.step, hcreate, stepsLeft]
    omega
  | announcing child template agenda => exact Nat.lt_succ_self _
  | confirming child poll moment agenda =>
    obtain ⟨-, -, -, hthere⟩ := h
    -- A look at the moment that was set is not too early, and the child is there.
    rw [step_confirming, serves.sees, hthere]
    simp only [afterLook, if_true, Poll.judge, moment?, Option.getD_some, Nat.lt_irrefl, if_false]
    exact Nat.lt_succ_of_le (stepsLeft_proceed agenda)
  | finished result => exact absurd rfl (hopen result)
  | purging | pruning | complaining | adopting | closing | reporting => exact h.elim

/-- A pass that starts children comes to its end. -/
theorem Dispatches.exists_ends (serves : env.Serves view) (hof : Caches.IsOf batch key)
    {c₀ : Caches} {total : Nat} {s : σ} {stage : Stage}
    (h : stage.Dispatches batch (Caches.Grown key batch templates c₀ total) (view s)) :
    ∃ result s', Ends env timeout stage s result s' := by
  induction hn : stage.stepsLeft using Nat.strongRecOn generalizing stage s with
  | ind n ih =>
    by_cases hopen : ∀ result, stage ≠ .finished result
    · have hlt := h.stepsLeft_lt serves timeout hopen
      obtain ⟨result, s', hends⟩ := ih _ (hn ▸ hlt) (h.step serves hof _) rfl
      exact ⟨result, s', .step _ hends⟩
    · obtain ⟨result, hresult⟩ : ∃ result, stage = .finished result := by simpa using hopen
      exact ⟨result, s, hresult ▸ .finished result s⟩

/-- What starting children comes to. -/
theorem Dispatches.of_ends (serves : env.Serves view) (hof : Caches.IsOf batch key)
    {c₀ : Caches} {total : Nat} {s s' : σ} {stage : Stage} {result : Except Error Unit}
    (h : stage.Dispatches batch (Caches.Grown key batch templates c₀ total) (view s))
    (hends : Ends env timeout stage s result s') :
    result = .ok () ∧ Caches.Grown key batch templates c₀ total [] (view s') :=
  hends.invariant (I := fun stage s =>
    stage.Dispatches batch (Caches.Grown key batch templates c₀ total) (view s))
    (fun now _ _ hI => hI.step serves hof now) h

/-- A verdict is stored, and the children are as they were. -/
structure Stored (key : ObjectKey) (batch : JobBatch) (verdict : Verdict) (c₀ c : Caches) :
    Prop where
  children : c.children = c₀.children
  batch : ∃ version, c.batches.get? key = some (batch.rewritten (some verdict.status) version)

/-- A pass that writes a verdict. -/
def Concludes (key : ObjectKey) (batch : JobBatch) (verdict : Verdict) (c₀ c : Caches) :
    Stage → Prop
  | .closing v b => v = verdict ∧ b = batch ∧ c = c₀
  | .reporting _ => Stored key batch verdict c₀ c
  | .finished result => result = .ok () ∧ Stored key batch verdict c₀ c
  | _ => False

/-- A pass that writes a verdict goes on to its end. -/
theorem Concludes.step (serves : env.Serves view) {c₀ : Caches} {verdict : Verdict}
    (hbatch : c₀.batches.get? key = some batch) (hkey : Resource.key batch = .ok key)
    (now : Instant) {s : σ} {stage : Stage} (h : stage.Concludes key batch verdict c₀ (view s)) :
    (stage.step env timeout now s).1.Concludes key batch verdict c₀
      (view (stage.step env timeout now s).2) := by
  cases stage with
  | closing v b =>
    obtain ⟨rfl, rfl, hview⟩ := h
    rw [← hview] at hbatch
    -- Nothing has happened since the pass began, so the version that it saw is the one stored.
    have hsent : Resource.key (b.withStatus v.status) = .ok key := hkey
    obtain ⟨answer, version, s', hwrite, hstored⟩ := serves.writes hbatch hsent rfl
    obtain ⟨batches, hbatches, -⟩ := serves.written hwrite
    simp only [Stage.step, hwrite, serves.counted]
    refine ⟨?_, version, hstored⟩
    rw [hbatches, hview]
    rfl
  | reporting notification =>
    simp only [Stage.step, serves.published]
    exact ⟨rfl, h⟩
  | finished result => exact h
  | purging | pruning | complaining | adopting | starting | announcing | confirming => exact h.elim

/-- A pass that writes a verdict comes to its end. -/
theorem Concludes.exists_ends (serves : env.Serves view) {s : σ} {verdict : Verdict}
    (hbatch : (view s).batches.get? key = some batch) (hkey : Resource.key batch = .ok key) :
    ∃ result s', Ends env timeout (.closing verdict batch) s result s' := by
  have hsent : Resource.key (batch.withStatus verdict.status) = .ok key := hkey
  obtain ⟨answer, version, s', hwrite, -⟩ := serves.writes hbatch hsent rfl
  refine ⟨.ok (), env.publish (verdict.notification batch)
    (env.count (.batchCompleted verdict.outcome) s'), .step 0 (.step 0 ?_)⟩
  simp only [Stage.step, hwrite]
  exact .finished _ _

/-- What writing a verdict comes to. -/
theorem Concludes.of_ends (serves : env.Serves view) {s s' : σ} {verdict : Verdict}
    {result : Except Error Unit} (hbatch : (view s).batches.get? key = some batch)
    (hkey : Resource.key batch = .ok key)
    (hends : Ends env timeout (.closing verdict batch) s result s') :
    result = .ok () ∧ Stored key batch verdict (view s) (view s') :=
  hends.invariant (I := fun stage s' => stage.Concludes key batch verdict (view s) (view s'))
    (fun now _ _ hI => hI.step serves hbatch hkey now) ⟨rfl, rfl, rfl⟩

end Stage

namespace Caches

/-- A batch at the beginning of a pass, after a number of rounds. -/
structure Due (c : Caches) (key : ObjectKey) (batch : JobBatch) (templates : List JobTemplate)
    (c₀ : Caches) (rounds : Nat) : Prop where
  stored : c.batches.get? key = some batch
  sameTemplates : c.templates = c₀.templates
  tended : c.Tended key batch templates
  finished : rounds ≤ c.finishedOf key

variable {c₀ c : Caches} {rounds : Nat}

/-- The plan that a pass makes for a batch. -/
def planOf (c : Caches) (key : ObjectKey) (batch : JobBatch) (templates : List JobTemplate) :
    Plan :=
  .make batch templates (c.childrenOf key)

theorem Due.tidy (begins : c₀.Begins key batch templates)
    (due : c.Due key batch templates c₀ rounds) :
    Plan.Tidy batch templates (c.childrenOf key) :=
  due.tended.tidy begins.nodup_names

/-- A pass over a batch that is tended removes nothing. -/
theorem Due.ofKey_eq (begins : c₀.Begins key batch templates)
    (due : c.Due key batch templates c₀ rounds) :
    Stage.ofKey c (.batch key) = Agenda.proceed ⟨batch, (c.planOf key batch templates).starts,
      (c.planOf key batch templates).verdict⟩ := by
  obtain ⟨selector, hread, hlist⟩ := begins.selected
  have hextras := (due.tidy begins).extras_eq_nil
  simp only [Stage.ofKey, Decision.make, due.stored, begins.pending, hread, Bool.false_eq_true,
    if_false, Stage.ofDecision, due.sameTemplates, hlist, hextras, List.map_nil]
  rfl

/-- A pass that comes to no verdict has all its starts before it. -/
theorem Due.dispatches (begins : c₀.Begins key batch templates)
    (due : c.Due key batch templates c₀ rounds)
    (hverdict : (c.planOf key batch templates).verdict = none) :
    (Stage.ofKey c (.batch key)).Dispatches batch (Grown key batch templates c
      (c.unfinishedOf key + (c.planOf key batch templates).starts.length)) c := by
  have htidy := due.tidy begins
  have hsub : (c.planOf key batch templates).starts.Sublist
      (Plan.undispatched (ChildIndex.build batch (c.childrenOf key)) templates) :=
    Plan.starts_sublist batch templates (c.childrenOf key)
  rw [due.ofKey_eq begins]
  refine Stage.dispatches_proceed rfl hverdict ⟨rfl, rfl, due.tended, ?_, ?_, rfl, rfl⟩
  · intro template htemplate
    obtain ⟨hmem, hnone⟩ := htidy.mem_undispatched.1 (hsub.subset htemplate)
    exact ⟨hmem, fun k child hchild => hnone child (mem_childrenOf.2 ⟨k, hchild⟩)⟩
  · have hall : (Plan.undispatched (ChildIndex.build batch (c.childrenOf key)) templates).Sublist
        templates := List.filter_sublist
    exact begins.nodup_names.sublist ((hsub.trans hall).map JobTemplate.name)

/-- A pass that comes to a verdict writes it at once. -/
theorem Due.closes (begins : c₀.Begins key batch templates)
    (due : c.Due key batch templates c₀ rounds) {verdict : Verdict}
    (hverdict : (c.planOf key batch templates).verdict = some verdict) :
    Stage.ofKey c (.batch key) = .closing verdict batch := by
  have hstarts : (c.planOf key batch templates).starts = [] :=
    ((due.tidy begins).concluded hverdict).1
  rw [due.ofKey_eq begins, hstarts, hverdict]
  rfl

section Run

variable {start s s' s'' : σ} {result : Except Error Unit}

/-- A pass over a batch that is tended comes to its end. -/
theorem Due.exists_passEnds (serves : env.Serves view)
    (begins : (view start).Begins key batch templates)
    (due : (view s).Due key batch templates (view start) rounds) :
    ∃ result s', PassEnds env view timeout key s result s' := by
  cases hverdict : ((view s).planOf key batch templates).verdict with
  | none => exact (due.dispatches begins hverdict).exists_ends serves begins.isOf
  | some verdict =>
    simp only [PassEnds, due.closes begins hverdict]
    exact Stage.Concludes.exists_ends serves due.stored begins.own

/-- A pass over a batch that is tended makes children for templates that have none, or writes the
verdict. -/
theorem Due.of_passEnds (serves : env.Serves view)
    (begins : (view start).Begins key batch templates)
    (due : (view s).Due key batch templates (view start) rounds)
    (hpass : PassEnds env view timeout key s result s') :
    result = .ok () ∧
      ((((view s).planOf key batch templates).verdict = none ∧
          Grown key batch templates (view s) ((view s).unfinishedOf key +
            ((view s).planOf key batch templates).starts.length) [] (view s')) ∨
        ∃ verdict, ((view s).planOf key batch templates).verdict = some verdict ∧
          Stage.Stored key batch verdict (view s) (view s')) := by
  cases hverdict : ((view s).planOf key batch templates).verdict with
  | none =>
    obtain ⟨hok, hgrown⟩ := (due.dispatches begins hverdict).of_ends serves begins.isOf hpass
    exact ⟨hok, .inl ⟨rfl, hgrown⟩⟩
  | some verdict =>
    rw [PassEnds, due.closes begins hverdict] at hpass
    obtain ⟨hok, hstored⟩ := Stage.Concludes.of_ends serves due.stored begins.own hpass
    exact ⟨hok, .inr ⟨verdict, rfl, hstored⟩⟩

/-- A pass over a batch that is tended leaves something running, or completes the batch. -/
theorem Due.advanced (serves : env.Serves view)
    (begins : (view start).Begins key batch templates)
    (due : (view s).Due key batch templates (view start) rounds)
    (hpass : PassEnds env view timeout key s result s') :
    (view s').Advanced key batch templates rounds := by
  have htidy := due.tidy begins
  obtain ⟨-, ⟨hverdict, hgrown⟩ | ⟨verdict, hverdict, hstored⟩⟩ :=
    due.of_passEnds serves begins hpass
  · have htidy' := hgrown.tended.tidy begins.nodup_names
    obtain ⟨hless, hruns⟩ := htidy.of_verdict_eq_none hverdict
    refine ⟨htidy'.selected, fun _ _ => htidy'.countP_templateName_le _, .inl ⟨?_, ?_, ?_⟩⟩
    · rw [hgrown.sameBatches]
      exact due.stored
    · exact Nat.lt_of_le_of_lt due.finished hless
    · have htotal := hgrown.unfinished
      simp only [List.length_nil, Nat.add_zero] at htotal
      rw [htotal]
      exact hruns
  · have hchildren : (view s').childrenOf key = (view s).childrenOf key := by
      rw [childrenOf, hstored.children]
      rfl
    obtain ⟨version, hbatch⟩ := hstored.batch
    refine ⟨?_, ?_, .inr ⟨verdict.status, version, hbatch, ?_⟩⟩ <;> rw [hchildren]
    · exact htidy.selected
    · exact fun _ _ => htidy.countP_templateName_le _
    · exact (htidy.concluded hverdict).2

/-- After a pass and a move a batch is tended again, and one more child has ended. -/
theorem Due.next (serves : env.Serves view) (begins : (view start).Begins key batch templates)
    (due : (view s).Due key batch templates (view start) rounds)
    (hpass : PassEnds env view timeout key s result s') (hmove : (view s').Moves key (view s'')) :
    (view s'').Due key batch templates (view start) (rounds + 1) := by
  obtain ⟨-, ⟨hverdict, hgrown⟩ | ⟨verdict, hverdict, hstored⟩⟩ :=
    due.of_passEnds serves begins hpass
  · refine ⟨?_, ?_, hgrown.tended.moves hmove, ?_⟩
    · rw [hmove.batch, hgrown.sameBatches]
      exact due.stored
    · rw [hmove.templates, hgrown.sameTemplates]
      exact due.sameTemplates
    · have hmore := hmove.finishedOf_lt
      have hfinished := due.finished
      rw [hgrown.finished] at hmore
      omega
  · -- A batch that is complete has nothing left that could move.
    obtain ⟨k, child, -, hchild, hruns, -⟩ := hmove.ends
    have hmem : child ∈ (view s).childrenOf key := by
      refine mem_childrenOf.2 ⟨k, ?_⟩
      rw [HasChild, ← hstored.children]
      exact hchild
    have hended := ((due.tidy begins).concluded hverdict).2.ended child hmem
    rw [hruns] at hended
    cases hended

theorem due_of_rounds (serves : env.Serves view) (begins : (view start).Begins key batch templates)
    (h : Rounds env view timeout key start rounds s) :
    (view s).Due key batch templates (view start) rounds := by
  induction h with
  | start =>
    exact ⟨begins.stored, rfl, tended_of_childrenOf_eq_nil begins.children, Nat.zero_le _⟩
  | round _ hpass hmove ih => exact ih.next serves begins hpass hmove

end Run

end Caches

/-- However the children of a batch end, round by round, every pass comes to its end without a
failure and leaves the batch complete or something running. After as many rounds as there are
templates it is complete, so after at most one pass more. -/
theorem advanced_of_rounds {start s : σ} {rounds : Nat} (serves : env.Serves view)
    (begins : (view start).Begins key batch templates)
    (h : Rounds env view timeout key start rounds s) :
    (∃ s', PassEnds env view timeout key s (.ok ()) s') ∧
      ∀ result s', PassEnds env view timeout key s result s' →
        result = .ok () ∧ (view s').Advanced key batch templates rounds := by
  have due := Caches.due_of_rounds serves begins h
  refine ⟨?_, ?_⟩
  · have hends : ∃ result s', PassEnds env view timeout key s result s' :=
      due.exists_passEnds serves begins
    obtain ⟨result, s', hpass⟩ := hends
    obtain ⟨rfl, -⟩ := due.of_passEnds serves begins hpass
    exact ⟨s', hpass⟩
  · intro result s' hpass
    exact ⟨(due.of_passEnds serves begins hpass).1, due.advanced serves begins hpass⟩

section OneRound

/-- The caches after a number of steps of the first pass over a small batch. -/
def afterSteps : Nat → Stage × Caches
  | 0 => (.ofKey smallCaches (.batch ⟨"n", "b"⟩), smallCaches)
  | n + 1 => (afterSteps n).1.step Caches.store (.ofSeconds 10) 0 (afterSteps n).2

/-- The child that the pass makes. -/
def smallChild : Pod := Caches.newChild (smallBatch.childManifest smallTemplate) smallCaches

/-- The key of that child. -/
def smallKey : ObjectKey := Caches.newKey (smallBatch.childManifest smallTemplate) smallCaches

/-- The child when it has ended. -/
def endedChild : Pod := { smallChild with status := some { phase := some "Succeeded" } }

/-- The caches in which the child has ended. -/
def afterMove : Caches :=
  (afterSteps 3).2.withChildren { (afterSteps 3).2.children with
    objects := (afterSteps 3).2.children.objects.insert smallKey endedChild }

/-- Whether a pass has finished without a failure. -/
def Stage.isDone : Stage → Bool
  | .finished (.ok ()) => true
  | _ => false

theorem Stage.eq_finished_of_isDone {stage : Stage} (h : stage.isDone = true) :
    stage = .finished (.ok ()) := by
  unfold isDone at h
  split at h
  · rfl
  · cases h

/-- A batch of one template is complete after one round and one more pass. -/
theorem advanced_of_one_round :
    (∃ s', PassEnds Caches.store (fun c => c) (.ofSeconds 10) ⟨"n", "b"⟩ afterMove (.ok ()) s') ∧
      ∀ result s',
        PassEnds Caches.store (fun c => c) (.ofSeconds 10) ⟨"n", "b"⟩ afterMove result s' →
          result = .ok () ∧ s'.Advanced ⟨"n", "b"⟩ smallBatch [smallTemplate] 1 := by
  have hbegins : smallCaches.Begins ⟨"n", "b"⟩ smallBatch [smallTemplate] := by
    refine ⟨by decide, rfl, rfl, rfl, ⟨_, rfl, by decide +kernel⟩, Cache.keyed_singleton rfl true,
      rfl⟩
  have hpass : PassEnds Caches.store (fun c => c) (.ofSeconds 10) ⟨"n", "b"⟩ smallCaches (.ok ())
      (afterSteps 3).2 := by
    have hdone : (afterSteps 3).1 = .finished (.ok ()) :=
      Stage.eq_finished_of_isDone (by decide +kernel)
    refine .step 0 (.step 0 (.step 0 ?_))
    show Stage.Ends _ _ (afterSteps 3).1 (afterSteps 3).2 _ _
    rw [hdone]
    exact .finished _ _
  have hmove : (afterSteps 3).2.Moves ⟨"n", "b"⟩ afterMove := by
    have hchild : (afterSteps 3).2.HasChild ⟨"n", "b"⟩ smallKey smallChild :=
      ⟨by decide +kernel, rfl, by decide +kernel⟩
    have hended : endedChild.phase.isTerminal = true := by decide +kernel
    exact Caches.moves_of_ends hchild rfl ⟨rfl, rfl, fun _ => hended⟩ hended
  exact advanced_of_rounds Caches.serves_store hbegins (.round .start hpass hmove)

end OneRound

end BatchOperator
