import BatchOperator.Proofs.Reconcile.Growth
import BatchOperator.Proofs.Reconcile.Script

/-!
# Passes that nothing hinders

Where everything that is asked for is carried out (`Surroundings.Obeys`), a pass over a batch comes
to its end, without a failure, and has performed the whole script that it began with
(`Stage.outcome_of_obeys`).

A pass that has not met with a failure sails on (`Stage.Sails`): the batch that it acts on is the
one that is stored, and the child that it waits for is in the cache. Every step keeps it so and
performs what it takes from the script (`Stage.Sails.step`), and takes some of the effort that is
left (`Stage.Sails.effort_lt`).
-/

set_option autoImplicit false

namespace BatchOperator

/-- Surroundings that carry out everything, just as they are asked for it. -/
structure Surroundings.Obeys {σ : Type} (env : Surroundings σ) (view : σ → Caches) : Prop
    extends env.Exact view, env.Serves view where
  deletes : ∀ key s, ∃ s', env.deleteChild key s = (.ok (), s')

/-- A batch is the one that is stored under a key, which is its own. -/
structure Caches.Current (c : Caches) (key : ObjectKey) (batch : JobBatch) : Prop where
  stored : c.batches.get? key = some batch
  own : Resource.key batch = .ok key

variable {σ : Type} {env : Surroundings σ} {view : σ → Caches} {timeout : Duration}
variable {key : ObjectKey} {c : Caches}

/-- How many steps it takes at most to start the children of an agenda and to write its verdict. -/
def Agenda.effort (agenda : Agenda) : Nat := 3 * agenda.starts.length + 2

namespace Stage

/-- A pass over the batch of a key has met with no failure, and will meet with none. -/
def Sails (key : ObjectKey) (c : Caches) : Stage → Prop
  | .purging .. | .reporting _ => True
  | .pruning _ _ agenda | .starting _ agenda => c.Current key agenda.batch
  | .announcing child _ agenda =>
    c.Current key agenda.batch ∧ (c.children.get? (childKey child)).isSome = true
  | .confirming child _ _ agenda =>
    c.Current key agenda.batch ∧ (c.children.get? child).isSome = true
  | .closing _ batch => c.Current key batch
  | .finished result => result = .ok ()
  | .complaining .. | .adopting .. => False

theorem sails_proceed {agenda : Agenda} (h : c.Current key agenda.batch) :
    agenda.proceed.Sails key c := by
  unfold Agenda.proceed
  split
  · exact h
  · split
    · exact h
    · rfl

theorem sails_prune {agenda : Agenda} (h : c.Current key agenda.batch)
    (extras : List ObjectKey) : (agenda.prune extras).Sails key c := by
  cases extras with
  | nil => exact sails_proceed h
  | cons => exact h

theorem sails_purge (children : List ObjectKey) : (purge children).Sails key c := by
  cases children with
  | nil => rfl
  | cons => trivial

/-- A pass that begins sails. -/
theorem sails_ofKey (keyed : c.batches.Keyed) : (ofKey c (.batch key)).Sails key c := by
  simp only [ofKey, Decision.make]
  split
  · exact sails_purge _
  · rename_i batch hbatch
    have hcurrent : c.Current key batch := ⟨hbatch, keyed key batch hbatch⟩
    split
    · rfl
    · split
      · exact hcurrent
      · exact sails_prune hcurrent _

/-- A pass that sails goes on doing so, and performs what it takes from its script. -/
theorem Sails.step (obeys : env.Obeys view) (hns : key.ns ≠ "") (timeout : Duration)
    (now : Instant) {s : σ} {stage : Stage} (h : stage.Sails key (view s)) :
    (stage.step env timeout now s).1.Sails key (view (stage.step env timeout now s).2) ∧
      ∃ edits, stage.script = edits ++ (stage.step env timeout now s).1.script ∧
        Performs env edits (view s) (view (stage.step env timeout now s).2) := by
  cases stage with
  | purging next others =>
    obtain ⟨s', hcall⟩ := obeys.deletes next s
    simp only [Stage.step, hcall, obeys.deleted hcall]
    refine ⟨sails_purge others, [.delete next], ?_, .cons (.delete next _) (.nil _)⟩
    rw [script_purge]
    simp [script, removals, orders, ending?]
  | pruning next others agenda =>
    obtain ⟨s', hcall⟩ := obeys.deletes next s
    have hcurrent : ((view s).withoutChild next).Current key agenda.batch := ⟨h.stored, h.own⟩
    simp only [Stage.step, hcall, obeys.deleted hcall]
    refine ⟨sails_prune hcurrent others, [.delete next], ?_, .cons (.delete next _) (.nil _)⟩
    rw [script_prune, script_proceed]
    simp [script, removals, orders, ending?]
  | starting template agenda =>
    obtain ⟨child, s', hcall, hfrom, hfresh⟩ :=
      obeys.creates (agenda.batch.childManifest template) s
    obtain ⟨change, children, happly, hview⟩ := obeys.created hcall
    obtain ⟨k, hk, rfl⟩ := Cache.apply_cases happly
    have hmade := Caches.madeFor_of_madeFrom (Caches.isOf_of_key hns h.own) hfrom hk
    have hkey : k = childKey child := Except.ok.inj (hk.symm.trans hmade.own)
    simp only [Stage.step, hcall, obeys.counted, hview]
    refine ⟨⟨⟨h.stored, h.own⟩, ?_⟩, [.create (agenda.batch.childManifest template)], ?_,
      .cons (.create ⟨⟨s, s', hcall⟩, hfrom, hk⟩ (hfresh k hk)) (.nil _)⟩
    · -- The child is in the cache before the answer comes.
      simp [Caches.withChildren, Cache.get?, hkey]
    · simp [script, removals, orders, ending?]
  | announcing child template agenda =>
    simp only [Stage.step, obeys.published]
    exact ⟨h, [], rfl, .nil _⟩
  | confirming child poll moment agenda =>
    obtain ⟨hcurrent, hthere⟩ := h
    rw [step_confirming, obeys.sees, hthere]
    simp only [afterLook, if_true, Poll.judge]
    split
    · exact ⟨⟨hcurrent, hthere⟩, [], rfl, .nil _⟩
    · exact ⟨sails_proceed hcurrent, [], (script_proceed agenda).symm, .nil _⟩
  | closing verdict batch =>
    have hsent : Resource.key (batch.withStatus verdict.status) = .ok key := h.own
    obtain ⟨answer, -, s', hcall, -⟩ := obeys.writes h.stored hsent rfl
    obtain ⟨k, stored, version, hk, hstored, hview⟩ := obeys.rewrites hcall
    simp only [Stage.step, hcall, obeys.counted, hview]
    refine ⟨trivial, [.write (batch.withStatus verdict.status)], ?_,
      .cons (.write version hk hstored) (.nil _)⟩
    simp [script, removals, orders, ending?]
  | reporting notification =>
    simp only [Stage.step, obeys.published]
    exact ⟨rfl, [], rfl, .nil _⟩
  | finished result => exact ⟨h, [], rfl, .nil _⟩
  | complaining | adopting => exact h.elim

/-- How many steps a pass still has before it at most, if none of them comes too early. -/
def effort : Stage → Nat
  | .purging _ others => others.length + 1
  | .pruning _ others agenda => others.length + 1 + agenda.effort
  | .starting _ agenda => agenda.effort + 3
  | .announcing _ _ agenda => agenda.effort + 2
  | .confirming _ _ _ agenda => agenda.effort + 1
  | .closing .. => 2
  | .reporting _ => 1
  | .complaining .. | .adopting .. | .finished _ => 0

theorem effort_proceed (agenda : Agenda) : agenda.proceed.effort ≤ agenda.effort := by
  unfold Agenda.proceed
  split
  · rename_i template starts hstarts
    simp only [effort, Agenda.effort, hstarts, List.length_cons]
    omega
  · split
    · simp only [effort, Agenda.effort]
      omega
    · exact Nat.zero_le _

theorem effort_prune (agenda : Agenda) (extras : List ObjectKey) :
    (agenda.prune extras).effort ≤ extras.length + agenda.effort := by
  cases extras with
  | nil =>
    rw [List.length_nil, Nat.zero_add]
    exact effort_proceed agenda
  | cons => exact Nat.le_refl _

theorem effort_purge (children : List ObjectKey) : (purge children).effort = children.length := by
  cases children <;> rfl

/-- A step that does not come too early takes some of the effort. -/
theorem Sails.effort_lt (obeys : env.Obeys view) (timeout : Duration) {s : σ} {stage : Stage}
    (h : stage.Sails key (view s)) (hopen : ∀ result, stage ≠ .finished result) :
    (stage.step env timeout (stage.moment?.getD 0) s).1.effort < stage.effort := by
  cases stage with
  | purging next others =>
    obtain ⟨s', hcall⟩ := obeys.deletes next s
    simp only [Stage.step, hcall]
    rw [effort_purge]
    exact Nat.lt_succ_self _
  | pruning next others agenda =>
    show (agenda.prune others).effort < others.length + 1 + agenda.effort
    have hle := effort_prune agenda others
    omega
  | starting template agenda =>
    obtain ⟨child, s', hcall, -⟩ := obeys.creates (agenda.batch.childManifest template) s
    simp only [Stage.step, hcall, effort]
    omega
  | announcing child template agenda => exact Nat.lt_succ_self _
  | confirming child poll moment agenda =>
    -- A look at the moment that was set is not too early, and the child is there.
    rw [step_confirming, obeys.sees, h.2]
    simp only [afterLook, if_true, Poll.judge, moment?, Option.getD_some, Nat.lt_irrefl, if_false]
    exact Nat.lt_succ_of_le (effort_proceed agenda)
  | closing verdict batch =>
    have hsent : Resource.key (batch.withStatus verdict.status) = .ok key := h.own
    obtain ⟨answer, -, s', hcall, -⟩ := obeys.writes h.stored hsent rfl
    simp only [Stage.step, hcall, effort]
    omega
  | reporting notification => exact Nat.zero_lt_one
  | finished result => exact absurd rfl (hopen result)
  | complaining | adopting => exact h.elim

/-- A pass that sails comes to its end. -/
theorem Sails.exists_ends (obeys : env.Obeys view) (hns : key.ns ≠ "") (timeout : Duration)
    {s : σ} {stage : Stage} (h : stage.Sails key (view s)) :
    ∃ result s', Ends env timeout stage s result s' := by
  induction hn : stage.effort using Nat.strongRecOn generalizing stage s with
  | ind n ih =>
    by_cases hopen : ∀ result, stage ≠ .finished result
    · have hlt := h.effort_lt obeys timeout hopen
      obtain ⟨result, s', hends⟩ := ih _ (hn ▸ hlt) (h.step obeys hns timeout _).1 rfl
      exact ⟨result, s', .step _ hends⟩
    · obtain ⟨result, hresult⟩ : ∃ result, stage = .finished result := by simpa using hopen
      exact ⟨result, s, hresult ▸ .finished result s⟩

/-- However a pass that sails goes on, it ends without a failure and performs its script. -/
theorem Sails.of_ends (obeys : env.Obeys view) (hns : key.ns ≠ "") {s s' : σ} {stage : Stage}
    {result : Except Error Unit} (h : stage.Sails key (view s))
    (hends : Ends env timeout stage s result s') :
    result = .ok () ∧ Performs env stage.script (view s) (view s') := by
  induction hends with
  | finished result s => exact ⟨h, .nil _⟩
  | step now hends ih =>
    obtain ⟨hsails, edits, hscript, hperforms⟩ := h.step obeys hns timeout now
    obtain ⟨hok, hrest⟩ := ih hsails
    exact ⟨hok, hscript ▸ Performs.append_iff.2 ⟨_, hperforms, hrest⟩⟩

/-- Where everything that is asked for is carried out, every pass over a batch comes to its end
without a failure and has performed its whole script. -/
theorem outcome_of_obeys (obeys : env.Obeys view) (hns : key.ns ≠ "") {s : σ}
    (keyed : (view s).batches.Keyed) :
    (∃ s', PassEnds env view timeout key s (.ok ()) s') ∧
      ∀ result s', PassEnds env view timeout key s result s' →
        result = .ok () ∧ (ofKey (view s) (.batch key)).Outcome env (view s) (view s') := by
  have hsails : (ofKey (view s) (.batch key)).Sails key (view s) := sails_ofKey keyed
  constructor
  · obtain ⟨result, s', hends⟩ := hsails.exists_ends obeys hns timeout
    obtain ⟨rfl, -⟩ := hsails.of_ends obeys hns hends
    exact ⟨s', hends⟩
  · intro result s' hends
    obtain ⟨hok, hperforms⟩ := hsails.of_ends obeys hns hends
    exact ⟨hok, hperforms.outcome⟩

end Stage

namespace Caches

/-- Caches that are their own store carry out everything. -/
theorem obeys_store : store.Obeys fun c => c where
  toExact :=
    { toMirrors := serves_store.toMirrors
      makes := by
        intro manifest child s s' hcall
        cases hcall
        refine ⟨⟨rfl, rfl, rfl, rfl⟩, ?_⟩
        intro k hk
        cases (key_newChild manifest s).symm.trans hk
        exact get?_newKey manifest s
      rewrites := by
        intro sent answer s s' hcall
        change writeStatus sent s = _ at hcall
        unfold writeStatus at hcall
        split at hcall
        · cases hcall
        · rename_i k hk
          split at hcall
          · cases hcall
          · rename_i stored hstored
            split at hcall
            · cases hcall
              exact ⟨k, stored, _, hk, hstored, rfl⟩
            · cases hcall }
  creates := serves_store.creates
  writes := serves_store.writes
  sees := serves_store.sees
  deletes _ _ := ⟨_, rfl⟩

end Caches

end BatchOperator
