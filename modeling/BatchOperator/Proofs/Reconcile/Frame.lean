import BatchOperator.Proofs.Reconcile.Fixpoint
import BatchOperator.Proofs.Reconcile.Recorded
import BatchOperator.Proofs.Reconcile.Triggers

/-!
# What a pass leaves alone

A pass over the batch of a key only asks for changes that concern the batch: it creates pods that
carry the name of the batch, in its namespace, removes pods that do, and writes the status of the
batch (`Stage.concerns_of_mem_script`). That holds for every call that it makes, whatever the
answers are (`Stage.Path.concerns_of_mem_calls`).

Where the changes are made as they are asked for, everything else is at all times of the pass as it
was (`Stage.KeepsTo`, `Caches.SameBut`), so a pass over another batch begins just as it would have
begun before (`Caches.SameBut.ofKey_eq`).
-/

set_option autoImplicit false

namespace BatchOperator

/-- The change that a call asks the API server for, if it asks for one. -/
def Call.edit? : Call → Option Edit
  | .created manifest _ => some (.create manifest)
  | .deleted child _ => some (.delete child)
  | .replaced sent _ => some (.write sent)
  | .listed .. | .published _ => none

/-- A change concerns the batch of a key only. -/
inductive Edit.Concerns (c : Caches) (key : ObjectKey) : Edit → Prop where
  | create {manifest : Pod} (ns : manifest.metadata.ns = some key.ns)
      (batchName : manifest.batchName = some key.name) : Concerns c key (.create manifest)
  | delete {k : ObjectKey} {child : Pod} (h : c.HasChild key k child) : Concerns c key (.delete k)
  | write {batch : JobBatch} (current : c.Current key batch) (status : BatchStatus) :
      Concerns c key (.write (batch.withStatus status))

namespace Caches

/-- A pod under a key is a child of the batch, whether it is there or not. -/
def IsChild (batch key : ObjectKey) (pod : Pod) : Prop :=
  key.ns = batch.ns ∧ pod.batchName = some batch.name

/-- Two caches differ at most in the children of the batch of a key and in its status. -/
structure SameBut (c : Caches) (key : ObjectKey) (c' : Caches) : Prop where
  templates : c'.templates = c.templates
  batches : ∀ other, other ≠ key → c'.batches.get? other = c.batches.get? other
  batch : c'.batches.get? key = c.batches.get? key ∨ ∃ stored status version,
    c.batches.get? key = some stored ∧
      c'.batches.get? key = some (stored.rewritten status version)
  children : ∀ k pod, ¬IsChild key k pod →
    (c'.children.get? k = some pod ↔ c.children.get? k = some pod)

end Caches

/-! ## What a pass asks for -/

namespace Stage

variable {c : Caches} {key : ObjectKey}

/-- What a pass removes are children of its batch. -/
theorem hasChild_of_mem_removals_ofKey (hns : key.ns ≠ "") (keyed : c.Keyed) {k : ObjectKey}
    (h : k ∈ (ofKey c (.batch key)).removals) : ∃ child, c.HasChild key k child := by
  obtain ⟨-, hdecision⟩ | ⟨batch, -, -, hdecision⟩ | ⟨batch, fault, -, hdecision⟩ |
    ⟨batch, selector, hbatch, hpending, hselector⟩ := Decision.make_cases c key
  · -- The batch is gone: its children go by their names.
    rw [ofKey, hdecision, ofDecision, removals_purge] at h
    obtain ⟨child, hchild, rfl⟩ := List.mem_map.1 h
    obtain ⟨k, hk⟩ := Caches.mem_childrenOf.1 hchild
    have hname : child.name = k.name := Metadata.anyName_of_key (keyed.children k child hk.1)
    refine ⟨child, ?_⟩
    rw [← hk.2.1, hname]
    exact hk
  · rw [ofKey, hdecision] at h
    cases h
  · rw [ofKey, hdecision] at h
    cases h
  · rw [ofKey, Decision.make_eq_proceed hbatch hpending hselector, ofDecision, removals_prune] at h
    obtain ⟨child, hchild, rfl⟩ := List.mem_map.1 h
    have hmem := ((Plan.mem_extras_iff (Caches.nodup_childrenOf keyed.children) _).1 hchild).1
    obtain ⟨k, hk⟩ := Caches.mem_childrenOf.1 hmem
    refine ⟨child, ?_⟩
    rw [extraKey, hk.childKey_eq hns keyed.children]
    exact hk

/-- What a pass writes is a status of its batch. -/
theorem current_of_ending?_ofKey (keyed : c.Keyed) {sent : JobBatch}
    (h : (ofKey c (.batch key)).ending? = some sent) :
    ∃ batch status, c.Current key batch ∧ sent = batch.withStatus status := by
  obtain ⟨-, hdecision⟩ | ⟨batch, -, -, hdecision⟩ | ⟨batch, fault, hbatch, hdecision⟩ |
    ⟨batch, selector, hbatch, hpending, hselector⟩ := Decision.make_cases c key
  · rw [ofKey, hdecision, ofDecision, ending?_purge] at h
    cases h
  · rw [ofKey, hdecision] at h
    cases h
  · rw [ofKey, hdecision] at h
    cases h
    exact ⟨batch, _, ⟨hbatch, keyed.batches key batch hbatch⟩, rfl⟩
  · rw [(orders_ofKey hbatch hpending hselector).2] at h
    obtain ⟨verdict, -, rfl⟩ := Option.map_eq_some_iff.1 h
    exact ⟨batch, _, ⟨hbatch, keyed.batches key batch hbatch⟩, rfl⟩

/-- Every change of the script of a pass concerns its batch. -/
theorem concerns_of_mem_script (hns : key.ns ≠ "") (keyed : c.Keyed) {edit : Edit}
    (h : edit ∈ (ofKey c (.batch key)).script) : edit.Concerns c key := by
  rcases List.mem_append.1 h with h | h
  · obtain ⟨k, hk, rfl⟩ := List.mem_map.1 h
    obtain ⟨child, hchild⟩ := hasChild_of_mem_removals_ofKey hns keyed hk
    exact .delete hchild
  · rcases List.mem_append.1 h with h | h
    · obtain ⟨order, horder, rfl⟩ := List.mem_map.1 h
      obtain ⟨batch, selector, hbatch, horders⟩ := of_mem_orders_ofKey horder
      rw [horders] at horder
      obtain ⟨template, -, rfl⟩ := List.mem_map.1 horder
      -- The marks of the batch are put above those of the template.
      have hfor := Caches.isFor_of_isOf (Caches.isOf_of_key hns (keyed.batches key batch hbatch))
        template
      exact .create hfor.ns hfor.batchName
    · obtain ⟨sent, hsent, rfl⟩ := List.mem_map.1 h
      obtain ⟨batch, status, hcurrent, rfl⟩ :=
        current_of_ending?_ofKey keyed (Option.mem_toList.1 hsent)
      exact .write hcurrent status

end Stage

section Asked

variable {σ : Type} {env : Surroundings σ} {timeout : Duration}

/-- The calls that a turn makes. -/
def Turn.calls (env : Surroundings σ) (timeout : Duration) (turn : Turn σ) : List Call :=
  (turn.stage.step env.recorded timeout turn.now ⟨turn.outside, []⟩).2.calls.map Prod.snd

/-- The changes that the calls of a turn ask for are the one that its stage is about. -/
theorem Turn.filterMap_edit?_calls (turn : Turn σ) :
    (turn.calls env timeout).filterMap Call.edit? = turn.stage.edit?.toList := by
  obtain ⟨now, stage, s⟩ := turn
  cases stage with
  | purging next others =>
    simp only [calls, Stage.step, Surroundings.recorded]
    split <;> rfl
  | starting template agenda =>
    simp only [calls, Stage.step, Surroundings.recorded]
    split
    · rfl
    · split <;> rfl
  | adopting template refusal agenda =>
    simp only [calls, Stage.step, Surroundings.recorded]
    split
    · rfl
    · split <;> rfl
  | confirming child poll moment agenda =>
    rw [calls, Stage.step_confirming]
    rfl
  | closing verdict batch =>
    simp only [calls, Stage.step, Surroundings.recorded]
    split <;> rfl
  | pruning | announcing | complaining | reporting | finished => rfl

/-- Every change that a pass asks for concerns its batch, whatever happens elsewhere and however
its calls are answered. -/
theorem Stage.Path.concerns_of_mem_calls {c : Caches} {key : ObjectKey} (hns : key.ns ≠ "")
    (keyed : c.Keyed) {turns : List (Turn σ)} {last : Stage}
    (h : Path env timeout (ofKey c (.batch key)) turns last) {turn : Turn σ} (hturn : turn ∈ turns)
    {call : Call} (hcall : call ∈ turn.calls env timeout) {edit : Edit}
    (hedit : call.edit? = some edit) : edit.Concerns c key := by
  have hmem : edit ∈ (turn.calls env timeout).filterMap Call.edit? :=
    List.mem_filterMap.2 ⟨call, hcall, hedit⟩
  rw [Turn.filterMap_edit?_calls] at hmem
  exact concerns_of_mem_script hns keyed (h.mem_script hturn (Option.mem_toList.1 hmem))

/-- A manifest that a pass asks the API server to make a child from was one of its orders when it
began. -/
theorem Stage.Path.mem_orders_of_created {stage last : Stage} {turns : List (Turn σ)}
    (h : Path env timeout stage turns last) {turn : Turn σ} (hturn : turn ∈ turns) {manifest : Pod}
    {answer : Except Error Pod} (hcall : .created manifest answer ∈ turn.calls env timeout) :
    manifest ∈ stage.orders := by
  have hedit : Edit.create manifest ∈ turn.stage.edit?.toList := by
    rw [← Turn.filterMap_edit?_calls turn]
    exact List.mem_filterMap.2 ⟨_, hcall, rfl⟩
  have hscript := h.mem_script hturn (Option.mem_toList.1 hedit)
  rw [← Stage.filterMap_created?_script]
  exact List.mem_filterMap.2 ⟨_, hscript, rfl⟩

end Asked

/-! ## What stays as it was -/

variable {σ : Type} {env : Surroundings σ} {view : σ → Caches} {timeout : Duration}

namespace Caches

variable {start c c' : Caches} {key other : ObjectKey}

theorem SameBut.refl (c : Caches) (key : ObjectKey) : c.SameBut key c :=
  ⟨rfl, fun _ _ => rfl, .inl rfl, fun _ _ _ => Iff.rfl⟩

/-- A child that is made for a batch is one of its children. -/
theorem isChild_of_isMade {manifest child : Pod} {k : ObjectKey}
    (hns : manifest.metadata.ns = some key.ns) (hname : manifest.batchName = some key.name)
    (h : env.IsMade manifest (k, child)) : IsChild key k child := by
  have hkns : child.metadata.ns.getD "" = k.ns := (Metadata.of_key h.key).2
  rw [h.made.ns, hns] at hkns
  exact ⟨hkns.symm, (Pod.batchName_congr h.made.labels).trans hname⟩

/-- With one more child of the batch all else is as it was. -/
theorem SameBut.create (h : start.SameBut key c) {k : ObjectKey} {child : Pod}
    (hchild : IsChild key k child) (fresh : c.children.get? k = none) :
    start.SameBut key (c.withChild k child) := by
  refine ⟨h.templates, h.batches, h.batch, ?_⟩
  intro k' pod hnot
  rw [← h.children k' pod hnot]
  simp only [withChild, withChildren, Cache.get?, OrderedMap.get?_insert]
  split
  · rename_i hk
    subst hk
    have hnone : c.children.objects.get? k' = none := fresh
    rw [hnone]
    constructor
    · rintro ⟨⟩
      exact absurd hchild hnot
    · rintro ⟨⟩
  · exact Iff.rfl

/-- Without a child that the batch had at the start all else is as it was. -/
theorem SameBut.delete (h : start.SameBut key c) {k : ObjectKey} {child : Pod}
    (hchild : start.HasChild key k child) : start.SameBut key (c.withoutChild k) := by
  refine ⟨h.templates, h.batches, h.batch, ?_⟩
  intro k' pod hnot
  rw [← h.children k' pod hnot]
  simp only [withoutChild, withChildren, Cache.get?, OrderedMap.get?_erase]
  split
  · -- Something else under the key would have been there at the start already.
    rename_i hk
    subst hk
    constructor
    · rintro ⟨⟩
    · intro hget
      cases hchild.1.symm.trans ((h.children k' pod hnot).1 hget)
      exact absurd hchild.2 hnot
  · exact Iff.rfl

/-- With another status of the batch all else is as it was. -/
theorem SameBut.write (h : start.SameBut key c) {stored : JobBatch}
    (current : c.batches.get? key = some stored) (status : Option BatchStatus) (version : String) :
    start.SameBut key (c.withBatch key (stored.rewritten status version)) := by
  refine ⟨h.templates, ?_, ?_, h.children⟩
  · intro other hother
    simp only [withBatch, withBatches, Cache.get?, OrderedMap.get?_insert, if_neg hother]
    exact h.batches other hother
  · have hget : (c.withBatch key (stored.rewritten status version)).batches.get? key =
        some (stored.rewritten status version) := by
      simp [withBatch, withBatches, Cache.get?]
    rcases h.batch with hsame | ⟨first, status', version', hfirst, hrewritten⟩
    · exact .inr ⟨stored, status, version, hsame.symm.trans current, hget⟩
    · -- Of two statuses that are written the second one counts.
      cases hrewritten.symm.trans current
      exact .inr ⟨first, status, version, hfirst, hget⟩

/-- A change that concerns the batch of a key makes no other difference. -/
theorem SameBut.applies (h : start.SameBut key c) {edit : Edit}
    (hconcerns : edit.Concerns start key) (happlies : edit.Applies env c c') :
    start.SameBut key c' := by
  cases happlies with
  | create made fresh =>
    cases hconcerns with
    | create hns hname => exact h.create (isChild_of_isMade hns hname made) fresh
  | delete k =>
    cases hconcerns with
    | delete hchild => exact h.delete hchild
  | write version own current =>
    cases hconcerns with
    | write hcurrent status =>
      obtain rfl := Except.ok.inj (hcurrent.own.symm.trans own)
      exact h.write current _ version

/-- A pass over another batch begins as it would have begun before. -/
theorem SameBut.ofKey_eq (h : c.SameBut key c') (hother : other ≠ key) :
    Stage.ofKey c' (.batch other) = Stage.ofKey c (.batch other) := by
  have hchildren : c'.childrenOf other = c.childrenOf other := by
    apply childrenOf_congr
    intro k
    apply Option.ext
    intro pod
    simp only [childAt?, Option.filter_eq_some_iff, Bool.and_eq_true, decide_eq_true_eq,
      beq_iff_eq]
    -- A child of the other batch is not one of this batch.
    have hnot : k.ns = other.ns ∧ pod.batchName = some other.name → ¬IsChild key k pod := by
      rintro ⟨hns, hname⟩ ⟨hns', hname'⟩
      have hname'' : other.name = key.name := Option.some.inj (hname.symm.trans hname')
      have hns'' : other.ns = key.ns := hns.symm.trans hns'
      cases other
      cases key
      simp_all
    constructor
    · exact fun hpod => ⟨(h.children k pod (hnot hpod.2)).1 hpod.1, hpod.2⟩
    · exact fun hpod => ⟨(h.children k pod (hnot hpod.2)).2 hpod.1, hpod.2⟩
  simp only [Stage.ofKey, Decision.make, hchildren, h.templates, h.batches other hother]

end Caches

namespace Stage

variable {start : Caches} {key : ObjectKey}

/-- A pass over the batch of a key keeps to it: all that it has still to change concerns the batch,
and all else is as it was at the start. -/
structure KeepsTo (key : ObjectKey) (start : Caches) (stage : Stage) (c : Caches) : Prop where
  concerns : ∀ edit ∈ stage.script, edit.Concerns start key
  same : start.SameBut key c

theorem keepsTo_ofKey (hns : key.ns ≠ "") (keyed : start.Keyed) :
    (ofKey start (.batch key)).KeepsTo key start start :=
  ⟨fun _ hedit => concerns_of_mem_script hns keyed hedit, .refl start key⟩

variable {stage : Stage} {s s' : σ}

/-- A pass goes on to keep to its batch. -/
theorem KeepsTo.step (exact : env.Exact view) (timeout : Duration) (now : Instant)
    (h : stage.KeepsTo key start (view s)) :
    (stage.step env timeout now s).1.KeepsTo key start
      (view (stage.step env timeout now s).2) := by
  constructor
  · intro edit hedit
    exact h.concerns edit ((Turn.script_next_sublist ⟨now, stage, s⟩).subset hedit)
  · rcases step_script exact timeout now s stage with hview | ⟨edit, hscript, happlies⟩
    · rw [hview]
      exact h.same
    · refine h.same.applies (h.concerns edit ?_) happlies
      rw [hscript]
      exact List.mem_cons_self

/-- After every number of steps a pass has kept to its batch. -/
theorem KeepsTo.after (exact : env.Exact view) (timeout : Duration) (moments : List Instant)
    (h : stage.KeepsTo key start (view s)) :
    (after env timeout moments (stage, s)).1.KeepsTo key start
      (view (after env timeout moments (stage, s)).2) := by
  induction moments generalizing stage s with
  | nil => exact h
  | cons now moments ih => exact ih (h.step exact timeout now)

/-- A pass that has ended has kept to its batch. -/
theorem KeepsTo.of_ends (exact : env.Exact view) {result : Except Error Unit}
    (h : stage.KeepsTo key start (view s)) (hends : Ends env timeout stage s result s') :
    start.SameBut key (view s') := by
  have hlast := hends.invariant (I := fun stage s => stage.KeepsTo key start (view s)) ?_ h
  · exact hlast.same
  · exact fun now _ _ hstage => hstage.step exact timeout now

end Stage

end BatchOperator
