import BatchOperator.Proofs.Reconcile.Outlook
import BatchOperator.Proofs.Reconcile.Script

/-!
# When a child is created twice

A `Chronicle` is what is outside, the pass over a batch that is under way, and the beginnings and
turns of all passes so far. A pass goes on to its end, and the next one begins at any time after
that, whether the last one has failed or not. Between two turns anything may happen elsewhere, as
long as nobody deletes children or changes their marks.

A pass does not go on before it has seen in the cache the child that it has created, or has waited
for it as long as a child may take. So a second child of a template is only created by a pass that
began after a look that has given up the first one, and while the cache still did not show it
(`Chronicle.sparing_of_reachable`); a cache that is never later than that has at most one child
created for each template.

What carries the proof is where a child that was created can be (`Accounted`): it was given up, the
pass is waiting for it, or the cache shows it. A pass that begins while the cache shows it does not
start its template.
-/

set_option autoImplicit false

namespace BatchOperator

/-- What is written down about passes. -/
inductive Chronicle.Entry (σ : Type) where
  /-- A pass began, with what was outside at that time. -/
  | begun (s : σ)
  | made (turn : Turn σ)

/-- What is outside, the pass over a batch that is under way, and what was written down. -/
structure Chronicle (σ : Type) where
  outside : σ
  pass : Option Stage := none
  /-- The beginnings and turns of all passes, the last one first. -/
  past : List (Chronicle.Entry σ) := []

namespace Chronicle

/-- Whether an entry is a turn at which the child of a template is created. -/
def Entry.createsFor {σ : Type} (env : Surroundings σ) (template : String) : Entry σ → Bool
  | .begun _ => false
  | .made turn => turn.createsFor env template

variable {σ : Type} (env : Surroundings σ) (outlook : σ → Outlook) (timeout : Duration)
variable (key : ObjectKey) (uid : Option String)

/-- One step, for the batch of a key and with a UID. -/
inductive Step : Chronicle σ → Chronicle σ → Prop where
  | begins (s : σ) (past : List (Entry σ)) :
      Step ⟨s, none, past⟩ ⟨s, some (.ofKey (outlook s).shown (.batch key)), .begun s :: past⟩
  | advances (now : Instant) (s : σ) (stage : Stage) (past : List (Entry σ)) :
      Step ⟨s, some stage, past⟩ ⟨(stage.step env timeout now s).2,
        some (stage.step env timeout now s).1, .made ⟨now, stage, s⟩ :: past⟩
  | ends (s : σ) (result : Except Error Unit) (past : List (Entry σ)) :
      Step ⟨s, some (.finished result), past⟩ ⟨s, none, past⟩
  /-- Children come, and the cache comes to show more of them. -/
  | elsewhere {s s' : σ} (pass : Option Stage) (past : List (Entry σ))
      (sound : (outlook s').Sound key uid) (grows : (outlook s).Grows (outlook s')) :
      Step ⟨s, pass, past⟩ ⟨s', pass, past⟩

/-- What a run can come to. -/
inductive Reachable (start : σ) : Chronicle σ → Prop where
  | start : Reachable start ⟨start, none, []⟩
  | step {chronicle chronicle' : Chronicle σ} (h : Reachable start chronicle)
      (hstep : Step env outlook timeout key uid chronicle chronicle') : Reachable start chronicle'

/-- A child was given up at a turn among some entries. -/
def GivenUp (past : List (Entry σ)) (child : Pod) : Prop :=
  ∃ look, .made look ∈ past ∧ ∃ poll, look.GivesUp env timeout (Stage.childKey child) poll

/-- The pass that made the last turns began after a child was given up, and when it began the cache
did not show that child. -/
def Overlooked (past : List (Entry σ)) (child : Pod) : Prop :=
  ∃ (turns : List (Turn σ)) (s : σ) (before : List (Entry σ)),
    past = turns.map .made ++ .begun s :: before ∧ GivenUp env timeout before child ∧
      (outlook s).shown.children.get? (Stage.childKey child) = none

/-- Of two children that were created for one template the second is created by a pass that
overlooks the first. -/
def Spaced (past : List (Entry σ)) : Prop :=
  ∀ later second mid first earlier manifest child template,
    past = later ++ .made second :: (mid ++ .made first :: earlier) →
    first.created? env = some (manifest, child) → manifest.templateName = some template →
    second.createsFor env template = true → Overlooked env outlook timeout mid child

/-- Children are created sparingly: a second one for a template only by a pass that overlooks the
first, and when no pass overlooks a child, as when none is given up, no template has more than
one. -/
structure Sparing (past : List (Entry σ)) : Prop where
  spaced : Spaced env outlook timeout past
  once : (∀ before child, before <:+ past → ¬Overlooked env outlook timeout before child) →
    ∀ template, past.countP (Entry.createsFor env template) ≤ 1

/-- A pass that brings children of the batch, each for another template. -/
structure Ordered (stage : Stage) : Prop where
  marks : ∀ manifest ∈ stage.orders, manifest.IsFor key uid
  names : (stage.orders.map Pod.templateName).Nodup
  timed : stage.IsTimed timeout

/-- What has become of a child that was created, some entries later. -/
structure Accounted (chronicle : Chronicle σ) (later : List (Entry σ)) (manifest child : Pod) :
    Prop where
  marks : manifest.IsFor key uid
  ns : (Stage.childKey child).ns = key.ns
  stored : ∃ pod, (outlook chronicle.outside).stored.get? (Stage.childKey child) = some pod ∧
    manifest.SameMarks pod
  settled : GivenUp env timeout later child ∨
    (∃ stage, chronicle.pass = some stage ∧ stage.awaited? = some (Stage.childKey child)) ∨
    ((outlook chronicle.outside).shown.children.get? (Stage.childKey child)).isSome = true
  /-- The pass under way starts the template again only if it has overlooked the child. -/
  apart : ∀ stage, chronicle.pass = some stage →
    manifest.templateName ∈ stage.orders.map Pod.templateName →
    Overlooked env outlook timeout later child

/-- What holds at all times. -/
structure Sound (chronicle : Chronicle σ) : Prop where
  outside : (outlook chronicle.outside).Sound key uid
  pass : ∀ stage, chronicle.pass = some stage → Ordered timeout key uid stage
  accounted : ∀ later turn earlier manifest child,
    chronicle.past = later ++ .made turn :: earlier →
    turn.created? env = some (manifest, child) →
    Accounted env outlook timeout key uid chronicle later manifest child
  spaced : Spaced env outlook timeout chronicle.past

/-! ## Where a child that was created can be -/

section Pass

variable {env outlook timeout key uid} {o : Outlook} {stage : Stage}

/-- A pass begins with orders for the batch that it sees. -/
theorem ordered_ofKey (hns : key.ns ≠ "") (h : o.Sound key uid) :
    Ordered timeout key uid (.ofKey o.shown (.batch key)) := by
  refine ⟨?_, Stage.nodup_orders_ofKey h.templates key, Stage.isTimed_ofKey o.shown key⟩
  intro order horder
  exact Stage.isFor_of_mem_orders_ofKey hns h.batch horder

/-- A pass has no order for a template whose child the cache shows. -/
theorem templateName_notMem_ofKey {manifest pod : Pod} {k : ObjectKey} (h : o.Sound key uid)
    (hfor : manifest.IsFor key uid) (hns : k.ns = key.ns)
    (hstored : o.stored.get? k = some pod) (hmarks : manifest.SameMarks pod)
    (hshown : (o.shown.children.get? k).isSome = true) :
    manifest.templateName ∉ (Stage.ofKey o.shown (.batch key)).orders.map Pod.templateName := by
  intro hmem
  obtain ⟨order, horder, hname⟩ := List.mem_map.1 hmem
  obtain ⟨batch, selector, hbatch, horders⟩ := Stage.of_mem_orders_ofKey horder
  rw [horders] at horder
  obtain ⟨template, htemplate, rfl⟩ := List.mem_map.1 horder
  -- The child that is shown has the marks of the manifest, so it speaks for the template.
  obtain ⟨shown, hget⟩ := Option.isSome_iff_exists.1 hshown
  obtain ⟨stored, hstored', hsame⟩ := h.children k shown hget
  cases hstored.symm.trans hstored'
  have hall := hmarks.trans hsame
  have hchild : shown ∈ o.shown.childrenOf key := by
    refine Caches.mem_childrenOf.2 ⟨k, hget, hns, ?_⟩
    rw [Pod.batchName_congr hall.labels, hfor.batchName]
  have hspeaks : shown.speaksFor batch template.name = true := by
    refine Pod.speaksFor_iff.2 ⟨?_, ?_⟩
    · rw [Pod.isOwnedBy_congr batch hall.owners]
      exact hfor.owned batch (h.batch batch hbatch).2
    · rw [Pod.templateName_congr hall.labels, ← hname, JobBatch.templateName_childManifest]
  have hsilent := Plan.speaksFor_of_mem_undispatched
    ((Plan.starts_sublist _ _ _).subset htemplate) shown hchild
  cases hspeaks.symm.trans hsilent

/-- A turn leaves a pass in order. -/
theorem Ordered.next (h : Ordered timeout key uid stage) (now : Instant) (s : σ) :
    Ordered timeout key uid (stage.step env timeout now s).1 := by
  have hsub : (stage.step env timeout now s).1.orders.Sublist stage.orders :=
    Turn.orders_next_sublist env timeout ⟨now, stage, s⟩
  exact ⟨fun manifest hmem => h.marks manifest (hsub.subset hmem),
    h.names.sublist (hsub.map Pod.templateName),
    Turn.isTimed_next env timeout ⟨now, stage, s⟩ h.timed⟩

end Pass

section Steps

variable {env outlook timeout key uid} {s s' : σ} {past later : List (Entry σ)}
variable {manifest child : Pod} {stage : Stage} {pass : Option Stage}

/-- What was given up among some entries was given up among more. -/
theorem GivenUp.mono {more : List (Entry σ)} (h : GivenUp env timeout later child)
    (hsub : later ⊆ more) : GivenUp env timeout more child := by
  obtain ⟨look, hlook, hgives⟩ := h
  exact ⟨look, hsub hlook, hgives⟩

theorem GivenUp.cons (h : GivenUp env timeout later child) (entry : Entry σ) :
    GivenUp env timeout (entry :: later) child :=
  h.mono (List.subset_cons_self entry later)

/-- A pass that has overlooked a child goes on. -/
theorem Overlooked.made (h : Overlooked env outlook timeout later child) (turn : Turn σ) :
    Overlooked env outlook timeout (.made turn :: later) child := by
  obtain ⟨turns, s, before, rfl, hgiven, hunseen⟩ := h
  exact ⟨turn :: turns, s, before, rfl, hgiven, hunseen⟩

/-- It has overlooked the child whatever was before. -/
theorem Overlooked.append (h : Overlooked env outlook timeout later child)
    (earlier : List (Entry σ)) : Overlooked env outlook timeout (later ++ earlier) child := by
  obtain ⟨turns, s, before, rfl, hgiven, hunseen⟩ := h
  exact ⟨turns, s, before ++ earlier, by rw [List.append_assoc, List.cons_append],
    hgiven.mono (List.subset_append_left before earlier), hunseen⟩

/-- A new pass leaves the template of a child alone unless it overlooks the child. -/
theorem Accounted.begins (sound : (outlook s).Sound key uid)
    (h : Accounted env outlook timeout key uid ⟨s, none, past⟩ later manifest child) :
    Accounted env outlook timeout key uid
      ⟨s, some (.ofKey (outlook s).shown (.batch key)), .begun s :: past⟩ (.begun s :: later)
      manifest child := by
  obtain ⟨pod, hstored, hsame⟩ := h.stored
  cases hget : (outlook s).shown.children.get? (Stage.childKey child) with
  | some shown =>
    -- The new pass sees the child, so it does not start its template.
    have hshown := Option.isSome_of_eq_some hget
    refine ⟨h.marks, h.ns, h.stored, .inr (.inr hshown), ?_⟩
    rintro stage hstage hmem
    cases hstage
    exact absurd hmem (templateName_notMem_ofKey sound h.marks h.ns hstored hsame hshown)
  | none =>
    rcases h.settled with hgiven | ⟨stage, hstage, -⟩ | hshown
    · exact ⟨h.marks, h.ns, h.stored, .inl (hgiven.cons _),
        fun _ _ _ => ⟨[], s, later, rfl, hgiven, hget⟩⟩
    · -- No pass was under way that could have waited for it.
      cases hstage
    · cases (Option.isSome_iff_ne_none.1 hshown) hget

/-- A pass that has finished waits for nothing. -/
theorem Accounted.ends {result : Except Error Unit}
    (h : Accounted env outlook timeout key uid ⟨s, some (.finished result), past⟩ later manifest
      child) :
    Accounted env outlook timeout key uid ⟨s, none, past⟩ later manifest child := by
  refine ⟨h.marks, h.ns, h.stored, ?_, fun _ hstage => by cases hstage⟩
  rcases h.settled with hgiven | ⟨stage, hstage, hawaited⟩ | hshown
  · exact .inl hgiven
  · cases hstage
    cases hawaited
  · exact .inr (.inr hshown)

/-- What happens elsewhere makes no child disappear. -/
theorem Accounted.elsewhere (grows : (outlook s).Grows (outlook s'))
    (h : Accounted env outlook timeout key uid ⟨s, pass, past⟩ later manifest child) :
    Accounted env outlook timeout key uid ⟨s', pass, past⟩ later manifest child := by
  obtain ⟨pod, hstored, hsame⟩ := h.stored
  obtain ⟨pod', hstored', hsame'⟩ := grows.stored _ pod hstored
  refine ⟨h.marks, h.ns, ⟨pod', hstored', hsame.trans hsame'⟩, ?_, h.apart⟩
  rcases h.settled with hgiven | hawaited | hshown
  · exact .inl hgiven
  · exact .inr (.inl hawaited)
  · exact .inr (.inr (grows.shown _ hshown))

/-- At a turn a child that the pass waits for goes on being waited for, is seen, or is given up. -/
theorem Accounted.advances (lags : env.Lags outlook key uid)
    (ordered : Ordered timeout key uid stage) (now : Instant)
    (h : Accounted env outlook timeout key uid ⟨s, some stage, past⟩ later manifest child) :
    Accounted env outlook timeout key uid ⟨(stage.step env timeout now s).2,
      some (stage.step env timeout now s).1, .made ⟨now, stage, s⟩ :: past⟩
      (.made ⟨now, stage, s⟩ :: later) manifest child := by
  have grows : (outlook s).Grows (outlook (stage.step env timeout now s).2) :=
    Stage.step_keeps (lags.grows (outlook s)) timeout now (.refl _) stage
  have hsub : (stage.step env timeout now s).1.orders.Sublist stage.orders :=
    Turn.orders_next_sublist env timeout ⟨now, stage, s⟩
  obtain ⟨pod, hstored, hsame⟩ := h.stored
  obtain ⟨pod', hstored', hsame'⟩ := grows.stored _ pod hstored
  refine ⟨h.marks, h.ns, ⟨pod', hstored', hsame.trans hsame'⟩, ?_, ?_⟩
  · rcases h.settled with hgiven | ⟨stage', hstage, hawaited⟩ | hshown
    · exact .inl (hgiven.cons _)
    · -- Where the pass stops waiting, the child was seen or given up at this very turn.
      cases hstage
      rcases Turn.awaited?_next env timeout ⟨now, stage, s⟩ ordered.timed hawaited with
        hawaits | hsees | hgives
      · exact .inr (.inl ⟨_, rfl, hawaits⟩)
      · rw [lags.sees] at hsees
        exact .inr (.inr (grows.shown _ hsees))
      · exact .inl ⟨_, List.mem_cons_self, hgives⟩
    · exact .inr (.inr (grows.shown _ hshown))
  · -- The orders that are left are orders that there were.
    intro stage' hstage hmem
    cases hstage
    have hbefore := (hsub.map Pod.templateName).subset hmem
    exact (h.apart stage rfl hbefore).made _

/-- A child that is created is waited for, and its template is not started again by this pass. -/
theorem accounted_of_created? (lags : env.Lags outlook key uid)
    (ordered : Ordered timeout key uid stage) (now : Instant)
    (h : Turn.created? env ⟨now, stage, s⟩ = some (manifest, child)) :
    Accounted env outlook timeout key uid ⟨(stage.step env timeout now s).2,
      some (stage.step env timeout now s).1, .made ⟨now, stage, s⟩ :: past⟩ [] manifest child := by
  obtain ⟨hbrought, s', hcall, hnext⟩ := Turn.of_created? env timeout ⟨now, stage, s⟩ h
  obtain ⟨horders, hawaited⟩ := Turn.of_brought? env timeout ⟨now, stage, s⟩ hbrought
  change stage.orders = _ at horders
  have hmarks := ordered.marks manifest (horders ▸ List.mem_cons_self)
  obtain ⟨hns, pod, hstored, hsame⟩ := lags.created hcall
  have hgrows : (outlook s').Grows (outlook (env.count .childCreated s')) :=
    (lags.grows (outlook s')).count .childCreated (.refl _)
  obtain ⟨pod', hstored', hsame'⟩ := hgrows.stored _ pod hstored
  refine ⟨hmarks, ?_, ⟨pod', ?_, hsame.trans hsame'⟩, .inr (.inl ⟨_, rfl, hawaited⟩), ?_⟩
  · show child.metadata.nsOrDefault = key.ns
    rw [Metadata.nsOrDefault, hns, hmarks.ns]
    rfl
  · rw [hnext]
    exact hstored'
  · intro stage' hstage hmem
    cases hstage
    -- The orders of a pass are for different templates.
    have hnames := ordered.names
    rw [horders, List.map_cons] at hnames
    exact absurd hmem (List.nodup_cons.1 hnames).1

end Steps

/-! ## Runs -/

section Run

variable {env outlook timeout key uid} {chronicle chronicle' : Chronicle σ} {start : σ}

/-- One step keeps what holds at all times. -/
theorem Sound.step (lags : env.Lags outlook key uid) (hns : key.ns ≠ "")
    (h : Sound env outlook timeout key uid chronicle)
    (hstep : Step env outlook timeout key uid chronicle chronicle') :
    Sound env outlook timeout key uid chronicle' := by
  cases hstep with
  | begins s past =>
    -- A beginning is no turn, so both turns were made before.
    refine ⟨h.outside, ?_, ?_, ?_⟩
    · intro stage hstage
      cases hstage
      exact ordered_ofKey hns h.outside
    · intro later turn earlier manifest child hpast hcreated
      cases later with
      | nil => cases (List.cons.inj hpast).1
      | cons head later =>
        obtain ⟨rfl, hrest⟩ := List.cons.inj hpast
        exact (h.accounted later turn earlier manifest child hrest hcreated).begins h.outside
    · intro later second mid first earlier manifest child template hpast
      cases later with
      | nil => cases (List.cons.inj hpast).1
      | cons head later =>
        exact h.spaced later second mid first earlier manifest child template
          (List.cons.inj hpast).2
  | advances now s stage past =>
    have ordered := h.pass stage rfl
    refine ⟨Stage.step_keeps lags.sound timeout now h.outside stage, ?_, ?_, ?_⟩
    · intro stage' hstage
      cases hstage
      exact ordered.next now s
    · -- A child was created at this turn or at an earlier one.
      intro later turn earlier manifest child hpast hcreated
      cases later with
      | nil =>
        obtain ⟨hturn, rfl⟩ := List.cons.inj hpast
        cases hturn
        exact accounted_of_created? lags ordered now hcreated
      | cons head later =>
        obtain ⟨rfl, hrest⟩ := List.cons.inj hpast
        exact (h.accounted later turn earlier manifest child hrest hcreated).advances lags ordered
          now
    · intro later second mid first earlier manifest child template hpast hfirst hname hsecond
      cases later with
      | nil =>
        -- The pass has had an order for the template, so it has overlooked the first child.
        obtain ⟨hturn, hrest⟩ := List.cons.inj hpast
        cases hturn
        obtain ⟨manifest', child', hcreated, hname'⟩ := (Turn.createsFor_iff env _).1 hsecond
        have hbrought := (Turn.of_created? env timeout _ hcreated).1
        obtain ⟨horders, -⟩ := Turn.of_brought? env timeout _ hbrought
        change stage.orders = _ at horders
        refine (h.accounted mid first earlier manifest child hrest hfirst).apart stage rfl ?_
        rw [horders, List.map_cons, hname, hname']
        exact List.mem_cons_self
      | cons head later =>
        obtain ⟨rfl, hrest⟩ := List.cons.inj hpast
        exact h.spaced later second mid first earlier manifest child template hrest hfirst hname
          hsecond
  | ends s result past =>
    refine ⟨h.outside, fun _ hstage => (by cases hstage), ?_, h.spaced⟩
    intro later turn earlier manifest child hpast hcreated
    exact (h.accounted later turn earlier manifest child hpast hcreated).ends
  | elsewhere pass past sound grows =>
    refine ⟨sound, h.pass, ?_, h.spaced⟩
    intro later turn earlier manifest child hpast hcreated
    exact (h.accounted later turn earlier manifest child hpast hcreated).elsewhere grows

theorem sound_of_reachable (lags : env.Lags outlook key uid) (hns : key.ns ≠ "")
    (sound : (outlook start).Sound key uid)
    (h : Reachable env outlook timeout key uid start chronicle) :
    Sound env outlook timeout key uid chronicle := by
  induction h with
  | start =>
    -- Nothing has been written down yet.
    refine ⟨sound, fun _ hstage => (by cases hstage), ?_, ?_⟩
    · intro later turn earlier manifest child hpast
      simp at hpast
    · intro later second mid first earlier manifest child template hpast
      simp at hpast
  | step h hstep ih => exact ih.step lags hns hstep

/-- A child is created at a turn. -/
theorem Entry.exists_of_createsFor {template : String} {entry : Entry σ}
    (h : entry.createsFor env template = true) : ∃ turn, entry = .made turn := by
  cases entry with
  | begun s => cases h
  | made turn => exact ⟨turn, rfl⟩

/-- Where no two elements of a kind follow one another there is at most one. -/
theorem countP_le_one {α : Type} {P : α → Bool} {l : List α}
    (h : ∀ later second mid first earlier, l = later ++ second :: (mid ++ first :: earlier) →
      P second = true → P first = false) : l.countP P ≤ 1 := by
  induction l with
  | nil => exact Nat.zero_le 1
  | cons a l ih =>
    cases ha : P a with
    | false =>
      rw [List.countP_cons_of_neg (by simp [ha])]
      exact ih fun later second mid first earlier hl =>
        h (a :: later) second mid first earlier (congrArg (List.cons a) hl)
    | true =>
      -- None of the kind follows the first one.
      have hnone : l.countP P = 0 := by
        rw [List.countP_eq_zero]
        intro b hb
        obtain ⟨mid, earlier, hl⟩ := List.append_of_mem hb
        simp [h [] a mid b earlier (congrArg (List.cons a) hl) ha]
      have hone : (a :: l).countP P = 1 := by rw [List.countP_cons_of_pos ha, hnone]
      exact Nat.le_of_eq hone

/-- In every run in which nobody deletes children, a second child of a template is only created by a
pass that began after the first one was given up, and without seeing it, however late the cache
is. -/
theorem sparing_of_reachable (lags : env.Lags outlook key uid) (hns : key.ns ≠ "")
    (sound : (outlook start).Sound key uid)
    (h : Reachable env outlook timeout key uid start chronicle) :
    Sparing env outlook timeout chronicle.past := by
  have hspaced := (sound_of_reachable lags hns sound h).spaced
  refine ⟨hspaced, ?_⟩
  intro hnever template
  -- Of two creations for a template the later one would be by a pass that overlooks a child.
  refine countP_le_one ?_
  intro later second mid first earlier hpast hsecond
  refine Bool.eq_false_iff.2 fun hfirst => ?_
  obtain ⟨turn, rfl⟩ := Entry.exists_of_createsFor hsecond
  obtain ⟨turn', rfl⟩ := Entry.exists_of_createsFor hfirst
  obtain ⟨manifest, child, hcreated, hname⟩ := (Turn.createsFor_iff env turn').1 hfirst
  have hover :=
    hspaced later turn mid turn' earlier manifest child template hpast hcreated hname hsecond
  refine hnever _ child ?_ (hover.append (.made turn' :: earlier))
  rw [hpast]
  exact (List.suffix_cons _ _).trans (List.suffix_append _ _)

end Run

/-! ## A cache that is too late -/

section LateRun

/-- What can be done next in a run with a late store. -/
inductive Move where
  | begin
  | advance (now : Instant)
  | conclude
  /-- Everything that is stored is shown. -/
  | show

/-- The chronicle after a move; a move that cannot be made changes nothing. -/
def make (timeout : Duration) (key : ObjectKey) (chronicle : Chronicle Outlook) :
    Move → Chronicle Outlook
  | .begin =>
    match chronicle.pass with
    | none =>
      ⟨chronicle.outside, some (.ofKey chronicle.outside.shown (.batch key)),
        .begun chronicle.outside :: chronicle.past⟩
    | some _ => chronicle
  | .advance now =>
    match chronicle.pass with
    | none => chronicle
    | some stage =>
      let next := stage.step lateStore timeout now chronicle.outside
      ⟨next.2, some next.1, .made ⟨now, stage, chronicle.outside⟩ :: chronicle.past⟩
  | .conclude =>
    match chronicle.pass with
    | some (.finished _) => { chronicle with pass := none }
    | _ => chronicle
  | .show => { chronicle with outside := chronicle.outside.caughtUp }

/-- Moves are steps of a run. -/
theorem reachable_make {timeout : Duration} {key : ObjectKey} {uid : Option String}
    {start : Outlook} (hns : key.ns ≠ "") (sound : start.Sound key uid) (moves : List Move) :
    Reachable lateStore (fun o => o) timeout key uid start
      (moves.foldl (make timeout key) ⟨start, none, []⟩) := by
  have hmoves : ∀ chronicle : Chronicle Outlook,
      Reachable lateStore (fun o => o) timeout key uid start chronicle →
      Reachable lateStore (fun o => o) timeout key uid start
        (moves.foldl (make timeout key) chronicle) := by
    induction moves with
    | nil => exact fun _ h => h
    | cons move moves ih =>
      rintro ⟨s, pass, past⟩ h
      refine ih _ ?_
      cases move with
      | begin =>
        cases pass with
        | none => exact h.step (.begins s past)
        | some stage => exact h
      | advance now =>
        cases pass with
        | none => exact h
        | some stage => exact h.step (.advances now s stage past)
      | conclude =>
        cases pass with
        | none => exact h
        | some stage =>
          cases stage with
          | finished result => exact h.step (.ends s result past)
          | purging | pruning | starting | announcing | complaining | adopting | confirming
          | closing | reporting => exact h
      | «show» =>
        have hnow := (sound_of_reachable (lags_lateStore key uid) hns sound h).outside
        exact h.step (.elsewhere pass past hnow.caughtUp.1 hnow.caughtUp.2)
  exact hmoves _ .start

/-- A small batch before its first pass. -/
def smallOutlook : Outlook := { shown := smallCaches }

theorem sound_smallOutlook : smallOutlook.Sound ⟨"n", "b"⟩ (some "u") := by
  refine ⟨?_, ?_, Cache.keyed_singleton (rfl) true⟩
  · intro k shown hshown
    cases hshown
  · intro batch hbatch
    have hsmall : smallOutlook.shown.batches.get? ⟨"n", "b"⟩ = some smallBatch := rfl
    cases hsmall.symm.trans hbatch
    exact ⟨rfl, rfl⟩

/-- A pass creates a child and waits ten seconds for it. The next pass creates one more, and only
then both of them are shown. -/
def lateMoves : List Move :=
  [.begin, .advance 0, .advance 0, .advance 0, .advance 10000000000, .conclude,
    .begin, .advance 10000000000, .show, .advance 10000000000, .advance 10000000000, .conclude]

/-- The chronicle after these moves. -/
def lateRun : Chronicle Outlook :=
  lateMoves.foldl (make (.ofSeconds 10) ⟨"n", "b"⟩) ⟨smallOutlook, none, []⟩

/-- The second child is created by a pass that begins after the first one was given up. -/
theorem sparing_of_lateRun : Sparing lateStore (fun o => o) (.ofSeconds 10) lateRun.past :=
  sparing_of_reachable (lags_lateStore ⟨"n", "b"⟩ (some "u")) (by decide) sound_smallOutlook
    (reachable_make (by decide) sound_smallOutlook lateMoves)

/-- A child that is shown later than a pass waits for it is created twice. -/
theorem created_twice_in_lateRun :
    Reachable lateStore (fun o => o) (.ofSeconds 10) ⟨"n", "b"⟩ (some "u") smallOutlook lateRun ∧
      lateRun.past.countP (Entry.createsFor lateStore "t") = 2 ∧
      lateRun.outside.stored.size = 2 ∧
      lateRun.outside.shown.children.objects = lateRun.outside.stored := by
  refine ⟨reachable_make (by decide) sound_smallOutlook lateMoves, ?_, ?_, ?_⟩
  · decide +kernel
  · decide +kernel
  · decide +kernel

end LateRun

end Chronicle

end BatchOperator
