import BatchOperator.Proofs.Reconcile.Budget
import BatchOperator.Proofs.Reconcile.Unhindered

/-!
# The failure threshold

While the passes of a batch, one after the other, start children, and while children go through
their phases at any time in between, the children that have failed are never more than the failures
that the batch tolerates and its slots together; and once a pass sees more than are tolerated,
neither it nor a later one creates a child (`Scene.failedOf_le_of_reachable`).

A pass looks at the failures once, when it begins. What carries the proof is that the children that
have failed, those that may still fail and those that the pass may still create are together within
the bound (`Scene.Bounded`): a pass that begins below the threshold has as much before it as there
are slots, and every step keeps the sum or makes it smaller.
-/

set_option autoImplicit false

namespace BatchOperator

/-- A child has gone on: it keeps its marks, and if it had ended it has stayed as it ended. -/
structure Pod.Ages (child child' : Pod) : Prop where
  labels : child'.metadata.labels = child.metadata.labels
  owners : child'.metadata.ownerReferences = child.metadata.ownerReferences
  ended : child.phase.isTerminal = true → child'.phase = child.phase

theorem Pod.Ages.goesOn {child child' : Pod} (h : child.Ages child') : child.GoesOn child' := by
  refine ⟨h.labels, h.owners, ?_⟩
  intro hended
  rw [h.ended hended]
  exact hended

/-- Children that have failed and children that have not ended are those that have not
succeeded. -/
theorem Pod.countFailed_add_countUnfinished (children : List Pod) :
    countFailed children + countUnfinished children =
      children.countP fun child => child.phase != .succeeded := by
  induction children with
  | nil => rfl
  | cons child rest ih =>
    simp only [countFailed, countUnfinished, List.countP_cons] at ih ⊢
    rw [← ih]
    cases child.phase <;> simp [Phase.isFailure, Phase.isTerminal] <;> omega

namespace JobBatch

/-- The templates that a batch selects. A selector without a meaning selects none. -/
def selected (batch : JobBatch) (ns : String) (templates : Cache JobTemplate) :
    List JobTemplate :=
  match Selector.read batch.spec.selector with
  | .ok selector => templates.list ns selector
  | .error _ => []

/-- A batch is still the same: it has its specification, its UID and its key. -/
structure StillIs (batch other : JobBatch) (key : ObjectKey) : Prop where
  spec : other.spec = batch.spec
  uid : other.metadata.uid = batch.metadata.uid
  own : Resource.key other = .ok key

end JobBatch

namespace Caches

variable {c c' : Caches} {key : ObjectKey} {batch : JobBatch}

/-- The children of a batch go through their phases. None comes and none goes, and the batch and the
templates are left alone. What becomes of other batches and of other pods does not matter. -/
structure Ages (key : ObjectKey) (c c' : Caches) : Prop where
  batch : c'.batches.get? key = c.batches.get? key
  templates : c'.templates = c.templates
  onwards : ∀ k child, c.HasChild key k child → ∃ child', c'.HasChild key k child' ∧
    child.Ages child'
  backwards : ∀ k child', c'.HasChild key k child' → ∃ child, c.HasChild key k child ∧
    child.Ages child'

/-- When a single child goes on, the children go through their phases. -/
theorem ages_withChild {k : ObjectKey} {child child' : Pod} (hchild : c.HasChild key k child)
    (hages : child.Ages child') : c.Ages key (c.withChild k child') := by
  have hthere : (c.withChild k child').HasChild key k child' := by
    refine ⟨?_, hchild.2.1, (Pod.batchName_congr hages.labels).trans hchild.2.2⟩
    simp [withChild, withChildren, Cache.get?]
  have hother : ∀ other p, other ≠ k →
      ((c.withChild k child').HasChild key other p ↔ c.HasChild key other p) := by
    intro other p hne
    simp only [HasChild, withChild, withChildren, Cache.get?, OrderedMap.get?_insert, if_neg hne]
  refine ⟨rfl, rfl, ?_, ?_⟩
  · intro other p hp
    by_cases hk : other = k
    · subst hk
      cases hchild.1.symm.trans hp.1
      exact ⟨child', hthere, hages⟩
    · exact ⟨p, (hother other p hk).2 hp, rfl, rfl, fun _ => rfl⟩
  · intro other p' hp'
    by_cases hk : other = k
    · subst hk
      cases hthere.1.symm.trans hp'.1
      exact ⟨child, hchild, hages⟩
    · exact ⟨p', (hother other p' hk).1 hp', rfl, rfl, fun _ => rfl⟩

/-- How many children of a batch have failed. -/
def failedOf (c : Caches) (batch : ObjectKey) : Nat := Pod.countFailed (c.childrenOf batch)

/-- How many children of a batch have not succeeded. -/
def unsuccessfulOf (c : Caches) (batch : ObjectKey) : Nat :=
  (c.childrenOf batch).countP fun child => child.phase != .succeeded

theorem failedOf_add_unfinishedOf (c : Caches) (batch : ObjectKey) :
    c.failedOf batch + c.unfinishedOf batch = c.unsuccessfulOf batch :=
  Pod.countFailed_add_countUnfinished _

/-- Children of a kind do not become more when no child comes to be of that kind. -/
theorem Ages.countP_le (h : c.Ages key c') {P : Pod → Bool}
    (hP : ∀ child child', child.Ages child' → P child' = true → P child = true) :
    (c'.childrenOf key).countP P ≤ (c.childrenOf key).countP P := by
  rw [countP_childrenOf, countP_childrenOf]
  apply OrderedMap.countWhere_le
  intro k hk
  obtain ⟨child', hchild', hchild'P⟩ := mem_keysWhere_isChildWhere.1 hk
  obtain ⟨child, hchild, hages⟩ := h.backwards k child' hchild'
  exact mem_keysWhere_isChildWhere.2 ⟨child, hchild, hP child child' hages hchild'P⟩

/-- No failure is undone. -/
theorem Ages.failedOf_le (h : c.Ages key c') : c.failedOf key ≤ c'.failedOf key := by
  simp only [failedOf, Pod.countFailed]
  rw [countP_childrenOf, countP_childrenOf]
  apply OrderedMap.countWhere_le
  intro k hk
  obtain ⟨child, hchild, hfailed⟩ := mem_keysWhere_isChildWhere.1 hk
  obtain ⟨child', hchild', hages⟩ := h.onwards k child hchild
  refine mem_keysWhere_isChildWhere.2 ⟨child', hchild', ?_⟩
  rw [hages.ended (Phase.isTerminal_of_isFailure hfailed)]
  exact hfailed

/-- No child that has ended runs again. -/
theorem Ages.unfinishedOf_le (h : c.Ages key c') : c'.unfinishedOf key ≤ c.unfinishedOf key := by
  refine h.countP_le ?_
  intro child child' hages hruns
  cases hended : child.phase.isTerminal with
  | false => rfl
  | true =>
    rw [hages.ended hended, hended] at hruns
    cases hruns

/-- No success is undone. -/
theorem Ages.unsuccessfulOf_le (h : c.Ages key c') :
    c'.unsuccessfulOf key ≤ c.unsuccessfulOf key := by
  refine h.countP_le ?_
  intro child child' hages hopen
  cases hphase : child.phase with
  | succeeded =>
    rw [hages.ended (by rw [hphase]; rfl), hphase] at hopen
    cases hopen
  | pending | running | failed | unknown => rfl

/-- The batch of a key is still the same. -/
def Holds (c : Caches) (key : ObjectKey) (batch : JobBatch) : Prop :=
  ∃ current, c.batches.get? key = some current ∧ batch.StillIs current key

/-- Writing a status leaves every batch the same. -/
theorem Holds.withBatch (h : c.Holds key batch) {k : ObjectKey} {stored : JobBatch}
    (hstored : c.batches.get? k = some stored) (status : Option BatchStatus) (version : String) :
    (c.withBatch k (stored.rewritten status version)).Holds key batch := by
  obtain ⟨current, hcurrent, hsame⟩ := h
  by_cases hk : key = k
  · subst hk
    cases hcurrent.symm.trans hstored
    refine ⟨stored.rewritten status version, ?_, hsame.spec, hsame.uid, hsame.own⟩
    simp [Caches.withBatch, withBatches, Cache.get?]
  · refine ⟨current, ?_, hsame⟩
    simp only [Caches.withBatch, withBatches, Cache.get?, OrderedMap.get?_insert, if_neg hk]
    exact hcurrent

/-- A child under its own key is there as the cache would have taken it in. -/
theorem exists_apply_withChild {k : ObjectKey} {child : Pod} (hk : Resource.key child = .ok k) :
    ∃ change children, c.children.apply child = .ok (change, children) ∧
      c.withChild k child = c.withChildren children := by
  rw [Cache.apply, hk]
  exact ⟨_, _, rfl, rfl⟩

/-- A child that was made is one more that has not ended, and one more that has not succeeded. -/
theorem counts_withChild {template : JobTemplate} {child : Pod}
    (hmade : MadeFor batch key template child)
    (hfresh : c.children.get? (Stage.childKey child) = none) :
    (c.withChild (Stage.childKey child) child).unfinishedOf key = c.unfinishedOf key + 1 ∧
      (c.withChild (Stage.childKey child) child).unsuccessfulOf key =
        c.unsuccessfulOf key + 1 := by
  obtain ⟨change, children, happly, hview⟩ := exists_apply_withChild (c := c) hmade.own
  have hphase : (child.phase != .succeeded) = true := by
    have hunfinished := hmade.unfinished
    cases hphase : child.phase <;> simp_all [Phase.isTerminal]
  rw [hview]
  constructor
  · rw [unfinishedOf, Pod.countUnfinished, countP_withChildren hmade happly hfresh,
      hmade.unfinished]
    rfl
  · rw [unsuccessfulOf, countP_withChildren hmade happly hfresh, hphase]
    rfl

/-- Whose the children are depends on the UID of the batch only. -/
theorem Tended.of_uid_eq {templates : List JobTemplate} {other : JobBatch}
    (h : c.Tended key batch templates) (huid : other.metadata.uid = batch.metadata.uid) :
    c.Tended key other templates := by
  refine ⟨?_, h.selected, h.distinct⟩
  intro k child hchild
  rw [Pod.isOwnedBy_of_uid_eq huid]
  exact h.owned k child hchild

end Caches

/-! ## What a pass has before it -/

namespace Stage

/-- A pass that removes nothing, and whose orders are for different templates that have no child. -/
structure Waits (key : ObjectKey) (batch : JobBatch) (templates : List JobTemplate) (c : Caches)
    (stage : Stage) : Prop where
  removals : stage.removals = []
  marks : ∀ order ∈ stage.orders, order.IsFor key batch.metadata.uid
  waiting : ∀ order ∈ stage.orders, ∃ template ∈ templates,
    order.templateName = some template.name ∧
      ∀ k child, c.HasChild key k child → child.templateName ≠ some template.name
  names : (stage.orders.map Pod.templateName).Nodup

variable {c c' : Caches} {key : ObjectKey} {batch : JobBatch} {templates : List JobTemplate}
variable {stage stage' : Stage}

/-- With fewer orders, and the same children. -/
theorem Waits.next (h : stage.Waits key batch templates c) (hremovals : stage'.removals = [])
    (hsub : stage'.orders.Sublist stage.orders)
    (hback : ∀ k child', c'.HasChild key k child' →
      ∃ child, c.HasChild key k child ∧ child'.templateName = child.templateName) :
    stage'.Waits key batch templates c' := by
  refine ⟨hremovals, ?_, ?_, h.names.sublist (hsub.map Pod.templateName)⟩
  · intro order horder
    exact h.marks order (hsub.subset horder)
  · intro order horder
    obtain ⟨template, htemplate, hname, hnone⟩ := h.waiting order (hsub.subset horder)
    refine ⟨template, htemplate, hname, ?_⟩
    intro k child' hchild'
    obtain ⟨child, hchild, hsame⟩ := hback k child' hchild'
    rw [hsame]
    exact hnone k child hchild

/-- When a child was made for the first order, the others still wait. -/
theorem Waits.create (h : stage.Waits key batch templates c) (hremovals : stage'.removals = [])
    {order : Pod} (horders : stage.orders = order :: stage'.orders) {template : JobTemplate}
    {child : Pod} (hname : order.templateName = some template.name)
    (hmade : Caches.MadeFor batch key template child)
    (hfresh : c.children.get? (childKey child) = none) :
    stage'.Waits key batch templates (c.withChild (childKey child) child) := by
  obtain ⟨change, children, happly, hview⟩ := Caches.exists_apply_withChild (c := c) hmade.own
  have hnames := h.names
  rw [horders, List.map_cons, List.nodup_cons] at hnames
  refine ⟨hremovals, ?_, ?_, hnames.2⟩
  · intro other hother
    exact h.marks other (horders ▸ List.mem_cons_of_mem _ hother)
  · intro other hother
    obtain ⟨waiting, hwaiting, hothername, hfree⟩ :=
      h.waiting other (horders ▸ List.mem_cons_of_mem _ hother)
    refine ⟨waiting, hwaiting, hothername, ?_⟩
    rw [hview]
    refine Caches.waiting_create hmade happly hfresh ?_ hfree
    -- The orders that are left are for other templates than this one.
    intro hsame
    exact hnames.1 (List.mem_map.2 ⟨other, hother, by rw [hothername, hname, hsame]⟩)

theorem waits_of_orders_eq_nil (hremovals : stage.removals = []) (horders : stage.orders = []) :
    stage.Waits key batch templates c := by
  refine ⟨hremovals, ?_, ?_, ?_⟩ <;> simp [horders]

/-- What a pass over a tended batch begins with: no orders at all, or not too many for the free
slots, and these only as long as no more have failed than are tolerated. -/
theorem waits_ofKey (hns : key.ns ≠ "") (holds : c.Holds key batch)
    (keyed : c.templates.Keyed)
    (tended : c.Tended key batch (batch.selected key.ns c.templates)) :
    (ofKey c (.batch key)).Waits key batch (batch.selected key.ns c.templates) c ∧
      ((ofKey c (.batch key)).orders = [] ∨ Plan.isOver batch (c.childrenOf key) = false ∧
        ((c.unfinishedOf key + (ofKey c (.batch key)).orders.length : Nat) : Int) ≤
          max batch.slots (c.unfinishedOf key)) := by
  obtain ⟨current, hcurrent, hsame⟩ := holds
  obtain ⟨hnone, -⟩ | ⟨-, -, -, hdecision⟩ | ⟨b, fault, -, hdecision⟩ |
    ⟨b, selector, hbatch, hpending, hselector⟩ := Decision.make_cases c key
  · cases hnone.symm.trans hcurrent
  · rw [ofKey, hdecision]
    exact ⟨waits_of_orders_eq_nil rfl rfl, .inl rfl⟩
  · rw [ofKey, hdecision]
    exact ⟨waits_of_orders_eq_nil rfl rfl, .inl rfl⟩
  · obtain rfl : current = b := Option.some.inj (hcurrent.symm.trans hbatch)
    have hselected : batch.selected key.ns c.templates = c.templates.list key.ns selector := by
      rw [JobBatch.selected, ← hsame.spec, hselector]
    rw [hselected] at tended ⊢
    have htidy := (tended.of_uid_eq hsame.uid).tidy (Caches.nodup_names keyed key.ns selector)
    have hremovals : (ofKey c (.batch key)).removals = [] := by
      rw [ofKey, Decision.make_eq_proceed hcurrent hpending hselector]
      exact (removals_prune _ _).trans (by rw [htidy.extras_eq_nil]; rfl)
    have horders : (ofKey c (.batch key)).orders = (Plan.make current
        (c.templates.list key.ns selector) (c.childrenOf key)).starts.map current.childManifest :=
      (orders_ofKey hcurrent hpending hselector).1
    refine ⟨⟨hremovals, ?_, ?_, nodup_orders_ofKey keyed key⟩, ?_⟩
    · intro order horder
      refine isFor_of_mem_orders_ofKey hns ?_ horder
      intro other hother
      cases hcurrent.symm.trans hother
      exact ⟨hsame.own, hsame.uid⟩
    · intro order horder
      rw [horders] at horder
      obtain ⟨template, hstart, rfl⟩ := List.mem_map.1 horder
      obtain ⟨htemplate, hnone⟩ :=
        htidy.mem_undispatched.1 ((Plan.starts_sublist _ _ _).subset hstart)
      refine ⟨template, htemplate, JobBatch.templateName_childManifest current template, ?_⟩
      exact fun k child hchild => hnone child (Caches.mem_childrenOf.2 ⟨k, hchild⟩)
    · have hover : Plan.isOver current (c.childrenOf key) = Plan.isOver batch (c.childrenOf key) := by
        simp only [Plan.isOver, JobBatch.failureThreshold, hsame.spec]
      have hslots : current.slots = batch.slots := by rw [JobBatch.slots, hsame.spec, JobBatch.slots]
      cases hcase : Plan.isOver batch (c.childrenOf key) with
      | true =>
        left
        rw [horders, htidy.make_eq, hover, hcase]
        rfl
      | false =>
        refine .inr ⟨rfl, ?_⟩
        rw [horders, List.length_map, ← hslots]
        exact Plan.starts_le current _ _

/-- A step of a pass that waits creates the child of its first order, has a status written or
changes nothing, and has no more orders than it had. -/
theorem Waits.step_cases {σ : Type} {env : Surroundings σ} {view : σ → Caches}
    (exact : env.Exact view) (timeout : Duration) (now : Instant) {s : σ}
    (h : stage.Waits key batch templates (view s)) :
    (stage.step env timeout now s).1.removals = [] ∧
      ((∃ order child k, stage.orders = order :: (stage.step env timeout now s).1.orders ∧
          order.MadeFrom child ∧ Resource.key child = .ok k ∧
          (view s).children.get? k = none ∧
          view (stage.step env timeout now s).2 = (view s).withChild k child) ∨
        (stage.step env timeout now s).1.orders.Sublist stage.orders ∧
          (view (stage.step env timeout now s).2 = view s ∨
            ∃ k stored status version, (view s).batches.get? k = some stored ∧
              view (stage.step env timeout now s).2 =
                (view s).withBatch k (stored.rewritten status version))) := by
  have hremovals : (stage.step env timeout now s).1.removals = [] := by
    have hsub : (stage.step env timeout now s).1.removals.Sublist stage.removals :=
      Turn.removals_next_sublist ⟨now, stage, s⟩
    rw [h.removals] at hsub
    exact List.sublist_nil.1 hsub
  have hsub : (stage.step env timeout now s).1.orders.Sublist stage.orders :=
    Turn.orders_next_sublist env timeout ⟨now, stage, s⟩
  refine ⟨hremovals, ?_⟩
  rcases step_script exact timeout now s stage with hview | ⟨edit, hscript, happlies⟩
  · exact .inr ⟨hsub, .inl hview⟩
  · have horders := congrArg (List.filterMap Edit.created?) hscript
    have hremoved := congrArg (List.filterMap Edit.removed?) hscript
    rw [List.filterMap_cons, filterMap_created?_script, filterMap_created?_script] at horders
    rw [List.filterMap_cons, filterMap_removed?_script, filterMap_removed?_script, h.removals]
      at hremoved
    generalize hc : view s = c at happlies
    generalize hc' : view (stage.step env timeout now s).2 = c' at happlies
    cases happlies with
    | @create manifest child k _ hmade hfresh =>
      exact .inl ⟨manifest, child, k, horders, hmade.made, hmade.key, hfresh, rfl⟩
    | delete => cases hremoved
    | @write sent stored k _ version hown hstored =>
      exact .inr ⟨hsub, .inr ⟨k, stored, _, version, hstored, rfl⟩⟩

/-- A pass creates no child that it has no order for. -/
theorem mem_orders_of_edit? {manifest : Pod} (h : stage.edit? = some (.create manifest)) :
    manifest ∈ stage.orders := by
  rw [← filterMap_created?_script]
  exact List.mem_filterMap.2 ⟨.create manifest, edit?_mem_script h, rfl⟩

end Stage

/-! ## Runs -/

namespace Scene

variable {σ : Type} {env : Surroundings σ} {view : σ → Caches} {timeout : Duration}
variable {key : ObjectKey} {batch : JobBatch} {templates : Cache JobTemplate} {threshold : Nat}
variable {scene scene' : Scene σ}

/-- One step of a scene in which others do no more than go through the phases of the children. -/
inductive AgeStep (env : Surroundings σ) (view : σ → Caches) (timeout : Duration)
    (key : ObjectKey) : Scene σ → Scene σ → Prop where
  | begins (s : σ) :
      AgeStep env view timeout key ⟨s, none⟩ ⟨s, some (.ofKey (view s) (.batch key))⟩
  | advances (now : Instant) (s : σ) (stage : Stage) :
      AgeStep env view timeout key ⟨s, some stage⟩
        ⟨(stage.step env timeout now s).2, some (stage.step env timeout now s).1⟩
  /-- A pass is over when it has finished, or is broken off. -/
  | leaves (s : σ) (stage : Stage) : AgeStep env view timeout key ⟨s, some stage⟩ ⟨s, none⟩
  | elsewhere {s s' : σ} (pass : Option Stage) (h : (view s).Ages key (view s')) :
      AgeStep env view timeout key ⟨s, pass⟩ ⟨s', pass⟩

/-- The scenes that such a run can come to from a scene. -/
inductive AgeReachable (env : Surroundings σ) (view : σ → Caches) (timeout : Duration)
    (key : ObjectKey) (start : Scene σ) : Scene σ → Prop where
  | start : AgeReachable env view timeout key start start
  | step {scene scene' : Scene σ} (h : AgeReachable env view timeout key start scene)
      (hstep : AgeStep env view timeout key scene scene') :
      AgeReachable env view timeout key start scene'

/-- The children that the pass under way may still create. -/
def orders (scene : Scene σ) : List Pod := (scene.pass.map Stage.orders).getD []

/-- What holds at all times: the batch is tended, the pass under way waits for templates without a
child, and the children that have not succeeded and the orders are together within the bound. -/
structure Bounded (view : σ → Caches) (key : ObjectKey) (batch : JobBatch)
    (templates : Cache JobTemplate) (threshold : Nat) (scene : Scene σ) : Prop where
  holds : (view scene.outside).Holds key batch
  sameTemplates : (view scene.outside).templates = templates
  tended : (view scene.outside).Tended key batch (batch.selected key.ns templates)
  pass : ∀ stage, scene.pass = some stage →
    stage.Waits key batch (batch.selected key.ns templates) (view scene.outside)
  running : (((view scene.outside).unfinishedOf key + scene.orders.length : Nat) : Int) ≤
    batch.slots
  failing : (((view scene.outside).unsuccessfulOf key + scene.orders.length : Nat) : Int) ≤
    threshold + batch.slots

/-- A child is made for the first order of a pass. -/
theorem Bounded.create {s s' : σ} {stage stage' : Stage} {order child : Pod} {k : ObjectKey}
    (h : Bounded view key batch templates threshold ⟨s, some stage⟩)
    (hremovals : stage'.removals = []) (horders : stage.orders = order :: stage'.orders)
    (hfrom : order.MadeFrom child) (hk : Resource.key child = .ok k)
    (hfresh : (view s).children.get? k = none) (hview : view s' = (view s).withChild k child) :
    Bounded view key batch templates threshold ⟨s', some stage'⟩ := by
  have hwaits := h.pass stage rfl
  have hmem : order ∈ stage.orders := horders ▸ List.mem_cons_self
  obtain ⟨template, htemplate, hname, hnone⟩ := hwaits.waiting order hmem
  have hmade := Caches.madeFor_of_isFor (hwaits.marks order hmem) hname hfrom hk
  obtain rfl : k = Stage.childKey child := Except.ok.inj (hk.symm.trans hmade.own)
  obtain ⟨change, children, happly, hchildren⟩ :=
    Caches.exists_apply_withChild (c := view s) hmade.own
  -- The new child takes the place of its order in both sums.
  obtain ⟨hruns, hopen⟩ := Caches.counts_withChild hmade hfresh
  have hrunning := h.running
  have hfailing := h.failing
  simp only [orders, Option.map_some, Option.getD_some, horders, List.length_cons]
    at hrunning hfailing
  refine ⟨?_, ?_, ?_, ?_, ?_, ?_⟩
  · rw [hview]
    exact h.holds
  · rw [hview]
    exact h.sameTemplates
  · rw [hview, hchildren]
    exact h.tended.create htemplate hnone hmade happly hfresh
  · rintro _ ⟨⟩
    rw [hview]
    exact hwaits.create hremovals horders hname hmade hfresh
  · rw [hview, hruns]
    simp only [orders, Option.map_some, Option.getD_some]
    omega
  · rw [hview, hopen]
    simp only [orders, Option.map_some, Option.getD_some]
    omega

/-- With no more orders than before, and children that have gone on at most. -/
theorem Bounded.settle {s s' : σ} {pass pass' : Option Stage}
    (h : Bounded view key batch templates threshold ⟨s, pass⟩)
    (hholds : (view s').Holds key batch) (htemplates : (view s').templates = templates)
    (hback : ∀ k child', (view s').HasChild key k child' →
      ∃ child, (view s).HasChild key k child ∧ child.GoesOn child')
    (hruns : (view s').unfinishedOf key ≤ (view s).unfinishedOf key)
    (hopen : (view s').unsuccessfulOf key ≤ (view s).unsuccessfulOf key)
    (hpass : ∀ stage', pass' = some stage' → stage'.removals = [] ∧
      ∃ stage, pass = some stage ∧ stage'.orders.Sublist stage.orders) :
    Bounded view key batch templates threshold ⟨s', pass'⟩ := by
  have horders : (orders (⟨s', pass'⟩ : Scene σ)).length ≤ (orders (⟨s, pass⟩ : Scene σ)).length := by
    cases hcase : pass' with
    | none => exact Nat.zero_le _
    | some stage' =>
      obtain ⟨-, stage, rfl, hsub⟩ := hpass stage' hcase
      exact hsub.length_le
  have hrunning := h.running
  have hfailing := h.failing
  refine ⟨hholds, htemplates, h.tended.goesOn hback, ?_, ?_, ?_⟩
  · rintro stage' rfl
    obtain ⟨hremovals, stage, rfl, hsub⟩ := hpass stage' rfl
    refine (h.pass stage rfl).next hremovals hsub ?_
    intro k child' hchild'
    obtain ⟨child, hchild, hgoes⟩ := hback k child' hchild'
    exact ⟨child, hchild, Pod.templateName_congr hgoes.labels⟩
  · simp only at hrunning ⊢
    omega
  · simp only at hfailing ⊢
    omega

/-- With no more orders than before, and the same children. -/
theorem Bounded.still {s s' : σ} {pass pass' : Option Stage}
    (h : Bounded view key batch templates threshold ⟨s, pass⟩)
    (hholds : (view s').Holds key batch) (htemplates : (view s').templates = templates)
    (hchildren : (view s').children = (view s).children)
    (hpass : ∀ stage', pass' = some stage' → stage'.removals = [] ∧
      ∃ stage, pass = some stage ∧ stage'.orders.Sublist stage.orders) :
    Bounded view key batch templates threshold ⟨s', pass'⟩ := by
  have hsame : (view s').childrenOf key = (view s).childrenOf key := by
    simp only [Caches.childrenOf, hchildren]
  refine h.settle hholds htemplates ?_ (Nat.le_of_eq (congrArg Pod.countUnfinished hsame))
    (Nat.le_of_eq (congrArg (List.countP _) hsame)) hpass
  intro k child hchild
  rw [Caches.HasChild, hchildren] at hchild
  exact ⟨child, hchild, rfl, rfl, id⟩

/-- A pass begins below the threshold with as many orders as there are free slots at most, and above
it with none. -/
theorem Bounded.begins {s : σ} (hns : key.ns ≠ "") (keyed : templates.Keyed)
    (hthreshold : batch.failureThreshold = some threshold)
    (h : Bounded view key batch templates threshold ⟨s, none⟩) :
    Bounded view key batch templates threshold
      ⟨s, some (.ofKey (view s) (.batch key))⟩ := by
  obtain ⟨hholds, rfl, htended, -, hrunning, hfailing⟩ := h
  obtain ⟨hwaits, hfits⟩ := Stage.waits_ofKey hns hholds keyed htended
  simp only [orders, Option.map_none, Option.getD_none, List.length_nil, Nat.add_zero]
    at hrunning hfailing
  have hsum := (view s).failedOf_add_unfinishedOf key
  refine ⟨hholds, rfl, htended, ?_, ?_, ?_⟩
  · rintro _ ⟨⟩
    exact hwaits
  · simp only [orders, Option.map_some, Option.getD_some]
    rcases hfits with hnil | ⟨-, hslots⟩
    · rw [hnil, List.length_nil]
      exact hrunning
    · exact Int.le_trans hslots (Int.max_le.2 ⟨Int.le_refl _, hrunning⟩)
  · simp only [orders, Option.map_some, Option.getD_some]
    rcases hfits with hnil | ⟨hbelow, hslots⟩
    · rw [hnil, List.length_nil]
      exact hfailing
    · have hfew : (view s).failedOf key ≤ threshold := by
        simpa [Plan.isOver, hthreshold, Caches.failedOf] using hbelow
      have hall : (((view s).unfinishedOf key +
          (Stage.ofKey (view s) (.batch key)).orders.length : Nat) : Int) ≤ batch.slots :=
        Int.le_trans hslots (Int.max_le.2 ⟨Int.le_refl _, hrunning⟩)
      omega

/-- Every step keeps within the bound. -/
theorem Bounded.step (exact : env.Exact view) (hns : key.ns ≠ "") (keyed : templates.Keyed)
    (hthreshold : batch.failureThreshold = some threshold)
    (h : Bounded view key batch templates threshold scene)
    (hstep : AgeStep env view timeout key scene scene') :
    Bounded view key batch templates threshold scene' := by
  cases hstep with
  | begins s => exact h.begins hns keyed hthreshold
  | advances now s stage =>
    obtain ⟨hremovals, ⟨order, child, k, horders, hfrom, hk, hfresh, hview⟩ | ⟨hsub, hview⟩⟩ :=
      (h.pass stage rfl).step_cases exact timeout now
    · exact h.create hremovals horders hfrom hk hfresh hview
    · have hpass : ∀ stage', some (stage.step env timeout now s).1 = some stage' →
          stage'.removals = [] ∧ ∃ before, some stage = some before ∧
            stage'.orders.Sublist before.orders := by
        rintro _ ⟨⟩
        exact ⟨hremovals, stage, rfl, hsub⟩
      rcases hview with hview | ⟨k, stored, status, version, hstored, hview⟩
      · refine h.still ?_ ?_ (congrArg Caches.children hview) hpass
        · rw [hview]
          exact h.holds
        · rw [hview]
          exact h.sameTemplates
      · -- A status that is written changes nothing about the children.
        refine h.still ?_ ?_ ((congrArg Caches.children hview).trans rfl) hpass
        · rw [hview]
          exact h.holds.withBatch hstored status version
        · rw [hview]
          exact h.sameTemplates
  | leaves s stage => exact h.still h.holds h.sameTemplates rfl (by simp)
  | @elsewhere s s' pass hages =>
    refine h.settle ?_ (hages.templates.trans h.sameTemplates) ?_ hages.unfinishedOf_le
      hages.unsuccessfulOf_le ?_
    · obtain ⟨current, hcurrent, hsame⟩ := h.holds
      exact ⟨current, hages.batch.trans hcurrent, hsame⟩
    · intro k child' hchild'
      obtain ⟨child, hchild, hage⟩ := hages.backwards k child' hchild'
      exact ⟨child, hchild, hage.goesOn⟩
    · rintro stage rfl
      exact ⟨(h.pass stage rfl).removals, stage, rfl, List.Sublist.refl _⟩

/-- More children have failed than are tolerated, and the pass under way has no orders. -/
structure Spent (view : σ → Caches) (key : ObjectKey) (batch : JobBatch)
    (templates : Cache JobTemplate) (threshold : Nat) (scene : Scene σ) : Prop
    extends Bounded view key batch templates threshold scene where
  exceeded : threshold < (view scene.outside).failedOf key
  idle : scene.orders = []

/-- Where more have failed than are tolerated no step leads to orders again. -/
theorem Spent.step (exact : env.Exact view) (hns : key.ns ≠ "") (keyed : templates.Keyed)
    (hthreshold : batch.failureThreshold = some threshold)
    (h : Spent view key batch templates threshold scene)
    (hstep : AgeStep env view timeout key scene scene') :
    Spent view key batch templates threshold scene' := by
  have hbounded := h.toBounded.step exact hns keyed hthreshold hstep
  cases hstep with
  | begins s =>
    refine ⟨hbounded, h.exceeded, ?_⟩
    obtain ⟨hholds, rfl, htended, -, -, -⟩ := h.toBounded
    rcases (Stage.waits_ofKey hns hholds keyed htended).2 with hnil | ⟨hbelow, -⟩
    · exact hnil
    · have hfew : (view s).failedOf key ≤ threshold := by
        simpa [Plan.isOver, hthreshold, Caches.failedOf] using hbelow
      exact absurd h.exceeded (Nat.not_lt.2 hfew)
  | advances now s stage =>
    have hidle : stage.orders = [] := h.idle
    obtain ⟨-, ⟨order, child, k, horders, -⟩ | ⟨hsub, hview⟩⟩ :=
      (h.pass stage rfl).step_cases exact timeout now
    · cases hidle.symm.trans horders
    · refine ⟨hbounded, ?_, List.sublist_nil.1 (hidle ▸ hsub)⟩
      rcases hview with hview | ⟨k, stored, status, version, -, hview⟩
      · rw [hview]
        exact h.exceeded
      · rw [hview]
        exact h.exceeded
  | leaves s stage => exact ⟨hbounded, h.exceeded, rfl⟩
  | @elsewhere s s' pass hages =>
    exact ⟨hbounded, Nat.lt_of_lt_of_le h.exceeded hages.failedOf_le, h.idle⟩

/-- In every run of passes for a batch that had no children at the start, one pass after the other
and with the children going through their phases at any time, the children that have failed are
never more than the failures that are tolerated and the slots together. When there are more than are
tolerated before a pass begins, no pass from then on creates a child. -/
theorem failedOf_le_of_reachable (exact : env.Exact view) (hns : key.ns ≠ "") {start : σ}
    {limit : Int} (hbatch : (view start).batches.get? key = some batch)
    (hown : Resource.key batch = .ok key) (hlimit : batch.spec.maxFailures = some limit)
    (keyed : (view start).templates.Keyed) (hnone : (view start).childrenOf key = [])
    (hrun : AgeReachable env view timeout key ⟨start, none⟩ scene) :
    ((view scene.outside).failedOf key : Int) ≤ max limit 0 + batch.slots ∧
      (scene.pass = none → max limit 0 < (view scene.outside).failedOf key →
        ∀ later, AgeReachable env view timeout key scene later →
          ∀ stage, later.pass = some stage →
            ∀ manifest, stage.edit? ≠ some (.create manifest)) := by
  have hthreshold : batch.failureThreshold = some limit.toNat := by
    rw [JobBatch.failureThreshold, hlimit]
    rfl
  have hbounded : Bounded view key batch (view start).templates limit.toNat scene := by
    induction hrun with
    | start =>
      have hslots : 1 ≤ batch.slots := Int.le_max_right _ _
      have hruns : (view start).unfinishedOf key = 0 := by
        rw [Caches.unfinishedOf, hnone]
        rfl
      have hopen : (view start).unsuccessfulOf key = 0 := by
        rw [Caches.unsuccessfulOf, hnone]
        rfl
      refine ⟨⟨batch, hbatch, rfl, rfl, hown⟩, rfl, Caches.tended_of_childrenOf_eq_nil hnone,
        by simp, ?_, ?_⟩
      · simp only [hruns, orders, Option.map_none, Option.getD_none, List.length_nil]
        omega
      · simp only [hopen, orders, Option.map_none, Option.getD_none, List.length_nil]
        omega
    | step _ hstep ih => exact ih.step exact hns keyed hthreshold hstep
  have hsum := (view scene.outside).failedOf_add_unfinishedOf key
  refine ⟨?_, ?_⟩
  · have hfailing := hbounded.failing
    omega
  · intro hpass hexceeded later hlater
    have hspent : Spent view key batch (view start).templates limit.toNat later := by
      induction hlater with
      | start =>
        refine ⟨hbounded, by omega, ?_⟩
        rw [orders, hpass]
        rfl
      | step _ hstep ih => exact ih.step exact hns keyed hthreshold hstep
    intro stage hstage manifest hedit
    have hidle := hspent.idle
    rw [orders, hstage] at hidle
    have hmem := Stage.mem_orders_of_edit? hedit
    rw [show stage.orders = [] from hidle] at hmem
    cases hmem

section Failure

/-- A small batch that tolerates no failure. -/
def strictBatch : JobBatch :=
  { smallBatch with spec := { smallBatch.spec with maxFailures := some 0 } }

/-- Caches with that batch and one template. -/
def strictCaches : Caches :=
  { smallCaches with
    batches := ⟨⟨[(⟨"n", "b"⟩, strictBatch)], List.pairwise_singleton _ _⟩, true⟩ }

/-- Where the first step of the first pass over the batch leads to. -/
def afterCreation : Stage × Caches :=
  (Stage.ofKey strictCaches (.batch ⟨"n", "b"⟩)).step Caches.store (.ofSeconds 10) 0 strictCaches

/-- The child that was created. -/
def createdChild : Pod := Caches.newChild (strictBatch.childManifest smallTemplate) strictCaches

/-- The key of that child. -/
def createdKey : ObjectKey := Caches.newKey (strictBatch.childManifest smallTemplate) strictCaches

/-- The caches in which the child has failed. -/
def afterFailure : Caches :=
  afterCreation.2.withChild createdKey { createdChild with status := some { phase := some "Failed" } }

/-- One child that fails is within the bound, and after it no pass creates another one. -/
theorem failedOf_le_of_failure :
    afterFailure.failedOf ⟨"n", "b"⟩ = 1 ∧
      (afterFailure.failedOf ⟨"n", "b"⟩ : Int) ≤ max 0 0 + strictBatch.slots ∧
      ∀ later, AgeReachable Caches.store (fun c => c) (.ofSeconds 10) ⟨"n", "b"⟩
          ⟨afterFailure, none⟩ later →
        ∀ stage, later.pass = some stage → ∀ manifest, stage.edit? ≠ some (.create manifest) := by
  have hchild : afterCreation.2.HasChild ⟨"n", "b"⟩ createdKey createdChild :=
    ⟨by decide +kernel, rfl, by decide +kernel⟩
  have hages : afterCreation.2.Ages ⟨"n", "b"⟩ afterFailure := by
    refine Caches.ages_withChild hchild ⟨rfl, rfl, ?_⟩
    intro hended
    cases hended
  have hrun : AgeReachable Caches.store (fun c => c) (.ofSeconds 10) ⟨"n", "b"⟩
      ⟨strictCaches, none⟩ ⟨afterFailure, none⟩ :=
    .step (.step (.step (.step .start (.begins strictCaches)) (.advances 0 strictCaches _))
      (.leaves _ _)) (.elsewhere none hages)
  have hone : afterFailure.failedOf ⟨"n", "b"⟩ = 1 := by decide +kernel
  obtain ⟨hle, hspent⟩ := failedOf_le_of_reachable Caches.obeys_store.toExact (by decide)
    (show strictCaches.batches.get? ⟨"n", "b"⟩ = some strictBatch from rfl) rfl rfl
    (Cache.keyed_singleton rfl true) rfl hrun
  refine ⟨hone, hle, hspent rfl ?_⟩
  show (max 0 0 : Int) < (afterFailure.failedOf ⟨"n", "b"⟩ : Int)
  rw [hone]
  decide

end Failure

end Scene

end BatchOperator
