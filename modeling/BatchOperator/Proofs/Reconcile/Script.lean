import BatchOperator.Proofs.Reconcile.Growth
import BatchOperator.Proofs.Reconcile.Store
import BatchOperator.Proofs.Reconcile.Turns
import Mathlib.Data.List.Forall2

/-!
# The script of a pass

What a pass has still to change is its script: the children that it removes, the children that it
creates and the status that it writes, in this order. Whatever the API server answers, a pass asks
for nothing that was not in the script that it began with (`Stage.Path.mem_script`).

Surroundings are `Exact` when what is asked for is seen in the caches just as it was asked for. A
step then leaves the caches as they are or makes the next change of the script
(`Stage.step_script`), and what a pass makes of the caches is that it performs a part of its script
(`Stage.Ends.performs`). What performing a whole script comes to is said at once, whatever the
length of its parts (`Performs.outcome`).
-/

set_option autoImplicit false

namespace BatchOperator

/-- A change that a pass asks the API server for. -/
inductive Edit where
  | create (manifest : Pod)
  | delete (child : ObjectKey)
  | write (sent : JobBatch)

namespace Edit

/-- The manifest of the child that is created. -/
def created? : Edit → Option Pod
  | .create manifest => some manifest
  | .delete _ | .write _ => none

/-- The key of the child that is removed. -/
def removed? : Edit → Option ObjectKey
  | .delete child => some child
  | .create _ | .write _ => none

end Edit

namespace Stage

/-- The children that a pass has still to remove. -/
def removals : Stage → List ObjectKey
  | .purging next others | .pruning next others _ => next :: others
  | .starting .. | .announcing .. | .complaining .. | .adopting .. | .confirming .. | .closing ..
  | .reporting _ | .finished _ => []

/-- The changes that a pass has still to ask for. -/
def script (stage : Stage) : List Edit :=
  stage.removals.map .delete ++ (stage.orders.map .create ++ stage.ending?.toList.map .write)

/-- The change that the next step asks for, if it asks for one. -/
def edit? : Stage → Option Edit
  | .purging next _ | .pruning next _ _ => some (.delete next)
  | .starting template agenda => some (.create (agenda.batch.childManifest template))
  | .closing verdict batch => some (.write (batch.withStatus verdict.status))
  | .announcing .. | .complaining .. | .adopting .. | .confirming .. | .reporting _
  | .finished _ => none

@[simp] theorem removals_proceed (agenda : Agenda) : agenda.proceed.removals = [] := by
  unfold Agenda.proceed
  split
  · rfl
  · split <;> rfl

@[simp] theorem removals_prune (agenda : Agenda) (extras : List ObjectKey) :
    (agenda.prune extras).removals = extras := by
  cases extras with
  | nil => exact removals_proceed agenda
  | cons => rfl

@[simp] theorem removals_purge (children : List ObjectKey) :
    (purge children).removals = children := by
  cases children <;> rfl

/-- What an agenda has still to change. -/
theorem script_proceed (agenda : Agenda) : agenda.proceed.script =
    agenda.orders.map .create ++ agenda.ending?.toList.map .write := by
  simp [script]

theorem script_prune (agenda : Agenda) (extras : List ObjectKey) :
    (agenda.prune extras).script = extras.map .delete ++ agenda.proceed.script := by
  simp [script]

theorem script_purge (children : List ObjectKey) :
    (purge children).script = children.map .delete := by
  simp [script]

theorem filterMap_created?_script (stage : Stage) :
    stage.script.filterMap Edit.created? = stage.orders := by
  have hdeletes : ∀ keys : List ObjectKey, (keys.map Edit.delete).filterMap Edit.created? = [] := by
    intro keys
    simp [List.filterMap_eq_nil_iff, Edit.created?]
  have hwrites : ∀ sent : List JobBatch, (sent.map Edit.write).filterMap Edit.created? = [] := by
    intro sent
    simp [List.filterMap_eq_nil_iff, Edit.created?]
  rw [script, List.filterMap_append, List.filterMap_append, hdeletes, hwrites, List.filterMap_map]
  simp [Function.comp_def, Edit.created?]

theorem filterMap_removed?_script (stage : Stage) :
    stage.script.filterMap Edit.removed? = stage.removals := by
  have hcreates : ∀ manifests : List Pod,
      (manifests.map Edit.create).filterMap Edit.removed? = [] := by
    intro manifests
    simp [List.filterMap_eq_nil_iff, Edit.removed?]
  have hwrites : ∀ sent : List JobBatch, (sent.map Edit.write).filterMap Edit.removed? = [] := by
    intro sent
    simp [List.filterMap_eq_nil_iff, Edit.removed?]
  rw [script, List.filterMap_append, List.filterMap_append, hcreates, hwrites, List.filterMap_map]
  simp [Function.comp_def, Edit.removed?]

theorem edit?_mem_script {stage : Stage} {edit : Edit} (h : stage.edit? = some edit) :
    edit ∈ stage.script := by
  cases stage with
  | purging next others | pruning next others agenda =>
    cases h
    simp [script, removals]
  | starting template agenda =>
    cases h
    simp [script, orders]
  | closing verdict batch =>
    cases h
    simp [script, ending?]
  | announcing | complaining | adopting | confirming | reporting | finished => cases h

section Begin

variable {c : Caches} {key : ObjectKey} {uid : Option String}

/-- A pass begins with orders for children of the batch that it sees. -/
theorem isFor_of_mem_orders_ofKey (hns : key.ns ≠ "")
    (hown : ∀ batch, c.batches.get? key = some batch →
      Resource.key batch = .ok key ∧ batch.metadata.uid = uid) {order : Pod}
    (horder : order ∈ (ofKey c (.batch key)).orders) : order.IsFor key uid := by
  obtain ⟨batch, selector, hbatch, horders⟩ := of_mem_orders_ofKey horder
  rw [horders] at horder
  obtain ⟨template, -, rfl⟩ := List.mem_map.1 horder
  obtain ⟨hkey, huid⟩ := hown batch hbatch
  exact huid ▸ Caches.isFor_of_isOf (Caches.isOf_of_key hns hkey) template

/-- The orders that a pass begins with are for different templates. -/
theorem nodup_orders_ofKey (keyed : c.templates.Keyed) (key : ObjectKey) :
    ((ofKey c (.batch key)).orders.map Pod.templateName).Nodup := by
  by_cases hnil : (ofKey c (.batch key)).orders = []
  · rw [hnil]
    exact List.nodup_nil
  · obtain ⟨order, horder⟩ := List.exists_mem_of_ne_nil _ hnil
    obtain ⟨batch, selector, -, horders⟩ := of_mem_orders_ofKey horder
    -- The starts are some of the templates of a namespace, which have different names.
    have hsub := (Plan.starts_sublist batch (c.templates.list key.ns selector)
      (c.childrenOf key)).trans List.filter_sublist
    have hnodup := (Caches.nodup_names keyed key.ns selector).sublist (hsub.map JobTemplate.name)
    have hnames := hnodup.map fun _ _ => Option.some.inj
    rw [horders]
    simpa [List.map_map, Function.comp_def] using hnames

end Begin

end Stage

/-! ## Whatever the answers are -/

section Asked

variable {σ : Type} {env : Surroundings σ} {timeout : Duration}

theorem Turn.removals_next_sublist (turn : Turn σ) :
    (turn.next env timeout).removals.Sublist turn.stage.removals := by
  obtain ⟨now, stage, s⟩ := turn
  cases stage with
  | purging child others =>
    simp only [next, Stage.step]
    split
    · rw [Stage.removals_purge]
      exact List.sublist_cons_self _ _
    · exact List.nil_sublist _
  | pruning child others agenda =>
    rw [next, Stage.step, Stage.removals_prune]
    exact List.sublist_cons_self _ _
  | starting template agenda =>
    simp only [next, Stage.step]
    split
    · exact List.nil_sublist _
    · split <;> exact List.nil_sublist _
  | adopting template refusal agenda =>
    simp only [next, Stage.step]
    split
    · exact List.nil_sublist _
    · split <;> exact List.nil_sublist _
  | confirming child poll moment agenda =>
    rw [next_confirming, Stage.afterLook]
    split
    · exact List.nil_sublist _
    · split
      · rw [Stage.removals_proceed]
        exact List.nil_sublist _
      all_goals exact List.nil_sublist _
  | closing verdict batch =>
    simp only [next, Stage.step]
    split <;> exact List.nil_sublist _
  | announcing | complaining | reporting | finished => exact List.nil_sublist _

/-- No turn adds to the script. -/
theorem Turn.script_next_sublist (turn : Turn σ) :
    (turn.next env timeout).script.Sublist turn.stage.script := by
  refine (turn.removals_next_sublist.map _).append
    (((turn.orders_next_sublist env timeout).map _).append ?_)
  cases hending : (turn.next env timeout).ending? with
  | none => exact List.nil_sublist _
  | some sent =>
    rw [turn.ending?_of_next env timeout hending]

/-- A pass asks for no change that was not in its script when it began. -/
theorem Stage.Path.mem_script {stage last : Stage} {turns : List (Turn σ)}
    (h : Path env timeout stage turns last) {turn : Turn σ} (hturn : turn ∈ turns) {edit : Edit}
    (hedit : turn.stage.edit? = some edit) : edit ∈ stage.script := by
  induction h with
  | rest => cases hturn
  | @turn now s stage last turns h ih =>
    rcases List.mem_cons.1 hturn with rfl | hturn
    · exact edit?_mem_script hedit
    · exact (Turn.script_next_sublist ⟨now, stage, s⟩).subset (ih hturn)

end Asked

/-! ## What the changes make of the caches -/

/-- The caches with a child under a key. -/
def Caches.withChild (c : Caches) (key : ObjectKey) (child : Pod) : Caches :=
  c.withChildren { c.children with objects := c.children.objects.insert key child }

namespace Surroundings

variable {σ : Type}

/-- The API server can make a child from a manifest. -/
def Makes (env : Surroundings σ) (manifest child : Pod) : Prop :=
  ∃ s s', env.createChild manifest s = (.ok child, s')

/-- An entry holds a child that was made from a manifest, under its own key. -/
structure IsMade (env : Surroundings σ) (manifest : Pod) (entry : ObjectKey × Pod) : Prop where
  makes : env.Makes manifest entry.2
  made : manifest.MadeFrom entry.2
  key : Resource.key entry.2 = .ok entry.1

/-- What is asked of the API server is seen in the caches as it was asked for: a child is made under
a key that is free, and a status is written to the batch of the key of what was sent. What fails
changes nothing. -/
structure Exact (env : Surroundings σ) (view : σ → Caches) : Prop extends env.Mirrors view where
  makes : ∀ {manifest child : Pod} {s s' : σ}, env.createChild manifest s = (.ok child, s') →
    manifest.MadeFrom child ∧
      ∀ key, Resource.key child = .ok key → (view s).children.get? key = none
  rewrites : ∀ {sent answer : JobBatch} {s s' : σ}, env.replaceStatus sent s = (.ok answer, s') →
    ∃ key stored version, Resource.key sent = .ok key ∧
      (view s).batches.get? key = some stored ∧
      view s' = (view s).withBatch key (stored.rewritten sent.status version)

end Surroundings

variable {σ : Type} {env : Surroundings σ} {view : σ → Caches} {timeout : Duration}

/-- What a change makes of the caches. -/
inductive Edit.Applies (env : Surroundings σ) : Edit → Caches → Caches → Prop where
  | create {manifest child : Pod} {key : ObjectKey} {c : Caches}
      (made : env.IsMade manifest (key, child)) (fresh : c.children.get? key = none) :
      Applies env (.create manifest) c (c.withChild key child)
  | delete (child : ObjectKey) (c : Caches) : Applies env (.delete child) c (c.withoutChild child)
  | write {sent stored : JobBatch} {key : ObjectKey} {c : Caches} (version : String)
      (own : Resource.key sent = .ok key) (current : c.batches.get? key = some stored) :
      Applies env (.write sent) c (c.withBatch key (stored.rewritten sent.status version))

/-- What changes make of the caches, one after the other. -/
inductive Performs (env : Surroundings σ) : List Edit → Caches → Caches → Prop where
  | nil (c : Caches) : Performs env [] c c
  | cons {edit : Edit} {edits : List Edit} {c c' c'' : Caches} (h : edit.Applies env c c')
      (rest : Performs env edits c' c'') : Performs env (edit :: edits) c c''

namespace Stage

/-- A step leaves the caches as they are, or makes the next change of the script. -/
theorem step_script (exact : env.Exact view) (timeout : Duration) (now : Instant) (s : σ)
    (stage : Stage) :
    view (stage.step env timeout now s).2 = view s ∨
      ∃ edit, stage.script = edit :: (stage.step env timeout now s).1.script ∧
        edit.Applies env (view s) (view (stage.step env timeout now s).2) := by
  cases stage with
  | purging next others =>
    rcases h : env.deleteChild next s with ⟨e | ⟨⟩, s'⟩
    · simp only [step, h]
      exact .inl (exact.notDeleted h)
    · simp only [step, h, exact.deleted h]
      refine .inr ⟨.delete next, ?_, .delete next _⟩
      rw [script_purge]
      simp [script, removals, orders, ending?]
  | pruning next others agenda =>
    rcases h : env.deleteChild next s with ⟨e | ⟨⟩, s'⟩
    · simp only [step, h]
      exact .inl (exact.notDeleted h)
    · simp only [step, h, exact.deleted h]
      refine .inr ⟨.delete next, ?_, .delete next _⟩
      rw [script_prune, script_proceed]
      simp [script, removals, orders, ending?]
  | starting template agenda =>
    rcases h : env.createChild (agenda.batch.childManifest template) s with ⟨e | child, s'⟩
    · simp only [step, h]
      split <;> exact .inl (exact.notCreated h)
    · obtain ⟨hmade, hfresh⟩ := exact.makes h
      obtain ⟨change, children, happly, hview⟩ := exact.created h
      obtain ⟨key, hkey, rfl⟩ := Cache.apply_cases happly
      simp only [step, h, exact.counted, hview]
      refine .inr ⟨.create (agenda.batch.childManifest template), ?_, ?_⟩
      · simp [script, removals, orders, ending?]
      · exact .create ⟨⟨s, s', h⟩, hmade, hkey⟩ (hfresh key hkey)
  | announcing child template agenda => exact .inl (exact.published _ s)
  | complaining template refusal batch => exact .inl (exact.published _ s)
  | adopting template refusal agenda =>
    have hview := exact.listed agenda.batch.metadata.nsOrDefault
      (adoptionQuery agenda.batch template.name) s
    simp only [step]
    split
    · exact .inl hview
    · split <;> exact .inl hview
  | confirming child poll moment agenda =>
    rw [step_confirming]
    exact .inl rfl
  | closing verdict batch =>
    rcases h : env.replaceStatus (batch.withStatus verdict.status) s with ⟨e | answer, s'⟩
    · simp only [step, h]
      exact .inl (exact.notWritten h)
    · obtain ⟨key, stored, version, hkey, hstored, hview⟩ := exact.rewrites h
      simp only [step, h, exact.counted, hview]
      refine .inr ⟨.write (batch.withStatus verdict.status), ?_, .write version hkey hstored⟩
      simp [script, removals, orders, ending?]
  | reporting notification => exact .inl (exact.published notification s)
  | finished result => exact .inl rfl

/-- What a pass makes of the caches is that it performs a part of its script. -/
theorem Ends.performs (exact : env.Exact view) {stage : Stage} {s s' : σ}
    {result : Except Error Unit} (h : Ends env timeout stage s result s') :
    ∃ done : List Edit, done.Sublist stage.script ∧ Performs env done (view s) (view s') := by
  induction h with
  | finished => exact ⟨[], List.nil_sublist _, .nil _⟩
  | @step now stage s s' result h ih =>
    obtain ⟨done, hdone, hperforms⟩ := ih
    rcases step_script exact timeout now s stage with hview | ⟨edit, hscript, happlies⟩
    · rw [hview] at hperforms
      exact ⟨done, hdone.trans (Turn.script_next_sublist ⟨now, stage, s⟩), hperforms⟩
    · exact ⟨edit :: done, hscript ▸ hdone.cons_cons edit, .cons happlies hperforms⟩

end Stage

/-! ## What a script comes to -/

namespace Performs

theorem append_iff {before behind : List Edit} {c c'' : Caches} :
    Performs env (before ++ behind) c c'' ↔
      ∃ c', Performs env before c c' ∧ Performs env behind c' c'' := by
  induction before generalizing c with
  | nil =>
    constructor
    · exact fun h => ⟨c, .nil c, h⟩
    · rintro ⟨c', hbefore, hbehind⟩
      cases hbefore
      exact hbehind
  | cons edit edits ih =>
    constructor
    · intro h
      cases h with
      | cons happlies hrest =>
        obtain ⟨c', hbefore, hbehind⟩ := ih.1 hrest
        exact ⟨c', .cons happlies hbefore, hbehind⟩
    · rintro ⟨c', hbefore, hbehind⟩
      cases hbefore with
      | cons happlies hrest => exact .cons happlies (ih.2 ⟨c', hrest, hbehind⟩)

/-- What every change keeps all changes keep. -/
theorem invariant {I : Caches → Prop} {edits : List Edit} {c c' : Caches}
    (h : Performs env edits c c')
    (hstep : ∀ edit ∈ edits, ∀ c c', edit.Applies env c c' → I c → I c') (hI : I c) : I c' := by
  induction h with
  | nil => exact hI
  | cons happlies _ ih =>
    refine ih (fun edit hedit => hstep edit (List.mem_cons_of_mem _ hedit)) ?_
    exact hstep _ List.mem_cons_self _ _ happlies hI

/-- Removals take the entries of their keys out of the children, and nothing else. -/
theorem of_deletes {keys : List ObjectKey} {c c' : Caches}
    (h : Performs env (keys.map .delete) c c') :
    c'.batches = c.batches ∧ c'.templates = c.templates ∧
      c'.children.objects.entries = c.children.objects.entries.filter fun e => e.1 ∉ keys := by
  induction keys generalizing c with
  | nil =>
    cases h
    exact ⟨rfl, rfl, by simp⟩
  | cons key keys ih =>
    cases h with
    | cons happlies hrest =>
      cases happlies
      obtain ⟨hbatches, htemplates, hentries⟩ := ih hrest
      refine ⟨hbatches, htemplates, ?_⟩
      rw [hentries]
      simp only [Caches.withoutChild, Caches.withChildren, OrderedMap.erase, OrderedMap.drop,
        List.filter_filter]
      apply List.filter_congr
      intro entry _
      simp [Bool.and_comm]

/-- Creations add entries under keys that were free, one for each manifest. -/
theorem of_creates {manifests : List Pod} {c c' : Caches}
    (h : Performs env (manifests.map .create) c c') :
    c'.batches = c.batches ∧ c'.templates = c.templates ∧
      ∃ made : List (ObjectKey × Pod), List.Forall₂ env.IsMade manifests made ∧
        (∀ entry ∈ made, c.children.get? entry.1 = none) ∧
        c'.children.objects.entries.Perm (c.children.objects.entries ++ made) := by
  induction manifests generalizing c with
  | nil =>
    cases h
    exact ⟨rfl, rfl, [], .nil, by simp, by simp⟩
  | cons manifest manifests ih =>
    cases h with
    | cons happlies hrest =>
      cases happlies with
      | @create _ child key _ hmade hfresh =>
        obtain ⟨hbatches, htemplates, made, hall, hnew, hperm⟩ := ih hrest
        refine ⟨hbatches, htemplates, (key, child) :: made, .cons hmade hall, ?_, ?_⟩
        · intro entry hentry
          rcases List.mem_cons.1 hentry with rfl | hentry
          · exact hfresh
          · -- What is free with the new child there was free before.
            have hnone := hnew entry hentry
            simp only [Caches.withChild, Caches.withChildren, Cache.get?, OrderedMap.get?_insert]
              at hnone
            split at hnone
            · cases hnone
            · exact hnone
        · have hinsert : (c.withChild key child).children.objects.entries.Perm
              ((key, child) :: c.children.objects.entries) :=
            OrderedMap.entries_insert_perm hfresh child
          refine hperm.trans ((hinsert.append_right made).trans ?_)
          exact List.perm_middle.symm

/-- A status is written to the batch that is stored under the key of what is sent. -/
theorem of_writes {sent? : Option JobBatch} {c c' : Caches}
    (h : Performs env (sent?.toList.map .write) c c') :
    c'.templates = c.templates ∧ c'.children = c.children ∧
      (sent? = none → c'.batches = c.batches) ∧
      ∀ sent, sent? = some sent → ∃ key stored version, Resource.key sent = .ok key ∧
        c.batches.get? key = some stored ∧
        c' = c.withBatch key (stored.rewritten sent.status version) := by
  cases sent? with
  | none =>
    cases h
    exact ⟨rfl, rfl, fun _ => rfl, by simp⟩
  | some sent =>
    cases h with
    | cons happlies hrest =>
      cases hrest
      cases happlies with
      | @write _ stored key _ version hkey hstored =>
        refine ⟨rfl, rfl, by simp, ?_⟩
        intro other hother
        cases hother
        exact ⟨key, stored, version, hkey, hstored, rfl⟩

end Performs

/-- What a pass that has performed its whole script has made of the caches. -/
structure Stage.Outcome (env : Surroundings σ) (stage : Stage) (c c' : Caches) : Prop where
  templates : c'.templates = c.templates
  /-- The children that it removed are gone, and there is one more for each of its orders. -/
  children : ∃ made : List (ObjectKey × Pod), List.Forall₂ env.IsMade stage.orders made ∧
    (∀ entry ∈ made, c.children.get? entry.1 = none ∨ entry.1 ∈ stage.removals) ∧
    c'.children.objects.entries.Perm
      (c.children.objects.entries.filter (fun entry => entry.1 ∉ stage.removals) ++ made)
  unwritten : stage.ending? = none → c'.batches = c.batches
  written : ∀ sent, stage.ending? = some sent → ∃ key stored version,
    Resource.key sent = .ok key ∧ c.batches.get? key = some stored ∧
      c'.batches = (c.withBatch key (stored.rewritten sent.status version)).batches

/-- What performing a whole script comes to. -/
theorem Performs.outcome {stage : Stage} {c c' : Caches} (h : Performs env stage.script c c') :
    stage.Outcome env c c' := by
  obtain ⟨c₁, hdeletes, hrest⟩ := append_iff.1 h
  obtain ⟨c₂, hcreates, hwrites⟩ := append_iff.1 hrest
  obtain ⟨hbatches₁, htemplates₁, hentries⟩ := of_deletes hdeletes
  obtain ⟨hbatches₂, htemplates₂, made, hall, hfresh, hperm⟩ := of_creates hcreates
  obtain ⟨htemplates, hchildren, hunwritten, hwritten⟩ := of_writes hwrites
  refine ⟨?_, ⟨made, hall, ?_, ?_⟩, ?_, ?_⟩
  · rw [htemplates, htemplates₂, htemplates₁]
  · intro entry hentry
    -- Under a free key there was nothing, or a child that was removed.
    have hnone := hfresh entry hentry
    by_cases hremoved : entry.1 ∈ stage.removals
    · exact .inr hremoved
    · refine .inl (Option.eq_none_iff_forall_ne_some.2 fun child hchild => ?_)
      have hmem : (entry.1, child) ∈ c₁.children.objects.entries := by
        rw [hentries, List.mem_filter]
        exact ⟨OrderedMap.mem_entries_iff.2 hchild, by simpa using hremoved⟩
      cases (OrderedMap.mem_entries_iff.1 hmem).symm.trans hnone
  · rw [hchildren, ← hentries]
    exact hperm
  · intro hending
    rw [hunwritten hending, hbatches₂, hbatches₁]
  · intro sent hsent
    obtain ⟨key, stored, version, hkey, hstored, rfl⟩ := hwritten sent hsent
    rw [hbatches₂, hbatches₁] at hstored
    refine ⟨key, stored, version, hkey, hstored, ?_⟩
    simp only [Caches.withBatch, Caches.withBatches, hbatches₂, hbatches₁]

end BatchOperator
