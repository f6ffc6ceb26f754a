import BatchOperator.Proofs.Reconcile.Aftermath
import BatchOperator.Proofs.Reconcile.Convergence
import BatchOperator.Proofs.Reconcile.Unhindered

/-!
# Passes come to rest

Where everything that is asked for is carried out and nothing else happens, passes over a batch come
to rest: from the third one on a pass has finished as soon as it begins, whatever there was at the
start (`Stage.resting_of_passes`). When the first pass removes no child that has not ended, the
second one has nothing to do already.

A pass follows its plan (`Stage.Outcome.followed`), writes the end of the batch, or removes what a
batch that is gone has left behind (`Stage.Outcome.next`). A plan that was followed leaves the
children in order, so the next one removes nothing, and then there is nothing left to do.
-/

set_option autoImplicit false

namespace BatchOperator

namespace Caches

variable {c c' : Caches} {key : ObjectKey}

/-- Every object is kept under its own key, as what fills a cache keeps it (`Cache.Keyed.watch`). -/
structure Keyed (c : Caches) : Prop where
  batches : c.batches.Keyed
  templates : c.templates.Keyed
  children : c.children.Keyed

/-- A child of a batch is kept under the key by which a pass knows it. -/
theorem HasChild.childKey_eq {k : ObjectKey} {child : Pod} (h : c.HasChild key k child)
    (hns : key.ns ≠ "") (keyed : c.children.Keyed) : Stage.childKey child = k := by
  have hkey := keyed k child h.1
  have hname : child.name = k.name := Metadata.anyName_of_key hkey
  have hkns : child.metadata.ns.getD "" = k.ns := (Metadata.of_key hkey).2
  cases hsome : child.metadata.ns with
  | none =>
    rw [hsome] at hkns
    exact absurd (h.2.1.symm.trans hkns.symm) hns
  | some ns =>
    rw [hsome] at hkns
    simp only [Stage.childKey, Metadata.nsOrDefault, hsome, hname, Option.getD_some] at hkns ⊢
    rw [hkns]

/-- The child of a batch that an entry holds, if it holds one. -/
def childOf? (batch : ObjectKey) (entry : ObjectKey × Pod) : Option Pod :=
  if entry.1.ns = batch.ns ∧ entry.2.batchName = some batch.name then some entry.2 else none

theorem childOf?_eq_some {batch : ObjectKey} {entry : ObjectKey × Pod} {child : Pod}
    (h : childOf? batch entry = some child) :
    entry.2 = child ∧ entry.1.ns = batch.ns ∧ child.batchName = some batch.name := by
  obtain ⟨⟨hns, hname⟩, hchild⟩ := Option.ite_none_right_eq_some.1 h
  cases hchild
  exact ⟨rfl, hns, hname⟩

theorem childrenOf_eq_filterMap (c : Caches) (batch : ObjectKey) :
    c.childrenOf batch = c.children.objects.entries.filterMap (childOf? batch) := by
  rw [childrenOf, Cache.list]
  apply List.filterMap_congr
  rintro ⟨k, pod⟩ -
  simp only [childOf?, selects_batchName]

/-- Without the entries of some of the children there are all children but those. -/
theorem filterMap_childOf? (hns : key.ns ≠ "") (keyed : c.children.Keyed) {extras : List Pod}
    (hextras : ∀ child ∈ extras, child ∈ c.childrenOf key) :
    (c.children.objects.entries.filter fun entry => entry.1 ∉ extras.map Stage.extraKey).filterMap
        (childOf? key) =
      (c.childrenOf key).filter fun child => child ∉ extras := by
  rw [childrenOf_eq_filterMap, List.filterMap_filter, List.filter_filterMap]
  apply List.filterMap_congr
  intro entry hentry
  cases hchild : childOf? key entry with
  | none => simp
  | some child =>
    obtain ⟨rfl, hchildns, hname⟩ := childOf?_eq_some hchild
    have hthere : c.HasChild key entry.1 entry.2 :=
      ⟨OrderedMap.mem_entries_iff.1 hentry, hchildns, hname⟩
    -- The entry of a child goes when the child is one of those.
    have hgoes : entry.1 ∈ extras.map Stage.extraKey ↔ entry.2 ∈ extras := by
      rw [List.mem_map]
      constructor
      · rintro ⟨extra, hextra, hsame⟩
        obtain ⟨k, hk⟩ := mem_childrenOf.1 (hextras extra hextra)
        obtain rfl : k = entry.1 := (hk.childKey_eq hns keyed).symm.trans hsame
        obtain rfl : extra = entry.2 := Option.some.inj (hk.1.symm.trans hthere.1)
        exact hextra
      · intro hextra
        exact ⟨entry.2, hextra, hthere.childKey_eq hns keyed⟩
    by_cases hextra : entry.2 ∈ extras <;> simp [hgoes, hextra, Option.filter_some]

/-- No child is listed twice. -/
theorem nodup_childrenOf (keyed : c.children.Keyed) : (c.childrenOf key).Nodup := by
  refine Cache.pairwise_list ?_
  rintro k k' a b ha hb - - - - hne rfl
  exact hne (Except.ok.inj ((keyed k a ha).symm.trans (keyed k' a hb)))

/-- A pass over the batch of a key has nothing to do: it has finished as soon as it begins. -/
def AtRest (c : Caches) (key : ObjectKey) : Prop :=
  Stage.ofKey c (.batch key) = .finished (.ok ())

/-- A pass over the batch of a key sees no leftover and no duplicate that has not ended. -/
def SparesRunning (c : Caches) (key : ObjectKey) : Prop :=
  ∀ plan, Decision.make c key = .proceed plan →
    ∀ child ∈ plan.extras, child.phase.isTerminal = true

theorem atRest_of_idle {plan : Plan} (hdecision : Decision.make c key = .proceed plan)
    (h : plan.Idle) : c.AtRest key := by
  simp only [AtRest, Stage.ofKey, hdecision, Stage.ofDecision, h.extras, h.starts, h.verdict]
  rfl

/-- A pass that has nothing to do removes nothing. -/
theorem AtRest.sparesRunning (h : c.AtRest key) : c.SparesRunning key := by
  intro plan hdecision child hchild
  rw [AtRest, Stage.ofKey, hdecision] at h
  have hnone : plan.extras.map Stage.extraKey = [] :=
    (Stage.removals_prune _ _).symm.trans (congrArg Stage.removals h)
  rw [List.map_eq_nil_iff.1 hnone] at hchild
  cases hchild

end Caches

namespace Stage

variable {σ : Type} {env : Surroundings σ} {view : σ → Caches} {timeout : Duration}
variable {c c' : Caches} {key : ObjectKey}

/-- A pass that has finished stays as it is and changes nothing outside. -/
theorem Ends.of_finished {result result' : Except Error Unit} {s s' : σ}
    (h : Ends env timeout (.finished result) s result' s') : result' = result ∧ s' = s := by
  have hsame := h.invariant (I := fun stage t => stage = .finished result ∧ t = s) ?_ ⟨rfl, rfl⟩
  · obtain ⟨hresult, hs⟩ := hsame
    cases hresult
    exact ⟨rfl, hs⟩
  · rintro now _ _ ⟨rfl, rfl⟩
    exact ⟨rfl, rfl⟩

namespace Outcome

/-- After a pass every object is still kept under its own key. -/
theorem keyed {stage : Stage} (h : stage.Outcome env c c') (keyed : c.Keyed) : c'.Keyed := by
  refine ⟨?_, h.templates ▸ keyed.templates, ?_⟩
  · cases hending : stage.ending? with
    | none => exact h.unwritten hending ▸ keyed.batches
    | some sent =>
      obtain ⟨k, stored, version, -, hstored, hbatches⟩ := h.written sent hending
      rw [hbatches]
      intro other batch hget
      simp only [Caches.withBatch, Caches.withBatches, Cache.get?, OrderedMap.get?_insert] at hget
      split at hget
      · -- Another status and another version do not change the key.
        rename_i hother
        cases hget
        rw [hother]
        exact keyed.batches k stored hstored
      · exact keyed.batches other batch hget
  · obtain ⟨made, hmade, -, hperm⟩ := h.children
    intro k child hget
    rcases List.mem_append.1 (hperm.mem_iff.1 (OrderedMap.mem_entries_iff.2 hget)) with hin | hin
    · exact keyed.children k child (OrderedMap.mem_entries_iff.1 (List.mem_filter.1 hin).1)
    · obtain ⟨manifest, -, hentry⟩ := exists_left_of_forall₂ hmade hin
      exact hentry.key

/-- A pass that has written the end of a batch leaves nothing to do. -/
theorem atRest_of_written {stage : Stage} (h : stage.Outcome env c c') {batch : JobBatch}
    {verdict : Verdict} (hkey : Resource.key batch = .ok key)
    (hending : stage.ending? = some (batch.withStatus verdict.status)) : c'.AtRest key := by
  obtain ⟨k, stored, version, hk, -, hbatches⟩ := h.written _ hending
  obtain rfl : key = k := Except.ok.inj (hkey.symm.trans hk)
  have hget : c'.batches.get? key =
      some (stored.rewritten (batch.withStatus verdict.status).status version) := by
    rw [hbatches]
    simp [Caches.withBatch, Caches.withBatches, Cache.get?]
  simp only [Caches.AtRest, ofKey, Decision.make, hget]
  rfl

/-- A pass over a batch that is gone leaves nothing to do. -/
theorem atRest_of_purge (keyed : c.Keyed) (hnone : c.batches.get? key = none)
    (h : (purge ((c.childrenOf key).map fun child => ⟨key.ns, child.name⟩)).Outcome env c c') :
    c'.AtRest key := by
  have hbatch : c'.batches.get? key = none := by
    rw [h.unwritten (ending?_purge _)]
    exact hnone
  obtain ⟨made, hmade, -, hperm⟩ := h.children
  rw [orders_purge, List.forall₂_nil_left_iff] at hmade
  rw [removals_purge, hmade, List.append_nil] at hperm
  have hchildren : c'.childrenOf key = [] := by
    refine List.eq_nil_iff_forall_not_mem.2 fun child hchild => ?_
    obtain ⟨k, hget, hkns, hname⟩ := Caches.mem_childrenOf.1 hchild
    obtain ⟨hin, hleft⟩ := List.mem_filter.1 (hperm.mem_iff.1 (OrderedMap.mem_entries_iff.2 hget))
    have hthere : c.HasChild key k child := ⟨OrderedMap.mem_entries_iff.1 hin, hkns, hname⟩
    -- Every child was removed under its key.
    refine absurd (List.mem_map.2 ⟨child, Caches.mem_childrenOf.2 ⟨k, hthere⟩, ?_⟩)
      (of_decide_eq_true hleft)
    have hown := keyed.children k child hthere.1
    rw [← hkns]
    exact congrArg (ObjectKey.mk k.ns) (Metadata.anyName_of_key hown)
  simp only [Caches.AtRest, ofKey, Decision.make, hbatch, ofDecision, hchildren, List.map_nil]
  rfl

/-- A pass follows its plan. -/
theorem followed (hns : key.ns ≠ "") (keyed : c.Keyed) {batch : JobBatch} {plan : Plan}
    (hbatch : c.batches.get? key = some batch) (hplan : plan.batch = batch)
    (hextras : ∀ child ∈ plan.extras, child ∈ c.childrenOf key)
    (h : (ofDecision key (.proceed plan)).Outcome env c c') :
    plan.Followed (c.childrenOf key) (c'.childrenOf key) := by
  subst hplan
  have hof := Caches.isOf_of_key hns (keyed.batches key plan.batch hbatch)
  obtain ⟨made, hmade, -, hperm⟩ := h.children
  simp only [ofDecision, removals_prune, orders_prune, Agenda.orders] at hmade hperm
  rw [List.forall₂_map_left_iff] at hmade
  have hmadeFor : List.Forall₂ (fun template entry => Caches.MadeFor plan.batch key template
      entry.2 ∧ childKey entry.2 = entry.1) plan.starts made := by
    refine hmade.imp ?_
    intro template entry hentry
    have hfor := Caches.madeFor_of_madeFrom hof hentry.made hentry.key
    exact ⟨hfor, Except.ok.inj (hfor.own.symm.trans hentry.key)⟩
  refine ⟨made.map Prod.snd, ?_, ?_⟩
  · rw [List.forall₂_map_right_iff]
    exact hmadeFor.imp fun template entry hentry =>
      ⟨hentry.1.owned, hentry.1.templateName, hentry.1.unfinished⟩
  · rw [c'.childrenOf_eq_filterMap]
    refine (hperm.filterMap _).trans (List.Perm.of_eq ?_)
    rw [List.filterMap_append, Caches.filterMap_childOf? hns keyed.children hextras]
    congr 1
    rw [← List.filterMap_eq_map]
    apply List.filterMap_congr
    intro entry hentry
    obtain ⟨template, -, hfor, hkey⟩ := exists_left_of_forall₂ hmadeFor hentry
    have hns' : entry.1.ns = key.ns := hkey ▸ hfor.ns
    simp [Caches.childOf?, hns', hfor.batchName]

/-- A pass has followed a plan without a verdict, and the next plan is for the same batch and the
same templates. -/
structure Continues (key : ObjectKey) (batch : JobBatch) (templates : List JobTemplate)
    (c c' : Caches) : Prop where
  decision : Decision.make c key = .proceed (.make batch templates (c.childrenOf key))
  next : Decision.make c' key = .proceed (.make batch templates (c'.childrenOf key))
  names : (templates.map JobTemplate.name).Nodup
  verdict : (Plan.make batch templates (c.childrenOf key)).verdict = none
  followed : (Plan.make batch templates (c.childrenOf key)).Followed (c.childrenOf key)
    (c'.childrenOf key)

/-- A pass leaves nothing to do, or has followed a plan without a verdict. -/
theorem next (hns : key.ns ≠ "") (keyed : c.Keyed)
    (h : (ofKey c (.batch key)).Outcome env c c') :
    c'.AtRest key ∨ ∃ batch templates, Continues key batch templates c c' := by
  obtain ⟨hnone, hdecision⟩ | ⟨batch, hbatch, hcomplete, hdecision⟩ |
    ⟨batch, fault, hbatch, hdecision⟩ | ⟨batch, selector, hbatch, hpending, hselector⟩ :=
      Decision.make_cases c key
  · rw [ofKey, hdecision] at h
    exact .inl (atRest_of_purge keyed hnone h)
  · -- A complete batch stays as it is.
    rw [ofKey, hdecision] at h
    have hsame : c'.batches.get? key = some batch := by
      rw [h.unwritten rfl]
      exact hbatch
    left
    simp only [Caches.AtRest, ofKey, Decision.make, hsame, hcomplete, if_true, ofDecision]
  · rw [ofKey, hdecision] at h
    have hending : (ofDecision key (.refuse batch fault)).ending? =
        some (batch.withStatus (Verdict.ofFault fault).status) := rfl
    exact .inl (h.atRest_of_written (keyed.batches key batch hbatch) hending)
  · have hdecision := Decision.make_eq_proceed hbatch hpending hselector
    rw [ofKey, hdecision] at h
    have hending : (ofDecision key (.proceed (.make batch (c.templates.list key.ns selector)
        (c.childrenOf key)))).ending? =
          (Plan.make batch (c.templates.list key.ns selector) (c.childrenOf key)).verdict.map
            fun verdict => batch.withStatus verdict.status := ending?_prune _ _
    cases hverdict : (Plan.make batch (c.templates.list key.ns selector)
      (c.childrenOf key)).verdict with
    | some verdict =>
      rw [hverdict] at hending
      exact .inl (h.atRest_of_written (keyed.batches key batch hbatch) hending)
    | none =>
      rw [hverdict] at hending
      have hnext : c'.batches.get? key = some batch := by
        rw [h.unwritten hending]
        exact hbatch
      refine .inr ⟨batch, c.templates.list key.ns selector, hdecision, ?_, ?_, hverdict, ?_⟩
      · rw [Decision.make_eq_proceed hnext hpending hselector, h.templates]
      · exact Caches.nodup_names keyed.templates key.ns selector
      · refine h.followed hns keyed hbatch rfl ?_
        intro child hchild
        exact ((Plan.mem_extras_iff (Caches.nodup_childrenOf keyed.children) _).1 hchild).1

/-- After a pass the next one removes nothing that has not ended. -/
theorem sparesRunning (hns : key.ns ≠ "") (keyed : c.Keyed)
    (h : (ofKey c (.batch key)).Outcome env c c') : c'.SparesRunning key := by
  rcases h.next hns keyed with hrest | ⟨batch, templates, hcontinues⟩
  · exact hrest.sparesRunning
  · intro plan hdecision child hchild
    obtain rfl := Decision.proceed.inj (hcontinues.next.symm.trans hdecision)
    -- Where a plan was followed the children are in order, so there are none too many.
    have horderly := hcontinues.followed.orderly (Caches.nodup_childrenOf keyed.children)
      hcontinues.names
    rw [horderly.extras_eq_nil] at hchild
    cases hchild

/-- A pass that removes nothing that has not ended leaves nothing to do. -/
theorem atRest (hns : key.ns ≠ "") (keyed : c.Keyed) (spares : c.SparesRunning key)
    (h : (ofKey c (.batch key)).Outcome env c c') : c'.AtRest key := by
  rcases h.next hns keyed with hrest | ⟨batch, templates, hcontinues⟩
  · exact hrest
  · apply Caches.atRest_of_idle hcontinues.next
    exact hcontinues.followed.idle (Caches.nodup_childrenOf keyed.children) hcontinues.names
      hcontinues.verdict (spares _ hcontinues.decision)

end Outcome

/-! ## Pass after pass -/

/-- A number of passes over the batch of a key, one after the other, with nothing in between. -/
inductive Passes (env : Surroundings σ) (view : σ → Caches) (timeout : Duration)
    (key : ObjectKey) : Nat → σ → σ → Prop where
  | none (s : σ) : Passes env view timeout key 0 s s
  | pass {n : Nat} {s s' s'' : σ} {result : Except Error Unit}
      (h : Passes env view timeout key n s s')
      (hpass : PassEnds env view timeout key s' result s'') :
      Passes env view timeout key (n + 1) s s''

/-- A pass over the batch of a key that begins now asks for nothing, announces nothing, and ends
without a failure in the state that it began in. -/
structure Resting (env : Surroundings σ) (view : σ → Caches) (timeout : Duration)
    (key : ObjectKey) (s : σ) : Prop where
  silent : ∀ turns last, Path env timeout (ofKey (view s) (.batch key)) turns last →
    ∀ turn ∈ turns, turn.stage.isRequest = false
  same : ∀ result s', PassEnds env view timeout key s result s' → result = .ok () ∧ s' = s

variable {s s' : σ} {n : Nat}

theorem resting_of_atRest (h : (view s).AtRest key) : Resting env view timeout key s := by
  refine ⟨?_, ?_⟩
  · rw [h]
    intro turns last hpath
    generalize hstage : Stage.finished (.ok ()) = stage at hpath
    induction hpath with
    | rest => simp
    | turn now s hpath ih =>
      subst hstage
      intro turn hturn
      rcases List.mem_cons.1 hturn with rfl | hturn
      · rfl
      · exact ih rfl turn hturn
  · intro result s' hpass
    rw [PassEnds, h] at hpass
    exact hpass.of_finished

/-- What passes come to: after one of them no other removes anything that has not ended, and after
one that has removed no such thing nothing is left to do. -/
theorem Passes.comes_to_rest (obeys : env.Obeys view) (hns : key.ns ≠ "") (keyed : (view s).Keyed)
    (h : Passes env view timeout key n s s') :
    (view s').Keyed ∧ (1 ≤ n → (view s').SparesRunning key) ∧
      (2 ≤ n ∨ 1 ≤ n ∧ (view s).SparesRunning key → (view s').AtRest key) := by
  induction h with
  | none s => exact ⟨keyed, by omega, by omega⟩
  | @pass n s s' s'' result h hpass ih =>
    obtain ⟨hkeyed, hspares, -⟩ := ih keyed
    have houtcome := ((outcome_of_obeys obeys hns hkeyed.batches).2 _ _ hpass).2
    refine ⟨houtcome.keyed hkeyed, fun _ => houtcome.sparesRunning hns hkeyed, ?_⟩
    intro hn
    apply houtcome.atRest hns hkeyed
    by_cases hfirst : n = 0
    · -- The first pass is the one that has to remove nothing that has not ended.
      subst hfirst
      cases h
      rcases hn with hn | ⟨-, hstart⟩
      · omega
      · exact hstart
    · exact hspares (by omega)

/-- There can be any number of passes. -/
theorem exists_passes (obeys : env.Obeys view) (hns : key.ns ≠ "") (timeout : Duration)
    (keyed : (view s).Keyed) (n : Nat) : ∃ s', Passes env view timeout key n s s' := by
  induction n with
  | zero => exact ⟨s, .none s⟩
  | succ n ih =>
    obtain ⟨s', hpasses⟩ := ih
    have hkeyed := (hpasses.comes_to_rest obeys hns keyed).1
    obtain ⟨s'', hpass⟩ := (outcome_of_obeys obeys hns hkeyed.batches).1
    exact ⟨s'', .pass hpasses hpass⟩

/-- Where everything that is asked for is carried out and nothing else happens, there can be any
number of passes over a batch, and whatever there was at the start, every pass after the first two
has nothing to do. When the first pass sees no leftover and no duplicate that has not ended, every
pass after the first one has nothing to do. -/
theorem resting_of_passes (obeys : env.Obeys view) (hns : key.ns ≠ "") (keyed : (view s).Keyed)
    (timeout : Duration) :
    (∀ n, ∃ s', Passes env view timeout key n s s') ∧
      ∀ n s', Passes env view timeout key n s s' →
        (2 ≤ n → Resting env view timeout key s') ∧
          (1 ≤ n → (view s).SparesRunning key → Resting env view timeout key s') := by
  refine ⟨exists_passes obeys hns timeout keyed, ?_⟩
  intro n s' hpasses
  obtain ⟨-, -, hrest⟩ := hpasses.comes_to_rest obeys hns keyed
  constructor
  · intro hn
    exact resting_of_atRest (hrest (.inl hn))
  · intro hn hspares
    exact resting_of_atRest (hrest (.inr ⟨hn, hspares⟩))

end Stage

/-! ## A batch that has to wait for a leftover -/

section Leftover

/-- A small batch with one slot. -/
def narrowBatch : JobBatch :=
  { smallBatch with spec := { smallBatch.spec with maxConcurrent := 1 } }

/-- A child of an earlier batch of the same name. -/
def leftoverChild : Pod :=
  let manifest := narrowBatch.childManifest smallTemplate
  { manifest with
    metadata := { manifest.metadata with
      name := some "t-1"
      ownerReferences := some [{ narrowBatch.ownerReference with uid := "before" }] } }

/-- Caches in which a leftover holds the slot of a batch. -/
def crowdedCaches : Caches :=
  { batches := ⟨⟨[(⟨"n", "b"⟩, narrowBatch)], List.pairwise_singleton _ _⟩, true⟩
    templates := smallCaches.templates
    children := ⟨⟨[(⟨"n", "t-1"⟩, leftoverChild)], List.pairwise_singleton _ _⟩, true⟩ }

theorem keyed_crowdedCaches : crowdedCaches.Keyed :=
  ⟨Cache.keyed_singleton rfl true, Cache.keyed_singleton rfl true, Cache.keyed_singleton rfl true⟩

/-- Where the first pass comes to. -/
def afterFirst : Stage × Caches :=
  Stage.after Caches.store (.ofSeconds 10) [0]
    (.ofKey crowdedCaches (.batch ⟨"n", "b"⟩), crowdedCaches)

/-- The first pass only makes room, so the second one still has something to ask for. After that
there is nothing left to do. -/
theorem resting_after_leftover :
    (Stage.Passes Caches.store (fun c => c) (.ofSeconds 10) ⟨"n", "b"⟩ 1 crowdedCaches
        afterFirst.2 ∧ (Stage.ofKey afterFirst.2 (.batch ⟨"n", "b"⟩)).isRequest = true) ∧
      ∃ s', Stage.Passes Caches.store (fun c => c) (.ofSeconds 10) ⟨"n", "b"⟩ 2 crowdedCaches s' ∧
        Stage.Resting Caches.store (fun c => c) (.ofSeconds 10) ⟨"n", "b"⟩ s' := by
  have hns : (⟨"n", "b"⟩ : ObjectKey).ns ≠ "" := by decide
  have hrest := Stage.resting_of_passes Caches.obeys_store hns keyed_crowdedCaches (.ofSeconds 10)
  have hpass : PassEnds Caches.store (fun c => c) (.ofSeconds 10) ⟨"n", "b"⟩ crowdedCaches
      (.ok ()) afterFirst.2 := by
    have hdone : afterFirst.1 = .finished (.ok ()) :=
      Stage.eq_finished_of_isDone (by decide +kernel)
    refine .step 0 ?_
    show Stage.Ends _ _ afterFirst.1 afterFirst.2 (.ok ()) _
    rw [hdone]
    exact .finished _ _
  refine ⟨⟨.pass (.none _) hpass, by decide +kernel⟩, ?_⟩
  · obtain ⟨s', hpasses⟩ := hrest.1 2
    exact ⟨s', hpasses, (hrest.2 2 s' hpasses).1 (Nat.le_refl 2)⟩

end Leftover

end BatchOperator
