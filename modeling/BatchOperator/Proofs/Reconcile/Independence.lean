import BatchOperator.Proofs.Reconcile.Frame

/-!
# Passes over different batches

Passes over two batches do not get in each other's way. Each of them only asks for changes that
concern its own batch, and leaves all else as it is; so when both are made, one after the other,
they come to the same in either order (`Stage.passes_independent`), but for what the API server
makes up: names, UIDs, times of creation and resource versions (`Caches.AlikeSince`).

The second pass begins as if the first one had not been made, so both orders carry out the same two
scripts (`Stage.Succession`). What the one removes the other one neither made nor removed, so it
does not matter which of them comes first.
-/

set_option autoImplicit false

namespace BatchOperator

/-- A pod without what the API server makes up for it. -/
def Pod.anonymous (pod : Pod) : Pod :=
  { pod with
    metadata := { pod.metadata with
      name := none, uid := none, resourceVersion := none, creationTimestamp := none } }

/-- A batch without its resource version. -/
def JobBatch.unversioned (batch : JobBatch) : JobBatch :=
  { batch with metadata := { batch.metadata with resourceVersion := none } }

namespace Surroundings

variable {σ : Type} (env : Surroundings σ)

/-- What is made from one manifest differs only in what the API server makes up. -/
def Regular : Prop :=
  ∀ {manifest child other : Pod}, env.Makes manifest child → env.Makes manifest other →
    child.anonymous = other.anonymous

/-- Two entries hold children that were made from one manifest and differ only in what the API
server makes up. -/
structure Twins (entry other : ObjectKey × Pod) : Prop where
  made : ∃ manifest, env.IsMade manifest entry ∧ env.IsMade manifest other
  alike : entry.2.anonymous = other.2.anonymous

end Surroundings

/-- Since they were the same, two caches have come to differ only in what the API server makes up:
their children are those that both have kept, and as many that were made. -/
structure Caches.AlikeSince {σ : Type} (env : Surroundings σ) (start c c' : Caches) : Prop where
  templates : c.templates = start.templates ∧ c'.templates = start.templates
  batches : ∀ key, (c.batches.get? key).map JobBatch.unversioned =
    (c'.batches.get? key).map JobBatch.unversioned
  children : ∃ kept made made' : List (ObjectKey × Pod),
    kept.Sublist start.children.objects.entries ∧ List.Forall₂ env.Twins made made' ∧
      c.children.objects.entries.Perm (kept ++ made) ∧
      c'.children.objects.entries.Perm (kept ++ made')

/-- A pass over the batch of one key, and then one over that of another key, with nothing in
between. -/
def InTurn {σ : Type} (env : Surroundings σ) (view : σ → Caches) (timeout : Duration)
    (first second : ObjectKey) (s s' : σ) : Prop :=
  ∃ s₁ result result', PassEnds env view timeout first s result s₁ ∧
    PassEnds env view timeout second s₁ result' s'

variable {σ : Type} {env : Surroundings σ} {view : σ → Caches} {timeout : Duration}

/-- Children that were made from the same manifests are alike. -/
theorem Surroundings.Regular.twins (regular : env.Regular) {manifests : List Pod}
    {made made' : List (ObjectKey × Pod)} (h : List.Forall₂ env.IsMade manifests made)
    (h' : List.Forall₂ env.IsMade manifests made') : List.Forall₂ env.Twins made made' := by
  induction h generalizing made' with
  | nil =>
    cases h'
    exact .nil
  | @cons manifest entry manifests made hentry hmade ih =>
    cases h' with
    | cons hother hmade' =>
      exact .cons ⟨⟨manifest, hentry, hother⟩, regular hentry.makes hother.makes⟩ (ih hmade')

namespace Stage

variable {c c₁ c₂ d₁ d₂ : Caches} {key first second : ObjectKey}

/-- Passes over two batches, one after the other, each of which has carried out the script with
which it would have begun at first. -/
structure Succession (env : Surroundings σ) (first second : ObjectKey) (c c₁ c₂ : Caches) :
    Prop where
  fore : (ofKey c (.batch first)).Outcome env c c₁
  aft : (ofKey c (.batch second)).Outcome env c₁ c₂
  sameFore : c.SameBut first c₁
  sameAft : c₁.SameBut second c₂

/-- Two passes over different batches are a succession. -/
theorem succession_of_inTurn (obeys : env.Obeys view) (hfirst : first.ns ≠ "")
    (hsecond : second.ns ≠ "") {s s' : σ} (keyed : (view s).Keyed) (hne : first ≠ second)
    (h : InTurn env view timeout first second s s') :
    ∃ c, Succession env first second (view s) c (view s') := by
  obtain ⟨s₁, result, result', hpass, hpass'⟩ := h
  have hfore := ((outcome_of_obeys obeys hfirst keyed.batches).2 _ _ hpass).2
  have hkeyed := hfore.keyed keyed
  have haft := ((outcome_of_obeys obeys hsecond hkeyed.batches).2 _ _ hpass').2
  have hsame := (keepsTo_ofKey hfirst keyed).of_ends obeys.toExact hpass
  rw [hsame.ofKey_eq hne.symm] at haft
  exact ⟨view s₁, hfore, haft, hsame,
    (keepsTo_ofKey hsecond hkeyed).of_ends obeys.toExact hpass'⟩

/-- Passes over two batches can be made one after the other. -/
theorem exists_inTurn (obeys : env.Obeys view) (timeout : Duration) (hfirst : first.ns ≠ "")
    (hsecond : second.ns ≠ "") {s : σ} (keyed : (view s).Keyed) :
    ∃ s', InTurn env view timeout first second s s' := by
  obtain ⟨s₁, hpass⟩ : ∃ s₁, PassEnds env view timeout first s (.ok ()) s₁ :=
    (outcome_of_obeys obeys hfirst keyed.batches).1
  have hkeyed := ((outcome_of_obeys obeys hfirst keyed.batches).2 _ _ hpass).2.keyed keyed
  obtain ⟨s₂, hpass'⟩ : ∃ s₂, PassEnds env view timeout second s₁ (.ok ()) s₂ :=
    (outcome_of_obeys obeys hsecond hkeyed.batches).1
  exact ⟨s₂, s₁, _, _, hpass, hpass'⟩

/-- No two batches have a child to remove in common. -/
theorem notMem_removals_of_ne (hfirst : first.ns ≠ "") (hsecond : second.ns ≠ "")
    (keyed : c.Keyed) (hne : first ≠ second) {k : ObjectKey}
    (h : k ∈ (ofKey c (.batch second)).removals) : k ∉ (ofKey c (.batch first)).removals := by
  intro hk
  obtain ⟨child, hget, hns, hname⟩ := hasChild_of_mem_removals_ofKey hsecond keyed h
  obtain ⟨child', hget', hns', hname'⟩ := hasChild_of_mem_removals_ofKey hfirst keyed hk
  cases hget.symm.trans hget'
  have hsame : first.name = second.name := Option.some.inj (hname'.symm.trans hname)
  apply hne
  cases first
  cases second
  simp_all

namespace Succession

/-- The children after two passes: those that neither of them removes, and those that they make. -/
theorem children (hfirst : first.ns ≠ "") (hsecond : second.ns ≠ "") (keyed : c.Keyed)
    (hne : first ≠ second) (h : Succession env first second c c₁ c₂) :
    ∃ made made' : List (ObjectKey × Pod),
      List.Forall₂ env.IsMade (ofKey c (.batch first)).orders made ∧
      List.Forall₂ env.IsMade (ofKey c (.batch second)).orders made' ∧
      c₂.children.objects.entries.Perm (c.children.objects.entries.filter (fun entry =>
        entry.1 ∉ (ofKey c (.batch first)).removals ∧
          entry.1 ∉ (ofKey c (.batch second)).removals) ++ (made ++ made')) := by
  obtain ⟨made, hmade, hfresh, hperm⟩ := h.fore.children
  obtain ⟨made', hmade', -, hperm'⟩ := h.aft.children
  refine ⟨made, made', hmade, hmade', ?_⟩
  -- What the second pass removes was there at the start, so the first one has not made it.
  have hstays : made.filter (fun entry => entry.1 ∉ (ofKey c (.batch second)).removals) = made := by
    rw [List.filter_eq_self]
    intro entry hentry
    apply decide_eq_true
    intro hremoved
    rcases hfresh entry hentry with hnone | hgone
    · obtain ⟨child, hchild⟩ := hasChild_of_mem_removals_ofKey hsecond keyed hremoved
      cases hchild.1.symm.trans hnone
    · exact notMem_removals_of_ne hfirst hsecond keyed hne hremoved hgone
  have hkept := hperm.filter fun entry => entry.1 ∉ (ofKey c (.batch second)).removals
  rw [List.filter_append, hstays, List.filter_filter] at hkept
  refine (hperm'.trans (hkept.append_right made')).trans (List.Perm.of_eq ?_)
  rw [List.append_assoc]
  congr 1
  apply List.filter_congr
  intro entry _
  simp [Bool.and_comm]

/-- After two passes each of the two batches is as its own pass alone would have made it. -/
theorem batches (hne : first ≠ second) (keyed : c.Keyed)
    (h : Succession env first second c c₁ c₂) (h' : Succession env second first c d₁ d₂) :
    (c₂.batches.get? first).map JobBatch.unversioned =
      (d₂.batches.get? first).map JobBatch.unversioned := by
  have hbefore : c₂.batches.get? first = c₁.batches.get? first := h.sameAft.batches first hne
  have hafter : d₁.batches.get? first = c.batches.get? first := h'.sameFore.batches first hne
  rw [hbefore]
  cases hending : (ofKey c (.batch first)).ending? with
  | none =>
    rw [h.fore.unwritten hending, h'.aft.unwritten hending, hafter]
  | some sent =>
    obtain ⟨batch, status, hcurrent, rfl⟩ := current_of_ending?_ofKey keyed hending
    obtain ⟨k, stored, version, hk, hstored, hwritten⟩ := h.fore.written _ hending
    obtain ⟨k', stored', version', hk', hstored', hwritten'⟩ := h'.aft.written _ hending
    obtain rfl : first = k := Except.ok.inj (hcurrent.own.symm.trans hk)
    obtain rfl : first = k' := Except.ok.inj (hcurrent.own.symm.trans hk')
    -- The status is written to the same batch, and only its version may be another one.
    cases hstored.symm.trans (hafter.symm.trans hstored')
    rw [hwritten, hwritten']
    simp [Caches.withBatch, Caches.withBatches, Cache.get?, JobBatch.unversioned,
      JobBatch.rewritten]

/-- Two passes come to the same in either order. -/
theorem alikeSince (regular : env.Regular) (hfirst : first.ns ≠ "") (hsecond : second.ns ≠ "")
    (keyed : c.Keyed) (hne : first ≠ second) (h : Succession env first second c c₁ c₂)
    (h' : Succession env second first c d₁ d₂) : Caches.AlikeSince env c c₂ d₂ := by
  refine ⟨⟨?_, ?_⟩, ?_, ?_⟩
  · rw [h.sameAft.templates, h.sameFore.templates]
  · rw [h'.sameAft.templates, h'.sameFore.templates]
  · intro key
    by_cases hkey : key = first
    · subst hkey
      exact h.batches hne keyed h'
    · by_cases hkey' : key = second
      · subst hkey'
        exact (h'.batches hne.symm keyed h).symm
      · -- Neither of the passes is over this batch.
        rw [h.sameAft.batches key hkey', h.sameFore.batches key hkey, h'.sameAft.batches key hkey,
          h'.sameFore.batches key hkey']
  · obtain ⟨mine, yours, hmine, hyours, hperm⟩ := h.children hfirst hsecond keyed hne
    obtain ⟨yours', mine', hyours', hmine', hperm'⟩ := h'.children hsecond hfirst keyed hne.symm
    refine ⟨_, mine ++ yours, mine' ++ yours', List.filter_sublist, ?_, hperm, ?_⟩
    · exact List.rel_append (regular.twins hmine hmine') (regular.twins hyours hyours')
    · refine hperm'.trans ?_
      rw [List.filter_congr fun entry _ => decide_eq_decide.2 and_comm]
      exact List.perm_append_comm.append_left _

end Succession

/-- Passes over different batches are independent. A pass asks for nothing but changes that concern
its batch, however its calls are answered. When the changes are made as they are asked for, all else
is as it was at all times of the pass. When everything is carried out, passes over two batches can
be made in either order and come to the same. -/
theorem passes_independent {s : σ} (hfirst : first.ns ≠ "") (hsecond : second.ns ≠ "")
    (hne : first ≠ second) (keyed : (view s).Keyed) (timeout : Duration) :
    (∀ turns last, Path env timeout (ofKey (view s) (.batch first)) turns last →
      ∀ turn ∈ turns, ∀ call ∈ turn.calls env timeout, ∀ edit, call.edit? = some edit →
        edit.Concerns (view s) first) ∧
    (env.Exact view → ∀ moments, (view s).SameBut first
      (view (after env timeout moments (ofKey (view s) (.batch first), s)).2)) ∧
    (env.Obeys view → env.Regular →
      (∃ s', InTurn env view timeout first second s s') ∧
      (∃ s', InTurn env view timeout second first s s') ∧
      ∀ s₁ s₂, InTurn env view timeout first second s s₁ →
        InTurn env view timeout second first s s₂ →
          Caches.AlikeSince env (view s) (view s₁) (view s₂)) := by
  refine ⟨?_, ?_, ?_⟩
  · intro turns last hpath turn hturn call hcall edit hedit
    exact hpath.concerns_of_mem_calls hfirst keyed hturn hcall hedit
  · intro exact moments
    exact ((keepsTo_ofKey hfirst keyed).after exact timeout moments).same
  · intro obeys regular
    refine ⟨exists_inTurn obeys timeout hfirst hsecond keyed,
      exists_inTurn obeys timeout hsecond hfirst keyed, ?_⟩
    intro s₁ s₂ hturn hturn'
    obtain ⟨c₁, hsuccession⟩ := succession_of_inTurn obeys hfirst hsecond keyed hne hturn
    obtain ⟨d₁, hsuccession'⟩ := succession_of_inTurn obeys hsecond hfirst keyed hne.symm hturn'
    exact hsuccession.alikeSince regular hfirst hsecond keyed hne hsuccession'

end Stage

/-! ## Two batches and a template that takes sides -/

/-- In caches that are their own store, what is made up for a child is its name. -/
theorem Caches.regular_store : store.Regular := by
  rintro manifest child other ⟨s, s', hcall⟩ ⟨t, t', hcall'⟩
  cases hcall
  cases hcall'
  rfl

section Rivals

/-- Another batch that selects the same template. -/
def rivalBatch : JobBatch :=
  { smallBatch with metadata := { name := some "c", ns := some "n", uid := some "v" } }

/-- A template whose pod has a label that names one of the batches. -/
def partialTemplate : JobTemplate :=
  { smallTemplate with
    template :=
      { metadata := some { labels := some ⟨[(batchLabel, "c")], List.pairwise_singleton _ _⟩ } } }

/-- Caches with both batches and the template. -/
def rivalCaches : Caches :=
  { batches := ⟨⟨[(⟨"n", "b"⟩, smallBatch), (⟨"n", "c"⟩, rivalBatch)], by decide⟩, true⟩
    templates := ⟨⟨[(⟨"n", "t"⟩, partialTemplate)], List.pairwise_singleton _ _⟩, true⟩ }

theorem keyed_rivalCaches : rivalCaches.Keyed := by
  refine ⟨?_, Cache.keyed_singleton rfl true, Cache.keyed_empty false⟩
  intro key batch hget
  have hmem := OrderedMap.mem_entries_iff.2 hget
  rcases List.mem_cons.1 hmem with hfirst | hmem
  · cases hfirst
    rfl
  · cases List.mem_singleton.1 hmem
    rfl

/-- Both batches start a child from the template, each for itself, and it does not matter which of
them comes first. -/
theorem rivals_independent :
    (∀ key ∈ [(⟨"n", "b"⟩ : ObjectKey), ⟨"n", "c"⟩],
      (Stage.ofKey rivalCaches (.batch key)).orders.map Pod.batchName = [some key.name]) ∧
    (∀ moments, rivalCaches.SameBut ⟨"n", "b"⟩ (Stage.after Caches.store (.ofSeconds 10) moments
      (.ofKey rivalCaches (.batch ⟨"n", "b"⟩), rivalCaches)).2) ∧
    ∃ s₁ s₂, InTurn Caches.store (fun c => c) (.ofSeconds 10) ⟨"n", "b"⟩ ⟨"n", "c"⟩ rivalCaches s₁ ∧
      InTurn Caches.store (fun c => c) (.ofSeconds 10) ⟨"n", "c"⟩ ⟨"n", "b"⟩ rivalCaches s₂ ∧
      Caches.AlikeSince Caches.store rivalCaches s₁ s₂ := by
  obtain ⟨-, hsame, hturns⟩ := @Stage.passes_independent _ Caches.store (fun c => c) ⟨"n", "b"⟩
    ⟨"n", "c"⟩ rivalCaches (by decide) (by decide) (by decide) keyed_rivalCaches (.ofSeconds 10)
  obtain ⟨⟨s₁, h₁⟩, ⟨s₂, h₂⟩, halike⟩ := hturns Caches.obeys_store Caches.regular_store
  refine ⟨by decide +kernel, hsame Caches.obeys_store.toExact, s₁, s₂, h₁, h₂, ?_⟩
  exact halike s₁ s₂ h₁ h₂

end Rivals

end BatchOperator
