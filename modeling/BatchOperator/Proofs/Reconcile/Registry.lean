import BatchOperator.Proofs.Reconcile.Recorded

/-!
# The batch of a key at the API server

`Registry` holds the batch of a key as it is stored and every version of it that there ever was.
Every write gives the batch a resource version that was never used before, so a resource version
tells which version it was (`Registry.Sound`). `Surroundings.Guards` says that a status is only
written over the version that was sent.
-/

set_option autoImplicit false

namespace BatchOperator

/-- The batch of a key, if it is there, and all versions of it that there ever were. A batch that
was deleted and made anew is another one, and has another UID. -/
structure Registry where
  current : Option JobBatch
  versions : List JobBatch

namespace Registry

variable {key : ObjectKey} {batch : JobBatch} {r r' : Registry}

/-- The batch as it is stored is one of its versions, and no two versions have the same resource
version. -/
structure Sound (key : ObjectKey) (r : Registry) : Prop where
  current : ∀ batch, r.current = some batch → batch ∈ r.versions
  keys : ∀ batch ∈ r.versions, Resource.key batch = .ok key
  distinct : ∀ a ∈ r.versions, ∀ b ∈ r.versions,
    a.metadata.resourceVersion = b.metadata.resourceVersion → a = b

/-- A batch is stored with a resource version that was never used before. -/
structure Puts (batch : JobBatch) (r r' : Registry) : Prop where
  fresh : ∀ b ∈ r.versions, b.metadata.resourceVersion ≠ batch.metadata.resourceVersion
  current : r'.current = some batch
  versions : r'.versions = batch :: r.versions

theorem Sound.puts (h : r.Sound key) (hkey : Resource.key batch = .ok key)
    (hputs : Puts batch r r') : r'.Sound key := by
  refine ⟨?_, ?_, ?_⟩ <;> simp only [hputs.current, hputs.versions]
  · rintro b hb
    cases hb
    exact List.mem_cons_self
  · intro b hb
    rcases List.mem_cons.1 hb with rfl | hb
    · exact hkey
    · exact h.keys b hb
  · intro a ha b hb hab
    rcases List.mem_cons.1 ha with ha | ha <;> rcases List.mem_cons.1 hb with hb | hb
    · rw [ha, hb]
    · rw [ha] at hab
      exact absurd hab.symm (hputs.fresh b hb)
    · rw [hb] at hab
      exact absurd hab (hputs.fresh a ha)
    · exact h.distinct a ha b hb hab

/-- What others may do to the batch: they change it but not its status, delete it, or make one with
a new UID. -/
inductive Elsewhere (key : ObjectKey) : Registry → Registry → Prop where
  | idles (r : Registry) : Elsewhere key r r
  | changes {r r' : Registry} {old new : JobBatch} (hold : r.current = some old)
      (huid : new.metadata.uid = old.metadata.uid) (hstatus : new.status = old.status)
      (hkey : Resource.key new = .ok key) (hputs : Puts new r r') : Elsewhere key r r'
  | deletes (r : Registry) : Elsewhere key r { r with current := none }
  | makes {r r' : Registry} {new : JobBatch} (hold : r.current = none)
      (huid : ∀ b ∈ r.versions, b.metadata.uid ≠ new.metadata.uid)
      (hkey : Resource.key new = .ok key) (hputs : Puts new r r') : Elsewhere key r r'

theorem Sound.elsewhere (h : r.Sound key) (helse : Elsewhere key r r') : r'.Sound key := by
  cases helse with
  | idles => exact h
  | changes hold huid hstatus hkey hputs => exact h.puts hkey hputs
  | deletes => exact ⟨by simp, h.keys, h.distinct⟩
  | makes hold huid hkey hputs => exact h.puts hkey hputs

/-- What others do takes no version away. -/
theorem Elsewhere.versions (helse : Elsewhere key r r') : ∀ b ∈ r.versions, b ∈ r'.versions := by
  intro b hb
  cases helse with
  | idles => exact hb
  | deletes => exact hb
  | changes _ _ _ _ hputs | makes _ _ _ hputs =>
    rw [hputs.versions]
    exact List.mem_cons_of_mem _ hb

/-- A batch that is stored after others did something is as complete as that incarnation was before,
or is an incarnation that was never there. -/
theorem Elsewhere.current (helse : Elsewhere key r r') {batch : JobBatch}
    (hbatch : r'.current = some batch) :
    (∃ old, r.current = some old ∧ batch.metadata.uid = old.metadata.uid ∧
        batch.status = old.status) ∨
      ∀ b ∈ r.versions, b.metadata.uid ≠ batch.metadata.uid := by
  cases helse with
  | idles => exact .inl ⟨batch, hbatch, rfl, rfl⟩
  | changes hold huid hstatus _ hputs =>
    cases hputs.current.symm.trans hbatch
    exact .inl ⟨_, hold, huid, hstatus⟩
  | deletes => cases hbatch
  | makes _ huid _ hputs =>
    cases hputs.current.symm.trans hbatch
    exact .inr huid

end Registry

/-- A status is written only if the resource version that is sent is the one that is stored; the
batch gets the status and a resource version that was never used before. Nothing else that a pass
asks for touches the batch. -/
structure Surroundings.Guards {σ : Type} (env : Surroundings σ) (registry : σ → Registry)
    (key : ObjectKey) : Prop where
  accepted : ∀ {sent answer : JobBatch} {s s' : σ}, env.replaceStatus sent s = (.ok answer, s') →
    Resource.key sent = .ok key →
    ∃ stored version, (registry s).current = some stored ∧
      stored.metadata.resourceVersion = sent.metadata.resourceVersion ∧
      (registry s).Puts (stored.rewritten sent.status version) (registry s')
  refused : ∀ {sent : JobBatch} {e : Error} {s s' : σ},
    env.replaceStatus sent s = (.error e, s') → registry s' = registry s
  createChild : ∀ manifest s, registry (env.createChild manifest s).2 = registry s
  listChildren : ∀ ns query s, registry (env.listChildren ns query s).2 = registry s
  deleteChild : ∀ child s, registry (env.deleteChild child s).2 = registry s
  publish : ∀ notification s, registry (env.publish notification s) = registry s
  count : ∀ count s, registry (env.count count s) = registry s

/-- A status that is accepted is written over the very version that it was sent with. -/
theorem Registry.Sound.accepted {σ : Type} {env : Surroundings σ} {registry : σ → Registry}
    {key : ObjectKey} {batch answer : JobBatch} {status : BatchStatus} {s s' : σ}
    (h : (registry s).Sound key) (guards : env.Guards registry key)
    (hknown : batch ∈ (registry s).versions)
    (hanswer : env.replaceStatus (batch.withStatus status) s = (.ok answer, s')) :
    ∃ version, (registry s).current = some batch ∧
      (registry s).Puts (batch.rewritten (some status) version) (registry s') := by
  have hkey : Resource.key (batch.withStatus status) = .ok key := h.keys batch hknown
  obtain ⟨stored, version, hcurrent, hversion, hputs⟩ := guards.accepted hanswer hkey
  have hsame : stored = batch :=
    h.distinct stored (h.current stored hcurrent) batch hknown hversion
  subst hsame
  exact ⟨version, hcurrent, hputs⟩

end BatchOperator
