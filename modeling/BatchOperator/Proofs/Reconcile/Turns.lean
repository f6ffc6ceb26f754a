import BatchOperator.Proofs.Reconcile.Surroundings

/-!
# The turns of a pass

A turn is one step of a pass: when it is made, at which stage and with what outside. A `Stage.Path`
is a pass from one stage to another, turn by turn. Nothing ties what is outside at one turn to what
it was at the turn before, so anything may have happened there in between, and the API server may
answer every request as it likes.

A pass has orders for children and may have a status to write. A turn fails, brings the child of the
next order, writes the status, or leaves both as they are (`Turn.effect`). So a pass that ends well
has brought a child for each of its orders and written its status (`Stage.Path.done`), and whatever
is sent to be written is the status that the pass began with (`Stage.Path.ending?_eq_of_sent?`).
-/

set_option autoImplicit false

namespace BatchOperator

/-! ## What a pass has before it -/

namespace Agenda

/-- The manifests of the children that are still to be started. -/
def orders (agenda : Agenda) : List Pod := agenda.starts.map agenda.batch.childManifest

/-- The batch with the status that it will be given, if there is a verdict. -/
def ending? (agenda : Agenda) : Option JobBatch :=
  agenda.verdict.map fun verdict => agenda.batch.withStatus verdict.status

end Agenda

namespace Stage

/-- The manifests of the children that a pass has still to bring. -/
def orders : Stage → List Pod
  | .pruning _ _ agenda | .announcing _ _ agenda | .confirming _ _ _ agenda => agenda.orders
  | .starting template agenda | .adopting template _ agenda =>
    agenda.batch.childManifest template :: agenda.orders
  | .purging .. | .complaining .. | .closing .. | .reporting _ | .finished _ => []

/-- The batch with the status that a pass has still to write. -/
def ending? : Stage → Option JobBatch
  | .pruning _ _ agenda | .starting _ agenda | .announcing _ _ agenda | .adopting _ _ agenda
  | .confirming _ _ _ agenda => agenda.ending?
  | .closing verdict batch => some (batch.withStatus verdict.status)
  | .purging .. | .complaining .. | .reporting _ | .finished _ => none

/-- The child that has to be seen in the cache before a pass goes on. -/
def awaited? : Stage → Option ObjectKey
  | .announcing child _ _ => some (childKey child)
  | .confirming child _ _ _ => some child
  | _ => none

/-- Whether a pass can only end with a failure. -/
def isFailing : Stage → Bool
  | .complaining .. | .finished (.error _) => true
  | _ => false

/-- Every wait for a child is one of the time that a child may take. -/
def IsTimed (timeout : Duration) : Stage → Prop
  | .confirming _ poll _ _ => poll.timeout = timeout
  | _ => True

theorem isTimed_proceed {timeout : Duration} (agenda : Agenda) :
    agenda.proceed.IsTimed timeout := by
  unfold Agenda.proceed
  split
  · trivial
  · split <;> trivial

theorem isTimed_prune {timeout : Duration} (agenda : Agenda) (extras : List ObjectKey) :
    (agenda.prune extras).IsTimed timeout := by
  cases extras with
  | nil => exact isTimed_proceed agenda
  | cons => trivial

theorem isTimed_purge {timeout : Duration} (children : List ObjectKey) :
    (purge children).IsTimed timeout := by
  cases children <;> trivial

theorem isTimed_ofKey {timeout : Duration} (c : Caches) (key : ObjectKey) :
    (ofKey c (.batch key)).IsTimed timeout := by
  simp only [ofKey]
  cases Decision.make c key with
  | purge children => exact isTimed_purge _
  | rest => trivial
  | refuse batch fault => trivial
  | proceed plan => exact isTimed_prune _ _

@[simp] theorem orders_proceed (agenda : Agenda) : agenda.proceed.orders = agenda.orders := by
  unfold Agenda.proceed
  split
  · rename_i h
    simp [Agenda.orders, orders, h]
  · rename_i h
    split <;> simp [Agenda.orders, orders, h]

@[simp] theorem orders_prune (agenda : Agenda) (extras : List ObjectKey) :
    (agenda.prune extras).orders = agenda.orders := by
  cases extras with
  | nil => exact orders_proceed agenda
  | cons => rfl

@[simp] theorem orders_purge (children : List ObjectKey) : (purge children).orders = [] := by
  cases children <;> rfl

@[simp] theorem ending?_proceed (agenda : Agenda) : agenda.proceed.ending? = agenda.ending? := by
  unfold Agenda.proceed
  split
  · rfl
  · split
    · rename_i h
      simp [Agenda.ending?, ending?, h]
    · rename_i h
      simp [Agenda.ending?, ending?, h]

@[simp] theorem ending?_prune (agenda : Agenda) (extras : List ObjectKey) :
    (agenda.prune extras).ending? = agenda.ending? := by
  cases extras with
  | nil => exact ending?_proceed agenda
  | cons => rfl

@[simp] theorem ending?_purge (children : List ObjectKey) : (purge children).ending? = none := by
  cases children <;> rfl

/-- What a look that does not see the child comes to. -/
theorem afterLook_unseen (now : Instant) (child : ObjectKey) (poll : Poll) (moment : Instant)
    (agenda : Agenda) :
    afterLook now false child poll moment agenda =
      if now < moment then .confirming child poll moment agenda
      else if poll.timeout.nanoseconds ≤ now - poll.start then .finished (.error poll.expiry)
      else .confirming child poll (now + poll.interval.nanoseconds) agenda := by
  unfold afterLook
  split
  · rfl
  · by_cases h : poll.timeout.nanoseconds ≤ now - poll.start
    · have hjudge : poll.judge now (if false = true then some () else none) = .expired := by
        simp [Poll.judge, h]
      rw [hjudge, if_pos h]
    · have hjudge : poll.judge now (if false = true then some () else none) =
          .again (now + poll.interval.nanoseconds) := by
        simp [Poll.judge, h]
      rw [hjudge, if_neg h]

theorem ending?_of_isFailing {stage : Stage} (h : stage.isFailing = true) :
    stage.ending? = none := by
  cases stage <;> first | rfl | cases h

theorem orders_of_isFailing {stage : Stage} (h : stage.isFailing = true) : stage.orders = [] := by
  cases stage <;> first | rfl | cases h

end Stage

/-! ## Turns -/

/-- One step of a pass: when it is made, at which stage and with what outside. -/
structure Turn (σ : Type) where
  now : Instant
  stage : Stage
  outside : σ

namespace Turn

variable {σ : Type} (env : Surroundings σ) (timeout : Duration) (turn : Turn σ)

/-- The stage that the pass comes to. -/
def next : Stage := (turn.stage.step env timeout turn.now turn.outside).1

/-- The child that is created, behind the manifest that it is created from. -/
def created? : Option (Pod × Pod) :=
  match turn.stage with
  | .starting template agenda =>
    let manifest := agenda.batch.childManifest template
    (env.createChild manifest turn.outside).1.toOption.map fun child => (manifest, child)
  | _ => none

/-- The child that is adopted, behind the manifest that one was to be created from. -/
def adopted? : Option (Pod × Pod) :=
  match turn.stage with
  | .adopting template _ agenda =>
    let query := Stage.adoptionQuery agenda.batch template.name
    ((env.listChildren agenda.batch.metadata.nsOrDefault query turn.outside).1.toOption.bind
      (Stage.firstOwned agenda.batch)).map fun child => (agenda.batch.childManifest template, child)
  | _ => none

/-- The child that is created or adopted. -/
def brought? : Option (Pod × Pod) := (turn.created? env).or (turn.adopted? env)

/-- The batch that is sent to have its status written. -/
def sent? : Option JobBatch :=
  match turn.stage with
  | .closing verdict batch => some (batch.withStatus verdict.status)
  | _ => none

/-- The batch that is sent, if its status is written. -/
def written? : Option JobBatch :=
  turn.sent?.filter fun sent => (env.replaceStatus sent turn.outside).1.isOk

/-- Whether the child of a template is created. -/
def createsFor (template : String) : Bool :=
  (turn.created? env).any fun made => made.1.templateName == some template

/-- The wait for a child is given up: it has taken the time that a child may take to be seen, and
the child is still not seen. The pass fails. -/
structure GivesUp (child : ObjectKey) (poll : Poll) : Prop where
  stage : ∃ moment agenda, turn.stage = .confirming child poll moment agenda
  unseen : env.sees child turn.outside = false
  allowed : poll.timeout = timeout
  waited : timeout.nanoseconds ≤ turn.now - poll.start
  failed : turn.next env timeout = .finished (.error poll.expiry)

/-- What a turn can come to. -/
inductive Effect : Prop where
  /-- The pass fails. -/
  | fails (hnext : (turn.next env timeout).isFailing = true)
      (hbrought : turn.brought? env = none) (hwritten : turn.written? env = none)
  /-- The child of the next order is brought, and the pass waits for it to be seen. -/
  | brings (manifest child : Pod) (hbrought : turn.brought? env = some (manifest, child))
      (hwritten : turn.written? env = none)
      (horders : turn.stage.orders = manifest :: (turn.next env timeout).orders)
      (hending : (turn.next env timeout).ending? = turn.stage.ending?)
      (hawaited : (turn.next env timeout).awaited? = some (Stage.childKey child))
  /-- The status is written, and nothing is left to do. -/
  | writes (sent : JobBatch) (hbrought : turn.brought? env = none)
      (hwritten : turn.written? env = some sent) (hsent : turn.stage.ending? = some sent)
      (horders : turn.stage.orders = []) (hnext : (turn.next env timeout).orders = [])
      (hending : (turn.next env timeout).ending? = none)
  /-- As much is left to do as there was. -/
  | idles (hbrought : turn.brought? env = none) (hwritten : turn.written? env = none)
      (horders : (turn.next env timeout).orders = turn.stage.orders)
      (hending : (turn.next env timeout).ending? = turn.stage.ending?)

/-- What a look for a child comes to. -/
theorem next_confirming (now : Instant) (s : σ) (child : ObjectKey) (poll : Poll)
    (moment : Instant) (agenda : Agenda) :
    Turn.next env timeout ⟨now, .confirming child poll moment agenda, s⟩ =
      Stage.afterLook now (env.sees child s) child poll moment agenda := by
  rw [Turn.next, Stage.step_confirming]

/-- Every turn fails, brings a child, writes the status or leaves as much to do as there was. -/
theorem effect : turn.Effect env timeout := by
  obtain ⟨now, stage, s⟩ := turn
  cases stage with
  | purging next others =>
    rcases h : env.deleteChild next s with ⟨e | ⟨⟩, s'⟩
    · exact .fails (by simp [Turn.next, Stage.step, h, Stage.isFailing]) rfl rfl
    · have hnext : Turn.next env timeout ⟨now, .purging next others, s⟩ = Stage.purge others := by
        simp [Turn.next, Stage.step, h]
      exact .idles rfl rfl (by rw [hnext]; exact Stage.orders_purge others)
        (by rw [hnext]; exact Stage.ending?_purge others)
  | pruning next others agenda =>
    -- Whether the removal succeeds does not matter.
    exact .idles rfl rfl (Stage.orders_prune agenda others) (Stage.ending?_prune agenda others)
  | starting template agenda =>
    rcases h : env.createChild (agenda.batch.childManifest template) s with ⟨e | child, s'⟩
    · have hnone : Turn.brought? env ⟨now, .starting template agenda, s⟩ = none := by
        simp [brought?, created?, adopted?, h, Except.toOption]
      by_cases he : e.isAlreadyExists = true
      · -- The order stays one until the child that is in the way has been adopted.
        refine .idles hnone rfl ?_ ?_ <;>
          simp [Turn.next, Stage.step, h, he, Stage.orders, Stage.ending?]
      · exact .fails (by simp [Turn.next, Stage.step, h, he, Stage.isFailing]) hnone rfl
    · refine .brings (agenda.batch.childManifest template) child ?_ rfl ?_ ?_ ?_
      · simp [brought?, created?, h, Except.toOption]
      all_goals simp [Turn.next, Stage.step, h, Stage.orders, Stage.ending?, Stage.awaited?]
  | announcing child template agenda => exact .idles rfl rfl rfl rfl
  | complaining template refusal batch => exact .fails rfl rfl rfl
  | adopting template refusal agenda =>
    rcases h : env.listChildren agenda.batch.metadata.nsOrDefault
      (Stage.adoptionQuery agenda.batch template.name) s with ⟨e | listed, s'⟩
    · refine .fails ?_ ?_ rfl
      · simp [Turn.next, Stage.step, h, Stage.isFailing]
      · simp [brought?, created?, adopted?, h, Except.toOption]
    · cases hfirst : Stage.firstOwned agenda.batch listed with
      | none =>
        -- What is in the way belongs to somebody else.
        refine .fails ?_ ?_ rfl
        · simp [Turn.next, Stage.step, h, hfirst, Stage.isFailing]
        · simp [brought?, created?, adopted?, h, hfirst, Except.toOption]
      | some child =>
        refine .brings (agenda.batch.childManifest template) child ?_ rfl ?_ ?_ ?_
        · simp [brought?, created?, adopted?, h, hfirst, Except.toOption]
        all_goals
          simp [Turn.next, Stage.step, h, hfirst, Stage.confirm, Stage.orders, Stage.ending?,
            Stage.awaited?]
  | confirming child poll moment agenda =>
    -- A look brings nothing, whether the pass goes on waiting, goes on, or gives up.
    have hnext := next_confirming env timeout now s child poll moment agenda
    simp only [Stage.afterLook] at hnext
    split at hnext
    · exact .idles rfl rfl (by rw [hnext]) (by rw [hnext])
    · split at hnext
      · exact .idles rfl rfl (by rw [hnext]; exact Stage.orders_proceed agenda)
          (by rw [hnext]; exact Stage.ending?_proceed agenda)
      · exact .fails (by rw [hnext]; rfl) rfl rfl
      · exact .idles rfl rfl (by rw [hnext]; rfl) (by rw [hnext]; rfl)
  | closing verdict batch =>
    rcases h : env.replaceStatus (batch.withStatus verdict.status) s with ⟨e | answer, s'⟩
    · refine .fails ?_ rfl ?_
      · simp [Turn.next, Stage.step, h, Stage.isFailing]
      · simp [written?, sent?, h, Except.isOk, Except.toBool]
    · refine .writes (batch.withStatus verdict.status) rfl ?_ rfl rfl ?_ ?_
      · simp [written?, sent?, h, Except.isOk, Except.toBool]
      all_goals simp [Turn.next, Stage.step, h, Stage.orders, Stage.ending?]
  | reporting notification => exact .idles rfl rfl rfl rfl
  | finished result =>
    cases result with
    | error e => exact .fails rfl rfl rfl
    | ok => exact .idles rfl rfl rfl rfl

/-- What a turn can bring is the child of the next order, and the pass then waits for it. -/
theorem of_brought? {manifest child : Pod} (h : turn.brought? env = some (manifest, child)) :
    turn.stage.orders = manifest :: (turn.next env timeout).orders ∧
      (turn.next env timeout).awaited? = some (Stage.childKey child) := by
  cases turn.effect env timeout with
  | brings manifest' child' hbrought _ horders _ hawaited =>
    obtain ⟨rfl, rfl⟩ := Prod.mk.inj (Option.some.inj (hbrought.symm.trans h))
    exact ⟨horders, hawaited⟩
  | fails _ hnone | writes _ hnone | idles hnone => cases hnone.symm.trans h

/-- A child that is created is one that the API server has made from the next order. -/
theorem of_created? {manifest child : Pod} (h : turn.created? env = some (manifest, child)) :
    turn.brought? env = some (manifest, child) ∧
      ∃ s', env.createChild manifest turn.outside = (.ok child, s') ∧
        (turn.stage.step env timeout turn.now turn.outside).2 = env.count .childCreated s' := by
  refine ⟨by rw [brought?, h]; rfl, ?_⟩
  obtain ⟨now, stage, s⟩ := turn
  cases stage with
  | starting template agenda =>
    rcases hcall : env.createChild (agenda.batch.childManifest template) s with ⟨e | made, s'⟩
    · simp [created?, hcall, Except.toOption] at h
    · simp only [created?, hcall, Except.toOption, Option.map_some, Option.some.injEq,
        Prod.mk.injEq] at h
      obtain ⟨rfl, rfl⟩ := h
      exact ⟨s', hcall, by simp only [Stage.step, hcall]⟩
  | purging | pruning | announcing | complaining | adopting | confirming | closing | reporting
  | finished => cases h

theorem createsFor_iff {template : String} : turn.createsFor env template = true ↔
    ∃ manifest child, turn.created? env = some (manifest, child) ∧
      manifest.templateName = some template := by
  simp [createsFor, Option.any_eq_true, Prod.exists]

/-- No turn has a pass bring more than it had to bring before. -/
theorem orders_next_sublist : (turn.next env timeout).orders.Sublist turn.stage.orders := by
  cases turn.effect env timeout with
  | fails hnext => exact (Stage.orders_of_isFailing hnext) ▸ List.nil_sublist _
  | brings _ _ _ _ horders => exact horders ▸ List.sublist_cons_self _ _
  | writes _ _ _ _ _ hnext => exact hnext ▸ List.nil_sublist _
  | idles _ _ horders => exact horders ▸ List.Sublist.refl _

/-- A status that is still to be written after a turn was to be written before. -/
theorem ending?_of_next {sent : JobBatch} (h : (turn.next env timeout).ending? = some sent) :
    turn.stage.ending? = some sent := by
  cases turn.effect env timeout with
  | fails hnext => cases (Stage.ending?_of_isFailing hnext).symm.trans h
  | brings _ _ _ _ _ hending => exact hending ▸ h
  | writes _ _ _ _ _ _ hending => cases hending.symm.trans h
  | idles _ _ _ hending => exact hending ▸ h

/-- What is sent is the status that is still to be written. -/
theorem ending?_of_sent? {sent : JobBatch} (h : turn.sent? = some sent) :
    turn.stage.ending? = some sent := by
  unfold sent? at h
  split at h
  · rename_i hstage
    rw [hstage]
    exact h
  · cases h

/-- A pass that can only fail does so at every turn. -/
theorem isFailing_next (h : turn.stage.isFailing = true) :
    (turn.next env timeout).isFailing = true := by
  obtain ⟨now, stage, s⟩ := turn
  cases stage with
  | complaining template refusal batch => rfl
  | finished result => exact h
  | purging | pruning | starting | announcing | adopting | confirming | closing | reporting =>
    cases h

/-- A child that is awaited goes on being awaited, is seen, or is given up. -/
theorem awaited?_next {child : ObjectKey} (htimed : turn.stage.IsTimed timeout)
    (h : turn.stage.awaited? = some child) :
    (turn.next env timeout).awaited? = some child ∨ env.sees child turn.outside = true ∨
      ∃ poll, turn.GivesUp env timeout child poll := by
  obtain ⟨now, stage, s⟩ := turn
  cases stage with
  | announcing pod template agenda => exact .inl h
  | confirming key poll moment agenda =>
    obtain rfl : key = child := Option.some.inj h
    have hnext := next_confirming env timeout now s key poll moment agenda
    cases hsees : env.sees key s with
    | true => exact .inr (.inl rfl)
    | false =>
      rw [hsees, Stage.afterLook_unseen] at hnext
      split at hnext
      · exact .inl (by rw [hnext]; rfl)
      · split at hnext
        · rename_i hlong
          have hallowed : poll.timeout = timeout := htimed
          rw [hallowed] at hlong
          exact .inr (.inr ⟨poll, ⟨moment, agenda, rfl⟩, hsees, hallowed, hlong, hnext⟩)
        · exact .inl (by rw [hnext]; rfl)
  | purging | pruning | starting | complaining | adopting | closing | reporting | finished =>
    cases h

/-- Every wait is one of the time that a child may take. -/
theorem isTimed_next (h : turn.stage.IsTimed timeout) :
    (turn.next env timeout).IsTimed timeout := by
  obtain ⟨now, stage, s⟩ := turn
  cases stage with
  | purging next others =>
    simp only [Turn.next, Stage.step]
    split
    · exact Stage.isTimed_purge others
    · trivial
  | pruning next others agenda => exact Stage.isTimed_prune agenda others
  | starting template agenda =>
    simp only [Turn.next, Stage.step]
    split
    · trivial
    · split <;> trivial
  | announcing child template agenda => exact rfl
  | complaining template refusal batch => trivial
  | adopting template refusal agenda =>
    simp only [Turn.next, Stage.step]
    split
    · trivial
    · split
      · exact rfl
      · trivial
  | confirming child poll moment agenda =>
    rw [next_confirming, Stage.afterLook]
    split
    · exact h
    · split
      · exact Stage.isTimed_proceed agenda
      · trivial
      · exact h
  | closing verdict batch =>
    simp only [Turn.next, Stage.step]
    split <;> trivial
  | reporting notification => trivial
  | finished result => trivial

end Turn

/-! ## Passes -/

/-- What every answer keeps every step keeps. -/
theorem Stage.step_keeps {σ : Type} {env : Surroundings σ} {P : σ → Prop} (keeps : env.Keeps P)
    (timeout : Duration) (now : Instant) {s : σ} (h : P s) (stage : Stage) :
    P (stage.step env timeout now s).2 := by
  cases stage with
  | purging next others =>
    have hnext := keeps.deleteChild next h
    simp only [step]
    split <;> exact hnext
  | pruning next others agenda => exact keeps.deleteChild next h
  | starting template agenda =>
    have hnext := keeps.createChild (agenda.batch.childManifest template) h
    simp only [step]
    split
    · exact keeps.count .childCreated hnext
    · split <;> exact hnext
  | announcing child template agenda => exact keeps.publish _ h
  | complaining template refusal batch => exact keeps.publish _ h
  | adopting template refusal agenda =>
    have hnext := keeps.listChildren agenda.batch.metadata.nsOrDefault
      (adoptionQuery agenda.batch template.name) h
    simp only [step]
    split
    · exact hnext
    · split <;> exact hnext
  | confirming child poll moment agenda =>
    rw [step_confirming]
    exact h
  | closing verdict batch =>
    have hnext := keeps.replaceStatus (batch.withStatus verdict.status) h
    simp only [step]
    split
    · exact hnext
    · exact keeps.count _ hnext
  | reporting notification => exact keeps.publish notification h
  | finished result => exact h

/-- A pass from one stage to another, with its turns. Nothing ties what is outside at a turn to what
was there before. -/
inductive Stage.Path {σ : Type} (env : Surroundings σ) (timeout : Duration) :
    Stage → List (Turn σ) → Stage → Prop where
  | rest (stage : Stage) : Path env timeout stage [] stage
  | turn (now : Instant) (s : σ) {stage last : Stage} {turns : List (Turn σ)}
      (h : Path env timeout (stage.step env timeout now s).1 turns last) :
      Path env timeout stage (⟨now, stage, s⟩ :: turns) last

namespace Stage.Path

variable {σ : Type} {env : Surroundings σ} {timeout : Duration} {stage last : Stage}
variable {turns : List (Turn σ)}

/-- A pass that can only fail ends with a failure. -/
theorem isFailing_last (h : Path env timeout stage turns last) (hstage : stage.isFailing = true) :
    last.isFailing = true := by
  induction h with
  | rest => exact hstage
  | turn now s h ih => exact ih (Turn.isFailing_next env timeout ⟨now, _, s⟩ hstage)

/-- A pass that ends without a failure has brought a child for each of its orders, and has written
the status that it had to write. -/
theorem done (h : Path env timeout stage turns (.finished (.ok ()))) :
    (turns.filterMap (Turn.brought? env)).map Prod.fst = stage.orders ∧
      turns.filterMap (Turn.written? env) = stage.ending?.toList := by
  -- Along the path, what is left to bring and to write gets less by what is brought and written.
  generalize hlast : Stage.finished (.ok ()) = last at h
  induction h with
  | rest stage =>
    subst hlast
    exact ⟨rfl, rfl⟩
  | @turn now s stage last turns h ih =>
    obtain ⟨horders', hending'⟩ := ih hlast
    change _ = (Turn.next env timeout ⟨now, stage, s⟩).orders at horders'
    change _ = (Turn.next env timeout ⟨now, stage, s⟩).ending?.toList at hending'
    cases Turn.effect env timeout ⟨now, stage, s⟩ with
    | fails hnext =>
      -- A pass that has failed does not end well.
      have hfails := h.isFailing_last hnext
      rw [← hlast] at hfails
      cases hfails
    | brings manifest child hbrought hwritten horders hending =>
      -- The child of the first order comes first, those of the others come later.
      rw [hending] at hending'
      rw [List.filterMap_cons, List.filterMap_cons, hbrought, hwritten]
      exact ⟨by rw [List.map_cons, horders', horders], hending'⟩
    | writes sent hbrought hwritten hsent horders hnext hending =>
      -- The status is written once, since nothing is left to do after that.
      rw [hnext] at horders'
      rw [hending] at hending'
      rw [List.filterMap_cons, List.filterMap_cons, hbrought, hwritten, horders, hsent]
      exact ⟨horders', congrArg (List.cons sent) hending'⟩
    | idles hbrought hwritten horders hending =>
      rw [horders] at horders'
      rw [hending] at hending'
      rw [List.filterMap_cons, List.filterMap_cons, hbrought, hwritten]
      exact ⟨horders', hending'⟩

/-- Whatever is sent to be written is the status that the pass began with. -/
theorem ending?_eq_of_sent? (h : Path env timeout stage turns last) {turn : Turn σ}
    (hturn : turn ∈ turns) {sent : JobBatch} (hsent : turn.sent? = some sent) :
    stage.ending? = some sent := by
  -- No turn comes to another status than the one that was to be written before.
  induction h with
  | rest => cases hturn
  | @turn now s stage last turns h ih =>
    rcases List.mem_cons.1 hturn with rfl | hturn
    · exact Turn.ending?_of_sent? _ hsent
    · exact Turn.ending?_of_next env timeout ⟨now, stage, s⟩ (ih hturn)

end Stage.Path

section Undisturbed

variable {σ : Type} (env : Surroundings σ) (timeout : Duration)

/-- Where a pass is after a turn at each of some moments, when nothing happens elsewhere. -/
def Stage.after : List Instant → Stage × σ → Stage × σ
  | [], place => place
  | now :: moments, place => after moments (place.1.step env timeout now place.2)

/-- The turns that a pass makes at some moments, when nothing happens elsewhere. -/
def Stage.turnsAt : List Instant → Stage × σ → List (Turn σ)
  | [], _ => []
  | now :: moments, place =>
    ⟨now, place.1, place.2⟩ :: turnsAt moments (place.1.step env timeout now place.2)

/-- What happens elsewhere can be nothing. -/
theorem Stage.path_after (moments : List Instant) (stage : Stage) (s : σ) :
    Path env timeout stage (turnsAt env timeout moments (stage, s))
      (after env timeout moments (stage, s)).1 := by
  induction moments generalizing stage s with
  | nil => exact .rest stage
  | cons now moments ih => exact .turn now s (ih _ _)

end Undisturbed

/-! ## What a pass begins with -/

/-- A pass has orders only for a batch that it sees, and those of its plan. -/
theorem Stage.of_mem_orders_ofKey {c : Caches} {key : ObjectKey} {order : Pod}
    (h : order ∈ (ofKey c (.batch key)).orders) :
    ∃ batch selector, c.batches.get? key = some batch ∧
      (ofKey c (.batch key)).orders =
        (Plan.make batch (c.templates.list key.ns selector) (c.childrenOf key)).starts.map
          batch.childManifest := by
  simp only [ofKey, Decision.make] at h ⊢
  split at h
  · simp [ofDecision] at h
  · rename_i batch hbatch
    split at h
    · simp [ofDecision, orders] at h
    · rename_i hpending
      split at h
      · simp [ofDecision, orders] at h
      · rename_i selector hselector
        refine ⟨batch, selector, hbatch, ?_⟩
        rw [if_neg hpending]
        exact orders_prune _ _

/-- What a pass over a batch with a valid selector has to bring and to write is what it plans. -/
theorem Stage.orders_ofKey {c : Caches} {key : ObjectKey} {batch : JobBatch} {selector : Selector}
    (hbatch : c.batches.get? key = some batch) (hpending : batch.isComplete = false)
    (hselector : Selector.read batch.spec.selector = .ok selector) :
    let plan := Plan.make batch (c.templates.list key.ns selector) (c.childrenOf key)
    (ofKey c (.batch key)).orders = plan.starts.map batch.childManifest ∧
      (ofKey c (.batch key)).ending? =
        plan.verdict.map fun verdict => batch.withStatus verdict.status := by
  simp only [ofKey, Decision.make, hbatch, hpending, hselector, Bool.false_eq_true, if_false,
    ofDecision]
  exact ⟨orders_prune _ _, ending?_prune _ _⟩

end BatchOperator
