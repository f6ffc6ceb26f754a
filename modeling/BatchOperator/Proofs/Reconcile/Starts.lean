import BatchOperator.Proofs.Reconcile.Asked

/-!
# Starts

A start is the part of a pass that is about one template: the request for its child, the
announcement or the adoption that follows, and the search for the child in the cache. `Fetched` says
exactly which turns come before the search and what they come to, `Sought` the same for the search,
`Started` puts the two together. A pass that is about to start a template makes such a start and
goes on from its result, or it stands in the middle of one (`Stage.Path.starting_cases`).
-/

set_option autoImplicit false

namespace BatchOperator

variable {σ : Type} {env : Surroundings σ} {timeout : Duration}

/-! ## Where a start goes on -/

/-- The stage after a start with a result. -/
def Agenda.resume (agenda : Agenda) : Except Error Unit → Stage
  | .ok () => agenda.proceed
  | .error e => .finished (.error e)

namespace Stage

/-- The time that a child may take to be seen in the cache, from a moment on. -/
def search (timeout : Duration) (start : Instant) (child : ObjectKey) : Poll :=
  { description := "child job " ++ child.render ++ " to appear in cache", timeout,
    interval := Poll.usualInterval, start }

/-- A stage is one of the start of a template. -/
def IsOfStart (template : JobTemplate) (agenda : Agenda) : Stage → Prop
  | .starting template' agenda' | .announcing _ template' agenda' | .adopting template' _ agenda' =>
    template' = template ∧ agenda' = agenda
  | .complaining template' _ batch => template' = template ∧ batch = agenda.batch
  | .confirming _ _ _ agenda' => agenda' = agenda
  | .purging .. | .pruning .. | .closing .. | .reporting _ | .finished _ => False

/-- Where a pass goes on when the request for a child has been answered. -/
theorem step_starting (template : JobTemplate) (agenda : Agenda) (now : Instant) (s : σ) :
    ((Stage.starting template agenda).step env timeout now s).1 =
      match (env.createChild (agenda.batch.childManifest template) s).1 with
      | .ok child => .announcing child template agenda
      | .error e =>
        if e.isAlreadyExists then .adopting template e agenda
        else .complaining template e agenda.batch := by
  simp only [step]
  rcases (env.createChild (agenda.batch.childManifest template) s).1 with e | child
  · by_cases there : e.isAlreadyExists = true
    · simp only [if_pos there]
    · simp only [if_neg there]
  · rfl

/-- Where a pass goes on when it has asked for what is there already. -/
theorem step_adopting (template : JobTemplate) (refusal : Error) (agenda : Agenda) (now : Instant)
    (s : σ) :
    ((Stage.adopting template refusal agenda).step env timeout now s).1 =
      match (env.listChildren agenda.batch.metadata.nsOrDefault
        (adoptionQuery agenda.batch template.name) s).1 with
      | .error e => .finished (.error e)
      | .ok listed =>
        match firstOwned agenda.batch listed with
        | some child => confirm timeout now child agenda
        | none => .finished (.error refusal) := by
  simp only [step]
  rcases (env.listChildren agenda.batch.metadata.nsOrDefault
    (adoptionQuery agenda.batch template.name) s).1 with e | listed
  · rfl
  · cases hfirst : firstOwned agenda.batch listed <;> simp only [hfirst]

end Stage

/-! ## The turns of a start -/

/-- The turns of a start up to the search: which child is searched for, and from when on, or what
the start fails with. -/
inductive Fetched (env : Surroundings σ) (template : JobTemplate) (agenda : Agenda) :
    List (Turn σ) → Except Error (Pod × Instant) → Prop where
  | created {now now' : Instant} {s s' : σ} {child : Pod}
      (hcreate : (env.createChild (agenda.batch.childManifest template) s).1 = .ok child) :
      Fetched env template agenda
        [⟨now, .starting template agenda, s⟩, ⟨now', .announcing child template agenda, s'⟩]
        (.ok (child, now'))
  /-- There is a child already. -/
  | adopted {now now' : Instant} {s s' : σ} {refusal : Error} {listed : List Pod} {child : Pod}
      (hcreate : (env.createChild (agenda.batch.childManifest template) s).1 = .error refusal)
      (there : refusal.isAlreadyExists = true)
      (hlist : (env.listChildren agenda.batch.metadata.nsOrDefault
        (Stage.adoptionQuery agenda.batch template.name) s').1 = .ok listed)
      (first : Stage.firstOwned agenda.batch listed = some child) :
      Fetched env template agenda
        [⟨now, .starting template agenda, s⟩, ⟨now', .adopting template refusal agenda, s'⟩]
        (.ok (child, now'))
  /-- What is there already is none of the children of the batch. -/
  | missing {now now' : Instant} {s s' : σ} {refusal : Error} {listed : List Pod}
      (hcreate : (env.createChild (agenda.batch.childManifest template) s).1 = .error refusal)
      (there : refusal.isAlreadyExists = true)
      (hlist : (env.listChildren agenda.batch.metadata.nsOrDefault
        (Stage.adoptionQuery agenda.batch template.name) s').1 = .ok listed)
      (none : Stage.firstOwned agenda.batch listed = none) :
      Fetched env template agenda
        [⟨now, .starting template agenda, s⟩, ⟨now', .adopting template refusal agenda, s'⟩]
        (.error refusal)
  /-- What is there already cannot be listed. -/
  | unlisted {now now' : Instant} {s s' : σ} {refusal e : Error}
      (hcreate : (env.createChild (agenda.batch.childManifest template) s).1 = .error refusal)
      (there : refusal.isAlreadyExists = true)
      (hlist : (env.listChildren agenda.batch.metadata.nsOrDefault
        (Stage.adoptionQuery agenda.batch template.name) s').1 = .error e) :
      Fetched env template agenda
        [⟨now, .starting template agenda, s⟩, ⟨now', .adopting template refusal agenda, s'⟩]
        (.error e)
  | refused {now now' : Instant} {s s' : σ} {refusal : Error}
      (hcreate : (env.createChild (agenda.batch.childManifest template) s).1 = .error refusal)
      (absent : refusal.isAlreadyExists = false) :
      Fetched env template agenda
        [⟨now, .starting template agenda, s⟩,
          ⟨now', .complaining template refusal agenda.batch, s'⟩]
        (.error refusal)

/-- The turns of a search that goes on at a moment, and what it comes to. -/
inductive Sought (env : Surroundings σ) (child : ObjectKey) (poll : Poll) (agenda : Agenda) :
    Instant → List (Turn σ) → Except Error Unit → Prop where
  /-- It is too early for a look. -/
  | early {moment now : Instant} {s : σ} {looks : List (Turn σ)} {result : Except Error Unit}
      (hearly : now < moment) (rest : Sought env child poll agenda moment looks result) :
      Sought env child poll agenda moment (⟨now, .confirming child poll moment agenda, s⟩ :: looks)
        result
  | seen {moment now : Instant} {s : σ} (due : moment ≤ now) (hsees : env.sees child s = true) :
      Sought env child poll agenda moment [⟨now, .confirming child poll moment agenda, s⟩] (.ok ())
  | expired {moment now : Instant} {s : σ} (due : moment ≤ now)
      (unseen : env.sees child s = false) (hlong : poll.timeout.nanoseconds ≤ now - poll.start) :
      Sought env child poll agenda moment [⟨now, .confirming child poll moment agenda, s⟩]
        (.error poll.expiry)
  | again {moment now : Instant} {s : σ} {looks : List (Turn σ)} {result : Except Error Unit}
      (due : moment ≤ now) (unseen : env.sees child s = false)
      (hshort : now - poll.start < poll.timeout.nanoseconds)
      (rest : Sought env child poll agenda (now + poll.interval.nanoseconds) looks result) :
      Sought env child poll agenda moment (⟨now, .confirming child poll moment agenda, s⟩ :: looks)
        result

/-- The turns of a whole start, and its result. -/
inductive Started (env : Surroundings σ) (timeout : Duration) (template : JobTemplate)
    (agenda : Agenda) : List (Turn σ) → Except Error Unit → Prop where
  | failed {turns : List (Turn σ)} {e : Error}
      (fetched : Fetched env template agenda turns (.error e)) :
      Started env timeout template agenda turns (.error e)
  | sought {turns looks : List (Turn σ)} {child : Pod} {moment : Instant}
      {result : Except Error Unit}
      (fetched : Fetched env template agenda turns (.ok (child, moment)))
      (search : Sought env (Stage.childKey child)
        (Stage.search timeout moment (Stage.childKey child)) agenda moment looks result) :
      Started env timeout template agenda (turns ++ looks) result

namespace Stage.Path

variable {last : Stage} {turns : List (Turn σ)} {template : JobTemplate} {agenda : Agenda}

/-- A pass that searches for a child goes on from the result of the search, or still searches. -/
theorem confirming_cases {child : ObjectKey} {poll : Poll} {moment : Instant}
    (h : Path env timeout (.confirming child poll moment agenda) turns last) :
    (∃ looks rest result, turns = looks ++ rest ∧ Sought env child poll agenda moment looks result ∧
      Path env timeout (agenda.resume result) rest last) ∨
    ∃ moment', last = .confirming child poll moment' agenda := by
  generalize hstage : Stage.confirming child poll moment agenda = stage at h
  induction h generalizing moment with
  | rest => exact .inr ⟨moment, hstage.symm⟩
  | @turn now s stage last turns h ih =>
    subst hstage
    rw [step_confirming] at h ih
    by_cases hearly : now < moment
    · rw [afterLook, if_pos hearly] at h ih
      obtain ⟨looks, rest, result, rfl, hsought, hrest⟩ | hlast := ih rfl
      · exact .inl ⟨_ :: looks, rest, result, rfl, .early hearly hsought, hrest⟩
      · exact .inr hlast
    · have due : moment ≤ now := Nat.le_of_not_lt hearly
      cases hsees : env.sees child s with
      | true =>
        rw [hsees, afterLook, if_neg hearly] at h
        exact .inl ⟨[_], _, .ok (), rfl, .seen due hsees, h⟩
      | false =>
        rw [hsees, afterLook_unseen, if_neg hearly] at h ih
        by_cases hlong : poll.timeout.nanoseconds ≤ now - poll.start
        · rw [if_pos hlong] at h
          exact .inl ⟨[_], _, .error poll.expiry, rfl, .expired due hsees hlong, h⟩
        · rw [if_neg hlong] at h ih
          have hshort := Nat.lt_of_not_le hlong
          obtain ⟨looks, rest, result, rfl, hsought, hrest⟩ | hlast := ih rfl
          · exact .inl ⟨_ :: looks, rest, result, rfl, .again due hsees hshort hsought, hrest⟩
          · exact .inr hlast

/-- A pass that has come to search for a child has started its template, or still searches. -/
theorem cases_of_fetched {first rest : List (Turn σ)} {child : Pod} {moment : Instant}
    (fetched : Fetched env template agenda first (.ok (child, moment)))
    (h : Path env timeout (confirm timeout moment child agenda) rest last) :
    (∃ start rest' result, first ++ rest = start ++ rest' ∧
      Started env timeout template agenda start result ∧
      Path env timeout (agenda.resume result) rest' last) ∨
    last.IsOfStart template agenda := by
  obtain ⟨looks, rest', result, rfl, hsought, hrest⟩ | ⟨moment', rfl⟩ := h.confirming_cases
  · exact .inl ⟨first ++ looks, rest', result, (List.append_assoc ..).symm,
      .sought fetched hsought, hrest⟩
  · exact .inr rfl

/-- A pass that is about to start a template goes on from the result of the start, or stands in the
middle of it. -/
theorem starting_cases (h : Path env timeout (.starting template agenda) turns last) :
    (∃ start rest result, turns = start ++ rest ∧
      Started env timeout template agenda start result ∧
      Path env timeout (agenda.resume result) rest last) ∨
    last.IsOfStart template agenda := by
  cases h with
  | rest => exact .inr ⟨rfl, rfl⟩
  | @turn now s _ _ turns h =>
    rw [step_starting] at h
    rcases hcreate : (env.createChild (agenda.batch.childManifest template) s).1 with
      refusal | child
    · rw [hcreate] at h
      by_cases there : refusal.isAlreadyExists = true
      · simp only [if_pos there] at h
        cases h with
        | rest => exact .inr ⟨rfl, rfl⟩
        | @turn now' s' _ _ turns h =>
          rw [step_adopting] at h
          rcases hlist : (env.listChildren agenda.batch.metadata.nsOrDefault
            (adoptionQuery agenda.batch template.name) s').1 with e | listed
          · rw [hlist] at h
            exact .inl ⟨_, turns, .error e, rfl, .failed (.unlisted hcreate there hlist), h⟩
          · rw [hlist] at h
            cases hfirst : firstOwned agenda.batch listed with
            | none =>
              simp only [hfirst] at h
              exact .inl ⟨_, turns, .error refusal, rfl,
                .failed (.missing hcreate there hlist hfirst), h⟩
            | some child =>
              simp only [hfirst] at h
              exact cases_of_fetched (.adopted hcreate there hlist hfirst) h
      · simp only [if_neg there] at h
        cases h with
        | rest => exact .inr ⟨rfl, rfl⟩
        | @turn now' s' _ _ turns h =>
          exact .inl ⟨_, turns, .error refusal, rfl,
            .failed (.refused hcreate (Bool.eq_false_iff.mpr there)), h⟩
    · rw [hcreate] at h
      cases h with
      | rest => exact .inr ⟨rfl, rfl⟩
      | @turn now' s' _ _ turns h => exact cases_of_fetched (.created hcreate) h

end Stage.Path

/-! ## Starts as parts of passes -/

section Whole

variable {template : JobTemplate} {agenda : Agenda} {turns : List (Turn σ)}

theorem Sought.path {child : ObjectKey} {poll : Poll} {moment : Instant}
    {result : Except Error Unit} (h : Sought env child poll agenda moment turns result) :
    Stage.Path env timeout (.confirming child poll moment agenda) turns (agenda.resume result) := by
  induction h with
  | early hearly _ ih =>
    refine .turn _ _ ?_
    rwa [Stage.step_confirming, Stage.afterLook, if_pos hearly]
  | seen due hsees =>
    refine .turn _ _ ?_
    rw [Stage.step_confirming, Stage.afterLook, if_neg (Nat.not_lt.mpr due), hsees]
    exact .rest _
  | expired due unseen hlong =>
    refine .turn _ _ ?_
    rw [Stage.step_confirming, unseen, Stage.afterLook_unseen, if_neg (Nat.not_lt.mpr due),
      if_pos hlong]
    exact .rest _
  | again due unseen hshort _ ih =>
    refine .turn _ _ ?_
    rwa [Stage.step_confirming, unseen, Stage.afterLook_unseen, if_neg (Nat.not_lt.mpr due),
      if_neg (Nat.not_le_of_lt hshort)]

/-- Every turn of a search is one at which it is searched. -/
theorem Sought.stage_eq {child : ObjectKey} {poll : Poll} {moment : Instant}
    {result : Except Error Unit} (h : Sought env child poll agenda moment turns result) :
    ∀ turn ∈ turns, ∃ moment', turn.stage = .confirming child poll moment' agenda := by
  induction h with
  | early _ _ ih | again _ _ _ _ ih => exact List.forall_mem_cons.mpr ⟨⟨_, rfl⟩, ih⟩
  | seen | expired => exact List.forall_mem_singleton.mpr ⟨_, rfl⟩

/-- What a pass comes to that has made the turns of a start up to the search. -/
theorem Fetched.path {fetched : Except Error (Pod × Instant)}
    (h : Fetched env template agenda turns fetched) :
    Stage.Path env timeout (.starting template agenda) turns
      (match fetched with
      | .ok (child, moment) => Stage.confirm timeout moment child agenda
      | .error e => .finished (.error e)) := by
  cases h with
  | created hcreate =>
    refine .turn _ _ ?_
    rw [Stage.step_starting, hcreate]
    exact .turn _ _ (.rest _)
  | adopted hcreate there hlist first =>
    refine .turn _ _ ?_
    simp only [Stage.step_starting, hcreate, if_pos there]
    refine .turn _ _ ?_
    simp only [Stage.step_adopting, hlist, first]
    exact .rest _
  | missing hcreate there hlist none =>
    refine .turn _ _ ?_
    simp only [Stage.step_starting, hcreate, if_pos there]
    refine .turn _ _ ?_
    simp only [Stage.step_adopting, hlist, none]
    exact .rest _
  | unlisted hcreate there hlist =>
    refine .turn _ _ ?_
    simp only [Stage.step_starting, hcreate, if_pos there]
    refine .turn _ _ ?_
    simp only [Stage.step_adopting, hlist]
    exact .rest _
  | refused hcreate absent =>
    refine .turn _ _ ?_
    simp only [Stage.step_starting, hcreate, absent, Bool.false_eq_true, if_false]
    exact .turn _ _ (.rest _)

/-- A pass goes on where another one has ended. -/
theorem Stage.Path.append {first mid last : Stage} {turns turns' : List (Turn σ)}
    (h : Path env timeout first turns mid) (h' : Path env timeout mid turns' last) :
    Path env timeout first (turns ++ turns') last := by
  induction h with
  | rest => exact h'
  | turn now s _ ih => exact .turn now s (ih h')

end Whole

/-! ## What is asked for and counted -/

namespace Surroundings

/-- The surroundings that keep a list of what is counted. -/
def counting (env : Surroundings σ) : Surroundings (σ × List Count) where
  createChild manifest s :=
    let (answer, s') := env.createChild manifest s.1
    (answer, (s', s.2))
  listChildren ns query s :=
    let (answer, s') := env.listChildren ns query s.1
    (answer, (s', s.2))
  deleteChild child s :=
    let (answer, s') := env.deleteChild child s.1
    (answer, (s', s.2))
  replaceStatus sent s :=
    let (answer, s') := env.replaceStatus sent s.1
    (answer, (s', s.2))
  publish notification s := (env.publish notification s.1, s.2)
  sees key s := env.sees key s.1
  count count s := (env.count count s.1, s.2 ++ [count])

end Surroundings

namespace Turn

/-- What is counted in a turn. -/
def counts (env : Surroundings σ) (timeout : Duration) (turn : Turn σ) : List Count :=
  (turn.stage.step env.counting timeout turn.now (turn.outside, [])).2.2

/-- A turn goes on in the same way and with the same effects when its counts are listed. -/
theorem step_counting (env : Surroundings σ) (timeout : Duration) (turn : Turn σ) :
    turn.stage.step env.counting timeout turn.now (turn.outside, []) =
      (turn.next env timeout,
        ((turn.stage.step env timeout turn.now turn.outside).2, turn.counts env timeout)) := by
  obtain ⟨now, stage, s⟩ := turn
  cases stage with
  | purging next others =>
    simp only [counts, Turn.next, Stage.step, Surroundings.counting]
    split <;> rfl
  | starting template agenda =>
    simp only [counts, Turn.next, Stage.step, Surroundings.counting]
    split
    · rfl
    · split <;> rfl
  | adopting template refusal agenda =>
    simp only [counts, Turn.next, Stage.step, Surroundings.counting]
    split
    · rfl
    · split <;> rfl
  | confirming child poll moment agenda =>
    simp only [counts, Turn.next, Stage.step_confirming]
    rfl
  | closing verdict batch =>
    simp only [counts, Turn.next, Stage.step, Surroundings.counting]
    split <;> rfl
  | pruning | announcing | complaining | reporting | finished => rfl

variable {template : JobTemplate} {agenda : Agenda} {now : Instant} {s : σ}

theorem calls_starting :
    Turn.calls env timeout ⟨now, .starting template agenda, s⟩ =
      [.created (agenda.batch.childManifest template)
        (env.createChild (agenda.batch.childManifest template) s).1] := by
  simp only [calls, Stage.step, Surroundings.recorded]
  split
  · rfl
  · split <;> rfl

theorem calls_adopting {refusal : Error} :
    Turn.calls env timeout ⟨now, .adopting template refusal agenda, s⟩ =
      [.listed agenda.batch.metadata.nsOrDefault (Stage.adoptionQuery agenda.batch template.name)
        (env.listChildren agenda.batch.metadata.nsOrDefault
          (Stage.adoptionQuery agenda.batch template.name) s).1] := by
  simp only [calls, Stage.step, Surroundings.recorded]
  split
  · rfl
  · split <;> rfl

theorem counts_starting :
    Turn.counts env timeout ⟨now, .starting template agenda, s⟩ =
      if (env.createChild (agenda.batch.childManifest template) s).1.isOk then [.childCreated]
      else [] := by
  simp only [counts, Stage.step, Surroundings.counting]
  rcases (env.createChild (agenda.batch.childManifest template) s).1 with refusal | child
  · by_cases there : refusal.isAlreadyExists = true
    · simp only [if_pos there]
      rfl
    · simp only [if_neg there]
      rfl
  · rfl

theorem counts_adopting {refusal : Error} :
    Turn.counts env timeout ⟨now, .adopting template refusal agenda, s⟩ = [] := by
  simp only [counts, Stage.step, Surroundings.counting]
  split
  · rfl
  · split <;> rfl

/-- A look neither asks for anything nor counts. -/
theorem calls_confirming {child : ObjectKey} {poll : Poll} {moment : Instant} :
    Turn.calls env timeout ⟨now, .confirming child poll moment agenda, s⟩ = [] ∧
      Turn.counts env timeout ⟨now, .confirming child poll moment agenda, s⟩ = [] := by
  constructor
  · rw [calls, Stage.step_confirming]
    rfl
  · rw [counts, Stage.step_confirming]

/-- What is counted in some turns. -/
def allCounts (env : Surroundings σ) (timeout : Duration) (turns : List (Turn σ)) : List Count :=
  turns.flatMap (counts env timeout)

end Turn

/-- What is asked for and what is counted to bring the child of a template, and what that comes
to. -/
inductive Brings (batch : JobBatch) (template : JobTemplate) :
    List Call → List Count → Except Error Pod → Prop where
  | created (child : Pod) :
      Brings batch template
        [.created (batch.childManifest template) (.ok child),
          .published (Stage.startNotice batch template.name)]
        [.childCreated] (.ok child)
  | adopted {refusal : Error} {listed : List Pod} {child : Pod}
      (there : refusal.isAlreadyExists = true)
      (first : Stage.firstOwned batch listed = some child) :
      Brings batch template
        [.created (batch.childManifest template) (.error refusal),
          .listed batch.metadata.nsOrDefault (Stage.adoptionQuery batch template.name) (.ok listed)]
        [] (.ok child)
  | missing {refusal : Error} {listed : List Pod} (there : refusal.isAlreadyExists = true)
      (none : Stage.firstOwned batch listed = none) :
      Brings batch template
        [.created (batch.childManifest template) (.error refusal),
          .listed batch.metadata.nsOrDefault (Stage.adoptionQuery batch template.name) (.ok listed)]
        [] (.error refusal)
  | unlisted {refusal : Error} (e : Error) (there : refusal.isAlreadyExists = true) :
      Brings batch template
        [.created (batch.childManifest template) (.error refusal),
          .listed batch.metadata.nsOrDefault (Stage.adoptionQuery batch template.name) (.error e)]
        [] (.error e)
  | refused {refusal : Error} (absent : refusal.isAlreadyExists = false) :
      Brings batch template
        [.created (batch.childManifest template) (.error refusal),
          .published (Stage.refusalNotice batch template.name refusal)]
        [] (.error refusal)

section Shape

variable {template : JobTemplate} {agenda : Agenda} {turns : List (Turn σ)}

open Turn

theorem Fetched.brings {fetched : Except Error (Pod × Instant)} (timeout : Duration)
    (h : Fetched env template agenda turns fetched) :
    Brings agenda.batch template (allCalls env timeout turns) (allCounts env timeout turns)
      (fetched.map Prod.fst) := by
  cases h with
  | created hcreate =>
    simp only [allCalls, allCounts, List.flatMap_cons, calls_starting, counts_starting, hcreate]
    exact .created _
  | adopted hcreate there hlist first =>
    simp only [allCalls, allCounts, List.flatMap_cons, calls_starting, counts_starting,
      calls_adopting, counts_adopting, hcreate, hlist]
    exact .adopted there first
  | missing hcreate there hlist none =>
    simp only [allCalls, allCounts, List.flatMap_cons, calls_starting, counts_starting,
      calls_adopting, counts_adopting, hcreate, hlist]
    exact .missing there none
  | unlisted hcreate there hlist =>
    simp only [allCalls, allCounts, List.flatMap_cons, calls_starting, counts_starting,
      calls_adopting, counts_adopting, hcreate, hlist]
    exact .unlisted _ there
  | refused hcreate absent =>
    simp only [allCalls, allCounts, List.flatMap_cons, calls_starting, counts_starting, hcreate]
    exact .refused absent

/-- A search neither asks for anything nor counts. -/
theorem Sought.calls_eq_nil {child : ObjectKey} {poll : Poll} {moment : Instant}
    {result : Except Error Unit} (timeout : Duration)
    (h : Sought env child poll agenda moment turns result) :
    allCalls env timeout turns = [] ∧ allCounts env timeout turns = [] := by
  constructor
  all_goals
    refine List.flatMap_eq_nil_iff.mpr fun turn hturn => ?_
    obtain ⟨moment', hstage⟩ := h.stage_eq turn hturn
    obtain ⟨now, stage, s⟩ := turn
    cases hstage
  · exact calls_confirming.1
  · exact calls_confirming.2

end Shape

/-! ## What a search comes to -/

/-- A turn takes a look for the child of a key. -/
def Turn.LooksFor (key : ObjectKey) (turn : Turn σ) : Prop :=
  ∃ poll moment agenda, turn.stage = .confirming key poll moment agenda ∧ moment ≤ turn.now

namespace Sought

variable {child : ObjectKey} {poll : Poll} {agenda : Agenda} {moment : Instant}
  {turns : List (Turn σ)} {result : Except Error Unit}

/-- A search ends well exactly when one of its looks sees the child. -/
theorem ok_iff (h : Sought env child poll agenda moment turns result) :
    result = .ok () ↔ ∃ turn ∈ turns, turn.LooksFor child ∧ env.sees child turn.outside = true := by
  induction h with
  | @early _ now s looks _ hearly _ ih =>
    refine ih.trans ⟨fun ⟨turn, hturn, h⟩ => ⟨turn, .tail _ hturn, h⟩, ?_⟩
    rintro ⟨turn, hturn, ⟨_, moment', _, hstage, due⟩, hsees⟩
    cases hturn with
    | head =>
      cases hstage
      exact absurd due (Nat.not_le_of_lt hearly)
    | tail _ hturn => exact ⟨turn, hturn, ⟨_, moment', _, hstage, due⟩, hsees⟩
  | seen due hsees =>
    exact ⟨fun _ => ⟨_, .head _, ⟨_, _, _, rfl, due⟩, hsees⟩, fun _ => rfl⟩
  | expired _ unseen =>
    refine ⟨nofun, ?_⟩
    rintro ⟨turn, hturn, -, hsees⟩
    cases List.mem_singleton.mp hturn
    cases unseen.symm.trans hsees
  | again _ unseen _ _ ih =>
    refine ih.trans ⟨fun ⟨turn, hturn, h⟩ => ⟨turn, .tail _ hturn, h⟩, ?_⟩
    rintro ⟨turn, hturn, hlooks, hsees⟩
    cases hturn with
    | head => cases unseen.symm.trans hsees
    | tail _ hturn => exact ⟨turn, hturn, hlooks, hsees⟩

/-- A search that fails was given up. -/
theorem exists_givesUp {e : Error} (htimed : poll.timeout = timeout)
    (h : Sought env child poll agenda moment turns (.error e)) :
    e = poll.expiry ∧ ∃ turn ∈ turns, turn.GivesUp env timeout child poll := by
  generalize hresult : Except.error e = result at h
  induction h with
  | seen => cases hresult
  | expired due unseen hlong =>
    cases hresult
    refine ⟨rfl, _, .head _, ⟨_, _, rfl⟩, unseen, htimed, htimed ▸ hlong, ?_⟩
    rw [Turn.next_confirming, unseen, Stage.afterLook_unseen, if_neg (Nat.not_lt.mpr due),
      if_pos hlong]
  | early _ _ ih | again _ _ _ _ ih =>
    obtain ⟨he, turn, hturn, hgives⟩ := ih hresult
    exact ⟨he, turn, .tail _ hturn, hgives⟩

end Sought

end BatchOperator
