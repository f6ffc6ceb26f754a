import BatchOperator.Proofs.Worker.Office

/-!
# The account of a child

Of all that goes on in an office little matters for the announcements about one child: how often it
has ended, how often its end has still to be added to the queue, whether it is marked there, what a
pass over it is about to announce and what has been announced. This is its `Account`. Every step of
an office is one of six steps of the account (`Office.Sound.account_step`), and two things are said
about accounts alone. The announcements that were made or can still come of the work are no more than
the ends (`Account.Paid`), and an end that was told of is not lost (`Account.Remembers`).
-/

set_option autoImplicit false

namespace BatchOperator

/-- What matters for the announcements about a child. -/
@[ext]
structure Account where
  /-- How often the child has ended. -/
  ends : Nat
  /-- How often the router has still to add the child. -/
  told : Nat
  isMarked : Bool
  /-- What a pass over the child is about to announce. -/
  held : Notification → Prop
  /-- What was announced, the last first. -/
  notices : List Notification
  isShutDown : Bool

namespace Account

variable {key : ObjectKey} {c : Caches} {a a' : Account} {phase : Phase}

/-- What can happen to the account of a child. -/
inductive Step (key : ObjectKey) (c : Caches) (a : Account) : Account → Prop where
  | stays : Step key c a a
  /-- The router is told of the child, which it is only if the child has ended. -/
  | tells {ended : Bool} {count : Nat} (h : count ≤ ended.toNat) :
      Step key c a { a with ends := a.ends + ended.toNat, told := a.told + count }
  | routes {told : Nat} (h : a.told = told + 1) :
      Step key c a { a with told, isMarked := a.isMarked || !a.isShutDown }
  /-- A pass over the child begins. -/
  | takes (h : a.isMarked = true) :
      Step key c a
        { a with
          isMarked := false, held := fun n => Stage.ofKey c (.childStatus key) = .reporting n }
  | announces {n : Notification} (h : ∀ m, a.held m ↔ m = n) :
      Step key c a { a with held := fun _ => False, notices := n :: a.notices }
  | shutsDown : Step key c a { a with isShutDown := true }

/-! ## No end is announced twice -/

/-- How many announcements were made or can come of what is marked and what is still to be added. -/
def due (a : Account) : Nat := a.notices.length + a.isMarked.toNat + a.told

/-- The announcements that were made or can still come are no more than the ends. -/
structure Paid (a : Account) : Prop where
  due_le : a.due ≤ a.ends
  due_lt : ∀ n, a.held n → a.due < a.ends

theorem Paid.step (h : a.Paid) (hstep : Step key c a a') : a'.Paid := by
  obtain ⟨hle, hlt⟩ := h
  cases hstep with
  | stays => exact ⟨hle, hlt⟩
  | tells hcount =>
    refine ⟨?_, fun n hn => ?_⟩
    · simp only [due] at hle ⊢
      omega
    · have hbefore := hlt n hn
      simp only [due] at hbefore ⊢
      omega
  | routes htold =>
    -- The mark is paid for by what was to be added.
    have hmark : (a.isMarked || !a.isShutDown).toNat ≤ 1 := Bool.toNat_le _
    refine ⟨?_, fun n hn => ?_⟩
    · simp only [due, htold] at hle ⊢
      omega
    · have hbefore := hlt n hn
      simp only [due, htold] at hbefore ⊢
      omega
  | takes hmarked =>
    -- The pass is paid for by the mark.
    have hdue : a.notices.length + 1 + a.told ≤ a.ends := by
      simpa only [due, hmarked, Bool.toNat_true] using hle
    refine ⟨?_, fun n hn => ?_⟩ <;> simp only [due, Bool.toNat_false] <;> omega
  | announces hheld =>
    refine ⟨?_, fun n hn => hn.elim⟩
    have hbefore := hlt _ ((hheld _).2 rfl)
    simp only [due, List.length_cons] at hbefore ⊢
    omega
  | shutsDown => exact ⟨hle, hlt⟩

/-! ## No end is lost -/

/-- The end of the child in a phase was announced, or will be, unless the queue was shut down. -/
def Remembers (phase : Phase) (a : Account) : Prop :=
  a.isShutDown = true ∨ 0 < a.told ∨ a.isMarked = true ∨ (∃ n, a.held n ∧ n.Reports phase) ∨
    ∃ n ∈ a.notices, n.Reports phase

theorem Remembers.step (h : a.Remembers phase) (hstep : Step key c a a')
    (ended : phase.isTerminal = true) (shows : Stage.Shows key phase c) : a'.Remembers phase := by
  cases hstep with
  | stays => exact h
  | tells =>
    rcases h with hshut | htold | hrest
    · exact .inl hshut
    · exact .inr (.inl (Nat.lt_add_right _ htold))
    · exact .inr (.inr hrest)
  | routes =>
    rcases h with hshut | - | hmarked | hrest
    · exact .inl hshut
    · -- What the router adds is marked, if the queue is open.
      cases a.isShutDown with
      | true => exact .inl rfl
      | false => exact .inr (.inr (.inl (Bool.or_true _)))
    · exact .inr (.inr (.inl (by simp [hmarked])))
    · exact .inr (.inr (.inr hrest))
  | takes =>
    -- The child is cached as it has ended, so the pass comes to announce this.
    obtain ⟨n, hn, hreports⟩ := Stage.ofKey_of_shows shows ended
    exact .inr (.inr (.inr (.inl ⟨n, hn, hreports⟩)))
  | @announces n hheld =>
    rcases h with hshut | htold | hmarked | ⟨m, hm, hreports⟩ | ⟨m, hm, hreports⟩
    · exact .inl hshut
    · exact .inr (.inl htold)
    · exact .inr (.inr (.inl hmarked))
    · obtain rfl := (hheld m).1 hm
      exact .inr (.inr (.inr (.inr ⟨m, List.mem_cons_self, hreports⟩)))
    · exact .inr (.inr (.inr (.inr ⟨m, List.mem_cons_of_mem n hm, hreports⟩)))
  | shutsDown => exact .inl rfl

end Account

/-! ## The accounts of an office -/

namespace Office

variable {σ : Type} {s s' : Office σ} {key : ObjectKey}

/-- What an entry says has been announced by passes over the child of a key: that it has ended. -/
def Entry.notice? (key : ObjectKey) : Entry → Option Notification
  | .announced (.childStatus child) n => if child = key ∧ n.tellsEnd = true then some n else none
  | .announced (.batch _) _ | .cached .. => none

/-- Whether the child of a key ends in an entry. -/
def Entry.ends (key : ObjectKey) : Entry → Bool
  | .cached before after => Cache.ends key before after
  | .announced .. => false

/-- The announcements by passes over the child of a key that it has ended, the last first. -/
def noticesOf (key : ObjectKey) (log : List Entry) : List Notification :=
  log.filterMap (Entry.notice? key)

/-- How often the child of a key ends. -/
def endsOf (key : ObjectKey) (log : List Entry) : Nat := log.countP (Entry.ends key)

/-- The account of the child of a key. -/
def account (s : Office σ) (key : ObjectKey) : Account where
  ends := endsOf key s.log
  told := s.pending.count (.childStatus key)
  isMarked := decide (.childStatus key ∈ s.queue.dirty)
  held n := ∃ number, s.staff.workers number = .working (.childStatus key) (.reporting n)
  notices := noticesOf key s.log
  isShutDown := s.queue.isShutDown

/-- A change of the cache in which the child ends counts. -/
theorem endsOf_cached (before after : Cache Pod) (log : List Entry) :
    endsOf key (.cached before after :: log) =
      endsOf key log + (Cache.ends key before after).toNat := by
  refine List.countP_cons.trans (congrArg (endsOf key log + ·) ?_)
  show (if Cache.ends key before after = true then 1 else 0) = _
  cases Cache.ends key before after <;> rfl

/-- What passes over other work announce is nothing to the account. -/
theorem log_other {work : WorkKey} (h : work ≠ .childStatus key) (published : Option Notification)
    (log : List Entry) :
    noticesOf key (published.toList.map (.announced work) ++ log) = noticesOf key log ∧
      endsOf key (published.toList.map (.announced work) ++ log) = endsOf key log := by
  cases published with
  | none => exact ⟨rfl, rfl⟩
  | some n =>
    have hnotice : Entry.notice? key (.announced work n) = none := by
      cases work with
      | batch => rfl
      | childStatus child =>
        have hne : child ≠ key := fun hkey => h (hkey ▸ rfl)
        simp [Entry.notice?, hne]
    exact ⟨List.filterMap_cons_none hnotice, List.countP_cons_of_neg nofun⟩

/-- What the workers are at stays the same when one of them changes from something else to something
else. -/
theorem exists_update_eq_iff {workers : Nat → Worker} {number : Nat} {next target : Worker}
    (before : workers number ≠ target) (after : next ≠ target) :
    (∃ other, Function.update workers number next other = target) ↔
      ∃ other, workers other = target := by
  constructor
  · rintro ⟨other, hother⟩
    by_cases hsame : other = number
    · rw [hsame, Function.update_self] at hother
      exact absurd hother after
    · rw [Function.update_of_ne hsame] at hother
      exact ⟨other, hother⟩
  · rintro ⟨other, hother⟩
    have hne : other ≠ number := fun hsame => before (hsame ▸ hother)
    exact ⟨other, by rw [Function.update_of_ne hne, hother]⟩

/-- A worker that has nothing in hand announces nothing. -/
theorem ne_working_of_free {w : Worker} (free : (Hand.ofWorker w).key? = none) (work : WorkKey)
    (stage : Stage) : w ≠ .working work stage := by
  rintro rfl
  cases free

/-- Only one worker makes a pass over a unit of work. -/
theorem Sound.alone (h : s.Sound) {work : WorkKey} {stage stage' : Stage} {number other : Nat}
    (mine : s.staff.workers number = .working work stage)
    (theirs : s.staff.workers other = .working work stage') : number = other :=
  h.apart.alone (key?_of_working mine) (key?_of_working theirs)

/-- The account stays as it is when nothing is added, ends or is announced, and the worker that acts
neither comes to announce something about the child nor was about to. -/
theorem Acts.account_stays {number : Nat} (hacts : Acts s s' number) {next : Worker}
    (workers : s'.staff.workers = Function.update s.staff.workers number next)
    (before : ∀ n, s.staff.workers number ≠ .working (.childStatus key) (.reporting n))
    (after : ∀ n, next ≠ .working (.childStatus key) (.reporting n))
    (dirty : .childStatus key ∈ s'.queue.dirty ↔ .childStatus key ∈ s.queue.dirty)
    (log : noticesOf key s'.log = noticesOf key s.log ∧ endsOf key s'.log = endsOf key s.log) :
    Account.Step key s.caches (s.account key) (s'.account key) := by
  have hheld : (s'.account key).held = (s.account key).held := by
    funext n
    show (∃ number, s'.staff.workers number = _) = _
    rw [workers]
    exact propext (exists_update_eq_iff (before n) (after n))
  have hsame : s'.account key = s.account key :=
    Account.ext log.2 (congrArg (List.count _) hacts.pending) (decide_eq_decide.2 dirty) hheld log.1
      hacts.isShutDown
  rw [hsame]
  exact .stays

/-- A worker that takes a child is the only one that is about to announce something about it. -/
theorem Acts.held_of_taken {number : Nat} (hacts : Acts s s' number) {stage : Stage}
    (workers : s'.staff.workers =
      Function.update s.staff.workers number (.working (.childStatus key) stage)) :
    (s'.account key).held = fun n => stage = .reporting n := by
  have hmine : s'.staff.workers number = .working (.childStatus key) stage := by
    rw [workers, Function.update_self]
  funext n
  refine propext ⟨?_, ?_⟩
  · rintro ⟨other, hother⟩
    obtain rfl := hacts.sound.alone hmine hother
    cases hmine.symm.trans hother
    rfl
  · rintro rfl
    exact ⟨number, hmine⟩

/-- A worker that has announced the end of a child is no longer about to, and no other worker
was. -/
theorem Acts.held_of_announced {number : Nat} (h : s.Sound) (hacts : Acts s s' number)
    {n : Notification} {result : Except Error Unit}
    (hand : s.staff.workers number = .working (.childStatus key) (.reporting n))
    (workers : s'.staff.workers =
      Function.update s.staff.workers number (.working (.childStatus key) (.finished result))) :
    (∀ m, (s.account key).held m ↔ m = n) ∧ (s'.account key).held = fun _ => False := by
  constructor
  · refine fun m => ⟨?_, ?_⟩
    · rintro ⟨other, hother⟩
      obtain rfl := h.alone hand hother
      cases hand.symm.trans hother
      rfl
    · rintro rfl
      exact ⟨number, hand⟩
  · rw [hacts.held_of_taken workers]
    exact funext fun m => eq_false nofun

/-- An announcement that a child has ended counts for the child. -/
theorem log_announced (key : ObjectKey) {n : Notification} (htells : n.tellsEnd = true) (log : List Entry) :
    noticesOf key (.announced (.childStatus key) n :: log) = n :: noticesOf key log ∧
      endsOf key (.announced (.childStatus key) n :: log) = endsOf key log := by
  have hnotice : Entry.notice? key (.announced (.childStatus key) n) = some n := by
    simp [Entry.notice?, htells]
  exact ⟨List.filterMap_cons_some hnotice, List.countP_cons_of_neg nofun⟩

/-- A worker does one thing at most that matters to the account of a child. -/
theorem Acts.account_step {number : Nat} (h : s.Sound) (hacts : Acts s s' number)
    (key : ObjectKey) : Account.Step key s.caches (s.account key) (s'.account key) := by
  have hpending : (s'.account key).told = (s.account key).told :=
    congrArg (List.count _) hacts.pending
  cases hacts.act with
  | takes work free next marked dirty log =>
    have hlog : noticesOf key s'.log = noticesOf key s.log ∧
        endsOf key s'.log = endsOf key s.log := by
      rw [log]
      exact ⟨rfl, rfl⟩
    by_cases hwork : work = .childStatus key
    · subst hwork
      have hunmarked : (s'.account key).isMarked = false :=
        decide_eq_false fun hmem => ((dirty _).1 hmem).2 rfl
      have htaken : s'.account key = { s.account key with
          isMarked := false
          held := fun n => Stage.ofKey s.caches (.childStatus key) = .reporting n } :=
        Account.ext hlog.2 hpending hunmarked (hacts.held_of_taken next) hlog.1 hacts.isShutDown
      rw [htaken]
      exact .takes (decide_eq_true marked)
    · refine hacts.account_stays next (fun _ => ne_working_of_free free _ _)
        (fun n hn => hwork (Worker.working.inj hn).1) ?_ hlog
      rw [dirty, and_iff_left (Ne.symm hwork)]
  | rests free worker resting next dirty log =>
    refine hacts.account_stays next (fun _ => ne_working_of_free free _ _)
      (fun _ => ne_working_of_free resting _ _) ?_ ?_
    · rw [dirty]
    · rw [log]
      exact ⟨rfl, rfl⟩
  | goesOn work stage last hand last_childStatus next dirty log =>
    by_cases hwork : work = .childStatus key
    · subst hwork
      obtain rfl := last_childStatus key rfl
      rcases hand ▸ h.fits number with rfl | ⟨n, rfl, hannounces⟩
      · -- The pass had nothing to announce.
        refine hacts.account_stays next ?_ (fun _ => nofun) (by rw [dirty]) ?_
        · intro n hreporting
          cases hand.symm.trans hreporting
        · rw [log]
          exact ⟨rfl, rfl⟩
      · obtain ⟨hheld, hnone⟩ := hacts.held_of_announced h hand next
        have htells : n.tellsEnd = true := by
          obtain ⟨_, _, _, -, -, hnotice⟩ := hannounces
          exact (Stage.reports_of_endNotice hnotice).tellsEnd
        have hlog : s'.log = .announced (.childStatus key) n :: s.log := log
        obtain ⟨hnotices, hends⟩ := log_announced key htells s.log
        have hannounced : s'.account key = { s.account key with
            held := fun _ => False, notices := n :: noticesOf key s.log } :=
          Account.ext ((congrArg (endsOf key) hlog).trans hends) hpending
            (decide_eq_decide.2 (by rw [dirty])) hnone
            ((congrArg (noticesOf key) hlog).trans hnotices) hacts.isShutDown
        rw [hannounced]
        exact .announces hheld
    · refine hacts.account_stays next
        (fun n hn => hwork (Worker.working.inj (hand.symm.trans hn)).1)
        (fun n hn => hwork (Worker.working.inj hn).1) (by rw [dirty]) ?_
      rw [log]
      exact log_other hwork stage.published? s.log
  | ends work result hand next dirty log =>
    refine hacts.account_stays next ?_ (fun _ => nofun) ?_ ?_
    · intro n hreporting
      cases hand.symm.trans hreporting
    · refine dirty _ ?_
      by_cases hwork : work = .childStatus key
      · -- A pass over a child does not fail, so the child is not put off.
        subst hwork
        have hmine : (Worker.working (.childStatus key) (.finished result)).Fits :=
          hand ▸ h.fits number
        rcases hmine with hover | ⟨n, hover, -⟩
        · exact .inr (Stage.finished.inj hover)
        · cases hover
      · exact .inl (Ne.symm hwork)
    · rw [log]
      exact ⟨rfl, rfl⟩

/-- What the router adds is marked, and is not to be added any more. -/
theorem account_step_routed {before after : List WorkKey} {work : WorkKey}
    (told : s.pending = before ++ work :: after) (key : ObjectKey) :
    Account.Step key s.caches (s.account key)
      (Office.account { s.withQueue (s.queue.add work) with pending := before ++ after } key) := by
  have hcount : (s.account key).told =
      (before ++ after).count (.childStatus key) + if work == .childStatus key then 1 else 0 := by
    show s.pending.count _ = _
    rw [told, List.count_append, List.count_append, List.count_cons, Nat.add_assoc]
  by_cases hwork : work = .childStatus key
  · subst hwork
    rw [if_pos (beq_self_eq_true _)] at hcount
    -- The mark may have been there already: then two ends come to one pass.
    have hmark : decide (.childStatus key ∈ (s.queue.add (.childStatus key)).dirty) =
        ((s.account key).isMarked || !(s.account key).isShutDown) := by
      rw [decide_eq_decide.2 WorkQueue.mem_dirty_add_self, Bool.decide_or, Bool.or_comm]
      show (_ || decide (s.queue.isShutDown = false)) = (_ || !s.queue.isShutDown)
      cases s.queue.isShutDown <;> rfl
    have hrouted : Office.account { s.withQueue (s.queue.add (.childStatus key)) with
          pending := before ++ after } key =
        { s.account key with
          told := (before ++ after).count (.childStatus key)
          isMarked := (s.account key).isMarked || !(s.account key).isShutDown } :=
      Account.ext rfl rfl hmark rfl rfl (WorkQueue.add_isShutDown _ _)
    rw [hrouted]
    exact .routes hcount
  · rw [if_neg (by simpa using hwork), Nat.add_zero] at hcount
    have hsame : Office.account { s.withQueue (s.queue.add work) with
        pending := before ++ after } key = s.account key :=
      Account.ext rfl hcount.symm
        (decide_eq_decide.2 (WorkQueue.mem_dirty_add_of_ne (Ne.symm hwork))) rfl rfl
        (WorkQueue.add_isShutDown _ _)
    rw [hsame]
    exact .stays

/-- Every step is a step of the account of each child. -/
theorem Sound.account_step (h : s.Sound) (hstep : Step s s') (key : ObjectKey) :
    Account.Step key s.caches (s.account key) (s'.account key) := by
  cases hstep with
  | @mutates mutation changes order =>
    have htold : (s.pending ++ Routing.childWork changes).count (.childStatus key) =
        s.pending.count (.childStatus key) +
          (Routing.childWork changes).count (.childStatus key) := List.count_append
    have hends : (s.mutated mutation changes).account key = { s.account key with
        ends := endsOf key s.log +
          (Cache.ends key s.caches.children (s.caches.children.mutate mutation).2).toNat
        told := s.pending.count (.childStatus key) +
          (Routing.childWork changes).count (.childStatus key) } := by
      exact Account.ext (endsOf_cached _ _ _) htold rfl rfl rfl rfl
    rw [hends]
    exact .tells (h.keyed.count_childStatus_le order)
  | elsewhere operator children queue batches =>
    have htold : (s.pending ++ batches.map WorkKey.batch).count (.childStatus key) =
        s.pending.count (.childStatus key) := by
      rw [List.count_append, Nat.add_eq_left, List.count_eq_zero, List.mem_map]
      rintro ⟨batch, -, ⟨⟩⟩
    have hsame : Office.account { s.withOperator operator with
        pending := s.pending ++ batches.map .batch } key = s.account key := by
      refine Account.ext rfl htold ?_ rfl rfl ?_
      · exact congrArg (fun q : WorkQueue WorkKey => decide (.childStatus key ∈ q.dirty)) queue
      · exact congrArg WorkQueue.isShutDown queue
    rw [hsame]
    exact .stays
  | @routes before after work told =>
    exact account_step_routed told key
  | acts env alone timeout number => exact (h.acts alone timeout number).account_step h key
  | fires elapsed fired =>
    -- Only batches are put off.
    obtain ⟨batch, others, rfl, -⟩ := h.of_fired fired
    have hne : WorkKey.childStatus key ≠ .batch batch := nofun
    have hsame : (s.withQueue ({ s.queue with delayed := others }.add (.batch batch))).account key =
        s.account key := by
      refine Account.ext rfl rfl ?_ rfl rfl (WorkQueue.add_isShutDown _ _)
      exact decide_eq_decide.2 (WorkQueue.mem_dirty_add_of_ne hne)
    rw [hsame]
    exact .stays
  | waits => exact .stays
  | shutsDown => exact .shutsDown

end Office

end BatchOperator
