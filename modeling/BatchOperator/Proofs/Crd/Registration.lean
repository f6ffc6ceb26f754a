import Mathlib.Data.List.Basic
import BatchOperator.Crd.Registration
import BatchOperator.Proofs.Polling

/-!
# What the registration of definitions asks for

Definitions are registered with a registrar that may answer anything to any request, and take any
time for it. `requests` is all that it is asked for in one registration, each request with its
answer and the moment at which it was answered; keeping that record makes no difference
(`ensureAll_recorded`).

`Handled` says exactly what can be asked about one definition and what that comes to, `HandledEach`
the same for definitions one after the other. Every registration is of that form
(`handledEach_requests`), and everything else is read off it: a definition is only removed when it
was created here and not served in time, and the first failure is the last thing that happens,
except for that removal (`isRegistered_ensureAll`).
-/

set_option autoImplicit false

namespace BatchOperator.Crd

/-! ## The record of a registration -/

/-- Something that a registrar was asked for, and its answer. -/
inductive Request where
  | created (definition : Definition) (answer : Except Error Unit)
  | got (name : String) (answer : Except Error Report)
  | deleted (name : String) (answer : Except Error Unit)

namespace Request

/-- The name of the definition that a request is about. -/
def subject : Request → String
  | created definition _ => definition.name
  | got name _ | deleted name _ => name

/-- The definition that a request was to create. -/
def created? : Request → Option Definition
  | created definition _ => some definition
  | got .. | deleted .. => none

/-- Whether a definition was to be removed. -/
def isRemoval : Request → Bool
  | deleted .. => true
  | created .. | got .. => false

/-- Whether a definition was found to be served. -/
def isSight : Request → Bool
  | got _ (.ok report) => report.isEstablished
  | _ => false

end Request

/-- A request, and the moment at which it was answered. -/
structure Entry where
  answered : Instant
  request : Request

variable {σ : Type}

/-- The registrar that writes down what it is asked for. -/
def Registrar.recorded (r : Registrar σ) : Registrar (σ × List Entry) where
  create definition now s :=
    let (later, s', answer) := r.create definition now s.1
    (later, (s', s.2 ++ [⟨later, .created definition answer⟩]), answer)
  get name now s :=
    let (later, s', answer) := r.get name now s.1
    (later, (s', s.2 ++ [⟨later, .got name answer⟩]), answer)
  delete name now s :=
    let (later, s', answer) := r.delete name now s.1
    (later, (s', s.2 ++ [⟨later, .deleted name answer⟩]), answer)

/-- All that a registrar is asked for while the definitions are registered. -/
def requests (r : Registrar σ) (timeout : Duration) (now : Instant) (s : σ) : List Entry :=
  (ensureAll r.recorded timeout now (s, [])).2.1.2

/-- Looking at a definition takes some time, if only none. -/
def Registrar.TakesTime (r : Registrar σ) : Prop := ∀ name now s, now ≤ (r.get name now s).1

/-! ## What can be asked about one definition -/

/-- The looks at a definition while it is waited for, and what the wait comes to. -/
inductive Looks (p : Poll) (name : String) : List Entry → Except Error Unit → Prop where
  | served {moment : Instant} {report : Report} (established : report.isEstablished = true) :
      Looks p name [⟨moment, .got name (.ok report)⟩] (.ok ())
  | expired {moment : Instant} {answer : Except Error Report}
      (unserved : (Request.got name answer).isSight = false)
      (hlong : p.timeout.nanoseconds ≤ moment - p.start) :
      Looks p name [⟨moment, .got name answer⟩] (.error p.expiry)
  | again {moment : Instant} {answer : Except Error Report} {log : List Entry}
      {result : Except Error Unit} (unserved : (Request.got name answer).isSight = false)
      (hshort : moment - p.start < p.timeout.nanoseconds) (rest : Looks p name log result) :
      Looks p name (⟨moment, .got name answer⟩ :: log) result

/-- All that is asked for when a definition is ensured, and what that comes to. -/
inductive Handled (timeout : Duration) (d : Definition) :
    List Entry → Except Error Unit → Prop where
  /-- It is there already. -/
  | present {moment : Instant} {e : Error} (there : e.isAlreadyExists = true) :
      Handled timeout d [⟨moment, .created d (.error e)⟩] (.ok ())
  /-- It cannot be created. -/
  | refused {moment : Instant} {e : Error} (absent : e.isAlreadyExists = false) :
      Handled timeout d [⟨moment, .created d (.error e)⟩] (.error e)
  /-- It is created, and served in time. -/
  | served {moment : Instant} {looks : List Entry}
      (wait : Looks (establishment d.name timeout moment) d.name looks (.ok ())) :
      Handled timeout d (⟨moment, .created d (.ok ())⟩ :: looks) (.ok ())
  /-- It is created, not served in time, and removed again, whether or not that succeeds. -/
  | removed {moment later : Instant} {looks : List Entry} {e : Error} {answer : Except Error Unit}
      (wait : Looks (establishment d.name timeout moment) d.name looks (.error e)) :
      Handled timeout d
        (⟨moment, .created d (.ok ())⟩ :: (looks ++ [⟨later, .deleted d.name answer⟩])) (.error e)

/-- All that is asked for when definitions are ensured one after the other. -/
inductive HandledEach (timeout : Duration) :
    List Definition → List Entry → Except Error Unit → Prop where
  | nil : HandledEach timeout [] [] (.ok ())
  | next {d : Definition} {rest : List Definition} {first log : List Entry}
      {result : Except Error Unit} (handled : Handled timeout d first (.ok ()))
      (later : HandledEach timeout rest log result) :
      HandledEach timeout (d :: rest) (first ++ log) result
  | stop {d : Definition} {rest : List Definition} {log : List Entry} {e : Error}
      (handled : Handled timeout d log (.error e)) :
      HandledEach timeout (d :: rest) log (.error e)

/-! ## Every registration is of that form -/

section Recording

variable {r : Registrar σ}

theorem Registrar.TakesTime.recorded (h : r.TakesTime) : r.recorded.TakesTime :=
  fun name now s => h name now s.1

theorem Registrar.TakesTime.lookAt (h : r.TakesTime) (name : String) (now : Instant) (s : σ) :
    now ≤ (lookAt r name now s).1 := by
  have hget := h name now s
  simp only [Crd.lookAt]
  split <;> simp_all only

/-- A look is a request, and has an answer exactly when the definition is seen to be served. -/
theorem lookAt_eq {name : String} {now later : Instant} {s s' : σ} {answer : Except Error Report}
    (h : r.get name now s = (later, s', answer)) :
    lookAt r name now s =
      (later, s', if (Request.got name answer).isSight then some () else none) := by
  simp only [lookAt, h]
  cases answer <;> rfl

theorem exists_get {name : String} {now later : Instant} {s s' : σ} {seen : Option Unit}
    (h : lookAt r name now s = (later, s', seen)) :
    ∃ answer, r.get name now s = (later, s', answer) ∧
      seen.isSome = (Request.got name answer).isSight := by
  rcases hget : r.get name now s with ⟨moment, outside, answer⟩
  rw [lookAt_eq hget, Prod.mk.injEq, Prod.mk.injEq] at h
  obtain ⟨rfl, rfl, rfl⟩ := h
  refine ⟨answer, rfl, ?_⟩
  cases (Request.got name answer).isSight <;> rfl

/-- A look that is written down. -/
theorem lookAt_recorded {name : String} {now later : Instant} {s s' : σ} {seen : Option Unit}
    (h : lookAt r name now s = (later, s', seen)) :
    ∃ answer, (Request.got name answer).isSight = seen.isSome ∧ ∀ log : List Entry,
      lookAt r.recorded name now (s, log) =
        (later, (s', log ++ [⟨later, .got name answer⟩]), seen) := by
  obtain ⟨answer, hget, hseen⟩ := exists_get h
  refine ⟨answer, hseen.symm, fun log => ?_⟩
  have hrecorded : r.recorded.get name now (s, log) =
      (later, (s', log ++ [⟨later, .got name answer⟩]), answer) := by
    simp only [Registrar.recorded, hget]
  rw [lookAt_eq hrecorded, ← hseen]
  cases seen <;> rfl

/-- A wait that is written down. -/
theorem waits_recorded {p : Poll} {name : String} {now : Instant} {s : σ}
    {outcome : Instant × σ × Except Error Unit} (h : p.Waits (lookAt r name) now s outcome) :
    ∃ looks, Looks p name looks outcome.2.2 ∧ ∀ log : List Entry,
      p.Waits (lookAt r.recorded name) now (s, log)
        (outcome.1, (outcome.2.1, log ++ looks), outcome.2.2) := by
  induction h with
  | ready hattempt =>
    obtain ⟨answer, hsight, hrecorded⟩ := lookAt_recorded hattempt
    cases answer with
    | error e => cases hsight
    | ok report => exact ⟨_, .served hsight, fun log => .ready (hrecorded log)⟩
  | expired hattempt hlong =>
    obtain ⟨answer, hsight, hrecorded⟩ := lookAt_recorded hattempt
    exact ⟨_, .expired hsight hlong, fun log => .expired (hrecorded log) hlong⟩
  | @again _ later _ _ _ hattempt hshort _ ih =>
    obtain ⟨answer, hsight, hrecorded⟩ := lookAt_recorded hattempt
    obtain ⟨looks, hlooks, hwaits⟩ := ih
    refine ⟨_ :: looks, .again hsight hshort hlooks, fun log => .again (hrecorded log) hshort ?_⟩
    have hrest := hwaits (log ++ [⟨later, .got name answer⟩])
    rw [List.append_assoc] at hrest
    exact hrest

theorem establishment_interval_pos (name : String) (timeout : Duration) (start : Instant) :
    0 < (establishment name timeout start).interval.nanoseconds :=
  Poll.usualInterval_pos

/-- What is asked for while a definition is waited for, and that writing it down makes no
difference. -/
theorem run_recorded (takesTime : r.TakesTime) (p : Poll) (hinterval : 0 < p.interval.nanoseconds)
    (name : String) (s : σ) :
    ∃ looks, Looks p name looks (p.run (lookAt r name) s).2.2 ∧ ∀ before : List Entry,
      p.run (lookAt r.recorded name) (s, before) =
        ((p.run (lookAt r name) s).1, ((p.run (lookAt r name) s).2.1, before ++ looks),
          (p.run (lookAt r name) s).2.2) := by
  obtain ⟨looks, hlooks, hwaits⟩ :=
    waits_recorded (Poll.waits_run hinterval (takesTime.lookAt name) s)
  have hrun (before : List Entry) :=
    Poll.waits_run hinterval (takesTime.recorded.lookAt name) (s, before)
  exact ⟨looks, hlooks, fun before => (hrun before).unique (hwaits before)⟩

/-- What is asked for when a definition is ensured, and that writing it down makes no difference. -/
theorem ensure_recorded (takesTime : r.TakesTime) (timeout : Duration) (d : Definition)
    (now : Instant) (s : σ) :
    ∃ log, Handled timeout d log (ensure r timeout d now s).2.2 ∧ ∀ before : List Entry,
      ensure r.recorded timeout d now (s, before) =
        ((ensure r timeout d now s).1, ((ensure r timeout d now s).2.1, before ++ log),
          (ensure r timeout d now s).2.2) := by
  rcases hcreate : r.create d now s with ⟨moment, s₁, answer⟩
  have hcreated (before : List Entry) : r.recorded.create d now (s, before) =
      (moment, (s₁, before ++ [⟨moment, .created d answer⟩]), answer) := by
    simp only [Registrar.recorded, hcreate]
  cases answer with
  | error e =>
    simp only [ensure, hcreate, hcreated]
    refine ⟨_, ?_, fun _ => rfl⟩
    by_cases hthere : e.isAlreadyExists = true
    · rw [if_pos hthere]
      exact .present hthere
    · rw [if_neg hthere]
      exact .refused (Bool.eq_false_iff.mpr hthere)
  | ok =>
    obtain ⟨looks, hlooks, hrun⟩ := run_recorded takesTime (establishment d.name timeout moment)
      (establishment_interval_pos d.name timeout moment) d.name s₁
    simp only [ensure, hcreate, hcreated, hrun]
    -- How the wait is made does not matter any more.
    generalize (establishment d.name timeout moment).run (lookAt r d.name) s₁ = ended at hlooks ⊢
    obtain ⟨later, s₂, result⟩ := ended
    cases result with
    | ok => exact ⟨_, .served hlooks, fun _ => by simp only [settle, List.append_assoc]; rfl⟩
    | error e =>
      rcases hdelete : r.delete d.name later s₂ with ⟨latest, s₃, answer⟩
      have hdeleted (before : List Entry) : r.recorded.delete d.name later (s₂, before) =
          (latest, (s₃, before ++ [⟨latest, .deleted d.name answer⟩]), answer) := by
        simp only [Registrar.recorded, hdelete]
      simp only [settle, hdelete, hdeleted, List.append_assoc]
      exact ⟨_, .removed hlooks, fun _ => rfl⟩

/-- What is asked for when definitions are ensured one after the other, and that writing it down
makes no difference. -/
theorem ensureEach_recorded (takesTime : r.TakesTime) (timeout : Duration)
    (definitions : List Definition) (now : Instant) (s : σ) :
    ∃ log, HandledEach timeout definitions log (ensureEach r timeout definitions now s).2.2 ∧
      ∀ before : List Entry, ensureEach r.recorded timeout definitions now (s, before) =
        ((ensureEach r timeout definitions now s).1,
          ((ensureEach r timeout definitions now s).2.1, before ++ log),
          (ensureEach r timeout definitions now s).2.2) := by
  induction definitions generalizing now s with
  | nil => exact ⟨[], .nil, fun before => by rw [List.append_nil]; rfl⟩
  | cons d rest ih =>
    obtain ⟨first, hfirst, hensure⟩ := ensure_recorded takesTime timeout d now s
    simp only [ensureEach, hensure]
    generalize ensure r timeout d now s = ensured at hfirst ⊢
    obtain ⟨later, s', result⟩ := ensured
    cases result with
    | ok =>
      obtain ⟨log, hlog, hrest⟩ := ih later s'
      refine ⟨first ++ log, .next hfirst hlog, fun before => ?_⟩
      simp only [hrest, List.append_assoc]
    | error e => exact ⟨first, .stop hfirst, fun _ => rfl⟩

/-- A registration goes on in the same way when it is recorded. -/
theorem ensureAll_recorded (takesTime : r.TakesTime) (timeout : Duration) (now : Instant) (s : σ) :
    ensureAll r.recorded timeout now (s, []) =
      ((ensureAll r timeout now s).1,
        ((ensureAll r timeout now s).2.1, requests r timeout now s),
        (ensureAll r timeout now s).2.2) := by
  obtain ⟨log, -, hrecorded⟩ := ensureEach_recorded takesTime timeout all now s
  rw [requests, ensureAll, hrecorded []]
  rfl

/-- A registration asks for what it takes to handle every definition, up to the first failure. -/
theorem handledEach_requests (takesTime : r.TakesTime) (timeout : Duration) (now : Instant)
    (s : σ) :
    HandledEach timeout all (requests r timeout now s) (ensureAll r timeout now s).2.2 := by
  obtain ⟨log, hlog, hrecorded⟩ := ensureEach_recorded takesTime timeout all now s
  rw [requests, ensureAll, hrecorded []]
  exact hlog

end Recording

/-! ## What a registration comes to -/

/-- A request with which a registration fails: the creation of a definition is refused, or a
definition that was created is still not served when its time is up. -/
inductive Fails (timeout : Duration) (log : List Entry) : Entry → Error → Prop where
  | refused {moment : Instant} {d : Definition} {e : Error} (absent : e.isAlreadyExists = false) :
      Fails timeout log ⟨moment, .created d (.error e)⟩ e
  | expired {began moment : Instant} {d : Definition} {answer : Except Error Report}
      (created : ⟨began, .created d (.ok ())⟩ ∈ log)
      (unserved : (Request.got d.name answer).isSight = false)
      (hlong : timeout.nanoseconds ≤ moment - began) :
      Fails timeout log ⟨moment, .got d.name answer⟩ (establishment d.name timeout began).expiry

/-- A definition was there before. -/
def IsThere (log : List Entry) (d : Definition) : Prop :=
  ∃ moment e, e.isAlreadyExists = true ∧ ⟨moment, .created d (.error e)⟩ ∈ log

/-- A definition was created, and seen to be served afterwards. -/
def IsServed (log : List Entry) (d : Definition) : Prop :=
  ∃ began moment report, report.isEstablished = true ∧
    [⟨began, .created d (.ok ())⟩, ⟨moment, .got d.name (.ok report)⟩].Sublist log

/-- A removal has the reason that it should have: the definition was created before, was then looked
at until its time was up, and was never seen to be served. -/
structure IsWarranted (timeout : Duration) (log : List Entry) (removal : Entry) (d : Definition) :
    Prop where
  about : removal.request.subject = d.name
  waited : ∃ began moment answer, timeout.nanoseconds ≤ moment - began ∧
    [⟨began, .created d (.ok ())⟩, ⟨moment, .got d.name answer⟩, removal].Sublist log
  unserved : ∀ entry ∈ log, entry.request.subject = d.name → entry.request.isSight = false

/-- What can be said about a registration of definitions. -/
structure IsRegistered (timeout : Duration) (definitions : List Definition) (log : List Entry)
    (result : Except Error Unit) : Prop where
  /-- The definitions are created in order, as far as they are. -/
  created : log.filterMap (fun entry => entry.request.created?) <+: definitions
  /-- What is asked about a definition is asked before anything about a later one. -/
  ordered : log.Pairwise fun a b => a.request.subject = b.request.subject ∨
    [a.request.subject, b.request.subject].Sublist (definitions.map Definition.name)
  removed : ∀ entry ∈ log, entry.request.isRemoval = true →
    ∃ d ∈ definitions, IsWarranted timeout log entry d
  ok_iff : result = .ok () ↔ ∀ d ∈ definitions, IsThere log d ∨ IsServed log d
  error_iff (e : Error) : result = .error e ↔ ∃ entry ∈ log, Fails timeout log entry e
  /-- All that follows a failure is a removal. -/
  stops : log.Pairwise fun a b => ∀ e, Fails timeout log a e → b.request.isRemoval = true
  /-- Nothing else is asked about a definition that is there. -/
  spared : ∀ moment d e, ⟨moment, .created d (.error e)⟩ ∈ log → e.isAlreadyExists = true →
    ∀ entry ∈ log, entry.request.subject = d.name → entry = ⟨moment, .created d (.error e)⟩

namespace Fails

variable {timeout : Duration} {log : List Entry} {entry : Entry} {e : Error}

theorem of_created {moment : Instant} {d : Definition} {answer : Except Error Unit}
    (h : Fails timeout log ⟨moment, .created d answer⟩ e) :
    answer = .error e ∧ e.isAlreadyExists = false := by
  cases h with
  | refused absent => exact ⟨rfl, absent⟩

theorem of_got {moment : Instant} {name : String} {answer : Except Error Report}
    (h : Fails timeout log ⟨moment, .got name answer⟩ e) :
    ∃ began d, d.name = name ∧ ⟨began, .created d (.ok ())⟩ ∈ log ∧
      (Request.got name answer).isSight = false ∧ timeout.nanoseconds ≤ moment - began ∧
      e = (establishment name timeout began).expiry := by
  cases h with
  | expired created unserved hlong => exact ⟨_, _, rfl, created, unserved, hlong, rfl⟩

/-- Whether a request fails is up to the requests about the same definition. -/
theorem congr {log' : List Entry} (h : Fails timeout log entry e)
    (hsame : ∀ other ∈ log, other.request.subject = entry.request.subject → other ∈ log') :
    Fails timeout log' entry e := by
  cases h with
  | refused absent => exact .refused absent
  | expired created unserved hlong => exact .expired (hsame _ created rfl) unserved hlong

end Fails

/-- A look in vain after which there is still time. -/
structure IsEarly (p : Poll) (name : String) (entry : Entry) : Prop where
  got : ∃ answer, entry.request = .got name answer
  unserved : entry.request.isSight = false
  short : entry.answered - p.start < p.timeout.nanoseconds

namespace Looks

variable {p : Poll} {name : String} {looks : List Entry} {result : Except Error Unit}

/-- All looks but the last are in vain, and made in time. -/
theorem exists_last (h : Looks p name looks result) :
    ∃ before last, looks = before ++ [last] ∧ Looks p name [last] result ∧
      ∀ entry ∈ before, IsEarly p name entry := by
  induction h with
  | served established => exact ⟨[], _, rfl, .served established, fun _ h => nomatch h⟩
  | expired unserved hlong => exact ⟨[], _, rfl, .expired unserved hlong, fun _ h => nomatch h⟩
  | again unserved hshort _ ih =>
    obtain ⟨before, last, rfl, hlast, hbefore⟩ := ih
    refine ⟨_ :: before, last, rfl, hlast, fun entry hentry => ?_⟩
    cases hentry with
    | head => exact ⟨⟨_, rfl⟩, unserved, hshort⟩
    | tail _ hentry => exact hbefore entry hentry

theorem not_nil : ¬ Looks p name [] result := nofun

/-- A wait that ends well ends with a look at which the definition is served. -/
theorem of_ok (h : Looks p name looks (.ok ())) :
    ∃ before moment report, report.isEstablished = true ∧
      looks = before ++ [⟨moment, .got name (.ok report)⟩] ∧
      ∀ entry ∈ before, IsEarly p name entry := by
  obtain ⟨before, last, rfl, hlast, hbefore⟩ := h.exists_last
  cases hlast with
  | served established => exact ⟨before, _, _, established, rfl, hbefore⟩
  | again _ _ rest => exact absurd rest not_nil

/-- A wait that ends badly ends with a look in vain for which the time is up. -/
theorem of_error {e : Error} (h : Looks p name looks (.error e)) :
    e = p.expiry ∧ ∃ before moment answer, (Request.got name answer).isSight = false ∧
      p.timeout.nanoseconds ≤ moment - p.start ∧
      looks = before ++ [⟨moment, .got name answer⟩] ∧
      ∀ entry ∈ before, IsEarly p name entry := by
  obtain ⟨before, last, rfl, hlast, hbefore⟩ := h.exists_last
  cases hlast with
  | expired unserved hlong => exact ⟨rfl, before, _, _, unserved, hlong, rfl, hbefore⟩
  | again _ _ rest => exact absurd rest not_nil

/-- What holds of every look at a definition. -/
theorem forall_request {P : Request → Prop} (h : Looks p name looks result)
    (hP : ∀ answer, P (.got name answer)) : ∀ entry ∈ looks, P entry.request := by
  induction h with
  | served | expired => exact List.forall_mem_singleton.mpr (hP _)
  | again _ _ _ ih => exact List.forall_mem_cons.mpr ⟨hP _, ih⟩

theorem subject_eq (h : Looks p name looks result) :
    ∀ entry ∈ looks, entry.request.subject = name :=
  h.forall_request (P := fun request => request.subject = name) fun _ => rfl

theorem created?_eq_none (h : Looks p name looks result) :
    ∀ entry ∈ looks, entry.request.created? = none :=
  h.forall_request (P := fun request => request.created? = none) fun _ => rfl

theorem isRemoval_eq_false (h : Looks p name looks result) :
    ∀ entry ∈ looks, entry.request.isRemoval = false :=
  h.forall_request (P := fun request => request.isRemoval = false) fun _ => rfl

theorem isSight_of_error {e : Error} (h : Looks p name looks (.error e)) :
    ∀ entry ∈ looks, entry.request.isSight = false := by
  obtain ⟨-, before, moment, answer, unserved, -, rfl, hbefore⟩ := h.of_error
  intro entry hentry
  obtain hentry | hentry := List.mem_append.mp hentry
  · exact (hbefore entry hentry).unserved
  · cases List.mem_singleton.mp hentry
    exact unserved

end Looks

namespace Handled

variable {timeout : Duration} {d : Definition} {log : List Entry} {result : Except Error Unit}

/-- The first request is to create the definition, and no other one is. Where it fails, there is no
other one. -/
theorem exists_cons (h : Handled timeout d log result) :
    ∃ moment answer rest, log = ⟨moment, .created d answer⟩ :: rest ∧
      (∀ entry ∈ rest, entry.request.subject = d.name ∧ entry.request.created? = none) ∧
      ∀ e, answer = .error e →
        rest = [] ∧ result = if e.isAlreadyExists then .ok () else .error e := by
  cases h with
  | present there =>
    refine ⟨_, _, [], rfl, fun _ h => (nomatch h), ?_⟩
    rintro e ⟨⟩
    exact ⟨rfl, (if_pos there).symm⟩
  | refused absent =>
    refine ⟨_, _, [], rfl, fun _ h => (nomatch h), ?_⟩
    rintro e ⟨⟩
    exact ⟨rfl, (if_neg (Bool.eq_false_iff.mp absent)).symm⟩
  | served wait =>
    refine ⟨_, _, _, rfl, fun entry hentry => ?_, nofun⟩
    exact ⟨wait.subject_eq entry hentry, wait.created?_eq_none entry hentry⟩
  | removed wait =>
    refine ⟨_, _, _, rfl, List.forall_mem_append.mpr ⟨fun entry hentry => ?_, ?_⟩, nofun⟩
    · exact ⟨wait.subject_eq entry hentry, wait.created?_eq_none entry hentry⟩
    · exact List.forall_mem_singleton.mpr ⟨rfl, rfl⟩

theorem subject_eq (h : Handled timeout d log result) :
    ∀ entry ∈ log, entry.request.subject = d.name := by
  obtain ⟨moment, answer, rest, rfl, hrest, -⟩ := h.exists_cons
  exact List.forall_mem_cons.mpr ⟨rfl, fun entry hentry => (hrest entry hentry).1⟩

theorem created (h : Handled timeout d log result) :
    log.filterMap (fun entry => entry.request.created?) = [d] := by
  obtain ⟨moment, answer, rest, rfl, hrest, -⟩ := h.exists_cons
  rw [List.filterMap_cons,
    List.filterMap_eq_nil_iff.mpr fun entry hentry => (hrest entry hentry).2]
  rfl

/-- A request to create something is the first one. -/
theorem of_created (h : Handled timeout d log result) {moment : Instant} {d' : Definition}
    {answer : Except Error Unit} (hcreated : ⟨moment, .created d' answer⟩ ∈ log) :
    ∃ rest, log = ⟨moment, .created d answer⟩ :: rest ∧ d' = d ∧ ∀ e, answer = .error e →
      rest = [] ∧ result = if e.isAlreadyExists then .ok () else .error e := by
  obtain ⟨moment', answer', rest, rfl, hrest, hfailed⟩ := h.exists_cons
  cases hcreated with
  | head => exact ⟨rest, rfl, rfl, hfailed⟩
  | tail _ hcreated => cases (hrest _ hcreated).2

/-- A definition that is there is not asked about any more. -/
theorem eq_of_isThere (h : Handled timeout d log result) {moment : Instant} {d' : Definition}
    {e : Error} (hcreated : ⟨moment, .created d' (.error e)⟩ ∈ log)
    (there : e.isAlreadyExists = true) :
    log = [⟨moment, .created d' (.error e)⟩] ∧ result = .ok () := by
  obtain ⟨rest, rfl, rfl, hfailed⟩ := h.of_created hcreated
  obtain ⟨rfl, hresult⟩ := hfailed e rfl
  exact ⟨rfl, hresult.trans (if_pos there)⟩

theorem isThere_or_isServed (h : Handled timeout d log (.ok ())) :
    IsThere log d ∨ IsServed log d := by
  cases h with
  | present there => exact .inl ⟨_, _, there, List.mem_singleton_self _⟩
  | served wait =>
    obtain ⟨before, moment, report, established, rfl, -⟩ := wait.of_ok
    exact .inr ⟨_, moment, report, established, (List.sublist_append_right ..).cons_cons _⟩

/-- A definition that fails was not seen to be served. -/
theorem isSight_of_error {e : Error} (h : Handled timeout d log (.error e)) :
    ∀ entry ∈ log, entry.request.isSight = false := by
  cases h with
  | refused => exact List.forall_mem_singleton.mpr rfl
  | removed wait =>
    refine List.forall_mem_cons.mpr ⟨rfl, List.forall_mem_append.mpr ⟨wait.isSight_of_error, ?_⟩⟩
    exact List.forall_mem_singleton.mpr rfl

/-- No look fails before the time is up. -/
theorem not_fails_of_isEarly (h : Handled timeout d log result) {began : Instant}
    {rest : List Entry} (hlog : log = ⟨began, .created d (.ok ())⟩ :: rest) {entry : Entry}
    (early : IsEarly (establishment d.name timeout began) d.name entry) (e : Error) :
    ¬ Fails timeout log entry e := by
  intro hfails
  obtain ⟨moment, request⟩ := entry
  obtain ⟨⟨answer, rfl⟩, -, hshort⟩ := early
  obtain ⟨began', d', -, hcreated, -, hlong, -⟩ := hfails.of_got
  obtain ⟨looks, hlooks, -⟩ := h.of_created hcreated
  cases hlog.symm.trans hlooks
  exact Nat.not_le_of_lt hshort hlong

theorem exists_fails {e : Error} (h : Handled timeout d log (.error e)) :
    ∃ entry ∈ log, Fails timeout log entry e := by
  cases h with
  | refused absent => exact ⟨_, List.mem_singleton_self _, .refused absent⟩
  | removed wait =>
    obtain ⟨rfl, before, moment, answer, unserved, hlong, rfl, -⟩ := wait.of_error
    exact ⟨⟨moment, .got d.name answer⟩, by simp, .expired (List.mem_cons_self ..) unserved hlong⟩

/-- What fails is a result. -/
theorem eq_error_of_fails (h : Handled timeout d log result) {entry : Entry} (hentry : entry ∈ log)
    {e : Error} (hfails : Fails timeout log entry e) : result = .error e := by
  have hlog := h
  cases h with
  | present there =>
    cases List.mem_singleton.mp hentry
    obtain ⟨heq, absent⟩ := hfails.of_created
    cases heq
    rw [there] at absent
    cases absent
  | refused =>
    cases List.mem_singleton.mp hentry
    obtain ⟨heq, -⟩ := hfails.of_created
    exact heq
  | served wait =>
    obtain ⟨before, moment, report, established, rfl, hbefore⟩ := wait.of_ok
    rw [List.mem_cons, List.mem_append, List.mem_singleton] at hentry
    obtain rfl | hentry | rfl := hentry
    · cases hfails.of_created.1
    · exact absurd hfails (hlog.not_fails_of_isEarly rfl (hbefore entry hentry) e)
    · obtain ⟨-, -, -, -, unserved, -⟩ := hfails.of_got
      rw [Request.isSight, established] at unserved
      cases unserved
  | removed wait =>
    obtain ⟨rfl, before, moment, answer, -, -, rfl, hbefore⟩ := wait.of_error
    simp only [List.mem_cons, List.mem_append, List.not_mem_nil, or_false] at hentry
    obtain rfl | (hentry | rfl) | rfl := hentry
    · cases hfails.of_created.1
    · exact absurd hfails (hlog.not_fails_of_isEarly rfl (hbefore entry hentry) e)
    · obtain ⟨-, -, -, -, -, -, rfl⟩ := hfails.of_got
      rfl
    · cases hfails

/-- Nothing but a removal follows a failure. -/
theorem stops (h : Handled timeout d log result) :
    log.Pairwise fun a b => ∀ e, Fails timeout log a e → b.request.isRemoval = true := by
  have hlog := h
  cases h with
  | present | refused => exact List.pairwise_singleton ..
  | served =>
    -- Nothing fails.
    refine List.pairwise_of_forall_mem_list fun a ha _ _ e hfails => ?_
    cases hlog.eq_error_of_fails ha hfails
  | removed wait =>
    obtain ⟨-, before, moment, answer, -, -, rfl, hbefore⟩ := wait.of_error
    rw [List.append_assoc] at hlog ⊢
    refine List.pairwise_cons.mpr ⟨fun _ _ e hfails => ?_, List.pairwise_append.mpr
      ⟨?_, ?_, fun a ha _ _ e hfails => ?_⟩⟩
    · cases hfails.of_created.1
    · refine List.pairwise_of_forall_mem_list fun a ha _ _ e hfails => ?_
      exact absurd hfails (hlog.not_fails_of_isEarly rfl (hbefore a ha) e)
    · simp [Request.isRemoval]
    · exact absurd hfails (hlog.not_fails_of_isEarly rfl (hbefore a ha) e)

/-- A removal is the end of a wait in vain. -/
theorem of_isRemoval (h : Handled timeout d log result) {entry : Entry} (hentry : entry ∈ log)
    (hremoval : entry.request.isRemoval = true) : IsWarranted timeout log entry d := by
  have hlog := h
  cases h with
  | present | refused =>
    cases List.mem_singleton.mp hentry
    cases hremoval
  | served wait =>
    cases hentry with
    | head => cases hremoval
    | tail _ hentry =>
      rw [wait.isRemoval_eq_false entry hentry] at hremoval
      cases hremoval
  | removed wait =>
    rw [List.mem_cons, List.mem_append, List.mem_singleton] at hentry
    obtain rfl | hentry | rfl := hentry
    · cases hremoval
    · rw [wait.isRemoval_eq_false entry hentry] at hremoval
      cases hremoval
    · obtain ⟨-, before, moment, answer, -, hlong, rfl, -⟩ := wait.of_error
      refine ⟨rfl, ⟨_, moment, answer, hlong, .cons_cons _ ?_⟩, fun other hother _ =>
        hlog.isSight_of_error other hother⟩
      rw [List.append_assoc]
      exact List.sublist_append_right ..

end Handled

/-! ### One definition after the other -/

/-- What is asked about one definition. -/
def about (name : String) (log : List Entry) : List Entry :=
  log.filter fun entry => entry.request.subject = name

theorem mem_about {name : String} {log : List Entry} {entry : Entry} :
    entry ∈ about name log ↔ entry ∈ log ∧ entry.request.subject = name := by
  rw [about, List.mem_filter, decide_eq_true_iff]

theorem about_sublist (name : String) (log : List Entry) : (about name log).Sublist log :=
  List.filter_sublist

theorem about_append (name : String) (log log' : List Entry) :
    about name (log ++ log') = about name log ++ about name log' :=
  List.filter_append ..

theorem about_eq_self {name : String} {log : List Entry}
    (h : ∀ entry ∈ log, entry.request.subject = name) : about name log = log :=
  List.filter_eq_self.mpr fun entry hentry => decide_eq_true (h entry hentry)

theorem about_eq_nil {name : String} {log : List Entry}
    (h : ∀ entry ∈ log, entry.request.subject ≠ name) : about name log = [] :=
  List.filter_eq_nil_iff.mpr fun entry hentry => by simp [h entry hentry]

theorem IsThere.of_about {name : String} {log : List Entry} {d : Definition}
    (h : IsThere (about name log) d) : IsThere log d := by
  obtain ⟨moment, e, there, hcreated⟩ := h
  exact ⟨moment, e, there, (mem_about.mp hcreated).1⟩

theorem IsServed.of_about {name : String} {log : List Entry} {d : Definition}
    (h : IsServed (about name log) d) : IsServed log d := by
  obtain ⟨began, moment, report, established, hserved⟩ := h
  exact ⟨began, moment, report, established, hserved.trans (about_sublist name log)⟩

/-- What fails, fails by what is asked about one definition. -/
theorem fails_about_iff {timeout : Duration} {log : List Entry} {entry : Entry} {e : Error} :
    Fails timeout (about entry.request.subject log) entry e ↔ Fails timeout log entry e :=
  ⟨fun h => h.congr fun _ hother _ => (mem_about.mp hother).1,
    fun h => h.congr fun _ hother hsame => mem_about.mpr ⟨hother, hsame⟩⟩

namespace HandledEach

variable {timeout : Duration} {definitions : List Definition} {log : List Entry}
  {result : Except Error Unit}

theorem exists_subject_eq (h : HandledEach timeout definitions log result) :
    ∀ entry ∈ log, ∃ d ∈ definitions, entry.request.subject = d.name := by
  induction h with
  | nil => exact fun _ h => nomatch h
  | next handled _ ih =>
    refine List.forall_mem_append.mpr ⟨fun entry hentry => ?_, fun entry hentry => ?_⟩
    · exact ⟨_, List.mem_cons_self .., handled.subject_eq entry hentry⟩
    · obtain ⟨d, hd, hsubject⟩ := ih entry hentry
      exact ⟨d, List.mem_cons_of_mem _ hd, hsubject⟩
  | stop handled =>
    exact fun entry hentry => ⟨_, List.mem_cons_self .., handled.subject_eq entry hentry⟩

theorem created (h : HandledEach timeout definitions log result) :
    log.filterMap (fun entry => entry.request.created?) <+: definitions := by
  induction h with
  | nil => exact List.prefix_refl []
  | next handled _ ih =>
    rw [List.filterMap_append, handled.created]
    exact List.prefix_cons_inj _ |>.mpr ih
  | stop handled =>
    rw [handled.created]
    exact List.prefix_append [_] _

theorem ordered (h : HandledEach timeout definitions log result) :
    log.Pairwise fun a b => a.request.subject = b.request.subject ∨
      [a.request.subject, b.request.subject].Sublist (definitions.map Definition.name) := by
  have of_handled {d : Definition} {first : List Entry} {result : Except Error Unit}
      (handled : Handled timeout d first result) (names : List String) :
      first.Pairwise fun a b => a.request.subject = b.request.subject ∨
        [a.request.subject, b.request.subject].Sublist names :=
    List.pairwise_of_forall_mem_list fun a ha b hb =>
      .inl ((handled.subject_eq a ha).trans (handled.subject_eq b hb).symm)
  induction h with
  | nil => exact .nil
  | next handled later ih =>
    refine List.pairwise_append.mpr ⟨of_handled handled _, ih.imp ?_, fun a ha b hb => .inr ?_⟩
    · exact fun h => h.imp_right fun h => h.cons _
    · obtain ⟨d, hd, hsubject⟩ := later.exists_subject_eq b hb
      rw [handled.subject_eq a ha, hsubject]
      exact (List.singleton_sublist.mpr (List.mem_map_of_mem hd)).cons_cons _
  | stop handled => exact of_handled handled _

section Parts

variable {d d₀ : Definition} {rest : List Definition} {first : List Entry}

theorem about_skipped (handled : Handled timeout d₀ first result)
    (fresh : d₀.name ∉ rest.map Definition.name) (hd : d ∈ rest) : about d.name first = [] :=
  about_eq_nil fun entry hentry hsubject =>
    fresh ((handled.subject_eq entry hentry).symm.trans hsubject ▸ List.mem_map_of_mem hd)

/-- What is asked about the first of some definitions. -/
theorem about_first (handled : Handled timeout d₀ first (.ok ()))
    (later : HandledEach timeout rest log result) (fresh : d₀.name ∉ rest.map Definition.name) :
    about d₀.name (first ++ log) = first := by
  have hlog : about d₀.name log = [] := about_eq_nil fun entry hentry hsubject => by
    obtain ⟨d, hd, hname⟩ := later.exists_subject_eq entry hentry
    exact fresh (hsubject.symm.trans hname ▸ List.mem_map_of_mem hd)
  rw [about_append, about_eq_self handled.subject_eq, hlog, List.append_nil]

/-- What is asked about a later one. -/
theorem about_later (handled : Handled timeout d₀ first (.ok ()))
    (fresh : d₀.name ∉ rest.map Definition.name) (hd : d ∈ rest) :
    about d.name (first ++ log) = about d.name log := by
  rw [about_append, about_skipped handled fresh hd, List.nil_append]

end Parts

/-- What is asked about each definition handles it, and fails only if all of it fails; nothing is
asked about the definitions after one that fails. -/
theorem about_cases (h : HandledEach timeout definitions log result)
    (distinct : (definitions.map Definition.name).Nodup) {d : Definition} (hd : d ∈ definitions) :
    (∃ result', Handled timeout d (about d.name log) result' ∧
      (result' = .ok () ∨ result' = result)) ∨
    about d.name log = [] ∧ result ≠ .ok () := by
  induction h with
  | nil => cases hd
  | next handled later ih =>
    obtain ⟨fresh, distinct⟩ := List.nodup_cons.mp distinct
    cases hd with
    | head =>
      rw [about_first handled later fresh]
      exact .inl ⟨_, handled, .inl rfl⟩
    | tail _ hd =>
      rw [about_later handled fresh hd]
      exact ih distinct hd
  | stop handled =>
    cases hd with
    | head =>
      rw [about_eq_self handled.subject_eq]
      exact .inl ⟨_, handled, .inr rfl⟩
    | tail _ hd => exact .inr ⟨about_skipped handled (List.nodup_cons.mp distinct).1 hd, nofun⟩

/-- What fails is the handling of one definition. -/
theorem exists_failed {e : Error} (h : HandledEach timeout definitions log (.error e))
    (distinct : (definitions.map Definition.name).Nodup) :
    ∃ d ∈ definitions, Handled timeout d (about d.name log) (.error e) := by
  generalize hresult : Except.error e = result at h
  induction h with
  | nil => cases hresult
  | next handled _ ih =>
    obtain ⟨fresh, distinct⟩ := List.nodup_cons.mp distinct
    obtain ⟨d, hd, failed⟩ := ih distinct hresult
    exact ⟨d, List.mem_cons_of_mem _ hd, by rwa [about_later handled fresh hd]⟩
  | stop handled =>
    cases hresult
    exact ⟨_, List.mem_cons_self .., by rwa [about_eq_self handled.subject_eq]⟩

/-- What is asked about the definition that a request is about, and what that comes to. -/
theorem exists_handled (h : HandledEach timeout definitions log result)
    (distinct : (definitions.map Definition.name).Nodup) {entry : Entry} (hentry : entry ∈ log) :
    ∃ d ∈ definitions, ∃ result', entry ∈ about d.name log ∧ entry.request.subject = d.name ∧
      Handled timeout d (about d.name log) result' ∧ (result' = .ok () ∨ result' = result) := by
  obtain ⟨d, hd, hsubject⟩ := h.exists_subject_eq entry hentry
  have habout : entry ∈ about d.name log := mem_about.mpr ⟨hentry, hsubject⟩
  obtain ⟨result', handled, hresult⟩ | ⟨hnil, -⟩ := h.about_cases distinct hd
  · exact ⟨d, hd, result', habout, hsubject, handled, hresult⟩
  · rw [hnil] at habout
    cases habout

theorem ok_iff (h : HandledEach timeout definitions log result)
    (distinct : (definitions.map Definition.name).Nodup) :
    result = .ok () ↔ ∀ d ∈ definitions, IsThere log d ∨ IsServed log d := by
  constructor
  · rintro rfl d hd
    obtain ⟨result', handled, rfl | rfl⟩ | ⟨-, hne⟩ := h.about_cases distinct hd
    · exact handled.isThere_or_isServed.imp .of_about .of_about
    · exact handled.isThere_or_isServed.imp .of_about .of_about
    · exact absurd rfl hne
  · intro hall
    cases result with
    | ok => rfl
    | error e =>
      obtain ⟨d, hd, failed⟩ := h.exists_failed distinct
      obtain ⟨moment, e', there, hcreated⟩ | ⟨began, moment, report, established, hserved⟩ :=
        hall d hd
      · cases (failed.eq_of_isThere (mem_about.mpr ⟨hcreated, rfl⟩) there).2
      · have hseen : ⟨moment, .got d.name (.ok report)⟩ ∈ log := hserved.subset (by simp)
        have hunseen := failed.isSight_of_error _ (mem_about.mpr ⟨hseen, rfl⟩)
        rw [Request.isSight, established] at hunseen
        cases hunseen

theorem eq_error_of_fails (h : HandledEach timeout definitions log result)
    (distinct : (definitions.map Definition.name).Nodup) {entry : Entry} (hentry : entry ∈ log)
    {e : Error} (hfails : Fails timeout log entry e) : result = .error e := by
  obtain ⟨d, -, result', habout, hsubject, handled, hresult⟩ := h.exists_handled distinct hentry
  rw [← fails_about_iff, hsubject] at hfails
  obtain rfl | rfl := hresult
  · cases handled.eq_error_of_fails habout hfails
  · exact handled.eq_error_of_fails habout hfails

theorem error_iff (h : HandledEach timeout definitions log result)
    (distinct : (definitions.map Definition.name).Nodup) (e : Error) :
    result = .error e ↔ ∃ entry ∈ log, Fails timeout log entry e := by
  constructor
  · rintro rfl
    obtain ⟨d, -, failed⟩ := h.exists_failed distinct
    obtain ⟨entry, habout, hfails⟩ := failed.exists_fails
    obtain ⟨hentry, hsubject⟩ := mem_about.mp habout
    rw [← hsubject] at hfails
    exact ⟨entry, hentry, fails_about_iff.mp hfails⟩
  · rintro ⟨entry, hentry, hfails⟩
    exact h.eq_error_of_fails distinct hentry hfails

theorem stops (h : HandledEach timeout definitions log result)
    (distinct : (definitions.map Definition.name).Nodup) :
    log.Pairwise fun a b => ∀ e, Fails timeout log a e → b.request.isRemoval = true := by
  induction h with
  | nil => exact .nil
  | stop handled => exact handled.stops
  | @next d₀ rest first log result handled later ih =>
    obtain ⟨fresh, distinct⟩ := List.nodup_cons.mp distinct
    have hfirst : ∀ a ∈ first, ∀ e, ¬ Fails timeout (first ++ log) a e := by
      intro a ha e hfails
      rw [← fails_about_iff, handled.subject_eq a ha, about_first handled later fresh] at hfails
      cases handled.eq_error_of_fails ha hfails
    refine List.pairwise_append.mpr
      ⟨List.pairwise_of_forall_mem_list fun a ha _ _ e hfails => absurd hfails (hfirst a ha e),
        (ih distinct).imp_of_mem fun {a b} ha _ h e hfails => ?_,
        fun a ha _ _ e hfails => absurd hfails (hfirst a ha e)⟩
    obtain ⟨d, hd, hsubject⟩ := later.exists_subject_eq a ha
    rw [← fails_about_iff, hsubject, about_later handled fresh hd, ← hsubject,
      fails_about_iff] at hfails
    exact h e hfails

theorem spared (h : HandledEach timeout definitions log result)
    (distinct : (definitions.map Definition.name).Nodup) {moment : Instant} {d : Definition}
    {e : Error} (hcreated : ⟨moment, .created d (.error e)⟩ ∈ log)
    (there : e.isAlreadyExists = true) {entry : Entry} (hentry : entry ∈ log)
    (hsubject : entry.request.subject = d.name) : entry = ⟨moment, .created d (.error e)⟩ := by
  obtain ⟨d', -, result', habout, hname, handled, -⟩ := h.exists_handled distinct hcreated
  have hlog := (handled.eq_of_isThere habout there).1
  have hmem : entry ∈ about d'.name log := mem_about.mpr ⟨hentry, hsubject.trans hname⟩
  rw [hlog] at hmem
  exact List.mem_singleton.mp hmem

theorem removed (h : HandledEach timeout definitions log result)
    (distinct : (definitions.map Definition.name).Nodup) {entry : Entry} (hentry : entry ∈ log)
    (hremoval : entry.request.isRemoval = true) :
    ∃ d ∈ definitions, IsWarranted timeout log entry d := by
  obtain ⟨d, hd, result', habout, hsubject, handled, -⟩ := h.exists_handled distinct hentry
  obtain ⟨-, ⟨began, moment, answer, hlong, hwaited⟩, hunserved⟩ :=
    handled.of_isRemoval habout hremoval
  exact ⟨d, hd, hsubject, ⟨began, moment, answer, hlong, hwaited.trans (about_sublist d.name log)⟩,
    fun other hother hsame => hunserved other (mem_about.mpr ⟨hother, hsame⟩) hsame⟩

theorem isRegistered (h : HandledEach timeout definitions log result)
    (distinct : (definitions.map Definition.name).Nodup) :
    IsRegistered timeout definitions log result where
  created := h.created
  ordered := h.ordered
  removed _ hentry hremoval := h.removed distinct hentry hremoval
  ok_iff := h.ok_iff distinct
  error_iff := h.error_iff distinct
  stops := h.stops distinct
  spared _ _ _ hcreated there _ hentry hsubject :=
    h.spared distinct hcreated there hentry hsubject

end HandledEach

/-! ## The definitions of the operator -/

theorem nodup_name : (all.map Definition.name).Nodup := by decide

/-- Whatever is answered and however long it takes: registering the definitions removes none but
those that were created by it and not served in time, and ends with the first failure. -/
theorem isRegistered_ensureAll {r : Registrar σ} (takesTime : r.TakesTime) (timeout : Duration)
    (now : Instant) (s : σ) :
    IsRegistered timeout all (requests r timeout now s) (ensureAll r timeout now s).2.2 :=
  (handledEach_requests takesTime timeout now s).isRegistered nodup_name

/-- A registrar that has the first definition already, creates all others, takes 300 ms to say that
they are not served, and removes none. -/
def stubborn : Registrar Nat where
  create _ now n :=
    let refusal : ApiFailure :=
      { status := "Failure", message := "", reason := "AlreadyExists", code := 409 }
    (now, n + 1, if n = 0 then .error (.api refusal) else .ok ())
  get _ now n := (now + 300000000, n, .ok {})
  delete _ now n := (now, n, .error (.internal "not now"))

theorem isRegistered_ensureAll_stubborn :
    stubborn.TakesTime ∧ (ensureAll stubborn (.ofMillis 1000) 0 0).2.2.toOption = none ∧
      (requests stubborn (.ofMillis 1000) 0 0).map (fun entry => entry.request.isRemoval) =
        [false, false, false, false, true] ∧
      IsRegistered (.ofMillis 1000) all (requests stubborn (.ofMillis 1000) 0 0)
        (ensureAll stubborn (.ofMillis 1000) 0 0).2.2 := by
  have takesTime : stubborn.TakesTime := fun _ now _ => Nat.le_add_right now _
  exact ⟨takesTime, by decide, by decide, isRegistered_ensureAll takesTime _ 0 0⟩

end BatchOperator.Crd
