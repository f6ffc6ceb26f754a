import BatchOperator.Config
import BatchOperator.Proofs.Text.Numeral

/-!
# What variables give for settings

`Config.Setting` lists the settings, each with the variable that it is read from and with what the
variable gives for it (`Setting.Gives`): what its text means, or a default in its absence. Each
reader gives what its variable gives (`Setting.read_eq_ok_iff`), and a whole configuration is read
just when every variable gives something and the settings make sense together
(`Config.read_eq_ok_iff`).
-/

set_option autoImplicit false

namespace BatchOperator

namespace Duration

/-- A number of seconds that fits a machine word is a duration without nanoseconds. -/
theorem ofSeconds?_eq_some_iff {n : Nat} {d : Duration} :
    ofSeconds? n = some d ↔ d.seconds = n ∧ d.nanos = 0 := by
  have hdiv : n * nanosPerSecond / nanosPerSecond = n := Nat.mul_div_cancel n (by decide)
  have hmod : n * nanosPerSecond % nanosPerSecond = 0 := Nat.mul_mod_left n nanosPerSecond
  unfold ofSeconds? ofNanoseconds?
  constructor
  · intro h
    split at h
    · cases h
      exact ⟨hdiv, hmod⟩
    · cases h
  · obtain ⟨seconds, nanos, hseconds, hnanos⟩ := d
    rintro ⟨rfl, rfl⟩
    simp only [hdiv, hmod, dif_pos hseconds]

theorem ofSeconds_eq_iff {n : Nat} (hn : n < Text.wordLimit) {d : Duration} :
    ofSeconds n = d ↔ d.seconds = n ∧ d.nanos = 0 := by
  have hsome : ofSeconds? n = some ⟨n, 0, hn, by decide⟩ := ofSeconds?_eq_some_iff.2 ⟨rfl, rfl⟩
  have hvalue : ofSeconds n = ⟨n, 0, hn, by decide⟩ := by
    change (ofSeconds? n).getD longest = _
    rw [hsome, Option.getD_some]
  rw [← ofSeconds?_eq_some_iff, hsome, hvalue, Option.some.injEq]

end Duration

namespace Config

/-! ## What variables give -/

/-- What a variable gives whose text means `a` if `Means text a`; `default` stands for its
absence. -/
inductive Given {α : Type} (default : α) (Means : String → α → Prop) : Option String → α → Prop
  | absent : Given default Means none default
  | present {text : String} {a : α} (h : Means text a) : Given default Means (some text) a

/-- A text means a number of one machine word. -/
def MeansNumber (text : String) (n : Nat) : Prop :=
  Text.Writes text.toList n ∧ n < Text.wordLimit

/-- A text means a number of whole seconds. -/
def MeansSeconds (text : String) (d : Duration) : Prop := MeansNumber text d.seconds ∧ d.nanos = 0

/-- A text in lower case. -/
def lowered (text : String) : String := String.ofList (Text.lowerCase text.toList)

/-- A text means a kind of sink, in any case of letters. -/
def MeansSink (text : String) : SinkKind → Prop
  | .events => lowered text = "kubernetes" ∨ lowered text = "k8s"
  | .printed => lowered text = "stdout"

/-- A text turns a switch off just when it is one of three words, in any case of letters and with
white space around it. -/
def MeansSwitch (text : String) (value : Bool) : Prop :=
  value = false ↔
    String.ofList (Text.lowerCase (Text.trim text.toList)) ∈ ["false", "0", "no"]

/-- An empty namespace is none. -/
def MeansNs (text : String) (ns : Option String) : Prop :=
  ns = if text = "" then none else some text

/-- A blank host is as good as none. -/
structure MeansHost (default text host : String) : Prop where
  blank : (∀ c ∈ text.toList, Text.isBlank c = true) → host = default
  present : (∃ c ∈ text.toList, Text.isBlank c = false) → host = text

/-! ## The settings -/

/-- The settings. -/
inductive Setting where
  | ns
  | workers
  | resyncPeriod
  | childSyncTimeout
  | shortestDelay
  | longestDelay
  | install
  | establishTimeout
  | sink
  | component
  | host
  | pretty
  deriving DecidableEq

/-- The variables that hold numbers of seconds. -/
def secondsEntries : List String :=
  ["RESYNC_PERIOD_SECS", "CHILD_SYNC_TIMEOUT_SECS", "QUEUE_BACKOFF_MIN_SECS",
    "QUEUE_BACKOFF_MAX_SECS", "CRD_ESTABLISH_TIMEOUT_SECS"]

namespace Setting

/-- The variable of a setting. -/
def entry : Setting → String
  | ns => "WATCH_NAMESPACE"
  | workers => "WORKERS"
  | resyncPeriod => "RESYNC_PERIOD_SECS"
  | childSyncTimeout => "CHILD_SYNC_TIMEOUT_SECS"
  | shortestDelay => "QUEUE_BACKOFF_MIN_SECS"
  | longestDelay => "QUEUE_BACKOFF_MAX_SECS"
  | install => "INSTALL_CRDS"
  | establishTimeout => "CRD_ESTABLISH_TIMEOUT_SECS"
  | sink => "EVENT_SINK"
  | component => "CONTROLLER_NAME"
  | host => "HOSTNAME"
  | pretty => "EVENT_SINK_PRETTY"

/-- Every setting has a variable of its own. -/
theorem entry_injective : Function.Injective entry := by
  intro a b h
  cases a <;> cases b <;> simp [entry] at h ⊢

/-- What a setting can be. -/
abbrev Value : Setting → Type
  | ns => Option String
  | workers => Nat
  | resyncPeriod | childSyncTimeout | shortestDelay | longestDelay | establishTimeout => Duration
  | install | pretty => Bool
  | sink => SinkKind
  | component | host => String

/-- A setting in a configuration. -/
def of : (s : Setting) → Config → s.Value
  | ns, c => c.controller.ns
  | workers, c => c.controller.workers
  | resyncPeriod, c => c.controller.resyncPeriod
  | childSyncTimeout, c => c.controller.childSyncTimeout
  | shortestDelay, c => c.queue.shortestDelay
  | longestDelay, c => c.queue.longestDelay
  | install, c => c.crds.install
  | establishTimeout, c => c.crds.establishTimeout
  | sink, c => c.events.sink
  | component, c => c.events.component
  | host, c => c.events.host
  | pretty, c => c.events.pretty

/-- What the variable of a setting gives, on a host that the system calls `systemHost`. -/
def Gives (systemHost : Option String) : (s : Setting) → Option String → s.Value → Prop
  | ns => Given none MeansNs
  | workers => Given 1 MeansNumber
  | resyncPeriod => Given (.ofSeconds 30) MeansSeconds
  | childSyncTimeout => Given (.ofSeconds 60) MeansSeconds
  | shortestDelay => Given (.ofSeconds 5) MeansSeconds
  | longestDelay => Given (.ofSeconds 60) MeansSeconds
  | install => Given true MeansSwitch
  | establishTimeout => Given (.ofSeconds 60) MeansSeconds
  | sink => Given .events MeansSink
  | component => Given "jobbatch-controller" fun text value => value = text
  | host => Given (systemHost.getD "hostname") (MeansHost (systemHost.getD "hostname"))
  | pretty => Given false MeansSwitch

end Setting

/-! ## Reading one variable -/

section Reading

variable {entry : Option String}

theorem given_none_iff {α : Type} {default a : α} {Means : String → α → Prop} :
    Given default Means none a ↔ default = a := by
  constructor
  · rintro ⟨⟩
    rfl
  · rintro rfl
    exact .absent

theorem given_some_iff {α : Type} {default a : α} {Means : String → α → Prop} {text : String} :
    Given default Means (some text) a ↔ Means text a := by
  constructor
  · rintro ⟨⟩
    assumption
  · exact .present

theorem number?_eq_some_iff {text : String} {n : Nat} :
    number? text = some n ↔ MeansNumber text n :=
  Text.unsigned?_trim_eq_some_iff

theorem workers_eq_ok_iff {default n : Nat} :
    workers default entry = .ok n ↔ Given default MeansNumber entry n := by
  cases entry with
  | none => rw [workers, Except.ok.injEq, given_none_iff]
  | some text =>
    rw [given_some_iff, ← number?_eq_some_iff, workers]
    cases number? text <;> simp

theorem seconds_eq_ok_iff {setting : String} {default d : Duration} :
    seconds setting default entry = .ok d ↔ Given default MeansSeconds entry d := by
  cases entry with
  | none => rw [seconds, Except.ok.injEq, given_none_iff]
  | some text =>
    have hread : seconds setting default (some text) = .ok d ↔
        (number? text).bind Duration.ofSeconds? = some d := by
      rw [seconds]
      cases (number? text).bind Duration.ofSeconds? <;> simp
    rw [given_some_iff, hread, Option.bind_eq_some_iff]
    constructor
    · rintro ⟨n, hn, hd⟩
      obtain ⟨rfl, hnanos⟩ := Duration.ofSeconds?_eq_some_iff.1 hd
      exact ⟨number?_eq_some_iff.1 hn, hnanos⟩
    · rintro ⟨hn, hnanos⟩
      exact ⟨d.seconds, number?_eq_some_iff.2 hn, Duration.ofSeconds?_eq_some_iff.2 ⟨rfl, hnanos⟩⟩

theorem sink_eq_ok_iff {default kind : SinkKind} :
    sink default entry = .ok kind ↔ Given default MeansSink entry kind := by
  cases entry with
  | none => rw [sink, Except.ok.injEq, given_none_iff]
  | some text =>
    rw [given_some_iff]
    change (if lowered text = "kubernetes" ∨ lowered text = "k8s" then Except.ok SinkKind.events
      else if lowered text = "stdout" then .ok .printed
      else .error (ConfigFault.unknownSink (lowered text))) = .ok kind ↔ _
    cases kind with
    | events =>
      unfold MeansSink
      split
      · simp [*]
      · split <;> simp [*]
    | printed =>
      unfold MeansSink
      split
      · rename_i h
        have hprinted : lowered text ≠ "stdout" := by
          rintro heq
          rw [heq] at h
          revert h
          decide
        simp [hprinted]
      · split <;> simp [*]

theorem switch_eq_iff {default value : Bool} :
    switch default entry = value ↔ Given default MeansSwitch entry value := by
  cases entry with
  | none => rw [switch, given_none_iff]
  | some text =>
    rw [given_some_iff, switch, MeansSwitch]
    generalize String.ofList (Text.lowerCase (Text.trim text.toList)) = word
    have hoff : (decide (word = "false") || decide (word = "0") || decide (word = "no")) =
        decide (word ∈ ["false", "0", "no"]) := by
      simp [Bool.or_assoc]
    change (!(decide (word = "false") || decide (word = "0") || decide (word = "no"))) = value ↔ _
    rw [hoff]
    cases value with
    | false => rw [Bool.not_eq_false', decide_eq_true_eq, eq_self, true_iff]
    | true => rw [Bool.not_eq_true', decide_eq_false_iff_not, Bool.true_eq_false, false_iff]

theorem ns_eq_iff {ns : Option String} :
    (entry.filter fun text => !text.isEmpty) = ns ↔ Given none MeansNs entry ns := by
  cases entry with
  | none => rw [Option.filter_none, given_none_iff]
  | some text =>
    rw [given_some_iff, MeansNs, eq_comm]
    by_cases h : text = "" <;> simp [Option.filter, h]

theorem component_eq_iff {default name : String} :
    entry.getD default = name ↔ Given default (fun text value => value = text) entry name := by
  cases entry with
  | none => rw [Option.getD_none, given_none_iff]
  | some text => rw [Option.getD_some, given_some_iff, eq_comm]

theorem host_eq_iff {systemHost : Option String} {default host : String} :
    ((entry.filter fun text => !isBlankText text) <|> systemHost).getD default = host ↔
      Given (systemHost.getD default) (MeansHost (systemHost.getD default)) entry host := by
  cases entry with
  | none => exact given_none_iff.symm
  | some text =>
    rw [given_some_iff]
    cases h : isBlankText text with
    | true =>
      have hblank : ∀ c ∈ text.toList, Text.isBlank c = true := List.all_eq_true.1 h
      have hread : ((some text).filter fun text => !isBlankText text) = none := by
        simp [Option.filter, h]
      rw [hread]
      constructor
      · rintro rfl
        refine ⟨fun _ => rfl, ?_⟩
        rintro ⟨c, hc, hpresent⟩
        rw [hblank c hc] at hpresent
        cases hpresent
      · intro hmeans
        exact (hmeans.blank hblank).symm
    | false =>
      obtain ⟨c, hc, hpresent⟩ := List.all_eq_false.1 h
      have hread : ((some text).filter fun text => !isBlankText text) = some text := by
        simp [Option.filter, h]
      rw [hread]
      constructor
      · rintro rfl
        exact ⟨fun hblank => absurd (hblank c hc) hpresent, fun _ => rfl⟩
      · intro hmeans
        exact (hmeans.present ⟨c, hc, Bool.eq_false_iff.2 hpresent⟩).symm

end Reading

/-! ## Reading all of them -/

/-- The reader of a setting. -/
def Setting.read (systemHost : Option String) :
    (s : Setting) → Option String → Except ConfigFault s.Value
  | .ns, entry => .ok (entry.filter fun text => !text.isEmpty)
  | .workers, entry => Config.workers 1 entry
  | .resyncPeriod, entry => seconds "RESYNC_PERIOD_SECS" (.ofSeconds 30) entry
  | .childSyncTimeout, entry => seconds "CHILD_SYNC_TIMEOUT_SECS" (.ofSeconds 60) entry
  | .shortestDelay, entry => seconds "QUEUE_BACKOFF_MIN_SECS" (.ofSeconds 5) entry
  | .longestDelay, entry => seconds "QUEUE_BACKOFF_MAX_SECS" (.ofSeconds 60) entry
  | .install, entry => .ok (switch true entry)
  | .establishTimeout, entry => seconds "CRD_ESTABLISH_TIMEOUT_SECS" (.ofSeconds 60) entry
  | .sink, entry => Config.sink .events entry
  | .component, entry => .ok (entry.getD "jobbatch-controller")
  | .host, entry =>
    .ok (((entry.filter fun text => !isBlankText text) <|> systemHost).getD "hostname")
  | .pretty, entry => .ok (switch false entry)

/-- A setting is read just as its variable gives it. -/
theorem Setting.read_eq_ok_iff {systemHost : Option String} (s : Setting) {entry : Option String}
    {value : s.Value} :
    s.read systemHost entry = .ok value ↔ s.Gives systemHost entry value := by
  cases s with
  | ns => exact (iff_of_eq (Except.ok.injEq _ _)).trans ns_eq_iff
  | workers => exact workers_eq_ok_iff
  | resyncPeriod => exact seconds_eq_ok_iff
  | childSyncTimeout => exact seconds_eq_ok_iff
  | shortestDelay => exact seconds_eq_ok_iff
  | longestDelay => exact seconds_eq_ok_iff
  | install => exact (iff_of_eq (Except.ok.injEq _ _)).trans switch_eq_iff
  | establishTimeout => exact seconds_eq_ok_iff
  | sink => exact sink_eq_ok_iff
  | component => exact (iff_of_eq (Except.ok.injEq _ _)).trans component_eq_iff
  | host => exact (iff_of_eq (Except.ok.injEq _ _)).trans host_eq_iff
  | pretty => exact (iff_of_eq (Except.ok.injEq _ _)).trans switch_eq_iff

/-- A variable gives one thing at most. -/
theorem Setting.eq_of_gives {systemHost : Option String} (s : Setting) {entry : Option String}
    {a b : s.Value} (ha : s.Gives systemHost entry a) (hb : s.Gives systemHost entry b) : a = b :=
  Except.ok.inj ((s.read_eq_ok_iff.2 ha).symm.trans (s.read_eq_ok_iff.2 hb))

/-- Settings that make sense together. -/
structure IsConsistent (c : Config) : Prop where
  workers : 1 ≤ c.controller.workers
  delays : c.queue.shortestDelay.nanoseconds ≤ c.queue.longestDelay.nanoseconds
  resync : 0 < c.controller.resyncPeriod.nanoseconds

theorem isZero_iff {d : Duration} : d.isZero = true ↔ d.nanoseconds = 0 := by
  simp only [Duration.isZero, Duration.nanoseconds, nanosPerSecond, Bool.and_eq_true, beq_iff_eq]
  omega

theorem validate_eq_ok_iff {c : Config} : c.validate = .ok () ↔ c.IsConsistent := by
  have hdelays : (!c.queue.shortestDelay.atMost c.queue.longestDelay) = true ↔
      ¬ c.queue.shortestDelay.nanoseconds ≤ c.queue.longestDelay.nanoseconds := by
    rw [Bool.not_eq_true', Bool.eq_false_iff, ne_eq, Duration.atMost_iff]
  simp only [validate, hdelays, isZero_iff]
  constructor
  · intro h
    split at h
    · cases h
    split at h
    · cases h
    split at h
    · cases h
    · exact ⟨by omega, by omega, by omega⟩
  · rintro ⟨hworkers, hshort, hresync⟩
    rw [if_neg (by omega), if_neg (by omega), if_neg (by omega)]

variable {lookup : String → Option String} {systemHost : Option String}

/-- A configuration is made of its settings. -/
theorem Setting.ext {c d : Config} (h : ∀ s : Setting, s.of c = s.of d) : c = d := by
  have hcontroller : c.controller = d.controller := by
    obtain ⟨⟨ns, workers, resyncPeriod, childSyncTimeout⟩, _, _, _⟩ := c
    cases h .ns
    cases h .workers
    cases h .resyncPeriod
    cases h .childSyncTimeout
    rfl
  have hqueue : c.queue = d.queue := by
    obtain ⟨_, ⟨shortestDelay, longestDelay⟩, _, _⟩ := c
    cases h .shortestDelay
    cases h .longestDelay
    rfl
  have hcrds : c.crds = d.crds := by
    obtain ⟨_, _, ⟨install, establishTimeout⟩, _⟩ := c
    cases h .install
    cases h .establishTimeout
    rfl
  have hevents : c.events = d.events := by
    obtain ⟨_, _, _, ⟨sink, component, host, pretty⟩⟩ := c
    cases h .sink
    cases h .component
    cases h .host
    cases h .pretty
    rfl
  cases c
  cases hcontroller
  cases hqueue
  cases hcrds
  cases hevents
  rfl

/-- A step that may fail fails for the whole, or the rest goes on with its result. -/
theorem bind_cases {ε α β : Type} {x : Except ε α} {f : α → Except ε β} {result : Except ε β}
    (h : (x >>= f) = result) :
    (∃ fault, x = .error fault ∧ result = .error fault) ∨ ∃ a, x = .ok a ∧ f a = result := by
  cases x with
  | ok a => exact .inr ⟨a, rfl, h⟩
  | error fault => exact .inl ⟨fault, rfl, h.symm⟩

/-- One of the readers fails, or all settings are read and validated together. -/
theorem read_cases (lookup : String → Option String) (systemHost : Option String) :
    (∃ s : Setting, ∃ fault, s.read systemHost (lookup s.entry) = .error fault ∧
      read lookup systemHost = .error fault) ∨
    ∃ c : Config, (∀ s : Setting, s.read systemHost (lookup s.entry) = .ok (s.of c)) ∧
      read lookup systemHost = c.validate.map fun _ => c := by
  generalize hread : read lookup systemHost = result
  rcases bind_cases hread with ⟨fault, h, rfl⟩ | ⟨workers, hworkers, hread⟩
  · exact .inl ⟨.workers, fault, h, rfl⟩
  rcases bind_cases hread with ⟨fault, h, rfl⟩ | ⟨resyncPeriod, hresync, hread⟩
  · exact .inl ⟨.resyncPeriod, fault, h, rfl⟩
  rcases bind_cases hread with ⟨fault, h, rfl⟩ | ⟨childSyncTimeout, hchild, hread⟩
  · exact .inl ⟨.childSyncTimeout, fault, h, rfl⟩
  rcases bind_cases hread with ⟨fault, h, rfl⟩ | ⟨shortestDelay, hshortest, hread⟩
  · exact .inl ⟨.shortestDelay, fault, h, rfl⟩
  rcases bind_cases hread with ⟨fault, h, rfl⟩ | ⟨longestDelay, hlongest, hread⟩
  · exact .inl ⟨.longestDelay, fault, h, rfl⟩
  rcases bind_cases hread with ⟨fault, h, rfl⟩ | ⟨establishTimeout, hestablish, hread⟩
  · exact .inl ⟨.establishTimeout, fault, h, rfl⟩
  rcases bind_cases hread with ⟨fault, h, rfl⟩ | ⟨sink, hsink, hread⟩
  · exact .inl ⟨.sink, fault, h, rfl⟩
  refine .inr ⟨_, fun s => ?_, hread.symm⟩
  cases s with
  | workers => exact hworkers
  | resyncPeriod => exact hresync
  | childSyncTimeout => exact hchild
  | shortestDelay => exact hshortest
  | longestDelay => exact hlongest
  | establishTimeout => exact hestablish
  | sink => exact hsink
  | ns | install | component | host | pretty => rfl

/-- Settings are read when every variable gives something and all of it makes sense together. -/
theorem read_eq_ok_iff {c : Config} : read lookup systemHost = .ok c ↔
    (∀ s : Setting, s.Gives systemHost (lookup s.entry) (s.of c)) ∧ c.IsConsistent := by
  simp only [← Setting.read_eq_ok_iff, ← validate_eq_ok_iff]
  rcases read_cases lookup systemHost with ⟨s, fault, hs, hread⟩ | ⟨d, hall, hread⟩
  · rw [hread]
    constructor
    · rintro ⟨⟩
    · rintro ⟨h, -⟩
      rw [h s] at hs
      cases hs
  · rw [hread]
    constructor
    · intro h
      cases hvalid : d.validate with
      | ok =>
        rw [hvalid] at h
        cases h
        exact ⟨hall, hvalid⟩
      | error fault =>
        rw [hvalid] at h
        cases h
    · rintro ⟨h, hvalid⟩
      have hsame : c = d := Setting.ext fun s => Except.ok.inj ((h s).symm.trans (hall s))
      rw [← hsame, hvalid]
      rfl

end Config

end BatchOperator
