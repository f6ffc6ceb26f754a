import BatchOperator.Proofs.Config.Setting

/-!
# Which configurations are accepted

A configuration is read exactly when its variables are sound (`Config.IsSound`): those that should
hold numbers do, the kind of sink is known, and the settings make sense together, defaults included.
Otherwise the fault that is reported is there (`ConfigFault.IsJustified`). Every setting comes from
its own variable only.
-/

set_option autoImplicit false

namespace BatchOperator

/-! ## Faults -/

/-- A fault that the variables have. -/
inductive ConfigFault.IsJustified (lookup : String → Option String) : ConfigFault → Prop
  | workersNotNumeric {text : String} (hentry : lookup "WORKERS" = some text)
    (hnot : ∀ n, ¬ Config.MeansNumber text n) : IsJustified lookup (.workersNotNumeric text)
  | notSeconds {name text : String} (hname : name ∈ Config.secondsEntries)
    (hentry : lookup name = some text) (hnot : ∀ n, ¬ Config.MeansNumber text n) :
    IsJustified lookup (.notSeconds name text)
  | unknownSink {text : String} (hentry : lookup "EVENT_SINK" = some text)
    (hnot : ∀ kind, ¬ Config.MeansSink text kind) :
    IsJustified lookup (.unknownSink (Config.lowered text))
  | noWorkers (hentry : Config.Given 1 Config.MeansNumber (lookup "WORKERS") 0) :
    IsJustified lookup .noWorkers
  | delaysOutOfOrder {shortest longest : Duration}
    (hshortest : Config.Given (.ofSeconds 5) Config.MeansSeconds
      (lookup "QUEUE_BACKOFF_MIN_SECS") shortest)
    (hlongest : Config.Given (.ofSeconds 60) Config.MeansSeconds
      (lookup "QUEUE_BACKOFF_MAX_SECS") longest)
    (h : longest.nanoseconds < shortest.nanoseconds) :
    IsJustified lookup (.delaysOutOfOrder shortest longest)
  | noResyncPeriod {period : Duration}
    (hentry : Config.Given (.ofSeconds 30) Config.MeansSeconds
      (lookup "RESYNC_PERIOD_SECS") period)
    (hzero : period.nanoseconds = 0) : IsJustified lookup .noResyncPeriod

namespace Config

variable {lookup : String → Option String} {systemHost : Option String}

/-- A reader fails only at a text that means nothing. -/
theorem exists_text_of_error {α : Type} {default : α} {Means : String → α → Prop}
    {read : Option String → Except ConfigFault α}
    (hread : ∀ entry a, read entry = .ok a ↔ Given default Means entry a) {entry : Option String}
    {fault : ConfigFault} (h : read entry = .error fault) :
    ∃ text, entry = some text ∧ ∀ a, ¬ Means text a := by
  cases entry with
  | none =>
    rw [(hread none default).2 .absent] at h
    cases h
  | some text =>
    refine ⟨text, rfl, fun a ha => ?_⟩
    rw [(hread (some text) a).2 (.present ha)] at h
    cases h

theorem justified_of_seconds {name : String} (hname : name ∈ secondsEntries) {default : Duration}
    {fault : ConfigFault} (h : seconds name default (lookup name) = .error fault) :
    fault.IsJustified lookup := by
  obtain ⟨text, hentry, hnot⟩ := exists_text_of_error (fun _ _ => seconds_eq_ok_iff) h
  rw [hentry, seconds] at h
  split at h
  · cases h
  · cases h
    exact .notSeconds hname hentry fun n hn => hnot ⟨n, 0, hn.2, by decide⟩ ⟨hn, rfl⟩

theorem justified_of_workers {fault : ConfigFault}
    (h : workers 1 (lookup "WORKERS") = .error fault) : fault.IsJustified lookup := by
  obtain ⟨text, hentry, hnot⟩ := exists_text_of_error (fun _ _ => workers_eq_ok_iff) h
  rw [hentry, workers] at h
  split at h
  · cases h
  · cases h
    exact .workersNotNumeric hentry hnot

theorem justified_of_sink {fault : ConfigFault}
    (h : sink .events (lookup "EVENT_SINK") = .error fault) : fault.IsJustified lookup := by
  obtain ⟨text, hentry, hnot⟩ := exists_text_of_error (fun _ _ => sink_eq_ok_iff) h
  rw [hentry, sink, SinkKind.parse] at h
  split at h
  · cases h
  split at h
  · cases h
  · cases h
    exact .unknownSink hentry hnot

/-- The fault of a reader is in its variable. -/
theorem justified_of_setting {s : Setting} {fault : ConfigFault}
    (h : s.read systemHost (lookup s.entry) = .error fault) : fault.IsJustified lookup := by
  have hseconds : ∀ name ∈ secondsEntries, ∀ default,
      seconds name default (lookup name) = .error fault → fault.IsJustified lookup :=
    fun name hname default => justified_of_seconds hname
  simp only [secondsEntries, List.forall_mem_cons] at hseconds
  obtain ⟨hresync, hchild, hshortest, hlongest, hestablish, -⟩ := hseconds
  cases s with
  | ns | install | component | host | pretty => cases h
  | workers => exact justified_of_workers h
  | sink => exact justified_of_sink h
  | resyncPeriod => exact hresync _ h
  | childSyncTimeout => exact hchild _ h
  | shortestDelay => exact hshortest _ h
  | longestDelay => exact hlongest _ h
  | establishTimeout => exact hestablish _ h

theorem justified_of_validate {c : Config}
    (hall : ∀ s : Setting, s.Gives systemHost (lookup s.entry) (s.of c)) {fault : ConfigFault}
    (h : c.validate = .error fault) : fault.IsJustified lookup := by
  unfold validate at h
  split at h
  · rename_i hworkers
    cases h
    have hentry : Given 1 MeansNumber (lookup "WORKERS") c.controller.workers := hall .workers
    exact .noWorkers (hworkers ▸ hentry)
  split at h
  · rename_i hdelays
    cases h
    refine .delaysOutOfOrder (hall .shortestDelay) (hall .longestDelay) (Nat.lt_of_not_le ?_)
    rwa [Bool.not_eq_true', Bool.eq_false_iff, ne_eq, Duration.atMost_iff] at hdelays
  split at h
  · rename_i hresync
    cases h
    exact .noResyncPeriod (hall .resyncPeriod) (isZero_iff.1 hresync)
  · cases h

/-- Every fault that is reported is there. -/
theorem justified_of_read {fault : ConfigFault} (h : read lookup systemHost = .error fault) :
    fault.IsJustified lookup := by
  rcases read_cases lookup systemHost with ⟨s, found, hs, hread⟩ | ⟨c, hall, hread⟩
  · rw [hread] at h
    cases h
    exact justified_of_setting hs
  · rw [hread] at h
    cases hvalid : c.validate with
    | ok =>
      rw [hvalid] at h
      cases h
    | error found =>
      rw [hvalid] at h
      cases h
      exact justified_of_validate (fun s => s.read_eq_ok_iff.1 (hall s)) hvalid

/-! ## The result -/

/-- The variables that hold numbers. -/
def numericEntries : List String := "WORKERS" :: secondsEntries

/-- Variables that settings can be made from. -/
structure IsSound (lookup : String → Option String) : Prop where
  /-- A variable that should hold a number does, if it is there. -/
  numbers : ∀ name ∈ numericEntries, ∀ text ∈ lookup name, ∃ n, MeansNumber text n
  sink : ∀ text ∈ lookup "EVENT_SINK", lowered text ∈ ["kubernetes", "k8s", "stdout"]
  workers : ∃ n, Given 1 MeansNumber (lookup "WORKERS") n ∧ 1 ≤ n
  delays : ∃ shortest longest, Given 5 MeansNumber (lookup "QUEUE_BACKOFF_MIN_SECS") shortest ∧
    Given 60 MeansNumber (lookup "QUEUE_BACKOFF_MAX_SECS") longest ∧ shortest ≤ longest
  resync : ∃ n, Given 30 MeansNumber (lookup "RESYNC_PERIOD_SECS") n ∧ 0 < n

/-- Settings are read exactly from sound variables, each from its own. -/
structure ReadsExactly (lookup : String → Option String) (systemHost : Option String) : Prop where
  accepted : (∃ c, read lookup systemHost = .ok c) ↔ IsSound lookup
  /-- What is refused is refused as a failure of the configuration, with a fault that is there. -/
  refused : ∀ fault, read lookup systemHost = .error fault →
    fault.error = .config fault.message ∧ fault.IsJustified lookup
  /-- Every setting is what its variable gives. -/
  given : ∀ c, read lookup systemHost = .ok c →
    ∀ s : Setting, s.Gives systemHost (lookup s.entry) (s.of c)
  /-- No two settings have the same variable. -/
  own : Function.Injective Setting.entry
  /-- No other variable takes part in a setting. -/
  alone : ∀ c, read lookup systemHost = .ok c → ∀ other d, read other systemHost = .ok d →
    ∀ s : Setting, lookup s.entry = other s.entry → s.of c = s.of d

theorem exists_given {α : Type} {default : α} {Means : String → α → Prop} {entry : Option String}
    (h : ∀ text ∈ entry, ∃ a, Means text a) : ∃ a, Given default Means entry a := by
  cases entry with
  | none => exact ⟨default, .absent⟩
  | some text =>
    obtain ⟨a, ha⟩ := h text rfl
    exact ⟨a, .present ha⟩

/-- A duration is given just when its number of seconds is. -/
theorem given_seconds_iff {seconds : Nat} (hseconds : seconds < Text.wordLimit)
    {entry : Option String} {d : Duration} : Given (.ofSeconds seconds) MeansSeconds entry d ↔
      Given seconds MeansNumber entry d.seconds ∧ d.nanos = 0 := by
  cases entry with
  | none =>
    rw [given_none_iff, given_none_iff, Duration.ofSeconds_eq_iff hseconds, @eq_comm Nat seconds]
  | some text => rw [given_some_iff, given_some_iff, MeansSeconds]

theorem exists_duration {seconds n : Nat} (hseconds : seconds < Text.wordLimit)
    {entry : Option String} (h : Given seconds MeansNumber entry n) :
    ∃ d : Duration, Given (.ofSeconds seconds) MeansSeconds entry d ∧ d.seconds = n ∧
      d.nanos = 0 := by
  have hlt : n < Text.wordLimit := by
    cases h with
    | absent => exact hseconds
    | present hmeans => exact hmeans.2
  exact ⟨⟨n, 0, hlt, by decide⟩, (given_seconds_iff hseconds).2 ⟨h, rfl⟩, rfl, rfl⟩

theorem meansSink_iff {text : String} :
    (∃ kind, MeansSink text kind) ↔ lowered text ∈ ["kubernetes", "k8s", "stdout"] := by
  simp only [List.mem_cons, List.not_mem_nil, or_false]
  constructor
  · rintro ⟨kind, h⟩
    cases kind with
    | events => exact or_assoc.1 (.inl h)
    | printed => exact .inr (.inr h)
  · rintro (h | h | h)
    · exact ⟨.events, .inl h⟩
    · exact ⟨.events, .inr h⟩
    · exact ⟨.printed, h⟩

/-- Variables that settings were read from are sound. -/
theorem isSound_of_read {c : Config} (h : read lookup systemHost = .ok c) : IsSound lookup := by
  obtain ⟨hgiven, hworkers, hdelays, hresync⟩ := read_eq_ok_iff.1 h
  have hnumber {name : String} {default d : Duration}
      (h : Given default MeansSeconds (lookup name) d) :
      ∀ text ∈ lookup name, ∃ n, MeansNumber text n := by
    rintro text htext
    rw [Option.mem_def.1 htext, given_some_iff] at h
    exact ⟨d.seconds, h.1⟩
  obtain ⟨hshortest, hshortestNanos⟩ := (given_seconds_iff (by decide)).1 (hgiven .shortestDelay)
  obtain ⟨hlongest, hlongestNanos⟩ := (given_seconds_iff (by decide)).1 (hgiven .longestDelay)
  obtain ⟨hperiod, hperiodNanos⟩ := (given_seconds_iff (by decide)).1 (hgiven .resyncPeriod)
  constructor
  case numbers =>
    simp only [numericEntries, secondsEntries, List.forall_mem_cons]
    refine ⟨?_, hnumber (hgiven .resyncPeriod), hnumber (hgiven .childSyncTimeout),
      hnumber (hgiven .shortestDelay), hnumber (hgiven .longestDelay),
      hnumber (hgiven .establishTimeout), nofun⟩
    intro text htext
    have h : Given 1 MeansNumber (lookup "WORKERS") c.controller.workers := hgiven .workers
    rw [Option.mem_def.1 htext, given_some_iff] at h
    exact ⟨_, h⟩
  case sink =>
    intro text htext
    have h : Given .events MeansSink (lookup "EVENT_SINK") c.events.sink := hgiven .sink
    rw [Option.mem_def.1 htext, given_some_iff] at h
    exact meansSink_iff.1 ⟨_, h⟩
  case workers => exact ⟨_, hgiven .workers, hworkers⟩
  case delays =>
    refine ⟨_, _, hshortest, hlongest, ?_⟩
    simp only [Setting.of, Duration.nanoseconds, nanosPerSecond] at *
    omega
  case resync =>
    refine ⟨_, hperiod, ?_⟩
    simp only [Setting.of, Duration.nanoseconds, nanosPerSecond] at *
    omega

/-- Settings are read from sound variables. -/
theorem exists_read_of_isSound (h : IsSound lookup) : ∃ c, read lookup systemHost = .ok c := by
  obtain ⟨workers, hworkers, hsome⟩ := h.workers
  obtain ⟨n, m, hn, hm, hle⟩ := h.delays
  obtain ⟨k, hk, hpos⟩ := h.resync
  have hnumbers := h.numbers
  simp only [numericEntries, secondsEntries, List.forall_mem_cons] at hnumbers
  obtain ⟨-, -, hchild, -, -, hestablish, -⟩ := hnumbers
  obtain ⟨i, hi⟩ := @exists_given _ 60 MeansNumber _ hchild
  obtain ⟨j, hj⟩ := @exists_given _ 60 MeansNumber _ hestablish
  obtain ⟨sink, hsink⟩ := @exists_given _ .events MeansSink _ fun text htext =>
    meansSink_iff.2 (h.sink text htext)
  obtain ⟨shortestDelay, hshortest, rfl, hshortestNanos⟩ := exists_duration (by decide) hn
  obtain ⟨longestDelay, hlongest, rfl, hlongestNanos⟩ := exists_duration (by decide) hm
  obtain ⟨resyncPeriod, hresync, rfl, hresyncNanos⟩ := exists_duration (by decide) hk
  obtain ⟨childSyncTimeout, hchild, -, -⟩ := exists_duration (by decide) hi
  obtain ⟨establishTimeout, hestablish, -, -⟩ := exists_duration (by decide) hj
  -- The other variables give something whatever they hold.
  obtain ⟨ns, hns⟩ : ∃ ns, Setting.ns.Gives systemHost (lookup "WATCH_NAMESPACE") ns :=
    ⟨_, ns_eq_iff.1 rfl⟩
  obtain ⟨install, hinstall⟩ :
      ∃ value, Setting.install.Gives systemHost (lookup "INSTALL_CRDS") value :=
    ⟨_, switch_eq_iff.1 rfl⟩
  obtain ⟨component, hcomponent⟩ :
      ∃ name, Setting.component.Gives systemHost (lookup "CONTROLLER_NAME") name :=
    ⟨_, component_eq_iff.1 rfl⟩
  obtain ⟨host, hhost⟩ : ∃ name, Setting.host.Gives systemHost (lookup "HOSTNAME") name :=
    ⟨_, host_eq_iff.1 rfl⟩
  obtain ⟨pretty, hpretty⟩ :
      ∃ value, Setting.pretty.Gives systemHost (lookup "EVENT_SINK_PRETTY") value :=
    ⟨_, switch_eq_iff.1 rfl⟩
  refine ⟨⟨⟨ns, workers, resyncPeriod, childSyncTimeout⟩, ⟨shortestDelay, longestDelay⟩,
    ⟨install, establishTimeout⟩, ⟨sink, component, host, pretty⟩⟩,
    read_eq_ok_iff.2 ⟨?_, hsome, ?_, ?_⟩⟩
  · intro s
    cases s with
    | ns => exact hns
    | workers => exact hworkers
    | resyncPeriod => exact hresync
    | childSyncTimeout => exact hchild
    | shortestDelay => exact hshortest
    | longestDelay => exact hlongest
    | install => exact hinstall
    | establishTimeout => exact hestablish
    | sink => exact hsink
    | component => exact hcomponent
    | host => exact hhost
    | pretty => exact hpretty
  · simp only [Duration.nanoseconds, nanosPerSecond]
    omega
  · simp only [Duration.nanoseconds, nanosPerSecond]
    omega

/-- Settings are read exactly from sound variables, each from its own. -/
theorem readsExactly (lookup : String → Option String) (systemHost : Option String) :
    ReadsExactly lookup systemHost where
  accepted := ⟨fun ⟨_, h⟩ => isSound_of_read h, exists_read_of_isSound⟩
  refused fault h := ⟨rfl, justified_of_read h⟩
  given c h := (read_eq_ok_iff.1 h).1
  own := Setting.entry_injective
  alone c hc other d hd s hentry := by
    have hgiven := (read_eq_ok_iff.1 hc).1 s
    have hother := (read_eq_ok_iff.1 hd).1 s
    rw [hentry] at hgiven
    exact s.eq_of_gives hgiven hother

/-- The shortest delay alone may not be raised above the usual longest one. -/
example : read (fun name => if name = "QUEUE_BACKOFF_MIN_SECS" then some " +61 " else none) none =
    .error (.delaysOutOfOrder (.ofSeconds 61) (.ofSeconds 60)) := by
  cbv

end Config

end BatchOperator
