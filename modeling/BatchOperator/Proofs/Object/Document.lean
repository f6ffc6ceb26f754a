import BatchOperator.Object.JobBatch
import BatchOperator.Proofs.Json.Record
import BatchOperator.Proofs.Timestamp

/-!
# Documents of objects

For each kind of object and each part of one: its document holds it (`Json.Holds`), but for the
fractions of its points in time (`Metadata.holds_toJson`, `JobBatch.holds_toJson`,
`JobTemplate.holds_toJson`). Conversely, what was read of a document fits the widths of its numbers
and has legible points in time (`JobBatch.fits_of_ofJson?`, `JobTemplate.fits_of_ofJson?`).
-/

set_option autoImplicit false

namespace BatchOperator

open Json

/-! ## Parts without points in time -/

theorem OwnerReference.holds_toJson (r : OwnerReference) : Holds ofJson? r.toJson r := by
  apply holds_present
  · simp
  · simp [ofJson?]

theorem EnvVar.holds_toJson (v : EnvVar) : Holds ofJson? v.toJson v := by
  apply holds_present
  · simp
  · simp [ofJson?]

theorem Container.holds_toJson (c : Container) : Holds ofJson? c.toJson c := by
  have henv : Fields.HoldsIfThere (list? EnvVar.ofJson?)
      (c.env.map fun vars => .arr (vars.map EnvVar.toJson)) c.env :=
    Fields.holdsIfThere_map_self fun vars _ => holds_list_self fun v _ => v.holds_toJson
  apply holds_present
  · simp [henv.isWhole]
  · simp [ofJson?, henv.read_eq]

/-- The time that a pod has to end fits its width. -/
def PodSpec.Fits (s : PodSpec) : Prop := ∀ n ∈ s.terminationGracePeriodSeconds, IsInt64 n

theorem PodSpec.holds_toJson {s : PodSpec} (hfits : s.Fits) : Holds ofJson? s.toJson s := by
  have hcontainers : Fields.HoldsIfThere (list? Container.ofJson?)
      (some (.arr (s.containers.map Container.toJson))) (some s.containers) :=
    Fields.holdsIfThere_some (holds_list_self fun c _ => c.holds_toJson)
  have hperiod := Fields.holdsIfThere_map_self fun n hn => holds_int64 (hfits n hn)
  apply holds_present
  · simp [fieldIsWhole_some.1 hcontainers.isWhole]
  · simp [ofJson?, hcontainers.read_eq, hperiod.read_eq]

theorem LabelExpression.holds_toJson (e : LabelExpression) : Holds ofJson? e.toJson e := by
  apply holds_present
  · simp
  · simp [ofJson?]

theorem LabelSelector.holds_toJson (s : LabelSelector) : Holds ofJson? s.toJson s := by
  have hclauses : Fields.HoldsIfThere (list? LabelExpression.ofJson?)
      (s.matchExpressions.map fun es => .arr (es.map LabelExpression.toJson)) s.matchExpressions :=
    Fields.holdsIfThere_map_self fun es _ => holds_list_self fun e _ => e.holds_toJson
  apply holds_present
  · simp [hclauses.isWhole]
  · simp [ofJson?, hclauses.read_eq]

/-- The numbers of jobs and of failures fit their widths. -/
structure BatchSpec.Fits (s : BatchSpec) : Prop where
  maxConcurrent : IsInt32 s.maxConcurrent
  maxFailures : ∀ n ∈ s.maxFailures, IsInt32 n

theorem BatchSpec.holds_toJson {s : BatchSpec} (hfits : s.Fits) : Holds ofJson? s.toJson s := by
  have hselector := Fields.holdsIfThere_map_self fun l (_ : l ∈ s.selector) => l.holds_toJson
  have hmost := (holds_int32 hfits.maxConcurrent).read_eq
  have hfailures := Fields.holdsIfThere_map_self fun n hn => holds_int32 (hfits.maxFailures n hn)
  apply holds_present
  · simp [hselector.isWhole]
  · simp [ofJson?, Fields.strictDefault, hselector.read_eq, hmost, hfailures.read_eq]

theorem BatchPhase.ofJson?_render (phase : BatchPhase) :
    ofJson? (.str phase.render) = some phase := by
  cases phase <;> rfl

theorem BatchStatus.holds_toJson (s : BatchStatus) : Holds ofJson? s.toJson s := by
  apply holds_present
  · simp
  · simp [ofJson?, Fields.strictDefault, BatchPhase.ofJson?_render, bool?, str?]

/-! ## Metadata -/

namespace Metadata

/-- The generation fits its width. -/
def Fits (m : Metadata) : Prop := ∀ n ∈ m.generation, IsInt64 n

/-- The points in time that metadata hold. -/
def timestamps (m : Metadata) : List Timestamp := m.creationTimestamp.toList

/-- The metadata without the fractions of their points in time. -/
def settled (m : Metadata) : Metadata :=
  { m with creationTimestamp := m.creationTimestamp.map Timestamp.settled }

/-- The document of metadata holds them without the fraction of the time of creation. -/
theorem holds_toJson {m : Metadata} (hfits : m.Fits) (htimes : ∀ t ∈ m.timestamps, t.IsLegible) :
    Holds ofJson? m.toJson m.settled := by
  have htime : Fields.HoldsIfThere (fun value => value.str?.bind Timestamp.parse?)
      (m.creationTimestamp.map fun t => .str t.render)
      (m.creationTimestamp.map Timestamp.settled) := by
    apply Fields.holdsIfThere_map
    intro t ht
    have hread : (Json.str t.render).str?.bind Timestamp.parse? = some t.settled := by
      rw [str?, Option.bind_some, Timestamp.parse?_render (htimes t (Option.mem_toList.2 ht))]
    exact ⟨trivial, (holds_str t.render).ne_null, hread⟩
  have howners : Fields.HoldsIfThere (list? OwnerReference.ofJson?)
      (m.ownerReferences.map fun rs => .arr (rs.map OwnerReference.toJson)) m.ownerReferences :=
    Fields.holdsIfThere_map_self fun rs _ => holds_list_self fun r _ => r.holds_toJson
  have hgeneration := Fields.holdsIfThere_map_self fun n hn => holds_int64 (hfits n hn)
  apply holds_present
  · simp [howners.isWhole]
  · simp [ofJson?, htime.read_eq, howners.read_eq, hgeneration.read_eq, settled]

theorem toJson_settled (m : Metadata) : m.settled.toJson = m.toJson := by
  have hrender : ∀ t : Timestamp, Json.str t.settled.render = .str t.render := fun t =>
    congrArg Json.str t.render_settled
  simp [toJson, settled, Function.comp_def, hrender]

theorem settled_eq_self {m : Metadata} (h : ∀ t ∈ m.timestamps, t.nanos = 0) : m.settled = m := by
  have htime : m.creationTimestamp.map Timestamp.settled = m.creationTimestamp := by
    cases ht : m.creationTimestamp with
    | none => rfl
    | some t =>
      have hwhole := h t (Option.mem_toList.2 ht)
      rw [Option.map_some, Timestamp.settled_of_nanos_eq_zero hwhole]
  rw [settled, htime]

/-- What was read of a document fits its widths and has a proper point in time. -/
theorem fits_of_ofJson? {document : Json} {m : Metadata} (h : ofJson? document = some m) :
    m.Fits ∧ ∀ t ∈ m.timestamps, t.IsProper := by
  -- Only the time of creation and the generation are restricted.
  obtain ⟨fields, -, h⟩ := Option.bind_eq_some_iff.1 h
  obtain ⟨annotations, -, h⟩ := Option.bind_eq_some_iff.1 h
  obtain ⟨time, htime, h⟩ := Option.bind_eq_some_iff.1 h
  obtain ⟨finalizers, -, h⟩ := Option.bind_eq_some_iff.1 h
  obtain ⟨generateName, -, h⟩ := Option.bind_eq_some_iff.1 h
  obtain ⟨generation, hgeneration, h⟩ := Option.bind_eq_some_iff.1 h
  obtain ⟨labels, -, h⟩ := Option.bind_eq_some_iff.1 h
  obtain ⟨name, -, h⟩ := Option.bind_eq_some_iff.1 h
  obtain ⟨ns, -, h⟩ := Option.bind_eq_some_iff.1 h
  obtain ⟨owners, -, h⟩ := Option.bind_eq_some_iff.1 h
  obtain ⟨version, -, h⟩ := Option.bind_eq_some_iff.1 h
  obtain ⟨uid, -, h⟩ := Option.bind_eq_some_iff.1 h
  cases h
  constructor
  · intro n hn
    obtain ⟨_, hread⟩ := Fields.exists_of_readOptional hgeneration n hn
    exact (int64?_eq_some_iff.1 hread).2
  · intro t ht
    obtain ⟨_, hread⟩ := Fields.exists_of_readOptional htime t (Option.mem_toList.1 ht)
    obtain ⟨text, -, hparse⟩ := Option.bind_eq_some_iff.1 hread
    exact Timestamp.isProper_of_parse? hparse

end Metadata

/-! ## Templates of pods -/

theorem PodSpec.fits_of_ofJson? {document : Json} {s : PodSpec} (h : ofJson? document = some s) :
    s.Fits := by
  simp only [ofJson?, bind, Option.bind_eq_some_iff, Fields.optional_eq] at h
  obtain ⟨fields, -, containers, -, nodeSelector, -, restartPolicy, -, account, -, period, hperiod,
    hs⟩ := h
  cases hs
  intro n hn
  obtain ⟨_, hread⟩ := Fields.exists_of_readOptional hperiod n hn
  exact (int64?_eq_some_iff.1 hread).2

namespace PodTemplate

/-- The numbers in the template fit their widths. -/
structure Fits (t : PodTemplate) : Prop where
  metadata : ∀ m ∈ t.metadata, m.Fits
  spec : ∀ s ∈ t.spec, s.Fits

/-- The points in time that a template holds. -/
def timestamps (t : PodTemplate) : List Timestamp := t.metadata.toList.flatMap Metadata.timestamps

/-- The template without the fractions of its points in time. -/
def settled (t : PodTemplate) : PodTemplate :=
  { t with metadata := t.metadata.map Metadata.settled }

theorem mem_timestamps {t : PodTemplate} {m : Metadata} (hm : m ∈ t.metadata) {time : Timestamp}
    (h : time ∈ m.timestamps) : time ∈ t.timestamps :=
  List.mem_flatMap.2 ⟨m, Option.mem_toList.2 hm, h⟩

theorem holds_toJson {t : PodTemplate} (hfits : t.Fits)
    (htimes : ∀ time ∈ t.timestamps, time.IsLegible) : Holds ofJson? t.toJson t.settled := by
  have hmetadata : Fields.HoldsIfThere Metadata.ofJson? (t.metadata.map Metadata.toJson)
      (t.metadata.map Metadata.settled) := Fields.holdsIfThere_map fun m hm =>
    Metadata.holds_toJson (hfits.metadata m hm) fun time h => htimes time (mem_timestamps hm h)
  have hspec := Fields.holdsIfThere_map_self fun s hs => PodSpec.holds_toJson (hfits.spec s hs)
  apply holds_present
  · simp [hmetadata.isWhole, hspec.isWhole]
  · simp [ofJson?, hmetadata.read_eq, hspec.read_eq, settled]

theorem toJson_settled (t : PodTemplate) : t.settled.toJson = t.toJson := by
  simp [toJson, settled, Function.comp_def, Metadata.toJson_settled]

theorem settled_eq_self {t : PodTemplate} (h : ∀ time ∈ t.timestamps, time.nanos = 0) :
    t.settled = t := by
  have hmetadata : t.metadata.map Metadata.settled = t.metadata := by
    cases hm : t.metadata with
    | none => rfl
    | some m =>
      have hself := Metadata.settled_eq_self fun time htime => h time (mem_timestamps hm htime)
      rw [Option.map_some, hself]
  rw [settled, hmetadata]

theorem fits_of_ofJson? {document : Json} {t : PodTemplate} (h : ofJson? document = some t) :
    t.Fits ∧ ∀ time ∈ t.timestamps, time.IsProper := by
  simp only [ofJson?, bind, Option.bind_eq_some_iff, Fields.optional_eq] at h
  obtain ⟨fields, -, metadata, hmetadata, spec, hspec, ht⟩ := h
  cases ht
  have hm : ∀ m ∈ metadata, m.Fits ∧ ∀ time ∈ m.timestamps, time.IsProper := by
    intro m hm
    obtain ⟨_, hread⟩ := Fields.exists_of_readOptional hmetadata m hm
    exact Metadata.fits_of_ofJson? hread
  refine ⟨⟨fun m h => (hm m h).1, fun s hs => ?_⟩, fun time htime => ?_⟩
  · obtain ⟨_, hread⟩ := Fields.exists_of_readOptional hspec s hs
    exact PodSpec.fits_of_ofJson? hread
  · obtain ⟨m, hmem, htime⟩ := List.mem_flatMap.1 htime
    exact (hm m (Option.mem_toList.1 hmem)).2 time htime

end PodTemplate

/-! ## Batches -/

theorem BatchSpec.fits_of_ofJson? {document : Json} {s : BatchSpec}
    (h : ofJson? document = some s) : s.Fits := by
  obtain ⟨fields, -, h⟩ := Option.bind_eq_some_iff.1 h
  obtain ⟨selector, -, h⟩ := Option.bind_eq_some_iff.1 h
  obtain ⟨most, hmost, h⟩ := Option.bind_eq_some_iff.1 h
  obtain ⟨failures, hfailures, h⟩ := Option.bind_eq_some_iff.1 h
  cases h
  constructor
  · unfold Fields.strictDefault at hmost
    split at hmost
    · exact (int32?_eq_some_iff.1 hmost).2
    · have hone : IsInt32 1 := ⟨by decide, by decide⟩
      cases hmost
      exact hone
  · intro n hn
    obtain ⟨_, hread⟩ := Fields.exists_of_readOptional hfailures n hn
    exact (int32?_eq_some_iff.1 hread).2

namespace JobBatch

/-- The numbers in the batch fit their widths. -/
structure Fits (b : JobBatch) : Prop where
  metadata : b.metadata.Fits
  spec : b.spec.Fits

/-- The points in time that a batch holds. -/
def timestamps (b : JobBatch) : List Timestamp := b.metadata.timestamps

/-- The batch without the fractions of its points in time. -/
def settled (b : JobBatch) : JobBatch := { b with metadata := b.metadata.settled }

theorem holds_toJson {b : JobBatch} (hfits : b.Fits) (htimes : ∀ t ∈ b.timestamps, t.IsLegible) :
    Holds ofJson? b.toJson b.settled := by
  have hmetadata := Metadata.holds_toJson hfits.metadata htimes
  have hspec := BatchSpec.holds_toJson hfits.spec
  have hstatus := Fields.holdsIfThere_map_self fun s (_ : s ∈ b.status) => s.holds_toJson
  apply holds_present
  · simp [hmetadata.isWhole, hspec.isWhole, hstatus.isWhole]
  · simp [ofJson?, Fields.required, hmetadata.read_eq, hspec.read_eq, hstatus.read_eq, settled]

theorem toJson_settled (b : JobBatch) : b.settled.toJson = b.toJson := by
  rw [toJson, settled, Metadata.toJson_settled, toJson]

theorem settled_eq_self {b : JobBatch} (h : ∀ t ∈ b.timestamps, t.nanos = 0) : b.settled = b := by
  rw [settled, Metadata.settled_eq_self h]

theorem fits_of_ofJson? {document : Json} {b : JobBatch} (h : ofJson? document = some b) :
    b.Fits ∧ ∀ t ∈ b.timestamps, t.IsProper := by
  obtain ⟨fields, -, h⟩ := Option.bind_eq_some_iff.1 h
  obtain ⟨metadata, hmetadata, h⟩ := Option.bind_eq_some_iff.1 h
  obtain ⟨spec, hspec, h⟩ := Option.bind_eq_some_iff.1 h
  obtain ⟨status, -, h⟩ := Option.bind_eq_some_iff.1 h
  cases h
  obtain ⟨_, hm⟩ := Fields.exists_of_required hmetadata
  obtain ⟨_, hs⟩ := Fields.exists_of_required hspec
  obtain ⟨hfits, hproper⟩ := Metadata.fits_of_ofJson? hm
  exact ⟨⟨hfits, BatchSpec.fits_of_ofJson? hs⟩, hproper⟩

end JobBatch

/-! ## Job templates -/

namespace JobTemplate

/-- The numbers in the job template fit their widths. -/
structure Fits (t : JobTemplate) : Prop where
  metadata : t.metadata.Fits
  template : t.template.Fits

/-- The points in time that a job template holds: its own and those of the pods to come. -/
def timestamps (t : JobTemplate) : List Timestamp :=
  t.metadata.timestamps ++ t.template.timestamps

/-- The job template without the fractions of its points in time. -/
def settled (t : JobTemplate) : JobTemplate :=
  { metadata := t.metadata.settled, template := t.template.settled }

theorem holds_toJson {t : JobTemplate} (hfits : t.Fits)
    (htimes : ∀ time ∈ t.timestamps, time.IsLegible) : Holds ofJson? t.toJson t.settled := by
  obtain ⟨hown, hpods⟩ := List.forall_mem_append.1 htimes
  have hmetadata := Metadata.holds_toJson hfits.metadata hown
  have htemplate := PodTemplate.holds_toJson hfits.template hpods
  have hspec : Holds specOfJson? (.obj [("template", t.template.toJson)]) t.template.settled := by
    apply @holds_present _ _ [("template", some t.template.toJson)]
    · simp [htemplate.isWhole]
    · simp [specOfJson?, Fields.required, htemplate.read_eq]
  apply holds_present
  · simp [hmetadata.isWhole, hspec.isWhole]
  · simp [ofJson?, Fields.required, hmetadata.read_eq, hspec.read_eq, settled]

theorem toJson_settled (t : JobTemplate) : t.settled.toJson = t.toJson := by
  rw [toJson, settled, Metadata.toJson_settled, PodTemplate.toJson_settled, toJson]

theorem settled_eq_self {t : JobTemplate} (h : ∀ time ∈ t.timestamps, time.nanos = 0) :
    t.settled = t := by
  obtain ⟨hown, hpods⟩ := List.forall_mem_append.1 h
  rw [settled, Metadata.settled_eq_self hown, PodTemplate.settled_eq_self hpods]

theorem fits_of_ofJson? {document : Json} {t : JobTemplate} (h : ofJson? document = some t) :
    t.Fits ∧ ∀ time ∈ t.timestamps, time.IsProper := by
  obtain ⟨fields, -, h⟩ := Option.bind_eq_some_iff.1 h
  obtain ⟨metadata, hmetadata, h⟩ := Option.bind_eq_some_iff.1 h
  obtain ⟨template, hspec, h⟩ := Option.bind_eq_some_iff.1 h
  cases h
  obtain ⟨_, hm⟩ := Fields.exists_of_required hmetadata
  obtain ⟨_, hs⟩ := Fields.exists_of_required hspec
  obtain ⟨parts, -, hs⟩ := Option.bind_eq_some_iff.1 hs
  obtain ⟨_, ht⟩ := Fields.exists_of_required hs
  obtain ⟨hown, hownProper⟩ := Metadata.fits_of_ofJson? hm
  obtain ⟨hpods, hpodsProper⟩ := PodTemplate.fits_of_ofJson? ht
  exact ⟨⟨hown, hpods⟩, List.forall_mem_append.2 ⟨hownProper, hpodsProper⟩⟩

end JobTemplate

end BatchOperator
