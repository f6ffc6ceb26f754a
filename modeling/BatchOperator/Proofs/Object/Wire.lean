import BatchOperator.Api.Request
import BatchOperator.Proofs.Object.Document

/-!
# Objects on the wire

Batches and job templates survive being written and read (`objects_surviveWire`). A value whose
points in time are whole seconds comes back as it is. A document that was read settles at once: what
is written for it, read and written again stays the same document, and only fractions of seconds are
lost. So a batch that is sent back with another status keeps its metadata and its specification.
-/

set_option autoImplicit false

namespace BatchOperator

open Json

/-! ## The result -/

/-- Values of a kind survive being written by `write` and read by `read`. -/
structure SurvivesWire {α : Type} (write : α → Json) (read : Json → Option α) (Fits : α → Prop)
    (timestamps : α → List Timestamp) : Prop where
  /-- A value in whole seconds is read from its document. -/
  returns : ∀ a, Fits a → (∀ t ∈ timestamps a, t.IsOrdinary) → read (write a) = some a
  /-- Different values have different documents. -/
  distinct : ∀ a b, Fits a → Fits b → (∀ t ∈ timestamps a, t.IsOrdinary) →
    (∀ t ∈ timestamps b, t.IsOrdinary) → write a = write b → a = b
  /-- The document is read from its text. -/
  text : ∀ a, Fits a → (∀ t ∈ timestamps a, t.IsLegible) →
    parse (write a).compact = .ok (write a)
  /-- A document holds only values that fit and have legible points in time, if these are in the
  years that have four digits. -/
  accepts : ∀ document a, read document = some a → (∀ t ∈ timestamps a, t.IsInRange) →
    Fits a ∧ ∀ t ∈ timestamps a, t.IsLegible
  /-- What was read and written is read again and written as the same document. -/
  settles : ∀ document a, read document = some a → (∀ t ∈ timestamps a, t.IsInRange) →
    ∃ b, read (write a) = some b ∧ write b = write a

/-- What is stored when a batch is sent back with another status. -/
structure JobBatch.IsRewrite (batch : JobBatch) (status : BatchStatus) (stored : JobBatch) :
    Prop where
  status : stored.status = some status
  spec : stored.spec = batch.spec
  /-- The metadata lose the fraction of the time of creation, which was never written. -/
  metadata : stored.metadata = batch.metadata.settled
  written : stored.metadata.toJson = batch.metadata.toJson

/-- The objects of the operator survive the wire. -/
structure ObjectsSurviveWire : Prop where
  batches : SurvivesWire JobBatch.toJson JobBatch.ofJson? JobBatch.Fits JobBatch.timestamps
  templates :
    SurvivesWire JobTemplate.toJson JobTemplate.ofJson? JobTemplate.Fits JobTemplate.timestamps
  /-- A batch that was read and is sent back with another status keeps all the rest. -/
  statusOnly : ∀ document batch status, JobBatch.ofJson? document = some batch →
    (∀ t ∈ batch.timestamps, t.IsInRange) →
    ∃ body stored, (Api.Request.replaceStatus (batch.withStatus status)).body = some body ∧
      JobBatch.ofJson? body = some stored ∧ batch.IsRewrite status stored

/-! ## From one kind to its values -/

/-- Values survive if their documents hold them without the fractions of their points in time, and
if nothing else can be read. -/
theorem SurvivesWire.of_holds {α : Type} {write : α → Json} {read : Json → Option α}
    {Fits : α → Prop} {timestamps : α → List Timestamp} {settled : α → α}
    (hholds : ∀ a, Fits a → (∀ t ∈ timestamps a, t.IsLegible) → Holds read (write a) (settled a))
    (hwrite : ∀ a, write (settled a) = write a)
    (hself : ∀ a, (∀ t ∈ timestamps a, t.nanos = 0) → settled a = a)
    (hread : ∀ document a, read document = some a → Fits a ∧ ∀ t ∈ timestamps a, t.IsProper) :
    SurvivesWire write read Fits timestamps := by
  have hreturns : ∀ a, Fits a → (∀ t ∈ timestamps a, t.IsOrdinary) → read (write a) = some a := by
    intro a hfits htimes
    have hread := (hholds a hfits fun t ht => (htimes t ht).isLegible).read_eq
    rwa [hself a fun t ht => (htimes t ht).whole] at hread
  have haccepts : ∀ document a, read document = some a → (∀ t ∈ timestamps a, t.IsInRange) →
      Fits a ∧ ∀ t ∈ timestamps a, t.IsLegible := by
    intro document a h hrange
    obtain ⟨hfits, hproper⟩ := hread document a h
    exact ⟨hfits, fun t ht => ⟨hrange t ht, hproper t ht⟩⟩
  constructor
  case returns => exact hreturns
  case accepts => exact haccepts
  case distinct =>
    intro a b hfitsA hfitsB htimesA htimesB h
    have ha := hreturns a hfitsA htimesA
    have hb := hreturns b hfitsB htimesB
    rw [h, hb] at ha
    exact (Option.some.inj ha).symm
  case text =>
    intro a hfits htimes
    exact parse_compact (hholds a hfits htimes).isWhole
  case settles =>
    intro document a h hrange
    obtain ⟨hfits, htimes⟩ := haccepts document a h hrange
    exact ⟨settled a, (hholds a hfits htimes).read_eq, hwrite a⟩

/-- A batch that is sent back with another status keeps all the rest. -/
theorem JobBatch.isRewrite_of_withStatus {document : Json} {batch : JobBatch}
    (h : ofJson? document = some batch) (hrange : ∀ t ∈ batch.timestamps, t.IsInRange)
    (status : BatchStatus) : ∃ stored, ofJson? (batch.withStatus status).toJson = some stored ∧
      batch.IsRewrite status stored := by
  obtain ⟨⟨hmetadata, hspec⟩, hproper⟩ := fits_of_ofJson? h
  have hfits : (batch.withStatus status).Fits := ⟨hmetadata, hspec⟩
  have hlegible : ∀ t ∈ (batch.withStatus status).timestamps, t.IsLegible := fun t ht =>
    ⟨hrange t ht, hproper t ht⟩
  refine ⟨(batch.withStatus status).settled, (holds_toJson hfits hlegible).read_eq, ?_⟩
  exact ⟨rfl, rfl, rfl, Metadata.toJson_settled batch.metadata⟩

/-- Batches and job templates survive the wire. -/
theorem objects_surviveWire : ObjectsSurviveWire where
  batches := .of_holds (fun _ => JobBatch.holds_toJson) JobBatch.toJson_settled
    (fun _ => JobBatch.settled_eq_self) fun _ _ => JobBatch.fits_of_ofJson?
  templates := .of_holds (fun _ => JobTemplate.holds_toJson) JobTemplate.toJson_settled
    (fun _ => JobTemplate.settled_eq_self) fun _ _ => JobTemplate.fits_of_ofJson?
  statusOnly := by
    intro document batch status h hrange
    obtain ⟨stored, hread, hrewrite⟩ := JobBatch.isRewrite_of_withStatus h hrange status
    exact ⟨_, stored, rfl, hread, hrewrite⟩

/-- An empty map stays and so does a leap second; the fraction goes, and the default number of
concurrent jobs is written out. -/
example : (JobBatch.ofJson? (.obj [
    ("metadata", .obj [("labels", .obj []), ("creationTimestamp", .str "2016-12-31T23:59:60.5Z")]),
    ("spec", .obj [("maxFailures", .null)])])).map (fun batch => batch.toJson.compact) = some
      ("\x7b\"apiVersion\":\"jobbatch.dev/v1alpha1\",\"kind\":\"JobBatch\",\"metadata\":" ++
        "\x7b\"creationTimestamp\":\"2016-12-31T23:59:60Z\",\"labels\":\x7b\x7d\x7d," ++
        "\"spec\":\x7b\"maxConcurrent\":1\x7d\x7d") := by
  decide +kernel

end BatchOperator
