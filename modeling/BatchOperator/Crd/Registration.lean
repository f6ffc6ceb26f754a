import BatchOperator.Api.Client
import BatchOperator.Crd.Condition
import BatchOperator.Polling

/-!
# Registering the definitions

Before the operator starts, every definition is created that is not there yet, and has to be served
within a time limit. A definition that is there already is left alone; one that was just created and
is not served in time is removed again.
-/

set_option autoImplicit false

namespace BatchOperator.Crd

/-- The operations on definitions. Each takes some time: it begins at one moment and ends at
another. -/
structure Registrar (σ : Type) where
  create : Definition → Instant → σ → Instant × σ × Except Error Unit
  get : String → Instant → σ → Instant × σ × Except Error Report
  delete : String → Instant → σ → Instant × σ × Except Error Unit

variable {σ : Type}

/-- A look at a definition: an answer is one by which it is served. -/
def lookAt (r : Registrar σ) (name : String) (now : Instant) (s : σ) : Instant × σ × Option Unit :=
  let (now, s, report) := r.get name now s
  match report with
  | .ok report => (now, s, if report.isEstablished then some () else none)
  | .error _ => (now, s, none)

/-- The wait for a definition to be served. -/
def establishment (name : String) (timeout : Duration) (start : Instant) : Poll :=
  { description := name ++ " CRD to be established", timeout,
    interval := Poll.usualInterval, start }

/-- What follows the wait for a definition: one that is not served in time is removed. -/
def settle (r : Registrar σ) (name : String) :
    Instant × σ × Except Error Unit → Instant × σ × Except Error Unit
  | (now, s, .ok ()) => (now, s, .ok ())
  | (now, s, .error e) =>
    -- The removal may fail; what is reported is why there was one.
    let (now, s, _) := r.delete name now s
    (now, s, .error e)

/-- Creates a definition and waits for it to be served. -/
def ensure (r : Registrar σ) (timeout : Duration) (definition : Definition) (now : Instant)
    (s : σ) : Instant × σ × Except Error Unit :=
  match r.create definition now s with
  -- One that is there already is not changed, whatever its version.
  | (now, s, .error e) => (now, s, if e.isAlreadyExists then .ok () else .error e)
  | (now, s, .ok ()) =>
    let poll := establishment definition.name timeout now
    settle r definition.name (poll.run (lookAt r definition.name) s)

/-- Ensures definitions one after the other, until one of them fails. -/
def ensureEach (r : Registrar σ) (timeout : Duration) :
    List Definition → Instant → σ → Instant × σ × Except Error Unit
  | [], now, s => (now, s, .ok ())
  | definition :: rest, now, s =>
    match ensure r timeout definition now s with
    | (now, s, .ok ()) => ensureEach r timeout rest now s
    | failed => failed

/-- Ensures all definitions that the operator needs. -/
def ensureAll (r : Registrar σ) (timeout : Duration) (now : Instant) (s : σ) :
    Instant × σ × Except Error Unit :=
  ensureEach r timeout all now s

/-- The operations on definitions over what answers requests in no time. -/
def Registrar.over (send : Api.Transport σ) : Registrar σ where
  create definition now s :=
    let (response, s) := send (.createDefinition definition.manifest) s
    (now, s, (response.read Report.ofJson?).map fun _ => ())
  get name now s :=
    let (response, s) := send (.getDefinition name) s
    (now, s, response.read Report.ofJson?)
  delete name now s :=
    let (response, s) := send (.deleteDefinition name) s
    (now, s, response.read (Api.deletionOfJson? Report.ofJson?))

end BatchOperator.Crd
