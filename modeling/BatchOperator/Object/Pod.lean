import BatchOperator.Object.Metadata

/-!
# Pods

The pods that child jobs run in, the templates they are made from, and the five phases in which a
child job can be.
-/

set_option autoImplicit false

namespace BatchOperator

/-- A variable in the environment of a container. -/
structure EnvVar where
  name : String
  value : Option String := none
  deriving DecidableEq

namespace EnvVar

/-- The variable that a document holds. -/
def ofJson? (document : Json) : Option EnvVar := do
  let fields ← document.fields?
  let name ← fields.orDefault "name" Json.str? ""
  let value ← fields.optional "value" Json.str?
  return { name, value }

/-- The document of a variable. -/
def toJson (v : EnvVar) : Json :=
  .present [("name", some (.str v.name)), ("value", v.value.map .str)]

end EnvVar

/-- A container of a pod. -/
structure Container where
  name : String
  image : Option String := none
  command : Option (List String) := none
  args : Option (List String) := none
  env : Option (List EnvVar) := none
  deriving DecidableEq

namespace Container

/-- The container that a document holds. -/
def ofJson? (document : Json) : Option Container := do
  let fields ← document.fields?
  let args ← fields.optional "args" Json.strings?
  let command ← fields.optional "command" Json.strings?
  let env ← fields.optional "env" (Json.list? EnvVar.ofJson?)
  let image ← fields.optional "image" Json.str?
  let name ← fields.orDefault "name" Json.str? ""
  return { name, image, command, args, env }

/-- The document of a container. -/
def toJson (c : Container) : Json :=
  .present [("args", c.args.map .ofStrings), ("command", c.command.map .ofStrings),
    ("env", c.env.map fun vars => .arr (vars.map EnvVar.toJson)), ("image", c.image.map .str),
    ("name", some (.str c.name))]

end Container

/-- What runs in a pod. -/
structure PodSpec where
  containers : List Container := []
  restartPolicy : Option String := none
  nodeSelector : Option StringMap := none
  serviceAccountName : Option String := none
  terminationGracePeriodSeconds : Option Int := none
  deriving DecidableEq

namespace PodSpec

/-- The specification that a document holds. -/
def ofJson? (document : Json) : Option PodSpec := do
  let fields ← document.fields?
  let containers ← fields.orDefault "containers" (Json.list? Container.ofJson?) []
  let nodeSelector ← fields.optional "nodeSelector" Json.stringMap?
  let restartPolicy ← fields.optional "restartPolicy" Json.str?
  let serviceAccountName ← fields.optional "serviceAccountName" Json.str?
  let terminationGracePeriodSeconds ← fields.optional "terminationGracePeriodSeconds" Json.int64?
  return { containers, restartPolicy, nodeSelector, serviceAccountName,
           terminationGracePeriodSeconds }

/-- The document of a specification; the containers are always there. -/
def toJson (s : PodSpec) : Json :=
  .present [("containers", some (.arr (s.containers.map Container.toJson))),
    ("nodeSelector", s.nodeSelector.map .ofStringMap),
    ("restartPolicy", s.restartPolicy.map .str),
    ("serviceAccountName", s.serviceAccountName.map .str),
    ("terminationGracePeriodSeconds", s.terminationGracePeriodSeconds.map .int)]

end PodSpec

/-- What is known of a running pod. -/
structure PodStatus where
  phase : Option String := none
  deriving DecidableEq

namespace PodStatus

/-- The status that a document holds. -/
def ofJson? (document : Json) : Option PodStatus := do
  let fields ← document.fields?
  let phase ← fields.optional "phase" Json.str?
  return { phase }

/-- The document of a status. -/
def toJson (s : PodStatus) : Json :=
  .present [("phase", s.phase.map .str)]

end PodStatus

/-- A pod. -/
structure Pod where
  metadata : Metadata := {}
  spec : Option PodSpec := none
  status : Option PodStatus := none
  deriving DecidableEq, Inhabited

namespace Pod

instance : Resource Pod := ⟨Pod.metadata⟩

/-- The API version of pods. -/
def apiVersion : String := "v1"

/-- The kind of pods. -/
def kind : String := "Pod"

/-- The pod that a document holds. A document that says that it is of another version or kind holds
none. -/
def ofJson? (document : Json) : Option Pod := do
  let fields ← document.fields?
  fields.fixed "apiVersion" apiVersion
  fields.fixed "kind" kind
  let metadata ← fields.orDefault "metadata" Metadata.ofJson? {}
  let spec ← fields.optional "spec" PodSpec.ofJson?
  let status ← fields.optional "status" PodStatus.ofJson?
  return { metadata, spec, status }

/-- The document of a pod. -/
def toJson (p : Pod) : Json :=
  .present [("apiVersion", some (.str apiVersion)), ("kind", some (.str kind)),
    ("metadata", some p.metadata.toJson), ("spec", p.spec.map PodSpec.toJson),
    ("status", p.status.map PodStatus.toJson)]

end Pod

/-- What a pod is made from. -/
structure PodTemplate where
  metadata : Option Metadata := none
  spec : Option PodSpec := none
  deriving DecidableEq

namespace PodTemplate

/-- The template that a document holds. -/
def ofJson? (document : Json) : Option PodTemplate := do
  let fields ← document.fields?
  let metadata ← fields.optional "metadata" Metadata.ofJson?
  let spec ← fields.optional "spec" PodSpec.ofJson?
  return { metadata, spec }

/-- The document of a template. -/
def toJson (t : PodTemplate) : Json :=
  .present [("metadata", t.metadata.map Metadata.toJson), ("spec", t.spec.map PodSpec.toJson)]

end PodTemplate

/-- The phases of a child job. -/
inductive Phase where
  | pending
  | running
  | succeeded
  | failed
  | unknown
  deriving DecidableEq, Repr

namespace Phase

/-- The name of a phase. -/
def render : Phase → String
  | .pending => "Pending"
  | .running => "Running"
  | .succeeded => "Succeeded"
  | .failed => "Failed"
  | .unknown => "Unknown"

/-- The phase of a name; what names no other phase is pending. -/
def ofName (name : String) : Phase :=
  if name = "Running" then .running
  else if name = "Succeeded" then .succeeded
  else if name = "Failed" then .failed
  else if name = "Unknown" then .unknown
  else .pending

/-- Whether a job in this phase has ended. -/
def isTerminal : Phase → Bool
  | .succeeded | .failed | .unknown => true
  | .pending | .running => false

/-- Whether a job in this phase counts as failed. -/
def isFailure : Phase → Bool
  | .failed | .unknown => true
  | _ => false

end Phase

/-- The phase of the job in a pod; a pod on which nothing was reported yet is pending. -/
def Pod.phase (p : Pod) : Phase :=
  match p.status.bind (·.phase) with
  | some name => .ofName name
  | none => .pending

end BatchOperator
