import BatchOperator.Config

/-!
# The command line

The options of the operator. Arguments are taken one after the other; the first one that cannot be
accepted, or that asks for help or the version, decides. Options on the command line have the last
word over variables.
-/

set_option autoImplicit false

namespace BatchOperator

/-- Settings that the command line gives. -/
structure Overrides where
  ns : Option String := none
  workers : Option Nat := none
  skipCrdInstall : Bool := false
  sink : Option SinkKind := none
  deriving DecidableEq

namespace Overrides

/-- The settings with those of the command line put in. -/
def apply (o : Overrides) (c : Config) : Config :=
  { c with
    controller := { c.controller with
      ns := o.ns <|> c.controller.ns, workers := o.workers.getD c.controller.workers }
    crds := { c.crds with install := c.crds.install && !o.skipCrdInstall }
    events := { c.events with sink := o.sink.getD c.events.sink } }

end Overrides

/-- What the command line asks for. -/
inductive Invocation where
  | help
  | version
  /-- The command line cannot be accepted. -/
  | rejected
  | run (overrides : Overrides)
  deriving DecidableEq

namespace CommandLine

/-- The options that take a value. -/
inductive ValueOption where
  | ns
  | workers
  | sink
  deriving DecidableEq

namespace ValueOption

/-- The option of a long name. -/
def ofName? (name : String) : Option ValueOption :=
  if name = "namespace" then some .ns
  else if name = "workers" then some .workers
  else if name = "event-sink" then some .sink
  else none

/-- The overrides with the value of an option, which may be given only once. -/
def set? (option : ValueOption) (value : String) (o : Overrides) : Option Overrides :=
  match option with
  | .ns => if o.ns.isSome then none else some { o with ns := some value }
  | .workers =>
    match o.workers, Text.unsigned? Text.wordLimit value.toList with
    | none, some n => some { o with workers := some n }
    | _, _ => none
  | .sink =>
    match o.sink, SinkKind.parse value with
    | none, .ok kind => some { o with sink := some kind }
    | _, _ => none

end ValueOption

/-- Whether an argument has the look of an option, so that it is no value of the option before it. A
lone dash is a value. -/
def isOption (argument : String) : Bool :=
  match argument.toList with
  | '-' :: _ :: _ => true
  | _ => false

/-- Takes the arguments one after the other. -/
def parseFrom (o : Overrides) : List String → Invocation
  | [] => .run o
  | argument :: rest =>
    match argument.toList with
    -- What follows two dashes would be no option, and there is nothing else to give.
    | ['-', '-'] => if rest.isEmpty then .run o else .rejected
    | '-' :: '-' :: name =>
      match Text.cut '=' name with
      | some (name, value) =>
        match (ValueOption.ofName? (String.ofList name)).bind fun option =>
            option.set? (String.ofList value) o with
        | some o => parseFrom o rest
        | none => .rejected
      | none =>
        let name := String.ofList name
        if name = "help" then .help
        else if name = "version" then .version
        else if name = "skip-crd-install" then
          if o.skipCrdInstall then .rejected else parseFrom { o with skipCrdInstall := true } rest
        else match ValueOption.ofName? name, rest with
          | some option, value :: rest =>
            if isOption value then .rejected
            else match option.set? value o with
              | some o => parseFrom o rest
              | none => .rejected
          | _, _ => .rejected
    | '-' :: 'h' :: _ => .help
    | '-' :: 'V' :: _ => .version
    | _ => .rejected

/-- What a command line asks for. -/
def parse (arguments : List String) : Invocation := parseFrom {} arguments

/-- The name of the program. -/
def programName : String := "jobbatch-operator"

/-- The text that is printed for the version. -/
def versionText : String := programName ++ " 0.1.0\n"

/-- The text that is printed for help. -/
def helpText : String :=
  String.join [
    "Runs batches of job templates with bounded concurrency\n",
    "\n",
    "Usage: " ++ programName ++ " [OPTIONS]\n",
    "\n",
    "Options:\n",
    "      --namespace <NAMESPACE>    Only watch this namespace (default: all namespaces)\n",
    "      --workers <WORKERS>        Number of reconciliation workers\n",
    "      --skip-crd-install         Do not create the JobBatch and JobTemplate CRDs on startup\n",
    "      --event-sink <EVENT_SINK>  Where notifications go: kubernetes or stdout\n",
    "  -h, --help                     Print help\n",
    "  -V, --version                  Print version\n"]

/-- The settings of a run. The settings that variables give have to make sense before those of the
command line are put in, and again afterwards. -/
def settings (overrides : Overrides) (lookup : String → Option String)
    (systemHost : Option String) : Except ConfigFault Config := do
  let config := overrides.apply (← Config.read lookup systemHost)
  -- The command line can ask for no workers at all.
  config.validate
  return config

end CommandLine

end BatchOperator
