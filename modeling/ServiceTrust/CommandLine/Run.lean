import ServiceTrust.CommandLine.Command
import ServiceTrust.Pipeline.Deploy
import ServiceTrust.Publish.Cluster
import ServiceTrust.Settings.Load

/-!
Running a command line: what it prints, and the status that it ends with.
-/
namespace ServiceTrust.CommandLine

open Stage

/-- What a run printed, and its status. -/
structure Ending where
  status : Nat
  output : List String := []
  errors : List String := []
  deriving DecidableEq, Repr

/-- What stops a run without an ending of its own. -/
inductive Stop where
  | settings (fault : Settings.Fault)
  | log (fault : Log.Fault)
  | fault (fault : ServiceTrust.Fault)
  deriving DecidableEq, Repr

def Stop.message : Stop → String
  | settings f => f.message
  | log f => f.message
  | fault f => f.message

variable {σ τ : Type}

/-- Runs `act` on a store of its own, which starts as `s`. -/
def onOwnStore (s : τ) (act : Stage τ α) : Stage σ α := fun w =>
  let (outcome, v) := act { w with store := s }
  (outcome, { v with store := w.store })

/-- The lines that tell what a build made. -/
def buildLines (r : BuildResult) : List String :=
  s!"CA ({r.authority.origin.name}): {r.authority.layout.cert}" ::
    (r.bundles.map fun b => s!"  {b.service}/{b.role.name}: {(b.path .keystoreP12).parent}") ++
    (r.tokenKeys.map fun k => s!"JWT keys: {k.publicPath.parent}").toList

/-- The lines that tell what a deployment published. -/
def deployLines (records : List SecretRecord) : List String :=
  records.map fun r => s!"  {r.space}/{r.name}"

/-- Runs a command and gives the lines that tell about it. -/
def runCommand (host : Host) (api : ClusterApi σ) (s : Settings) : Command → Stage σ (List String)
  | .build o => return buildLines (← Pipeline.build host s o.force)
  | .deploy o => do
    if o.dryRun then
      onOwnStore ({} : DryStore) do
        return deployLines (← Pipeline.deploy DryStore.store s none o.tlsOnly)
    else
      ClusterApi.configure s
      return deployLines (← Pipeline.deploy api.store s none o.tlsOnly)

/-- What is printed about a failure: the message, the step that failed, and how to look into it. -/
def failureLines (e : PipelineError) : List String :=
  s!"error: {e.message}" ::
    (if e.operation.isEmpty then [] else [s!"failed operation: {e.operation}"]) ++
    match e.hint with
    | some hint => if hint.isEmpty then [] else ["verify manually with:", hint]
    | none => []

/-- Runs a command under given settings. A pipeline failure is logged and told. -/
def runWith (host : Host) (api : ClusterApi σ) (s : Settings) (c : Command) :
    StateM (World σ) (Except ServiceTrust.Fault Ending) := do
  match ← (runCommand host api s c).run with
  | .ok lines => return .ok ⟨0, lines, []⟩
  | .error (.fault f) => return .error f
  | .error (.pipeline e) =>
    let record : LogRecord :=
      ⟨.error, "command_failed", [("command", .text c.name), ("error", .text e.message)]⟩
    modify fun w => { w with log := w.log.add record }
    return .ok ⟨1, [], failureLines e⟩

/-- Sets up the log of a run. -/
def setUpLog (level : String) : StateM (World σ) (Except Log.Fault Unit) := fun w =>
  let (log, outcome) := w.log.setUp level
  (outcome, { w with log := log })

/-- Runs the command `c` with the settings of the environment and the working directory. -/
def run (host : Host) (api : ClusterApi σ) (env : Environment) (c : Command) :
    StateM (World σ) (Except Stop Ending) := do
  match Settings.load env (← get).tree with
  | .error f => return .error (.settings f)
  | .ok loaded =>
    let s := c.override loaded
    match ← setUpLog s.logLevel with
    | .error f => return .error (.log f)
    | .ok () => return (← runWith host api s c).mapError .fault

end ServiceTrust.CommandLine
