import ServiceTrust.Log
import ServiceTrust.Metrics
import ServiceTrust.Settings.Basic
import ServiceTrust.Suite

/-!
Stages of the pipeline: they work on a state of files, secrets, log and counters, and what they did
before a failure stays done. Everything that comes from outside is in the `Host`.
-/
namespace ServiceTrust

/-- How a run of the key store tool ended. -/
inductive ToolReply where
  | finished (status : Int) (output errors : String)
  | notStarted (reason : String)
  deriving DecidableEq, Repr

/-- What a run depends on besides its state: primitives, the key store tool, randomness, the clock,
and the search path for programs. The tool is given the number of the call, its arguments and the
files, and may change the files. -/
structure Host where
  suite : Suite
  tool : Nat → List String → Tree → ToolReply × Tree
  /-- The `n`-th random password. -/
  token : Nat → String
  /-- The `n`-th random seed. -/
  seed : Nat → Bytes
  now : X509.Instant
  searchPath : Option String := none

/-- The state of a run, with the state `σ` of a store of secrets. -/
structure World (σ : Type) where
  tree : Tree
  store : σ
  log : Log := {}
  events : List Event := []
  /-- Runs of the key store tool, in order. -/
  toolRuns : List (List String) := []
  /-- Passwords and seeds drawn so far. -/
  tokens : Nat := 0
  seeds : Nat := 0

/-- A part of a run. It may fail, and keeps what it changed before. -/
abbrev Stage (σ : Type) := ExceptT Failure (StateM (World σ))

namespace Stage

variable {σ : Type}

def fail (e : PipelineError) : Stage σ α := throw (.pipeline e)

def log (level : Level) (message : String) (fields : List (String × Json) := []) : Stage σ Unit :=
  modify fun w => { w with log := w.log.add ⟨level, message, fields⟩ }

def count (e : Event) : Stage σ Unit := modify fun w => { w with events := w.events ++ [e] }

def tree : Stage σ Tree := return (← get).tree

/-- A change of the files that may fail. -/
def change (f : Tree → Except FileFault Tree) : Stage σ Unit := do
  match f (← get).tree with
  | .ok t => modify fun w => { w with tree := t }
  | .error fault => throw (.fault (.file fault))

def read (p : Path) : Stage σ Bytes := do
  match (← get).tree.read p with
  | .ok bytes => return bytes
  | .error fault => throw (.fault (.file fault))

def write (p : Path) (bytes : Bytes) : Stage σ Unit := change (·.write p bytes)

def makeDirectories (p : Path) : Stage σ Unit := do
  let (t, outcome) := (← get).tree.makeDirectories p
  modify fun w => { w with tree := t }
  match outcome with
  | .ok () => return
  | .error fault => throw (.fault (.file fault))

/-- Removes the generated files of a directory. -/
def clear (p : Path) : Stage σ (List Path) := do
  match (← get).tree.removeStale p with
  | .ok (t, removed) =>
    modify fun w => { w with tree := t }
    return removed
  | .error fault => throw (.fault (.file fault))

def crypto (outcome : Except Crypto.Fault α) : Stage σ α :=
  match outcome with
  | .ok a => return a
  | .error fault => throw (.fault (.crypto fault))

def newSeed (host : Host) : Stage σ Bytes := do
  let n := (← get).seeds
  modify fun w => { w with seeds := n + 1 }
  return host.seed n

def newToken (host : Host) : Stage σ String := do
  let n := (← get).tokens
  modify fun w => { w with tokens := n + 1 }
  return host.token n

/-- Runs `act`, and turns a plain fault of it into the failure that `onFault` gives; pipeline
failures pass. -/
def catchFault (act : Stage σ α) (onFault : Fault → Stage σ α) : Stage σ α :=
  tryCatch act fun
    | .fault f => onFault f
    | .pipeline e => throw (.pipeline e)

/-- Runs `act` and after it `last`, whether or not `act` fails. -/
def andFinally (act : Stage σ α) (last : Stage σ Unit) : Stage σ α := do
  let a ← tryCatch act fun e => do
    last
    throw e
  last
  return a

end Stage

end ServiceTrust
