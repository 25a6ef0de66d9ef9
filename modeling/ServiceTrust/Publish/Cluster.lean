import ServiceTrust.Crypto.Base64
import ServiceTrust.Publish.Store

/-!
The store of secrets behind the API of a cluster, and a cluster in memory to run it against.
-/
namespace ServiceTrust

open Stage

/-- A secret as the API takes it: values in base 64, and no labels or annotations where there are
none. -/
structure Manifest where
  name : String
  space : String
  labels : Option (List (String × String))
  annotations : Option (List (String × String))
  data : List (String × String)
  deriving DecidableEq, Repr

namespace Manifest

def nonEmpty (rows : List (String × String)) : Option (List (String × String)) :=
  if rows.isEmpty then none else some rows

def ofRecord (r : SecretRecord) : Manifest where
  name := r.name
  space := r.space
  labels := nonEmpty r.labels
  annotations := nonEmpty r.annotations
  data := r.data.map fun (k, v) => (k, .ofList (Crypto.Base64.encode v))

end Manifest

/-- An answer of the API that is none of success: a status with its reason, or a connection that
failed. -/
inductive ApiFault where
  | status (code : Int) (reason : Option String)
  | transport (error : String)
  deriving DecidableEq, Repr

/-- The requests that the store makes. -/
structure ClusterApi (σ : Type) where
  deleteSecret : (space name : String) → StateM σ (Except ApiFault Unit)
  createSecret : (space : String) → Manifest → StateM σ (Except ApiFault Unit)
  replaceSecret : (space name : String) → Manifest → StateM σ (Except ApiFault Unit)
  readSpace : (space : String) → StateM σ (Except ApiFault Unit)
  createSpace : (space : String) → StateM σ (Except ApiFault Unit)

def notFound : Int := 404

def conflict : Int := 409

namespace ClusterApi

variable {σ : Type}

/-- Makes a request on the store of the state. -/
def call (request : StateM σ (Except ApiFault Unit)) : Stage σ (Except ApiFault Unit) := do
  let w ← get
  let (answer, s) := request w.store
  set { w with store := s }
  return answer

/-- The failure of a request that was answered by `fault`. -/
def refuse (request : StoreRequest) (fault : ApiFault) : Stage σ α :=
  match fault with
  | .status _ reason => fail (.store (.rejected request reason) none)
  | .transport error => fail (.store (.unreachable request error) none)

def hasStatus (code : Int) : ApiFault → Bool
  | .status c _ => c = code
  | .transport _ => false

/-- A secret that is not there counts as deleted. -/
def delete (api : ClusterApi σ) (name space : String) : Stage σ Bool := do
  match ← call (api.deleteSecret space name) with
  | .ok () =>
    log .debug "secret_deleted" [("secret", .text name), ("namespace", .text space)]
    return true
  | .error fault =>
    if hasStatus notFound fault then return false
    refuse (.delete space name) fault

def create (api : ClusterApi σ) (r : SecretRecord) : Stage σ Unit := do
  match ← call (api.createSecret r.space (.ofRecord r)) with
  | .ok () => return
  | .error fault => refuse (.create r.space r.name) fault

/-- A secret that is not there yet is created. -/
def replace (api : ClusterApi σ) (r : SecretRecord) : Stage σ Unit := do
  match ← call (api.replaceSecret r.space r.name (.ofRecord r)) with
  | .ok () => return
  | .error fault =>
    if hasStatus notFound fault then create api r
    else refuse (.replace r.space r.name) fault

/-- A namespace that somebody else makes meanwhile is there. -/
def ensureSpace (api : ClusterApi σ) (space : String) : Stage σ Bool := do
  match ← call (api.readSpace space) with
  | .ok () => return false
  | .error fault =>
    if !hasStatus notFound fault then refuse (.readSpace space) fault
    else
      match ← call (api.createSpace space) with
      | .ok () =>
        log .info "namespace_created" [("namespace", .text space)]
        return true
      | .error fault =>
        if hasStatus conflict fault then return false
        refuse (.createSpace space) fault

/-- Finds out which cluster is meant. -/
def configure (s : Settings) : Stage σ Unit := do
  match ClusterConfig.load (← tree) s.clusterChoice with
  | .error fault => fail (.clusterConfig fault)
  | .ok _ =>
    log .info "kubernetes_config_loaded"
      [("in_cluster", .bool s.inCluster), ("context", .optText s.kubeContext)]

/-- The store that writes to the cluster. -/
def store (api : ClusterApi σ) : SecretStore σ :=
  ⟨api.delete, api.create, api.replace, api.ensureSpace⟩

/-- A cluster that no request reaches. -/
def outOfReach (reason : String) : ClusterApi σ :=
  let refused : StateM σ (Except ApiFault Unit) := return .error (.transport reason)
  ⟨fun _ _ => refused, fun _ _ => refused, fun _ _ _ => refused, fun _ => refused,
    fun _ => refused⟩

end ClusterApi

/-! ## A cluster in memory -/

/-- A request to a cluster: its method, and the namespace and name that it is about. -/
structure ApiCall where
  method : String
  subject : List String
  deriving DecidableEq, Repr

/-- Secrets under the namespace and name that they were sent to, namespaces, and all requests so
far. -/
structure Cluster where
  secrets : List ((String × String) × Manifest) := []
  spaces : List String := []
  calls : List ApiCall := []
  deriving Repr

namespace Cluster

def absent : ApiFault := .status notFound (some "Not Found")

def present : ApiFault := .status conflict (some "Conflict")

/-- Notes the call; then either the scheduled fault, which changes nothing, or the effect. -/
def answer (schedule : List ApiCall → Option ApiFault) (c : ApiCall)
    (effect : Cluster → Except ApiFault Cluster) : StateM Cluster (Except ApiFault Unit) :=
  fun s =>
    let s := { s with calls := s.calls ++ [c] }
    match schedule s.calls with
    | some fault => (.error fault, s)
    | none =>
      match effect s with
      | .ok s => (.ok (), s)
      | .error fault => (.error fault, s)

def bind (s : Cluster) (key : String × String) (m : Manifest) : Cluster :=
  { s with secrets :=
      if (s.secrets.lookup key).isSome then
        s.secrets.map fun e => if e.1 = key then (key, m) else e
      else s.secrets ++ [(key, m)] }

/-- A cluster that fails as scheduled from the calls so far, the current one included. -/
def api (schedule : List ApiCall → Option ApiFault) : ClusterApi Cluster where
  deleteSecret space name := answer schedule ⟨"delete", [space, name]⟩ fun s =>
    if (s.secrets.lookup (space, name)).isSome then
      .ok { s with secrets := s.secrets.filter (·.1 ≠ (space, name)) }
    else .error absent
  createSecret space m := answer schedule ⟨"create", [space, m.name]⟩ fun s =>
    if (s.secrets.lookup (space, m.name)).isSome then .error present
    else .ok (s.bind (space, m.name) m)
  replaceSecret space name m := answer schedule ⟨"replace", [space, name]⟩ fun s =>
    if (s.secrets.lookup (space, name)).isSome then .ok (s.bind (space, name) m)
    else .error absent
  readSpace space := answer schedule ⟨"read_namespace", [space]⟩ fun s =>
    if s.spaces.contains space then .ok s else .error absent
  createSpace space := answer schedule ⟨"create_namespace", [space]⟩ fun s =>
    if s.spaces.contains space then .error present
    else .ok { s with spaces := s.spaces ++ [space] }

end Cluster

end ServiceTrust
