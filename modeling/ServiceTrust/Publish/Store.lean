import ServiceTrust.Stage

/-!
Stores of secrets, and the one of a dry run: it keeps the records and logs what would be written.
-/
namespace ServiceTrust

open Stage

/-- Where secrets are written. A request that is not fulfilled is a pipeline failure. Deleting
tells whether there was a secret, ensuring a namespace whether it was made. -/
structure SecretStore (σ : Type) where
  delete : (name space : String) → Stage σ Bool
  create : SecretRecord → Stage σ Unit
  replace : SecretRecord → Stage σ Unit
  ensureSpace : (space : String) → Stage σ Bool

def SecretRecord.keys (r : SecretRecord) : List String := r.data.map (·.1)

def SecretRecord.isAt (r : SecretRecord) (name space : String) : Bool :=
  r.name = name && r.space = space

/-- The records and namespaces of a dry run. -/
structure DryStore where
  records : List SecretRecord := []
  spaces : List String := []
  deriving Repr

namespace DryStore

def get? (d : DryStore) (name space : String) : Option SecretRecord :=
  d.records.find? (·.isAt name space)

def insert (d : DryStore) (r : SecretRecord) : DryStore := { d with records := d.records ++ [r] }

def erase (d : DryStore) (name space : String) : DryStore :=
  { d with records := d.records.filter (!·.isAt name space) }

def modifyStore (f : DryStore → DryStore) : Stage DryStore Unit :=
  modify fun w => { w with store := f w.store }

def delete (name space : String) : Stage DryStore Bool := do
  let found := ((← get).store.get? name space).isSome
  modifyStore (·.erase name space)
  return found

def create (r : SecretRecord) : Stage DryStore Unit := do
  if ((← get).store.get? r.name r.space).isSome then
    fail (.store (.alreadyExists r.space r.name) none)
  modifyStore (·.insert r)
  log .info "dry_run_secret" [("secret", .text r.name), ("namespace", .text r.space),
    ("keys", .texts (sortedNames r.keys)), ("labels", .table r.labels),
    ("annotations", .table r.annotations)]

def replace (r : SecretRecord) : Stage DryStore Unit := do
  modifyStore (·.erase r.name r.space)
  create r

def ensureSpace (space : String) : Stage DryStore Bool := do
  if (← get).store.spaces.contains space then return false
  modifyStore fun d => { d with spaces := d.spaces ++ [space] }
  log .info "dry_run_namespace" [("namespace", .text space)]
  return true

/-- The store that writes to memory. -/
def store : SecretStore DryStore := ⟨delete, create, replace, ensureSpace⟩

end DryStore

end ServiceTrust
