import ServiceTrust.Publish.Entries
import ServiceTrust.Publish.Hint
import ServiceTrust.Publish.Store

/-!
Publication of files and values as secrets. All files behind a group of secrets are looked for
before the first request to the store.
-/
namespace ServiceTrust

open Stage

/-- What secrets are written with: the store, how they replace earlier ones, and the authority's
files. -/
structure Publisher (σ : Type) where
  store : SecretStore σ
  strategy : ReplaceStrategy
  authority : AuthorityFiles

namespace Publisher

variable {σ : Type}

/-- The entries without a file behind them, as a message lists them. -/
def missing (t : Tree) (es : Entries) : List String :=
  sortedNames ((es.filter fun e => !t.isFile e.2).map fun e => s!"{e.1}={e.2}")

def checkFiles (secret : String) (es : Entries) : Stage σ Unit := do
  match missing (← tree) es with
  | [] => return
  | lacking => fail (.missingFiles secret lacking)

/-- Replaces the secret of the same name. A refusal that carries no hint of its own gets `hint`. -/
def put (p : Publisher σ) (r : SecretRecord) (hint : Option String) : Stage σ Unit := do
  let about : List (String × Json) := [("secret", .text r.name), ("namespace", .text r.space)]
  let writing : Stage σ Unit :=
    match p.strategy with
    | .replace => p.store.replace r
    | .recreate => do
      let _ ← p.store.delete r.name r.space
      p.store.create r
  tryCatch writing fun
    | .pipeline (.store fault own) => do
      log .error "secret_publish_failed" (about ++ [("error", .text fault.message)])
      fail (.store fault (own <|> hint))
    | e => throw e
  log .debug "secret_written" (about ++ [("keys", .texts (sortedNames r.keys))])

/-- The labels, annotations and kind that a secret of files is published with. -/
structure FileSecret where
  name : String
  space : String
  entries : Entries
  labels : List (String × String) := []
  annotations : List (String × String) := []
  convention : String := "none"
  kind : String := "files"
  hint : Option String := none

/-- The contents of the files, under the keys. -/
def readEntries (es : Entries) : Stage σ (List (String × Bytes)) :=
  es.mapM fun e => do return (e.1, ← read e.2)

/-- Publishes a secret whose values are the contents of files. -/
def publishFiles (p : Publisher σ) (f : FileSecret) : Stage σ SecretRecord := do
  checkFiles f.name f.entries
  let r : SecretRecord := ⟨f.name, f.space, ← readEntries f.entries, f.labels, f.annotations⟩
  p.put r f.hint
  count (.secretPublished f.convention f.kind)
  return r

/-- Publishes a secret of texts. -/
def publishLiteral (p : Publisher σ) (name space : String) (values : List (String × String))
    (kind : String) : Stage σ SecretRecord := do
  let r : SecretRecord :=
    { name, space, data := values.map fun (k, v) => (k, Text.encode v) }
  p.put r (some s!"kubectl get secret -n {space} {name} -o yaml")
  count (.secretPublished "none" kind)
  return r

/-- Publishes the secret of one role, after the auxiliary secrets that belong to it; the secret
itself comes first in the answer. `bundle` is what a build in the same run made. -/
def publish (p : Publisher σ) (bundle : Option Bundle) (service : Profile) (role : Role)
    (space : String) : Stage σ (List SecretRecord) := do
  let name := Publish.secretName service.name role
  let entries := Publish.dataEntries service role p.authority
  let auxiliaries := Publish.auxiliarySecrets service role space p.authority
  checkFiles name entries
  auxiliaries.forM fun a => checkFiles a.name a.entries
  let hint := some (Publish.remediationHint name space (entries.map (·.1)))
  let convention := service.convention.name
  let records ← auxiliaries.mapM fun a => p.publishFiles
    ⟨a.name, space, a.entries, a.labels, a.annotations, convention, "auxiliary", hint⟩
  let primary ← p.publishFiles ⟨name, space, entries, [], [], convention, "primary", hint⟩
  log .info "secret_deployed" [("service", .text service.name), ("secret", .text name),
    ("namespace", .text space), ("keys", .int primary.data.length),
    ("auxiliary", .texts (auxiliaries.map (·.name))),
    ("password_file", .optText (bundle.map fun b => toString (b.path .password)))]
  return primary :: records

end Publisher

end ServiceTrust
