import ServiceTrust.Pipeline.Build
import ServiceTrust.Publish.Credentials

/-!
A deployment: the secrets of every role of every service, then the token keys and the credentials.
-/
namespace ServiceTrust

open Stage

namespace TokenKeys

variable {σ : Type}

def publish (p : Publisher σ) (keys : TokenKeys) (space app : String) : Stage σ SecretRecord :=
  p.publishFiles
    { name := secretName space app
      space := space
      entries := [("private-key.pem", keys.privatePath), ("public-key.pem", keys.publicPath)]
      kind := "jwt" }

end TokenKeys

namespace Pipeline

variable {σ : Type}

/-- The authority's files to publish: those that are set, or those of its directory. -/
def authorityFiles (s : Settings) : AuthorityFiles :=
  ⟨s.authorityCert.getD s.authorityLayout.cert, s.authorityKey.getD s.authorityLayout.key⟩

/-- The secrets of one service, in the namespace that it is routed to. -/
def deployService (p : Publisher σ) (space : String) (service : Profile) :
    Stage σ (List SecretRecord) := do
  let target := (service.space.filter (!·.isEmpty)).getD space
  if target ≠ space then
    let _ ← p.store.ensureSpace target
  let records ← service.roles.mapM fun role => p.publish none service role target
  return records.flatten

def deployAll (store : SecretStore σ) (s : Settings) (space : String) (tlsOnly : Bool) :
    Stage σ (List SecretRecord) := do
  let p : Publisher σ := ⟨store, s.strategy, authorityFiles s⟩
  let profiles ← discover s space
  let _ ← store.ensureSpace space
  let records := (← profiles.mapM (deployService p space)).flatten
  if tlsOnly then return records
  let keys ← TokenKeys.publish p (TokenKeys.pairIn s.tokenDirectory false) space s.credentialsApp
  let credentials ← Credentials.publish p s space
  return records ++ keys :: credentials

/-- Publishes everything that was built into `space`, or into the namespace of the settings if none
is given. -/
def deploy (store : SecretStore σ) (s : Settings) (space : Option String := none)
    (tlsOnly : Bool := false) : Stage σ (List SecretRecord) := do
  let space := (space.filter (!·.isEmpty)).getD s.deploySpace
  let records ← counted (deployAll store s space tlsOnly)
  log .info "deploy_complete" [("namespace", .text space),
    ("secrets", .texts (records.map (·.name)))]
  return records

end Pipeline

end ServiceTrust
