import ServiceTrust.Pipeline.Bundle
import ServiceTrust.Pipeline.Discovery
import ServiceTrust.Pipeline.Issue
import ServiceTrust.Pipeline.TokenKeys

/-!
A build: the authority, then the material and the stores of every role of every service, then the
token keys.
-/
namespace ServiceTrust

open Stage

/-- What a build made. -/
structure BuildResult where
  authority : Authority
  profiles : List Profile
  materials : List Material
  bundles : List Bundle
  tokenKeys : Option TokenKeys

namespace Pipeline

variable {σ : Type}

/-- Counts a pipeline failure of `act`. -/
def counted (act : Stage σ α) : Stage σ α :=
  tryCatch act fun e => do
    match e with
    | .pipeline p => count (.failed p.kind)
    | .fault _ => pure ()
    throw e

def authorityDescriptor (s : Settings) : Stage σ AuthorityDescriptor := do
  let path := s.authorityDescriptorPath
  match Descriptor.loadAuthority (← tree) path with
  | .ok d => return d
  | .error fault =>
    if fault.isDescribed then fail (.authorityDescriptor path fault)
    else throw (.fault (.descriptor fault))

def discover (s : Settings) (deploySpace : String) : Stage σ (List Profile) :=
  tryCatch (Discovery.profiles s.tlsDirectory deploySpace s.defaultSpace) fun
    | .fault (.descriptor fault) =>
      if fault.isDescribed then fail (.services s.tlsDirectory fault)
      else throw (.fault (.descriptor fault))
    | e => throw e

/-- Material and stores of one role. -/
def buildRole (host : Host) (s : Settings) (authority : Authority) (p : Profile) (role : Role) :
    Stage σ (Material × Bundle) := do
  let material ← Issue.issue host authority p role
  Issue.checkChain host material authority
  return (material, ← Bundle.bundle host s material)

/-- Material and stores of all roles of a service, in a directory cleared for them. -/
def buildService (host : Host) (s : Settings) (authority : Authority) (p : Profile) :
    Stage σ (List (Material × Bundle)) := do
  let _ ← clear p.layout.directory
  p.roles.mapM (buildRole host s authority p)

def buildAll (host : Host) (s : Settings) (force withTokenKeys : Bool) :
    Stage σ BuildResult := do
  let _ ← Keystore.locate host s.keytool
  let descriptor ← authorityDescriptor s
  let authority ← Authority.ensure host s.authorityLayout.directory descriptor none force
  let profiles ← discover s s.deploySpace
  let made := (← profiles.mapM (buildService host s authority)).flatten
  let tokenKeys ←
    if withTokenKeys then some <$> TokenKeys.ensure host s.tokenDirectory force else pure none
  return ⟨authority, profiles, made.map (·.1), made.map (·.2), tokenKeys⟩

/-- Makes everything anew but the authority and the token keys, which are made where they are not
there or `force` is set. -/
def build (host : Host) (s : Settings) (force : Bool := false) (withTokenKeys : Bool := true) :
    Stage σ BuildResult := do
  let result ← counted (buildAll host s force withTokenKeys)
  log .info "build_complete" [("services", .texts (result.profiles.map (·.name))),
    ("certificates", .int result.materials.length),
    ("ca_storage", .text result.authority.origin.name)]
  return result

end Pipeline

end ServiceTrust
