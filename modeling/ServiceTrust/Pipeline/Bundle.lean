import ServiceTrust.Keystore.Tool

/-!
Key and trust stores of issued material. A bundle is returned only after its stores were opened
and looked into.
-/
namespace ServiceTrust

open Stage Keystore

namespace Bundle

variable {σ : Type}

/-- Stores are always made anew. -/
def storeArtifacts : List Artifact := [.keystoreP12, .truststoreP12, .keystoreJks, .truststoreJks]

def authorityAlias : String := PipelineError.truststoreAlias

/-- Writes the PKCS #12 store with the material's key under the name of the service. -/
def writeKeystore (host : Host) (m : Material) (password : String) (path : Path) :
    Stage σ Unit := do
  let key ← crypto (host.suite.readKey m.keyPem)
  let leaf ← crypto (host.suite.readCertificate m.certPem)
  let authority ← crypto (host.suite.readCertificate m.authorityPem)
  write path (host.suite.writeStore m.service key leaf [authority] password (← newSeed host))

/-- The store opens and holds a key under the alias. -/
def verifyKeystore (host : Host) (path : Path) (alias_ password : String) : Stage σ Unit := do
  let bytes ← read path
  match host.suite.readStore bytes password with
  | none => fail (.keystoreLocked path)
  | some content =>
    let found := content.leaf.bind (·.2)
    if content.key.isNone || found ≠ some alias_ then fail (.keystoreWithoutKey path alias_)

/-- The store holds the authority's certificate as trusted, and nothing else. -/
def verifyTruststore (host : Host) (executable : String) (path : Path) (password : String)
    (type : StoreType) (fingerprint : String) : Stage σ Unit := do
  let entries ← listEntries host executable path password type.name
  let wrong : Stage σ Unit := fail (.truststoreEntries path type.name (entries.map (·.alias_)))
  match entries with
  | [e] =>
    if Text.lower e.alias_ ≠ Text.lower authorityAlias || !e.isTrusted then wrong
    else if e.sha256 ≠ some fingerprint then
      fail (.truststoreFingerprint path type.name fingerprint e.sha256)
  | _ => wrong

/-- Trust stores and the JKS key store, from the PKCS #12 store and the authority's certificate in
the file `authorityFile`. -/
def convert (host : Host) (executable : String) (m : Material) (l : ServiceLayout)
    (password fingerprint : String) (authorityFile : Path) : Stage σ Unit := do
  let path := l.path m.role
  let importCert (store : Path) (alias_ : String) (file : Path) (type : StoreType) :
      Stage σ Unit := do
    let _ ← run host executable (.importCert store alias_ file password type.name)
  write authorityFile m.authorityPem
  importCert (path .truststoreP12) authorityAlias authorityFile .pkcs12
  verifyTruststore host executable (path .truststoreP12) password .pkcs12 fingerprint
  let _ ← run host executable (.importKeystore (path .keystoreP12) password (path .keystoreJks)
    password m.service StoreType.pkcs12.name StoreType.jks.name)
  write (path .jksPassword) (Text.encode (password ++ "\n"))
  importCert (path .keystoreJks) authorityAlias authorityFile .jks
  importCert (path .keystoreJks) m.service (path .chain) .jks
  importCert (path .truststoreJks) authorityAlias authorityFile .jks
  verifyTruststore host executable (path .truststoreJks) password .jks fingerprint

/-- All files of a bundle. -/
def make (host : Host) (executable : String) (m : Material) (l : ServiceLayout)
    (password : String) : Stage σ Unit := do
  let path := l.path m.role
  write (path .chain) m.chainPem
  writeKeystore host m password (path .keystoreP12)
  write (path .password) (Text.encode (password ++ "\n"))
  verifyKeystore host (path .keystoreP12) m.service password
  let authority ← crypto (host.suite.readCertificate m.authorityPem)
  let authorityFile := l.authorityFile m.role
  andFinally (convert host executable m l password (host.suite.thumbprint authority) authorityFile)
    (change (·.unlinkIfPresent authorityFile))

/-- The password of the stores of a role: the one that is set, or a new one. -/
def passwordFor (host : Host) (s : Settings) (r : Role) : Stage σ String :=
  match s.password? r with
  | some password => pure password
  | none => newToken host

/-- Packs the material of one role. -/
def bundle (host : Host) (s : Settings) (m : Material) : Stage σ Bundle := do
  let l : ServiceLayout := ⟨m.certPath.parent⟩
  let password ← passwordFor host s m.role
  storeArtifacts.forM fun a => change (·.unlinkIfPresent (l.path m.role a))
  let about : List (String × Json) := [("service", .text m.service), ("role", .text m.role.name)]
  catchFault (make host s.keytool m l password) fun f => do
    log .error "bundle_failed" (about ++ [("error", .text f.message)])
    fail (.notBundled m.service m.role l f)
  count (.bundleBuilt m.role)
  log .info "bundle_built" (about ++ [("directory", .text (toString l.directory))])
  return ⟨m.service, m.role, password, l⟩

end Bundle

end ServiceTrust
