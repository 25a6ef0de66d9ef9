import ServiceTrust.Pipeline.Authority

/-!
Certificates for the roles of a service, signed by the authority.
-/
namespace ServiceTrust

open Stage X509

/-- What the certificates of a role are for. -/
def Role.purposes : Role → List Oid
  | server => [Oid.serverAuth]
  | client => [Oid.clientAuth]
  | peer => [Oid.serverAuth, Oid.clientAuth]

/-- Keys that encrypt other keys are RSA keys. -/
def Role.keyUses (key : Crypto.PublicKey) : List KeyUse :=
  if PublicKey.isRsa key then [.digitalSignature, .keyEncipherment] else [.digitalSignature]

namespace Issue

/-- What the certificate for a request says, for a role and under an issuer. -/
def leafBody (suite : Suite) (serial : Nat) (issuer : Certificate) (r : Request) (role : Role)
    (start stop : Instant) : Body where
  serial := serial
  issuer := issuer.body.subject
  subject := r.subject
  notBefore := start
  notAfter := stop
  publicKey := r.publicKey
  extensions := [⟨true, .basicConstraints false none⟩,
    ⟨true, .keyUsage (Role.keyUses r.publicKey)⟩, ⟨false, .extKeyUsage role.purposes⟩,
    ⟨false, .subjectKeyId (suite.keyId r.publicKey)⟩,
    ⟨false, .authorityKeyId (some (suite.keyId issuer.body.publicKey))⟩] ++
    (r.altNames.map fun names => ⟨false, .altNames names⟩).toList

variable {σ : Type}

/-- The certificate for a request. -/
def sign (host : Host) (authority : Authority) (r : Request) (role : Role) (days : Int) :
    Stage σ Certificate := do
  let stop ← crypto ((Period.endOf host.now days).mapError .period)
  let serial := serialOf (← newSeed host)
  crypto (host.suite.certify authority.key
    (leafBody host.suite serial authority.certificate r role host.now stop))

/-- Key, request and certificate of a role, and its three files. -/
def make (host : Host) (authority : Authority) (p : Profile) (role : Role) :
    Stage σ (Material × Certificate) := do
  let certPath := p.layout.path role .cert
  let keyPath := p.layout.path role .key
  let csrPath := p.layout.path role .csr
  let key := host.suite.newKey p.descriptor.key.kind (← newSeed host)
  let name ← crypto ((Name.ofSubject p.descriptor).mapError .name)
  let altNames ← crypto ((requestedNames p.descriptor.hosts).mapError .altName)
  let request ← crypto (host.suite.request key name altNames)
  let days := authority.descriptor.signing.validityDays role
  let certificate ← sign host authority request role days
  let certPem := host.suite.certificatePem certificate
  let keyPem := host.suite.keyPem key
  makeDirectories p.layout.directory
  write keyPath keyPem
  change (·.setMode keyPath keyFileMode)
  write certPath certPem
  write csrPath (host.suite.requestPem request)
  let written ← crypto (host.suite.readCertificate certPem)
  return (⟨p.name, role, certPem, keyPem, authority.certPem, certPath, keyPath, csrPath,
    .ofList (Nat.toDigits 16 certificate.body.serial), host.suite.thumbprint written⟩, certificate)

/-- Issues the certificate of one role and writes it down. -/
def issue (host : Host) (authority : Authority) (p : Profile) (role : Role) :
    Stage σ Material := do
  let about : List (String × Json) := [("service", .text p.name), ("role", .text role.name)]
  let (material, certificate) ← catchFault (make host authority p role) fun f => do
    log .error "certificate_issue_failed" (about ++ [("error", .text f.message)])
    fail (.notIssued p.name role p.layout authority.layout f)
  count (.certificateIssued role)
  log .info "certificate_issued" (about ++ [("serial", .text material.serial),
    ("thumbprint", .text material.thumbprint),
    ("not_after", .text certificate.body.notAfter.toString)])
  return material

/-- The certificate names the issuer and is signed by its key. -/
def isIssuedBy (host : Host) (certificate issuer : Certificate) : Stage σ Bool := do
  match host.suite.checkIssuer certificate issuer with
  | .ok () => return true
  | .error fault =>
    log .debug "chain_verification_failed" [("error", .text fault.message)]
    return false

/-- Fails unless the material's certificate verifies against the authority. -/
def checkChain (host : Host) (m : Material) (authority : Authority) : Stage σ Unit := do
  let certificate ← crypto (host.suite.readCertificate m.certPem)
  if !(← isIssuedBy host certificate authority.certificate) then
    fail (.chainBroken m.service m.role m.certPath authority.layout)

end Issue

end ServiceTrust
