import ServiceTrust.Stage

/-!
The certificate authority of a run: the one in its directory where all three files are there, a
new one otherwise. One that is there is only read.
-/
namespace ServiceTrust

open Stage

/-- Files with private keys are for their owner alone. -/
def keyFileMode : Nat := 0o600

namespace X509

/-- A positive serial number of at most 159 bits. -/
def serialOf (seed : Bytes) : Nat := max 1 (Crypto.Words.toNat (seed.take 20) / 2)

/-- What the certificate of an authority says. -/
def authorityBody (suite : Suite) (serial : Nat) (name : Name) (start stop : Instant)
    (key : Crypto.PublicKey) : Body where
  serial := serial
  issuer := name
  subject := name
  notBefore := start
  notAfter := stop
  publicKey := key
  extensions := [⟨true, .basicConstraints true (some 0)⟩,
    ⟨true, .keyUsage [.digitalSignature, .certSign, .crlSign]⟩,
    ⟨false, .subjectKeyId (suite.keyId key)⟩]

/-- The other names that a list of hosts asks for; an empty list asks for none. -/
def requestedNames (hosts : List String) : Except AltName.Fault (Option (List AltName)) :=
  if hosts.isEmpty then .ok none else (AltName.ofHosts hosts).map some

end X509

namespace Authority

open X509

/-- The period of a new authority: an override counts unless it is zero. -/
def effectiveDays (d : AuthorityDescriptor) (override : Option Int) : Int :=
  match override with
  | some days => if days = 0 then d.validityDays else days
  | none => d.validityDays

variable {σ : Type}

def directoryField (l : AuthorityLayout) : String × Json := ("ca_dir", .text (toString l.directory))

/-- Reads the three files. -/
def load (host : Host) (l : AuthorityLayout) (d : AuthorityDescriptor) : Stage σ Authority := do
  let (keyPem, certPem, csrPem, key, certificate) ← catchFault
    (do
      let keyPem ← read l.key
      let certPem ← read l.cert
      let csrPem ← read l.csr
      let key ← crypto (host.suite.readKey keyPem)
      let certificate ← crypto (host.suite.readCertificate certPem)
      return (keyPem, certPem, csrPem, key, certificate))
    fun f => do
      log .error "ca_load_failed" [directoryField l, ("error", .text f.message)]
      fail (.authorityUnreadable l f)
  if key.public ≠ certificate.body.publicKey then fail (.authorityMismatch l)
  log .info "ca_reused" [directoryField l,
    ("hint", .text s!"to recreate the CA: rm -f {l.key} {l.cert} {l.csr}")]
  return ⟨key, certificate, keyPem, certPem, csrPem, l, d, .file⟩

/-- Key, request and certificate of a new authority, and the directory cleared for them. -/
def make (host : Host) (l : AuthorityLayout) (d : AuthorityDescriptor) (days : Int) :
    Stage σ Authority := do
  makeDirectories l.directory
  let _ ← clear l.directory
  let key := host.suite.newKey d.subject.key.kind (← newSeed host)
  let name ← crypto ((Name.ofSubject d.subject).mapError .name)
  let altNames ← crypto ((requestedNames d.subject.hosts).mapError .altName)
  let request ← crypto (host.suite.request key name altNames)
  let stop ← crypto ((Period.endOf host.now days).mapError .period)
  let serial := serialOf (← newSeed host)
  let certificate ← crypto (host.suite.certify key
    (authorityBody host.suite serial name host.now stop key.public))
  let keyPem := host.suite.keyPem key
  let certPem := host.suite.certificatePem certificate
  let csrPem := host.suite.requestPem request
  write l.key keyPem
  change (·.setMode l.key keyFileMode)
  write l.cert certPem
  write l.csr csrPem
  return ⟨key, certificate, keyPem, certPem, csrPem, l, d, .generated⟩

def generate (host : Host) (l : AuthorityLayout) (d : AuthorityDescriptor) (days : Int) :
    Stage σ Authority := do
  log .info "Generating new certificate authority" [directoryField l,
    ("algorithm", .text d.subject.key.algorithm.name), ("validity_days", .int days)]
  let authority ← catchFault (make host l d days) fun f => do
    log .error "ca_generation_failed" [directoryField l, ("error", .text f.message)]
    fail (.authorityNotMade l f)
  count .authorityGenerated
  log .info "CA key pair saved to file" [("key_path", .text (toString l.key)),
    ("cert_path", .text (toString l.cert))]
  return authority

/-- The authority in `l`: loaded where it is complete and `force` is not set, generated otherwise, for
`days` if given. -/
def acquire (host : Host) (l : AuthorityLayout) (d : AuthorityDescriptor) (days : Option Int)
    (force : Bool) : Stage σ Authority := do
  let t ← tree
  if !force && l.isComplete t then load host l d
  else do
    if !force && (t.contains l.cert || t.contains l.key) then
      log .warning "ca_incomplete_regenerating" [directoryField l]
    generate host l d (effectiveDays d days)

/-- The authority in `directory`, as it is acquired, told in the log. -/
def ensure (host : Host) (directory : Path) (d : AuthorityDescriptor) (days : Option Int)
    (force : Bool) : Stage σ Authority := do
  let authority ← acquire host ⟨directory⟩ d days force
  log .info "ca_key_loaded" [("storage_type", .text authority.origin.name),
    ("algorithm", .text authority.key.kind.name),
    ("ca_cert_expires", .text authority.certificate.body.notAfter.toString)]
  count (.authorityLoaded authority.origin)
  return authority

end Authority

end ServiceTrust
