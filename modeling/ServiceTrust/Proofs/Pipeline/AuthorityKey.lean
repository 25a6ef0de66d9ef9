/-
The key of an authority and its certificate. A call loads an authority or makes a new one: where it loads, it
has compared the key with the certificate, and where it makes one, the certificate is for the key. So whatever
stands in the directory, an authority that a call returned signs with the key that its certificate names.
-/
import ServiceTrust.Proofs.Pipeline.Authority
import ServiceTrust.Proofs.Pipeline.Issue

namespace ServiceTrust

open Stage ServiceTrust.Tree X509

/-! ## What the pipeline relies on -/

namespace Suite

/-- Certificates and requests say what they were asked to say. A request lists addresses without scopes. -/
structure Composes (suite : Suite) : Prop where
  certify : ∀ ⦃key body certificate⦄, suite.certify key body = .ok certificate → certificate.body = body
  request : ∀ ⦃key name altNames request⦄, suite.request key name altNames = .ok request →
    request.subject = name ∧ request.publicKey = key.public ∧
      request.altNames = altNames.map fun names => names.map AltName.withoutScope

theorem standard_composes : standard.Composes where
  certify key body certificate h := by
    change X509.certify key body = .ok certificate at h
    unfold X509.certify at h
    split at h
    · obtain rfl := Except.ok.inj h
      rfl
    · cases h
  request key name altNames request h := by
    change X509.request key name altNames = .ok request at h
    unfold X509.request at h
    split at h
    · obtain rfl := Except.ok.inj h
      exact ⟨rfl, rfl, rfl⟩
    · cases h

/-- The keys that there are: new ones, and those that were read from files. -/
inductive Owns (suite : Suite) : Crypto.PrivateKey → Prop
  | new (spec : KeySpec) (seed : Bytes) : Owns suite (suite.newKey spec.kind seed)
  | read {pem : Bytes} {key : Crypto.PrivateKey} (h : suite.readKey pem = .ok key) : Owns suite key

/-- The names that there are: those made for a subject, and those of certificates that were read. -/
inductive Names (suite : Suite) : Name → Prop
  | made {subject : Request.Subject} {name : Name} (h : Name.ofSubject subject = .ok name) : Names suite name
  | read {pem : Bytes} {c : Certificate} (h : suite.readCertificate pem = .ok c) : Names suite c.body.subject

/-- The certificate is that of a new authority with the key, which is new as well. -/
structure SelfSigned (suite : Suite) (key : Crypto.PrivateKey) (certificate : Certificate) : Prop where
  new : ∃ (spec : KeySpec) (seed : Bytes), key = suite.newKey spec.kind seed
  signed : ∃ subject name serial start days stop, Name.ofSubject subject = .ok name ∧
    Period.endOf start days = .ok stop ∧
    suite.certify key (authorityBody suite serial name start stop key.public) = .ok certificate

/-- The certificate of a new authority keeps its key and its extensions in its file. -/
def KeepsRoots (suite : Suite) : Prop :=
  ∀ ⦃key certificate c⦄, suite.SelfSigned key certificate →
    suite.readCertificate (suite.certificatePem certificate) = .ok c →
    c.body.publicKey = certificate.body.publicKey ∧ c.body.extensions = certificate.body.extensions

/-- The certificate of a role is what is read from its file. -/
def KeepsLeaves (suite : Suite) : Prop :=
  ∀ ⦃spec : KeySpec⦄ ⦃seed subject name altNames request signer issuer serial role start days stop certificate c⦄,
    Name.ofSubject subject = .ok name → requestedNames subject.hosts = .ok altNames →
    suite.request (suite.newKey spec.kind seed) name altNames = .ok request → suite.Owns signer →
    suite.Names issuer.body.subject → Period.endOf start days = .ok stop →
    suite.certify signer (Issue.leafBody suite serial issuer request role start stop) = .ok certificate →
    suite.readCertificate (suite.certificatePem certificate) = .ok c → c = certificate

end Suite

namespace Authority

variable {suite : Suite} {a : Authority}

/-! ## What a call returned -/

/-- Some call returned the authority. -/
def Returned (suite : Suite) (a : Authority) : Prop :=
  ∃ (σ : Type) (host : Host) (directory : Path) (d : AuthorityDescriptor) (days : Option Int) (force : Bool)
    (w w' : World σ), host.suite = suite ∧ (ensure host directory d days force).exec w = (.ok a, w')

/-- The authority is what its files hold, and they belong together. -/
structure Loaded (suite : Suite) (a : Authority) : Prop where
  origin : a.origin = .file
  key : suite.readKey a.keyPem = .ok a.key
  certificate : suite.readCertificate a.certPem = .ok a.certificate
  same : a.key.public = a.certificate.body.publicKey

/-- The authority has a new key and a certificate for it. -/
structure Generated (suite : Suite) (a : Authority) : Prop where
  origin : a.origin = .generated
  certificate : suite.SelfSigned a.key a.certificate
  certPem : a.certPem = suite.certificatePem a.certificate

theorem Returned.cases (h : Returned suite a) : Loaded suite a ∨ Generated suite a := by
  obtain ⟨σ, host, directory, d, days, force, w, w', rfl, h⟩ := h
  by_cases hload : force = false ∧ (AuthorityLayout.mk directory).isComplete w.tree = true
  · obtain ⟨w₁, h, -⟩ := ensure_loads h hload
    obtain ⟨-, horigin, hstands, ⟨hkey, hsame⟩, -⟩ := load_ok h
    exact .inl ⟨horigin, hkey, hstands.certificate, hsame⟩
  · have hmade := ensure_made h hload
    obtain ⟨serial, name, days, stop, hname, hstop, hcertify⟩ := hmade.certificate
    refine .inr ⟨hmade.origin, ⟨⟨_, _, hmade.key⟩, ⟨d.subject, name, serial, host.now, days, stop, hname, hstop, ?_⟩⟩,
      hmade.certPem⟩
    rwa [hmade.key]

theorem Generated.body (hsuite : suite.Composes) (h : Generated suite a) :
    ∃ subject serial name start stop, Name.ofSubject subject = .ok name ∧
      a.certificate.body = authorityBody suite serial name start stop a.key.public := by
  obtain ⟨subject, name, serial, start, days, stop, hname, -, hcertify⟩ := h.certificate.signed
  exact ⟨subject, serial, name, start, stop, hname, hsuite.certify hcertify⟩

/-- The authority signs with the key of its certificate. -/
theorem Returned.same (hsuite : suite.Composes) (h : Returned suite a) :
    a.certificate.body.publicKey = a.key.public := by
  obtain hloaded | hgenerated := h.cases
  · exact hloaded.same.symm
  · obtain ⟨subject, serial, name, start, stop, -, hbody⟩ := hgenerated.body hsuite
    rw [hbody, authorityBody]

theorem Returned.owns (h : Returned suite a) : suite.Owns a.key := by
  obtain hloaded | hgenerated := h.cases
  · exact .read hloaded.key
  · obtain ⟨spec, seed, hkey⟩ := hgenerated.certificate.new
    exact hkey ▸ .new spec seed

theorem Returned.names (hsuite : suite.Composes) (h : Returned suite a) :
    suite.Names a.certificate.body.subject := by
  obtain hloaded | hgenerated := h.cases
  · exact .read hloaded.certificate
  · obtain ⟨subject, serial, name, start, stop, hname, hbody⟩ := hgenerated.body hsuite
    rw [hbody]
    exact .made hname

/-! ## Authorities of this program -/

/-- The certificate is one that a call made, now or in an earlier run: it was loaded from a file with the same
content. -/
inductive OwnWork (suite : Suite) : Authority → Prop
  | generated {a : Authority} (h : Returned suite a) (horigin : a.origin = .generated) : OwnWork suite a
  | loaded {a before : Authority} (h : Returned suite a) (horigin : a.origin = .file)
    (hbefore : OwnWork suite before) (hpem : a.certPem = before.certPem) : OwnWork suite a

theorem OwnWork.selfSigned (hkeeps : suite.KeepsRoots) (h : OwnWork suite a) :
    ∃ key certificate, suite.SelfSigned key certificate ∧ a.certPem = suite.certificatePem certificate ∧
      a.certificate.body.publicKey = certificate.body.publicKey ∧
      a.certificate.body.extensions = certificate.body.extensions := by
  induction h with
  | @generated a h horigin =>
    obtain hloaded | hgenerated := h.cases
    · rw [hloaded.origin] at horigin
      cases horigin
    · exact ⟨a.key, a.certificate, hgenerated.certificate, hgenerated.certPem, rfl, rfl⟩
  | loaded h horigin _ hpem ih =>
    obtain ⟨key, certificate, hself, hbefore, -⟩ := ih
    obtain hloaded | hgenerated := h.cases
    · have hread := hloaded.certificate
      rw [hpem, hbefore] at hread
      exact ⟨key, certificate, hself, hpem.trans hbefore, hkeeps hself hread⟩
    · rw [hgenerated.origin] at horigin
      cases horigin

/-- Its certificate has the identifier of its key. -/
theorem OwnWork.subjectKeyId (hsuite : suite.Composes) (hkeeps : suite.KeepsRoots) (h : OwnWork suite a) :
    Extension.subjectKeyId? a.certificate.body.extensions = some (suite.keyId a.certificate.body.publicKey) := by
  obtain ⟨key, certificate, hself, -, hkey, hextensions⟩ := h.selfSigned hkeeps
  obtain ⟨subject, name, serial, start, days, stop, -, -, hcertify⟩ := hself.signed
  rw [hkey, hextensions, hsuite.certify hcertify]
  rfl

end Authority

end ServiceTrust
