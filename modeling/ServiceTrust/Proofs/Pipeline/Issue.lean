/-
The certificates of a role. Issuing writes only the role's own files, in a directory that is there;
what it returns is what the files hold, the key belongs to the certificate, and a material that passed
the check of its chain verifies against the authority that signed it.
-/
import ServiceTrust.Pipeline.Issue
import ServiceTrust.Proofs.Layout
import ServiceTrust.Proofs.Stage

namespace ServiceTrust

open Stage ServiceTrust.Tree X509

namespace Suite

/-- The bytes of a certificate verify against those of another. -/
def Verifies (suite : Suite) (cert issuer : Bytes) : Prop :=
  ∃ c i, suite.readCertificate cert = .ok c ∧ suite.readCertificate issuer = .ok i ∧
    suite.checkIssuer c i = .ok ()

/-- Whether it does, by reading both. -/
def verifies (suite : Suite) (cert issuer : Bytes) : Bool :=
  match suite.readCertificate cert, suite.readCertificate issuer with
  | .ok c, .ok i => (suite.checkIssuer c i).isOk
  | _, _ => false

theorem verifies_of_verifies {suite : Suite} {cert issuer : Bytes} (h : suite.Verifies cert issuer) :
    suite.verifies cert issuer = true := by
  obtain ⟨c, i, hc, hi, hissuer⟩ := h
  simp [verifies, hc, hi, hissuer, Except.isOk, Except.toBool]

/-- The bytes are those of a certificate and of its private key. -/
def Pairs (suite : Suite) (cert key : Bytes) : Prop :=
  ∃ c k, suite.readCertificate cert = .ok c ∧ suite.readKey key = .ok k ∧ k.public = c.body.publicKey

/-- New keys are read back from their files, and the certificate for a request that a new key signed
has the public half of that key. -/
structure KeepsKeys (suite : Suite) : Prop where
  key : ∀ (spec : KeySpec) (seed : Bytes),
    suite.readKey (suite.keyPem (suite.newKey spec.kind seed)) = .ok (suite.newKey spec.kind seed)
  leaf : ∀ ⦃spec : KeySpec⦄ ⦃seed name altNames request signer serial issuer role start days stop certificate c⦄
    ⦃subject : Request.Subject⦄,
    Name.ofSubject subject = .ok name → requestedNames subject.hosts = .ok altNames →
    suite.request (suite.newKey spec.kind seed) name altNames = .ok request → Period.endOf start days = .ok stop →
    suite.certify signer (Issue.leafBody suite serial issuer request role start stop) =
      .ok certificate →
    suite.readCertificate (suite.certificatePem certificate) = .ok c →
    c.body.publicKey = (suite.newKey spec.kind seed).public

end Suite

namespace Issue

variable {σ : Type} {host : Host} {authority : Authority} {p : Profile} {role : Role}

/-! ## What changes -/

theorem sign_still {r : Request} {days : Int} :
    Obeys .still (sign host authority r role days : Stage σ Certificate) :=
  .bind (.crypto _) fun _ => .bind (.newSeed host) fun _ => .crypto _

theorem make_within :
    Obeys (.within (ServiceLayout.placesFor p.layout.directory.place role Artifact.issued)
      p.layout.directory.above) (make host authority p role : Stage σ (Material × Certificate)) := by
  have hmem {a : Artifact} (ha : a ∈ Artifact.issued) : (p.layout.path role a).place ∈
      ServiceLayout.placesFor p.layout.directory.place role Artifact.issued :=
    ServiceLayout.place_path_mem.mpr ⟨rfl, rfl, ha⟩
  refine .bind (.newSeed host) fun _ => .bind (.crypto _) fun _ => .bind (.crypto _) fun _ =>
    .bind (.crypto _) fun _ => .bind sign_still.of_still fun _ =>
    .bind (.makeDirectories subset_rfl) fun _ => ?_
  exact .bind (.write (hmem (a := .key) (by decide)) _) fun _ =>
    .bind (.setMode (hmem (a := .key) (by decide)) _) fun _ =>
    .bind (.write (hmem (a := .cert) (by decide)) _) fun _ =>
    .bind (.write (hmem (a := .csr) (by decide)) _) fun _ => .bind (.crypto _) fun _ => .pure _

theorem issue_within :
    Obeys (.within (ServiceLayout.placesFor p.layout.directory.place role Artifact.issued)
      p.layout.directory.above) (issue host authority p role : Stage σ Material) :=
  .bind (.catchFault make_within fun _ => .bind (.log _ _ _) fun _ => .fail _) fun _ =>
    .bind (.count _) fun _ => .bind (.log _ _ _) fun _ => .pure _

theorem issue_inside :
    Obeys (.inside p.layout.directory (ServiceLayout.placesFor p.layout.directory.place role Artifact.issued))
      (issue host authority p role : Stage σ Material) :=
  issue_within.mono fun h => ⟨h.1.of_isDirectory, h.2⟩

theorem isIssuedBy_still (certificate issuer : Certificate) :
    Obeys .still (isIssuedBy host certificate issuer : Stage σ Bool) := by
  unfold isIssuedBy
  split
  · exact .pure _
  · exact .bind (.log _ _ _) fun _ => .pure _

theorem checkChain_still (m : Material) :
    Obeys .still (checkChain host m authority : Stage σ Unit) :=
  .bind (.crypto _) fun _ => .bind (isIssuedBy_still _ _) fun _ =>
    .ite (fun _ => .fail _) fun _ => .pure _

/-! ## What a run that returned leaves -/

/-- The material is the one of the role `r` of `p` under `authority`, and the files hold it. -/
structure Issued (authority : Authority) (p : Profile) (r : Role) (t : Tree) (m : Material) : Prop where
  service : m.service = p.name
  role : m.role = r
  authorityPem : m.authorityPem = authority.certPem
  certPath : m.certPath = p.layout.path r .cert
  keyPath : m.keyPath = p.layout.path r .key
  csrPath : m.csrPath = p.layout.path r .csr
  cert : t.read (p.layout.path r .cert) = .ok m.certPem
  /-- Nobody but its owner may read the key. -/
  key : t.find? (p.layout.path r .key) = some (.file m.keyPem 0o600)
  csr : t.isFile (p.layout.path r .csr) = true

theorem Issued.mono {r : Role} {t t' : Tree} {m : Material} {files dirs : Set Location}
    (h : Issued authority p r t m) (hw : Within files dirs t t')
    (hf : ∀ a ∈ Artifact.issued, (p.layout.path r a).place ∉ files) : Issued authority p r t' m :=
  ⟨h.service, h.role, h.authorityPem, h.certPath, h.keyPath, h.csrPath, hw.read (hf _ (by decide)) h.cert,
    hw.find?_file (hf _ (by decide)) h.key, hw.isFile (hf _ (by decide)) h.csr⟩

theorem sign_ok {r : Request} {days : Int} {w w' : World σ} {c : Certificate}
    (h : (sign host authority r role days).exec w = (.ok c, w')) :
    ∃ serial stop, Period.endOf host.now days = .ok stop ∧ host.suite.certify authority.key
      (leafBody host.suite serial authority.certificate r role host.now stop) = .ok c := by
  unfold sign at h
  obtain ⟨stop, w₁, hstop, h⟩ := bind_ok.mp h
  obtain ⟨seed, w₂, -, h⟩ := bind_ok.mp h
  exact ⟨_, stop, mapError_eq_ok.mp (crypto_ok.mp hstop).1, (crypto_ok.mp h).1⟩

/-- `m` is the material of a new key, and of the certificate for its request. -/
structure Made (host : Host) (authority : Authority) (p : Profile) (role : Role) (key : Crypto.PrivateKey)
    (request : Request) (certificate : Certificate) (t : Tree) (m : Material) : Prop where
  issued : Issued authority p role t m
  certPem : m.certPem = host.suite.certificatePem certificate
  keyPem : m.keyPem = host.suite.keyPem key
  csr : t.read (p.layout.path role .csr) = .ok (host.suite.requestPem request)
  generated : ∃ seed, key = host.suite.newKey p.descriptor.key.kind seed
  requested : ∃ name altNames, Name.ofSubject p.descriptor = .ok name ∧
    requestedNames p.descriptor.hosts = .ok altNames ∧ host.suite.request key name altNames = .ok request
  signed : ∃ serial stop,
    Period.endOf host.now (authority.descriptor.signing.validityDays role) = .ok stop ∧
    host.suite.certify authority.key
      (leafBody host.suite serial authority.certificate request role host.now stop) = .ok certificate
  readable : ∃ written, host.suite.readCertificate m.certPem = .ok written

theorem make_ok {w w' : World σ} {m : Material} {certificate : Certificate}
    (h : (make host authority p role).exec w = (.ok (m, certificate), w')) :
    ∃ key request, Made host authority p role key request certificate w'.tree m := by
  unfold make at h
  obtain ⟨seed, w₁, -, h⟩ := bind_ok.mp h
  obtain ⟨name, w₂, hname, h⟩ := bind_ok.mp h
  obtain ⟨altNames, w₃, haltNames, h⟩ := bind_ok.mp h
  obtain ⟨request, w₄, hrequest, h⟩ := bind_ok.mp h
  obtain ⟨signed, w₅, hsign, h⟩ := bind_ok.mp h
  have hname := mapError_eq_ok.mp (crypto_ok.mp hname).1
  have haltNames := mapError_eq_ok.mp (crypto_ok.mp haltNames).1
  have hrequest := (crypto_ok.mp hrequest).1
  have hsign := sign_ok hsign
  obtain ⟨_, w₆, -, h⟩ := bind_ok.mp h
  obtain ⟨_, w₇, hkey, h⟩ := bind_ok.mp h
  obtain ⟨t₁, hwriteKey, hw₇⟩ := write_ok.mp hkey
  obtain ⟨_, w₈, hmode, h⟩ := bind_ok.mp h
  obtain ⟨t₂, hsetMode, hw₈⟩ := change_ok.mp hmode
  obtain ⟨_, w₉, hcert, h⟩ := bind_ok.mp h
  obtain ⟨t₃, hwriteCert, hw₉⟩ := write_ok.mp hcert
  obtain ⟨_, w₁₀, hcsr, h⟩ := bind_ok.mp h
  obtain ⟨t₄, hwriteCsr, hw₁₀⟩ := write_ok.mp hcsr
  rw [hw₇] at hsetMode
  rw [hw₈] at hwriteCert
  rw [hw₉] at hwriteCsr
  obtain ⟨written, w₁₁, hwritten, h⟩ := bind_ok.mp h
  obtain ⟨hwritten, hw₁₁⟩ := crypto_ok.mp hwritten
  obtain ⟨hm, hw'⟩ := pure_ok.mp h
  obtain ⟨hm, rfl⟩ := Prod.mk.inj hm
  have htree : w'.tree = t₄ := by rw [hw', hw₁₁, hw₁₀]
  -- each file stays as it was written while the others are
  have hkeyFile := (write_within hwriteCsr).find?_file (ServiceLayout.place_path_ne (a := .key) (b := .csr) (by decide))
    ((write_within hwriteCert).find?_file (ServiceLayout.place_path_ne (a := .key) (b := .cert) (by decide))
      (find?_setMode hsetMode (read_write hwriteKey)))
  have hcertRead := (write_within hwriteCsr).read (ServiceLayout.place_path_ne (a := .cert) (b := .csr) (by decide))
    (read_write hwriteCert)
  have hcsrRead := read_write hwriteCsr
  rw [htree, hm]
  refine ⟨host.suite.newKey p.descriptor.key.kind seed, request, ?_⟩
  exact ⟨⟨rfl, rfl, rfl, rfl, rfl, rfl, hcertRead, hkeyFile, isFile_iff_read.mpr ⟨_, hcsrRead⟩⟩, rfl, rfl, hcsrRead,
    ⟨seed, rfl⟩, ⟨name, altNames, hname, haltNames, hrequest⟩, hsign, ⟨written, hwritten⟩⟩

theorem Made.pairs {key : Crypto.PrivateKey} {request : Request} {certificate : Certificate} {t : Tree}
    {m : Material} (h : Made host authority p role key request certificate t m) (hs : host.suite.KeepsKeys) :
    host.suite.Pairs m.certPem m.keyPem := by
  obtain ⟨seed, rfl⟩ := h.generated
  obtain ⟨name, altNames, hname, haltNames, hrequest⟩ := h.requested
  obtain ⟨serial, stop, hstop, hcertify⟩ := h.signed
  obtain ⟨written, hwritten⟩ := h.readable
  have hpublic := hs.leaf hname haltNames hrequest hstop hcertify (h.certPem ▸ hwritten)
  exact ⟨written, _, hwritten, h.keyPem ▸ hs.key _ _, hpublic.symm⟩

theorem issue_made {w w' : World σ} {m : Material} (h : (issue host authority p role).exec w = (.ok m, w')) :
    ∃ key request certificate, Made host authority p role key request certificate w'.tree m := by
  simp only [issue, bind_ok, count_ok, log_ok, pure_ok] at h
  obtain ⟨⟨m, certificate⟩, w₁, hmake, _, _, rfl, _, _, rfl, rfl, rfl⟩ := h
  rw [catchFault_ok fun f w w' a hf => by simp at hf] at hmake
  obtain ⟨key, request, hmade⟩ := make_ok hmake
  exact ⟨key, request, certificate, hmade⟩

theorem issue_ok {w w' : World σ} {m : Material} (h : (issue host authority p role).exec w = (.ok m, w')) :
    Issued authority p role w'.tree m ∧
      (host.suite.KeepsKeys → host.suite.Pairs m.certPem m.keyPem) := by
  obtain ⟨key, request, certificate, hmade⟩ := issue_made h
  exact ⟨hmade.issued, hmade.pairs⟩

theorem checkChain_ok {w w' : World σ} {m : Material} {u : Unit}
    (h : (checkChain host m authority).exec w = (.ok u, w')) :
    w'.tree = w.tree ∧ ∃ c, host.suite.readCertificate m.certPem = .ok c ∧
      host.suite.checkIssuer c authority.certificate = .ok () := by
  refine ⟨((checkChain_still m).ran h).1, ?_⟩
  simp only [checkChain, bind_ok, crypto_ok] at h
  obtain ⟨c, _, ⟨hc, rfl⟩, b, w₁, hissued, h⟩ := h
  refine ⟨c, hc, ?_⟩
  unfold isIssuedBy at hissued
  split at hissued
  next hi => exact hi
  next =>
    simp only [bind_ok, log_ok, pure_ok] at hissued
    obtain ⟨_, _, rfl, rfl, rfl⟩ := hissued
    simp at h

end Issue

end ServiceTrust
