/-
What an issued certificate says. The descriptor of the service reaches the certificate through its request, and
the descriptor of the authority, the role and the kind of the key add the rest: whatever these are, if issuing
returned then the certificate says what they say and nothing else, and so does the request beside it.
-/
import ServiceTrust.Proofs.Register
import ServiceTrust.Proofs.X509.Name

namespace ServiceTrust

open Stage ServiceTrust.Tree X509

theorem X509.Period.endOf_ok {start stop : Instant} {days : Int} (h : Period.endOf start days = .ok stop) :
    stop = start + days * Instant.secondsPerDay := by
  unfold Period.endOf at h
  grind

/-- What the extensions say. -/
def X509.Body.values (b : Body) : List Extension.Value := b.extensions.map (·.value)

namespace Issue

variable {σ : Type} {host : Host} {authority : Authority} {p : Profile} {role : Role}

/-- A server proves that it is a server, a client that it is a client, and a peer that it is either. -/
def purposesOf : Role → List Oid
  | .server => [[1, 3, 6, 1, 5, 5, 7, 3, 1]]
  | .client => [[1, 3, 6, 1, 5, 5, 7, 3, 2]]
  | .peer => [[1, 3, 6, 1, 5, 5, 7, 3, 1], [1, 3, 6, 1, 5, 5, 7, 3, 2]]

/-- What the signing profile of a role is called. -/
def profileOf : Role → String
  | .server => "server"
  | .peer => "peer"
  | .client => "client"

/-- The days that certificates of a role are valid: those of its profile, or else of the fallback profile, or
else 365. -/
def daysFor (policy : SigningPolicy) (role : Role) : Nat :=
  (((policy.profiles.lookup (profileOf role)).bind (·.expiry)).or policy.fallback.expiry).elim 365 (·.days)

theorem validityDays_eq (policy : SigningPolicy) (role : Role) : policy.validityDays role = daysFor policy role := by
  have hname : role.name = profileOf role := by cases role <;> rfl
  unfold SigningPolicy.validityDays daysFor
  rw [hname]
  split
  next hown => rw [hown]; rfl
  next hown hfallback => rw [hown, hfallback]; rfl
  next hown hfallback => rw [hown, hfallback]; rfl

/-- The certificate of a role of `p` says what the descriptors, the role and the key tell. -/
structure Tells (host : Host) (authority : Authority) (p : Profile) (role : Role) (key : Crypto.PublicKey)
    (body : Body) : Prop where
  subject : body.subject.pairs = p.descriptor.shown
  levels : ∀ level ∈ body.subject.levels, ∃ a, level = [a]
  issuer : body.issuer = authority.certificate.body.subject
  publicKey : body.publicKey = key
  notBefore : body.notBefore = host.now
  notAfter : body.notAfter = host.now + daysFor authority.descriptor.signing role * 86400
  /-- It is no authority. -/
  constraints : ∀ isAuthority pathLength, .basicConstraints isAuthority pathLength ∈ body.values ↔
    isAuthority = false ∧ pathLength = none
  keyUsage : ∀ uses, .keyUsage uses ∈ body.values ↔
    uses = if PublicKey.isRsa key then [.digitalSignature, .keyEncipherment] else [.digitalSignature]
  extKeyUsage : ∀ purposes, .extKeyUsage purposes ∈ body.values ↔ purposes = purposesOf role
  altNames : ∀ names, .altNames names ∈ body.values ↔ altNamesFor p.descriptor.hosts = some names
  authorityKeyId : Extension.authorityKeyId? body.extensions =
    some (host.suite.keyId authority.certificate.body.publicKey)
  /-- There are no other extensions. -/
  only : body.values.map Extension.Value.oid = [Oid.basicConstraints, Oid.keyUsage, Oid.extKeyUsage,
    Oid.subjectKeyId, Oid.authorityKeyId] ++ if p.descriptor.hosts = [] then [] else [Oid.altNames]

/-- The request says the same of the subject. -/
structure Requests (p : Profile) (key : Crypto.PublicKey) (body : Body) (request : Request) : Prop where
  subject : request.subject = body.subject
  publicKey : request.publicKey = key
  altNames : request.altNames = altNamesFor p.descriptor.hosts

theorem leafBody_tells {key : Crypto.PrivateKey} {r : Request} {name : Name} (serial : Nat) {stop : Instant}
    (hname : Name.ofSubject p.descriptor = .ok name) (hsubject : r.subject = name)
    (hkey : r.publicKey = key.public) (hnames : r.altNames = altNamesFor p.descriptor.hosts)
    (hstop : Period.endOf host.now (authority.descriptor.signing.validityDays role) = .ok stop) :
    Tells host authority p role key.public
      (leafBody host.suite serial authority.certificate r role host.now stop) := by
  obtain ⟨hpairs, hlevels⟩ := Name.ofSubject_ok hname
  have hvalues : (leafBody host.suite serial authority.certificate r role host.now stop).values =
      [.basicConstraints false none, .keyUsage (Role.keyUses key.public), .extKeyUsage role.purposes,
        .subjectKeyId (host.suite.keyId key.public),
        .authorityKeyId (some (host.suite.keyId authority.certificate.body.publicKey))] ++
      ((altNamesFor p.descriptor.hosts).map .altNames).toList := by
    rw [← hnames, ← hkey]
    cases hr : r.altNames <;> simp [leafBody, Body.values, hr]
  constructor
  case subject => rw [leafBody, hsubject, hpairs]
  case levels => rwa [leafBody, hsubject]
  case issuer => rfl
  case publicKey => rw [leafBody, hkey]
  case notBefore => rfl
  case notAfter =>
    rw [leafBody, Period.endOf_ok hstop, validityDays_eq]
    rfl
  case authorityKeyId => rfl
  case constraints => simp [hvalues]
  case keyUsage => simp [hvalues, Role.keyUses]
  case extKeyUsage =>
    have hpurposes : role.purposes = purposesOf role := by cases role <;> rfl
    simp [hvalues, hpurposes]
  case altNames => simp [hvalues]
  case only =>
    rw [hvalues, altNamesFor]
    split <;> rfl

/-- If issuing returned, the certificate says exactly what the descriptors, the role and the key tell, and so
does the request; the three files hold what is handed on. -/
theorem issued_certificate_tells {w w' : World σ} {m : Material} (hsuite : host.suite.Composes)
    (h : (issue host authority p role).exec w = (.ok m, w')) :
    ∃ seed certificate request,
      let key := host.suite.newKey p.descriptor.key.kind seed
      Tells host authority p role key.public certificate.body ∧
      Requests p key.public certificate.body request ∧
      (m.certPem = host.suite.certificatePem certificate ∧ m.keyPem = host.suite.keyPem key) ∧
      (w'.tree.read (p.layout.path role .cert) = .ok m.certPem ∧
        w'.tree.find? (p.layout.path role .key) = some (.file m.keyPem 0o600) ∧
        w'.tree.read (p.layout.path role .csr) = .ok (host.suite.requestPem request)) ∧
      (host.suite.KeepsLeaves → authority.Returned host.suite →
        host.suite.readCertificate m.certPem = .ok certificate) ∧
      (host.suite.KeepsRoots → authority.OwnWork host.suite →
        Extension.authorityKeyId? certificate.body.extensions =
          Extension.subjectKeyId? authority.certificate.body.extensions) := by
  obtain ⟨key, request, certificate, hmade⟩ := issue_made h
  obtain ⟨seed, rfl⟩ := hmade.generated
  obtain ⟨name, altNames, hname, haltNames, hrequest⟩ := hmade.requested
  obtain ⟨serial, stop, hstop, hcertify⟩ := hmade.signed
  obtain ⟨written, hwritten⟩ := hmade.readable
  obtain ⟨hsubject, hkey, hnames⟩ := hsuite.request hrequest
  have hnames := hnames.trans (requestedNames_ok haltNames)
  have hbody := hsuite.certify hcertify
  have htells := leafBody_tells serial hname hsubject hkey hnames hstop
  rw [← hbody] at htells
  refine ⟨seed, certificate, request, htells, ⟨?_, hkey, hnames⟩, ⟨hmade.certPem, hmade.keyPem⟩,
    ⟨hmade.issued.cert, hmade.issued.key, hmade.csr⟩, fun hkeeps hreturned => ?_, fun hkeeps hown => ?_⟩
  · rw [hbody, leafBody]
  · rw [hmade.certPem] at hwritten ⊢
    rw [hwritten]
    exact congrArg _ (hkeeps hname haltNames hrequest hreturned.owns (hreturned.names hsuite) hstop hcertify hwritten)
  · rw [htells.authorityKeyId, hown.subjectKeyId hsuite hkeeps]

theorem registered_certificate_tells : ∃ (a : Authority) (m : Material) (w w' : World DryStore) (c : Certificate),
    (issue Register.installed a Register.service .peer).exec w = (.ok m, w') ∧
    Register.installed.suite.readCertificate m.certPem = .ok c ∧
    c.body.subject.pairs = [("CN", "a"), ("O", "A"), ("OU", "B")] ∧
    .altNames [.dns "a", .ip (.v6 [0xfe80, 0, 0, 0, 0, 0, 0, 1] none), .dns "a"] ∈ c.body.values ∧
    .keyUsage [.digitalSignature, .keyEncipherment] ∈ c.body.values ∧
    .extKeyUsage [[1, 3, 6, 1, 5, 5, 7, 3, 1], [1, 3, 6, 1, 5, 5, 7, 3, 2]] ∈ c.body.values ∧
    c.body.notAfter = 365 * 86400 ∧
    Extension.authorityKeyId? c.body.extensions = Extension.subjectKeyId? a.certificate.body.extensions := by
  obtain ⟨a, m, w, w', hreturned, hown, hdays, hissue⟩ := Register.exists_laterIssue
  obtain ⟨seed, c, request, htells, -, -, -, hread, hid⟩ := issued_certificate_tells (Register.composes _) hissue
  refine ⟨a, m, w, w', c, hissue, hread (Register.keepsLeaves _) hreturned, htells.subject,
    (htells.altNames _).mpr (by decide +kernel), (htells.keyUsage _).mpr rfl, (htells.extKeyUsage _).mpr rfl, ?_,
    hid (Register.keepsRoots _) hown⟩
  rw [htells.notAfter, ← validityDays_eq, hdays]
  rfl

end Issue

end ServiceTrust
