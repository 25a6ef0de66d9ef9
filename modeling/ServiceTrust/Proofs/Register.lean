/-
A suite that keeps all that certificates say. Keys and signatures are numbers, and the file of a certificate
is its number in a register of those that are signed, so that it is read back as it was made, whatever it says.
-/
import ServiceTrust.Proofs.Pipeline.AuthorityKey
import ServiceTrust.Proofs.Specimen

namespace ServiceTrust.Register

open X509 Crypto Stage

/-! ## The suite -/

/-- The key of a kind that has the number `n`. -/
def key (n : Nat) : KeyKind → PrivateKey
  | .rsa _ => .rsa ⟨n, 0, 0, 0, 0⟩
  | .ec curve => .ec curve n n 0

def numberOf : PublicKey → Nat
  | .rsa n _ => n
  | .ec _ n _ => n
  | .other _ => 0

/-- The certificate that says `body` under the signature of `signer`. -/
def certificate (signer : PrivateKey) (body : Body) : Certificate :=
  ⟨body, ⟨[], [], [], Specimen.unary (numberOf signer.public)⟩, []⟩

def certificatePem (register : List Certificate) (c : Certificate) : Bytes :=
  2 :: Specimen.unary (register.idxOf c)

def readCertificate (register : List Certificate) : Bytes → Except Crypto.Fault Certificate
  | 2 :: bytes =>
    match register[bytes.length]? with
    | some c => .ok c
    | none => .error .unreadableCertificate
  | _ => .error .unreadableCertificate

def suite (register : List Certificate) : Suite where
  newKey kind seed := key (Words.toNat seed) kind
  keyPem k := 1 :: Specimen.unary (numberOf k.public)
  readKey
    | 1 :: bytes => .ok (key bytes.length (.ec .p256))
    | _ => .error .unreadableKey
  publicPem k := 4 :: Specimen.unary (numberOf k)
  keyId k := Specimen.unary (numberOf k)
  request k name altNames :=
    .ok ⟨name, k.public, altNames.map fun names => names.map AltName.withoutScope, ⟨[], [], [], []⟩, []⟩
  requestPem _ := [3]
  certify k body := .ok (certificate k body)
  certificatePem := certificatePem register
  readCertificate := readCertificate register
  thumbprint _ := "00"
  checkIssuer c issuer :=
    if c.body.issuer ≠ issuer.body.subject then .error .otherIssuer
    else if c.sealed.signature = Specimen.unary (numberOf issuer.body.publicKey) then .ok ()
    else .error .badSignature
  writeStore := Specimen.suite.writeStore
  readStore := Specimen.suite.readStore

/-- What is read from the file of a certificate is that certificate. -/
theorem eq_of_read {register : List Certificate} {c c' : Certificate}
    (h : readCertificate register (certificatePem register c) = .ok c') : c' = c := by
  simp only [readCertificate, certificatePem, Specimen.unary, List.length_replicate] at h
  split at h
  next found hfound =>
    obtain rfl := Except.ok.inj h
    obtain ⟨hlt, hfound⟩ := List.getElem?_eq_some_iff.mp hfound
    rw [← hfound, List.getElem_idxOf hlt]
  next => cases h

theorem composes (register : List Certificate) : (suite register).Composes where
  certify key body c h := by
    obtain rfl := Except.ok.inj h
    rfl
  request key name altNames r h := by
    obtain rfl := Except.ok.inj h
    exact ⟨rfl, rfl, rfl⟩

theorem keepsRoots (register : List Certificate) : (suite register).KeepsRoots := by
  rintro key certificate c - h
  obtain rfl := eq_of_read h
  exact ⟨rfl, rfl⟩

theorem keepsLeaves (register : List Certificate) : (suite register).KeepsLeaves := by
  unfold Suite.KeepsLeaves
  intros
  apply eq_of_read
  assumption

/-! ## An authority and a service -/

/-- An authority with a key on a curve. -/
def authority : AuthorityDescriptor where
  subject := ⟨"root", [], { algorithm := .ecdsa, size := 256 }, [⟨some "US", none, none, none, none⟩]⟩

/-- A service with an RSA key, the same host twice, an address with a scope, and an empty field of its subject. -/
def service : Profile where
  name := "a"
  layout := ⟨({} : Settings).tlsDirectory.child "a"⟩
  descriptor := ⟨"a", ["a", "fe80::1%eth0", "a"], .standard,
    [⟨none, none, none, some "A", some ""⟩, ⟨none, none, none, none, some "B"⟩]⟩

/-- The authority, which is made where it is not there. -/
def acquired (host : Host) : Stage DryStore Authority :=
  Authority.ensure host ({} : Settings).authorityLayout.directory authority none false

/-- The certificates that are signed for the authority and the service. Nothing is registered while they are, so
what is read back is some certificate. -/
def register : List Certificate :=
  let host := { Specimen.host with
    suite := { suite [] with readCertificate := fun _ => .ok (Specimen.certificate 0 0) } }
  let signing : Stage DryStore (List Certificate) := do
    let a ← acquired host
    let (_, c) ← Issue.make host a service .peer
    return [a.certificate, c]
  (signing.exec Specimen.world).1.toOption.getD []

def installed : Host :=
  { Specimen.host with suite := suite register, tool := Keystore.Reference.run (suite register) }

/-- A later run loads the authority that an earlier one made, and issues a certificate. -/
def laterIssue : Stage DryStore (Authority × Authority × Material) := do
  let before ← acquired installed
  let a ← acquired installed
  return (before, a, ← Issue.issue installed a service .peer)

theorem exists_laterIssue : ∃ (a : Authority) (m : Material) (w w' : World DryStore),
    a.Returned installed.suite ∧ a.OwnWork installed.suite ∧ a.descriptor.signing.validityDays .peer = 365 ∧
    (Issue.issue installed a service .peer).exec w = (.ok m, w') := by
  have hruns : (laterIssue.exec Specimen.world).1.toOption.map (fun (before, a, _) =>
      (before.origin, a.origin, decide (a.certPem = before.certPem), a.descriptor.signing.validityDays .peer)) =
      some (.generated, .file, true, 365) := by
    decide +kernel
  rcases h : laterIssue.exec Specimen.world with ⟨e | ⟨before, a, m⟩, w'⟩
  · rw [h] at hruns
    cases hruns
  · rw [h] at hruns
    simp only [Except.toOption, Option.map_some, Option.some.injEq, Prod.mk.injEq, decide_eq_true_eq] at hruns
    obtain ⟨hbefore, hloaded, hpem, hdays⟩ := hruns
    simp only [laterIssue, bind_ok, pure_ok, Prod.mk.injEq] at h
    obtain ⟨before, w₁, hmake, a, w₂, hload, m, w₃, hissue, ⟨rfl, rfl, rfl⟩, -⟩ := h
    have hreturned {a : Authority} {w w' : World DryStore} (h : (acquired installed).exec w = (.ok a, w')) :
        a.Returned installed.suite := ⟨_, _, _, _, _, _, _, _, rfl, h⟩
    have hown : a.OwnWork installed.suite :=
      .loaded (hreturned hload) hloaded (.generated (hreturned hmake) hbefore) hpem
    exact ⟨a, m, w₂, w₃, hreturned hload, hown, hdays, hissue⟩

end ServiceTrust.Register
