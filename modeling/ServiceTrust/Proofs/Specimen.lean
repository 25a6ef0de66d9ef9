/-
A small installation that a whole run can be evaluated on. Keys are numbers, and a certificate carries the
number of its key and the number of the key that signed it, so issuing and verifying are what they are with
real keys while nothing has to be computed but lists. The suite is one that the pipeline can rely on, for
all keys, requests and certificates.
-/
import ServiceTrust.Proofs.Keystore.Tool
import ServiceTrust.Proofs.Pipeline.Authority
import ServiceTrust.Proofs.Pipeline.Issue
import ServiceTrust.Publish.Store

namespace ServiceTrust.Specimen

open X509 Crypto ServiceTrust.Tree

/-! ## Keys and certificates -/

def key (n : Nat) : PrivateKey := .ec .p256 n n 0

def numberOf : PublicKey → Nat
  | .ec _ x _ => x
  | _ => 0

theorem numberOf_key (n : Nat) : numberOf (key n).public = n := rfl

/-- A number in bytes. -/
def unary (n : Nat) : Bytes := List.replicate n 0

/-- The certificate of the key `subject`, signed by the key `signer`. -/
def certificate (subject signer : Nat) : Certificate :=
  ⟨⟨0, ⟨[]⟩, ⟨[]⟩, 0, 0, (key subject).public, []⟩, ⟨[], [], [], unary signer⟩, []⟩

def certificatePem (c : Certificate) : Bytes :=
  2 :: unary (numberOf c.body.publicKey) ++ 1 :: c.sealed.signature

def readCertificate : Bytes → Except Crypto.Fault Certificate
  | 2 :: bytes =>
    let subject := bytes.takeWhile (· = 0)
    .ok (certificate subject.length (bytes.drop (subject.length + 1)).length)
  | _ => .error .unreadableCertificate

theorem takeWhile_unary (n : Nat) (rest : Bytes) : (unary n ++ 1 :: rest).takeWhile (· = 0) = unary n := by
  induction n with
  | zero => rfl
  | succ n ih => simp [unary, List.replicate_succ]

/-- A certificate is read back as it was written. -/
theorem readCertificate_pem (subject signer : Nat) :
    readCertificate (certificatePem (certificate subject signer)) = .ok (certificate subject signer) := by
  have hpem : certificatePem (certificate subject signer) = 2 :: (unary subject ++ 1 :: unary signer) := rfl
  have hrest : (unary subject ++ 1 :: unary signer).drop ((unary subject).length + 1) = unary signer := by simp
  simp only [hpem, readCertificate, takeWhile_unary, hrest]
  simp [unary]

/-! ## The suite -/

/-- A store in bytes: the name of its entry and its password. -/
def storeBytes (alias_ password : String) : Bytes := 5 :: (Text.encode alias_ ++ 255 :: Text.encode password)

def readStore (bytes : Bytes) (password : String) : Option StoreContent :=
  match bytes with
  | 5 :: bytes =>
    let alias_ := bytes.takeWhile (· ≠ 255)
    if bytes.drop (alias_.length + 1) = Text.encode password then
      (Text.decode alias_).toOption.map fun name =>
        ⟨some (key 0), some (certificate 0 0, some name), []⟩
    else none
  | _ => none

def suite : Suite where
  newKey _ seed := key (Words.toNat seed)
  keyPem k := 1 :: unary (numberOf k.public)
  readKey
    | 1 :: bytes => .ok (key bytes.length)
    | _ => .error .unreadableKey
  publicPem k := 4 :: unary (numberOf k)
  keyId k := unary (numberOf k)
  request k name altNames := .ok ⟨name, k.public, altNames, ⟨[], [], [], []⟩, []⟩
  requestPem _ := [3]
  certify k body := .ok (certificate (numberOf body.publicKey) (numberOf k.public))
  certificatePem := certificatePem
  readCertificate := readCertificate
  thumbprint _ := "00"
  checkIssuer c issuer :=
    if c.sealed.signature.length = numberOf issuer.body.publicKey then .ok () else .error .badSignature
  writeStore alias_ _ _ _ password _ := storeBytes alias_ password
  readStore := readStore

theorem readsAuthorities : suite.ReadsAuthorities := by
  intro seed serial name stop days now c spec subject _ _ h
  obtain rfl := Except.ok.inj h
  exact readCertificate_pem _ _

theorem keepsKeys : suite.KeepsKeys where
  key spec seed := by simp [suite, unary, numberOf_key]
  leaf := by
    intro spec seed name altNames request signer serial issuer role start days stop c c' subject _ _ hrequest _ hc hread
    obtain rfl := Except.ok.inj hrequest
    obtain rfl := Except.ok.inj hc
    have hc' := (readCertificate_pem (numberOf (key (Words.toNat seed)).public) (numberOf signer.public)).symm.trans
      hread
    obtain rfl := Except.ok.inj hc'
    rfl

/-! ## The installation -/

def host : Host where
  suite := suite
  tool := Keystore.Reference.run suite
  token _ := "password"
  seed n := [UInt8.ofNat n]
  now := 0
  searchPath := some "/bin"

def descriptorBytes (name : String) : Bytes := Text.encode ("\x7b\"CN\":\"" ++ name ++ "\"\x7d")

/-- The key store tool, the descriptor of an authority, and the descriptor of one service. -/
def tree : Tree := ⟨[
  (["/", "bin"], .directory),
  (["/", "bin", "keytool"], .file [] 0o755),
  (["tls"], .directory),
  (["tls", "ca"], .directory),
  (["tls", "ca", AuthorityLayout.descriptorName], .file (descriptorBytes "root") 0o644),
  (["tls", "a"], .directory),
  (["tls", "a", ServiceLayout.descriptorName], .file (descriptorBytes "a") 0o644)]⟩

def world : World DryStore := { tree := tree, store := {} }

/-- The installation with an authority, whose key has the number `n`. -/
def settled (n : Nat) : World DryStore :=
  let l : AuthorityLayout := ({} : Settings).authorityLayout
  { world with tree := ⟨tree.entries ++ [
    (l.key.place, .file (suite.keyPem (key n)) keyFileMode),
    (l.cert.place, .file (certificatePem (certificate n n)) Tree.newFileMode),
    (l.csr.place, .file [3] Tree.newFileMode)]⟩ }

theorem tree_rooted : tree.Rooted := rooted_of_entries (by decide)

theorem host_confined : Keystore.Confined host.tool := Keystore.Reference.confined suite

theorem host_delivers : Keystore.Delivers host.tool := Keystore.Reference.delivers suite

end ServiceTrust.Specimen
