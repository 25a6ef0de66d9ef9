import ServiceTrust.Keystore.Pkcs12

/-!
The primitives that the pipeline makes keys, certificates and stores with, as a record: the
pipeline itself depends on nothing but these functions.
-/
namespace ServiceTrust

open X509 (Certificate Body AltName Name)

structure Suite where
  newKey : KeyKind → (seed : Bytes) → Crypto.PrivateKey
  keyPem : Crypto.PrivateKey → Bytes
  readKey : Bytes → Except Crypto.Fault Crypto.PrivateKey
  publicPem : Crypto.PublicKey → Bytes
  keyId : Crypto.PublicKey → Bytes
  request : Crypto.PrivateKey → Name → Option (List AltName) → Except Crypto.Fault X509.Request
  requestPem : X509.Request → Bytes
  certify : Crypto.PrivateKey → Body → Except Crypto.Fault Certificate
  certificatePem : Certificate → Bytes
  readCertificate : Bytes → Except Crypto.Fault Certificate
  thumbprint : Certificate → String
  checkIssuer : Certificate → (issuer : Certificate) → Except X509.IssuerFault Unit
  writeStore : (alias_ : String) → Crypto.PrivateKey → Certificate → List Certificate →
    (password : String) → (seed : Bytes) → Bytes
  readStore : Bytes → (password : String) → Option StoreContent

/-- RSA and ECDSA keys, X.509 certificates signed with SHA-256, and PKCS #12 stores. -/
def Suite.standard : Suite where
  newKey := .generate
  keyPem := X509.KeyFile.pem
  readKey := X509.KeyFile.read
  publicPem := X509.publicKeyPem
  keyId := X509.keyId
  request := X509.request
  requestPem := X509.requestPem
  certify := X509.certify
  certificatePem := X509.certificatePem
  readCertificate := X509.readCertificate
  thumbprint := X509.thumbprint
  checkIssuer := X509.checkIssuer
  writeStore := Pkcs12.write
  readStore := Pkcs12.read

end ServiceTrust
