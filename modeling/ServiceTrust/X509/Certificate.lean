import ServiceTrust.Crypto.Keys
import ServiceTrust.X509.Extension
import ServiceTrust.X509.Time

/-!
Certificates and certificate requests: what they say, and the signed octets that say it.
-/
namespace ServiceTrust.X509

/-- What a certificate says. -/
structure Body where
  serial : Nat
  issuer : Name
  subject : Name
  notBefore : Instant
  notAfter : Instant
  publicKey : Crypto.PublicKey
  extensions : List Extension
  deriving DecidableEq, Repr

/-- Whole days of validity. -/
def Body.days (b : Body) : Int := (b.notAfter - b.notBefore).fdiv Instant.secondsPerDay

/-- The octets that were signed, the algorithm named inside and beside them, and the signature. -/
structure Seal where
  signed : Bytes
  inner : Bytes
  outer : Bytes
  signature : Bytes
  deriving DecidableEq, Repr

structure Certificate where
  body : Body
  sealed : Seal
  whole : Bytes
  deriving DecidableEq, Repr

structure Request where
  subject : Name
  publicKey : Crypto.PublicKey
  altNames : Option (List AltName)
  sealed : Seal
  whole : Bytes
  deriving DecidableEq, Repr

/-- Why a certificate is not one that another certificate's key signed. -/
inductive IssuerFault where
  | algorithmsDiffer
  | otherIssuer
  | otherKeyType
  | badSignature
  deriving DecidableEq, Repr

def IssuerFault.message : IssuerFault → String
  | algorithmsDiffer =>
    "Inner and outer signature algorithms do not match. This is an invalid certificate."
  | otherIssuer => "Issuer certificate subject does not match certificate issuer."
  | otherKeyType => "Signature algorithm does not match issuer key type"
  | badSignature => ""

end ServiceTrust.X509
