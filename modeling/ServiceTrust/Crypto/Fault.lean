import ServiceTrust.X509.AltName
import ServiceTrust.X509.Name
import ServiceTrust.X509.Time

/-!
What can go wrong when keys and certificates are made or read.
-/
namespace ServiceTrust.Crypto

inductive Fault where
  | unreadableCertificate
  | unreadableKey
  | unsupportedKey (type : String)
  | name (fault : X509.Name.Fault)
  | altName (fault : X509.AltName.Fault)
  | period (fault : X509.Period.Fault)
  | notPrintable
  deriving DecidableEq, Repr

def Fault.message : Fault → String
  | unreadableCertificate => "Failed to load certificate: no well formed certificate"
  | unreadableKey => "Failed to load private key: no well formed unencrypted key"
  | unsupportedKey type => "Unsupported private key type: " ++ type
  | name fault => fault.message
  | altName fault => fault.message
  | period fault => fault.message
  | notPrintable => "error parsing asn1 value: a country must be printable"

end ServiceTrust.Crypto
