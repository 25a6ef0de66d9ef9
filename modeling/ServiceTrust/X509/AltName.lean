import ServiceTrust.X509.Address
import ServiceTrust.Text.Utf8

/-!
The names beside the subject that a certificate stands for.
-/
namespace ServiceTrust.X509

/-- A name of a host, an address, or a name of another form, by its number. -/
inductive AltName where
  | dns (host : String)
  | ip (address : Address)
  | other (form : Nat) (content : Bytes)
  deriving DecidableEq, Repr

inductive AltName.Fault where
  | notAscii
  deriving DecidableEq, Repr

def AltName.Fault.message : AltName.Fault → String
  | notAscii =>
    "DNSName values should be passed as an A-label string. " ++
      "This means unicode characters should be encoded via a library like idna."

namespace AltName

/-- A host that writes an address is that address, any other is a name, which must be ASCII. -/
def ofHost (host : String) : Except Fault AltName :=
  match Address.ofString? host with
  | some a => .ok (.ip a)
  | none => if host.toList.all (·.toNat < 128) then .ok (.dns host) else .error .notAscii

def ofHosts (hosts : List String) : Except Fault (List AltName) := hosts.mapM ofHost

/-- The name as a certificate holds it: addresses have no scope there. -/
def withoutScope : AltName → AltName
  | ip a => ip a.withoutScope
  | n => n

/-- The form of the name and its text. -/
def pair : AltName → String × String
  | dns host => ("DNS", host)
  | ip a => ("IP", a.toString)
  | other form content => (toString form, .ofList (content.map fun b => Char.ofNat b.toNat))

end AltName

end ServiceTrust.X509
