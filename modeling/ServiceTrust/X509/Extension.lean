import ServiceTrust.Asn1.Der
import ServiceTrust.X509.AltName
import ServiceTrust.X509.Name

/-!
Extensions of certificates and requests.
-/
namespace ServiceTrust.X509

open Asn1

/-- Uses of a key, numbered by their bits. -/
inductive KeyUse where
  | digitalSignature
  | contentCommitment
  | keyEncipherment
  | dataEncipherment
  | keyAgreement
  | certSign
  | crlSign
  | encipherOnly
  | decipherOnly
  deriving DecidableEq, Repr

namespace KeyUse

def all : List KeyUse :=
  [digitalSignature, contentCommitment, keyEncipherment, dataEncipherment, keyAgreement, certSign,
    crlSign, encipherOnly, decipherOnly]

def name : KeyUse → String
  | digitalSignature => "digital_signature"
  | contentCommitment => "content_commitment"
  | keyEncipherment => "key_encipherment"
  | dataEncipherment => "data_encipherment"
  | keyAgreement => "key_agreement"
  | certSign => "key_cert_sign"
  | crlSign => "crl_sign"
  | encipherOnly => "encipher_only"
  | decipherOnly => "decipher_only"

end KeyUse

namespace Oid

def serverAuth : Oid := [1, 3, 6, 1, 5, 5, 7, 3, 1]
def clientAuth : Oid := [1, 3, 6, 1, 5, 5, 7, 3, 2]
def subjectKeyId : Oid := [2, 5, 29, 14]
def keyUsage : Oid := [2, 5, 29, 15]
def altNames : Oid := [2, 5, 29, 17]
def basicConstraints : Oid := [2, 5, 29, 19]
def authorityKeyId : Oid := [2, 5, 29, 35]
def extKeyUsage : Oid := [2, 5, 29, 37]
def extensionRequest : Oid := [1, 2, 840, 113549, 1, 9, 14]

end Oid

inductive Extension.Value where
  | basicConstraints (isAuthority : Bool) (pathLength : Option Nat)
  | keyUsage (uses : List KeyUse)
  | extKeyUsage (purposes : List Oid)
  | subjectKeyId (id : Bytes)
  | authorityKeyId (id : Option Bytes)
  | altNames (names : List AltName)
  | other (oid : Oid) (content : Bytes)
  deriving DecidableEq, Repr

structure Extension where
  critical : Bool
  value : Extension.Value
  deriving DecidableEq, Repr

namespace Extension

def Value.oid : Value → Oid
  | basicConstraints _ _ => Oid.basicConstraints
  | keyUsage _ => Oid.keyUsage
  | extKeyUsage _ => Oid.extKeyUsage
  | subjectKeyId _ => Oid.subjectKeyId
  | authorityKeyId _ => Oid.authorityKeyId
  | altNames _ => Oid.altNames
  | other oid _ => oid

/-- The uses as a bit string without trailing zeros. -/
def encodeUses (uses : List KeyUse) : Bytes :=
  let flags := ((KeyUse.all.map uses.contains).reverse.dropWhile (!·)).reverse
  let count := (flags.length + 7) / 8
  let number := flags.foldl (fun n b => 2 * n + (if b then 1 else 0)) 0
  let unused := 8 * count - flags.length
  Der.bits unused (Crypto.Words.ofNat count (number <<< unused))

def encodeAltName : AltName → Bytes
  | .dns host => Der.context 2 false (Text.encode host)
  | .ip (.v4 octets) => Der.context 7 false (octets.map UInt8.ofNat)
  | .ip (.v6 groups _) => Der.context 7 false (groups.flatMap (Crypto.Words.ofNat 2))
  | .other form content => Der.context form false content

def Value.encode : Value → Bytes
  | basicConstraints isAuthority pathLength =>
    Der.sequence ((if isAuthority then [Der.bool true] else []) ++
      (pathLength.map Der.nat).toList)
  | keyUsage uses => encodeUses uses
  | extKeyUsage purposes => Der.sequence (purposes.map Der.oid)
  | subjectKeyId id => Der.octets id
  | authorityKeyId id => Der.sequence (id.map (Der.context 0 false)).toList
  | altNames names => Der.sequence (names.map encodeAltName)
  | other _ content => content

def encode (e : Extension) : Bytes :=
  Der.sequence ([Der.oid e.value.oid] ++ (if e.critical then [Der.bool true] else []) ++
    [Der.octets e.value.encode])

def decodeUses? (v : Tlv) : Option (List KeyUse) :=
  match v.tag, v.content with
  | 0x03, _ :: bs =>
    let flags := bs.flatMap fun b => (List.range 8).map fun i => b.toNat.testBit (7 - i)
    some ((KeyUse.all.zip flags).filterMap fun (u, set) => if set then some u else none)
  | _, _ => none

def decodeAltName? (v : Tlv) : Option AltName :=
  match v.tag.toNat % 32, v.content.map UInt8.toNat with
  | 2, codes => some (.dns (.ofList (codes.map Char.ofNat)))
  | 7, [a, b, c, d] => some (.ip (.v4 [a, b, c, d]))
  | 7, [a, b, c, d, e, f, g, h, i, j, k, l, m, n, o, p] =>
    some (.ip (.v6 [256 * a + b, 256 * c + d, 256 * e + f, 256 * g + h, 256 * i + j, 256 * k + l,
      256 * m + n, 256 * o + p] none))
  | 7, _ => none
  | form, _ => some (.other form v.content)

def decodeConstraints? (items : List Tlv) : Option Value :=
  match items with
  | [] => some (.basicConstraints false none)
  | [a] =>
    if a.tag = 0x01 then some (.basicConstraints (a.content ≠ [0]) none)
    else a.nat?.map fun n => .basicConstraints false (some n)
  | [a, b] => b.nat?.map fun n => .basicConstraints (a.content ≠ [0]) (some n)
  | _ => none

/-- The value under the identifier `oid`; one of another kind, or not of its form, is kept as it
stands. -/
def Value.decode (oid : Oid) (content : Bytes) : Value :=
  let known : Option Value := do
    let v ← Tlv.parse? content
    if oid = Oid.basicConstraints then decodeConstraints? (← v.sequence?)
    else if oid = Oid.keyUsage then return .keyUsage (← decodeUses? v)
    else if oid = Oid.extKeyUsage then return .extKeyUsage (← (← v.sequence?).mapM Tlv.oid?)
    else if oid = Oid.subjectKeyId then return .subjectKeyId (← v.octets?)
    else if oid = Oid.authorityKeyId then
      return .authorityKeyId (((← v.sequence?).find? (·.tag = 0x80)).map (·.content))
    else if oid = Oid.altNames then return .altNames (← (← v.sequence?).mapM decodeAltName?)
    else none
  known.getD (.other oid content)

def decode? (v : Tlv) : Option Extension := do
  match ← v.sequence? with
  | [oid, value] => return ⟨false, .decode (← oid.oid?) (← value.octets?)⟩
  | [oid, critical, value] =>
    if critical.tag ≠ 0x01 then none
    return ⟨critical.content ≠ [0], .decode (← oid.oid?) (← value.octets?)⟩
  | _ => none

/-- The other names that the extensions list, if they do. -/
def altNames? (es : List Extension) : Option (List AltName) :=
  es.findSome? fun e =>
    match e.value with
    | .altNames names => some names
    | _ => none

def subjectKeyId? (es : List Extension) : Option Bytes :=
  es.findSome? fun e =>
    match e.value with
    | .subjectKeyId id => some id
    | _ => none

def authorityKeyId? (es : List Extension) : Option Bytes :=
  es.findSome? fun e =>
    match e.value with
    | .authorityKeyId id => id
    | _ => none

end Extension

end ServiceTrust.X509
