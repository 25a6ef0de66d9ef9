import ServiceTrust.Asn1.Pem
import ServiceTrust.Crypto.Fault
import ServiceTrust.Crypto.Signature
import ServiceTrust.X509.Certificate

/-!
Certificates, requests and public keys in their encodings.
-/
namespace ServiceTrust

open Asn1 Crypto

namespace X509

namespace Oid

def rsaEncryption : Oid := [1, 2, 840, 113549, 1, 1, 1]
def rsaPss : Oid := [1, 2, 840, 113549, 1, 1, 10]
def ecPublicKey : Oid := [1, 2, 840, 10045, 2, 1]

end Oid

/-- Signature algorithms: the identifier, whether the key is an RSA one, and the hash function. -/
def signatureAlgorithms : List (Oid × Bool × Hash) :=
  [([1, 2, 840, 113549, 1, 1, 5], true, .sha1), ([1, 2, 840, 113549, 1, 1, 11], true, .sha256),
    ([1, 2, 840, 113549, 1, 1, 12], true, .sha384), ([1, 2, 840, 113549, 1, 1, 13], true, .sha512),
    ([1, 2, 840, 10045, 4, 1], false, .sha1), ([1, 2, 840, 10045, 4, 3, 2], false, .sha256),
    ([1, 2, 840, 10045, 4, 3, 3], false, .sha384), ([1, 2, 840, 10045, 4, 3, 4], false, .sha512)]

/-- The algorithm of a signature with SHA-256. -/
def signatureAlgorithm (isRsa : Bool) : Bytes :=
  if isRsa then Der.sequence [Der.oid [1, 2, 840, 113549, 1, 1, 11], Der.null]
  else Der.sequence [Der.oid [1, 2, 840, 10045, 4, 3, 2]]

/-- Whether the key is an RSA one and which hash function is used, for a known algorithm. -/
def signatureAlgorithm? (encoded : Bytes) : Option (Bool × Hash) := do
  let items ← (← Tlv.parse? encoded).sequence?
  let oid ← (← items.head?).oid?
  signatureAlgorithms.lookup oid

/-! ## Public keys -/

def encodePoint (c : Curve) (x y : Nat) : Bytes :=
  0x04 :: Words.ofNat c.width x ++ Words.ofNat c.width y

/-- The coordinates of an uncompressed point on the curve. -/
def decodePoint? (c : Curve) (bs : Bytes) : Option (Nat × Nat) :=
  match bs with
  | 0x04 :: rest =>
    let x := Words.toNat (rest.take c.width)
    let y := Words.toNat (rest.drop c.width)
    if rest.length = 2 * c.width && c.contains x y then some (x, y) else none
  | _ => none

/-- The content of the bit string of a public key. -/
def keyBits : PublicKey → Bytes
  | .rsa modulus exponent => Der.sequence [Der.nat modulus, Der.nat exponent]
  | .ec c x y => encodePoint c x y
  | .other info =>
    match (Tlv.parse? info).bind Tlv.sequence? with
    | some [_, bits] => bits.bits?.getD []
    | _ => []

def encodePublicKey : PublicKey → Bytes
  | .rsa modulus exponent =>
    Der.sequence [Der.sequence [Der.oid Oid.rsaEncryption, Der.null],
      Der.bits 0 (keyBits (.rsa modulus exponent))]
  | .ec c x y =>
    Der.sequence [Der.sequence [Der.oid Oid.ecPublicKey, Der.oid c.oid],
      Der.bits 0 (keyBits (.ec c x y))]
  | .other info => info

def decodePublicKey? (v : Tlv) : Option PublicKey := do
  match ← v.sequence? with
  | [algorithm, bits] =>
    let items ← algorithm.sequence?
    let oid ← (← items.head?).oid?
    let content ← bits.bits?
    if oid = Oid.rsaEncryption then
      match ← (← Tlv.parse? content).sequence? with
      | [n, e] => return .rsa (← n.nat?) (← e.nat?)
      | _ => none
    else if oid = Oid.ecPublicKey then
      let curve := (items[1]?.bind Tlv.oid?).bind Curve.ofOid?
      match curve with
      | some c =>
        let (x, y) ← decodePoint? c content
        return .ec c x y
      | none => return .other v.whole
    else return .other v.whole
  | _ => none

/-- The identifier of a key in the extensions of a certificate. -/
def keyId (k : PublicKey) : Bytes := sha1 (keyBits k)

def publicKeyLabel : String := "PUBLIC KEY"

def publicKeyPem (k : PublicKey) : Bytes := Pem.encode publicKeyLabel (encodePublicKey k)

def readPublicKey? (bs : Bytes) : Option PublicKey := do
  let s ← Pem.find? [publicKeyLabel] bs
  decodePublicKey? (← Tlv.parse? s.bytes)

/-! ## Names and extensions -/

def Attribute.encode (a : Attribute) : Bytes :=
  Der.sequence [Der.oid a.oid, Der.tagged (UInt8.ofNat a.form) a.value]

def Name.encode (n : Name) : Bytes :=
  Der.sequence (n.levels.map fun as => Der.set (as.map Attribute.encode))

def Attribute.decode? (v : Tlv) : Option Attribute := do
  match ← v.sequence? with
  | [oid, value] => return ⟨← oid.oid?, value.tag.toNat, value.content⟩
  | _ => none

def Name.decode? (v : Tlv) : Option Name := do
  let levels ← (← v.sequence?).mapM fun level => do (← level.set?).mapM Attribute.decode?
  return ⟨levels⟩

/-- Characters that a printable text may have. -/
def isPrintableOctet (b : UInt8) : Bool :=
  let c := Char.ofNat b.toNat
  c.isAlphanum || " '()+,-./:=?".toList.contains c

/-- Every attribute is written in the characters of its form. -/
def Name.isEncodable (n : Name) : Bool :=
  n.levels.all fun as => as.all fun a => a.form ≠ TextForm.printable || a.value.all isPrintableOctet

/-! ## Certificates -/

def PrivateKey.isRsa : PrivateKey → Bool
  | .rsa _ => true
  | .ec _ _ _ _ => false

def PublicKey.isRsa : PublicKey → Bool
  | .rsa _ _ => true
  | _ => false

/-- The signed part, signed with SHA-256, and the whole. -/
def sealWith (key : Crypto.PrivateKey) (signed : Bytes) : Seal × Bytes :=
  let algorithm := signatureAlgorithm (PrivateKey.isRsa key)
  let signature := key.sign .sha256 signed
  (⟨signed, algorithm, algorithm, signature⟩,
    Der.sequence [signed, algorithm, Der.bits 0 signature])

def encodeBody (b : Body) (algorithm : Bytes) : Bytes :=
  let extensions :=
    if b.extensions.isEmpty then []
    else [Der.context 3 true (Der.sequence (b.extensions.map Extension.encode))]
  Der.sequence ([Der.context 0 true (Der.nat 2), Der.nat b.serial, algorithm, b.issuer.encode,
    Der.sequence [b.notBefore.encode, b.notAfter.encode], b.subject.encode,
    encodePublicKey b.publicKey] ++ extensions)

/-- The certificate that says `b` under the signature of `key`. -/
def certify (key : Crypto.PrivateKey) (b : Body) : Except Crypto.Fault Certificate :=
  if b.subject.isEncodable && b.issuer.isEncodable then
    let (sealed, whole) :=
      sealWith key (encodeBody b (signatureAlgorithm (PrivateKey.isRsa key)))
    .ok ⟨b, sealed, whole⟩
  else .error .notPrintable

def decodeExtensions? (v : Tlv) : Option (List Extension) := do
  (← v.sequence?).mapM Extension.decode?

def decodeBody? (signed : Tlv) : Option (Body × Bytes) := do
  let items ← signed.sequence?
  let items ←
    match items with
    | version :: rest =>
      match version.inside? 0 with
      | some v => if (← v.nat?) ≤ 2 then some rest else none
      | none => some items
    | [] => none
  match items with
  | serial :: algorithm :: issuer :: validity :: subject :: key :: rest =>
    match ← validity.sequence? with
    | [start, stop] =>
      let extensions ←
        match rest.findSome? (·.inside? 3) with
        | some v => decodeExtensions? v
        | none => some []
      if serial.tag ≠ 0x02 then none
      return (⟨Words.toNat serial.content, ← Name.decode? issuer, ← Name.decode? subject,
        ← Instant.decode? start, ← Instant.decode? stop, ← decodePublicKey? key, extensions⟩,
        algorithm.whole)
    | _ => none
  | _ => none

def decodeCertificate? (bs : Bytes) : Option Certificate := do
  match ← (← Tlv.parse? bs).sequence? with
  | [signed, algorithm, signature] =>
    let (body, inner) ← decodeBody? signed
    return ⟨body, ⟨signed.whole, inner, algorithm.whole, ← signature.bits?⟩, bs⟩
  | _ => none

def certificateLabel : String := "CERTIFICATE"

def certificatePem (c : Certificate) : Bytes := Pem.encode certificateLabel c.whole

def readCertificate (bs : Bytes) : Except Crypto.Fault Certificate :=
  match (Pem.find? [certificateLabel, "X509 CERTIFICATE"] bs).bind (decodeCertificate? ·.bytes) with
  | some c => .ok c
  | none => .error .unreadableCertificate

/-- The SHA-256 fingerprint in hexadecimal digits. -/
def thumbprint (c : Certificate) : String :=
  .ofList ((sha256 c.whole).flatMap fun b => Text.hexPadded 2 b.toNat)

/-- The hash function that a certificate was signed with. -/
def signatureHash? (c : Certificate) : Option Hash := (signatureAlgorithm? c.sealed.outer).map (·.2)

def Seal.verify (s : Seal) (key : Crypto.PublicKey) : Except IssuerFault Unit :=
  match signatureAlgorithm? s.outer with
  | none => .error .badSignature
  | some (isRsa, hash) =>
    let fits := match key with
      | .rsa _ _ => isRsa
      | .ec _ _ _ => !isRsa
      | .other _ => false
    if !fits then .error .otherKeyType
    else if key.verify hash s.signed s.signature then .ok ()
    else .error .badSignature

/-- Checks that `issuer` is named as the issuer of `c` and that its key signed `c`. -/
def checkIssuer (c issuer : Certificate) : Except IssuerFault Unit :=
  if c.sealed.inner ≠ c.sealed.outer then .error .algorithmsDiffer
  else if c.body.issuer ≠ issuer.body.subject then .error .otherIssuer
  else c.sealed.verify issuer.body.publicKey

/-! ## Requests -/

/-- The attributes of a request: none, or the extension that lists the other names. -/
def encodeAttributes (altNames : Option (List AltName)) : Bytes :=
  match altNames with
  | none => Der.context 0 true []
  | some names =>
    Der.context 0 true (Der.sequence [Der.oid Oid.extensionRequest,
      Der.set [Der.sequence [Extension.encode ⟨false, .altNames names⟩]]])

/-- The request for a name and other names, signed by the key that it is about. -/
def request (key : Crypto.PrivateKey) (subject : Name) (altNames : Option (List AltName)) :
    Except Crypto.Fault Request :=
  if subject.isEncodable then
    let altNames := altNames.map fun names => names.map AltName.withoutScope
    let signed := Der.sequence [Der.nat 0, subject.encode, encodePublicKey key.public,
      encodeAttributes altNames]
    let (sealed, whole) := sealWith key signed
    .ok ⟨subject, key.public, altNames, sealed, whole⟩
  else .error .notPrintable

def requestLabel : String := "CERTIFICATE REQUEST"

def requestPem (r : Request) : Bytes := Pem.encode requestLabel r.whole

/-- The other names among the attributes of a request. -/
def decodeAttributes? (v : Tlv) : Option (Option (List AltName)) := do
  let attributes ← v.items?
  let requested ← attributes.mapM fun a => do
    match ← a.sequence? with
    | [oid, values] =>
      if (← oid.oid?) = Oid.extensionRequest then
        match ← values.set? with
        | [extensions] => decodeExtensions? extensions
        | _ => none
      else some []
    | _ => none
  return Extension.altNames? requested.flatten

def decodeRequest? (bs : Bytes) : Option Request := do
  match ← (← Tlv.parse? bs).sequence? with
  | [signed, algorithm, signature] =>
    match ← signed.sequence? with
    | [_, subject, key, attributes] =>
      return ⟨← Name.decode? subject, ← decodePublicKey? key, ← decodeAttributes? attributes,
        ⟨signed.whole, algorithm.whole, algorithm.whole, ← signature.bits?⟩, bs⟩
    | _ => none
  | _ => none

def readRequest? (bs : Bytes) : Option Request := do
  let s ← Pem.find? [requestLabel, "NEW CERTIFICATE REQUEST"] bs
  decodeRequest? s.bytes

/-- The request is signed by the key that it names. -/
def Request.isSigned (r : Request) : Bool := (r.sealed.verify r.publicKey).isOk

end X509

end ServiceTrust
