import ServiceTrust.Crypto.Fault
import ServiceTrust.X509.Encoding

/-!
Private keys in files: written without encryption in one form, read in the three usual ones.
-/
namespace ServiceTrust.X509

open Asn1 Crypto

/-- A key that was read: one of the two algorithms, or the name of another type. -/
inductive ReadKey where
  | known (key : Crypto.PrivateKey)
  | foreign (type : String)
  deriving DecidableEq, Repr

/-- The name of the kind of a key, for any type of key. -/
def ReadKey.algorithmName : ReadKey → String
  | known key => key.kind.name
  | foreign _ => "UNKNOWN"

namespace KeyFile

def encodeRsa (k : RsaKey) : Bytes :=
  Der.sequence [Der.nat 0, Der.nat k.modulus, Der.nat k.exponent, Der.nat k.secret, Der.nat k.p,
    Der.nat k.q, Der.nat (k.secret % (k.p - 1)), Der.nat (k.secret % (k.q - 1)),
    Der.nat (Modular.inverse k.q k.p)]

def encodeEc (c : Curve) (secret x y : Nat) : Bytes :=
  Der.sequence [Der.nat 1, Der.octets (Words.ofNat c.width secret),
    Der.context 1 true (Der.bits 0 (encodePoint c x y))]

/-- A key with the name of its algorithm around it. -/
def encode : Crypto.PrivateKey → Bytes
  | .rsa k =>
    Der.sequence [Der.nat 0, Der.sequence [Der.oid Oid.rsaEncryption, Der.null],
      Der.octets (encodeRsa k)]
  | .ec c secret x y =>
    Der.sequence [Der.nat 0, Der.sequence [Der.oid Oid.ecPublicKey, Der.oid c.oid],
      Der.octets (encodeEc c secret x y)]

def pem (k : Crypto.PrivateKey) : Bytes := Pem.encode "PRIVATE KEY" (encode k)

/-- The numbers of the key belong together. -/
def isSound (k : RsaKey) : Bool :=
  2 < k.p && 2 < k.q && k.p * k.q = k.modulus && k.exponent % 2 = 1 &&
    k.exponent * k.secret % (k.p - 1) = 1 && k.exponent * k.secret % (k.q - 1) = 1

def decodeRsa? (bs : Bytes) : Option RsaKey := do
  match ← (← Tlv.parse? bs).sequence? with
  | [_, n, e, d, p, q, _, _, _] =>
    let k : RsaKey := ⟨← n.nat?, ← e.nat?, ← d.nat?, ← p.nat?, ← q.nat?⟩
    if isSound k then some k else none
  | _ => none

/-- A key on `curve`, or on the curve that it names itself. A public point beside it must be its
own. -/
def decodeEc? (curve : Option Curve) (bs : Bytes) : Option Crypto.PrivateKey := do
  match ← (← Tlv.parse? bs).sequence? with
  | version :: secret :: rest =>
    let named := (rest.findSome? (·.inside? 0)).bind fun v => v.oid?.bind Curve.ofOid?
    let c ← curve <|> named
    if (← version.nat?) ≠ 1 then none
    let n := Words.toNat (← secret.octets?)
    if n = 0 || c.order ≤ n then none
    match PrivateKey.ofSecret c n, (rest.findSome? (·.inside? 1)).bind Tlv.bits? with
    | .ec c n x y, some point =>
      if decodePoint? c point = some (x, y) then some (.ec c n x y) else none
    | key, none => some key
    | _, _ => none
  | _ => none

/-- Algorithms of keys that are read but not used, with the names of their types. -/
def foreignTypes : List (Oid × String) :=
  [([1, 3, 101, 112], "Ed25519PrivateKey"), ([1, 3, 101, 113], "Ed448PrivateKey"),
    ([1, 3, 101, 110], "X25519PrivateKey"), ([1, 3, 101, 111], "X448PrivateKey"),
    ([1, 2, 840, 10040, 4, 1], "DSAPrivateKey"), ([1, 2, 840, 113549, 1, 3, 1], "DHPrivateKey"),
    ([1, 2, 840, 10046, 2, 1], "DHPrivateKey")]

/-- A key with the name of its algorithm around it. -/
def decode? (bs : Bytes) : Option ReadKey := do
  match ← (← Tlv.parse? bs).sequence? with
  | version :: algorithm :: content :: _ =>
    if 1 < (← version.nat?) then none
    let items ← algorithm.sequence?
    let oid ← (← items.head?).oid?
    let inner ← content.octets?
    if oid = Oid.rsaEncryption || oid = Oid.rsaPss then
      return .known (.rsa (← decodeRsa? inner))
    else if oid = Oid.ecPublicKey then
      let c ← (items[1]?.bind Tlv.oid?).bind Curve.ofOid?
      return .known (← decodeEc? (some c) inner)
    else
      let type ← foreignTypes.lookup oid
      return .foreign type
  | _ => none

def labels : List String :=
  ["PRIVATE KEY", "ENCRYPTED PRIVATE KEY", "RSA PRIVATE KEY", "EC PRIVATE KEY", "DSA PRIVATE KEY"]

/-- The key of the first section that holds one; encrypted keys are not read. -/
def readAny? (bs : Bytes) : Option ReadKey := do
  let s ← Pem.find? labels bs
  if s.encrypted then none
  match s.label with
  | "PRIVATE KEY" => decode? s.bytes
  | "RSA PRIVATE KEY" => return .known (.rsa (← decodeRsa? s.bytes))
  | "EC PRIVATE KEY" => return .known (← decodeEc? none s.bytes)
  | "DSA PRIVATE KEY" =>
    let _ ← (← Tlv.parse? s.bytes).sequence?
    return .foreign "DSAPrivateKey"
  | _ => none

/-- The RSA or curve key in a file. -/
def read (bs : Bytes) : Except Crypto.Fault Crypto.PrivateKey :=
  match readAny? bs with
  | some (.known key) => .ok key
  | some (.foreign type) => .error (.unsupportedKey type)
  | none => .error .unreadableKey

end KeyFile

end ServiceTrust.X509
