import ServiceTrust.Asn1.Der
import ServiceTrust.Crypto.Curve
import ServiceTrust.Crypto.Hmac
import ServiceTrust.Crypto.Keys

/-!
Signatures on digests: PKCS #1 version 1.5 with RSA keys, ECDSA with keys on curves.
-/
namespace ServiceTrust.Crypto

open Asn1

/-- What an RSA signature encloses: zeros of another kind, the hash function and the digest, filled
up to `size` octets. -/
def Rsa.padded (h : Hash) (size : Nat) (message : Bytes) : Option Bytes :=
  (hashOid? h).map fun oid =>
    let info := Der.sequence [Der.sequence [Der.oid oid, Der.null], Der.octets (h.digest message)]
    [0, 1] ++ List.replicate (size - info.length - 3) 0xff ++ 0 :: info

/-- The digest as a number of no more bits than the order of the group. -/
def Ecdsa.digestNumber (c : Curve) (h : Hash) (message : Bytes) : Nat :=
  let bits := c.order.log2 + 1
  Words.toNat (h.digest message) >>> (8 * h.digestSize - bits)

/-- The `attempt`-th candidate for the secret number of a signature, fixed by key and message. -/
def Ecdsa.nonce (c : Curve) (secret : Nat) (message : Bytes) (attempt : Nat) : Nat :=
  let part (i : Nat) := hmac .sha512 (Words.ofNat 80 secret) (Words.ofNat 4 (2 * attempt + i) ++
    Crypto.sha512 message)
  Words.toNat (part 0 ++ part 1) % (c.order - 1) + 1

def Ecdsa.signWith (c : Curve) (secret : Nat) (digest : Nat) (nonce : Nat) : Option (Nat × Nat) :=
  match c.affine? (c.multiply nonce c.base) with
  | none => none
  | some (x, _) =>
    let r := x % c.order
    let s := Modular.inverse nonce c.order * (digest + r * secret) % c.order
    if r = 0 || s = 0 then none else some (r, s)

/-- The first candidate that gives a signature; none of eight fails but with a chance that is
nothing. -/
def Ecdsa.sign (c : Curve) (secret : Nat) (h : Hash) (message : Bytes) : Nat × Nat :=
  let digest := digestNumber c h message
  ((List.range 8).findSome? fun i => signWith c secret digest (nonce c secret message i)).getD (0, 0)

def Ecdsa.verify (c : Curve) (x y : Nat) (h : Hash) (message : Bytes) (r s : Nat) : Bool :=
  if r = 0 || s = 0 || c.order ≤ r || c.order ≤ s then false
  else
    let w := Modular.inverse s c.order
    let u := digestNumber c h message * w % c.order
    let v := r * w % c.order
    match c.affine? (c.add (c.multiply u c.base) (c.multiply v ⟨x, y, 1⟩)) with
    | some (x, _) => x % c.order = r
    | none => false

/-- The octets of a signature on a message. -/
def PrivateKey.sign (k : PrivateKey) (h : Hash) (message : Bytes) : Bytes :=
  match k with
  | .rsa k =>
    let size := Words.sizeOf k.modulus
    match Rsa.padded h size message with
    | some block => Words.ofNat size (k.power (Words.toNat block))
    | none => []
  | .ec c secret _ _ =>
    let (r, s) := Ecdsa.sign c secret h message
    Der.sequence [Der.nat r, Der.nat s]

def PublicKey.verify (k : PublicKey) (h : Hash) (message signature : Bytes) : Bool :=
  match k with
  | .rsa modulus exponent =>
    let size := Words.sizeOf modulus
    match Rsa.padded h size message with
    | some block =>
      signature.length = size &&
        Modular.pow (Words.toNat signature) exponent modulus = Words.toNat block
    | none => false
  | .ec c x y =>
    match (Tlv.parse? signature).bind Tlv.items? with
    | some [r, s] =>
      match r.nat?, s.nat? with
      | some r, some s => Ecdsa.verify c x y h message r s
      | _, _ => false
    | _ => false
  | .other _ => false

end ServiceTrust.Crypto
