import ServiceTrust.Crypto.Curve
import ServiceTrust.Crypto.Hmac
import ServiceTrust.Descriptor.KeySpec

/-!
Keys of the two algorithms and how they are made from random octets.
-/
namespace ServiceTrust

/-- The algorithm and the size or curve of a key. -/
inductive KeyKind where
  | rsa (bits : Nat)
  | ec (curve : Crypto.Curve)
  deriving DecidableEq, Repr

def KeyKind.name : KeyKind → String
  | rsa bits => s!"RSA-{bits}"
  | ec curve => s!"ECDSA-{curve.name}"

/-- The curve of a key of a certain size; any other size means the smallest one. -/
def KeySpec.curve (size : Nat) : Crypto.Curve :=
  if size = 384 then .p384 else if size = 521 then .p521 else .p256

/-- The kind of key that a descriptor asks for. -/
def KeySpec.kind (s : KeySpec) : KeyKind :=
  match s.algorithm with
  | .rsa => .rsa s.size
  | .ecdsa => .ec (curve s.size)

namespace Crypto

/-- A public key; one of another algorithm is kept as it was encoded. -/
inductive PublicKey where
  | rsa (modulus exponent : Nat)
  | ec (curve : Curve) (x y : Nat)
  | other (info : Bytes)
  deriving DecidableEq, Repr

structure RsaKey where
  modulus : Nat
  exponent : Nat
  secret : Nat
  p : Nat
  q : Nat
  deriving DecidableEq, Repr

inductive PrivateKey where
  | rsa (key : RsaKey)
  | ec (curve : Curve) (secret x y : Nat)
  deriving DecidableEq, Repr

def PublicKey.kind? : PublicKey → Option KeyKind
  | rsa modulus _ => some (.rsa (modulus.log2 + 1))
  | ec curve _ _ => some (.ec curve)
  | other _ => none

def PrivateKey.kind : PrivateKey → KeyKind
  | rsa key => .rsa (key.modulus.log2 + 1)
  | ec curve _ _ _ => .ec curve

def PrivateKey.public : PrivateKey → PublicKey
  | rsa key => .rsa key.modulus key.exponent
  | ec curve _ x y => .ec curve x y

/-- `n` random octets grown from a seed. -/
def expand (seed : Bytes) (n : Nat) : Bytes :=
  ((List.range (n / 64 + 1)).flatMap fun i => sha512 (seed ++ Words.ofNat 4 i)).take n

namespace RsaKey

def publicExponent : Nat := 65537

/-- The odd primes below a bound that sift candidates before they are tested. -/
def smallPrimes : List Nat :=
  (List.range 4000).filter fun n => 3 ≤ n && (List.range 64).all fun d => d < 2 || n ≤ d || n % d ≠ 0

/-- Probably prime: no small divisor, and powers of a few bases are as they are for a prime. -/
def isProbablePrime (n : Nat) : Bool :=
  [2, 3, 5].all fun b => Modular.pow b (n - 1) n = 1

/-- The least offset from `from_` on, in steps of two, that gives a prime `start + offset` which
leaves the public exponent invertible. `residues` pairs each small prime with `start` modulo it. -/
def searchPrime (start : Nat) (residues : List (Nat × Nat)) : Nat → Nat → Nat
  | 0, offset => start + offset
  | fuel + 1, offset =>
    let n := start + offset
    if residues.all (fun (r, p) => (r + offset) % p ≠ 0) && n % publicExponent ≠ 1 &&
        isProbablePrime n then n
    else searchPrime start residues fuel (offset + 2)

/-- A prime of `bits` bits, the two highest of which are set, from a seed. The search starts where it has
room for all its steps below the next power of two. -/
def primeOf (seed : Bytes) (bits : Nat) : Nat :=
  let steps := 100 * bits
  let random := Words.toNat (expand seed (bits / 8 + 1)) % ((1 <<< (bits - 2)) - 2 * steps)
  let start := (3 <<< (bits - 2)) + (random - random % 2) + 1
  searchPrime start (smallPrimes.map fun p => (start % p, p)) steps 0

def ofPrimes (p q : Nat) : RsaKey :=
  let period := Nat.lcm (p - 1) (q - 1)
  ⟨p * q, publicExponent, Modular.inverse publicExponent period, p, q⟩

/-- A key whose modulus has `bits` bits. -/
def generate (seed : Bytes) (bits : Nat) : RsaKey :=
  let p := primeOf (0 :: seed) (bits - bits / 2)
  let q := primeOf (1 :: seed) (bits / 2)
  if p < q then ofPrimes q p else ofPrimes p q

/-- `n` to the secret exponent, by way of the two primes. -/
def power (k : RsaKey) (n : Nat) : Nat :=
  let m := Modular.pow n (k.secret % (k.p - 1)) k.p
  let r := Modular.pow n (k.secret % (k.q - 1)) k.q
  let h := Modular.inverse k.q k.p * (m + k.p - r % k.p) % k.p
  r + h * k.q

end RsaKey

/-- A key on a curve. -/
def PrivateKey.ofSecret (c : Curve) (secret : Nat) : PrivateKey :=
  match c.affine? (c.multiply secret c.base) with
  | some (x, y) => .ec c secret x y
  | none => .ec c secret 0 0

/-- A new key of a kind, from a seed. -/
def PrivateKey.generate (kind : KeyKind) (seed : Bytes) : PrivateKey :=
  match kind with
  | .rsa bits => .rsa (.generate seed bits)
  | .ec c => .ofSecret c (Words.toNat (expand seed (c.width + 8)) % (c.order - 1) + 1)

end Crypto

end ServiceTrust
