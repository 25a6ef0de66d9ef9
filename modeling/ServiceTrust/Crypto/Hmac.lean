import ServiceTrust.Crypto.Sha1
import ServiceTrust.Crypto.Sha2

/-!
Keyed hashes, and keys from passwords.
-/
namespace ServiceTrust.Crypto

/-- A hash function with the sizes of its blocks and digests in octets. -/
structure Hash where
  name : String
  blockSize : Nat
  digestSize : Nat
  digest : Bytes → Bytes

namespace Hash

def sha1 : Hash := ⟨"sha1", 64, 20, Crypto.sha1⟩
def sha256 : Hash := ⟨"sha256", 64, 32, Crypto.sha256⟩
def sha384 : Hash := ⟨"sha384", 128, 48, Crypto.sha384⟩
def sha512 : Hash := ⟨"sha512", 128, 64, Crypto.sha512⟩

end Hash

/-- The key as one block: hashed if it is longer, and filled with zeros. -/
def hmacBlock (h : Hash) (key : Bytes) : Bytes :=
  let k := if h.blockSize < key.length then h.digest key else key
  k ++ List.replicate (h.blockSize - k.length) 0

def hmac (h : Hash) (key message : Bytes) : Bytes :=
  let block := hmacBlock h key
  h.digest (block.map (· ^^^ 0x5c) ++ h.digest (block.map (· ^^^ 0x36) ++ message))

namespace Pbkdf2

/-- One block of words after a full block: eight words of a digest and their padding. -/
def digestBlock (digest : Array UInt32) : Array UInt32 :=
  digest ++ #[0x80000000, 0, 0, 0, 0, 0, 0, 768]

/-- `n` more rounds: each hashes the digest before it under the key, whose two halves are given as
states, and adds the result to `sum`. -/
def rounds (inner outer : Array UInt32) : Nat → Array UInt32 → Array UInt32 → Array UInt32
  | 0, _, sum => sum
  | n + 1, u, sum =>
    let u := Sha256.compress outer (digestBlock (Sha256.compress inner (digestBlock u)))
    rounds inner outer n u (sum.zipWith (· ^^^ ·) u)

end Pbkdf2

/-- A key of at most 32 octets from a password, by HMAC of SHA-256. -/
def pbkdf2 (password salt : Bytes) (iterations size : Nat) : Bytes :=
  let block := hmacBlock .sha256 password
  let start (mask : UInt8) :=
    Sha256.compress Sha256.initial (Words.ofBytes32 (block.map (· ^^^ mask)))
  let first := Words.ofBytes32 (hmac .sha256 password (salt ++ [0, 0, 0, 1]))
  (Words.toBytes32 (Pbkdf2.rounds (start 0x36) (start 0x5c) (iterations - 1) first first)).take size

end ServiceTrust.Crypto
