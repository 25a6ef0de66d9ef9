import ServiceTrust.Crypto.Hmac

/-!
The key that protects a whole PKCS #12 store: hashed blocks of password and salt, added up.
-/
namespace ServiceTrust.Crypto.StoreKey

/-- UTF-16 units, most significant octet first. -/
def units16 (s : String) : Bytes :=
  s.toList.flatMap fun c =>
    let n := c.toNat
    if n < 0x10000 then Words.ofNat 2 n
    else Words.ofNat 2 (0xd800 + (n - 0x10000) / 0x400) ++ Words.ofNat 2 (0xdc00 + (n - 0x10000) % 0x400)

/-- `bs` repeated up to a whole number of blocks. -/
def fill (block : Nat) (bs : Bytes) : Bytes :=
  let size := (bs.length + block - 1) / block * block
  ((List.replicate (size / max 1 bs.length + 1) bs).flatten).take size

/-- The first digest of key material for the purpose `id`. -/
def derive (h : Hash) (id : UInt8) (password : String) (salt : Bytes) (iterations : Nat) : Bytes :=
  let secret := units16 password ++ [0, 0]
  let start := List.replicate h.blockSize id ++ fill h.blockSize salt ++ fill h.blockSize secret
  (List.range iterations).foldl (fun d _ => h.digest d) start

/-- The purpose of a key that authenticates. -/
def macPurpose : UInt8 := 3

end ServiceTrust.Crypto.StoreKey
