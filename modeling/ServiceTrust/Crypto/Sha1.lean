import ServiceTrust.Crypto.Words

/-!
SHA-1, which identifies a public key in the extensions of a certificate.
-/
namespace ServiceTrust.Crypto

namespace Sha1

def initial : Array UInt32 := #[0x67452301, 0xefcdab89, 0x98badcfe, 0x10325476, 0xc3d2e1f0]

@[inline] def rotate (x n : UInt32) : UInt32 := (x <<< n) ||| (x >>> (32 - n))

def schedule (block : Array UInt32) : Array UInt32 :=
  (List.range 64).foldl (fun w t =>
    w.push (rotate (w[t + 13]! ^^^ w[t + 8]! ^^^ w[t + 2]! ^^^ w[t]!) 1)) block

/-- The function and the constant of the round `t`. -/
def mix (t : Nat) (b c d : UInt32) : UInt32 × UInt32 :=
  if t < 20 then ((b &&& c) ||| (~~~b &&& d), 0x5a827999)
  else if t < 40 then (b ^^^ c ^^^ d, 0x6ed9eba1)
  else if t < 60 then ((b &&& c) ||| (b &&& d) ||| (c &&& d), 0x8f1bbcdc)
  else (b ^^^ c ^^^ d, 0xca62c1d6)

def rounds (w : Array UInt32) : Nat → UInt32 → UInt32 → UInt32 → UInt32 → UInt32 → Array UInt32
  | 0, a, b, c, d, e => #[a, b, c, d, e]
  | n + 1, a, b, c, d, e =>
    let (f, k) := mix (79 - n) b c d
    rounds w n (rotate a 5 + f + e + k + w[79 - n]!) a (rotate b 30) c d

def compress (s block : Array UInt32) : Array UInt32 :=
  (rounds (schedule block) 80 s[0]! s[1]! s[2]! s[3]! s[4]!).zipWith (· + ·) s

end Sha1

def sha1 (message : Bytes) : Bytes :=
  let words := Words.ofBytes32 (Words.pad 64 8 0 message)
  Words.toBytes32 ((List.range (words.size / 16)).foldl
    (fun s i => Sha1.compress s (words.extract (16 * i) (16 * i + 16))) Sha1.initial)

end ServiceTrust.Crypto
