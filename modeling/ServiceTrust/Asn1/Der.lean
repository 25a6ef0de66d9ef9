import ServiceTrust.Crypto.Hmac

/-!
The distinguished encoding rules: values as a tag, a length and a content.
-/
namespace ServiceTrust.Asn1

open Crypto (Words.ofNat Words.toNat Words.sizeOf)

namespace Der

def lengthBytes (n : Nat) : Bytes :=
  if n < 128 then [UInt8.ofNat n]
  else
    let size := Words.sizeOf n
    UInt8.ofNat (128 + size) :: Words.ofNat size n

def tagged (tag : UInt8) (content : Bytes) : Bytes :=
  tag :: lengthBytes content.length ++ content

def sequence (items : List Bytes) : Bytes := tagged 0x30 items.flatten

/-- Octets compared as the elements of a set are ordered. -/
def bytesLe : Bytes → Bytes → Bool
  | [], _ => true
  | _ :: _, [] => false
  | a :: as, b :: bs => if a = b then bytesLe as bs else a < b

def set (items : List Bytes) : Bytes := tagged 0x31 (items.mergeSort bytesLe).flatten

/-- A number that is not negative: its highest bit is zero. -/
def nat (n : Nat) : Bytes := tagged 0x02 (Words.ofNat ((n.log2 + 1) / 8 + 1) n)

def bool (b : Bool) : Bytes := tagged 0x01 [if b then 0xff else 0]

def null : Bytes := [0x05, 0x00]

def octets (bs : Bytes) : Bytes := tagged 0x04 bs

/-- A bit string of which the last `unused` bits are not used. -/
def bits (unused : Nat) (bs : Bytes) : Bytes := tagged 0x03 (UInt8.ofNat unused :: bs)

/-- A number in groups of seven bits, all but the last marked. -/
def groups (n : Nat) : Bytes :=
  let count := n.log2 / 7 + 1
  (List.range count).map fun i =>
    let group := (n >>> (7 * (count - 1 - i))) % 128
    UInt8.ofNat (if i = count - 1 then group else 128 + group)

def oid : List Nat → Bytes
  | a :: b :: rest => tagged 0x06 (groups (40 * a + b) ++ rest.flatMap groups)
  | _ => tagged 0x06 []

/-- A value under the context tag `n`, which replaces or encloses its own. -/
def context (n : Nat) (constructed : Bool) (content : Bytes) : Bytes :=
  tagged (UInt8.ofNat ((if constructed then 0xa0 else 0x80) + n)) content

end Der

/-- An encoded value: its tag, its content, and all its octets. -/
structure Tlv where
  tag : UInt8
  content : Bytes
  whole : Bytes
  deriving DecidableEq, Repr

namespace Tlv

/-- The length that an encoding starts with, the octets that it takes, and the rest. Lengths are
written in the shortest way. -/
def length? : Bytes → Option (Nat × Nat × Bytes)
  | [] => none
  | b :: rest =>
    if b < 128 then some (b.toNat, 1, rest)
    else
      let size := b.toNat - 128
      let bytes := rest.take size
      let n := Words.toNat bytes
      if size = 0 || 4 < size || bytes.length < size then none
      else if n < 128 || bytes.head? = some 0 then none
      else some (n, size + 1, rest.drop size)

/-- The first value and the octets after it. -/
def first? : Bytes → Option (Tlv × Bytes)
  | [] => none
  | tag :: rest => do
    if tag &&& 0x1f = 0x1f then none
    let (n, size, body) ← length? rest
    let content := body.take n
    if content.length < n then none
    return (⟨tag, content, (tag :: rest).take (1 + size + n)⟩, body.drop n)

/-- The values that the octets hold one after another. -/
def all? (fuel : Nat) (bs : Bytes) : Option (List Tlv) :=
  match fuel, bs with
  | _, [] => some []
  | 0, _ => none
  | fuel + 1, bs => do
    let (v, rest) ← first? bs
    let vs ← all? fuel rest
    return v :: vs

/-- The only value that the octets hold. -/
def parse? (bs : Bytes) : Option Tlv :=
  match first? bs with
  | some (v, []) => some v
  | _ => none

/-- The values inside of a constructed one. -/
def items? (v : Tlv) : Option (List Tlv) :=
  if v.tag &&& 0x20 = 0x20 then all? v.content.length v.content else none

def sequence? (v : Tlv) : Option (List Tlv) := if v.tag = 0x30 then v.items? else none

def set? (v : Tlv) : Option (List Tlv) := if v.tag = 0x31 then v.items? else none

/-- The value inside of the context tag `n`. -/
def inside? (v : Tlv) (n : Nat) : Option Tlv :=
  if v.tag = UInt8.ofNat (0xa0 + n) then parse? v.content else none

def nat? (v : Tlv) : Option Nat :=
  match v.tag, v.content with
  | 0x02, b :: bs => if b < 128 then some (Words.toNat (b :: bs)) else none
  | _, _ => none

def octets? (v : Tlv) : Option Bytes := if v.tag = 0x04 then some v.content else none

/-- A bit string of whole octets. -/
def bits? (v : Tlv) : Option Bytes :=
  match v.tag, v.content with
  | 0x03, 0 :: bs => some bs
  | _, _ => none

/-- Numbers written in groups of seven bits; `n` holds the groups of the current one. -/
def numbers? (n : Nat) : Bytes → Option (List Nat)
  | [] => if n = 0 then some [] else none
  | b :: bs =>
    let m := n * 128 + b.toNat % 128
    if b < 128 then (numbers? 0 bs).map (m :: ·) else numbers? m bs

def oid? (v : Tlv) : Option (List Nat) :=
  if v.tag ≠ 0x06 then none
  else
    match numbers? 0 v.content with
    | some (n :: rest) =>
      if n < 80 then some (n / 40 :: n % 40 :: rest) else some (2 :: (n - 80) :: rest)
    | _ => none

end Tlv

/-- The object identifier of a hash function. -/
def hashOid? (h : Crypto.Hash) : Option (List Nat) :=
  [("sha1", [1, 3, 14, 3, 2, 26]), ("sha256", [2, 16, 840, 1, 101, 3, 4, 2, 1]),
    ("sha384", [2, 16, 840, 1, 101, 3, 4, 2, 2]),
    ("sha512", [2, 16, 840, 1, 101, 3, 4, 2, 3])].lookup h.name

end ServiceTrust.Asn1
