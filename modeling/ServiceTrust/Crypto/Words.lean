import ServiceTrust.Text.Utf8

/-!
Octets as words and numbers, most significant first, and the padding of a hashed message.
-/
namespace ServiceTrust.Crypto

namespace Words

/-- The number that octets write. -/
def toNat (bs : Bytes) : Nat := bs.foldl (fun n b => n * 256 + b.toNat) 0

/-- The last `size` octets of a number. -/
def ofNat (size n : Nat) : Bytes :=
  (List.range size).map fun i => UInt8.ofNat (n >>> (8 * (size - 1 - i)))

/-- The least number of octets that hold `n`; one for zero. -/
def sizeOf (n : Nat) : Nat := n.log2 / 8 + 1

def ofBytes32 : Bytes → Array UInt32 :=
  let rec go (acc : Array UInt32) : Bytes → Array UInt32
    | a :: b :: c :: d :: rest =>
      go (acc.push ((a.toUInt32 <<< 24) ||| (b.toUInt32 <<< 16) ||| (c.toUInt32 <<< 8) |||
        d.toUInt32)) rest
    | _ => acc
  go #[]

def toBytes32 (words : Array UInt32) : Bytes :=
  words.toList.flatMap fun (w : UInt32) =>
    [(w >>> 24).toUInt8, (w >>> 16).toUInt8, (w >>> 8).toUInt8, w.toUInt8]

def ofBytes64 (bs : Bytes) : Array UInt64 :=
  let halves := ofBytes32 bs
  (Array.range (halves.size / 2)).map fun i =>
    (halves[2 * i]!.toUInt64 <<< 32) ||| halves[2 * i + 1]!.toUInt64

def toBytes64 (words : Array UInt64) : Bytes :=
  words.toList.flatMap fun (w : UInt64) => ofNat 8 w.toNat

/-- `message`, a one bit, zeros, and the length in bits of the whole, of which `before` octets came
earlier, so that the last block is full. -/
def pad (blockSize lengthSize before : Nat) (message : Bytes) : Bytes :=
  let length := message.length
  let zeros := (blockSize - (length + 1 + lengthSize) % blockSize) % blockSize
  message ++ 0x80 :: List.replicate zeros 0 ++ ofNat lengthSize (8 * (before + length))

end Words

end ServiceTrust.Crypto
