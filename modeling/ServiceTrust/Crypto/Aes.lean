import ServiceTrust.Text.Utf8

/-!
AES with keys of 32 octets, in cipher block chaining with padding to whole blocks.
-/
namespace ServiceTrust.Crypto.Aes

/-- The substitution of octets. -/
def box : Array UInt8 := #[
  0x63, 0x7c, 0x77, 0x7b, 0xf2, 0x6b, 0x6f, 0xc5, 0x30, 0x01, 0x67, 0x2b, 0xfe, 0xd7, 0xab, 0x76,
  0xca, 0x82, 0xc9, 0x7d, 0xfa, 0x59, 0x47, 0xf0, 0xad, 0xd4, 0xa2, 0xaf, 0x9c, 0xa4, 0x72, 0xc0,
  0xb7, 0xfd, 0x93, 0x26, 0x36, 0x3f, 0xf7, 0xcc, 0x34, 0xa5, 0xe5, 0xf1, 0x71, 0xd8, 0x31, 0x15,
  0x04, 0xc7, 0x23, 0xc3, 0x18, 0x96, 0x05, 0x9a, 0x07, 0x12, 0x80, 0xe2, 0xeb, 0x27, 0xb2, 0x75,
  0x09, 0x83, 0x2c, 0x1a, 0x1b, 0x6e, 0x5a, 0xa0, 0x52, 0x3b, 0xd6, 0xb3, 0x29, 0xe3, 0x2f, 0x84,
  0x53, 0xd1, 0x00, 0xed, 0x20, 0xfc, 0xb1, 0x5b, 0x6a, 0xcb, 0xbe, 0x39, 0x4a, 0x4c, 0x58, 0xcf,
  0xd0, 0xef, 0xaa, 0xfb, 0x43, 0x4d, 0x33, 0x85, 0x45, 0xf9, 0x02, 0x7f, 0x50, 0x3c, 0x9f, 0xa8,
  0x51, 0xa3, 0x40, 0x8f, 0x92, 0x9d, 0x38, 0xf5, 0xbc, 0xb6, 0xda, 0x21, 0x10, 0xff, 0xf3, 0xd2,
  0xcd, 0x0c, 0x13, 0xec, 0x5f, 0x97, 0x44, 0x17, 0xc4, 0xa7, 0x7e, 0x3d, 0x64, 0x5d, 0x19, 0x73,
  0x60, 0x81, 0x4f, 0xdc, 0x22, 0x2a, 0x90, 0x88, 0x46, 0xee, 0xb8, 0x14, 0xde, 0x5e, 0x0b, 0xdb,
  0xe0, 0x32, 0x3a, 0x0a, 0x49, 0x06, 0x24, 0x5c, 0xc2, 0xd3, 0xac, 0x62, 0x91, 0x95, 0xe4, 0x79,
  0xe7, 0xc8, 0x37, 0x6d, 0x8d, 0xd5, 0x4e, 0xa9, 0x6c, 0x56, 0xf4, 0xea, 0x65, 0x7a, 0xae, 0x08,
  0xba, 0x78, 0x25, 0x2e, 0x1c, 0xa6, 0xb4, 0xc6, 0xe8, 0xdd, 0x74, 0x1f, 0x4b, 0xbd, 0x8b, 0x8a,
  0x70, 0x3e, 0xb5, 0x66, 0x48, 0x03, 0xf6, 0x0e, 0x61, 0x35, 0x57, 0xb9, 0x86, 0xc1, 0x1d, 0x9e,
  0xe1, 0xf8, 0x98, 0x11, 0x69, 0xd9, 0x8e, 0x94, 0x9b, 0x1e, 0x87, 0xe9, 0xce, 0x55, 0x28, 0xdf,
  0x8c, 0xa1, 0x89, 0x0d, 0xbf, 0xe6, 0x42, 0x68, 0x41, 0x99, 0x2d, 0x0f, 0xb0, 0x54, 0xbb, 0x16]

/-- The inverse substitution. -/
def unbox : Array UInt8 :=
  (List.range 256).foldl (fun a i => a.set! box[i]!.toNat (UInt8.ofNat i)) (Array.replicate 256 0)

/-- `x` times two in the field of 256 elements. -/
def double (x : UInt8) : UInt8 := (x <<< 1) ^^^ (if x &&& 0x80 = 0 then 0 else 0x1b)

/-- The product in the field of 256 elements, with a factor below sixteen. -/
def times (n : Nat) (x : UInt8) : UInt8 :=
  let x2 := double x
  let x4 := double x2
  let x8 := double x4
  (if n.testBit 0 then x else 0) ^^^ (if n.testBit 1 then x2 else 0) ^^^
    (if n.testBit 2 then x4 else 0) ^^^ (if n.testBit 3 then x8 else 0)

def rounds : Nat := 14

/-- The words of four octets that the rounds add, eight of them from the key. -/
def expand (key : Bytes) : Array (List UInt8) :=
  let start := ((List.range 8).map fun i => (key.drop (4 * i)).take 4).toArray
  ((List.range (4 * (rounds + 1) - 8)).foldl (fun (ws, round) k =>
    let i := k + 8
    let last := ws[i - 1]!
    if i % 8 = 0 then
      let turned := (last.drop 1 ++ last.take 1).map fun b => box[b.toNat]!
      let mixed := turned.zipWith (· ^^^ ·) [round, 0, 0, 0]
      (ws.push (ws[i - 8]!.zipWith (· ^^^ ·) mixed), double round)
    else
      let mixed := if i % 8 = 4 then last.map fun b => box[b.toNat]! else last
      (ws.push (ws[i - 8]!.zipWith (· ^^^ ·) mixed), round)) (start, (1 : UInt8))).1

/-- The sixteen octets that round `r` adds. -/
def roundKey (ws : Array (List UInt8)) (r : Nat) : Bytes :=
  (List.range 4).flatMap fun i => ws[4 * r + i]!

def xor (a b : Bytes) : Bytes := a.zipWith (· ^^^ ·) b

/-- Moves the octets of row `r` of a block by `shift r` columns. -/
def shiftRows (shift : Nat → Nat) (block : Bytes) : Bytes :=
  let a := block.toArray
  (List.range 16).map fun i => a[4 * ((i / 4 + shift (i % 4)) % 4) + i % 4]!

/-- Multiplies each column by the circulant matrix of `row`. -/
def mixColumns (row : List Nat) (block : Bytes) : Bytes :=
  let a := block.toArray
  (List.range 16).map fun i =>
    ((List.range 4).zip row).foldl
      (fun sum (j, n) => sum ^^^ times n a[4 * (i / 4) + (i + j) % 4]!) 0

def encryptBlock (ws : Array (List UInt8)) (block : Bytes) : Bytes :=
  let substitute (b : Bytes) := shiftRows id (b.map fun x => box[x.toNat]!)
  let middle := (List.range (rounds - 1)).foldl
    (fun b r => xor (mixColumns [2, 3, 1, 1] (substitute b)) (roundKey ws (r + 1)))
    (xor block (roundKey ws 0))
  xor (substitute middle) (roundKey ws rounds)

def decryptBlock (ws : Array (List UInt8)) (block : Bytes) : Bytes :=
  let restore (b : Bytes) := (shiftRows (fun r => 4 - r) b).map fun x => unbox[x.toNat]!
  let middle := (List.range (rounds - 1)).foldl
    (fun b r => mixColumns [14, 11, 13, 9] (xor (restore b) (roundKey ws (rounds - 1 - r))))
    (xor block (roundKey ws rounds))
  xor (restore middle) (roundKey ws 0)

/-- Blocks of sixteen octets. -/
def blocks (fuel : Nat) (bs : Bytes) : List Bytes :=
  match fuel, bs with
  | 0, _ => []
  | _, [] => []
  | fuel + 1, bs => bs.take 16 :: blocks fuel (bs.drop 16)

def encrypt (key iv message : Bytes) : Bytes :=
  let ws := expand key
  let fill := 16 - message.length % 16
  let padded := message ++ List.replicate fill (UInt8.ofNat fill)
  ((blocks padded.length padded).foldl (fun (done, last) block =>
    let c := encryptBlock ws (xor block last)
    (c :: done, c)) ([], iv)).1.reverse.flatten

/-- The message, if the padding is right. -/
def decrypt? (key iv cipher : Bytes) : Option Bytes :=
  if cipher.isEmpty || cipher.length % 16 ≠ 0 then none
  else
    let ws := expand key
    let plain := ((blocks cipher.length cipher).foldl (fun (done, last) block =>
      (xor (decryptBlock ws block) last :: done, block)) ([], iv)).1.reverse.flatten
    let fill := (plain.getLastD 0).toNat
    if fill = 0 || 16 < fill || (plain.drop (plain.length - fill)).any (·.toNat ≠ fill) then none
    else some (plain.take (plain.length - fill))

end ServiceTrust.Crypto.Aes
