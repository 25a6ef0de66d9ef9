import ServiceTrust.Text.Quoted

/-!
UTF-8: octets of a text, and the text of octets. Reading is strict and reports the octets that
rule the text out.
-/
namespace ServiceTrust

abbrev Bytes := List UInt8

namespace Text

def encode (s : String) : Bytes := s.toList.flatMap String.utf8EncodeChar

inductive Utf8Reason where
  | invalidStart
  | invalidContinuation
  | unexpectedEnd
  deriving DecidableEq, Repr

def Utf8Reason.message : Utf8Reason → String
  | invalidStart => "invalid start byte"
  | invalidContinuation => "invalid continuation byte"
  | unexpectedEnd => "unexpected end of data"

/-- Where the octets stop being a text: the offset of the offending character, the octets of it
that were seen, and what is wrong with what follows them. -/
structure Utf8Fault where
  offset : Nat
  octets : Bytes
  reason : Utf8Reason
  deriving DecidableEq, Repr

def Utf8Fault.message (f : Utf8Fault) : String :=
  let what :=
    match f.octets with
    | [b] => "byte 0x" ++ .ofList (hexPadded 2 b.toNat) ++ " in position " ++ toString f.offset
    | bs => "bytes in position " ++ toString f.offset ++ "-" ++ toString (f.offset + bs.length - 1)
  "'utf-8' codec can't decode " ++ what ++ ": " ++ f.reason.message

/-- What the first octet of a character promises: how many octets follow, the range of the next
one, and the bits it gives. -/
structure Lead where
  owed : Nat
  least : UInt8
  greatest : UInt8
  bits : Nat

def lead (b : UInt8) : Option Lead :=
  let n := b.toNat
  if n < 0x80 then some ⟨0, 0x80, 0xbf, n⟩
  else if 0xc2 ≤ n && n ≤ 0xdf then some ⟨1, 0x80, 0xbf, n - 0xc0⟩
  else if n = 0xe0 then some ⟨2, 0xa0, 0xbf, 0⟩
  else if n = 0xed then some ⟨2, 0x80, 0x9f, 13⟩
  else if 0xe1 ≤ n && n ≤ 0xef then some ⟨2, 0x80, 0xbf, n - 0xe0⟩
  else if n = 0xf0 then some ⟨3, 0x90, 0xbf, 0⟩
  else if 0xf1 ≤ n && n ≤ 0xf3 then some ⟨3, 0x80, 0xbf, n - 0xf0⟩
  else if n = 0xf4 then some ⟨3, 0x80, 0x8f, 4⟩
  else none

/-- The code point that the `owed` octets after `seen` complete, the next of them between `least`
and `greatest`; otherwise the octets of the character that were read and what is wrong. -/
def completeChar (seen : Bytes) (least greatest : UInt8) (bits : Nat) :
    Nat → Bytes → Except (Bytes × Utf8Reason) Nat
  | 0, _ => .ok bits
  | _ + 1, [] => .error (seen, .unexpectedEnd)
  | owed + 1, b :: rest =>
    if least ≤ b && b ≤ greatest then
      completeChar (seen ++ [b]) 0x80 0xbf (bits * 64 + (b.toNat - 0x80)) owed rest
    else .error (seen, .invalidContinuation)

/-- The characters of the octets from `offset` on; `skip` counts octets that belong to a
character already read. -/
def decodeFrom (offset skip : Nat) : Bytes → Except Utf8Fault (List Char)
  | [] => .ok []
  | b :: rest =>
    match skip with
    | skip + 1 => decodeFrom (offset + 1) skip rest
    | 0 =>
      match lead b with
      | none => .error ⟨offset, [b], .invalidStart⟩
      | some l =>
        match completeChar [b] l.least l.greatest l.bits l.owed rest with
        | .error (octets, reason) => .error ⟨offset, octets, reason⟩
        | .ok n => (decodeFrom (offset + 1) l.owed rest).map (Char.ofNat n :: ·)

def decode (bs : Bytes) : Except Utf8Fault String :=
  (decodeFrom 0 0 bs).map .ofList

end Text

end ServiceTrust
