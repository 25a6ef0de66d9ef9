import ServiceTrust.Crypto.Base64
import ServiceTrust.Text.Blank

/-!
Armoured data: a label, lines of base 64 between a begin and an end line. A text may hold several
sections with anything between them; all of them have to be well formed.
-/
namespace ServiceTrust.Asn1

structure PemSection where
  label : String
  encrypted : Bool
  bytes : Bytes
  deriving DecidableEq, Repr

namespace Pem

def lineLength : Nat := 64

/-- `cs` in lines of at most 64 characters. -/
def wrap (fuel : Nat) (cs : List Char) : List Char :=
  match fuel, cs with
  | _, [] => []
  | 0, _ => cs
  | fuel + 1, cs => cs.take lineLength ++ '\n' :: wrap fuel (cs.drop lineLength)

def encode (label : String) (bytes : Bytes) : Bytes :=
  let body := Crypto.Base64.encode bytes
  Text.encode ("-----BEGIN " ++ label ++ "-----\n" ++ .ofList (wrap body.length body) ++
    "-----END " ++ label ++ "-----\n")

/-- The octets before and after the first occurrence of `mark`. -/
def breakAt? (mark : Bytes) : Bytes → Option (Bytes × Bytes)
  | [] => if mark.isEmpty then some ([], []) else none
  | b :: bs =>
    if mark.isPrefixOf (b :: bs) then some ([], (b :: bs).drop mark.length)
    else (breakAt? mark bs).map fun (before, after) => (b :: before, after)

def dashes : Bytes := Text.encode "-----"

def beginMark : Bytes := Text.encode "-----BEGIN "

def endMark : Bytes := Text.encode "-----END "

def skipSpace (bs : Bytes) : Bytes :=
  bs.dropWhile fun b => b = 0x20 || b = 0x09 || b = 0x0a || b = 0x0d

/-- The parts of one section: its two labels, its headers and its body. -/
structure Frame where
  opened : Bytes
  closed : Bytes
  headers : Bytes
  body : Bytes

/-- The next section and the octets after it. -/
def frame? (bs : Bytes) : Option (Frame × Bytes) := do
  let (_, bs) ← breakAt? beginMark bs
  let (opened, bs) ← breakAt? dashes bs
  let (inner, bs) ← breakAt? endMark (skipSpace bs)
  let (closed, bs) ← breakAt? dashes bs
  let (headers, body) :=
    match breakAt? [0x0a, 0x0a] inner with
    | some parts => parts
    | none => (breakAt? [0x0d, 0x0a, 0x0d, 0x0a] inner).getD ([], inner)
  return (⟨opened, closed, headers, body⟩, bs)

def frames (fuel : Nat) (bs : Bytes) : List Frame :=
  match fuel with
  | 0 => []
  | fuel + 1 =>
    match frame? bs with
    | some (f, rest) => f :: frames fuel rest
    | none => []

/-- The lines of a text, cut at newlines. -/
def textLines (line : List Char) : List Char → List (List Char)
  | [] => if line.isEmpty then [] else [line.reverse]
  | c :: cs => if c = '\n' then line.reverse :: textLines [] cs else textLines (c :: line) cs

def text? (bs : Bytes) : Option (List Char) :=
  match Text.decode bs with
  | .ok s => some s.toList
  | .error _ => none

/-- What a frame holds: equal labels, headers with a colon each, and a body in base 64. -/
def Frame.section? (f : Frame) : Option PemSection := do
  let opened ← text? f.opened
  let closed ← text? f.closed
  if opened.isEmpty || opened ≠ closed then none
  let headers := (textLines [] (← text? f.headers)).filter (· ≠ [])
  if headers.any fun h => !h.contains ':' then none
  let body := (textLines [] (← text? f.body)).flatMap (Text.dropEndWhile Text.isBlank)
  let bytes ← Crypto.Base64.decode body
  let encrypted := headers.any fun h => "Proc-Type".toList.isPrefixOf h
  return ⟨.ofList opened, encrypted, bytes⟩

/-- All sections of a text, if there is one and all are well formed. -/
def sections? (bs : Bytes) : Option (List PemSection) :=
  match frames bs.length bs with
  | [] => none
  | fs => fs.mapM Frame.section?

/-- The first section with one of the labels. -/
def find? (labels : List String) (bs : Bytes) : Option PemSection :=
  (sections? bs).bind fun ss => ss.find? fun s => labels.contains s.label

end Pem

end ServiceTrust.Asn1
