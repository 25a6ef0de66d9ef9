import ServiceTrust.Json.Reader
import ServiceTrust.Path

/-!
Network addresses: four octets, or eight groups of sixteen bits with an optional scope. An octet
is written without leading zeros; the longest run of at least two zero groups is written as a
double colon, the first of several longest.
-/
namespace ServiceTrust.X509

inductive Address where
  | v4 (octets : List Nat)
  | v6 (groups : List Nat) (scope : Option String)
  deriving DecidableEq, Repr

namespace Address

/-- The parts of `cs` between separators. -/
def splitAt (sep : Char) (part : List Char) : List Char → List (List Char)
  | [] => [part.reverse]
  | c :: cs =>
    if c = sep then part.reverse :: splitAt sep [] cs else splitAt sep (c :: part) cs

def octet? (cs : List Char) : Option Nat :=
  if cs.isEmpty || !cs.all Char.isDigit || 3 < cs.length then none
  else if cs ≠ ['0'] && cs.head? = some '0' then none
  else
    let n := Text.digitsValue cs
    if n ≤ 255 then some n else none

def octets? (cs : List Char) : Option (List Nat) :=
  match splitAt '.' [] cs with
  | [a, b, c, d] => [a, b, c, d].mapM octet?
  | _ => none

/-- A group of one to four hexadecimal digits. -/
def group? (cs : List Char) : Option Nat :=
  if cs.isEmpty || 4 < cs.length then none
  else cs.foldlM (fun n c => (Json.Reader.hexValue? c).map (16 * n + ·)) 0

/-- The parts of an address, with a last part of four octets replaced by the two groups that they
make. -/
def withTail? (parts : List (List Char)) : Option (List (Option Nat)) :=
  let groups := parts.map group?
  match parts.getLast? with
  | some last =>
    if last.contains '.' then
      match octets? last with
      | some [a, b, c, d] => some (groups.dropLast ++ [some (256 * a + b), some (256 * c + d)])
      | _ => none
    else some groups
  | none => none

/-- The groups that parts between colons write: eight of them, or fewer around one double colon.
`isGap i` tells that the part `i` is empty. -/
def groups? (cs : List Char) : Option (List Nat) := do
  let parts := splitAt ':' [] cs
  if parts.length < 3 then none
  let groups ← withTail? parts
  let count := groups.length
  if 9 < count then none
  let empty (i : Nat) : Bool := i < parts.length && (parts[i]?.getD []).isEmpty
  let gaps := (List.range count).filter fun i => 1 ≤ i && i < count - 1 && empty i
  match gaps with
  | [] => if count = 8 then groups.mapM id else none
  | [gap] =>
    let before := if empty 0 then 0 else gap
    let after := if empty (count - 1) then 0 else count - gap - 1
    if empty 0 && gap ≠ 1 then none
    else if empty (count - 1) && gap ≠ count - 2 then none
    else if 8 ≤ before + after then none
    else
      let high ← (groups.take before).mapM id
      let low ← (groups.drop (count - after)).mapM id
      return high ++ List.replicate (8 - before - after) 0 ++ low
  | _ => none

def ofChars? (cs : List Char) : Option Address :=
  if cs.contains '/' then none
  else
    match octets? cs with
    | some octets => some (.v4 octets)
    | none =>
      let head := cs.takeWhile (· ≠ '%')
      let scope := (cs.drop head.length).drop 1
      if head.length < cs.length && (scope.isEmpty || scope.contains '%') then none
      else
        (groups? head).map fun groups =>
          .v6 groups (if head.length < cs.length then some (.ofList scope) else none)

/-- The address that a host name writes, if it writes one. -/
def ofString? (s : String) : Option Address := ofChars? s.toList

def hexText (n : Nat) : String := .ofList (Nat.toDigits 16 n)

/-- The length of the run of zeros that `groups` starts with. -/
def zeroRun (groups : List Nat) : Nat := (groups.takeWhile (· = 0)).length

/-- The place and the length of the longest run of zeros, the first of several longest. -/
def longestRun (groups : List Nat) : Nat × Nat :=
  (List.range groups.length).foldl (fun (start, length) i =>
    let n := zeroRun (groups.drop i)
    if length < n then (i, n) else (start, length)) (0, 0)

def groupsText (groups : List Nat) : String :=
  let join (gs : List Nat) := ":".intercalate (gs.map hexText)
  match longestRun groups with
  | (start, length) =>
    if length < 2 then join groups
    else join (groups.take start) ++ "::" ++ join (groups.drop (start + length))

def toString : Address → String
  | v4 octets => ".".intercalate (octets.map Nat.repr)
  | v6 groups none => groupsText groups
  | v6 groups (some scope) => groupsText groups ++ "%" ++ scope

/-- The address without its scope, which only means something on one machine. -/
def withoutScope : Address → Address
  | v6 groups _ => v6 groups none
  | a => a

end Address

end ServiceTrust.X509
