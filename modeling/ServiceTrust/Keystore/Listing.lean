import ServiceTrust.Text.Blank
import ServiceTrust.Text.Case
import ServiceTrust.Text.Lines

/-!
The entries that a listing of a key store shows.
-/
namespace ServiceTrust.Keystore

/-- An entry: its alias, its type, and the fingerprint of its first certificate. -/
structure Entry where
  alias_ : String
  type : String
  sha256 : Option String := none
  deriving DecidableEq, Repr

def trustedType : String := "trustedCertEntry"

def Entry.isTrusted (e : Entry) : Bool := e.type = trustedType

namespace Listing

/-- What a line of a listing tells. -/
inductive Line where
  | alias_ (value : String)
  | type (value : String)
  | fingerprint (value : String)
  | other
  deriving DecidableEq, Repr

/-- The text after `label`, trimmed, if `cs` starts with it. -/
def after? (label : String) (cs : List Char) : Option String :=
  if label.toList.isPrefixOf cs then
    some (.ofList (Text.trimWhile Text.isBlank (cs.drop label.length)))
  else none

/-- A fingerprint without its colons, in lower case. -/
def plainFingerprint (s : String) : String := Text.lower (.ofList (s.toList.filter (· ≠ ':')))

def Line.ofString (s : String) : Line :=
  let cs := Text.trimWhile Text.isBlank s.toList
  match after? "Alias name:" cs, after? "Entry type:" cs, after? "SHA256:" cs with
  | some v, _, _ => .alias_ v
  | none, some v, _ => .type v
  | none, none, some v => .fingerprint (plainFingerprint v)
  | none, none, none => .other

/-- The entries read so far, the latest first, and the alias that waits for its type. -/
structure State where
  done : List Entry := []
  pending : Option String := none

def State.step (s : State) : Line → State
  | .alias_ v => { s with pending := some v }
  | .type v =>
    match s.pending with
    | some a => ⟨⟨a, v, none⟩ :: s.done, none⟩
    | none => s
  | .fingerprint v =>
    match s.done with
    | ⟨a, t, none⟩ :: es => { s with done := ⟨a, t, some v⟩ :: es }
    | _ => s
  | .other => s

/-- The entries of a listing. An entry stands where a type follows an alias, and takes the first
fingerprint after it. -/
def parse (output : String) : List Entry :=
  (((Text.lines output).map Line.ofString).foldl State.step {}).done.reverse

end Listing

end ServiceTrust.Keystore
