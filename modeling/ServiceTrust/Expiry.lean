import ServiceTrust.Text.Blank
import ServiceTrust.Text.Digit
import ServiceTrust.Text.Quoted
import ServiceTrust.Json.Reader

/-!
Expiry texts such as `8760h` or `365d`: white space, one to 4300 decimal digits, a unit. Hours
count as whole days, rounded down, and every expiry is at least one day.
-/
namespace ServiceTrust

inductive Expiry.Unit where
  | hours
  | days
  deriving DecidableEq, Repr

/-- Why a text is no expiry. -/
inductive Expiry.Fault where
  | unsupported (text : String)
  | tooManyDigits (count : Nat)
  deriving DecidableEq, Repr

namespace Expiry

def Fault.message : Fault → String
  | unsupported text => s!"unsupported expiry format: {Text.quoted text} (expected e.g. 8760h)"
  | tooManyDigits count => Json.tooManyDigitsMessage count

/-- The unit that a character names. -/
def unit? : Char → Option Unit
  | 'h' => some .hours
  | 'd' => some .days
  | _ => none

/-- Whole days of an amount, at least one. -/
def Unit.wholeDays (amount : Nat) : Unit → Nat
  | hours => max 1 (amount / 24)
  | days => max 1 amount

/-- Digits and the unit that follows them, if that is all there is. -/
def split? (cs : List Char) : Option (List Char × Unit) :=
  let digits := cs.takeWhile Text.isDigit
  match digits, cs.drop digits.length with
  | _ :: _, [c] => (unit? c).map (digits, ·)
  | _, _ => none

/-- The number of days that an expiry text stands for. -/
def parse (s : String) : Except Fault Nat :=
  match split? (Text.trimWhile Text.isBlank s.toList) with
  | none => .error (.unsupported s)
  | some (digits, unit) =>
    if Text.maxDigits < digits.length then .error (.tooManyDigits digits.length)
    else .ok (unit.wholeDays (Text.digitsValue digits))

end Expiry

/-- An expiry text together with the days that it stands for. -/
structure Expiry where
  text : String
  days : Nat
  parse_eq : Expiry.parse text = .ok days

namespace Expiry

def ofText (s : String) : Except Fault Expiry :=
  match h : parse s with
  | .ok days => .ok ⟨s, days, h⟩
  | .error fault => .error fault

end Expiry

end ServiceTrust
