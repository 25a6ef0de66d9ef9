import ServiceTrust.Asn1.Der
import ServiceTrust.Text.Digit

/-!
Instants as seconds from 1970 on, their calendar dates, and the period that a certificate is
valid for.
-/
namespace ServiceTrust.X509

open Asn1

/-- Seconds since the start of 1970. -/
abbrev Instant := Int

namespace Instant

def secondsPerDay : Int := 86400

/-- Days from the start of 1970 to a date of the proleptic calendar. -/
def daysOfDate (year month day : Int) : Int :=
  let y := if month ≤ 2 then year - 1 else year
  let era := y.fdiv 400
  let yearOfEra := y - era * 400
  let dayOfYear := (153 * (if month > 2 then month - 3 else month + 9) + 2) / 5 + day - 1
  era * 146097 + (yearOfEra * 365 + yearOfEra / 4 - yearOfEra / 100 + dayOfYear) - 719468

/-- Year, month and day of a number of days since the start of 1970. -/
def dateOfDays (days : Int) : Int × Int × Int :=
  let z := days + 719468
  let era := z.fdiv 146097
  let dayOfEra := z - era * 146097
  let yearOfEra := (dayOfEra - dayOfEra / 1460 + dayOfEra / 36524 - dayOfEra / 146096) / 365
  let dayOfYear := dayOfEra - (365 * yearOfEra + yearOfEra / 4 - yearOfEra / 100)
  let m := (5 * dayOfYear + 2) / 153
  let day := dayOfYear - (153 * m + 2) / 5 + 1
  let month := if m < 10 then m + 3 else m - 9
  (yearOfEra + era * 400 + (if month ≤ 2 then 1 else 0), month, day)

def firstDay : Int := daysOfDate 1 1 1

def lastDay : Int := daysOfDate 9999 12 31

/-- The first instant that a certificate can name. -/
def earliest : Instant := daysOfDate 1950 1 1 * secondsPerDay

def padded (width : Nat) (n : Int) : List Char :=
  let cs := (toString n.toNat).toList
  List.replicate (width - cs.length) '0' ++ cs

/-- The instant as a certificate writes it: with a year of two digits before 2050. -/
def encode (t : Instant) : Bytes :=
  let days := t.fdiv secondsPerDay
  let seconds := t - days * secondsPerDay
  let (year, month, day) := dateOfDays days
  let rest := [month, day, seconds / 3600, seconds / 60 % 60, seconds % 60].flatMap (padded 2)
  let text (ys : List Char) := Text.encode (.ofList (ys ++ rest ++ ['Z']))
  if 1950 ≤ year && year < 2050 then Der.tagged 0x17 (text (padded 2 (year % 100)))
  else Der.tagged 0x18 (text (padded 4 year))

/-- The instant as a log shows it. -/
def toString (t : Instant) : String :=
  let days := t.fdiv secondsPerDay
  let seconds := t - days * secondsPerDay
  let (year, month, day) := dateOfDays days
  .ofList (padded 4 year ++ '-' :: padded 2 month ++ '-' :: padded 2 day ++ 'T' ::
    padded 2 (seconds / 3600) ++ ':' :: padded 2 (seconds / 60 % 60) ++ ':' ::
    padded 2 (seconds % 60) ++ "+00:00".toList)

/-- Numbers of two digits each. -/
def pairs? : List Char → Option (List Int)
  | [] => some []
  | [_] => none
  | a :: b :: cs =>
    if a.isDigit && b.isDigit then
      (pairs? cs).map ((Text.digitsValue [a, b] : Int) :: ·)
    else none

def decode? (v : Tlv) : Option Instant := do
  let cs := v.content.map fun b => Char.ofNat b.toNat
  if cs.getLast? ≠ some 'Z' then none
  let numbers ← pairs? cs.dropLast
  let (year, rest) ←
    match v.tag, numbers with
    | 0x17, y :: rest => some (if y < 50 then 2000 + y else 1900 + y, rest)
    | 0x18, c :: y :: rest => some (100 * c + y, rest)
    | _, _ => none
  match rest with
  | [month, day, hour, minute, second] =>
    return daysOfDate year month day * secondsPerDay + hour * 3600 + minute * 60 + second
  | _ => none

end Instant

/-- Why there is no period of a number of days. -/
inductive Period.Fault where
  | startBeforeEarliest
  | tooManyDays (days : Int)
  | beyondInt
  | outOfRange
  | beforeEarliest
  | negative
  deriving DecidableEq, Repr

def Period.Fault.message : Period.Fault → String
  | startBeforeEarliest => "The not valid before date must be on or after 1950 January 1."
  | tooManyDays days => s!"days={days}; must have magnitude <= 999999999"
  | beyondInt => "Python int too large to convert to C int"
  | outOfRange => "date value out of range"
  | beforeEarliest => "The not valid after date must be on or after 1950 January 1."
  | negative => "The not valid after date must be after the not valid before date."

/-- The end of a period of `days` from `start` on. -/
def Period.endOf (start : Instant) (days : Int) : Except Period.Fault Instant :=
  if start < Instant.earliest then .error .startBeforeEarliest
  else if days < -2147483648 || 2147483647 < days then .error .beyondInt
  else if 999999999 < days.natAbs then .error (.tooManyDays days)
  else
    let stop := start + days * Instant.secondsPerDay
    let day := stop.fdiv Instant.secondsPerDay
    if day < Instant.firstDay || Instant.lastDay < day then .error .outOfRange
    else if stop < Instant.earliest then .error .beforeEarliest
    else if stop < start then .error .negative
    else .ok stop

end ServiceTrust.X509
