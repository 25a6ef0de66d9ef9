/-!
Numbers with a fraction or an exponent, held as the nearest binary number of double precision.
-/
namespace ServiceTrust.Json

/-- A double precision number: `significand * 2 ^ exponent` with a sign, or none of the finite
ones. -/
inductive Approx where
  | finite (negative : Bool) (significand : Nat) (exponent : Int)
  | infinite (negative : Bool)
  | nan
  deriving DecidableEq, Repr

namespace Approx

/-- `num / den` rounded to the nearest whole number, a half to the even one. -/
def roundDiv (num den : Nat) : Nat :=
  let q := num / den
  let r := num % den
  if 2 * r < den then q
  else if den < 2 * r then q + 1
  else if q % 2 = 0 then q else q + 1

/-- Numbers as large as ten to this power are out of range. -/
def overflowDigits : Int := 310

/-- Numbers below ten to this power are nearest to zero. -/
def underflowDigits : Int := -330

/-- The number nearest to `num / den`. -/
def ofRatio (negative : Bool) (num den : Nat) : Approx :=
  let scale : Int := (num.log2 : Int) - den.log2
  let floor (q : Int) : Nat := (num <<< (-q).toNat) / (den <<< q.toNat)
  let low := max (scale - 53) (-1074)
  let q := if 1 <<< 53 ≤ floor low then low + 1 else low
  let n := roundDiv (num <<< (-q).toNat) (den <<< q.toNat)
  if 1 <<< 1024 ≤ (n <<< q.toNat) >>> (-q).toNat then infinite negative else finite negative n q

/-- The number nearest to `digits * 10 ^ exponent`. -/
def ofDecimal (negative : Bool) (digits : Nat) (exponent : Int) : Approx :=
  let size : Int := (toString digits).length + exponent
  if digits = 0 || size < underflowDigits then finite negative 0 0
  else if overflowDigits < size then infinite negative
  else ofRatio negative (digits * Nat.pow 10 exponent.toNat) (Nat.pow 10 (-exponent).toNat)

/-- The whole number that this is, if it is one. -/
def toInt? : Approx → Option Int
  | finite negative n q =>
    let den := 1 <<< (-q).toNat
    if n % den = 0 then
      let v : Int := Int.ofNat ((n / den) <<< q.toNat)
      some (if negative then -v else v)
    else none
  | _ => none

def isFinite : Approx → Bool
  | finite _ _ _ => true
  | _ => false

end Approx

end ServiceTrust.Json
