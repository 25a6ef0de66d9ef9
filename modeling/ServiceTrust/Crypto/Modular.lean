/-!
Powers and inverses modulo a number.
-/
namespace ServiceTrust.Crypto.Modular

/-- `base ^ exponent % m`, where the exponent has at most `bits` bits. -/
def powBits (m base exponent : Nat) : Nat → Nat
  | 0 => 1 % m
  | bits + 1 =>
    let half := powBits m base (exponent / 2) bits
    let square := half * half % m
    if exponent % 2 = 1 then square * base % m else square

def pow (base exponent m : Nat) : Nat := powBits m (base % m) exponent (exponent.log2 + 1)

/-- A number `x` with `a * x` equal to the greatest common divisor of `a` and `m`, modulo `m`. The
coefficients `s` and `t` go with the remainders `a` and `b`. -/
def bezout (a b : Nat) (s t : Int) : Int :=
  if b = 0 then s else bezout b (a % b) t (s - (a / b : Nat) * t)
termination_by b
decreasing_by exact Nat.mod_lt _ (Nat.pos_of_ne_zero (by assumption))

/-- The inverse of `a` modulo `m`, if they have no common divisor. -/
def inverse (a m : Nat) : Nat := (bezout (a % m) m 1 0 % m).toNat

end ServiceTrust.Crypto.Modular
