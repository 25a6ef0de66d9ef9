/-
New keys are of the kind that they were asked to be. For a curve that is how a key is made. For RSA it
rests on the search for primes: it starts in the upper quarter of the numbers with half of the bits and
has room for all its steps, so the two highest bits of both primes are set, and their product has all the
bits of the modulus.
-/
import ServiceTrust.Crypto.Keys
import Mathlib.Tactic.Linarith
import Mathlib.Tactic.Ring

namespace ServiceTrust.Crypto

namespace RsaKey

/-! ## Primes -/

theorem searchPrime_bounds (start : Nat) (residues : List (Nat × Nat)) (steps offset : Nat) :
    start + offset ≤ searchPrime start residues steps offset ∧
      searchPrime start residues steps offset ≤ start + offset + 2 * steps := by
  induction steps generalizing offset with
  | zero => exact ⟨le_rfl, le_rfl⟩
  | succ steps ih =>
    obtain ⟨hlow, hhigh⟩ := ih (offset + 2)
    unfold searchPrime
    dsimp only
    split
    · omega
    · omega

/-- There is room for the steps of the search. -/
theorem steps_lt {bits : Nat} (h : 14 ≤ bits) : 2 * (100 * bits) < 2 ^ (bits - 2) := by
  induction bits, h using Nat.le_induction with
  | base => decide
  | succ bits h ih =>
    rw [show bits + 1 - 2 = bits - 2 + 1 by omega, Nat.pow_succ]
    omega

theorem primeOf_bounds (seed : Bytes) {bits : Nat} (h : 14 ≤ bits) :
    3 * 2 ^ (bits - 2) ≤ primeOf seed bits ∧ primeOf seed bits < 2 ^ bits := by
  have hroom := steps_lt h
  have hpow : 2 ^ bits = 4 * 2 ^ (bits - 2) := by
    rw [show (4 : Nat) = 2 ^ 2 from rfl, ← Nat.pow_add]
    congr 1
    omega
  -- the upper quarter, less the steps, is even, so the greatest even number in it is two below its end
  have heven : 2 ^ (bits - 2) % 2 = 0 := by
    rw [show bits - 2 = bits - 3 + 1 by omega, Nat.pow_succ]
    omega
  unfold primeOf
  dsimp only
  generalize Words.toNat (expand seed (bits / 8 + 1)) = random
  rw [Nat.shiftLeft_eq, Nat.shiftLeft_eq, Nat.one_mul, hpow]
  generalize 2 ^ (bits - 2) = quarter at hroom heven ⊢
  have hrandom := Nat.mod_lt random (y := quarter - 2 * (100 * bits)) (by omega)
  generalize random % (quarter - 2 * (100 * bits)) = r at hrandom ⊢
  obtain ⟨hlow, hhigh⟩ := searchPrime_bounds (3 * quarter + (r - r % 2) + 1)
    (smallPrimes.map fun p => ((3 * quarter + (r - r % 2) + 1) % p, p)) (100 * bits) 0
  omega

/-! ## Moduli -/

/-- The product of two numbers with their two highest bits set has as many bits as they have together. -/
theorem log2_mul {a b p q : Nat} (ha : 2 ≤ a) (hb : 2 ≤ b) (hp : 3 * 2 ^ (a - 2) ≤ p ∧ p < 2 ^ a)
    (hq : 3 * 2 ^ (b - 2) ≤ q ∧ q < 2 ^ b) : (p * q).log2 + 1 = a + b := by
  have hlow : 2 ^ (a + b - 1) ≤ p * q := by
    calc 2 ^ (a + b - 1) = 8 * (2 ^ (a - 2) * 2 ^ (b - 2)) := by
          rw [show (8 : Nat) = 2 ^ 3 from rfl, ← Nat.pow_add, ← Nat.pow_add]
          congr 1
          omega
      _ ≤ 9 * (2 ^ (a - 2) * 2 ^ (b - 2)) := Nat.mul_le_mul_right _ (by decide)
      _ = 3 * 2 ^ (a - 2) * (3 * 2 ^ (b - 2)) := by ring
      _ ≤ p * q := Nat.mul_le_mul hp.1 hq.1
  have hhigh : p * q < 2 ^ (a + b - 1 + 1) := by
    rw [show a + b - 1 + 1 = a + b by omega, Nat.pow_add]
    exact Nat.mul_lt_mul'' hp.2 hq.2
  have hpos : p * q ≠ 0 := Nat.ne_zero_of_lt (Nat.lt_of_lt_of_le (Nat.two_pow_pos _) hlow)
  rw [(Nat.log2_eq_iff hpos).mpr ⟨hlow, hhigh⟩]
  omega

theorem log2_modulus (seed : Bytes) {bits : Nat} (h : 28 ≤ bits) : (generate seed bits).modulus.log2 + 1 = bits := by
  have hp := primeOf_bounds (0 :: seed) (show 14 ≤ bits - bits / 2 by omega)
  have hq := primeOf_bounds (1 :: seed) (show 14 ≤ bits / 2 by omega)
  have hbits : bits - bits / 2 + bits / 2 = bits := by omega
  unfold generate
  dsimp only
  split
  · rw [ofPrimes, Nat.mul_comm, log2_mul (by omega) (by omega) hp hq, hbits]
  · rw [ofPrimes, log2_mul (by omega) (by omega) hp hq, hbits]

end RsaKey

/-! ## Kinds -/

theorem PrivateKey.kind_ofSecret (c : Curve) (secret : Nat) : (ofSecret c secret).kind = .ec c := by
  unfold ofSecret
  split <;> rfl

/-- A new key is of the kind that was asked for, where an RSA key is of at least 28 bits. -/
theorem PrivateKey.kind_generate {kind : KeyKind} (h : ∀ bits, kind = .rsa bits → 28 ≤ bits) (seed : Bytes) :
    (generate kind seed).kind = kind := by
  cases kind with
  | rsa bits => exact congrArg KeyKind.rsa (RsaKey.log2_modulus seed (h bits rfl))
  | ec c => exact kind_ofSecret c _

end ServiceTrust.Crypto
