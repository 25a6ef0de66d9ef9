/-
Octets written in base 64 are read back as they were. Every character that is written for six bits stands
for them again and is not the padding, so a group of four characters is read by the case that wrote it.
-/
import ServiceTrust.Crypto.Base64

namespace ServiceTrust.Crypto.Base64

/-- The character for six bits is read back, and is no padding. -/
theorem value?_digit {n : Nat} (h : n < 64) : value? (digit n) = some n ∧ digit n ≠ '=' := by
  have hall : ∀ n < 64, value? (digit n) = some n ∧ digit n ≠ '=' := by decide
  exact hall n h

theorem decode_four {a b c d : Char} (hd : d ≠ '=') (rest : List Char) :
    decode (a :: b :: c :: d :: rest) = (do
      let a ← value? a
      let b ← value? b
      let c ← value? c
      let d ← value? d
      let bytes ← decode rest
      some (UInt8.ofNat (a * 4 + b / 16) :: UInt8.ofNat (b % 16 * 16 + c / 4) ::
        UInt8.ofNat (c % 4 * 64 + d) :: bytes)) := by
  rw [decode]
  · exact fun _ h => absurd h hd
  · exact fun h => absurd h hd

theorem decode_three {a b c : Char} (hc : c ≠ '=') : decode [a, b, c, '='] = (do
      let a ← value? a
      let b ← value? b
      let c ← value? c
      if c % 4 = 0 then some [UInt8.ofNat (a * 4 + b / 16), UInt8.ofNat (b % 16 * 16 + c / 4)] else none) := by
  rw [decode]
  exact fun h => absurd h hc

theorem decode_encode (bytes : Bytes) : decode (encode bytes) = some bytes := by
  have hoctet {a : UInt8} {n : Nat} (h : n = a.toNat) : UInt8.ofNat n = a := by rw [h, UInt8.ofNat_toNat]
  fun_induction encode bytes with
  | case1 a b c rest n ih =>
    have ha := a.toNat_lt
    have hb := b.toNat_lt
    have hc := c.toNat_lt
    obtain ⟨h₁, -⟩ := value?_digit (n := n / 262144) (by omega)
    obtain ⟨h₂, -⟩ := value?_digit (n := n / 4096 % 64) (by omega)
    obtain ⟨h₃, -⟩ := value?_digit (n := n / 64 % 64) (by omega)
    obtain ⟨h₄, hpad⟩ := value?_digit (n := n % 64) (by omega)
    rw [decode_four hpad, h₁, h₂, h₃, h₄, ih]
    dsimp only [Option.bind_eq_bind, Option.bind_some]
    rw [hoctet (a := a) (by omega), hoctet (a := b) (by omega), hoctet (a := c) (by omega)]
  | case2 a b n =>
    have ha := a.toNat_lt
    have hb := b.toNat_lt
    obtain ⟨h₁, -⟩ := value?_digit (n := n / 4096) (by omega)
    obtain ⟨h₂, -⟩ := value?_digit (n := n / 64 % 64) (by omega)
    obtain ⟨h₃, hpad⟩ := value?_digit (n := n % 64) (by omega)
    rw [decode_three hpad, h₁, h₂, h₃]
    dsimp only [Option.bind_eq_bind, Option.bind_some]
    rw [if_pos (by omega), hoctet (a := a) (by omega), hoctet (a := b) (by omega)]
  | case3 a n =>
    have ha := a.toNat_lt
    obtain ⟨h₁, -⟩ := value?_digit (n := n / 64) (by omega)
    obtain ⟨h₂, -⟩ := value?_digit (n := n % 64) (by omega)
    rw [decode, h₁, h₂]
    dsimp only [Option.bind_eq_bind, Option.bind_some]
    rw [if_pos (by omega), hoctet (a := a) (by omega)]
  | case4 => rfl

end ServiceTrust.Crypto.Base64
