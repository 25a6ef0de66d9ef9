/-
What a masked secret shows. Where some of the last characters are to be shown, a longer secret shows these after
asterisks and a shorter one nothing, so two secrets are masked alike exactly if they are equally long and, where
anything shows, end alike. Where no character is to be shown, the whole secret follows the asterisks.
-/
import ServiceTrust.Mask
import Mathlib.Data.List.DropRight

namespace ServiceTrust

/-- The texts are equally long, and if they are longer than `n` their last `n` characters are the same. -/
structure LooksLike (n : Nat) (a b : String) : Prop where
  length : a.length = b.length
  tail : n < a.length → a.toList.rtake n = b.toList.rtake n

variable {a b value : String} {shown : Nat}

theorem tailFrom_neg {n : Nat} (h : 0 < n) (cs : List Char) : tailFrom (-n) cs = cs.rtake n := by
  unfold tailFrom
  rw [if_pos (by omega), List.rtake, Int.natAbs_neg, Int.natAbs_natCast]

theorem toList_maskSecret_of_le (h : value.length ≤ shown) :
    (maskSecret value shown).toList = List.replicate value.length '*' := by
  unfold maskSecret
  rw [← String.length_toList] at h ⊢
  rw [if_pos (by exact_mod_cast h), String.toList_ofList]

theorem toList_maskSecret_of_lt (hsome : 0 < shown) (h : shown < value.length) :
    (maskSecret value shown).toList =
      List.replicate (value.length - shown) '*' ++ value.toList.rtake shown := by
  unfold maskSecret
  rw [← String.length_toList] at h ⊢
  rw [if_neg (by omega), String.toList_ofList, tailFrom_neg hsome, Int.toNat_sub]

/-- With nothing to be shown all is shown. -/
theorem toList_maskSecret_zero (value : String) :
    (maskSecret value 0).toList = List.replicate value.length '*' ++ value.toList := by
  unfold maskSecret
  rw [← String.length_toList]
  dsimp only
  split
  next h =>
    have hempty : value.toList = [] := List.eq_nil_of_length_eq_zero (by omega)
    simp [hempty]
  next => simp [tailFrom]

theorem length_maskSecret (hsome : 0 < shown) (value : String) :
    (maskSecret value shown).length = value.length := by
  rw [← String.length_toList]
  by_cases h : value.length ≤ shown
  · rw [toList_maskSecret_of_le h, List.length_replicate]
  · have hlt : shown < value.length := by omega
    rw [toList_maskSecret_of_lt hsome hlt, List.length_append, List.length_replicate, List.rtake,
      List.length_drop, String.length_toList]
    omega

/-- A mask tells the length of a secret and its end, and nothing else. -/
theorem maskSecret_eq_iff (hsome : 0 < shown) :
    maskSecret a shown = maskSecret b shown ↔ LooksLike shown a b := by
  constructor
  · intro h
    have hlength : a.length = b.length := by
      rw [← length_maskSecret hsome a, h, length_maskSecret hsome b]
    refine ⟨hlength, fun hlt => ?_⟩
    have hlist := congrArg String.toList h
    rw [toList_maskSecret_of_lt hsome hlt, toList_maskSecret_of_lt hsome (hlength ▸ hlt), hlength] at hlist
    exact List.append_cancel_left hlist
  · rintro ⟨hlength, htail⟩
    rw [← String.toList_inj]
    by_cases hle : a.length ≤ shown
    · rw [toList_maskSecret_of_le hle, toList_maskSecret_of_le (hlength ▸ hle), hlength]
    · have hlt : shown < a.length := by omega
      rw [toList_maskSecret_of_lt hsome hlt, toList_maskSecret_of_lt hsome (hlength ▸ hlt), htail hlt, hlength]

end ServiceTrust
