/-
Octets that are read as a text are its encoding, and every encoding is read back. A character is read from
its first octet, which promises the others (`lead`), and from these (`completeChar`); the octets that make
up one that way are the ones that it is encoded by, in either direction.
-/
import ServiceTrust.Text.Utf8

namespace ServiceTrust.Text

variable {b : UInt8} {l : Lead} {n : Nat} {rest : Bytes}

/-! ## One character -/

theorem completeChar_zero (seen : Bytes) (least greatest : UInt8) (bits : Nat) (rest : Bytes) :
    completeChar seen least greatest bits 0 rest = .ok bits := by
  rw [completeChar]

theorem completeChar_succ_ok {seen : Bytes} {least greatest : UInt8} {bits owed : Nat} :
    completeChar seen least greatest bits (owed + 1) rest = .ok n ↔ ∃ b more, rest = b :: more ∧
      least.toNat ≤ b.toNat ∧ b.toNat ≤ greatest.toNat ∧
      completeChar (seen ++ [b]) 0x80 0xbf (bits * 64 + (b.toNat - 0x80)) owed more = .ok n := by
  cases rest with
  | nil => simp [completeChar]
  | cons b more =>
    rw [completeChar]
    have hrange : (decide (least ≤ b) && decide (b ≤ greatest)) = true ↔
        least.toNat ≤ b.toNat ∧ b.toNat ≤ greatest.toNat := by
      simp [UInt8.le_iff_toNat_le]
    split
    next h =>
      obtain ⟨hleast, hgreatest⟩ := hrange.mp h
      constructor
      · intro hc
        exact ⟨b, more, rfl, hleast, hgreatest, hc⟩
      · rintro ⟨_, _, ⟨⟩, -, -, hc⟩
        exact hc
    next h =>
      simp only [reduceCtorEq, false_iff]
      rintro ⟨_, _, ⟨⟩, hleast, hgreatest, -⟩
      exact h (hrange.mpr ⟨hleast, hgreatest⟩)

theorem ofNat_eq (b : UInt8) {m : Nat} (h : m = b.toNat) : UInt8.ofNat m = b := by
  subst h
  exact UInt8.ofNat_toNat

/-- A number that is no surrogate is the one of its character. -/
theorem toNat_val_ofNat (h : n < 0xd800 ∨ 0xdfff < n ∧ n < 0x110000) : (Char.ofNat n).val.toNat = n := by
  unfold Char.ofNat
  rw [dif_pos h]
  rfl

/-- How many octets were promised, between which bounds the first of them is, and what it takes for the bits
to give a character that needs that many. -/
theorem lead_eq_some (h : lead b = some l) :
    l.owed = 0 ∧ b.toNat < 0x80 ∧ l.bits = b.toNat ∨
    0x80 ≤ l.least.toNat ∧ l.greatest.toNat ≤ 0xbf ∧
      (l.owed = 1 ∧ 0xc2 ≤ b.toNat ∧ b.toNat ≤ 0xdf ∧ l.bits = b.toNat - 0xc0 ∨
        l.owed = 2 ∧ 0xe0 ≤ b.toNat ∧ b.toNat ≤ 0xef ∧ l.bits = b.toNat - 0xe0 ∧
          (b.toNat = 0xe0 → 0xa0 ≤ l.least.toNat) ∧ (b.toNat = 0xed → l.greatest.toNat ≤ 0x9f) ∨
        l.owed = 3 ∧ 0xf0 ≤ b.toNat ∧ b.toNat ≤ 0xf4 ∧ l.bits = b.toNat - 0xf0 ∧
          (b.toNat = 0xf0 → 0x90 ≤ l.least.toNat) ∧ (b.toNat = 0xf4 → l.greatest.toNat ≤ 0x8f)) := by
  unfold lead at h
  simp only [Bool.and_eq_true, decide_eq_true_eq] at h
  repeat' split at h
  all_goals cases h
  -- one goal for each range of first octets; an octet in none of them promises nothing
  all_goals
    simp only [UInt8.reduceToNat, true_and, and_true]
    omega

/-- The octets that a character was read from are its encoding. -/
theorem of_completeChar (hl : lead b = some l)
    (hc : completeChar [b] l.least l.greatest l.bits l.owed rest = .ok n) :
    ∃ tail more, rest = tail ++ more ∧ tail.length = l.owed ∧
      String.utf8EncodeChar (Char.ofNat n) = b :: tail := by
  have hb := b.toNat_lt
  -- by the number of octets that the first one promises; no encoding is longer than it needs to be, and none is
  -- that of a surrogate, which is what the bounds on the second octet are for
  obtain ⟨h0, hsmall, hbits⟩ | ⟨hleast, hgreatest, ⟨h1, hlo, hhi, hbits⟩ | ⟨h2, hlo, hhi, hbits, hshort, hsurrogate⟩ |
    ⟨h3, hlo, hhi, hbits, hshort, hlong⟩⟩ := lead_eq_some hl
  · rw [h0, completeChar_zero] at hc
    cases hc
    refine ⟨[], rest, rfl, h0.symm, ?_⟩
    unfold String.utf8EncodeChar
    rw [toNat_val_ofNat (by omega)]
    dsimp only
    rw [if_pos (by omega), ofNat_eq b hbits]
  · rw [h1, completeChar_succ_ok] at hc
    obtain ⟨b₁, more, rfl, hlo₁, hhi₁, hc⟩ := hc
    rw [completeChar_zero, Except.ok.injEq] at hc
    refine ⟨[b₁], more, rfl, h1.symm, ?_⟩
    unfold String.utf8EncodeChar
    rw [toNat_val_ofNat (by omega)]
    dsimp only
    rw [if_neg (by omega), if_pos (by omega), ofNat_eq b (by omega), ofNat_eq b₁ (by omega)]
  · rw [h2, completeChar_succ_ok] at hc
    obtain ⟨b₁, more, rfl, hlo₁, hhi₁, hc⟩ := hc
    obtain ⟨b₂, more, rfl, hlo₂, hhi₂, hc⟩ := completeChar_succ_ok.mp hc
    rw [completeChar_zero, Except.ok.injEq] at hc
    simp only [UInt8.reduceToNat] at hlo₂ hhi₂
    refine ⟨[b₁, b₂], more, rfl, h2.symm, ?_⟩
    unfold String.utf8EncodeChar
    rw [toNat_val_ofNat (by omega)]
    dsimp only
    rw [if_neg (by omega), if_neg (by omega), if_pos (by omega), ofNat_eq b (by omega), ofNat_eq b₁ (by omega),
      ofNat_eq b₂ (by omega)]
  · rw [h3, completeChar_succ_ok] at hc
    obtain ⟨b₁, more, rfl, hlo₁, hhi₁, hc⟩ := hc
    obtain ⟨b₂, more, rfl, hlo₂, hhi₂, hc⟩ := completeChar_succ_ok.mp hc
    obtain ⟨b₃, more, rfl, hlo₃, hhi₃, hc⟩ := completeChar_succ_ok.mp hc
    rw [completeChar_zero, Except.ok.injEq] at hc
    simp only [UInt8.reduceToNat] at hlo₂ hhi₂ hlo₃ hhi₃
    refine ⟨[b₁, b₂, b₃], more, rfl, h3.symm, ?_⟩
    unfold String.utf8EncodeChar
    rw [toNat_val_ofNat (by omega)]
    dsimp only
    rw [if_neg (by omega), if_neg (by omega), if_neg (by omega), ofNat_eq b (by omega), ofNat_eq b₁ (by omega),
      ofNat_eq b₂ (by omega), ofNat_eq b₃ (by omega)]

theorem lead_two (b : UInt8) (hlo : 0xc2 ≤ b.toNat) (hhi : b.toNat ≤ 0xdf) :
    lead b = some ⟨1, 0x80, 0xbf, b.toNat - 0xc0⟩ := by
  have hsmall : ¬ b.toNat < 0x80 := by omega
  simp [lead, hsmall, hlo, hhi]

theorem lead_three (b : UInt8) (hlo : 0xe0 ≤ b.toNat) (hhi : b.toNat ≤ 0xef) :
    ∃ least greatest, lead b = some ⟨2, least, greatest, b.toNat - 0xe0⟩ ∧
      least.toNat = (if b.toNat = 0xe0 then 0xa0 else 0x80) ∧
      greatest.toNat = if b.toNat = 0xed then 0x9f else 0xbf := by
  by_cases hshort : b.toNat = 0xe0
  · exact ⟨0xa0, 0xbf, by simp [lead, hshort], by simp [hshort], by simp [hshort]⟩
  by_cases hsurrogate : b.toNat = 0xed
  · exact ⟨0x80, 0x9f, by simp [lead, hsurrogate], by simp [hsurrogate], by simp [hsurrogate]⟩
  · refine ⟨0x80, 0xbf, ?_, by simp [hshort], by simp [hsurrogate]⟩
    have hrange : 0xe1 ≤ b.toNat ∧ b.toNat ≤ 0xef := by omega
    have hsmall : ¬ b.toNat < 0x80 ∧ ¬ b.toNat ≤ 0xdf := by omega
    simp [lead, hsmall, hshort, hsurrogate, hrange]

theorem lead_four (b : UInt8) (hlo : 0xf0 ≤ b.toNat) (hhi : b.toNat ≤ 0xf4) :
    ∃ least greatest, lead b = some ⟨3, least, greatest, b.toNat - 0xf0⟩ ∧
      least.toNat = (if b.toNat = 0xf0 then 0x90 else 0x80) ∧
      greatest.toNat = if b.toNat = 0xf4 then 0x8f else 0xbf := by
  by_cases hshort : b.toNat = 0xf0
  · exact ⟨0x90, 0xbf, by simp [lead, hshort], by simp [hshort], by simp [hshort]⟩
  by_cases hlong : b.toNat = 0xf4
  · exact ⟨0x80, 0x8f, by simp [lead, hlong], by simp [hlong], by simp [hlong]⟩
  · refine ⟨0x80, 0xbf, ?_, by simp [hshort], by simp [hlong]⟩
    have hrange : 0xf1 ≤ b.toNat ∧ b.toNat ≤ 0xf3 := by omega
    have hsmall : ¬ b.toNat < 0x80 ∧ ¬ b.toNat ≤ 0xdf ∧ ¬ b.toNat ≤ 0xef ∧ b.toNat ≠ 0xe0 ∧ b.toNat ≠ 0xed := by
      omega
    simp [lead, hsmall, hshort, hrange]

/-- A character is read from its encoding. -/
theorem completeChar_encode (c : Char) (rest : Bytes) :
    ∃ b tail l, String.utf8EncodeChar c = b :: tail ∧ lead b = some l ∧ l.owed = tail.length ∧
      completeChar [b] l.least l.greatest l.bits l.owed (tail ++ rest) = .ok c.toNat := by
  have hlead {m : Nat} (least : Nat) (hm : least + m < 256) : (UInt8.ofNat (m + least)).toNat = least + m := by
    rw [UInt8.toNat_ofNat', Nat.mod_eq_of_lt (by omega), Nat.add_comm]
  have htail (m : Nat) : (UInt8.ofNat (m % 64 + 128)).toNat = 128 + m % 64 := hlead 128 (by omega)
  have hvalid : c.toNat < 0xd800 ∨ 0xdfff < c.toNat ∧ c.toNat < 0x110000 := c.valid
  unfold String.utf8EncodeChar
  rw [show c.val.toNat = c.toNat from rfl]
  generalize c.toNat = v at hvalid
  dsimp only
  -- by the number of octets, one to four
  split
  next h1 =>
    have hb : (UInt8.ofNat v).toNat = v := by rw [UInt8.toNat_ofNat', Nat.mod_eq_of_lt (by omega)]
    refine ⟨_, [], ⟨0, 0x80, 0xbf, v⟩, rfl, ?_, rfl, completeChar_zero ..⟩
    rw [lead, hb, if_pos (by omega)]
  next h1 =>
  split
  next h2 =>
    have hb := hlead (m := v / 64 % 32) 192 (by omega)
    have hb₁ := htail v
    refine ⟨_, [_], _, rfl, lead_two _ (by omega) (by omega), rfl, completeChar_succ_ok.mpr ⟨_, rest, rfl, ?_⟩⟩
    simp only [UInt8.reduceToNat, completeChar_zero, Except.ok.injEq]
    omega
  next h2 =>
  split
  next h3 =>
    have hb := hlead (m := v / 4096 % 16) 224 (by omega)
    have hb₁ := htail (v / 64)
    have hb₂ := htail v
    obtain ⟨least, greatest, hl, hleast, hgreatest⟩ := lead_three (.ofNat (v / 4096 % 16 + 224)) (by omega) (by omega)
    refine ⟨_, [_, _], _, rfl, hl, rfl, completeChar_succ_ok.mpr ⟨_, _, rfl, ?_, ?_,
      completeChar_succ_ok.mpr ⟨_, rest, rfl, ?_⟩⟩⟩
    · dsimp only
      split at hleast <;> omega
    · dsimp only
      split at hgreatest <;> omega
    · simp only [UInt8.reduceToNat, completeChar_zero, Except.ok.injEq]
      omega
  next h3 =>
    have hb := hlead (m := v / 262144 % 8) 240 (by omega)
    have hb₁ := htail (v / 4096)
    have hb₂ := htail (v / 64)
    have hb₃ := htail v
    obtain ⟨least, greatest, hl, hleast, hgreatest⟩ := lead_four (.ofNat (v / 262144 % 8 + 240)) (by omega) (by omega)
    refine ⟨_, [_, _, _], _, rfl, hl, rfl, completeChar_succ_ok.mpr ⟨_, _, rfl, ?_, ?_,
      completeChar_succ_ok.mpr ⟨_, _, rfl, ?_, ?_, completeChar_succ_ok.mpr ⟨_, rest, rfl, ?_⟩⟩⟩⟩
    · dsimp only
      split at hleast <;> omega
    · dsimp only
      split at hgreatest <;> omega
    · simp only [UInt8.reduceToNat]
      omega
    · simp only [UInt8.reduceToNat]
      omega
    · simp only [UInt8.reduceToNat, completeChar_zero, Except.ok.injEq]
      omega

/-! ## Texts -/

theorem map_eq_ok {ε α β : Type} {f : α → β} {outcome : Except ε α} {y : β} :
    outcome.map f = .ok y ↔ ∃ a, outcome = .ok a ∧ y = f a := by
  cases outcome <;> simp [Except.map, @eq_comm _ y]

theorem decodeFrom_append (offset : Nat) (tail rest : Bytes) :
    decodeFrom offset tail.length (tail ++ rest) = decodeFrom (offset + tail.length) 0 rest := by
  induction tail generalizing offset with
  | nil => rfl
  | cons b tail ih =>
    show decodeFrom (offset + 1) tail.length (tail ++ rest) = _
    rw [ih, List.length_cons, Nat.add_assoc, Nat.add_comm 1]

theorem decodeFrom_encode (offset : Nat) (cs : List Char) :
    decodeFrom offset 0 (cs.flatMap String.utf8EncodeChar) = .ok cs := by
  induction cs generalizing offset with
  | nil => rfl
  | cons c cs ih =>
    obtain ⟨b, tail, l, hencode, hlead, howed, hcomplete⟩ :=
      completeChar_encode c (cs.flatMap String.utf8EncodeChar)
    rw [List.flatMap_cons, hencode, List.cons_append, decodeFrom, hlead]
    dsimp only
    rw [hcomplete]
    dsimp only
    rw [howed, decodeFrom_append, ih, Except.map, Char.ofNat_toNat]

/-- Reading that ended well began with a character. -/
theorem of_decodeFrom_cons {offset : Nat} {cs : List Char} (h : decodeFrom offset 0 (b :: rest) = .ok cs) :
    ∃ c cs' more offset', cs = c :: cs' ∧ b :: rest = String.utf8EncodeChar c ++ more ∧
      decodeFrom offset' 0 more = .ok cs' := by
  rw [decodeFrom] at h
  split at h
  · cases h
  next l hl =>
    split at h
    · cases h
    next n hc =>
      obtain ⟨cs', hrest, rfl⟩ := map_eq_ok.mp h
      obtain ⟨tail, more, rfl, howed, hencode⟩ := of_completeChar hl hc
      rw [← howed, decodeFrom_append] at hrest
      exact ⟨_, cs', more, _, rfl, by rw [hencode, List.cons_append], hrest⟩

theorem eq_encode_of_decodeFrom {offset : Nat} {bs : Bytes} {cs : List Char}
    (h : decodeFrom offset 0 bs = .ok cs) : bs = cs.flatMap String.utf8EncodeChar := by
  induction cs generalizing offset bs with
  | nil =>
    cases bs with
    | nil => rfl
    | cons b rest => obtain ⟨_, _, _, _, ⟨⟩, -⟩ := of_decodeFrom_cons h
  | cons c cs ih =>
    cases bs with
    | nil => cases h
    | cons b rest =>
      obtain ⟨_, _, more, _, ⟨⟩, hrest, hmore⟩ := of_decodeFrom_cons h
      rw [hrest, List.flatMap_cons, ← ih hmore]

/-- A text is read from its encoding, and from nothing else. -/
theorem decode_eq_ok {bs : Bytes} {s : String} : decode bs = .ok s ↔ encode s = bs := by
  unfold decode encode
  constructor
  · intro h
    obtain ⟨cs, hcs, rfl⟩ := map_eq_ok.mp h
    rw [String.toList_ofList, ← eq_encode_of_decodeFrom hcs]
  · rintro rfl
    rw [decodeFrom_encode, Except.map, String.ofList_toList]

end ServiceTrust.Text
