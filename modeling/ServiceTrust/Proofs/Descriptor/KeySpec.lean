/-
The keys that descriptors ask for. A key block is read as it is written: what it gives is checked and kept,
and what it leaves out is RSA and 2048. So a descriptor is accepted only with a key of a documented size, and
a new key has exactly that algorithm and size, but for one kind of block: an ECDSA key without a size is
given the default of RSA keys, which is checked by nobody, and becomes a key on the smallest curve.
-/
import ServiceTrust.Descriptor.Basic
import ServiceTrust.Proofs.Crypto.Keys
import ServiceTrust.Proofs.Schema
import ServiceTrust.Suite

namespace ServiceTrust

open Schema Schema.Checked

/-! ## What a specification stands for -/

/-- Bits of the field of a curve. -/
def Crypto.Curve.bits (c : Curve) : Nat := c.prime.log2 + 1

namespace KeySpec

/-- The sizes that are documented: RSA keys from a least size on, and curves of three sizes. -/
def IsDocumented (s : KeySpec) : Prop :=
  match s.algorithm with
  | .rsa => 2048 ≤ s.size
  | .ecdsa => s.size ∈ [256, 384, 521]

instance (s : KeySpec) : Decidable s.IsDocumented := by
  unfold IsDocumented
  split <;> infer_instance

/-- The curves that keys are made on. -/
def curves : List Crypto.Curve := [.p256, .p384, .p521]

/-- The kind of key with exactly the algorithm and the size of `s`: an RSA key of so many bits, or a key on the
curve of so many. -/
inductive Names (s : KeySpec) : KeyKind → Prop
  | rsa (h : s.algorithm = .rsa) : Names s (.rsa s.size)
  | ecdsa {c : Crypto.Curve} (h : s.algorithm = .ecdsa) (hc : c ∈ curves) (hbits : c.bits = s.size) : Names s (.ec c)

theorem curve_of_mem : ∀ size ∈ [256, 384, 521], curve size ∈ curves ∧ (curve size).bits = size := by
  decide +kernel

theorem names_of_isDocumented {s : KeySpec} (h : s.IsDocumented) : s.Names s.kind := by
  obtain ⟨_ | _, size, hleast⟩ := s
  · exact .rsa rfl
  · obtain ⟨hcurve, hbits⟩ := curve_of_mem size h
    exact .ecdsa rfl hcurve hbits

/-- A new key for a specification of a documented size has its algorithm and its size. -/
theorem names_newKey {s : KeySpec} (h : s.IsDocumented) (seed : Bytes) :
    s.Names (Suite.standard.newKey s.kind seed).kind := by
  have hkind : (Crypto.PrivateKey.generate s.kind seed).kind = s.kind := by
    refine Crypto.PrivateKey.kind_generate (fun bits he => ?_) seed
    obtain ⟨_ | _, size, hleast⟩ := s
    · cases he
      exact le_trans (by decide) (hleast rfl)
    · cases he
  show s.Names (Crypto.PrivateKey.generate s.kind seed).kind
  rw [hkind]
  exact names_of_isDocumented h

/-! ## Key blocks -/

/-- The specification that a key block writes: its algorithm, or RSA where it has none, and its size, which is
checked, or 2048. -/
structure Written (block : Json) (s : KeySpec) : Prop where
  algorithm : block.get? "algo" = none ∧ s.algorithm = .rsa ∨ block.get? "algo" = some (.text s.algorithm.name)
  size : block.get? "size" = none ∧ s.size = 2048 ∨
    ∃ v, block.get? "size" = some v ∧ int v = .valid (s.size : Int) ∧ s.IsDocumented

/-- An ECDSA key is asked for, of no size. -/
def Sizeless (block : Json) : Prop :=
  block.get? "algo" = some (.text KeyAlgorithm.ecdsa.name) ∧ block.get? "size" = none

theorem checkAlgorithm_eq_valid {j : Json} {a : KeyAlgorithm} : checkAlgorithm j = .valid a ↔ j = .text a.name := by
  rw [checkAlgorithm, oneOf_eq_valid]
  constructor
  · rintro ⟨s, rfl, h⟩
    simp only [List.lookup_cons] at h
    split at h
    next hs =>
      obtain rfl := Option.some.inj h
      rw [eq_of_beq hs]
      rfl
    next =>
      split at h
      next hs =>
        obtain rfl := Option.some.inj h
        rw [eq_of_beq hs]
        rfl
      next => cases h
  · rintro rfl
    cases a <;> exact ⟨_, rfl, by decide⟩

/-- A size passes the check if it is a documented one of the algorithm, and is kept. -/
theorem checkSize_eq_valid {a : KeyAlgorithm} {n : Int} {size : Size a} :
    checkSize a n = .valid size ↔ n = size.value ∧ (ofSize a size).IsDocumented := by
  obtain ⟨size, hleast⟩ := size
  cases a with
  | rsa =>
    simp only [checkSize, IsDocumented, ofSize, problem]
    split
    next hsmall =>
      simp only [reduceCtorEq, false_iff]
      rintro ⟨rfl, hsize⟩
      exact absurd (Int.ofNat_lt.mp hsmall) (not_lt.mpr hsize)
    next hsmall =>
      simp only [Checked.valid.injEq, Size.mk.injEq]
      have : 2048 ≤ size := hleast rfl
      have : ¬ n < (2048 : Nat) := hsmall
      omega
  | ecdsa =>
    simp only [checkSize, IsDocumented, ofSize, ecdsaSizes, problem, List.any_cons, List.any_nil, Bool.or_false,
      Bool.or_eq_true, decide_eq_true_eq, List.mem_cons, List.not_mem_nil, or_false]
    split
    · simp only [Checked.valid.injEq, Size.mk.injEq]
      omega
    · simp only [reduceCtorEq, false_iff]
      omega

theorem sizeIn_eq_valid {block : Json} {a : KeyAlgorithm} {size : Size a} : sizeIn block a = .valid size ↔
    block.get? "size" = none ∧ size.value = 2048 ∨
      ∃ v, block.get? "size" = some v ∧ int v = .valid (size.value : Int) ∧ (ofSize a size).IsDocumented := by
  have hdefault : Checked.valid (⟨2048, fun _ => by decide⟩ : Size a) = .valid size ↔ size.value = 2048 := by
    obtain ⟨value, hleast⟩ := size
    simp only [Checked.valid.injEq, Size.mk.injEq]
    exact eq_comm
  simp only [sizeIn, fieldOr_eq_valid, andThen_eq_valid, checkSize_eq_valid, hdefault]
  simp

theorem algorithmIn_eq_valid {block : Json} {a : KeyAlgorithm} :
    fieldOr "algo" (.valid .rsa) checkAlgorithm block = .valid a ↔
      block.get? "algo" = none ∧ a = .rsa ∨ block.get? "algo" = some (.text a.name) := by
  simp only [fieldOr_eq_valid, checkAlgorithm_eq_valid, Checked.valid.injEq, @eq_comm _ KeyAlgorithm.rsa]
  simp

/-- A key block is accepted exactly if it is an object that writes a specification. -/
theorem check_eq_valid {block : Json} {s : KeySpec} :
    check block = .valid s ↔ (∃ members, block = .obj members) ∧ Written block s := by
  obtain ⟨algorithm, size, hleast⟩ := s
  rw [check, object_eq_valid, ← exists_and_right]
  refine exists_congr fun members => and_congr_right fun _ => ?_
  constructor
  · intro h
    split at h
    next a ha =>
      obtain ⟨n, hn, he⟩ := map_eq_valid.mp h
      cases he
      exact ⟨algorithmIn_eq_valid.mp ha, sizeIn_eq_valid.mp hn⟩
    next problems _ =>
      obtain ⟨f, _, hf, -, -⟩ := ap_eq_valid.mp h
      cases hf
  · rintro ⟨ha, hs⟩
    rw [algorithmIn_eq_valid.mpr ha]
    exact map_eq_valid.mpr ⟨⟨size, hleast⟩, sizeIn_eq_valid.mpr hs, rfl⟩

theorem Written.isDocumented {block : Json} {s : KeySpec} (h : Written block s) (hsize : ¬ Sizeless block) :
    s.IsDocumented := by
  obtain ⟨hnone, hsize'⟩ | ⟨v, -, -, hdocumented⟩ := h.size
  · obtain ⟨algorithm, size, hleast⟩ := s
    cases algorithm with
    | rsa => exact hsize'.ge
    | ecdsa =>
      obtain ⟨-, ha⟩ | ha := h.algorithm
      · cases ha
      · exact absurd ⟨ha, hnone⟩ hsize
  · exact hdocumented

theorem Written.eq_of_sizeless {block : Json} {s : KeySpec} (h : Written block s) (hsizeless : Sizeless block) :
    s = { algorithm := .ecdsa } := by
  obtain ⟨halgo, hnone⟩ := hsizeless
  obtain ⟨algorithm, size, hleast⟩ := s
  obtain ⟨hmissing, -⟩ | hwritten := h.algorithm
  · rw [hmissing] at halgo
    cases halgo
  obtain ⟨-, rfl⟩ | ⟨v, hv, -⟩ := h.size
  · cases algorithm with
    | rsa =>
      rw [hwritten] at halgo
      simp [Json.text, KeyAlgorithm.name] at halgo
    | ecdsa => rfl
  · rw [hnone] at hv
    cases hv

end KeySpec

/-! ## Descriptors -/

namespace Descriptor

/-- The document is accepted, as the descriptor of an authority or of a service, with the key `s`. -/
inductive Asks (j : Json) : KeySpec → Prop
  | authority {d : AuthorityDescriptor} (h : checkAuthority j = .valid d) : Asks j d.subject.key
  | service {r : Request.Subject} (h : checkService j = .valid r) : Asks j r.key

theorem checkSubjectFields_key {key : KeySpec} {j : Json} {r : Request.Subject}
    (h : checkSubjectFields key j = .valid r) :
    j.get? "key" = none ∧ r.key = key ∨ ∃ block, j.get? "key" = some block ∧ KeySpec.check block = .valid r.key := by
  simp only [checkSubjectFields, ap_eq_valid, map_eq_valid] at h
  obtain ⟨_, names, ⟨_, s, ⟨_, hosts, ⟨name, -, rfl⟩, -, rfl⟩, hkey, rfl⟩, -, rfl⟩ := h
  obtain ⟨hnone, he⟩ | hblock := fieldOr_eq_valid.mp hkey
  · cases he
    exact .inl ⟨hnone, rfl⟩
  · exact .inr hblock

/-- The key that a descriptor asks for is one of two defaults, or what its key block writes. -/
theorem Asks.cases {j : Json} {s : KeySpec} (h : Asks j s) :
    j.get? "key" = none ∧ (s = {} ∨ s = authorityKey) ∨
      ∃ block, j.get? "key" = some block ∧ KeySpec.Written block s := by
  have hread {key : KeySpec} {r : Request.Subject} (h : checkSubjectFields key j = .valid r) :
      j.get? "key" = none ∧ r.key = key ∨ ∃ block, j.get? "key" = some block ∧ KeySpec.Written block r.key :=
    (checkSubjectFields_key h).imp_right fun ⟨block, hblock, hcheck⟩ =>
      ⟨block, hblock, (KeySpec.check_eq_valid.mp hcheck).2⟩
  cases h with
  | @authority d h =>
    obtain ⟨members, -, hfields⟩ := object_eq_valid.mp h
    simp only [ap_eq_valid, map_eq_valid] at hfields
    obtain ⟨_, signing, ⟨_, expiry, ⟨subject, hsubject, rfl⟩, -, rfl⟩, -, rfl⟩ := hfields
    exact (hread hsubject).imp_left fun ⟨hnone, hkey⟩ => ⟨hnone, .inr hkey⟩
  | service h =>
    obtain ⟨members, -, hfields⟩ := object_eq_valid.mp h
    exact (hread hfields).imp_left fun ⟨hnone, hkey⟩ => ⟨hnone, .inl hkey⟩

/-- A descriptor is accepted only with the key that it writes, and a new key for it has exactly that algorithm
and a documented size, unless the descriptor asks for an ECDSA key of no size. That one is accepted with the
size 2048, which no ECDSA key has, and its key is on the smallest curve. -/
theorem accepted_keys_but_sizeless {j : Json} {s : KeySpec} (h : Asks j s) :
    (∀ block, j.get? "key" = some block → KeySpec.Written block s) ∧
    ((∀ block, j.get? "key" = some block → ¬ KeySpec.Sizeless block) →
      s.IsDocumented ∧ ∀ seed, s.Names (Suite.standard.newKey s.kind seed).kind) ∧
    (∀ block, j.get? "key" = some block → KeySpec.Sizeless block →
      s = { algorithm := .ecdsa, size := 2048 } ∧ ¬ s.IsDocumented ∧
        ∀ seed, (Suite.standard.newKey s.kind seed).kind = .ec .p256) := by
  obtain ⟨hnone, hdefault⟩ | ⟨block, hblock, hwritten⟩ := h.cases
  · have hdocumented : s.IsDocumented := by
      rcases hdefault with rfl | rfl
      · decide
      · decide
    have hno {P : Json → Prop} : ∀ block, j.get? "key" = some block → P block := fun block hblock => by
      rw [hnone] at hblock
      cases hblock
    exact ⟨hno, fun _ => ⟨hdocumented, KeySpec.names_newKey hdocumented⟩, hno⟩
  · have hall {P : Json → Prop} (h : P block) : ∀ b, j.get? "key" = some b → P b := fun b hb => by
      rw [hblock] at hb
      exact Option.some.inj hb ▸ h
    refine ⟨hall hwritten, fun hsize => ?_, hall fun hsizeless => ?_⟩
    · have hdocumented := hwritten.isDocumented (hsize block hblock)
      exact ⟨hdocumented, KeySpec.names_newKey hdocumented⟩
    · obtain rfl := hwritten.eq_of_sizeless hsizeless
      exact ⟨rfl, by decide, fun seed => Crypto.PrivateKey.kind_ofSecret _ _⟩

/-- A descriptor of nothing but a name and an ECDSA key. -/
def ecdsaDescriptor (size : List (Json.Text × Json)) : Json :=
  .obj [("CN", .text "root"), ("key", .obj (("algo", .text "ecdsa") :: size))]

def ecdsaKey (size : Nat) : KeySpec := ⟨.ecdsa, size, nofun⟩

/-- A service gets the curve of the size that it writes, be it as a text. An authority that writes no size is
accepted with 2048, and its key is on the smallest curve. -/
theorem sizeless_key_accepted :
    (Asks (ecdsaDescriptor [("size", .text "384")]) (ecdsaKey 384) ∧
      ∀ seed, (ecdsaKey 384).Names (Suite.standard.newKey (ecdsaKey 384).kind seed).kind) ∧
    Asks (ecdsaDescriptor []) (ecdsaKey 2048) ∧ ¬ (ecdsaKey 2048).IsDocumented ∧
      ∀ seed, (Suite.standard.newKey (ecdsaKey 2048).kind seed).kind = .ec .p256 := by
  have hsized : Asks (ecdsaDescriptor [("size", .text "384")]) (ecdsaKey 384) :=
    .service (r := ⟨"root", [], ecdsaKey 384, []⟩) (by rfl)
  have hsizeless : Asks (ecdsaDescriptor []) (ecdsaKey 2048) :=
    .authority (d := ⟨⟨"root", [], ecdsaKey 2048, []⟩, none, {}⟩) (by rfl)
  obtain ⟨-, hnames, -⟩ := accepted_keys_but_sizeless hsized
  obtain ⟨-, -, hfallback⟩ := accepted_keys_but_sizeless hsizeless
  obtain ⟨-, hundocumented, hkind⟩ := hfallback _ rfl ⟨rfl, rfl⟩
  refine ⟨⟨hsized, (hnames ?_).2⟩, hsizeless, hundocumented, hkind⟩
  rintro block hblock ⟨-, hsize⟩
  obtain rfl := Option.some.inj hblock
  cases hsize

end Descriptor

end ServiceTrust
