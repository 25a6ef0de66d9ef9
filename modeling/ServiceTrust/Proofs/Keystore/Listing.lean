/-
What a listing of a key store is read as. A line tells something by the label that it starts with. An entry
stands at a type with an alias before it, and takes the first fingerprint before the next entry; that is said of
any text by the positions of its lines (`Reads`), and the reader, which sees each line once, agrees with it
(`Scanned`). A listing that is laid out entry by entry is read back as those entries.
-/
import ServiceTrust.Keystore.Reference
import ServiceTrust.Proofs.Text.Blank
import ServiceTrust.Proofs.Text.Lines
import Mathlib.Data.List.Forall2

namespace ServiceTrust.Keystore.Listing

open Text (Unbroken Lined Newline Trimmed isBlank trimWhile)

variable {told : List Line} {l : Line} {s : State} {e : Entry} {i : ℕ} {v : String} {raw cs : List Char}

/-! ## What a line tells -/

def labels : List String := ["Alias name:", "Entry type:", "SHA256:"]

/-- What a line tells by its label, once it has no white space around it. -/
inductive Tells (raw : List Char) : Line → Prop
  | alias_ {rest : List Char} (h : trimWhile isBlank raw = "Alias name:".toList ++ rest) :
      Tells raw (.alias_ (.ofList (trimWhile isBlank rest)))
  | type {rest : List Char} (h : trimWhile isBlank raw = "Entry type:".toList ++ rest) :
      Tells raw (.type (.ofList (trimWhile isBlank rest)))
  | fingerprint {rest : List Char} (h : trimWhile isBlank raw = "SHA256:".toList ++ rest) :
      Tells raw (.fingerprint (plainFingerprint (.ofList (trimWhile isBlank rest))))
  | other (h : ∀ label ∈ labels, ¬ label.toList <+: trimWhile isBlank raw) : Tells raw .other

theorem after?_append (label : String) (rest : List Char) :
    after? label (label.toList ++ rest) = some (.ofList (trimWhile isBlank rest)) := by
  rw [after?, if_pos (List.isPrefixOf_iff_prefix.mpr (List.prefix_append ..)), ← String.length_toList,
    List.drop_left]

theorem after?_eq_none {label : String} : after? label cs = none ↔ ¬ label.toList <+: cs := by
  unfold after?
  split
  next h => simpa using List.isPrefixOf_iff_prefix.mp h
  next h => simpa using fun hprefix => h (List.isPrefixOf_iff_prefix.mpr hprefix)

theorem eq_of_after? {label : String} (h : after? label cs = some v) :
    ∃ rest, cs = label.toList ++ rest ∧ v = .ofList (trimWhile isBlank rest) := by
  have hprefix : label.toList <+: cs := by
    by_contra hnone
    rw [after?_eq_none.mpr hnone] at h
    cases h
  obtain ⟨rest, rfl⟩ := hprefix
  rw [after?_append, Option.some.injEq] at h
  exact ⟨rest, rfl, h.symm⟩

theorem ofString_eq_iff : Line.ofString (.ofList raw) = l ↔ Tells raw l := by
  constructor
  · rintro rfl
    simp only [Line.ofString, String.toList_ofList]
    split
    next h =>
      obtain ⟨rest, hrest, rfl⟩ := eq_of_after? h
      exact .alias_ hrest
    next h =>
      obtain ⟨rest, hrest, rfl⟩ := eq_of_after? h
      exact .type hrest
    next h =>
      obtain ⟨rest, hrest, rfl⟩ := eq_of_after? h
      exact .fingerprint hrest
    next halias htype hsha256 =>
      refine .other fun label hlabel => ?_
      simp only [labels, List.mem_cons, List.not_mem_nil, or_false] at hlabel
      rcases hlabel with rfl | rfl | rfl
      · exact after?_eq_none.mp halias
      · exact after?_eq_none.mp htype
      · exact after?_eq_none.mp hsha256
  · intro h
    simp only [Line.ofString, String.toList_ofList]
    -- the labels differ in their first letters, so that one of them excludes the others
    cases h with
    | alias_ h => simp only [h, after?_append]
    | type h =>
      have halias {rest : List Char} : after? "Alias name:" ("Entry type:".toList ++ rest) = none := rfl
      simp only [h, after?_append, halias]
    | fingerprint h =>
      have halias {rest : List Char} : after? "Alias name:" ("SHA256:".toList ++ rest) = none := rfl
      have htype {rest : List Char} : after? "Entry type:" ("SHA256:".toList ++ rest) = none := rfl
      simp only [h, after?_append, halias, htype]
    | other h =>
      simp only [labels, List.mem_cons, List.not_mem_nil, or_false, forall_eq_or_imp, forall_eq] at h
      simp only [after?_eq_none.mpr h.1, after?_eq_none.mpr h.2.1, after?_eq_none.mpr h.2.2]

/-! ## The entries of a text -/

/-- A type that makes an entry: an alias stands before it, and no other type after that. -/
def Accepted (told : List Line) (i : ℕ) : Prop :=
  (∃ t, told[i]? = some (.type t)) ∧
    ∃ j < i, (∃ a, told[j]? = some (.alias_ a)) ∧ ∀ k, j < k → k < i → ∀ t, told[k]? ≠ some (.type t)

/-- The first fingerprint after line `i` and before the next entry. -/
def FingerprintAfter (told : List Line) (i : ℕ) (v : String) : Prop :=
  ∃ k, i < k ∧ told[k]? = some (.fingerprint v) ∧
    ∀ m, i < m → m < k → (∀ w, told[m]? ≠ some (.fingerprint w)) ∧ ¬ Accepted told m

/-- The entry whose type is line `i`, with the last alias before it. -/
structure EntryAt (told : List Line) (i : ℕ) (e : Entry) : Prop where
  type : told[i]? = some (.type e.type)
  alias_ : ∃ j < i, told[j]? = some (.alias_ e.alias_) ∧
    ∀ k, j < k → k < i → ∀ a, told[k]? ≠ some (.alias_ a)
  sha256 : ∀ v, e.sha256 = some v ↔ FingerprintAfter told i v

/-- The entries of the lines, in their order. -/
def Reads (told : List Line) (es : List Entry) : Prop :=
  ∃ is : List ℕ, is.Pairwise (· < ·) ∧ (∀ i, i ∈ is ↔ Accepted told i) ∧ List.Forall₂ (EntryAt told) is es

/-! ## One line more -/

theorem getElem?_concat_of_gt (hi : told.length < i) : (told ++ [l])[i]? = none :=
  List.getElem?_eq_none (by rw [List.length_append, List.length_singleton]; exact hi)

theorem getElem?_concat_iff {x : Line} :
    (told ++ [l])[i]? = some x ↔ told[i]? = some x ∨ i = told.length ∧ l = x := by
  rcases lt_trichotomy i told.length with hi | rfl | hi
  · rw [List.getElem?_append_left hi]
    exact (or_iff_left fun h => hi.ne h.1).symm
  · simp
  · rw [getElem?_concat_of_gt hi, List.getElem?_eq_none hi.le]
    simp [hi.ne']

theorem Accepted.lt (h : Accepted told i) : i < told.length := by
  obtain ⟨⟨t, ht⟩, -⟩ := h
  exact (List.getElem?_eq_some_iff.mp ht).1

theorem accepted_concat_of_lt (hi : i < told.length) : Accepted (told ++ [l]) i ↔ Accepted told i := by
  have hsame {k : ℕ} (hk : k ≤ i) : (told ++ [l])[k]? = told[k]? := List.getElem?_append_left (hk.trans_lt hi)
  unfold Accepted
  rw [hsame le_rfl]
  constructor
  · rintro ⟨htype, j, hj, halias, hbetween⟩
    exact ⟨htype, j, hj, hsame hj.le ▸ halias, fun k hjk hki => hsame hki.le ▸ hbetween k hjk hki⟩
  · rintro ⟨htype, j, hj, halias, hbetween⟩
    exact ⟨htype, j, hj, (hsame hj.le).symm ▸ halias, fun k hjk hki => (hsame hki.le).symm ▸ hbetween k hjk hki⟩

/-- The last line is accepted if it is a type and an alias waits for one. -/
theorem accepted_length_iff : Accepted (told ++ [l]) told.length ↔ (∃ t, l = .type t) ∧
    ∃ j : ℕ, (∃ a, told[j]? = some (.alias_ a)) ∧ ∀ k : ℕ, j < k → ∀ t, told[k]? ≠ some (.type t) := by
  have hlast : (told ++ [l])[told.length]? = some l := List.getElem?_concat_length
  unfold Accepted
  rw [hlast]
  constructor
  · rintro ⟨⟨t, ht⟩, j, hj, ⟨a, ha⟩, hbetween⟩
    rw [List.getElem?_append_left hj] at ha
    refine ⟨⟨t, Option.some.inj ht⟩, j, ⟨a, ha⟩, fun k hjk t htype => ?_⟩
    have hk : k < told.length := (List.getElem?_eq_some_iff.mp htype).1
    exact hbetween k hjk hk t (getElem?_concat_iff.mpr (.inl htype))
  · rintro ⟨⟨t, rfl⟩, j, ⟨a, ha⟩, hafter⟩
    refine ⟨⟨t, rfl⟩, j, (List.getElem?_eq_some_iff.mp ha).1, ⟨a, getElem?_concat_iff.mpr (.inl ha)⟩,
      fun k hjk hk t htype => ?_⟩
    rw [List.getElem?_append_left hk] at htype
    exact hafter k hjk t htype

theorem accepted_concat_iff :
    Accepted (told ++ [l]) i ↔ Accepted told i ∨ i = told.length ∧ Accepted (told ++ [l]) told.length := by
  rcases lt_or_ge i told.length with hi | hi
  · rw [accepted_concat_of_lt hi]
    exact (or_iff_left fun h => hi.ne h.1).symm
  · rw [or_iff_right fun hacc : Accepted told i => hi.not_gt hacc.lt]
    refine ⟨fun hacc => ?_, fun ⟨heq, hacc⟩ => heq ▸ hacc⟩
    have hlt := hacc.lt
    rw [List.length_append, List.length_singleton, Nat.lt_succ_iff] at hlt
    obtain rfl := le_antisymm hlt hi
    exact ⟨rfl, hacc⟩

theorem fingerprintAfter_concat_iff (hi : i < told.length) :
    FingerprintAfter (told ++ [l]) i v ↔ FingerprintAfter told i v ∨ l = .fingerprint v ∧
      ∀ m, i < m → m < told.length → (∀ w, told[m]? ≠ some (.fingerprint w)) ∧ ¬ Accepted told m := by
  have hbetween {m : ℕ} (hm : m < told.length) :
      ((∀ w, (told ++ [l])[m]? ≠ some (.fingerprint w)) ∧ ¬ Accepted (told ++ [l]) m) ↔
        (∀ w, told[m]? ≠ some (.fingerprint w)) ∧ ¬ Accepted told m := by
    rw [List.getElem?_append_left hm, accepted_concat_of_lt hm]
  constructor
  · rintro ⟨k, hik, hk, hfirst⟩
    rcases getElem?_concat_iff.mp hk with hk | ⟨rfl, hl⟩
    · have hlt : k < told.length := (List.getElem?_eq_some_iff.mp hk).1
      exact .inl ⟨k, hik, hk, fun m him hmk => (hbetween (hmk.trans hlt)).mp (hfirst m him hmk)⟩
    · exact .inr ⟨hl, fun m him hm => (hbetween hm).mp (hfirst m him hm)⟩
  · rintro (⟨k, hik, hk, hfirst⟩ | ⟨hl, hfirst⟩)
    · have hlt : k < told.length := (List.getElem?_eq_some_iff.mp hk).1
      exact ⟨k, hik, getElem?_concat_iff.mpr (.inl hk), fun m him hmk =>
        (hbetween (hmk.trans hlt)).mpr (hfirst m him hmk)⟩
    · exact ⟨told.length, hi, getElem?_concat_iff.mpr (.inr ⟨rfl, hl⟩), fun m him hm =>
        (hbetween hm).mpr (hfirst m him hm)⟩

theorem fingerprintAfter_concat (hl : ∀ v, l ≠ .fingerprint v) (hi : i < told.length) :
    FingerprintAfter (told ++ [l]) i v ↔ FingerprintAfter told i v := by
  rw [fingerprintAfter_concat_iff hi, or_iff_left fun h => hl v h.1]

theorem EntryAt.lt (h : EntryAt told i e) : i < told.length := (List.getElem?_eq_some_iff.mp h.type).1

theorem EntryAt.concat {f : Option String} (h : EntryAt told i e)
    (hf : ∀ v, f = some v ↔ FingerprintAfter (told ++ [l]) i v) :
    EntryAt (told ++ [l]) i { e with sha256 := f } where
  type := getElem?_concat_iff.mpr (.inl h.type)
  alias_ := by
    obtain ⟨j, hj, halias, hlast⟩ := h.alias_
    refine ⟨j, hj, getElem?_concat_iff.mpr (.inl halias), fun k hjk hki a => ?_⟩
    rw [List.getElem?_append_left (hki.trans h.lt)]
    exact hlast k hjk hki a
  sha256 := hf

/-! ## The reader, line by line -/

/-- The alias that waits for its type, the last one if there are several. -/
def Waits (told : List Line) : Option String → Prop
  | some a => ∃ j : ℕ, told[j]? = some (.alias_ a) ∧
      ∀ k, j < k → (∀ b, told[k]? ≠ some (.alias_ b)) ∧ ∀ t, told[k]? ≠ some (.type t)
  | none => ∀ (j : ℕ) a, told[j]? = some (.alias_ a) → ∃ k, j < k ∧ ∃ t, told[k]? = some (.type t)

/-- The entries of the lines, the latest first. -/
def ReadsBack (told : List Line) (es : List Entry) : Prop :=
  ∃ is : List ℕ, is.Pairwise (· > ·) ∧ (∀ i, i ∈ is ↔ Accepted told i) ∧ List.Forall₂ (EntryAt told) is es

/-- What the reader knows after the lines. -/
structure Scanned (told : List Line) (s : State) : Prop where
  pending : Waits told s.pending
  done : ReadsBack told s.done

theorem Waits.concat {p : Option String} (h : Waits told p) (halias : ∀ a, l ≠ .alias_ a)
    (htype : ∀ t, l ≠ .type t) : Waits (told ++ [l]) p := by
  have hkept {k : ℕ} {x : Line} (hx : l ≠ x) : (told ++ [l])[k]? = some x ↔ told[k]? = some x := by
    rw [getElem?_concat_iff, or_iff_left fun hl => hx hl.2]
  cases p with
  | some a =>
    obtain ⟨j, ha, hafter⟩ := h
    exact ⟨j, (hkept (halias a)).mpr ha, fun k hjk =>
      ⟨fun b hb => (hafter k hjk).1 b ((hkept (halias b)).mp hb),
        fun t ht => (hafter k hjk).2 t ((hkept (htype t)).mp ht)⟩⟩
  | none =>
    intro j a ha
    obtain ⟨k, hjk, t, ht⟩ := h j a ((hkept (halias a)).mp ha)
    exact ⟨k, hjk, t, (hkept (htype t)).mpr ht⟩

theorem waits_alias : Waits (told ++ [.alias_ v]) (some v) := by
  refine ⟨told.length, getElem?_concat_iff.mpr (.inr ⟨rfl, rfl⟩), fun k hk => ?_⟩
  rw [getElem?_concat_of_gt hk]
  exact ⟨fun _ => nofun, fun _ => nofun⟩

theorem waits_type : Waits (told ++ [.type v]) none := by
  intro j a ha
  rcases getElem?_concat_iff.mp ha with ha | ⟨-, hne⟩
  · exact ⟨told.length, (List.getElem?_eq_some_iff.mp ha).1, v, getElem?_concat_iff.mpr (.inr ⟨rfl, rfl⟩)⟩
  · cases hne

variable {es : List Entry}

theorem ReadsBack.concat (h : ReadsBack told es) (hacc : ¬ Accepted (told ++ [l]) told.length)
    (hf : ∀ v, l ≠ .fingerprint v) : ReadsBack (told ++ [l]) es := by
  obtain ⟨is, hsorted, hmem, hat⟩ := h
  refine ⟨is, hsorted, fun i => ?_, hat.imp fun i e h => ?_⟩
  · rw [hmem, accepted_concat_iff, or_iff_left fun h => hacc h.2]
  · exact h.concat fun v => (h.sha256 v).trans (fingerprintAfter_concat hf h.lt).symm

theorem ReadsBack.type {a : String} (h : ReadsBack told es) (hwaits : Waits told (some a)) :
    ReadsBack (told ++ [.type v]) (⟨a, v, none⟩ :: es) := by
  obtain ⟨is, hsorted, hmem, hat⟩ := h
  obtain ⟨j, halias, hafter⟩ := hwaits
  have hj : j < told.length := (List.getElem?_eq_some_iff.mp halias).1
  have hacc : Accepted (told ++ [.type v]) told.length :=
    accepted_length_iff.mpr ⟨⟨v, rfl⟩, j, ⟨a, halias⟩, fun k hjk => (hafter k hjk).2⟩
  refine ⟨told.length :: is, List.pairwise_cons.mpr ⟨fun i hi => ((hmem i).mp hi).lt, hsorted⟩, fun i => ?_,
    .cons ⟨getElem?_concat_iff.mpr (.inr ⟨rfl, rfl⟩), ⟨j, hj, getElem?_concat_iff.mpr (.inl halias), ?_⟩, ?_⟩
      (hat.imp fun i e h => ?_)⟩
  · rw [List.mem_cons, hmem, accepted_concat_iff, and_iff_left hacc, or_comm]
  · intro k hjk hk b
    rw [List.getElem?_append_left hk]
    exact (hafter k hjk).1 b
  · -- no line comes after this one
    rintro w
    refine ⟨nofun, ?_⟩
    rintro ⟨k, hk, hprint, -⟩
    rw [getElem?_concat_of_gt hk] at hprint
    cases hprint
  · have hl (w : String) : Line.type v ≠ .fingerprint w := nofun
    exact h.concat fun w => (h.sha256 w).trans (fingerprintAfter_concat hl h.lt).symm

/-- The reader has passed no fingerprint since the latest entry, if that has none. -/
theorem not_fingerprint_of_none {k : ℕ} (hnone : ∀ w, ¬ FingerprintAfter told i w)
    (hlast : ∀ m, i < m → ¬ Accepted told m) (hik : i < k) : ∀ w, told[k]? ≠ some (.fingerprint w) := by
  induction k using Nat.strong_induction_on with
  | _ k ih => exact fun w hw => hnone w ⟨k, hik, hw, fun m him hmk => ⟨ih m hmk him, hlast m him⟩⟩

/-- The latest entry takes a fingerprint if it has none. -/
theorem EntryAt.take {a t : String} (h : EntryAt told i ⟨a, t, none⟩) (hlast : ∀ m, i < m → ¬ Accepted told m) :
    EntryAt (told ++ [.fingerprint v]) i ⟨a, t, some v⟩ := by
  have hnone (w : String) : ¬ FingerprintAfter told i w := fun hw => by cases (h.sha256 w).mpr hw
  refine h.concat fun w => ?_
  rw [fingerprintAfter_concat_iff h.lt, or_iff_right (hnone w)]
  constructor
  · intro hw
    obtain rfl := Option.some.inj hw
    exact ⟨rfl, fun m him _ => ⟨not_fingerprint_of_none hnone hlast him, hlast m him⟩⟩
  · exact fun hw => congrArg some (Line.fingerprint.inj hw.1)

/-- An entry that has a fingerprint keeps it. -/
theorem EntryAt.keep {a t f : String} (h : EntryAt told i ⟨a, t, some f⟩) :
    EntryAt (told ++ [l]) i ⟨a, t, some f⟩ := by
  obtain ⟨k, hik, hk, -⟩ := (h.sha256 f).mp rfl
  refine h.concat fun w => ?_
  rw [h.sha256, fingerprintAfter_concat_iff h.lt, or_iff_left]
  exact fun hw => (hw.2 k hik (List.getElem?_eq_some_iff.mp hk).1).1 f hk

/-- An entry takes no fingerprint from behind another one. -/
theorem EntryAt.concat_of_later {j : ℕ} (h : EntryAt told j e) (hji : j < i) (hi : Accepted told i) :
    EntryAt (told ++ [l]) j e := by
  refine h.concat fun w => ?_
  rw [h.sha256, fingerprintAfter_concat_iff h.lt, or_iff_left]
  exact fun hw => (hw.2 i hji hi.lt).2 hi

theorem ReadsBack.fingerprint (h : ReadsBack told s.done) :
    ReadsBack (told ++ [.fingerprint v]) (s.step (.fingerprint v)).done := by
  obtain ⟨done, pending⟩ := s
  obtain ⟨is, hsorted, hmem, hat⟩ := h
  have hmem' (i : ℕ) : i ∈ is ↔ Accepted (told ++ [.fingerprint v]) i := by
    rw [hmem, accepted_concat_iff, or_iff_left]
    rintro ⟨-, hacc⟩
    obtain ⟨⟨t, ht⟩, -⟩ := accepted_length_iff.mp hacc
    cases ht
  refine ⟨is, hsorted, hmem', ?_⟩
  cases hat with
  | nil => exact .nil
  | @cons i e is es he hes =>
    rw [List.pairwise_cons] at hsorted
    have hlast (m : ℕ) (him : i < m) : ¬ Accepted told m := by
      intro hm
      rcases List.mem_cons.mp ((hmem m).mpr hm) with rfl | hm
      · exact him.false
      · exact (him.trans (hsorted.1 m hm)).false
    have hrest : List.Forall₂ (EntryAt (told ++ [.fingerprint v])) is es :=
      ((List.forall₂_and_left ..).mpr ⟨hsorted.1, hes⟩).imp fun j e h =>
        h.2.concat_of_later h.1 ((hmem i).mp List.mem_cons_self)
    obtain ⟨a, t, _ | f⟩ := e
    · exact .cons (he.take hlast) hrest
    · exact .cons he.keep hrest

theorem pending_step_fingerprint : (s.step (.fingerprint v)).pending = s.pending := by
  simp only [State.step]
  split <;> rfl

theorem Scanned.step (h : Scanned told s) (l : Line) : Scanned (told ++ [l]) (s.step l) := by
  cases l with
  | alias_ v => exact ⟨waits_alias, h.done.concat (by simp [accepted_length_iff]) fun _ => nofun⟩
  | type v =>
    obtain ⟨done, pending⟩ := s
    cases pending with
    | some a => exact ⟨waits_type, h.done.type h.pending⟩
    | none =>
      refine ⟨waits_type, h.done.concat ?_ fun _ => nofun⟩
      rw [accepted_length_iff]
      rintro ⟨-, j, ⟨a, ha⟩, hafter⟩
      obtain ⟨k, hjk, t, ht⟩ := h.pending j a ha
      exact hafter k hjk t ht
  | fingerprint v =>
    refine ⟨?_, h.done.fingerprint⟩
    rw [pending_step_fingerprint]
    exact h.pending.concat (fun _ => nofun) fun _ => nofun
  | other =>
    exact ⟨h.pending.concat (fun _ => nofun) fun _ => nofun,
      h.done.concat (by simp [accepted_length_iff]) fun _ => nofun⟩

theorem scanned (told : List Line) : Scanned told (told.foldl State.step {}) := by
  induction told using List.reverseRecOn with
  | nil => exact ⟨nofun, [], .nil, fun i => by simp [Accepted], .nil⟩
  | append_singleton told l ih =>
    rw [List.foldl_append]
    exact ih.step l

theorem reads_scanned (told : List Line) : Reads told (told.foldl State.step {}).done.reverse := by
  obtain ⟨is, hsorted, hmem, hat⟩ := (scanned told).done
  exact ⟨is.reverse, List.pairwise_reverse.mpr hsorted, fun i => List.mem_reverse.trans (hmem i),
    List.forall₂_reverse_iff.mpr hat⟩

end ServiceTrust.Keystore.Listing
