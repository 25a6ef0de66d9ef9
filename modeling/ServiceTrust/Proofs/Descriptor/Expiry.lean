/-
Expiry texts and the validity that descriptors give. A text is an expiry exactly if it is a run of digits and
the letter of a unit, with nothing but white space around them, and the run is not too long (`Meaning`). A
descriptor keeps the texts that were accepted and reads them anew when it is asked for a validity; what it then
gives is said by the document alone (`Lasting`).
-/
import ServiceTrust.Descriptor.Basic
import ServiceTrust.Proofs.Schema
import ServiceTrust.Proofs.Text.Blank
import Mathlib.Data.Nat.Digits.Defs

namespace ServiceTrust

open Text

namespace Expiry

/-! ## The grammar -/

def Unit.letter : Unit → Char
  | hours => 'h'
  | days => 'd'

/-- The text is digits, of any scripts, and the letter of a unit, and nothing but white space stands around
them. -/
structure Writes (s : String) (digits : List Char) (unit : Unit) : Prop where
  around : Around isBlank (digits ++ [unit.letter]) s.toList
  nonempty : digits ≠ []
  allDigits : ∀ c ∈ digits, isDigit c = true

/-- The number that digits write, the most significant first. -/
def amount (digits : List Char) : Nat := Nat.ofDigits 10 (digits.filterMap digit?).reverse

/-- What an expiry text comes to: the days of its amount, at least one, where it writes one with no more than
4300 digits. -/
inductive Meaning (s : String) : Except Fault Nat → Prop
  | days {digits : List Char} {unit : Unit} (h : Writes s digits unit) (hlength : digits.length ≤ 4300) :
    Meaning s (.ok (unit.wholeDays (amount digits)))
  | tooLong {digits : List Char} {unit : Unit} (h : Writes s digits unit) (hlength : 4300 < digits.length) :
    Meaning s (.error (.tooManyDigits digits.length))
  | unsupported (h : ∀ digits unit, ¬ Writes s digits unit) : Meaning s (.error (.unsupported s))

/-! ## Reading -/

theorem unit?_eq_some {c : Char} {unit : Unit} : unit? c = some unit ↔ c = unit.letter := by
  unfold unit?
  split
  · cases unit <;> simp [Unit.letter]
  · cases unit <;> simp [Unit.letter]
  next hh hd =>
    cases unit
    · simpa [Unit.letter] using hh
    · simpa [Unit.letter] using hd

theorem digitsValue_eq_amount (digits : List Char) : digitsValue digits = amount digits := by
  unfold digitsValue amount positional
  rw [Nat.ofDigits_eq_foldr, List.foldr_reverse]
  simp [Nat.add_comm]

/-- No digit of any script is white space. -/
theorem isBlank_of_isDigit {c : Char} (h : isDigit c = true) : isBlank c = false := by
  have hall : ∀ first ∈ zeros, ∀ i < 10, isBlank (Char.ofNat (first + i)) = false := by decide
  unfold isDigit digit? at h
  rw [Option.isSome_map] at h
  obtain ⟨first, hfind⟩ := Option.isSome_iff_exists.mp h
  have hrange := List.find?_some hfind
  simp only [Bool.and_eq_true, decide_eq_true_eq] at hrange
  have hblank := hall first (List.mem_of_find?_eq_some hfind) (c.toNat - first) (by omega)
  rwa [Nat.add_sub_cancel' hrange.1, Char.ofNat_toNat] at hblank

theorem isDigit_letter (unit : Unit) : isDigit unit.letter = false := by
  cases unit <;> decide

theorem isBlank_letter (unit : Unit) : isBlank unit.letter = false := by
  cases unit <;> decide

theorem split?_eq_some {cs digits : List Char} {unit : Unit} :
    split? cs = some (digits, unit) ↔
      cs = digits ++ [unit.letter] ∧ digits ≠ [] ∧ ∀ c ∈ digits, isDigit c = true := by
  constructor
  · intro h
    have hparts := List.prefix_iff_eq_append.mp (List.takeWhile_prefix (l := cs) isDigit)
    unfold split? at h
    dsimp only at h
    split at h
    next first rest c hdigits hrest =>
      obtain ⟨unit', hunit, he⟩ := Option.map_eq_some_iff.mp h
      obtain ⟨rfl, rfl⟩ := Prod.mk.inj he
      refine ⟨?_, by simp [hdigits], fun c hc => List.mem_takeWhile_imp hc⟩
      rw [← unit?_eq_some.mp hunit, ← hrest, hparts]
    next => cases h
  · rintro ⟨rfl, hne, hdigits⟩
    have hrun : (digits ++ [unit.letter]).takeWhile isDigit = digits := by
      rw [List.takeWhile_append_of_pos hdigits]
      simp [isDigit_letter unit]
    obtain ⟨first, rest, rfl⟩ := List.exists_cons_of_ne_nil hne
    unfold split?
    rw [hrun]
    dsimp only
    rw [List.drop_left]
    dsimp only
    rw [unit?_eq_some.mpr rfl, Option.map_some]

/-- Digits and a unit neither begin nor end with white space. -/
theorem trimmed_of_digits {digits : List Char} (hne : digits ≠ []) (hdigits : ∀ c ∈ digits, isDigit c = true)
    (unit : Unit) : Trimmed isBlank (digits ++ [unit.letter]) where
  head c hc := by
    obtain ⟨first, rest, rfl⟩ := List.exists_cons_of_ne_nil hne
    obtain rfl := Option.some.inj hc
    exact isBlank_of_isDigit (hdigits first (List.mem_cons_self ..))
  last c hc := by
    rw [List.getLast?_concat, Option.some.injEq] at hc
    rw [← hc, isBlank_letter]

theorem split?_trimWhile {s : String} {digits : List Char} {unit : Unit} :
    split? (trimWhile isBlank s.toList) = some (digits, unit) ↔ Writes s digits unit := by
  rw [split?_eq_some, trimWhile_eq_iff]
  constructor
  · rintro ⟨⟨-, haround⟩, hne, hdigits⟩
    exact ⟨haround, hne, hdigits⟩
  · rintro ⟨haround, hne, hdigits⟩
    exact ⟨⟨trimmed_of_digits hne hdigits unit, haround⟩, hne, hdigits⟩

theorem meaning_parse (s : String) : Meaning s (parse s) := by
  unfold parse
  split
  next hnone =>
    refine .unsupported fun digits unit h => ?_
    rw [split?_trimWhile.mpr h] at hnone
    cases hnone
  next digits unit hsome =>
    have hwrites := split?_trimWhile.mp hsome
    split
    next hlong => exact .tooLong hwrites hlong
    next hlength =>
      rw [digitsValue_eq_amount]
      exact .days hwrites (Nat.le_of_not_lt hlength)

theorem parse_of_meaning {s : String} {outcome : Except Fault Nat} (h : Meaning s outcome) : parse s = outcome := by
  unfold parse
  cases h with
  | days h hlength =>
    rw [split?_trimWhile.mpr h]
    dsimp only
    rw [if_neg (show ¬ maxDigits < _ from Nat.not_lt.mpr hlength), digitsValue_eq_amount]
  | tooLong h hlong =>
    rw [split?_trimWhile.mpr h]
    exact if_pos hlong
  | unsupported hnone =>
    have hsplit : split? (trimWhile isBlank s.toList) = none :=
      Option.eq_none_iff_forall_ne_some.mpr fun reading h => hnone reading.1 reading.2 (split?_trimWhile.mp h)
    rw [hsplit]

/-- Parsing gives what a text means, and a text means nothing else. -/
theorem parse_eq_iff {s : String} {outcome : Except Fault Nat} : parse s = outcome ↔ Meaning s outcome :=
  ⟨fun h => h ▸ meaning_parse s, parse_of_meaning⟩

/-! ## Days -/

theorem Unit.wholeDays_pos (unit : Unit) (n : Nat) : 1 ≤ unit.wholeDays n := by
  cases unit <;> exact Nat.le_max_left ..

theorem Unit.wholeDays_mono (unit : Unit) {n n' : Nat} (h : n ≤ n') : unit.wholeDays n ≤ unit.wholeDays n' := by
  cases unit with
  | hours => exact max_le_max_left 1 (Nat.div_le_div_right h)
  | days => exact max_le_max_left 1 h

theorem Unit.wholeDays_hours (n : Nat) : Unit.hours.wholeDays (24 * n) = Unit.days.wholeDays n := by
  unfold Unit.wholeDays
  rw [Nat.mul_div_cancel_left n (by decide)]

theorem one_le_of_parse {s : String} {n : Nat} (h : parse s = .ok n) : 1 ≤ n := by
  cases parse_eq_iff.mp h with
  | @days digits unit => exact unit.wholeDays_pos _

/-- A text that is an expiry stands for the days of the amount that it writes. -/
theorem Writes.days {s : String} {digits : List Char} {unit : Unit} {n : Nat} (hwrites : Writes s digits unit)
    (h : parse s = .ok n) : n = unit.wholeDays (amount digits) := by
  cases parse_eq_iff.mp h with
  | days hwrites' =>
    have hsame := (split?_trimWhile.mpr hwrites').symm.trans (split?_trimWhile.mpr hwrites)
    obtain ⟨rfl, rfl⟩ := Prod.mk.inj (Option.some.inj hsame)
    rfl

theorem ofText_ok {s : String} {e : Expiry} (h : ofText s = .ok e) : e.text = s := by
  unfold ofText at h
  split at h
  · rw [← Except.ok.inj h]
  · cases h

/-- The days of the first text that is there, read anew. -/
def daysOf (texts : List (Option String)) (otherwise : Nat) : Except Fault Nat :=
  match texts.findSome? id with
  | some s => parse s
  | none => .ok otherwise

theorem one_le_daysOf {texts : List (Option String)} {otherwise n : Nat} (hsome : 1 ≤ otherwise)
    (h : daysOf texts otherwise = .ok n) : 1 ≤ n := by
  unfold daysOf at h
  split at h
  · exact one_le_of_parse h
  · rwa [← Except.ok.inj h]

end Expiry

/-! ## What documents give -/

/-- The text that is reached from a document by the names of members. -/
def Json.textAt? : List String → Json → Option String
  | [], .str (.unicode s) => some s
  | [], _ => none
  | name :: names, j => (j.get? name).bind (textAt? names)

namespace Descriptor

open Schema Schema.Checked

/-- Under the names of a field that may be missing there is what its value has under the rest of them. -/
theorem textAt?_field {α : Type} {name : String} {absent : Checked α} {check : Check α} {j : Json} {a : α}
    {names : List String} (text : α → Option String) (h : fieldOr name absent check j = .valid a)
    (habsent : absent = .valid a → text a = none) (hvalue : ∀ v, check v = .valid a → v.textAt? names = text a) :
    j.textAt? (name :: names) = text a := by
  rw [Json.textAt?]
  obtain ⟨hnone, he⟩ | ⟨v, hv, he⟩ := fieldOr_eq_valid.mp h
  · rw [hnone, habsent he, Option.bind_none]
  · rw [hv, Option.bind_some, hvalue v he]

theorem checkExpiry_valid {j : Json} {e : Expiry} (h : checkExpiry j = .valid e) : j = .text e.text := by
  obtain ⟨s, hs, he⟩ := andThen_eq_valid.mp h
  rw [string_eq_valid.mp hs]
  split at he
  next e' hof =>
    cases he
    rw [Expiry.ofText_ok hof]
  next => cases he

/-- An expiry is what is written under its name. -/
theorem expiryField_valid {j : Json} {expiry : Option Expiry}
    (h : fieldOr "expiry" (.valid none) (nullable checkExpiry) j = .valid expiry) :
    j.textAt? ["expiry"] = expiry.map (·.text) := by
  refine textAt?_field (Option.map Expiry.text) h (fun he => ?_) fun v hv => ?_
  · cases he
    rfl
  · obtain ⟨rfl, rfl⟩ | ⟨e, hcheck, rfl⟩ := nullable_valid hv
    · rfl
    · rw [checkExpiry_valid hcheck]
      rfl

theorem checkSigningProfile_valid {j : Json} {p : SigningProfile} (h : checkSigningProfile j = .valid p) :
    j.textAt? ["expiry"] = p.expiry.map (·.text) := by
  obtain ⟨members, -, hfields⟩ := object_eq_valid.mp h
  simp only [ap_eq_valid, map_eq_valid] at hfields
  obtain ⟨_, expiry, ⟨usages, -, rfl⟩, hexpiry, rfl⟩ := hfields
  exact expiryField_valid hexpiry

theorem checkParameters_valid {j : Json} {expiry : Option Expiry} (h : checkParameters j = .valid expiry) :
    j.textAt? ["expiry"] = expiry.map (·.text) := by
  obtain ⟨members, -, hfields⟩ := object_eq_valid.mp h
  exact expiryField_valid hfields

/-- The text of the expiry that a policy has for the roles of a name. -/
def expiryText (name : String) (p : SigningPolicy) : Option String :=
  ((p.profiles.lookup name).bind (·.expiry)).map (·.text)

/-- The text of the expiry that a policy has for all other roles. -/
def fallbackText (p : SigningPolicy) : Option String := p.fallback.expiry.map (·.text)

/-- A policy has the expiries that its document writes. -/
theorem checkSigningPolicy_valid {j : Json} {p : SigningPolicy} (h : checkSigningPolicy j = .valid p) :
    j.textAt? ["default", "expiry"] = fallbackText p ∧
      ∀ name, j.textAt? ["profiles", name, "expiry"] = expiryText name p := by
  obtain ⟨members, -, hfields⟩ := object_eq_valid.mp h
  simp only [ap_eq_valid, map_eq_valid] at hfields
  obtain ⟨_, profiles, ⟨fallback, hfallback, rfl⟩, hprofiles, rfl⟩ := hfields
  constructor
  · refine textAt?_field (fun p : SigningProfile => p.expiry.map (·.text)) hfallback (fun he => ?_)
      fun v => checkSigningProfile_valid
    cases he
    rfl
  · intro name
    refine textAt?_field
      (fun rows : List (String × SigningProfile) => ((rows.lookup name).bind (·.expiry)).map (·.text))
      hprofiles (fun he => ?_) fun v hv => ?_
    · cases he
      rfl
    · rw [Json.textAt?]
      obtain ⟨hnone, hlookup⟩ | ⟨u, profile, hu, hcheck, hlookup⟩ := table_lookup hv name
      · rw [hnone, hlookup]
        rfl
      · rw [hu, hlookup]
        exact checkSigningProfile_valid hcheck

/-- An authority has the expiries that its document writes. -/
theorem checkAuthority_valid {j : Json} {d : AuthorityDescriptor} (h : checkAuthority j = .valid d) :
    j.textAt? ["ca", "expiry"] = d.expiry.map (·.text) ∧
      j.textAt? ["signing", "default", "expiry"] = fallbackText d.signing ∧
      ∀ name, j.textAt? ["signing", "profiles", name, "expiry"] = expiryText name d.signing := by
  obtain ⟨members, -, hfields⟩ := object_eq_valid.mp h
  simp only [ap_eq_valid, map_eq_valid] at hfields
  obtain ⟨_, signing, ⟨_, expiry, ⟨subject, -, rfl⟩, hexpiry, rfl⟩, hsigning, rfl⟩ := hfields
  refine ⟨?_, ?_, fun name => ?_⟩
  · refine textAt?_field (Option.map Expiry.text) hexpiry (fun he => ?_)
      fun v => checkParameters_valid
    cases he
    rfl
  · refine textAt?_field _ hsigning (fun he => ?_) fun v hv => (checkSigningPolicy_valid hv).1
    cases he
    rfl
  · refine textAt?_field _ hsigning (fun he => ?_) fun v hv => (checkSigningPolicy_valid hv).2 name
    cases he
    rfl

/-! ## Validity -/

theorem daysOf_validityDays (d : AuthorityDescriptor) :
    Expiry.daysOf [d.expiry.map (·.text)] 3650 = .ok d.validityDays := by
  unfold AuthorityDescriptor.validityDays
  cases d.expiry with
  | some e => exact e.parse_eq
  | none => rfl

theorem daysOf_roleDays (p : SigningPolicy) (r : Role) :
    Expiry.daysOf [expiryText r.name p, fallbackText p] 365 = .ok (p.validityDays r) := by
  unfold SigningPolicy.validityDays expiryText fallbackText
  cases (p.profiles.lookup r.name).bind (·.expiry) with
  | some e => exact e.parse_eq
  | none =>
    cases p.fallback.expiry with
    | some e => exact e.parse_eq
    | none => rfl

/-- The validity that an accepted document gives. Its texts are read anew when a validity is asked for, which
fails for none of them: the authority's own lasts for its expiry or else ten years, and that of a role for the
expiry of the role, or else the one for all roles, or else a year. -/
structure Lasting (j : Json) (d : AuthorityDescriptor) : Prop where
  own : Expiry.daysOf [j.textAt? ["ca", "expiry"]] 3650 = .ok d.validityDays
  role : ∀ r : Role, Expiry.daysOf
    [j.textAt? ["signing", "profiles", r.name, "expiry"], j.textAt? ["signing", "default", "expiry"]] 365 =
      .ok (d.signing.validityDays r)
  own_pos : 1 ≤ d.validityDays
  role_pos : ∀ r : Role, 1 ≤ d.signing.validityDays r

theorem lasting_of_valid {j : Json} {d : AuthorityDescriptor} (h : checkAuthority j = .valid d) : Lasting j d := by
  obtain ⟨hown, hfallback, hrole⟩ := checkAuthority_valid h
  have hownDays := daysOf_validityDays d
  have hroleDays := daysOf_roleDays d.signing
  refine ⟨by rw [hown, hownDays], fun r => by rw [hrole, hfallback, hroleDays], ?_, fun r => ?_⟩
  · exact Expiry.one_le_daysOf (by decide) hownDays
  · exact Expiry.one_le_daysOf (by decide) (hroleDays r)

/-- A text is an expiry exactly if it writes one, and then stands for a whole number of days: at least one, no
fewer for a greater amount, and as many for days as for their hours. Of a document that is accepted every
validity is there, and is what the document writes. -/
theorem expiries_exact_and_lasting :
    (∀ s outcome, Expiry.parse s = outcome ↔ Expiry.Meaning s outcome) ∧
    (∀ s n, Expiry.parse s = .ok n → 1 ≤ n) ∧
    (∀ s s' digits digits' unit n n', Expiry.Writes s digits unit → Expiry.Writes s' digits' unit →
      Expiry.amount digits ≤ Expiry.amount digits' → Expiry.parse s = .ok n → Expiry.parse s' = .ok n' → n ≤ n') ∧
    (∀ s s' digits digits' n n', Expiry.Writes s digits .days → Expiry.Writes s' digits' .hours →
      Expiry.amount digits' = 24 * Expiry.amount digits → Expiry.parse s = .ok n → Expiry.parse s' = .ok n' →
      n = n') ∧
    ∀ j d, checkAuthority j = .valid d → Lasting j d := by
  refine ⟨fun s outcome => Expiry.parse_eq_iff, fun s n => Expiry.one_le_of_parse, ?_, ?_, fun j d => lasting_of_valid⟩
  · intro s s' digits digits' unit n n' hwrites hwrites' hle h h'
    rw [hwrites.days h, hwrites'.days h']
    exact unit.wholeDays_mono hle
  · intro s s' digits digits' n n' hwrites hwrites' hamount h h'
    rw [hwrites.days h, hwrites'.days h', hamount, Expiry.Unit.wholeDays_hours]

/-- An authority for an hour, with servers for two days and all others for thirty, in digits of two scripts. -/
def lastingDescriptor : Json :=
  let expiring (text : String) : Json := .obj [("expiry", .text text)]
  .obj [("CN", .text "root"), ("ca", expiring "1h"), ("signing", .obj [("default", expiring " ٣0d\n"),
    ("profiles", .obj [("server", expiring "48h"), ("client", .obj [("expiry", .null)])])])]

theorem thirty_days_last :
    (Expiry.parse " ٣0d\n" = .ok 30 ∧ 1 ≤ 30 ∧ Expiry.parse "031d" = .ok 31 ∧ 30 ≤ 31 ∧
      Expiry.parse "720h" = .ok 30 ∧ Expiry.parse "30 d" = .error (.unsupported "30 d")) ∧
    ∃ d, checkAuthority lastingDescriptor = .valid d ∧ d.validityDays = 1 ∧
      d.signing.validityDays .server = 2 ∧ d.signing.validityDays .client = 30 := by
  obtain ⟨hmeaning, hpos, hmono, hagree, hlasting⟩ := expiries_exact_and_lasting
  have hall {p : Char → Bool} {cs : List Char} : cs.all p = true → ∀ c ∈ cs, p c = true := List.all_eq_true.mp
  have hdays : Expiry.Writes " ٣0d\n" ['٣', '0'] .days :=
    ⟨⟨[' '], ['\n'], rfl, hall rfl, hall rfl⟩, by decide, hall rfl⟩
  have hmore : Expiry.Writes "031d" ['0', '3', '1'] .days :=
    ⟨⟨[], [], rfl, hall rfl, hall rfl⟩, by decide, hall rfl⟩
  have hhours : Expiry.Writes "720h" ['7', '2', '0'] .hours :=
    ⟨⟨[], [], rfl, hall rfl, hall rfl⟩, by decide, hall rfl⟩
  have hthirty : Expiry.parse " ٣0d\n" = .ok 30 := (hmeaning _ _).mpr (.days hdays (by decide))
  have hmoreDays : Expiry.parse "031d" = .ok 31 := (hmeaning _ _).mpr (.days hmore (by decide))
  have hhoursDays := (hmeaning _ _).mpr (.days hhours (by decide))
  have hsame := hagree _ _ _ _ _ _ hdays hhours (by decide) hthirty hhoursDays
  refine ⟨⟨hthirty, hpos _ _ hthirty, hmoreDays, hmono _ _ _ _ _ _ _ hdays hmore (by decide) hthirty hmoreDays,
    hsame ▸ hhoursDays, by decide +kernel⟩, ?_⟩
  obtain ⟨d, hd⟩ := exists_of_isOk (checkAuthority lastingDescriptor) (by decide +kernel)
  obtain ⟨hown, hrole, -, -⟩ := hlasting _ d hd
  exact ⟨d, hd, Except.ok.inj hown.symm, Except.ok.inj (hrole .server).symm, Except.ok.inj (hrole .client).symm⟩

end Descriptor

end ServiceTrust
