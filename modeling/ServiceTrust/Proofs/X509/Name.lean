/-
What a descriptor wants named, and what is named. The subject shows the common name and then, group after
group, the parts that are there and not empty; the other names are the hosts, each as the address that it
writes or else as a name. Nothing is added, left out or put elsewhere, however long the lists are.
-/
import ServiceTrust.Pipeline.Authority
import ServiceTrust.Proofs.Text.Utf8

namespace ServiceTrust

/-! ## What is wanted -/

/-- The parts of a group of subject fields that a name shows, under their labels. -/
def NameEntry.shown (e : NameEntry) : List (String × String) :=
  [("C", e.country), ("ST", e.state), ("L", e.locality), ("O", e.organization), ("OU", e.unit)].filterMap
    fun (label, part) => (part.filter (· ≠ "")).map (label, ·)

/-- The labels and texts of a subject. -/
def Request.Subject.shown (s : Request.Subject) : List (String × String) :=
  ("CN", s.commonName) :: s.names.flatMap NameEntry.shown

namespace X509

/-- The name that a certificate has for a host. -/
def AltName.forHost (host : String) : AltName :=
  match Address.ofString? host with
  | some a => .ip a.withoutScope
  | none => .dns host

/-- The other names that certificates list for hosts: none where there are no hosts. -/
def altNamesFor (hosts : List String) : Option (List AltName) :=
  if hosts = [] then none else some (hosts.map AltName.forHost)

/-! ## Subjects -/

/-- Where each outcome shows what its argument does, so do all. -/
theorem map_of_mapM {ε α β γ : Type} {f : α → Except ε β} {wanted : α → γ} {given : β → γ}
    (h : ∀ a b, f a = .ok b → given b = wanted a) {as : List α} {bs : List β} (hbs : as.mapM f = .ok bs) :
    bs.map given = as.map wanted := by
  induction as generalizing bs with
  | nil =>
    obtain rfl := Except.ok.inj hbs
    rfl
  | cons a as ih =>
    rw [List.mapM_cons] at hbs
    cases hb : f a with
    | error e =>
      rw [hb] at hbs
      cases hbs
    | ok b =>
      cases hrest : as.mapM f with
      | error e =>
        rw [hb, hrest] at hbs
        cases hbs
      | ok rest =>
        rw [hb, hrest] at hbs
        obtain rfl := Except.ok.inj hbs
        rw [List.map_cons, List.map_cons, h a b hb, ih hrest]

theorem Attribute.ofText_ok {oid : Oid} {s : String} {a : Attribute} (h : Attribute.ofText oid s = .ok a) :
    a.oid = oid ∧ a.value = Text.encode s := by
  unfold Attribute.ofText at h
  dsimp only at h
  split at h
  · split at h
    · cases h
    · obtain rfl := Except.ok.inj h
      exact ⟨rfl, rfl⟩
  · obtain rfl := Except.ok.inj h
    exact ⟨rfl, rfl⟩

/-- An attribute shows the text that it was made of. -/
theorem Attribute.text_ofText {oid : Oid} {s : String} {a : Attribute} (h : Attribute.ofText oid s = .ok a) :
    a.text = s := by
  unfold Attribute.text
  rw [(Attribute.ofText_ok h).2, Text.decode_eq_ok.mpr rfl]

/-- The label of an attribute with the identifier `oid`. -/
def Oid.label (oid : Oid) : String := (Attribute.shortNames.lookup oid).getD oid.toString

/-- The parts of a group that are left out of a subject are those that it does not show. -/
theorem map_label_subjectParts (s : Request.Subject) :
    (subjectParts s).map (fun part => (Oid.label part.1, part.2)) = s.shown := by
  have hentry (e : NameEntry) : e.shown = ((entryParts e).map fun part => (Oid.label part.1, part.2)).filterMap
      fun row => (row.2.filter (· ≠ "")).map (row.1, ·) := rfl
  unfold subjectParts Request.Subject.shown
  rw [List.map_cons, List.map_filterMap, List.filterMap_flatMap]
  refine congrArg _ (congrArg (s.names.flatMap ·) (funext fun e => ?_))
  rw [hentry, List.filterMap_map]
  refine congrArg (List.filterMap · (entryParts e)) (funext fun part => ?_)
  obtain ⟨oid, none | v⟩ := part
  · rfl
  · by_cases hv : v = "" <;> simp [hv, Option.filter]

/-- The name of a subject shows what is wanted, one attribute on a level. -/
theorem Name.ofSubject_ok {s : Request.Subject} {n : Name} (h : Name.ofSubject s = .ok n) :
    n.pairs = s.shown ∧ ∀ level ∈ n.levels, ∃ a, level = [a] := by
  obtain ⟨as, has, rfl⟩ := Text.map_eq_ok.mp h
  refine ⟨?_, by simp⟩
  have hflat : (as.map ([·])).flatten = as := by simp [List.flatten_eq_flatMap, List.flatMap_map]
  have hshows : as.map (fun a => (a.label, a.text)) = (subjectParts s).map fun part => (Oid.label part.1, part.2) :=
    map_of_mapM (fun part a h => by rw [← (Attribute.ofText_ok h).1, ← Attribute.text_ofText h]; rfl) has
  rw [Name.pairs, hflat, hshows, map_label_subjectParts]

/-! ## Other names -/

theorem AltName.ofHost_ok {host : String} {n : AltName} (h : AltName.ofHost host = .ok n) :
    n.withoutScope = AltName.forHost host := by
  unfold AltName.ofHost at h
  unfold AltName.forHost
  cases haddress : Address.ofString? host with
  | some a =>
    rw [haddress] at h
    obtain rfl := Except.ok.inj h
    rfl
  | none =>
    rw [haddress] at h
    dsimp only at h
    split at h
    · obtain rfl := Except.ok.inj h
      rfl
    · cases h

/-- The other names of a request, without scopes, are those of its hosts. -/
theorem requestedNames_ok {hosts : List String} {names : Option (List AltName)}
    (h : requestedNames hosts = .ok names) :
    names.map (fun ns => ns.map AltName.withoutScope) = altNamesFor hosts := by
  unfold requestedNames at h
  unfold altNamesFor
  cases hosts with
  | nil =>
    obtain rfl := Except.ok.inj h
    rfl
  | cons host hosts =>
    obtain ⟨ns, hns, rfl⟩ := Text.map_eq_ok.mp h
    rw [if_neg (by simp)]
    exact congrArg some (map_of_mapM (fun _ _ => AltName.ofHost_ok) hns)

end X509

end ServiceTrust
