/-
Builds that are not forced, and the trust that is there already. As long as neither the authority nor
the token keys lie in the directory of a service, no sequence of such builds, however each of them ends,
changes a byte of their files. The condition is exact: where it fails, every such build that returns has
lost an authority's file or the token keys, because a service's directory is cleared with all that has
the ending of a generated file, and nobody looks whether it is the authority's.
-/
import ServiceTrust.Proofs.Pipeline.Build
import ServiceTrust.Proofs.Specimen

namespace ServiceTrust

open Stage ServiceTrust.Tree Keystore

namespace Pipeline

variable {σ : Type} {host : Host} {s : Settings}

/-- The files of the authority and the token keys. -/
def trustFiles (s : Settings) : List Path :=
  [s.authorityLayout.cert, s.authorityLayout.key, s.authorityLayout.csr,
    s.tokenDirectory.child TokenKeys.privateName, s.tokenDirectory.child TokenKeys.publicName]

/-- Neither the authority nor the token keys are in the directory of a service. -/
def TrustApart (s : Settings) (t : Tree) : Prop :=
  ∀ name ∈ Discovery.serviceNames t s.tlsDirectory,
    (s.tlsDirectory.child name).place ≠ s.authorityLayout.directory.place ∧
      (s.tlsDirectory.child name).place ≠ s.tokenDirectory.place

/-- The world after a build that was not forced, with the host and the wish for token keys of `run`. -/
def rebuild (s : Settings) (w : World σ) (run : Host × Bool) : World σ :=
  ((build run.1 s false run.2).exec w).2

/-! ## One build -/

theorem place_trustFile {p : Path} (hp : p ∈ trustFiles s) :
    ∃ name ∈ AuthorityLayout.names ++ TokenKeys.names, isName name = true ∧ isStale name = true ∧
      (p.place = s.authorityLayout.directory.place ++ [name] ∨
        p.place = s.tokenDirectory.place ++ [name]) := by
  have hproper {name : String} (h : name ∈ AuthorityLayout.names ++ TokenKeys.names) :=
    (List.mem_append.mp h).elim (authority_names_proper name) (tokenKeys_names_proper name)
  simp only [trustFiles, List.mem_cons, List.not_mem_nil, or_false] at hp
  rcases hp with rfl | rfl | rfl | rfl | rfl
  · exact ⟨_, by decide, (hproper (by decide)).1, (hproper (by decide)).2, .inl (AuthorityLayout.place_cert _)⟩
  · exact ⟨_, by decide, (hproper (by decide)).1, (hproper (by decide)).2, .inl (AuthorityLayout.place_key _)⟩
  · exact ⟨_, by decide, (hproper (by decide)).1, (hproper (by decide)).2, .inl (AuthorityLayout.place_csr _)⟩
  · exact ⟨_, by decide, (hproper (by decide)).1, (hproper (by decide)).2, .inr (TokenKeys.place_private _)⟩
  · exact ⟨_, by decide, (hproper (by decide)).1, (hproper (by decide)).2, .inr (TokenKeys.place_public _)⟩

theorem trustFile_not_mem_servicePlaces {t : Tree} (h : TrustApart s t) {p : Path}
    (hp : p ∈ trustFiles s) : p.place ∉ servicePlaces t s.tlsDirectory := by
  rintro ⟨service, hservice, m, -, -, he⟩
  obtain ⟨name, -, -, -, hplace | hplace⟩ := place_trustFile hp
  · rw [hplace] at he
    exact (h service hservice).1 (List.append_inj_left' he rfl).symm
  · rw [hplace] at he
    exact (h service hservice).2 (List.append_inj_left' he rfl).symm

theorem isComplete_of_isFile {t : Tree} (h : ∀ p ∈ trustFiles s, t.isFile p = true) :
    s.authorityLayout.isComplete t = true := by
  have hcert := h s.authorityLayout.cert (by simp [trustFiles])
  have hkey := h s.authorityLayout.key (by simp [trustFiles])
  have hcsr := h s.authorityLayout.csr (by simp [trustFiles])
  simp [AuthorityLayout.isComplete, hcert, hkey, hcsr]

/-- An authority that is there is at most loaded, and no file changes. -/
theorem ensure_keeps {t : Tree} {d : AuthorityDescriptor} {w w' : World σ}
    {outcome : Except Failure Authority} (hthere : ∀ p ∈ trustFiles s, t.isFile p = true) (ht : w.tree = t)
    (h : (Authority.ensure host s.authorityLayout.directory d none false).exec w = (outcome, w')) :
    w'.tree = t := by
  have hsame := Authority.ensure_of_complete (d := d) host s.authorityLayout.directory none
    (w := w) (by rw [ht]; exact isComplete_of_isFile hthere)
  rw [h] at hsame
  exact hsame.trans ht

/-- A build that finds everything there changes generated files of services alone, however it ends. -/
theorem rebuild_within (hconf : Confined host.tool) (withTokenKeys : Bool) {w : World σ}
    (hthere : ∀ p ∈ trustFiles s, w.tree.isFile p = true) (happart : TrustApart s w.tree) :
    Within (servicePlaces w.tree s.tlsDirectory) ∅ w.tree (rebuild s w (host, withTokenKeys)).tree := by
  have hcourse := build_course host s false withTokenKeys w
  unfold rebuild
  generalize ((build host s false withTokenKeys).exec w).2.tree = t' at hcourse
  cases hcourse with
  | refused => exact .refl _ _ _
  | withoutAuthority ht _ h => exact .of_eq (ensure_keeps hthere ht h)
  | withoutServices ht _ h => exact .of_eq (ensure_keeps hthere ht h)
  | working ht _ h hps hv =>
    rw [ensure_keeps hthere ht h] at hps hv
    exact services_within _ hconf hps hv
  | @worked v v' u u' d a ps made ht _ h hps hv hmade hkeys =>
    rw [ensure_keeps hthere ht h] at hps hv
    have hwithin := services_within a hconf hps hv
    rw [hmade] at hwithin
    have hthere' {p : Path} (hp : p ∈ trustFiles s) : u'.tree.isFile p = true :=
      hwithin.isFile (trustFile_not_mem_servicePlaces happart hp) (hthere p hp)
    rw [TokenKeys.ensure_of_isFile (hthere' (by simp [trustFiles])) (hthere' (by simp [trustFiles]))]
    exact hwithin

/-! ## Any number of builds -/

theorem TrustApart.within {t t' : Tree} (h : TrustApart s t)
    (hw : Within (servicePlaces t s.tlsDirectory) ∅ t t') : TrustApart s t' := fun name hname =>
  h name ((Discovery.mem_serviceNames_iff hw
    (descriptor_not_mem_servicePlaces _ _ (Discovery.layoutOf s.tlsDirectory name))).mp hname)

theorem rebuilds_keep (runs : List (Host × Bool)) (hconf : ∀ run ∈ runs, Confined run.1.tool) {w : World σ}
    (hthere : ∀ p ∈ trustFiles s, w.tree.isFile p = true) (happart : TrustApart s w.tree) :
    ∀ p ∈ trustFiles s, (runs.foldl (rebuild s) w).tree.find? p = w.tree.find? p := by
  induction runs generalizing w with
  | nil => exact fun _ _ => rfl
  | cons run runs ih =>
    have hw := rebuild_within (hconf run (List.mem_cons_self ..)) run.2 hthere happart
    have hout := fun p hp => trustFile_not_mem_servicePlaces happart (p := p) hp
    intro p hp
    rw [List.foldl_cons, ih (fun r hr => hconf r (List.mem_cons_of_mem _ hr))
      (fun q hq => hw.isFile (hout q hq) (hthere q hq)) (happart.within hw) p hp]
    exact hw.find?_eq (hout p hp)

/-! ## Where trust is not apart -/

theorem exists_of_not_trustApart {t : Tree} (h : ¬ TrustApart s t) :
    ∃ service ∈ Discovery.serviceNames t s.tlsDirectory,
      (s.tlsDirectory.child service).place = s.authorityLayout.directory.place ∨
        (s.tlsDirectory.child service).place = s.tokenDirectory.place := by
  unfold TrustApart at h
  push Not at h
  obtain ⟨service, hservice, hor⟩ := h
  exact ⟨service, hservice, or_iff_not_imp_left.mpr hor⟩

/-- A build that returned has lost something of an authority or of token keys that lie in the directory
of a service: a file is gone, or the token keys were made anew. -/
theorem rebuild_loses (hconf : Confined host.tool) {withTokenKeys : Bool}
    {w w' : World σ} {result : BuildResult} (hthere : ∀ p ∈ trustFiles s, w.tree.isFile p = true)
    (hnot : ¬ TrustApart s w.tree) (h : (build host s false withTokenKeys).exec w = (.ok result, w')) :
    (∃ p ∈ trustFiles s, w'.tree.isFile p = false) ∨
      ∃ keys, result.tokenKeys = some keys ∧ keys.generated = true := by
  obtain ⟨w₁, w₂, w₃, w₄, d, made, ⟨ht₁, -⟩, hensure, hps, ht₃, hmade, -, hrest⟩ := build_ok h
  have ht₂ : w₂.tree = w.tree := ensure_keeps hthere ht₁ hensure
  rw [ht₂] at hps
  obtain ⟨service, hservice, hplace⟩ := exists_of_not_trustApart hnot
  obtain ⟨p, hp, rfl⟩ : ∃ p ∈ result.profiles, p.name = service :=
    List.mem_map.mp (Discovery.profilesIn_names hps ▸ hservice)
  obtain ⟨-, -, hdir, -, -⟩ := profile_of_mem hps hp
  -- no role's file has the name of an authority's file or a token key, so none of those is there again
  have hgone (name : String) (hname : name ∈ AuthorityLayout.names ++ TokenKeys.names) :
      ¬ w₄.tree.HoldsFile ((s.tlsDirectory.child p.name).place ++ [name]) := by
    have hproper := (List.mem_append.mp hname).elim (authority_names_proper name)
      (tokenKeys_names_proper name)
    exact hdir ▸ services_cleared hconf hps (ht₃.trans ht₂) hmade hproper
      (fun r => namesFor_apart hname r) p hp
  rcases hplace with hplace | hplace
  · left
    refine ⟨s.authorityLayout.cert, by simp [trustFiles], ?_⟩
    have hcert : ¬ w₄.tree.HoldsFile s.authorityLayout.cert.place := by
      rw [AuthorityLayout.place_cert, ← hplace]
      exact hgone _ (by decide)
    refine Bool.eq_false_iff.mpr fun hf => hcert ?_
    cases withTokenKeys with
    | false => exact hrest ▸ (isFile_iff.mp hf).2
    | true =>
      obtain ⟨keys, w₅, hkeys, -, ht⟩ := hrest
      have hwithin := ((TokenKeys.ensure_within s.tokenDirectory false).ran hkeys).1
      refine (hwithin.holdsFile ?_).mp (ht ▸ (isFile_iff.mp hf).2)
      rw [AuthorityLayout.place_cert]
      exact placesNamed_disjoint authority_names_apart (mem_placesNamed.mpr (by decide))
  · have hkey : w₄.tree.isFile (s.tokenDirectory.child TokenKeys.privateName) = false := by
      refine Bool.eq_false_iff.mpr fun hf => hgone TokenKeys.privateName (by decide) ?_
      rw [hplace, ← TokenKeys.place_private]
      exact (isFile_iff.mp hf).2
    cases withTokenKeys with
    | false => exact .inl ⟨_, by simp [trustFiles], hrest ▸ hkey⟩
    | true =>
      obtain ⟨keys, w₅, hkeys, hresult, -⟩ := hrest
      exact .inr ⟨keys, hresult, TokenKeys.ensure_generated hkey hkeys⟩

/-- An authority and token keys that are there outlast every sequence of builds that are not forced,
to the byte and the mode, if they are apart from the services; if they are not, no such build returns
without having lost some of them. -/
theorem trust_outlasts_rebuilds (w : World σ) (hthere : ∀ p ∈ trustFiles s, w.tree.isFile p = true) :
    (TrustApart s w.tree → ∀ runs : List (Host × Bool), (∀ run ∈ runs, Confined run.1.tool) →
      ∀ p ∈ trustFiles s, (runs.foldl (rebuild s) w).tree.find? p = w.tree.find? p) ∧
    (¬ TrustApart s w.tree → ∀ host : Host, Confined host.tool → ∀ withTokenKeys result w',
      (build host s false withTokenKeys).exec w = (.ok result, w') →
      (∃ p ∈ trustFiles s, w'.tree.isFile p = false) ∨
        ∃ keys, result.tokenKeys = some keys ∧ keys.generated = true) := by
  constructor
  · intro happart runs hconf
    exact rebuilds_keep runs hconf hthere happart
  · intro hnot host hconf withTokenKeys result w' h
    exact rebuild_loses hconf hthere hnot h

/-- The specimen with an authority and token keys; with `shared` there is a service in the directory of
the authority. -/
def trusted (shared : Bool) : Tree :=
  ⟨Specimen.tree.entries ++ (["jwt"], .directory) :: (trustFiles {}).map (fun p => (p.place, .file [0] 0o600)) ++
    if shared then [(["tls", "ca", ServiceLayout.descriptorName], .file (Specimen.descriptorBytes "ca") 0o644)]
    else []⟩

theorem specimen_trust_outlasts_rebuilds :
    (∀ shared, ∀ p ∈ trustFiles {}, (trusted shared).isFile p = true) ∧
    (TrustApart {} (trusted false) ∧ ∀ runs : List (Host × Bool), (∀ run ∈ runs, Confined run.1.tool) →
      ∀ p ∈ trustFiles {}, (runs.foldl (rebuild {}) { Specimen.world with tree := trusted false }).tree.find? p =
        (trusted false).find? p) ∧
    (¬ TrustApart {} (trusted true) ∧ ∀ withTokenKeys result w',
      (build Specimen.host {} false withTokenKeys).exec { Specimen.world with tree := trusted true } =
        (.ok result, w') →
      (∃ p ∈ trustFiles {}, w'.tree.isFile p = false) ∨
        ∃ keys, result.tokenKeys = some keys ∧ keys.generated = true) := by
  have hthere (shared : Bool) : ∀ p ∈ trustFiles {}, (trusted shared).isFile p = true := by
    cases shared <;> decide
  have hmain (shared : Bool) := trust_outlasts_rebuilds (σ := DryStore)
    { Specimen.world with tree := trusted shared } (hthere shared)
  have happart : TrustApart {} (trusted false) := by
    unfold TrustApart
    decide
  have hnot : ¬ TrustApart {} (trusted true) := by
    unfold TrustApart
    decide
  exact ⟨hthere, ⟨happart, (hmain false).1 happart⟩, hnot, (hmain true).2 hnot Specimen.host Specimen.host_confined⟩

end Pipeline

end ServiceTrust
