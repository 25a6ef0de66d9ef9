/-
Descriptors that give nothing to work with. Loading one ends with a fault that names the file, and the run
with a failed generation that says so, unless the file is unreadable: octets that are no UTF-8, or a text on
which the reader stops at a limit. That is a plain fault, which no run tells as a failure of its own.
-/
import ServiceTrust.Proofs.Descriptor.Load
import ServiceTrust.Proofs.Pipeline.Deploy
import ServiceTrust.Proofs.Pipeline.Refusal

namespace ServiceTrust

open Stage Descriptor

variable {σ : Type} {t : Tree} {path : Path} {f : Descriptor.Fault}

/-! ## Loaders -/

/-- How the descriptor at `path` ends a run that cannot load it: as a failed generation that names the file, or
as a plain fault if the file is unreadable. -/
inductive Descriptor.Halts (t : Tree) (path : Path) : Failure → Prop
  | told {p : PipelineError} (hkind : p.kind = .generation) (hnames : Mentions p.message path)
      (hreadable : ¬ ∃ f, Unreadable t path f) : Halts t path (.pipeline p)
  | untold {f : Descriptor.Fault} (hf : Unreadable t path f) : Halts t path (.fault (.descriptor f))

/-- The fault of a load ends a run like that, if a described one is told in its own words. -/
theorem Descriptor.halts_of_load {α : Type} {isAuthority : Bool} {check : Json → Except Schema.Fault α}
    (h : load isAuthority check t path = .error f) {p : PipelineError} (hkind : p.kind = .generation)
    (hmessage : p.message = f.message) :
    Halts t path (if f.isDescribed then .pipeline p else .fault (.descriptor f)) := by
  split
  next hf =>
    have hpath : f.path? = some path := (load_error h).resolve_right fun hunreadable => by
      rw [f.isDescribed_eq, hunreadable.path?_eq] at hf
      cases hf
    refine .told hkind (hmessage ▸ f.mentions hpath) ?_
    rintro ⟨f', hf'⟩
    -- the same load would end with either fault
    obtain rfl := Except.error.inj (h.symm.trans (load_undescribed.mpr hf').1)
    rw [hf'.path?_eq] at hpath
    cases hpath
  next hf => exact .untold (load_undescribed.mp ⟨h, Bool.not_eq_true _ ▸ hf⟩)

namespace Pipeline

variable {s : Settings}

theorem authority_halts (h : loadAuthority t s.authorityDescriptorPath = .error f) :
    Halts t s.authorityDescriptorPath (authorityFailure s f) :=
  halts_of_load (loadAuthority_eq t _ ▸ h) rfl rfl

theorem services_halt {space : String} (h : Discovery.profilesIn t s.tlsDirectory space s.defaultSpace = .error f) :
    ∃ name ∈ Discovery.serviceNames t s.tlsDirectory,
      Halts t (Discovery.layoutOf s.tlsDirectory name).descriptor (servicesFailure s f) := by
  obtain ⟨name, hname, hload⟩ := Discovery.exists_of_profilesIn_error h
  rw [loadService_eq] at hload
  exact ⟨name, hname, halts_of_load hload rfl rfl⟩

/-- Whatever is at the place of a descriptor, loading it gives a descriptor or a fault that names the file, unless
the file is unreadable. With the tool in place, a build that has a descriptor which cannot be loaded is ended by
the authority's, or, if that gives an authority, by one of a service; a deployment is ended by one of a service,
before it asks anything of its store. Either is told as a failed generation that names the file, unless that file
is unreadable: then it is not. -/
theorem malformed_descriptor_told_or_unreadable :
    (∀ t path, Loading t path) ∧
    (∀ (host : Host) (s : Settings) (place : String) (force withTokenKeys : Bool) (w : World σ),
      Keystore.find? w.tree host.searchPath s.keytool = some place → Undescribed s w.tree →
      ∃ e w', (build host s force withTokenKeys).exec w = (.error e, w') ∧
        (w'.tree = w.tree ∧ Halts w.tree s.authorityDescriptorPath e ∨
          ∃ d outcome v, loadAuthority w.tree s.authorityDescriptorPath = .ok d ∧
            (Authority.ensure host s.authorityLayout.directory d none force).exec w = (outcome, v) ∧
            w'.tree = v.tree ∧ (outcome = .error e ∨
              outcome.isOk = true ∧ ∃ name ∈ Discovery.serviceNames v.tree s.tlsDirectory,
                Halts v.tree (Discovery.layoutOf s.tlsDirectory name).descriptor e))) ∧
    ∀ (store : SecretStore σ) (s : Settings) (space : Option String) (tlsOnly : Bool) (w : World σ),
      (∃ name ∈ Discovery.serviceNames w.tree s.tlsDirectory, ∃ f,
        loadService w.tree (Discovery.layoutOf s.tlsDirectory name).descriptor = .error f) →
      ∃ e w', (deploy store s space tlsOnly).exec w = (.error e, w') ∧ w'.store = w.store ∧
        ∃ name ∈ Discovery.serviceNames w.tree s.tlsDirectory,
          Halts w.tree (Discovery.layoutOf s.tlsDirectory name).descriptor e := by
  refine ⟨loading, fun host s place force withTokenKeys w htool h => ?_, fun store s space tlsOnly w h => ?_⟩
  · obtain ⟨e, v, w', hbuild, hstopped, ht⟩ := build_stopped withTokenKeys htool h
    refine ⟨e, w', hbuild, ?_⟩
    cases hstopped with
    | byDescriptor hf => exact .inl ⟨ht, authority_halts hf⟩
    | byAuthority hd hensure => exact .inr ⟨_, _, _, hd, hensure, ht, .inl rfl⟩
    | byService hd hensure hf => exact .inr ⟨_, _, _, hd, hensure, ht, .inr ⟨rfl, services_halt hf⟩⟩
  · obtain ⟨name, hname, f, hf⟩ := h
    obtain ⟨f', hf'⟩ : ∃ f', Discovery.profilesIn w.tree s.tlsDirectory (spaceOf s space) s.defaultSpace = .error f' :=
      profilesIn_error hname hf (.refl ∅ ∅ w.tree) (Set.notMem_empty _)
    obtain ⟨w', hdeploy, hstore⟩ := deploy_undiscovered store tlsOnly hf'
    exact ⟨_, w', hdeploy, hstore, services_halt hf'⟩

/-- An installation of which every descriptor is one octet that begins no character. -/
def garbledWorld : World DryStore :=
  { Specimen.world with tree := ⟨Specimen.tree.entries.map fun e =>
    if e.1.getLast? = some AuthorityLayout.descriptorName ∨ e.1.getLast? = some ServiceLayout.descriptorName then
      (e.1, .file [0xff] 0o644) else e⟩ }

/-- The octet cannot be decoded. -/
def garbled : Descriptor.Fault := .encoding ⟨0, [0xff], .invalidStart⟩

/-- An installation whose authority's descriptor is the text `cs`. -/
def scribbledTree (cs : List Char) : Tree :=
  ⟨[(["tls"], .directory), (["tls", "ca"], .directory),
    (["tls", "ca", AuthorityLayout.descriptorName], .file (Text.encode (.ofList cs)) 0o644)]⟩

theorem scribbledTree_hasText (cs : List Char) (h : '\r' ∉ cs) :
    HasText (scribbledTree cs) ({} : Settings).authorityDescriptorPath cs :=
  ⟨rfl, .ofList cs, rfl, by rw [String.toList_ofList, Text.plainNewlines_eq h]⟩

theorem garbled_descriptor_untold :
    garbled.message = "'utf-8' codec can't decode byte 0xff in position 0: invalid start byte" ∧
    (∃ w', (build Specimen.host {} false true).exec garbledWorld = (.error (.fault (.descriptor garbled)), w')) ∧
    (∃ w', (deploy DryStore.store {} (some "dev") false).exec garbledWorld =
      (.error (.fault (.descriptor garbled)), w')) ∧
    loadAuthority (scribbledTree (List.replicate 985 '[')) ({} : Settings).authorityDescriptorPath =
      .error (.limit (.tooDeep true)) ∧
    loadAuthority (scribbledTree (List.replicate 4301 '1')) ({} : Settings).authorityDescriptorPath =
      .error (.limit (.tooManyDigits 4301)) := by
  obtain ⟨hloading, hbuild, hdeploy⟩ := malformed_descriptor_told_or_unreadable (σ := DryStore)
  have hnames : Discovery.serviceNames garbledWorld.tree ({} : Settings).tlsDirectory = ["a"] := by decide +kernel
  have hauthority : loadAuthority garbledWorld.tree ({} : Settings).authorityDescriptorPath = .error garbled := by
    rfl
  have hservice : loadService garbledWorld.tree
      (Discovery.layoutOf ({} : Settings).tlsDirectory "a").descriptor = .error garbled := by
    rfl
  -- a file that gives this fault is unreadable, and so the run does not tell of it
  have huntold {path : Path} {e : Failure} (hpath : Unreadable garbledWorld.tree path garbled)
      (he : Halts garbledWorld.tree path e) : e = .fault (.descriptor garbled) := by
    cases he with
    | told _ _ hreadable => exact absurd ⟨_, hpath⟩ hreadable
    | untold hf =>
      have hsame := ((hloading _ _).unreadable _ hf).1.symm.trans ((hloading _ _).unreadable _ hpath).1
      rw [Except.error.inj hsame]
  have hgarbled {path : Path} (h : loadAuthority garbledWorld.tree path = .error garbled ∨
      loadService garbledWorld.tree path = .error garbled) : Unreadable garbledWorld.tree path garbled :=
    ((hloading _ path).names _ h).resolve_left fun hdescribed => nomatch hdescribed.1
  have hdeep (n : Nat) (hn : 984 < n) : loadAuthority (scribbledTree (List.replicate n '['))
      ({} : Settings).authorityDescriptorPath = .error (.limit (.tooDeep true)) := by
    have htext : HasText (scribbledTree (List.replicate n '[')) ({} : Settings).authorityDescriptorPath
        (List.replicate n '[' ++ []) := by
      rw [List.append_nil]
      exact scribbledTree_hasText _ (by simp)
    exact ((hloading _ _).unreadable _ ((hloading _ _).deep n [] hn htext)).1
  have hdigits (n : Nat) (hn : 4300 < n) : loadAuthority (scribbledTree (List.replicate n '1'))
      ({} : Settings).authorityDescriptorPath = .error (.limit (.tooManyDigits n)) := by
    have htext := scribbledTree_hasText (List.replicate n '1') (by simp)
    have hunreadable := (hloading _ _).digits _ (by simp) (by cases n <;> simp [List.replicate_succ])
      (by simpa [Text.maxDigits] using hn) htext
    rw [List.length_replicate] at hunreadable
    exact ((hloading _ _).unreadable _ hunreadable).1
  refine ⟨by decide +kernel, ?_, ?_, hdeep 985 (by decide), hdigits 4301 (by decide)⟩
  · obtain ⟨e, w', hrun, ⟨-, hhalts⟩ | ⟨d, _, _, hd, -⟩⟩ :=
      hbuild Specimen.host {} "/bin/keytool" false true garbledWorld (by decide +kernel) (.inl ⟨garbled, hauthority⟩)
    · exact ⟨w', huntold (hgarbled (.inl hauthority)) hhalts ▸ hrun⟩
    · exact nomatch hauthority.symm.trans hd
  · obtain ⟨e, w', hrun, -, name, hname, hhalts⟩ := hdeploy DryStore.store {} (some "dev") false garbledWorld
      ⟨"a", hnames ▸ List.mem_singleton_self "a", garbled, hservice⟩
    obtain rfl := List.mem_singleton.mp (hnames ▸ hname)
    exact ⟨w', huntold (hgarbled (.inr hservice)) hhalts ▸ hrun⟩

end Pipeline

end ServiceTrust
