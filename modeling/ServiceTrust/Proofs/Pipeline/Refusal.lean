/-
Builds that cannot go to work because of a descriptor. That of the authority is read before anything is
done, and where it cannot be, the files stay as they are. Those of the services are read only after the
authority was provided: a build that one of them stops has loaded an authority that was complete, unless
it was to make a new one; otherwise the authority's files are new, or wrecked, and those of the services
are as they were.
-/
import ServiceTrust.Proofs.Pipeline.AuthorityFailure
import ServiceTrust.Proofs.Pipeline.Build

namespace ServiceTrust

open Stage ServiceTrust.Tree

namespace Pipeline

variable {σ : Type} {host : Host} {s : Settings}

/-- A descriptor is there that cannot be read: the authority's, or that of a service. -/
def Undescribed (s : Settings) (t : Tree) : Prop :=
  (∃ f, Descriptor.loadAuthority t s.authorityDescriptorPath = .error f) ∨
    ∃ name ∈ Discovery.serviceNames t s.tlsDirectory, ∃ f,
      Descriptor.loadService t (Discovery.layoutOf s.tlsDirectory name).descriptor = .error f

/-- How a build that began in `w` can end where a descriptor cannot be read, with the files that it leaves:
stopped by the authority's descriptor, by the authority, or by the descriptor of a service. -/
inductive Refused (host : Host) (s : Settings) (force : Bool) (w : World σ) : Failure → Tree → Prop
  | byDescriptor {f : Descriptor.Fault}
    (hf : Descriptor.loadAuthority w.tree s.authorityDescriptorPath = .error f) :
    Refused host s force w (authorityFailure s f) w.tree
  | byAuthority {d : AuthorityDescriptor} {p : PipelineError} {t : Tree}
    (hd : Descriptor.loadAuthority w.tree s.authorityDescriptorPath = .ok d) (hp : p.kind = .generation)
    (hremains : Authority.Remains host.suite s.authorityLayout force (Authority.newKey host d w) w.tree t)
    (hwithin : Within (stalePlaces s.authorityLayout.directory.place) s.authorityLayout.directory.above w.tree t) :
    Refused host s force w (.pipeline p) t
  | byService {d : AuthorityDescriptor} {f : Descriptor.Fault} {t : Tree}
    (hd : Descriptor.loadAuthority w.tree s.authorityDescriptorPath = .ok d)
    (hf : Discovery.profilesIn t s.tlsDirectory s.deploySpace s.defaultSpace = .error f)
    (hloaded : force = false ∧ s.authorityLayout.isComplete w.tree = true → t = w.tree)
    (hmade : ¬(force = false ∧ s.authorityLayout.isComplete w.tree = true) →
      ∃ a, Authority.Made host s.authorityLayout d (Authority.newKey host d w) t a)
    (hwithin : Within (stalePlaces s.authorityLayout.directory.place) s.authorityLayout.directory.above w.tree t) :
    Refused host s force w (servicesFailure s f) t

/-! ## The steps before the work -/

theorem exec_locate {executable place : String} {w : World σ}
    (h : Keystore.find? w.tree host.searchPath executable = some place) :
    (Keystore.locate host executable).exec w = (.ok place, w) := by
  unfold Keystore.locate
  rw [exec_bind, exec_tree]
  dsimp only
  rw [h]
  rfl

/-- A service whose descriptor cannot be read keeps all services from being found, also after an authority
was made. -/
theorem profilesIn_error {t t' : Tree} {name space : String} {files dirs : Set Location}
    (hn : name ∈ Discovery.serviceNames t s.tlsDirectory) {f : Descriptor.Fault}
    (hf : Descriptor.loadService t (Discovery.layoutOf s.tlsDirectory name).descriptor = .error f)
    (h : Within files dirs t t') (hfiles : (Discovery.layoutOf s.tlsDirectory name).descriptor.place ∉ files) :
    ∃ f', Discovery.profilesIn t' s.tlsDirectory space s.defaultSpace = .error f' := by
  obtain ⟨hn', hload⟩ := Discovery.serviceNames_mono h hfiles hn
  rcases hps : Discovery.profilesIn t' s.tlsDirectory space s.defaultSpace with f' | ps
  · exact ⟨f', rfl⟩
  · obtain ⟨p, -, -, descriptor, hok, -⟩ := Discovery.exists_mem_profilesIn hps hn'
    rw [hload, hf] at hok
    cases hok

/-! ## Builds that are stopped -/

/-- What stops a build that began in `w` before it comes to the services, and the world that it leaves: the
authority's descriptor, the authority, or the descriptor of a service. -/
inductive Stopped (host : Host) (s : Settings) (force : Bool) (w : World σ) : Failure → World σ → Prop
  | byDescriptor {f : Descriptor.Fault}
    (hf : Descriptor.loadAuthority w.tree s.authorityDescriptorPath = .error f) :
    Stopped host s force w (authorityFailure s f) w
  | byAuthority {d : AuthorityDescriptor} {e : Failure} {v : World σ}
    (hd : Descriptor.loadAuthority w.tree s.authorityDescriptorPath = .ok d)
    (hensure : (Authority.ensure host s.authorityLayout.directory d none force).exec w = (.error e, v)) :
    Stopped host s force w e v
  | byService {d : AuthorityDescriptor} {a : Authority} {v : World σ} {f : Descriptor.Fault} {log : Log}
    (hd : Descriptor.loadAuthority w.tree s.authorityDescriptorPath = .ok d)
    (hensure : (Authority.ensure host s.authorityLayout.directory d none force).exec w = (.ok a, v))
    (hf : Discovery.profilesIn v.tree s.tlsDirectory s.deploySpace s.defaultSpace = .error f) :
    Stopped host s force w (servicesFailure s f) { v with log := log }

theorem buildAll_stopped {place : String} {force : Bool} (withTokenKeys : Bool) {w : World σ}
    (htool : Keystore.find? w.tree host.searchPath s.keytool = some place) (h : Undescribed s w.tree) :
    ∃ e w', (buildAll host s force withTokenKeys).exec w = (.error e, w') ∧ Stopped host s force w e w' := by
  unfold buildAll
  rw [exec_bind, exec_locate htool]
  dsimp only
  rw [exec_bind, exec_authorityDescriptor]
  rcases hd : Descriptor.loadAuthority w.tree s.authorityDescriptorPath with f | d
  · exact ⟨_, w, rfl, .byDescriptor hd⟩
  obtain ⟨f, hf⟩ | ⟨name, hn, f, hf⟩ := h
  · exact nomatch hd.symm.trans hf
  dsimp only [Except.mapError]
  rw [exec_bind]
  rcases hensure : (Authority.ensure host s.authorityLayout.directory d none force).exec w with ⟨e | a, v⟩
  · exact ⟨e, v, rfl, .byAuthority hd hensure⟩
  · have hwithin := ((Authority.ensure_within s.authorityLayout.directory none force).ran hensure).1
    obtain ⟨f', hf'⟩ := profilesIn_error hn hf hwithin (ServiceLayout.place_descriptor_not_stale _ _)
    obtain ⟨log, hdiscover⟩ := exec_discover s s.deploySpace v
    dsimp only
    rw [exec_bind, hdiscover, hf']
    exact ⟨_, _, rfl, .byService hd hensure hf'⟩

theorem Stopped.refused {force : Bool} {w w' : World σ} {e : Failure} (h : Stopped host s force w e w') :
    Refused host s force w e w'.tree := by
  cases h with
  | byDescriptor hf => exact .byDescriptor hf
  | byAuthority hd hensure =>
    have hwithin := ((Authority.ensure_within s.authorityLayout.directory none force).ran hensure).1
    obtain ⟨⟨p, rfl, hp⟩, hremains⟩ := Authority.acquire_error (Authority.acquire_of_ensure_error hensure)
    exact .byAuthority hd hp hremains hwithin
  | @byService d a v f log hd hensure hf =>
    have hwithin := ((Authority.ensure_within s.authorityLayout.directory none force).ran hensure).1
    refine show Refused host s force w _ v.tree from .byService hd hf (fun hload => ?_) (fun hload => ?_) hwithin
    · exact (Authority.ensure_loaded hensure hload).2.2.2
    · exact ⟨a, Authority.ensure_made hensure hload⟩

theorem build_stopped {place : String} {force : Bool} (withTokenKeys : Bool) {w : World σ}
    (htool : Keystore.find? w.tree host.searchPath s.keytool = some place) (h : Undescribed s w.tree) :
    ∃ e v w', (build host s force withTokenKeys).exec w = (.error e, w') ∧ Stopped host s force w e v ∧
      w'.tree = v.tree := by
  obtain ⟨e, v, hall, hstopped⟩ := buildAll_stopped withTokenKeys htool h
  obtain ⟨w', hcounted, ht, -⟩ := exec_counted_error hall
  refine ⟨e, v, w', ?_, hstopped, ht⟩
  unfold build
  rw [exec_bind, hcounted]

/-- Where the tool is there and a descriptor cannot be read, a build fails. It leaves the files alone if it is
the authority's, or if the authority was only to be loaded; otherwise nothing but generated files of the
authority's directory has changed, but these have: the authority was made anew, or wrecked, before the
services were looked at. -/
theorem build_refused {place : String} {force : Bool} (withTokenKeys : Bool) {w : World σ}
    (htool : Keystore.find? w.tree host.searchPath s.keytool = some place) (h : Undescribed s w.tree) :
    ∃ e w', (build host s force withTokenKeys).exec w = (.error e, w') ∧ Refused host s force w e w'.tree := by
  obtain ⟨e, v, w', hbuild, hstopped, ht⟩ := build_stopped withTokenKeys htool h
  exact ⟨e, w', hbuild, ht ▸ hstopped.refused⟩

/-- An installation with an authority, and with a service whose descriptor says nothing. -/
def undescribedWorld : World DryStore :=
  let l : AuthorityLayout := ({} : Settings).authorityLayout
  let descriptor := (Discovery.layoutOf ({} : Settings).tlsDirectory "a").descriptor
  { Specimen.world with tree := ⟨Specimen.tree.entries.filter (·.1 ≠ descriptor.place) ++ [
    (descriptor.place, .file [] 0o644),
    (l.key.place, .file (Specimen.suite.keyPem (Specimen.key 9)) 0o600),
    (l.cert.place, .file (Specimen.certificatePem (Specimen.certificate 9 9)) 0o644),
    (l.csr.place, .file [3] 0o644)]⟩ }

theorem undescribed_build_replaces_authority :
    Keystore.find? undescribedWorld.tree Specimen.host.searchPath ({} : Settings).keytool = some "/bin/keytool" ∧
    Undescribed {} undescribedWorld.tree ∧
    ∃ e w', (build Specimen.host {} true).exec undescribedWorld = (.error e, w') ∧
      Refused Specimen.host {} true undescribedWorld e w'.tree ∧
      w'.tree.read ({} : Settings).authorityLayout.key ≠
        undescribedWorld.tree.read ({} : Settings).authorityLayout.key := by
  have htool : Keystore.find? undescribedWorld.tree Specimen.host.searchPath ({} : Settings).keytool =
      some "/bin/keytool" := by decide +kernel
  have hundescribed : Undescribed {} undescribedWorld.tree :=
    .inr ⟨"a", by decide +kernel, eq_error_of_toBool (by decide +kernel)⟩
  obtain ⟨e, w', hbuild, hrefused⟩ := build_refused true htool hundescribed
  have hreplaced : ((build Specimen.host {} true).exec undescribedWorld).2.tree.read
      ({} : Settings).authorityLayout.key ≠ undescribedWorld.tree.read ({} : Settings).authorityLayout.key := by
    decide +kernel
  rw [hbuild] at hreplaced
  exact ⟨htool, hundescribed, e, w', hbuild, hrefused, hreplaced⟩

end Pipeline

end ServiceTrust
