/-
What a build that returned has left. It returns one material and one bundle for every role of every
service, by name of the service, and their files hold them until the end: no later role, no later service
and no token key writes over them. Nothing of an earlier run is left among the generated files of a service,
and all its other files are as they were.
-/
import ServiceTrust.Proofs.Pipeline.Footprint

namespace ServiceTrust

open Stage ServiceTrust.Tree Keystore

/-- The names of the files of all roles. -/
def Artifact.fileNames : List String := Role.all.flatMap fun r => all.map (fileName r)

theorem Artifact.mem_fileNames {name : String} : name ∈ fileNames ↔ ∃ r a, name = fileName r a := by
  simp only [fileNames, List.mem_flatMap, List.mem_map]
  constructor
  · rintro ⟨r, -, a, -, rfl⟩
    exact ⟨r, a, rfl⟩
  · rintro ⟨r, a, rfl⟩
    exact ⟨r, r.mem_all, a, a.mem_all, rfl⟩

example : Artifact.fileNames.length = 30 ∧ Artifact.fileNames.Nodup := by decide

/-- The files of the material are those of its service in `d`, and hold it. -/
structure Material.Stored (d : Path) (t : Tree) (m : Material) : Prop where
  certPath : m.certPath = (Discovery.layoutOf d m.service).path m.role .cert
  keyPath : m.keyPath = (Discovery.layoutOf d m.service).path m.role .key
  csrPath : m.csrPath = (Discovery.layoutOf d m.service).path m.role .csr
  cert : t.read m.certPath = .ok m.certPem
  /-- Nobody but its owner may read the key. -/
  key : t.find? m.keyPath = some (.file m.keyPem 0o600)
  chain : t.read ((Discovery.layoutOf d m.service).path m.role .chain) = .ok m.chainPem

/-- The bundle is in the directory of its service in `d`, with its password. -/
structure Bundle.Stored (d : Path) (t : Tree) (b : Bundle) : Prop where
  layout : b.layout = Discovery.layoutOf d b.service
  passwords : ∀ a ∈ [Artifact.password, .jksPassword], t.read (b.path a) = .ok (Text.encode (b.password ++ "\n"))

namespace Pipeline

variable {σ : Type} {host : Host} {s : Settings} {t : Tree} {ps : List Profile}

/-! ## What was made, in order -/

/-- The roles of services, service by service. -/
def rolesOf {α : Type} (services : List α) : List (α × Role) :=
  services.flatMap fun p => [.server, .peer, .client].map (p, ·)

theorem map_rolesOf {α β : Type} (f : α → β) (services : List α) :
    (rolesOf services).map (Prod.map f id) = rolesOf (services.map f) := by
  simp only [rolesOf, List.map_flatMap, List.flatMap_map, List.map_map]
  rfl

theorem mem_rolesOf {α : Type} {services : List α} {p : α} {r : Role} : (p, r) ∈ rolesOf services ↔ p ∈ services := by
  cases r <;> simp [rolesOf]

theorem forall₂_rolesOf {α β : Type} {R : α → Role → β → Prop} {services : List α} {made : List (List β)}
    (h : List.Forall₂ (fun p made => List.Forall₂ (R p) Role.all made) services made) :
    List.Forall₂ (fun pr b => R pr.1 pr.2 b) (rolesOf services) made.flatten := by
  refine List.rel_flatten (List.forall₂_map_left_iff.mpr (h.imp fun p made hmade => ?_))
  exact List.forall₂_map_left_iff.mpr hmade

/-- What was made for the roles of the services names them in order. -/
theorem map_made {β : Type} {R : Profile × Role → β → Prop} {made : List β} {f : β → String × Role}
    (h : List.Forall₂ R (rolesOf ps) made) (hf : ∀ pr b, R pr b → f b = (pr.1.name, pr.2)) :
    made.map f = rolesOf (ps.map (·.name)) := by
  rw [← map_rolesOf, ← List.forall₂_eq_eq_eq, List.forall₂_map_left_iff, List.forall₂_map_right_iff]
  exact h.flip.imp fun b pr => hf pr b

/-! ## The end of a build -/

/-- From `t` a build has come to `t'` with the result. -/
structure Yields (s : Settings) (t t' : Tree) (result : BuildResult) : Prop where
  profiles : result.profiles.map (·.name) = Discovery.serviceNames t s.tlsDirectory
  increasing : (Discovery.serviceNames t s.tlsDirectory).Pairwise (· < ·)
  materials : result.materials.map (fun m => (m.service, m.role)) =
    rolesOf (Discovery.serviceNames t s.tlsDirectory)
  bundles : result.bundles.map (fun b => (b.service, b.role)) = rolesOf (Discovery.serviceNames t s.tlsDirectory)
  material : ∀ m ∈ result.materials, m.Stored s.tlsDirectory t'
  bundle : ∀ b ∈ result.bundles, b.Stored s.tlsDirectory t'
  /-- Of generated files there are those of the roles. -/
  generated : ∀ service ∈ Discovery.serviceNames t s.tlsDirectory, ∀ name, isName name = true →
    isStale name = true → (t'.isFile ((s.tlsDirectory.child service).child name) = true ↔ name ∈ Artifact.fileNames)
  /-- All other files are as they were. -/
  others : ∀ service ∈ Discovery.serviceNames t s.tlsDirectory, ∀ name, isName name = true →
    isStale name = false → t'.heldAt ((s.tlsDirectory.child service).child name).place =
      t.heldAt ((s.tlsDirectory.child service).child name).place

section Finished

variable {suite : Suite} {authority : Authority} {p : Profile} {r : Role} {made : Material × Bundle} {d : Path}

theorem Finished.stored_material (h : Finished suite authority p t r made) (hd : p.layout.directory = d.child p.name) :
    made.1.Stored d t := by
  have hlayout : Discovery.layoutOf d made.1.service = p.layout := by
    rw [h.ready.issued.service, Discovery.layoutOf, ← hd]
  obtain ⟨-, rfl, -, hcertPath, hkeyPath, hcsrPath, hcert, hkey, -⟩ := h.ready.issued
  exact ⟨hlayout ▸ hcertPath, hlayout ▸ hkeyPath, hlayout ▸ hcsrPath, hcertPath ▸ hcert, hkeyPath ▸ hkey,
    hlayout ▸ h.ready.packed.chain⟩

theorem Finished.stored_bundle (h : Finished suite authority p t r made) (hd : p.layout.directory = d.child p.name) :
    made.2.Stored d t := by
  have hlayout : made.2.layout = p.layout := by rw [h.bundle]
  have hservice : made.2.service = p.name := by rw [h.bundle]
  have hrole : made.2.role = made.1.role := by rw [h.bundle, h.ready.issued.role]
  refine ⟨by rw [hlayout, hservice, Discovery.layoutOf, ← hd], fun a ha => ?_⟩
  rw [Bundle.path, hlayout, hrole]
  exact h.ready.packed.passwords a ha

end Finished

/-- Where the token keys do not go to the directory of a service, it keeps no generated file that is of no
role. -/
theorem build_cleared (hconf : Confined host.tool) {force withTokenKeys : Bool} {w w' : World σ}
    {result : BuildResult} (h : (build host s force withTokenKeys).exec w = (.ok result, w')) {p : Profile}
    (hp : p ∈ result.profiles)
    (htokens : withTokenKeys = true → p.layout.directory.place ≠ s.tokenDirectory.place) {name : String}
    (hname : isName name = true ∧ isStale name = true)
    (hother : ∀ r, name ∉ ServiceLayout.namesFor r Artifact.all) :
    ¬ w'.tree.HoldsFile (p.layout.directory.place ++ [name]) := by
  obtain ⟨_, _, _, w₄, _, made, -, -, hps, ht₃, hmade, -, hrest⟩ := build_ok h
  obtain ⟨dirs, hlast⟩ := tokenKeys_last hrest
  refine (hlast.holdsFile ?_).not.mpr (services_cleared hconf hps ht₃ hmade hname hother p hp)
  rintro ⟨hkeys, key, -, he⟩
  exact htokens hkeys (List.append_inj_left' he rfl)

/-- Where the token keys do not go to the directory of a service, its generated files are those of its roles:
clearing leaves nothing else, and the work on a role nothing but them. -/
theorem build_generated (hconf : Confined host.tool) (hdel : Delivers host.tool)
    {force withTokenKeys : Bool} {w w' : World σ} {result : BuildResult}
    (h : (build host s force withTokenKeys).exec w = (.ok result, w')) {p : Profile} (hp : p ∈ result.profiles)
    (htokens : withTokenKeys = true → p.layout.directory.place ≠ s.tokenDirectory.place) {name : String}
    (hname : isName name = true) (hstale : isStale name = true) :
    w'.tree.isFile (p.layout.directory.child name) = true ↔ name ∈ Artifact.fileNames := by
  obtain ⟨_, -, hfinished⟩ := build_finished hconf hdel h
  obtain ⟨_, -, hroles⟩ := exists_of_forall₂ hfinished hp
  have hready (r : Role) : ∃ m password, Ready host.suite result.authority p r w'.tree m password := by
    obtain ⟨_, -, hrole⟩ := exists_of_forall₂ hroles r.mem_all
    exact ⟨_, _, hrole.ready⟩
  constructor
  · intro hfile
    have hheld : w'.tree.HoldsFile (p.layout.directory.place ++ [name]) := by
      rw [← p.layout.directory.place_child_name hname]
      exact (isFile_iff.mp hfile).2
    by_contra hother
    -- the authority's certificate was written for the tool, and removed at the end of its role
    by_cases htemporary : ∃ r, name = ServiceLayout.authorityFileName r
    · obtain ⟨r, rfl⟩ := htemporary
      obtain ⟨m, password, hready⟩ := hready r
      obtain rfl := hready.issued.role
      exact hready.packed.cleared (ServiceLayout.place_authorityFile .. ▸ hheld)
    · have hnone (r : Role) : name ∉ ServiceLayout.namesFor r Artifact.all := by
        intro hm
        rcases List.mem_cons.mp hm with hm | hm
        · exact htemporary ⟨r, hm⟩
        · obtain ⟨a, -, rfl⟩ := List.mem_map.mp hm
          exact hother (Artifact.mem_fileNames.mpr ⟨r, a, rfl⟩)
      exact build_cleared hconf h hp htokens ⟨hname, hstale⟩ hnone hheld
  · intro hm
    obtain ⟨r, a, rfl⟩ := Artifact.mem_fileNames.mp hm
    obtain ⟨m, password, hready⟩ := hready r
    exact hready.isFile a

/-- A build that returned has left what it returns, and among the generated files of the services nothing
else. -/
theorem returned_build_yields (hconf : Confined host.tool) (hdel : Delivers host.tool)
    {force withTokenKeys : Bool} {w w' : World σ} {result : BuildResult}
    (htokens : withTokenKeys = true → ∀ service ∈ Discovery.serviceNames w.tree s.tlsDirectory,
      (s.tlsDirectory.child service).place ≠ s.tokenDirectory.place)
    (h : (build host s force withTokenKeys).exec w = (.ok result, w')) : Yields s w.tree w'.tree result := by
  obtain ⟨made, ⟨hmaterials, hbundles⟩, hfinished⟩ := build_finished hconf hdel h
  replace hfinished := forall₂_rolesOf (R := fun p r m => Finished host.suite result.authority p w'.tree r m) hfinished
  obtain ⟨_, _, _, _, _, _, ⟨ht₁, hd⟩, hensure, hps, -⟩ := build_ok h
  have hnames : result.profiles.map (·.name) = Discovery.serviceNames w.tree s.tlsDirectory :=
    (Discovery.profilesIn_names hps).trans (ensure_provides hd ht₁ hensure).2
  have hmade {m : Material × Bundle} (hm : m ∈ made.flatten) :
      m.1.Stored s.tlsDirectory w'.tree ∧ m.2.Stored s.tlsDirectory w'.tree := by
    obtain ⟨⟨p, r⟩, hp, hready⟩ := exists_of_forall₂ hfinished.flip hm
    have hdir := (profile_of_mem hps (mem_rolesOf.mp hp)).2.2.1
    exact ⟨hready.stored_material hdir, hready.stored_bundle hdir⟩
  refine ⟨hnames, ?increasing, ?materials, ?bundles, ?material, ?bundle, ?generated, ?others⟩
  case increasing => exact Discovery.increasing_serviceNames _ _
  case materials =>
    rw [hmaterials, ← hnames, List.map_map]
    exact map_made hfinished fun pr m hm => Prod.ext hm.ready.issued.service hm.ready.issued.role
  case bundles =>
    rw [hbundles, ← hnames, List.map_map]
    exact map_made hfinished fun pr m hm => congrArg (fun b => (b.service, b.role)) hm.bundle
  case material =>
    rw [hmaterials, List.forall_mem_map]
    exact fun m hm => (hmade hm).1
  case bundle =>
    rw [hbundles, List.forall_mem_map]
    exact fun m hm => (hmade hm).2
  case generated =>
    intro service hservice name hname hstale
    obtain ⟨p, hp, rfl⟩ := List.mem_map.mp (hnames ▸ hservice)
    have hdir := (profile_of_mem hps hp).2.2.1
    exact hdir ▸ build_generated hconf hdel h hp (fun hkeys => hdir ▸ htokens hkeys _ hservice) hname hstale
  case others =>
    intro service _ name hname hstale
    have hwithin : Within generatedPlaces Set.univ w.tree ((build host s force withTokenKeys).exec w).2.tree :=
      build_within hconf force withTokenKeys w
    rw [h] at hwithin
    exact hwithin.heldAt fun ⟨d, hm⟩ => place_child_not_stale hname hstale d hm

/-- The specimen with files of an earlier run, and one that no run makes, in the directory of its service. -/
def littered : World DryStore :=
  { Specimen.world with tree := ⟨Specimen.tree.entries ++ [
    (["tls", "a", "server.pem"], .file [1] 0o600),
    (["tls", "a", "other-keystore.p12"], .file [1] 0o600),
    (["tls", "a", "notes"], .file [1] 0o600)]⟩ }

set_option maxRecDepth 100000 in
theorem littered_build_yields : ∃ result w', (build Specimen.host {}).exec littered = (.ok result, w') ∧
    Yields {} littered.tree w'.tree result := by
  have htokens : ∀ service ∈ Discovery.serviceNames littered.tree ({} : Settings).tlsDirectory,
      (({} : Settings).tlsDirectory.child service).place ≠ ({} : Settings).tokenDirectory.place := by decide +kernel
  obtain ⟨result, w', h⟩ := exists_of_isOk (build Specimen.host {}) littered (by decide +kernel)
  exact ⟨result, w', h, returned_build_yields Specimen.host_confined Specimen.host_delivers
    (fun _ => htokens) h⟩

end Pipeline

end ServiceTrust
