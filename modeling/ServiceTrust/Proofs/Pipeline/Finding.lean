/-
Which services a run finds, in whatever order the file system lists their directory. Only the files matter: the
services are the direct subdirectories with a descriptor, by name, and if one of them has a descriptor that gives
no service, the first of these is what discovery fails with. A build makes nothing that bears on this before it
comes to look for services, so build and deployment over the same files go through the same services in the same
order, or end with the same fault.
-/
import ServiceTrust.Pipeline.Deploy
import ServiceTrust.Proofs.Pipeline.Build
import ServiceTrust.Proofs.Pipeline.Deploy
import ServiceTrust.Proofs.Specimen
import ServiceTrust.Proofs.Tree.Listing

namespace ServiceTrust

open Stage ServiceTrust.Tree

/-- The service apart from the namespace that it is published into. -/
def Profile.unrouted (p : Profile) : Profile := { p with space := none }

namespace Discovery

variable {σ : Type} {t t' : Tree} {d : Path} {deploySpace defaultSpace name : String} {w : World σ}
  {f : Descriptor.Fault}

/-- The directory `name` of `d` is that of a service. -/
structure IsService (t : Tree) (d : Path) (name : String) : Prop where
  proper : isName name = true
  directory : t.isDirectory (d.child name) = true
  descriptor : t.isFile ((d.child name).child ServiceLayout.descriptorName) = true

/-- The directory `name` of `d` has a descriptor that gives a service. -/
def Loads (t : Tree) (d : Path) (name : String) : Prop :=
  ∃ descriptor, Descriptor.loadService t (layoutOf d name).descriptor = .ok descriptor

/-- `p` is a service of `d`, with what belongs to it. -/
structure Discovered (t : Tree) (d : Path) (deploySpace defaultSpace : String) (p : Profile) : Prop where
  service : IsService t d p.name
  layout : p.layout.directory = d.child p.name
  descriptor : Descriptor.loadService t p.layout.descriptor = .ok p.descriptor
  convention : p.convention = Routing.packing p.name
  space : p.space = some (if p.name ∈ Routing.routed then deploySpace else defaultSpace)
  roles : p.roles = Role.all

theorem isService_iff : IsService t d name ↔ name ∈ serviceNames t d := by
  rw [mem_serviceNames]
  exact ⟨fun h => ⟨h.proper, h.directory, h.descriptor⟩, fun h => ⟨h.1, h.2.1, h.2.2⟩⟩

/-- `outcome` is what discovery in `d` has to come to: the services by name where all of them load, and
otherwise the fault of the first one that does not. -/
structure Finds (t : Tree) (d : Path) (deploySpace defaultSpace : String)
    (outcome : Except Failure (List Profile)) : Prop where
  every : (∀ name, IsService t d name → Loads t d name) → ∃ ps, outcome = .ok ps ∧
    (ps.map (·.name)).Pairwise (· < ·) ∧ (∀ name, name ∈ ps.map (·.name) ↔ IsService t d name) ∧
    ∀ p ∈ ps, Discovered t d deploySpace defaultSpace p
  first : ¬ (∀ name, IsService t d name → Loads t d name) → ∃ name fault, IsService t d name ∧
    Descriptor.loadService t (layoutOf d name).descriptor = .error fault ∧
    (∀ m, IsService t d m → m < name → Loads t d m) ∧ outcome = .error (.fault (.descriptor fault))

/-! ## Any order of the listing -/

theorem directories_sameFiles (h : SameFiles t t') (d : Path) : directories t' d = directories t d := by
  rw [directories, directories, h.sortedNames]
  exact List.filter_congr fun name _ => h.isDirectory _

theorem serviceNames_sameFiles (h : SameFiles t t') (d : Path) : serviceNames t' d = serviceNames t d := by
  rw [serviceNames, serviceNames, directories_sameFiles h]
  exact List.filter_congr fun name _ => h.isFile _

theorem profilesIn_sameFiles (h : SameFiles t t') :
    profilesIn t' d deploySpace defaultSpace = profilesIn t d deploySpace defaultSpace :=
  profilesIn_congr (serviceNames_sameFiles h d) fun _ _ => loadService_congr (h.read _)

/-! ## What is found -/

theorem outcome_profiles (d : Path) (deploySpace defaultSpace : String) (w : World σ) :
    ((profiles d deploySpace defaultSpace).exec w).1 =
      (profilesIn w.tree d deploySpace defaultSpace).mapError fun f => .fault (.descriptor f) := by
  obtain ⟨log, h⟩ := exec_profiles d deploySpace defaultSpace w
  rw [h]

theorem discovered_of_mem {ps : List Profile} (h : profilesIn t d deploySpace defaultSpace = .ok ps)
    {p : Profile} (hp : p ∈ ps) : Discovered t d deploySpace defaultSpace p := by
  obtain ⟨hname, descriptor, hload, he⟩ := mem_profilesIn h hp
  generalize p.name = name at hname hload he
  subst he
  exact ⟨isService_iff.mpr hname, rfl, hload, Routing.convention_eq name,
    congrArg some (Routing.space_eq name deploySpace defaultSpace), rfl⟩

/-- The first service without a loadable descriptor decides. -/
theorem profilesIn_first (h : profilesIn t d deploySpace defaultSpace = .error f) :
    ∃ name, IsService t d name ∧ Descriptor.loadService t (layoutOf d name).descriptor = .error f ∧
      ∀ m, IsService t d m → m < name → Loads t d m := by
  obtain ⟨before, name, after, hnames, hfails, hbefore⟩ := mapM_eq_error h
  have hload : ∀ m, (∃ p, profileIn t d deploySpace defaultSpace m = .ok p) → Loads t d m := by
    rintro m ⟨p, hp⟩
    obtain ⟨descriptor, hm, -⟩ := profileIn_ok hp
    exact ⟨descriptor, hm⟩
  refine ⟨name, isService_iff.mpr (hnames ▸ by simp), profileIn_error hfails, fun m hm hlt => ?_⟩
  -- the names increase, so what is less than the first one that fails comes before it
  have hincreasing := increasing_serviceNames t d
  rw [hnames] at hincreasing
  have hmem := isService_iff.mp hm
  rw [hnames, List.mem_append, List.mem_cons] at hmem
  rcases hmem with hmem | rfl | hmem
  · exact hload m (hbefore m hmem)
  · exact absurd hlt (String.lt_irrefl m)
  · have hgt := (List.pairwise_cons.mp (List.pairwise_append.mp hincreasing).2.1).1 m hmem
    exact absurd hlt (String.lt_asymm hgt)

theorem finds (d : Path) (deploySpace defaultSpace : String) (w : World σ) :
    Finds w.tree d deploySpace defaultSpace ((profiles d deploySpace defaultSpace).exec w).1 := by
  rw [outcome_profiles]
  constructor
  case every =>
    intro hall
    obtain ⟨ps, hps⟩ := exists_profilesIn deploySpace defaultSpace fun name hname => hall name (isService_iff.mpr hname)
    rw [hps]
    refine ⟨ps, rfl, ?_, fun name => ?_, fun p hp => discovered_of_mem hps hp⟩
    · rw [profilesIn_names hps]
      exact increasing_serviceNames _ _
    · rw [profilesIn_names hps, isService_iff]
  case first =>
    intro hsome
    cases hps : profilesIn w.tree d deploySpace defaultSpace with
    | ok ps =>
      refine absurd (fun name hname => ?_) hsome
      obtain ⟨-, -, -, descriptor, hload, -⟩ := exists_mem_profilesIn hps (isService_iff.mp hname)
      exact ⟨descriptor, hload⟩
    | error fault =>
      obtain ⟨name, hname, hload, hbefore⟩ := profilesIn_first hps
      exact ⟨name, fault, hname, hload, hbefore, rfl⟩

/-- Apart from their namespaces the services do not depend on that of the deployment. -/
theorem unrouted_profilesIn (t : Tree) (d : Path) (deploySpace deploySpace' defaultSpace : String) :
    (profilesIn t d deploySpace' defaultSpace).map (List.map Profile.unrouted) =
      (profilesIn t d deploySpace defaultSpace).map (List.map Profile.unrouted) := by
  have hprofile (name : String) : (profileIn t d deploySpace' defaultSpace name).map Profile.unrouted =
      (profileIn t d deploySpace defaultSpace name).map Profile.unrouted := by
    unfold profileIn
    cases Descriptor.loadService t (layoutOf d name).descriptor <;> rfl
  rw [profilesIn, profilesIn, map_mapM, map_mapM]
  exact congrArg (fun g => List.mapM g _) (funext hprofile)

end Discovery

namespace Pipeline

variable {σ : Type}

/-! ## A build and a deployment with what discovery comes to -/

/-- What discovery comes to in a run with the settings `s` that deploys into `space`. -/
def found (s : Settings) (space : String) (w : World σ) : Except Failure (List Profile) :=
  ((Discovery.profiles s.tlsDirectory space s.defaultSpace).exec w).1

/-- Work on the services that were found; a descriptor that gives none is told as a failure of the pipeline
where it can be. -/
def onServices {α : Type} (s : Settings) (found : Except Failure (List Profile)) (work : List Profile → Stage σ α) :
    Stage σ α :=
  match found with
  | .ok ps => work ps
  | .error (.fault (.descriptor f)) => throw (servicesFailure s f)
  | .error e => throw e

theorem found_congr {τ : Type} {w : World σ} {v : World τ} {s : Settings} {space : String}
    (h : Discovery.profilesIn v.tree s.tlsDirectory space s.defaultSpace =
      Discovery.profilesIn w.tree s.tlsDirectory space s.defaultSpace) : found s space v = found s space w := by
  rw [found, found, Discovery.outcome_profiles, Discovery.outcome_profiles, h]

theorem counted_discover (s : Settings) (space : String) {β : Type} (f : List Profile → Stage σ β) (w : World σ) :
    ∃ log, (counted (discover s space >>= f)).exec w =
      (counted (onServices s (found s space w) f)).exec { w with log := log } := by
  obtain ⟨log, h⟩ := exec_discover s space w
  refine ⟨log, ?_⟩
  rw [found, Discovery.outcome_profiles]
  cases hfound : Discovery.profilesIn w.tree s.tlsDirectory space s.defaultSpace with
  | ok ps =>
    rw [hfound] at h
    exact exec_counted_bind h f
  | error fault =>
    rw [hfound] at h
    unfold counted
    rw [exec_tryCatch, exec_bind, h, exec_tryCatch]
    rfl

theorem unrouted_found (s : Settings) (space : String) (w : World σ) :
    (found s space w).map (List.map Profile.unrouted) =
      (found s s.deploySpace w).map (List.map Profile.unrouted) := by
  have hprofiles := Discovery.unrouted_profilesIn w.tree s.tlsDirectory s.deploySpace space s.defaultSpace
  have hfault (outcome : Except Descriptor.Fault (List Profile)) :
      (outcome.mapError fun f => Failure.fault (.descriptor f)).map (List.map Profile.unrouted) =
        (outcome.map (List.map Profile.unrouted)).mapError fun f => .fault (.descriptor f) := by
    cases outcome <;> rfl
  rw [found, found, Discovery.outcome_profiles, Discovery.outcome_profiles, hfault, hfault, hprofiles]

section Build

variable (host : Host) (s : Settings) (force withTokenKeys : Bool)

/-- What a build needs before it looks for services. -/
def provide : Stage σ Authority := do
  let _ ← Keystore.locate host s.keytool
  let descriptor ← authorityDescriptor s
  Authority.ensure host s.authorityLayout.directory descriptor none force

/-- What a build makes of the services `ps`. -/
def buildServices (authority : Authority) (ps : List Profile) : Stage σ BuildResult := do
  let made := (← ps.mapM (buildService host s authority)).flatten
  let tokenKeys ←
    if withTokenKeys then some <$> TokenKeys.ensure host s.tokenDirectory force else pure none
  return ⟨authority, ps, made.map (·.1), made.map (·.2), tokenKeys⟩

/-- The rest of a build for which discovery came to `found`. -/
def buildOf (authority : Authority) (found : Except Failure (List Profile)) : Stage σ BuildResult := do
  let result ← counted (onServices s found (buildServices host s force withTokenKeys authority))
  log .info "build_complete" [("services", .texts (result.profiles.map (·.name))),
    ("certificates", .int result.materials.length),
    ("ca_storage", .text result.authority.origin.name)]
  return result

theorem buildAll_eq : (buildAll host s force withTokenKeys : Stage σ BuildResult) = (do
    let authority ← provide host s force
    let ps ← discover s s.deploySpace
    buildServices host s force withTokenKeys authority ps) := by
  unfold buildAll provide buildServices
  simp only [bind_assoc]

/-- Nothing that is provided bears on what discovery comes to. -/
theorem found_of_provide {w w₁ : World σ} {a : Authority} (h : (provide host s force).exec w = (.ok a, w₁))
    (space : String) : found s space w₁ = found s space w := by
  obtain ⟨_, w₂, hlocate, h⟩ := bind_ok.mp h
  obtain ⟨d, w₃, hd, hensure⟩ := bind_ok.mp h
  have ht := ((Keystore.locate_still _).ran hlocate).1
  obtain ⟨hd, rfl⟩ := authorityDescriptor_ok hd
  obtain ⟨hwithin, -⟩ := ensure_provides hd rfl hensure
  refine found_congr ?_
  rw [← ht]
  exact Discovery.profilesIn_within hwithin fun l => l.place_descriptor_not_stale _

theorem build_of_provide {w w₁ : World σ} {a : Authority} (h : (provide host s force).exec w = (.ok a, w₁)) :
    ∃ log, (build host s force withTokenKeys).exec w =
      (buildOf host s force withTokenKeys a (found s s.deploySpace w)).exec { w₁ with log := log } := by
  obtain ⟨log, hdiscover⟩ := counted_discover s s.deploySpace (buildServices host s force withTokenKeys a) w₁
  rw [found_of_provide host s force h] at hdiscover
  refine ⟨log, exec_bind_congr ?_ _⟩
  rw [buildAll_eq, exec_counted_bind h, hdiscover]

theorem build_of_not_provide {w w₁ : World σ} {e : Failure} (h : (provide host s force).exec w = (.error e, w₁)) :
    ((build host s force withTokenKeys).exec w).1 = .error e := by
  have hall : (buildAll host s force withTokenKeys).exec w = (.error e, w₁) := by
    rw [buildAll_eq, exec_bind, h]
  obtain ⟨v, hcounted, -⟩ := exec_counted_error hall
  unfold build
  rw [exec_bind, hcounted]

end Build

section Deploy

variable (store : SecretStore σ) (s : Settings) (space : String) (tlsOnly : Bool)

/-- What a deployment makes of the services `ps`. -/
def deployServices (ps : List Profile) : Stage σ (List SecretRecord) := do
  let p : Publisher σ := ⟨store, s.strategy, authorityFiles s⟩
  let _ ← store.ensureSpace space
  let records := (← ps.mapM (deployService p space)).flatten
  if tlsOnly then return records
  let keys ← TokenKeys.publish p (TokenKeys.pairIn s.tokenDirectory false) space s.credentialsApp
  let credentials ← Credentials.publish p s space
  return records ++ keys :: credentials

/-- A deployment into `space` for which discovery came to `found`. -/
def deployOf (found : Except Failure (List Profile)) : Stage σ (List SecretRecord) := do
  let records ← counted (onServices s found (deployServices store s space tlsOnly))
  log .info "deploy_complete" [("namespace", .text space),
    ("secrets", .texts (records.map (·.name)))]
  return records

end Deploy

theorem exec_deploy (store : SecretStore σ) (s : Settings) (space : Option String) (tlsOnly : Bool) (w : World σ) :
    ∃ log, (deploy store s space tlsOnly).exec w =
      (deployOf store s (spaceOf s space) tlsOnly (found s (spaceOf s space) w)).exec { w with log := log } := by
  obtain ⟨log, h⟩ := counted_discover s (spaceOf s space) (deployServices store s (spaceOf s space) tlsOnly) w
  exact ⟨log, exec_bind_congr h _⟩

end Pipeline

/-- Discovery over the same files comes to the same, in whatever order they are listed: to exactly the services,
increasing by name, or to the fault of the first one whose descriptor gives none. A build that could provide its
authority goes on with what discovery comes to in the files that it started with, one that could not ends there,
and a deployment goes on with what discovery comes to; these are the same services in the same order, apart from
the namespaces that they are routed to, or the same fault. -/
theorem discovery_exact_in_any_order {σ τ : Type} (host : Host) (s : Settings) (store : SecretStore τ)
    (w : World σ) (v : World τ) (hsame : SameFiles w.tree v.tree) :
    (∀ d deploySpace defaultSpace,
      Discovery.Finds w.tree d deploySpace defaultSpace
        ((Discovery.profiles d deploySpace defaultSpace).exec w).1 ∧
      ((Discovery.profiles d deploySpace defaultSpace).exec v).1 =
        ((Discovery.profiles d deploySpace defaultSpace).exec w).1) ∧
    (∀ force withTokenKeys e w₁, (Pipeline.provide host s force).exec w = (.error e, w₁) →
      ((Pipeline.build host s force withTokenKeys).exec w).1 = .error e) ∧
    (∀ force withTokenKeys authority w₁, (Pipeline.provide host s force).exec w = (.ok authority, w₁) →
      ∃ log, (Pipeline.build host s force withTokenKeys).exec w =
        (Pipeline.buildOf host s force withTokenKeys authority (Pipeline.found s s.deploySpace w)).exec
          { w₁ with log := log }) ∧
    (∀ space tlsOnly, ∃ log, (Pipeline.deploy store s space tlsOnly).exec v =
      (Pipeline.deployOf store s (Pipeline.spaceOf s space) tlsOnly
        (Pipeline.found s (Pipeline.spaceOf s space) v)).exec { v with log := log }) ∧
    ∀ space, (Pipeline.found s space v).map (List.map Profile.unrouted) =
      (Pipeline.found s s.deploySpace w).map (List.map Profile.unrouted) := by
  refine ⟨fun d deploySpace defaultSpace => ⟨Discovery.finds _ _ _ _, ?_⟩, ?_, ?_, fun space tlsOnly => ?_,
    fun space => ?_⟩
  · rw [Discovery.outcome_profiles, Discovery.outcome_profiles, Discovery.profilesIn_sameFiles hsame]
  · exact fun force withTokenKeys e w₁ h => Pipeline.build_of_not_provide host s force withTokenKeys h
  · exact fun force withTokenKeys authority w₁ h => Pipeline.build_of_provide host s force withTokenKeys h
  · exact Pipeline.exec_deploy store s space tlsOnly v
  · rw [Pipeline.found_congr (Discovery.profilesIn_sameFiles hsame)]
    exact Pipeline.unrouted_found s space w

/-- The specimen with another service, which is listed first, a directory that has a descriptor only further
down, and a plain file. -/
def scattered : World DryStore :=
  { Specimen.world with tree := ⟨[
      (["tls", "b"], .directory),
      (["tls", "b", ServiceLayout.descriptorName], .file (Specimen.descriptorBytes "b") 0o644),
      (["tls", "c"], .directory),
      (["tls", "c", "d"], .directory),
      (["tls", "c", "d", ServiceLayout.descriptorName], .file (Specimen.descriptorBytes "d") 0o644),
      (["tls", "e"], .file [1] 0o644)] ++ Specimen.tree.entries⟩ }

/-- The same files, listed the other way round. -/
def relisted : World DryStore := { scattered with tree := ⟨scattered.tree.entries.reverse⟩ }

set_option maxRecDepth 100000 in
/-- Whichever way the directory is listed the two services are found by name, and a build of the one listing
and a deployment of the other go on with them. -/
theorem scattered_found :
    let s : Settings := {}
    relisted.tree.names ["tls"] = (scattered.tree.names ["tls"]).reverse ∧ SameFiles scattered.tree relisted.tree ∧
      ((Discovery.profiles s.tlsDirectory s.deploySpace s.defaultSpace).exec relisted).1.toOption.map
        (·.map (·.name)) = some ["a", "b"] ∧
      (∃ authority w₁ log, (Pipeline.provide Specimen.host s false).exec scattered = (.ok authority, w₁) ∧
        (Pipeline.build Specimen.host s).exec scattered =
          (Pipeline.buildOf Specimen.host s false true authority (Pipeline.found s s.deploySpace scattered)).exec
            { w₁ with log := log }) ∧
      ∃ log, (Pipeline.deploy DryStore.store s (some "prod")).exec relisted =
        (Pipeline.deployOf DryStore.store s (Pipeline.spaceOf s (some "prod")) false
          (Pipeline.found s (Pipeline.spaceOf s (some "prod")) relisted)).exec { relisted with log := log } := by
  intro s
  have hsame : SameFiles scattered.tree relisted.tree :=
    sameFiles_of_perm (List.reverse_perm _) (by decide +kernel)
  obtain ⟨hprofiles, -, hbuild, hdeploy, -⟩ :=
    discovery_exact_in_any_order Specimen.host s DryStore.store scattered relisted hsame
  have hfound : ((Discovery.profiles s.tlsDirectory s.deploySpace s.defaultSpace).exec scattered).1.toOption.map
      (·.map (·.name)) = some ["a", "b"] := by decide +kernel
  obtain ⟨authority, w₁, hprovide⟩ :=
    exists_of_isOk (Pipeline.provide Specimen.host s false) scattered (by decide +kernel)
  obtain ⟨log, hbuild⟩ := hbuild false true authority w₁ hprovide
  refine ⟨by decide +kernel, hsame, ?_, ⟨authority, w₁, log, hprovide, hbuild⟩, hdeploy (some "prod") false⟩
  rw [(hprofiles s.tlsDirectory s.deploySpace s.defaultSpace).2, hfound]

end ServiceTrust
