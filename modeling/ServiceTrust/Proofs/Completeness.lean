/-
A build that returned can be deployed. Building and publishing agree on the names of all files: what
`Ready` says of the roles of a service and `Authority.Stands` of the authority is enough for every entry
of every secret of every convention to have its file, and for what the secrets hold to belong together.
The one thing in between is that the deployment has to find the services that the build found.
-/
import ServiceTrust.Proofs.Pipeline.Deploy

namespace ServiceTrust

open Stage ServiceTrust.Tree Keystore Publish

namespace Pipeline

variable {σ : Type} {host : Host} {s : Settings} {authority : Authority} {p : Profile} {t : Tree}

/-! ## What secrets are made from -/

/-- Every role of the service is ready under the authority, whose files are there. -/
structure Complete (suite : Suite) (authority : Authority) (p : Profile) (t : Tree) : Prop where
  ready : ∀ r ∈ Role.all, ∃ m password, Ready suite authority p r t m password
  stands : Authority.Stands suite t authority

/-- What is ready for a service is so for every service of the same name in the same directory. -/
theorem Ready.congr {suite : Suite} {q : Profile} {r : Role} {m : Material} {password : String}
    (h : Ready suite authority p r t m password) (hname : q.name = p.name) (hlayout : q.layout = p.layout) :
    Ready suite authority q r t m password := by
  obtain ⟨⟨hservice, hrole, hauthority, hcertPath, hkeyPath, hcsrPath, hcert, hkey, hcsr⟩, hpairs, hchained, hpacked,
    hstores⟩ := h
  rw [← hlayout] at hcertPath hkeyPath hcsrPath hcert hkey hcsr hpacked hstores
  exact ⟨⟨hservice.trans hname.symm, hrole, hauthority, hcertPath, hkeyPath, hcsrPath, hcert, hkey, hcsr⟩, hpairs,
    hchained, hpacked, hstores⟩

/-- The authority's files to publish are those of the authority. -/
def authorityPaths (authority : Authority) : AuthorityFiles := ⟨authority.layout.cert, authority.layout.key⟩

theorem Complete.congr {suite : Suite} {q : Profile} (h : Complete suite authority p t)
    (hname : q.name = p.name) (hlayout : q.layout = p.layout) : Complete suite authority q t := by
  refine ⟨fun r hr => ?_, h.stands⟩
  obtain ⟨m, password, hready⟩ := h.ready r hr
  exact ⟨m, password, hready.congr hname hlayout⟩

theorem Complete.hasFiles {suite : Suite} (h : Complete suite authority p t) (r : Role) :
    HasFiles t (dataEntries p r (authorityPaths authority)) := by
  intro e he
  obtain ⟨b, hb, rfl⟩ := mem_dataEntries he
  cases hs : b.2 with
  | authorityCert => exact isFile_iff_read.mpr ⟨_, h.stands.cert⟩
  | authorityKey => exact isFile_iff_read.mpr ⟨_, h.stands.key⟩
  | file role a =>
    obtain ⟨m, password, hready⟩ := h.ready role role.mem_all
    exact hready.isFile a

/-! ## What belongs together -/

/-- What the data of a secret of `p` under the CA certificate `ca` says: the certificate verifies against
it, the key is the certificate's, and of the shared roles the chain is their certificate and `ca`, and
the key store opens with the password less the end of its line. -/
structure Coherent (suite : Suite) (t : Tree) (p : Profile) (data : List (String × Bytes)) (ca : Bytes) :
    Prop where
  authority : data.lookup (authorityKeyName.text p.name) = some ca
  pair : ∃ cert key, data.lookup ((certKey p.convention).text p.name) = some cert ∧
    data.lookup ((keyKey p.convention).text p.name) = some key ∧
    suite.Verifies cert ca ∧ suite.Pairs cert key
  chain : ∀ r ∈ [Role.server, Role.client], ∃ leaf, t.read (p.layout.path r .cert) = .ok leaf ∧
    data.lookup ((chainKey r).text p.name) = some (leaf ++ ca)
  store : ∀ r ∈ [Role.server, Role.client], ∃ store password content,
    data.lookup ((keystoreKey r).text p.name) = some store ∧
    data.lookup ((passwordKey r).text p.name) = some (Text.encode (password ++ "\n")) ∧
    suite.readStore store password = some content

theorem Ready.verifies {suite : Suite} {r : Role} {m : Material} {password : String}
    (h : Ready suite authority p r t m password) (hs : Authority.Stands suite t authority) :
    suite.Verifies m.certPem authority.certPem := by
  obtain ⟨c, hc, hissuer⟩ := h.chained
  exact ⟨c, _, hc, hs.certificate, hissuer⟩

theorem Complete.coherent {suite : Suite} (hkeys : suite.KeepsKeys) (h : Complete suite authority p t)
    (r : Role) : Coherent suite t p (contents t (dataEntries p r (authorityPaths authority)))
      authority.certPem := by
  refine ⟨lookup_primary (binds_authority _ r) h.stands.cert, ?_, fun role hrole => ?_, fun role hrole => ?_⟩
  · obtain ⟨m, password, hready⟩ := h.ready (certRole p.convention r) (Role.mem_all _)
    exact ⟨m.certPem, m.keyPem, lookup_primary (binds_cert _ r) hready.issued.cert,
      lookup_primary (binds_key _ r) (read_iff_find?.mpr ⟨_, hready.issued.key⟩), hready.verifies h.stands,
      hready.pairs hkeys⟩
  · obtain ⟨m, password, hready⟩ := h.ready role role.mem_all
    obtain rfl := hready.issued.role
    have hchain := hready.packed.chain
    rw [Material.chainPem, hready.issued.authorityPem] at hchain
    exact ⟨m.certPem, hready.issued.cert, lookup_primary (binds_shared _ r hrole).1 hchain⟩
  · obtain ⟨m, password, hready⟩ := h.ready role role.mem_all
    obtain rfl := hready.issued.role
    obtain ⟨bytes, content, hstore, hopens, -⟩ := hready.packed.keystore
    exact ⟨bytes, password, content, lookup_primary (binds_shared _ r hrole).2.1 hstore,
      lookup_primary (binds_shared _ r hrole).2.2 (hready.packed.passwords .password (by simp)), hopens⟩

/-! ## What a build leaves -/

/-- However a build that returned changed the files, no descriptor is among them, and the services that it
worked on are complete. -/
theorem build_complete (hconf : Confined host.tool) (hdel : Delivers host.tool)
    (hsuite : host.suite.ReadsAuthorities) {force withTokenKeys : Bool} {w w' : World σ} {result : BuildResult}
    (h : (build host s force withTokenKeys).exec w = (.ok result, w')) :
    ∃ t, (∃ dirs, Within (stalePlaces s.authorityLayout.directory.place) dirs w.tree t) ∧
      Discovery.profilesIn t s.tlsDirectory s.deploySpace s.defaultSpace = .ok result.profiles ∧
      (∃ files dirs, Within files dirs t w'.tree ∧
        ∀ l : ServiceLayout, l.descriptor.place ∉ files) ∧
      result.authority.layout = s.authorityLayout ∧
      (AuthorityApart s t → Authority.Stands host.suite w'.tree result.authority ∧
        ∀ p ∈ result.profiles, Complete host.suite result.authority p w'.tree) := by
  obtain ⟨w₁, w₂, w₃, w₄, d, made, ⟨ht₁, -⟩, hensure, hps, ht₃, hmade, -, hrest⟩ := build_ok h
  obtain ⟨hlayout, hstands, -⟩ := Authority.ensure_ok hsuite hensure
  have hauthority := ((Authority.ensure_within s.authorityLayout.directory none force).ran hensure).1
  have hservices := services_within result.authority hconf hps ht₃
  rw [hmade] at hservices
  obtain ⟨_, -, hfinished⟩ := build_finished hconf hdel h
  -- the token keys come last, and share no name with anything that was made before
  obtain ⟨dirs, htokens⟩ := tokenKeys_last hrest
  have hdescriptor (l : ServiceLayout) : l.descriptor.place ∉
      servicePlaces w₂.tree s.tlsDirectory ∪ TokenKeys.places s.tokenDirectory.place := by
    rintro (hm | hm)
    · exact descriptor_not_mem_servicePlaces _ _ l hm
    · exact l.place_descriptor_not_stale _ (TokenKeys.places_subset_stale _ hm)
  refine ⟨w₂.tree, ⟨_, ht₁ ▸ hauthority⟩, hps, ⟨_, dirs, (hservices.mono Set.subset_union_left
    (Set.empty_subset _)).trans (htokens.mono (fun _ hl => .inr hl.2) subset_rfl), hdescriptor⟩, hlayout,
    fun happart => ?_⟩
  have hkeep {path : Path} (hp : path.place ∈ AuthorityLayout.places s.authorityLayout.directory.place)
      {bytes : Bytes} (hr : w₂.tree.read path = .ok bytes) : w'.tree.read path = .ok bytes :=
    htokens.read (fun hm => placesNamed_disjoint authority_names_apart hp hm.2)
      (hservices.read (authority_places_not_servicePlaces happart hp) hr)
  have hmem {name : String} (hname : name ∈ AuthorityLayout.names) :
      s.authorityLayout.directory.place ++ [name] ∈
        AuthorityLayout.places s.authorityLayout.directory.place := mem_placesNamed.mpr hname
  have hdirectory : result.authority.layout.directory = s.authorityLayout.directory := by rw [hlayout]
  have hstands' : Authority.Stands host.suite w'.tree result.authority := by
    refine ⟨hkeep ?_ hstands.cert, hkeep ?_ hstands.key, hkeep ?_ hstands.csr, hstands.certificate⟩
    · rw [AuthorityLayout.place_cert, hdirectory]
      exact hmem (by simp [AuthorityLayout.names])
    · rw [AuthorityLayout.place_key, hdirectory]
      exact hmem (by simp [AuthorityLayout.names])
    · rw [AuthorityLayout.place_csr, hdirectory]
      exact hmem (by simp [AuthorityLayout.names])
  refine ⟨hstands', fun p hp => ⟨fun r hr => ?_, hstands'⟩⟩
  obtain ⟨_, -, hroles⟩ := exists_of_forall₂ hfinished hp
  obtain ⟨_, -, hrole⟩ := exists_of_forall₂ hroles hr
  exact ⟨_, _, hrole.ready⟩

/-! ## What a deployment finds -/

theorem build_tokenKeys {force : Bool} {w w' : World σ} {result : BuildResult}
    (h : (build host s force true).exec w = (.ok result, w')) :
    w'.tree.isFile (s.tokenDirectory.child TokenKeys.privateName) = true ∧
      w'.tree.isFile (s.tokenDirectory.child TokenKeys.publicName) = true := by
  obtain ⟨_, _, _, _, _, _, -, -, -, -, -, -, hrest⟩ := build_ok h
  obtain ⟨keys, w₅, hkeys, -, ht⟩ := hrest
  exact ht ▸ TokenKeys.ensure_ok hkeys

/-- The services that are found at the end were found all along, and there are no others, where all that was
cleared is one directory, the authority's, and no descriptor changed after that. -/
theorem found_throughout {t₁ t₂ t₃ : Tree} {d : Path} {authorityPlace : Location}
    {files dirs dirs' : Set Location} {name : String} (hrooted : t₁.Rooted)
    (hbefore : Within (stalePlaces authorityPlace) dirs t₁ t₂) (hafter : Within files dirs' t₂ t₃)
    (hdescriptor : ∀ l : ServiceLayout, l.descriptor.place ∉ files)
    (hfound : t₁.isDirectory d = true ∨
      ∀ name ∈ Discovery.serviceNames t₃ d, name ∈ Discovery.serviceNames t₁ d) :
    (name ∈ Discovery.serviceNames t₃ d → name ∈ Discovery.serviceNames t₁ d) ∧
      (name ∈ Discovery.serviceNames t₃ d ↔ name ∈ Discovery.serviceNames t₂ d) := by
  have hstale : (Discovery.layoutOf d name).descriptor.place ∉ stalePlaces authorityPlace :=
    ServiceLayout.place_descriptor_not_stale _ _
  have hearlier (hm : name ∈ Discovery.serviceNames t₃ d) : name ∈ Discovery.serviceNames t₁ d := by
    rcases hfound with hd | hall
    · have hwithin := (hbefore.mono Set.subset_union_left Set.subset_union_left).trans
        (hafter.mono (Set.subset_union_right (s := stalePlaces authorityPlace))
          (Set.subset_union_right (s := dirs)))
      exact Discovery.mem_serviceNames_of_rooted hrooted hd hwithin
        (fun hm => hm.elim hstale (hdescriptor _)) hm
    · exact hall name hm
  exact ⟨hearlier, fun hm => (Discovery.serviceNames_mono hbefore hstale (hearlier hm)).1,
    fun hm => (Discovery.serviceNames_mono hafter (hdescriptor _) hm).1⟩

/-- A build that returned can be deployed: whatever the store holds, every secret is published, and each
secret of a role is coherent under the certificate of the authority. Without a directory of services to
begin with the build finds none; then those that are there afterwards must have been there before. -/
theorem build_then_deploy (hcert : s.authorityCert = none) (hkey : s.authorityKey = none)
    (hconf : Confined host.tool) (hdel : Delivers host.tool)
    (hreads : host.suite.ReadsAuthorities) (hkeeps : host.suite.KeepsKeys) {w w' : World σ}
    (hrooted : w.tree.Rooted) (happart : AuthorityApart s w.tree) {force : Bool} {result : BuildResult}
    (h : (build host s force true).exec w = (.ok result, w'))
    (hfound : w.tree.isDirectory s.tlsDirectory = true ∨
      ∀ name ∈ Discovery.serviceNames w'.tree s.tlsDirectory,
        name ∈ Discovery.serviceNames w.tree s.tlsDirectory)
    (space : Option String) (tlsOnly : Bool) (v : World DryStore) (hv : v.tree = w'.tree) :
    ∃ (ps : List Profile) (rs : List SecretRecord) (v' : World DryStore) (ca : Bytes),
      (deploy DryStore.store s space tlsOnly).exec v = (.ok rs, v') ∧
      ps.map (·.name) = result.profiles.map (·.name) ∧
      rs = deployRecords w'.tree s (spaceOf s space) tlsOnly ps ∧
      w'.tree.read s.authorityLayout.cert = .ok ca ∧
      ∀ p ∈ ps, ∀ role ∈ Role.all, ∃ r ∈ rs, r.name = secretName p.name role ∧
        (∀ e ∈ dataEntries p role (authorityFiles s), w'.tree.isFile e.2 = true) ∧
        r.data = contents w'.tree (dataEntries p role (authorityFiles s)) ∧
        Coherent host.suite w'.tree p r.data ca := by
  obtain ⟨t, ⟨dirs, hbefore⟩, hps, ⟨files, dirs', hafter, hdescriptor⟩, hlayout, hcomplete⟩ :=
    build_complete hconf hdel hreads h
  have hlater {name : String} (hm : name ∈ Discovery.serviceNames t s.tlsDirectory) :=
    Discovery.serviceNames_mono hafter (hdescriptor _) hm
  have hall (name : String) : (name ∈ Discovery.serviceNames w'.tree s.tlsDirectory →
      name ∈ Discovery.serviceNames w.tree s.tlsDirectory) ∧ (name ∈ Discovery.serviceNames w'.tree s.tlsDirectory ↔
        name ∈ Discovery.serviceNames t s.tlsDirectory) :=
    found_throughout hrooted hbefore hafter hdescriptor hfound
  have hsame {name : String} := (hall name).2
  obtain ⟨hstands, hwork⟩ := hcomplete fun name hm => happart name ((hall name).1 (hsame.mpr hm))
  obtain ⟨ps, hps'⟩ := Discovery.exists_profilesIn (t := w'.tree) (d := s.tlsDirectory)
    (spaceOf s space) s.defaultSpace fun name hm => by
      obtain ⟨_, -, -, descriptor, hload, -⟩ := Discovery.exists_mem_profilesIn hps (hsame.mp hm)
      exact ⟨descriptor, (hlater (hsame.mp hm)).2.trans hload⟩
  have hpaths : authorityFiles s = authorityPaths result.authority := by
    simp [authorityFiles, authorityPaths, hcert, hkey, hlayout]
  have hps_complete : ∀ p ∈ ps, Complete host.suite result.authority p w'.tree := by
    intro p hp
    obtain ⟨hname, descriptor, -, he⟩ := Discovery.mem_profilesIn hps' hp
    obtain ⟨q, hq, hqname, descriptor', -, hqe⟩ := Discovery.exists_mem_profilesIn hps (hsame.mp hname)
    exact (hwork q hq).congr hqname.symm (by rw [he, hqe]; rfl)
  have hdeployable : Deployable w'.tree s tlsOnly ps :=
    ⟨fun p hp role _ => hpaths ▸ (hps_complete p hp).hasFiles role, fun _ => build_tokenKeys h⟩
  obtain ⟨v', hv', -, -, -⟩ := deploy_leaves (w := v) (hv.symm ▸ hps') (hv.symm ▸ hdeployable)
  refine ⟨ps, _, v', result.authority.certPem, hv', ?_, by rw [hv], hlayout ▸ hstands.cert,
    fun p hp role hrole => ?_⟩
  · rw [Discovery.profilesIn_names hps', Discovery.profilesIn_names hps]
    exact Discovery.serviceNames_eq fun _ => hsame
  · refine ⟨primaryRecord w'.tree (authorityFiles s) (targetSpace s (spaceOf s space) p.name) p role, ?_,
      rfl, hdeployable.1 p hp role hrole, rfl, ?_⟩
    · rw [hv]
      exact primaryRecord_mem_deployRecords hp hrole
    · rw [hpaths]
      exact (hps_complete p hp).coherent hkeeps role

set_option maxRecDepth 100000 in
theorem specimen_build_then_deploy :
    ∃ result w', (build Specimen.host {} false true).exec Specimen.world = (.ok result, w') ∧
      ∀ v : World DryStore, v.tree = w'.tree → ∃ (ps : List Profile) (rs : List SecretRecord) (v' : World DryStore)
        (ca : Bytes), (deploy DryStore.store {}).exec v = (.ok rs, v') ∧
        ps.map (·.name) = result.profiles.map (·.name) ∧
        ∀ p ∈ ps, ∀ role ∈ Role.all, ∃ r ∈ rs, r.name = secretName p.name role ∧
          Coherent Specimen.suite w'.tree p r.data ca := by
  have hreturns : ((build Specimen.host {} false true).exec Specimen.world).1.isOk = true := by decide +kernel
  have hapart : AuthorityApart {} Specimen.tree := by
    unfold AuthorityApart
    decide
  rcases h : (build Specimen.host {} false true).exec Specimen.world with ⟨e | result, w'⟩
  · rw [h] at hreturns
    cases hreturns
  · refine ⟨result, w', rfl, fun v hv => ?_⟩
    obtain ⟨ps, rs, v', ca, hdeploy, hnames, -, -, hall⟩ := build_then_deploy rfl rfl
      Specimen.host_confined Specimen.host_delivers Specimen.readsAuthorities Specimen.keepsKeys
      Specimen.tree_rooted hapart h (.inl (by decide)) none false v hv
    refine ⟨ps, rs, v', ca, hdeploy, hnames, fun p hp role hrole => ?_⟩
    obtain ⟨r, hr, hname, -, -, hcoherent⟩ := hall p hp role hrole
    exact ⟨r, hr, hname, hcoherent⟩

/-- Services in the working directory, which is reached through a directory that is not there yet. -/
def throughTokens : Settings :=
  { tlsDirectory := (⟨.relative, ["jwt", ".."]⟩ : Path)
    authorityDescriptor := some ⟨.relative, ["ca", AuthorityLayout.descriptorName]⟩ }

def besideTokens : World DryStore :=
  { Specimen.world with tree := ⟨[
    (["/", "bin"], .directory),
    (["/", "bin", "keytool"], .file [] 0o755),
    (["ca"], .directory),
    (["ca", AuthorityLayout.descriptorName], .file (Specimen.descriptorBytes "root") 0o644),
    (["a"], .directory),
    (["a", ServiceLayout.descriptorName], .file (Specimen.descriptorBytes "a") 0o644)]⟩ }

set_option maxRecDepth 100000 in
/-- The build finds no services, makes the directory of the token keys, and the deployment finds one. -/
theorem build_then_deploy_fails :
    throughTokens.authorityCert = none ∧ throughTokens.authorityKey = none ∧
    (∀ t, t = besideTokens.tree ∨ t = ((build Specimen.host throughTokens false true).exec besideTokens).2.tree →
      ∀ name ∈ Discovery.serviceNames t throughTokens.tlsDirectory,
        (throughTokens.tlsDirectory.child name).place ≠ throughTokens.authorityLayout.directory.place ∧
        (throughTokens.tlsDirectory.child name).place ≠ throughTokens.tokenDirectory.place) ∧
    ∃ result w', (build Specimen.host throughTokens false true).exec besideTokens = (.ok result, w') ∧
      ∃ e v', (deploy DryStore.store throughTokens).exec w' = (.error e, v') := by
  refine ⟨rfl, rfl, ?_, ?_⟩
  · rintro t (rfl | rfl) <;> decide +kernel
  have hreturns : ((build Specimen.host throughTokens false true).exec besideTokens).1.isOk = true := by
    decide +kernel
  have hfails : ((deploy DryStore.store throughTokens).exec
      ((build Specimen.host throughTokens false true).exec besideTokens).2).1.isOk = false := by
    decide +kernel
  rcases h : (build Specimen.host throughTokens false true).exec besideTokens with ⟨e | result, w'⟩
  · rw [h] at hreturns
    cases hreturns
  · rw [h] at hfails
    refine ⟨result, w', rfl, ?_⟩
    rcases hd : (deploy DryStore.store throughTokens).exec w' with ⟨e | rs, v'⟩
    · exact ⟨e, v', rfl⟩
    · rw [hd] at hfails
      cases hfails

end Pipeline

end ServiceTrust
