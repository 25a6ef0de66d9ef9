/-
A deployment to the store of a dry run. It returns exactly when discovery finds services and every
file behind every entry is there; it returns the records of `Publish.deployRecords` and has written
these, so whatever was in the store before, it converges to them and keeps everything else.
-/
import ServiceTrust.Proofs.Specimen
import ServiceTrust.Proofs.Pipeline.Build
import ServiceTrust.Proofs.Publish.Records

namespace ServiceTrust

open Stage ServiceTrust.Tree Publish

variable {t : Tree} {s : Settings} {p : Publisher DryStore} {profile : Profile} {role : Role} {space : String}

namespace Puts

/-- A first part of which only the answer depends on the store. -/
theorem bind_any {α β : Type} {act : Stage DryStore α} {f : α → Stage DryStore β} {ready : Prop} {b : β}
    {rs : List SecretRecord}
    (h : ∀ w, w.tree = t → ∃ a w', act.exec w = (.ok a, w') ∧ w'.tree = t ∧
      w'.store.records = w.store.records) (hf : ∀ a, Puts t (f a) ready b rs) :
    Puts t (act >>= f) ready b rs := by
  refine ⟨fun hr w hw => ?_, fun hr w hw => ?_⟩
  · obtain ⟨a, w₁, ha, ht, hstore⟩ := h w hw
    obtain ⟨w', ws, hw', ht', hmem, hstore'⟩ := (hf a).returns hr w₁ ht
    exact ⟨w', ws, bind_ok.mpr ⟨a, w₁, ha, hw'⟩, ht', hmem,
      hstore'.trans (DryStore.records_putAll_congr hstore)⟩
  · obtain ⟨a, w₁, ha, ht, -⟩ := h w hw
    rw [exec_bind, ha]
    exact (hf a).fails hr w₁ ht

theorem ensureSpace (space : String) (w : World DryStore) (hw : w.tree = t) :
    ∃ b w', (DryStore.ensureSpace space).exec w = (.ok b, w') ∧ w'.tree = t ∧
      w'.store.records = w.store.records := by
  unfold DryStore.ensureSpace DryStore.modifyStore
  rw [exec_bind, exec_get]
  dsimp only
  split
  · exact ⟨_, _, rfl, hw, rfl⟩
  · exact ⟨_, _, rfl, hw, rfl⟩

theorem counted {α : Type} {act : Stage DryStore α} {ready : Prop} {a : α} {rs : List SecretRecord}
    (h : Puts t act ready a rs) : Puts t (Pipeline.counted act) ready a rs := by
  refine ⟨fun hr w hw => ?_, fun hr w hw => ?_⟩
  · obtain ⟨w', ws, hw', hrest⟩ := h.returns hr w hw
    exact ⟨w', ws, Pipeline.counted_ok.mpr hw', hrest⟩
  · obtain ⟨e, w', hw'⟩ := h.fails hr w hw
    unfold Pipeline.counted
    rw [exec_tryCatch, hw']
    cases e with
    | fault f => exact ⟨_, _, rfl⟩
    | pipeline f => exact ⟨_, _, rfl⟩

/-! ## The secrets of a service -/

/-- The authority's files are among those of every secret, so a broker's secrets need no others. -/
theorem hasFiles_auxiliaries (space : String) {authority : AuthorityFiles}
    (h : HasFiles t (dataEntries profile role authority)) :
    ∀ a ∈ auxiliarySecrets profile role space authority, HasFiles t a.entries := by
  have hthere (k : Key) (source : Source) (hb : binds profile.convention role k source = true) :
      t.isFile (source.path profile.layout authority) = true :=
    h _ (Lookup.mem_of_lookup (lookup_dataEntries hb))
  have hcert : t.isFile authority.cert = true :=
    hthere (.fixed "caCert") .authorityCert
      (by cases profile.convention <;> cases role <;> decide)
  have hkey : t.isFile authority.key = true :=
    hthere (.fixed "caKey") .authorityKey
      (by cases profile.convention <;> cases role <;> decide)
  intro a ha e he
  unfold auxiliarySecrets at ha
  split at ha
  · simp only [List.flatMap_cons, List.flatMap_nil, List.append_nil, List.cons_append, List.nil_append,
      List.mem_cons, List.not_mem_nil, or_false] at ha
    rcases ha with rfl | rfl | rfl | rfl
    all_goals
      obtain rfl := List.mem_singleton.mp he
      assumption
  · cases ha

theorem auxiliaries_eq (t : Tree) (profile : Profile) (role : Role) (space : String)
    (authority : AuthorityFiles) (convention kind : String) (hint : Option String) :
    (auxiliarySecrets profile role space authority).map (fun a =>
        fileRecord t ⟨a.name, space, a.entries, a.labels, a.annotations, convention, kind, hint⟩) =
      if hasAuxiliaries profile role then auxiliaryRecords t authority space else [] := by
  unfold auxiliarySecrets hasAuxiliaries
  split <;> rfl

theorem publish (hp : p.store = DryStore.store) (role : Role) (bundle : Option Bundle) :
    Puts t (p.publish bundle profile role space) (HasFiles t (dataEntries profile role p.authority))
      (roleRecords t p.authority space profile role) (roleRecords t p.authority space profile role) := by
  have hprimary := publishFiles (t := t) hp ⟨secretName profile.name role, space,
    dataEntries profile role p.authority, [], [], profile.convention.name, "primary",
    some (remediationHint (secretName profile.name role) space
      ((dataEntries profile role p.authority).map (·.1)))⟩
  have hauxiliaries := mapM (t := t) (auxiliarySecrets profile role space p.authority)
    fun a _ => publishFiles hp ⟨a.name, space, a.entries, a.labels, a.annotations,
      profile.convention.name, "auxiliary",
      some (remediationHint (secretName profile.name role) space
        ((dataEntries profile role p.authority).map (·.1)))⟩
  refine ((checkFiles _ _).bind fun hfiles => (forM fun a _ => checkFiles a.name a.entries).bind fun _ =>
    hauxiliaries.bind fun records => hprimary.bind fun _ => (log _ _ _).bind fun _ =>
      pure (primaryRecord t p.authority space profile role ::
        (auxiliarySecrets profile role space p.authority).map _)).mono ?_ (fun _ => ?_) fun r => ?_
  · refine ⟨fun h => ?_, fun h => h.1⟩
    have haux := hasFiles_auxiliaries space h
    exact ⟨h, haux, haux, h, trivial, trivial⟩
  · rw [auxiliaries_eq]
    rfl
  · rw [← List.map_eq_flatMap, auxiliaries_eq]
    simp only [roleRecords, primaryRecord, fileRecord, List.mem_append, List.mem_cons,
      List.not_mem_nil, or_false, false_or]
    exact or_comm

theorem publishTokenKeys (hp : p.store = DryStore.store) (s : Settings) (space : String) :
    Puts t (TokenKeys.publish p (TokenKeys.pairIn s.tokenDirectory false) space s.credentialsApp)
      (t.isFile (s.tokenDirectory.child TokenKeys.privateName) = true ∧
        t.isFile (s.tokenDirectory.child TokenKeys.publicName) = true)
      (tokenRecord t s space) [tokenRecord t s space] :=
  (publishFiles hp _).mono (by simp [HasFiles, TokenKeys.pairIn]) (fun _ => rfl) fun _ => Iff.rfl

theorem publishCredentials (hp : p.store = DryStore.store) (s : Settings) (space : String) :
    Puts t (Credentials.publish p s space) True (credentialRecords s space) (credentialRecords s space) := by
  refine (mapM _ fun e _ => (publishLiteral hp e.1 space e.2 "credentials").bind fun _ =>
    (log _ _ _).bind fun _ => pure (literalRecord e.1 space e.2)).mono (by simp) (fun _ => rfl) fun r => ?_
  simp [credentialRecords, @eq_comm _ r]

end Puts

namespace Pipeline

/-- The namespace of a deployment that is given one, or none. -/
def spaceOf (s : Settings) (space : Option String) : String :=
  (space.filter (!·.isEmpty)).getD s.deploySpace

theorem target_eq (s : Settings) (space service : String) :
    ((some (Routing.space service space s.defaultSpace)).filter (!·.isEmpty)).getD space =
      targetSpace s space service := by
  rw [targetSpace, Routing.space_eq]
  by_cases hrouted : service ∈ Routing.routed
  · cases h : space.isEmpty <;> simp [Option.filter, h, hrouted]
  · cases h : s.defaultSpace.isEmpty <;> simp [Option.filter, h, hrouted]

theorem deployService_puts (hp : p.store = DryStore.store) (hauthority : p.authority = authorityFiles s)
    (hspace : profile.space = some (Routing.space profile.name space s.defaultSpace))
    (hroles : profile.roles = Role.all) :
    Puts t (deployService p space profile)
      (∀ role ∈ Role.all, HasFiles t (dataEntries profile role (authorityFiles s)))
      (serviceRecords t s space profile) (serviceRecords t s space profile) := by
  obtain ⟨store, strategy, authority⟩ := p
  obtain rfl : store = DryStore.store := hp
  obtain rfl : authority = authorityFiles s := hauthority
  have hwork : Puts t (do
      let records ← profile.roles.mapM fun role =>
        Publisher.publish ⟨DryStore.store, strategy, authorityFiles s⟩ none profile role
          (targetSpace s space profile.name)
      return records.flatten : Stage DryStore (List SecretRecord))
      (∀ role ∈ Role.all, HasFiles t (dataEntries profile role (authorityFiles s)))
      (serviceRecords t s space profile) (serviceRecords t s space profile) := by
    rw [hroles]
    refine (Puts.mapM Role.all fun role _ => Puts.publish rfl role none).andReturn.mono Iff.rfl
      (fun _ => ?_) fun r => ?_
    · rw [serviceRecords, List.flatMap]
    · rw [serviceRecords]
  unfold deployService
  rw [hspace, target_eq]
  dsimp only
  split
  · exact .bind_any (Puts.ensureSpace _) fun _ => hwork
  · exact hwork

theorem discover_puts {ps : List Profile}
    (h : Discovery.profilesIn t s.tlsDirectory space s.defaultSpace = .ok ps) :
    Puts t (discover s space) True ps [] := by
  refine .quiet fun w hw => ?_
  obtain ⟨log, he⟩ := exec_discover s space w
  rw [hw, h] at he
  exact ⟨_, he, rfl, rfl⟩

/-- All files that a deployment of the services `ps` publishes are there. -/
def Deployable (t : Tree) (s : Settings) (tlsOnly : Bool) (ps : List Profile) : Prop :=
  (∀ p ∈ ps, ∀ role ∈ Role.all, HasFiles t (dataEntries p role (authorityFiles s))) ∧
    (tlsOnly = false → t.isFile (s.tokenDirectory.child TokenKeys.privateName) = true ∧
      t.isFile (s.tokenDirectory.child TokenKeys.publicName) = true)

theorem profilesIn_spaces {ps : List Profile}
    (h : Discovery.profilesIn t s.tlsDirectory space s.defaultSpace = .ok ps) :
    ∀ p ∈ ps, p.space = some (Routing.space p.name space s.defaultSpace) ∧ p.roles = Role.all := by
  intro p hp
  obtain ⟨-, descriptor, -, he⟩ := Discovery.mem_profilesIn h hp
  rw [he]
  exact ⟨rfl, rfl⟩

theorem deploy_puts (space : Option String) (tlsOnly : Bool) {ps : List Profile}
    (h : Discovery.profilesIn t s.tlsDirectory (spaceOf s space) s.defaultSpace = .ok ps) :
    Puts t (deploy DryStore.store s space tlsOnly) (Deployable t s tlsOnly ps)
      (deployRecords t s (spaceOf s space) tlsOnly ps) (deployRecords t s (spaceOf s space) tlsOnly ps) := by
  have hspaces := profilesIn_spaces h
  have hall : Puts t (deployAll DryStore.store s (spaceOf s space) tlsOnly) (Deployable t s tlsOnly ps)
      (deployRecords t s (spaceOf s space) tlsOnly ps) (deployRecords t s (spaceOf s space) tlsOnly ps) := by
    have hservices := Puts.mapM (t := t) ps fun p hp =>
      deployService_puts (p := ⟨DryStore.store, s.strategy, authorityFiles s⟩) rfl rfl
        (hspaces p hp).1 (hspaces p hp).2
    unfold deployAll
    cases tlsOnly with
    | true =>
      simp only [if_true]
      refine ((discover_puts h).bind fun _ => Puts.bind_any (Puts.ensureSpace _) fun _ =>
        hservices.andReturn).mono (by simp [Deployable]) (fun _ => ?_) fun r => ?_
      · simp [deployRecords, List.flatMap]
      · simp [deployRecords]
    | false =>
      simp only [Bool.false_eq_true, if_false]
      refine ((discover_puts h).bind fun _ => Puts.bind_any (Puts.ensureSpace _) fun _ =>
        hservices.bind fun _ => (Puts.publishTokenKeys rfl s _).bind fun _ =>
          (Puts.publishCredentials rfl s _).andReturn).mono (by simp [Deployable])
        (fun _ => ?_) fun r => ?_
      · simp [deployRecords, List.flatMap]
      · simp [deployRecords]
  exact (hall.counted.bind fun _ => (Puts.log _ _ _).bind fun _ =>
    .pure (deployRecords t s (spaceOf s space) tlsOnly ps)).mono (by simp) (fun _ => rfl) fun _ => by simp

/-- A deployment without services that could be loaded fails, and asks nothing of its store. -/
theorem deploy_undiscovered {σ : Type} (store : SecretStore σ) {f : Descriptor.Fault} {space : Option String}
    (tlsOnly : Bool) {w : World σ}
    (h : Discovery.profilesIn w.tree s.tlsDirectory (spaceOf s space) s.defaultSpace = .error f) :
    ∃ w', (deploy store s space tlsOnly).exec w = (.error (servicesFailure s f), w') ∧ w'.store = w.store := by
  obtain ⟨log, hdiscover⟩ := exec_discover s (spaceOf s space) w
  rw [h] at hdiscover
  have hall : (deployAll store s (spaceOf s space) tlsOnly).exec w =
      (.error (servicesFailure s f), { w with log := log }) := bind_error.mpr (.inl hdiscover)
  obtain ⟨w', hcounted, -, hstore⟩ := exec_counted_error hall
  exact ⟨w', bind_error.mpr (.inl hcounted), hstore⟩

/-- A deployment that returned found its services and all their files. -/
theorem deploy_ok {space : Option String} {tlsOnly : Bool} {w w' : World DryStore} {rs : List SecretRecord}
    (h : (deploy DryStore.store s space tlsOnly).exec w = (.ok rs, w')) :
    ∃ ps, Discovery.profilesIn w.tree s.tlsDirectory (spaceOf s space) s.defaultSpace = .ok ps ∧
      Deployable w.tree s tlsOnly ps := by
  cases hps : Discovery.profilesIn w.tree s.tlsDirectory (spaceOf s space) s.defaultSpace with
  | error f =>
    obtain ⟨w₁, he, -⟩ := deploy_undiscovered DryStore.store tlsOnly hps
    rw [he] at h
    cases (Prod.mk.inj h).1
  | ok ps =>
    refine ⟨ps, rfl, ?_⟩
    by_contra hnot
    obtain ⟨e, w₁, he⟩ := (deploy_puts space tlsOnly hps).fails hnot w rfl
    rw [he] at h
    cases (Prod.mk.inj h).1

/-- Where services and files are there, a deployment returns their records, the store has each of
them, and what it has besides is what it had. -/
theorem deploy_leaves {space : Option String} {tlsOnly : Bool} {ps : List Profile} {w : World DryStore}
    (hps : Discovery.profilesIn w.tree s.tlsDirectory (spaceOf s space) s.defaultSpace = .ok ps)
    (hfiles : Deployable w.tree s tlsOnly ps) :
    ∃ w', (deploy DryStore.store s space tlsOnly).exec w =
        (.ok (deployRecords w.tree s (spaceOf s space) tlsOnly ps), w') ∧ w'.tree = w.tree ∧
      (∀ r ∈ deployRecords w.tree s (spaceOf s space) tlsOnly ps,
        w'.store.get? r.name r.space = some r) ∧
      ∀ name target, (∀ r ∈ deployRecords w.tree s (spaceOf s space) tlsOnly ps,
        ¬ r.isAt name target = true) → w'.store.get? name target = w.store.get? name target := by
  obtain ⟨w', ws, hw', ht, hmem, hstore⟩ := (deploy_puts space tlsOnly hps).returns hfiles w rfl
  have hget (name target : String) : w'.store.get? name target = (w.store.putAll ws).get? name target := by
    rw [DryStore.get?, hstore, DryStore.get?]
  have hnames : (ps.map (·.name)).Nodup :=
    Discovery.profilesIn_names hps ▸ Discovery.nodup_serviceNames w.tree s.tlsDirectory
  have hconsistent : Consistent ws := fun a ha b hb =>
    consistent_deployRecords hnames a ((hmem a).mp ha) b ((hmem b).mp hb)
  refine ⟨w', hw', ht, fun r hr => ?_, fun name target hnone => ?_⟩
  · rw [hget]
    exact DryStore.get?_putAll hconsistent ((hmem r).mpr hr)
  · rw [hget]
    exact DryStore.get?_putAll_of_not fun r hr => hnone r ((hmem r).mp hr)

/-- A deployment that returned gave exactly the records of its services, in the order of their names,
and of the token keys and the credentials; each of them is in the store, which is otherwise as it was,
and the files are untouched. From any other store the same files give the same records, and deploying
once more changes no secret. -/
theorem deploy_realises_records {space : Option String} {tlsOnly : Bool} {w w' : World DryStore}
    {rs : List SecretRecord} (h : (deploy DryStore.store s space tlsOnly).exec w = (.ok rs, w')) :
    (∃ ps, Discovery.profilesIn w.tree s.tlsDirectory (spaceOf s space) s.defaultSpace = .ok ps ∧
      ps.map (·.name) = Discovery.serviceNames w.tree s.tlsDirectory ∧
      (ps.map (·.name)).Pairwise (· ≤ ·) ∧ Deployable w.tree s tlsOnly ps ∧
      rs = deployRecords w.tree s (spaceOf s space) tlsOnly ps) ∧
    (∀ r ∈ rs, w'.store.get? r.name r.space = some r) ∧
    (∀ name target, (∀ r ∈ rs, ¬ r.isAt name target = true) →
      w'.store.get? name target = w.store.get? name target) ∧
    w'.tree = w.tree ∧
    (∀ v : World DryStore, v.tree = w.tree →
      ∃ v', (deploy DryStore.store s space tlsOnly).exec v = (.ok rs, v') ∧
        (∀ r ∈ rs, v'.store.get? r.name r.space = some r) ∧
        (v.store = w'.store → ∀ name target, v'.store.get? name target = v.store.get? name target)) := by
  obtain ⟨ps, hps, hfiles⟩ := deploy_ok h
  obtain ⟨w₁, hw₁, ht, hthere, hother⟩ := deploy_leaves hps hfiles
  rw [h] at hw₁
  obtain ⟨hrs, rfl⟩ := Prod.mk.inj hw₁
  obtain rfl := Except.ok.inj hrs
  have hnames := Discovery.profilesIn_names hps
  refine ⟨⟨ps, hps, hnames, hnames ▸ Discovery.pairwise_serviceNames _ _, hfiles, rfl⟩, hthere, hother, ht, ?_⟩
  intro v hv
  obtain ⟨v', hv', -, hthere', hother'⟩ := deploy_leaves (w := v) (hv.symm ▸ hps) (hv.symm ▸ hfiles)
  rw [hv] at hv' hthere' hother'
  refine ⟨v', hv', hthere', fun hstore name target => ?_⟩
  by_cases hat : ∃ r ∈ deployRecords w.tree s (spaceOf s space) tlsOnly ps, r.isAt name target = true
  · obtain ⟨r, hr, hname⟩ := hat
    obtain ⟨rfl, rfl⟩ := SecretRecord.isAt_iff.mp hname
    rw [hthere' r hr, hstore, hthere r hr]
  · exact hother' name target fun r hr hname => hat ⟨r, hr, hname⟩

/-- The specimen with all files of its service, an authority and token keys. -/
def issuedTree : Tree :=
  ⟨Specimen.tree.entries ++
    [(["tls", "ca", "ca.pem"], .file [0] 0o644), (["tls", "ca", "ca-key.pem"], .file [1] 0o600),
      (["jwt"], .directory), (["jwt", TokenKeys.privateName], .file [2] 0o600),
      (["jwt", TokenKeys.publicName], .file [3] 0o644)] ++
    Role.all.flatMap fun r => Artifact.all.map fun a => (["tls", "a", Artifact.fileName r a], .file [4] 0o600)⟩

set_option maxRecDepth 100000 in
theorem specimen_deploy_realises_records :
    ∃ rs w', (deploy DryStore.store {}).exec { Specimen.world with tree := issuedTree } = (.ok rs, w') ∧
      (∃ ps, ps.map (·.name) = ["a"] ∧ Deployable issuedTree {} false ps ∧
        rs = deployRecords issuedTree {} "default" false ps) ∧
      (∀ r ∈ rs, w'.store.get? r.name r.space = some r) ∧ w'.tree = issuedTree := by
  have hreturns : ((deploy DryStore.store {}).exec { Specimen.world with tree := issuedTree }).1.isOk = true := by
    decide +kernel
  have hnames : Discovery.serviceNames issuedTree ({} : Settings).tlsDirectory = ["a"] := by decide +kernel
  rcases h : (deploy DryStore.store {}).exec { Specimen.world with tree := issuedTree } with ⟨e | rs, w'⟩
  · rw [h] at hreturns
    cases hreturns
  · obtain ⟨⟨ps, -, hps, -, hfiles, hrs⟩, hthere, -, ht, -⟩ := deploy_realises_records h
    exact ⟨rs, w', rfl, ⟨ps, hps.trans hnames, hfiles, hrs⟩, hthere, ht⟩

end Pipeline

end ServiceTrust
