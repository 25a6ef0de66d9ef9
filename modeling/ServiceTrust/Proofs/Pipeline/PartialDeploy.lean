/-
A deployment to a cluster of which any request may fail. It writes its publications in a fixed order: for
each service and role the auxiliary secrets and then the one of the role, after all services the token keys
and the credentials. If a request fails, what was written before is there in full, at most the secret that
was being written is gone, and only where secrets are made anew, and all else is as it was.
-/
import ServiceTrust.Proofs.Pipeline.Writes
import ServiceTrust.Proofs.Publish.Sending

namespace ServiceTrust

open Stage ServiceTrust.Tree Publish

variable {σ α : Type} {view : σ → ClusterView} {api : ClusterApi σ} {t : Tree} {s : Settings} {space : String}
  {tlsOnly : Bool}

/-! ## The order of publication -/

namespace Publish

/-- The secrets of one role, the auxiliary ones first. -/
def rolePublications (authority : AuthorityFiles) (space : String) (profile : Profile) (role : Role) :
    List Publication :=
  let name := secretName profile.name role
  let entries := dataEntries profile role authority
  let hint := some (remediationHint name space (entries.map (·.1)))
  let convention := profile.convention.name
  (auxiliarySecrets profile role space authority).map (fun a =>
      .files ⟨a.name, space, a.entries, a.labels, a.annotations, convention, "auxiliary", hint⟩) ++
    [.files ⟨name, space, entries, [], [], convention, "primary", hint⟩]

def servicePublications (s : Settings) (space : String) (profile : Profile) : List Publication :=
  Role.all.flatMap (rolePublications (Pipeline.authorityFiles s) (targetSpace s space profile.name) profile)

def tokenPublication (s : Settings) (space : String) : Publication :=
  .files
    { name := TokenKeys.secretName space s.credentialsApp
      space := space
      entries := [("private-key.pem", s.tokenDirectory.child TokenKeys.privateName),
        ("public-key.pem", s.tokenDirectory.child TokenKeys.publicName)]
      kind := "jwt" }

def credentialPublications (s : Settings) (space : String) : List Publication :=
  (Credentials.values s space).map fun e => .texts e.1 space e.2

/-- What a deployment of the services `ps` publishes, in order. -/
def publications (s : Settings) (space : String) (tlsOnly : Bool) (ps : List Profile) : List Publication :=
  ps.flatMap (servicePublications s space) ++
    if tlsOnly then [] else tokenPublication s space :: credentialPublications s space

theorem mem_role_records {authority : AuthorityFiles} {profile : Profile} {role : Role} {r : SecretRecord} :
    r ∈ (rolePublications authority space profile role).map (·.record t) ↔
      r ∈ roleRecords t authority space profile role := by
  rw [rolePublications, List.map_append, List.map_map]
  show r ∈ (auxiliarySecrets profile role space authority).map (fun a => fileRecord t _) ++ [_] ↔ _
  rw [Puts.auxiliaries_eq, List.mem_append, List.mem_singleton, or_comm]
  exact List.mem_cons.symm

/-- These are the records of the deployment. -/
theorem mem_records {ps : List Profile} {r : SecretRecord} :
    r ∈ (publications s space tlsOnly ps).map (·.record t) ↔ r ∈ deployRecords t s space tlsOnly ps := by
  have hservices : r ∈ (ps.flatMap (servicePublications s space)).map (·.record t) ↔
      r ∈ ps.flatMap (serviceRecords t s space) := by
    simp only [servicePublications, serviceRecords, List.map_flatMap, List.mem_flatMap, mem_role_records]
  rw [publications, deployRecords, List.map_append, List.mem_append, List.mem_append, hservices]
  cases tlsOnly with
  | true => rfl
  | false => simp [tokenPublication, tokenRecord, credentialPublications, credentialRecords, Publication.record,
      fileRecord]

/-- Publications of services with different names do not contradict each other. -/
theorem publications_consistent {ps : List Profile} (hnames : (ps.map (·.name)).Nodup) :
    ∀ p ∈ publications s space tlsOnly ps, ∀ q ∈ publications s space tlsOnly ps, p.key = q.key →
      p.record t = q.record t := by
  intro p hp q hq hkey
  have hmem {p : Publication} (hp : p ∈ publications s space tlsOnly ps) :
      p.record t ∈ deployRecords t s space tlsOnly ps := mem_records.mp (List.mem_map_of_mem hp)
  rw [← p.record_key t, ← q.record_key t] at hkey
  obtain ⟨hspace, hname⟩ := Prod.mk.inj hkey
  exact consistent_deployRecords hnames _ (hmem hp) _ (hmem hq) hname hspace

end Publish

namespace Sends

variable {strategy : ReplaceStrategy} {authority : AuthorityFiles} (h : api.Atomic view)

theorem checkFiles (secret : String) (es : Entries) :
    Sends view strategy t (Publisher.checkFiles secret es) [] := by
  refine quiet fun w hw => ?_
  unfold Publisher.checkFiles
  rw [exec_bind, exec_tree]
  dsimp only
  split
  · exact ⟨hw, rfl, nofun⟩
  · exact ⟨hw, rfl, nofun⟩

theorem read (p : Path) : Sends view strategy t (Stage.read p) [] := by
  refine quiet fun w hw => ?_
  rw [exec_read]
  refine ⟨hw, rfl, fun fault hint => ?_⟩
  cases w.tree.read p <;> exact nofun

theorem readEntries (es : Entries) : Sends view strategy t (Publisher.readEntries es) [] := by
  have hnone : es.flatMap (fun _ => ([] : List Publication)) = [] := List.flatMap_eq_nil_iff.mpr fun _ _ => rfl
  have hall : Sends view strategy t (Publisher.readEntries es) (es.flatMap fun _ => []) :=
    mapM fun e _ => (read e.2).andThen fun _ => pure _
  exact hnone ▸ hall

include h

theorem put {p : Publication} (hp : p.HasFiles t) (hint : Option String) :
    Sends view strategy t
      ((⟨ClusterApi.store api.watched, strategy, authority⟩ : Publisher (σ × List σ)).put (p.record t) hint) [p] := by
  unfold Publisher.put
  refine andThen (rethrow ?_ fun e w => ?_) fun _ => log _ _ _
  · cases strategy with
    | replace => exact replace h hp
    | recreate => exact recreate h hp
  · split
    next fault own => exact ⟨_, _, rfl, rfl, rfl, fun _ _ he => ⟨own, by cases he; rfl⟩⟩
    next => exact ⟨e, w, rfl, rfl, rfl, fun fault hint he => ⟨hint, he⟩⟩

theorem publishFiles (f : Publisher.FileSecret) :
    Sends view strategy t
      ((⟨ClusterApi.store api.watched, strategy, authority⟩ : Publisher (σ × List σ)).publishFiles f)
      [.files f] := by
  unfold Publisher.publishFiles
  refine (checkFiles _ _).after fun w _ w' hw hcheck => ?_
  have hfiles : HasFiles t f.entries := hw ▸ Writing.checkFiles_ok hcheck
  refine (readEntries _).after fun v data v' hv hread => ?_
  obtain rfl : data = contents t f.entries := hv ▸ Writing.readEntries_ok hread
  exact (put h (p := .files f) hfiles f.hint).andThen fun _ => (count _).andThen fun _ => pure _

theorem publishLiteral (name space : String) (values : List (String × String)) (kind : String) :
    Sends view strategy t
      ((⟨ClusterApi.store api.watched, strategy, authority⟩ : Publisher (σ × List σ)).publishLiteral name space
        values kind)
      [.texts name space values] :=
  (put h (p := .texts name space values) trivial _).andThen fun _ => (count _).andThen fun _ => pure _

theorem publish (bundle : Option Bundle) (profile : Profile) (role : Role) (space : String) :
    Sends view strategy t
      ((⟨ClusterApi.store api.watched, strategy, authority⟩ : Publisher (σ × List σ)).publish bundle profile role
        space)
      (rolePublications authority space profile role) := by
  unfold Publisher.publish
  refine (checkFiles _ _).after fun _ _ _ _ _ => (forM fun _ _ => checkFiles _ _).after fun _ _ _ _ _ => ?_
  refine (mapM_one fun a _ => publishFiles h _).bind fun _ _ _ _ _ => ?_
  exact (publishFiles h _).andThen fun _ => (log _ _ _).andThen fun _ => pure _

theorem publishTokenKeys (s : Settings) (space : String) :
    Sends view strategy t
      (TokenKeys.publish ⟨ClusterApi.store api.watched, strategy, authority⟩
        (TokenKeys.pairIn s.tokenDirectory false) space s.credentialsApp)
      [tokenPublication s space] := publishFiles h _

theorem publishCredentials (s : Settings) (space : String) :
    Sends view strategy t
      (Credentials.publish ⟨ClusterApi.store api.watched, strategy, authority⟩ s space)
      (credentialPublications s space) := by
  unfold Credentials.publish credentialPublications
  exact mapM_one fun e _ => (publishLiteral h e.1 space e.2 "credentials").andThen fun _ =>
    (log _ _ _).andThen fun _ => pure _

theorem deployService {profile : Profile}
    (hspace : profile.space = some (Routing.space profile.name space s.defaultSpace))
    (hroles : profile.roles = Role.all) :
    Sends view strategy t
      (Pipeline.deployService ⟨ClusterApi.store api.watched, strategy, Pipeline.authorityFiles s⟩ space profile)
      (servicePublications s space profile) := by
  have hwork : Sends view strategy t (do
      let records ← profile.roles.mapM fun role =>
        Publisher.publish ⟨ClusterApi.store api.watched, strategy, Pipeline.authorityFiles s⟩ none profile role
          (targetSpace s space profile.name)
      return records.flatten : Stage (σ × List σ) (List SecretRecord))
      (servicePublications s space profile) := by
    rw [hroles, servicePublications]
    exact (mapM fun role _ => publish h none profile role _).andThen fun _ => pure _
  unfold Pipeline.deployService
  rw [hspace, Pipeline.target_eq]
  dsimp only
  split
  · exact (ensureSpace h _).after fun _ _ _ _ _ => hwork
  · exact hwork

omit h in
theorem discover (s : Settings) (space : String) : Sends view strategy t (Pipeline.discover s space) [] := by
  refine quiet fun w hw => ?_
  obtain ⟨log, he⟩ := Pipeline.exec_discover s space w
  rw [he]
  refine ⟨hw, rfl, fun fault hint => ?_⟩
  cases Discovery.profilesIn w.tree s.tlsDirectory space s.defaultSpace with
  | error f => cases f <;> exact nofun
  | ok ps => exact nofun

/-- A deployment writes the publications of the services that it finds. -/
theorem deploy (tlsOnly : Bool) {space : Option String} {ps : List Profile}
    (hps : Discovery.profilesIn t s.tlsDirectory (Pipeline.spaceOf s space) s.defaultSpace = .ok ps) :
    Sends view s.strategy t (Pipeline.deploy (ClusterApi.store api.watched) s space tlsOnly)
      (publications s (Pipeline.spaceOf s space) tlsOnly ps) := by
  have hspaces := Pipeline.profilesIn_spaces hps
  have hall : Sends view s.strategy t
      (Pipeline.deployAll (ClusterApi.store api.watched) s (Pipeline.spaceOf s space) tlsOnly)
      (publications s (Pipeline.spaceOf s space) tlsOnly ps) := by
    unfold Pipeline.deployAll
    refine (discover s _).after fun w found _ hw hfound => (ensureSpace h _).after fun _ _ _ _ _ => ?_
    obtain rfl : found = ps := by
      have hok := (Pipeline.discover_ok hfound).1
      rw [hw, hps] at hok
      exact (Except.ok.inj hok).symm
    refine (mapM fun p hp => deployService h (hspaces p hp).1 (hspaces p hp).2).bind fun _ _ _ _ _ => ?_
    cases tlsOnly with
    | true => exact pure _
    | false =>
      exact (publishTokenKeys h s _).bind fun _ _ _ _ _ => (publishCredentials h s _).andThen fun _ => pure _
  exact hall.counted.andThen fun _ => (log _ _ _).andThen fun _ => pure _

end Sends

/-! ## A failed deployment -/

namespace Pipeline

/-- What a run over the publications `order` through the states `ms` leaves where it failed with `fault`: the
publications `done`, the first ones, were written when it was in the state `before`. -/
structure Confined (view : σ → ClusterView) (strategy : ReplaceStrategy) (t : Tree) (order : List Publication)
    (start : σ) (ms : List σ) (fault : StoreFault) (final : σ) (done : List Publication) (before : σ) : Prop where
  starts : done <+: order
  files : ∀ p ∈ done, p.HasFiles t
  /-- A write that failed is that of the next publication. -/
  next : ∀ key, fault.secret? = some key → ∃ p, done ++ [p] <+: order ∧ p.key = key
  reached : before ∈ start :: ms
  sofar : (view before).secrets = Publication.writeAll t (view start).secrets done
  written : ∀ p ∈ done, fault.secret? ≠ some p.key →
    (view final).secrets p.key = some (.ofRecord (p.record t))
  failed : ∀ key, fault.secret? = some key → (view final).secrets key = (view before).secrets key ∨
    strategy = .recreate ∧ (view final).secrets key = none
  others : ∀ key, fault.secret? ≠ some key → (∀ p ∈ done, p.key ≠ key) →
    (view final).secrets key = (view start).secrets key

/-- What a run that failed at a cut leaves is confined. -/
theorem confined_of_sending {order : List Publication} {w w' : World (σ × List σ)} {ms : List σ} {fault : StoreFault}
    {hint : Option String}
    (hsending : Sending view s.strategy t order w (.error (.pipeline (.store fault hint)) : Except Failure α) w' ms)
    (hconsistent : ∀ p ∈ order, ∀ q ∈ order, p.key = q.key → p.record t = q.record t) :
    ∃ done before, Confined view s.strategy t order w.store.1 ms fault w'.store.1 done before := by
  obtain ⟨done, hcut, before, hreached, hbefore⟩ := hsending.failed fault hint rfl
  obtain ⟨rest, hsplit, hnext⟩ := hcut.split
  have hdone : ∀ p ∈ done, p ∈ order := by
    intro p hp
    rw [hsplit]
    exact List.mem_append_left _ hp
  refine ⟨done, before, ⟨rest, hsplit.symm⟩, hcut.files, ?_, hreached, hbefore, ?_, ?_, ?_⟩
  · intro key hkey
    obtain ⟨p, hp, hpkey⟩ := hnext key hkey
    obtain ⟨rest', rfl⟩ := List.head?_eq_some_iff.mp hp
    exact ⟨p, ⟨rest', by rw [hsplit, List.append_assoc]; rfl⟩, hpkey⟩
  · intro p hp hkey
    rw [hcut.elsewhere hkey]
    exact Publication.writeAll_of_mem (fun a ha b hb => hconsistent a (hdone a ha) b (hdone b hb)) hp
  · intro key hkey
    rw [hbefore]
    exact Cut.at_subject (hkey ▸ hcut)
  · intro key hkey hnot
    rw [hcut.elsewhere hkey]
    exact Publication.writeAll_of_not hnot

/-- From any state of a cluster of which every request is atomic and may fail, what a deployment leaves that
could not publish something is confined. Where secrets are replaced, none that was there is gone at any moment
of any deployment, and the last moment is where it ends. -/
theorem failed_deploy_confined (h : api.Atomic view) (s : Settings) (space : Option String) (tlsOnly : Bool)
    (w : World σ) :
    (∀ fault hint w', (deploy (ClusterApi.store api) s space tlsOnly).exec w =
        (.error (.pipeline (.store fault hint)), w') →
      ∃ ps, Discovery.profilesIn w.tree s.tlsDirectory (spaceOf s space) s.defaultSpace = .ok ps ∧
        ∃ done before, Confined view s.strategy w.tree (publications s (spaceOf s space) tlsOnly ps) w.store
          (moments api s space tlsOnly w) fault w'.store done before) ∧
    (s.strategy = .replace → ∀ m ∈ moments api s space tlsOnly w, ∀ key,
      ((view w.store).secrets key).isSome = true → ((view m).secrets key).isSome = true) ∧
    (w.store :: moments api s space tlsOnly w).getLast? =
      some ((deploy (ClusterApi.store api) s space tlsOnly).exec w).2.store := by
  obtain ⟨houtcome, hstate, hlast⟩ := deploy_watched api s space tlsOnly w
  refine ⟨?_, ?_, hlast⟩
  · intro fault hint w' hexec
    cases hps : Discovery.profilesIn w.tree s.tlsDirectory (spaceOf s space) s.defaultSpace with
    | error f =>
      -- without services it fails before the first request, and for another reason
      obtain ⟨v, hfails, -⟩ := deploy_undiscovered (ClusterApi.store api) tlsOnly hps
      rw [hfails] at hexec
      cases f <;> cases (Prod.mk.inj hexec).1
    | ok ps =>
      refine ⟨ps, rfl, ?_⟩
      -- the run is the one that is watched, and its list of states starts empty
      obtain ⟨ms, hsending⟩ := Sends.deploy h tlsOnly hps { w with store := (w.store, []) } rfl
      obtain rfl : moments api s space tlsOnly w = ms := hsending.moments
      rw [← houtcome, hexec] at hsending
      have hfinal : _ = w'.store := hstate.trans (by rw [hexec])
      have hnames : (ps.map (·.name)).Nodup :=
        Discovery.profilesIn_names hps ▸ Discovery.nodup_serviceNames w.tree s.tlsDirectory
      exact hfinal ▸ confined_of_sending hsending (publications_consistent hnames)
  · intro hreplace m hm key hkey
    cases hps : Discovery.profilesIn w.tree s.tlsDirectory (spaceOf s space) s.defaultSpace with
    | error f =>
      obtain ⟨v, hfails, hstore⟩ := deploy_undiscovered (ClusterApi.store api.watched) tlsOnly
        (w := { w with store := (w.store, []) }) hps
      rw [moments, hfails, hstore] at hm
      cases hm
    | ok ps =>
      obtain ⟨ms, hsending⟩ := Sends.deploy h tlsOnly hps { w with store := (w.store, []) } rfl
      obtain rfl : moments api s space tlsOnly w = ms := hsending.moments
      obtain ⟨subject, done, hcut⟩ := hsending.cuts m hm
      exact Cut.isSome (hreplace ▸ hcut) hkey

/-- A cluster that has the secret of a peer, and gives out when that is to be made anew. -/
def cutOffWorld : World Cluster where
  tree := issuedTree
  store := { secrets := [(("default", "tls-a-peer"), .ofRecord ⟨"tls-a-peer", "default", [("k", [1])], [], []⟩)] }

def cutOff (calls : List ApiCall) : Option ApiFault :=
  if calls.getLast? = some ⟨"create", ["default", "tls-a-peer"]⟩ then some (.transport "reset") else none

def cutOffRun : Except Failure (List SecretRecord) × World Cluster :=
  (deploy (ClusterApi.store (Cluster.api cutOff)) { strategy := .recreate }).exec cutOffWorld

/-- The secret that a run failed to write. -/
def failedSecret? {α : Type} : Except Failure α → Option (String × String)
  | .error (.pipeline (.store fault _)) => fault.secret?
  | _ => none

theorem of_failedSecret? {outcome : Except Failure α} {key : String × String} (h : failedSecret? outcome = some key) :
    ∃ fault hint, outcome = .error (.pipeline (.store fault hint)) ∧ fault.secret? = some key := by
  unfold failedSecret? at h
  split at h
  next fault hint => exact ⟨fault, hint, rfl, h⟩
  next => cases h

set_option maxRecDepth 100000 in
theorem cut_off_deploy_confined :
    ∃ fault hint w', cutOffRun = (.error (.pipeline (.store fault hint)), w') ∧
      fault.secret? = some ("default", "tls-a-peer") ∧
      (∃ ps done before, Confined Cluster.view .recreate issuedTree
        (publications { strategy := .recreate } "default" false ps) cutOffWorld.store
        (moments (Cluster.api cutOff) { strategy := .recreate } none false cutOffWorld) fault w'.store done before) ∧
      w'.store.view.secrets ("default", "tls-a-peer") = none ∧
      (w'.store.view.secrets ("default", "tls-a-server")).isSome = true := by
  have hfails : failedSecret? cutOffRun.1 = some ("default", "tls-a-peer") := by decide +kernel
  have hleaves : (cutOffRun.2.store.secrets.lookup ("default", "tls-a-peer")).isNone = true ∧
      (cutOffRun.2.store.secrets.lookup ("default", "tls-a-server")).isSome = true := by decide +kernel
  obtain ⟨hconfined, -⟩ := failed_deploy_confined (Cluster.api_atomic cutOff) { strategy := .recreate } none false
    cutOffWorld
  obtain ⟨fault, hint, hfault, hsecret⟩ := of_failedSecret? hfails
  have hrun : cutOffRun = (.error (.pipeline (.store fault hint)), cutOffRun.2) := Prod.ext hfault rfl
  obtain ⟨ps, -, done, before, h⟩ := hconfined fault hint _ hrun
  exact ⟨fault, hint, _, hrun, hsecret, ⟨ps, done, before, h⟩, Option.isNone_iff_eq_none.mp hleaves.1, hleaves.2⟩

end Pipeline

end ServiceTrust
