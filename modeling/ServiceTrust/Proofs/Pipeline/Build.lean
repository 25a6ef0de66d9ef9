/-
A build, role by role and service by service. However it ends, the work on a service changes only
generated files of its directory. A role whose work returned is `Ready`: its certificate, key, chain
and stores are on disk and belong together under the authority of the run, and they stay so through
the rest of the build.
-/
import ServiceTrust.Proofs.Pipeline.Authority
import ServiceTrust.Proofs.Pipeline.Bundle
import ServiceTrust.Proofs.Pipeline.Discovery
import ServiceTrust.Proofs.Pipeline.Issue
import ServiceTrust.Proofs.Pipeline.TokenKeys
import Mathlib.Data.List.Nodup

namespace ServiceTrust

open Stage ServiceTrust.Tree Keystore

namespace Pipeline

variable {σ : Type} {host : Host} {s : Settings} {authority : Authority} {p : Profile} {r : Role}

/-! ## What changes -/

theorem buildRole_inside (hconf : Confined host.tool) :
    Obeys (.inside p.layout.directory
        (ServiceLayout.placesFor p.layout.directory.place r Artifact.all))
      (buildRole host s authority p r : Stage σ (Material × Bundle)) := by
  have hmono {α : Type} {as : List Artifact} {act : Stage σ α}
      (h : Obeys (.inside p.layout.directory
        (ServiceLayout.placesFor p.layout.directory.place r as)) act) :
      Obeys (.inside p.layout.directory
        (ServiceLayout.placesFor p.layout.directory.place r Artifact.all)) act :=
    h.mono fun hw => ⟨fun hd => (hw.1 hd).mono
      (ServiceLayout.placesFor_mono (ServiceLayout.subset_all as) _ _) subset_rfl, hw.2⟩
  refine .bind_of_ok (hmono Issue.issue_inside) fun w m w' hm => .bind (Issue.checkChain_still m).of_still
    fun _ => .bind ?_ fun _ => .pure _
  obtain ⟨hissued, -⟩ := Issue.issue_ok hm
  have hdir : m.certPath.parent = p.layout.directory := by
    rw [hissued.certPath, ServiceLayout.parent_path]
  have hbundle := Bundle.bundle_within (σ := σ) (s := s) hconf (m := m)
  rw [hdir, hissued.role] at hbundle
  exact hmono hbundle.inside

theorem buildService_inside (hconf : Confined host.tool) :
    Obeys (.inside p.layout.directory (stalePlaces p.layout.directory.place))
      (buildService host s authority p : Stage σ (List (Material × Bundle))) :=
  .bind (.inside (.clear subset_rfl)) fun _ => .mapM fun r _ =>
    (buildRole_inside hconf).mono fun hw => ⟨fun hd => (hw.1 hd).mono
      (ServiceLayout.placesFor_subset_stale _ r _) subset_rfl, hw.2⟩

/-! ## A role whose work returned -/

/-- The files of the role `r` of `p` are there and belong together under `authority`. -/
structure Ready (suite : Suite) (authority : Authority) (p : Profile) (r : Role) (t : Tree)
    (m : Material) (password : String) : Prop where
  issued : Issue.Issued authority p r t m
  pairs : suite.KeepsKeys → suite.Pairs m.certPem m.keyPem
  chained : ∃ c, suite.readCertificate m.certPem = .ok c ∧
    suite.checkIssuer c authority.certificate = .ok ()
  packed : Bundle.Packed suite p.layout m t password
  stores : ∀ a ∈ Bundle.toolStores, t.isFile (p.layout.path m.role a) = true

theorem Ready.mono {suite : Suite} {t t' : Tree} {m : Material} {password : String}
    {files dirs : Set Location} (h : Ready suite authority p r t m password) (hw : Within files dirs t t')
    (hf : ∀ l ∈ ServiceLayout.placesFor p.layout.directory.place r Artifact.all, l ∉ files) :
    Ready suite authority p r t' m password := by
  obtain rfl := h.issued.role
  have hout (a : Artifact) : (p.layout.path m.role a).place ∉ files :=
    hf _ (ServiceLayout.place_path_mem.mpr ⟨rfl, rfl, a.mem_all⟩)
  exact ⟨h.issued.mono hw fun a _ => hout a, h.pairs, h.chained,
    h.packed.mono hw fun l hl => hf l (ServiceLayout.placesFor_mono (ServiceLayout.subset_all _) _ _ hl),
    fun a ha => hw.isFile (hout a) (h.stores a ha)⟩

theorem Ready.isFile {suite : Suite} {t : Tree} {m : Material} {password : String}
    (h : Ready suite authority p r t m password) (a : Artifact) : t.isFile (p.layout.path r a) = true := by
  obtain rfl := h.issued.role
  have hof {bytes : Bytes} {a : Artifact} (hr : t.read (p.layout.path m.role a) = .ok bytes) :
      t.isFile (p.layout.path m.role a) = true := isFile_iff_read.mpr ⟨bytes, hr⟩
  obtain ⟨bytes, content, hstore, -⟩ := h.packed.keystore
  cases a with
  | cert => exact hof h.issued.cert
  | key => exact hof (read_iff_find?.mpr ⟨_, h.issued.key⟩)
  | csr => exact h.issued.csr
  | chain => exact hof h.packed.chain
  | keystoreP12 => exact hof hstore
  | truststoreP12 => exact h.stores _ (by decide)
  | keystoreJks => exact h.stores _ (by decide)
  | truststoreJks => exact h.stores _ (by decide)
  | password => exact hof (h.packed.passwords _ (by simp))
  | jksPassword => exact hof (h.packed.passwords _ (by simp))

/-- What was made for the role `r` of `p` is what its files hold. -/
structure Finished (suite : Suite) (authority : Authority) (p : Profile) (t : Tree) (r : Role)
    (made : Material × Bundle) : Prop where
  ready : Ready suite authority p r t made.1 made.2.password
  bundle : made.2 = ⟨p.name, r, made.2.password, p.layout⟩

theorem Finished.mono {suite : Suite} {t t' : Tree} {made : Material × Bundle} {files dirs : Set Location}
    (h : Finished suite authority p t r made) (hw : Within files dirs t t')
    (hf : ∀ l ∈ ServiceLayout.placesFor p.layout.directory.place r Artifact.all, l ∉ files) :
    Finished suite authority p t' r made :=
  ⟨h.ready.mono hw hf, h.bundle⟩

theorem buildRole_ok (hconf : Confined host.tool) (hdel : Delivers host.tool) {w w' : World σ}
    {made : Material × Bundle} (h : (buildRole host s authority p r).exec w = (.ok made, w')) :
    Finished host.suite authority p w'.tree r made := by
  simp only [buildRole, bind_ok, pure_ok] at h
  obtain ⟨m, w₁, hissue, _, w₂, hcheck, b, w', hbundle, rfl, rfl⟩ := h
  obtain ⟨hissued, hpairs⟩ := Issue.issue_ok hissue
  obtain ⟨hstill, hchained⟩ := Issue.checkChain_ok hcheck
  have hdir : m.certPath.parent = p.layout.directory := by
    rw [hissued.certPath, ServiceLayout.parent_path]
  obtain ⟨hb, authority', xs, -, -, hconverted, hpacked⟩ := Bundle.bundle_ok hconf hbundle
  have hwithin := ((Bundle.bundle_within hconf).ran hbundle).1
  have hlayout : b.layout = p.layout := by
    rw [hb]
    exact congrArg ServiceLayout.mk hdir
  rw [hlayout] at hconverted hpacked
  rw [hstill, hdir] at hwithin
  refine ⟨⟨hissued.mono hwithin fun a ha hm => ?_, hpairs, hchained, hpacked, hconverted.stores hdel⟩, ?_⟩
  · have hapart : ∀ a ∈ Artifact.issued, a ∉ Artifact.packed := by decide
    exact hapart a ha (ServiceLayout.place_path_mem.mp hm).2.2
  · rw [← hissued.service, ← hissued.role, ← hlayout, hb]

/-! ## A service whose work returned -/

theorem buildService_ok (hconf : Confined host.tool) (hdel : Delivers host.tool) (hroles : p.roles.Nodup)
    {w w' : World σ} {made : List (Material × Bundle)} (hd : w.tree.isDirectory p.layout.directory = true)
    (h : (buildService host s authority p).exec w = (.ok made, w')) :
    List.Forall₂ (Finished host.suite authority p w'.tree) p.roles made := by
  simp only [buildService, bind_ok, clear_ok] at h
  obtain ⟨removed, _, ⟨t, hclear, rfl⟩, h⟩ := h
  obtain ⟨t₁, removed', hclear', hcleared⟩ := removeStale_cleared hd
  rw [hclear] at hclear'
  obtain ⟨rfl, -⟩ := Prod.mk.inj (Except.ok.inj hclear')
  -- the directory stays, and a role keeps to the files of its name
  refine (mapM_forall₂ (I := fun w => w.tree.isDirectory p.layout.directory = true)
    (Q := fun r made w => Finished host.suite authority p w.tree r made)
    hroles ?_ ?_ h (hcleared.within.isDirectory hd)).2
  · intro r _ w made w' hr hd
    exact ⟨(((buildRole_inside hconf).ran hr).1 hd).isDirectory hd, buildRole_ok hconf hdel hr⟩
  · intro r _ r' _ hne made w made' w' hr hd hfinished
    exact hfinished.mono (((buildRole_inside hconf).ran hr).1 hd) fun l => ServiceLayout.placesFor_disjoint hne

/-- The places of the files of all roles in the directory `d`. -/
def rolePlaces (d : Location) : Set Location := {l | ∃ r, l ∈ ServiceLayout.placesFor d r Artifact.all}

theorem not_mem_rolePlaces {d d' : Location} {name : String}
    (h : ∀ r, name ∉ ServiceLayout.namesFor r Artifact.all) : d' ++ [name] ∉ rolePlaces d := by
  rintro ⟨r, m, hm, he⟩
  obtain ⟨-, rfl⟩ : d' = d ∧ name = m := by simpa using he
  exact h r hm

/-- However the work on a service ends, its directory was cleared first, and then only files of its roles
changed. -/
theorem buildService_course (hconf : Confined host.tool) {w w' : World σ}
    {outcome : Except Failure (List (Material × Bundle))} (hd : w.tree.isDirectory p.layout.directory = true)
    (h : (buildService host s authority p).exec w = (outcome, w')) :
    ∃ t, Cleared (stalePlaces p.layout.directory.place) w.tree t ∧
      Within (rolePlaces p.layout.directory.place) ∅ t w'.tree ∧
      (p.roles.mapM (buildRole host s authority p)).exec { w with tree := t } = (outcome, w') := by
  obtain ⟨t, removed, hclear, hcleared⟩ := removeStale_cleared hd
  have hclear' : (clear p.layout.directory).exec w = (.ok removed, { w with tree := t }) :=
    clear_ok.mpr ⟨t, hclear, rfl⟩
  unfold buildService at h
  rw [exec_bind, hclear'] at h
  have hroles : Obeys (.inside p.layout.directory (rolePlaces p.layout.directory.place))
      (p.roles.mapM (buildRole host s authority p) : Stage σ (List (Material × Bundle))) :=
    .mapM fun r _ => (buildRole_inside hconf).mono fun hw =>
      ⟨fun hd => (hw.1 hd).mono (fun l hl => ⟨r, hl⟩) subset_rfl, hw.2⟩
  exact ⟨t, hcleared, (hroles.ran h).1 (hcleared.within.isDirectory hd), h⟩

/-- Of generated files that no role has, none is left in the directory of a service. -/
theorem buildService_cleared (hconf : Confined host.tool) {name : String}
    (hname : isName name = true ∧ isStale name = true)
    (hother : ∀ r, name ∉ ServiceLayout.namesFor r Artifact.all) {w w' : World σ}
    {outcome : Except Failure (List (Material × Bundle))} (hd : w.tree.isDirectory p.layout.directory = true)
    (h : (buildService host s authority p).exec w = (outcome, w')) :
    ¬ w'.tree.HoldsFile (p.layout.directory.place ++ [name]) := by
  obtain ⟨t, hcleared, hwithin, -⟩ := buildService_course hconf hd h
  exact (hwithin.holdsFile (not_mem_rolePlaces hother)).not.mpr
    (hcleared.not_holdsFile ((mem_stalePlaces hname.1).mpr hname.2))

/-! ## All services -/

/-- The places of generated files of the services in the directory `d`. -/
def servicePlaces (t : Tree) (d : Path) : Set Location :=
  {l | ∃ name ∈ Discovery.serviceNames t d, l ∈ stalePlaces (d.child name).place}

theorem descriptor_not_mem_servicePlaces (t : Tree) (d : Path) (l : ServiceLayout) :
    l.descriptor.place ∉ servicePlaces t d := fun ⟨name, _, h⟩ =>
  l.place_descriptor_not_stale (d.child name).place h

/-- The directory of the authority is not one of a service. -/
def AuthorityApart (s : Settings) (t : Tree) : Prop :=
  ∀ name ∈ Discovery.serviceNames t s.tlsDirectory,
    (s.tlsDirectory.child name).place ≠ s.authorityLayout.directory.place

theorem authority_places_not_servicePlaces {t : Tree} (h : AuthorityApart s t) {l : Location}
    (hl : l ∈ AuthorityLayout.places s.authorityLayout.directory.place) :
    l ∉ servicePlaces t s.tlsDirectory := by
  rintro ⟨name, hname, hs⟩
  exact stalePlaces_disjoint (h name hname) hs (AuthorityLayout.places_subset_stale _ hl)

theorem profile_of_mem {t : Tree} {ps : List Profile}
    (hps : Discovery.profilesIn t s.tlsDirectory s.deploySpace s.defaultSpace = .ok ps) (hp : p ∈ ps) :
    p.name ∈ Discovery.serviceNames t s.tlsDirectory ∧ isName p.name = true ∧
      p.layout.directory = s.tlsDirectory.child p.name ∧ p.roles = Role.all ∧
      t.isDirectory p.layout.directory = true := by
  obtain ⟨hname, descriptor, -, he⟩ := Discovery.mem_profilesIn hps hp
  have hdir : p.layout.directory = s.tlsDirectory.child p.name := by
    rw [he]
    rfl
  obtain ⟨hn, hd, -⟩ := Discovery.mem_serviceNames.mp hname
  exact ⟨hname, hn, hdir, by rw [he]; rfl, hdir ▸ hd⟩

/-- The work on a service keeps to its directory. -/
theorem service_within (hconf : Confined host.tool) {w w' : World σ}
    {outcome : Except Failure (List (Material × Bundle))} (hd : w.tree.isDirectory p.layout.directory = true)
    (h : (buildService host s authority p).exec w = (outcome, w')) :
    Within (stalePlaces p.layout.directory.place) ∅ w.tree w'.tree :=
  ((buildService_inside hconf).ran h).1 hd

/-- However the work on the services ends, it changes only their generated files, and what every part of
it keeps is kept. -/
theorem services_outcome (hconf : Confined host.tool) {t : Tree} {ps : List Profile}
    (hps : Discovery.profilesIn t s.tlsDirectory s.deploySpace s.defaultSpace = .ok ps) {P : Tree → Prop}
    (hstep : ∀ p ∈ ps, p.roles = Role.all → ∀ {v v' : World σ} {outcome},
      v.tree.isDirectory p.layout.directory = true →
      (buildService host s authority p).exec v = (outcome, v') → P v.tree → P v'.tree)
    {w : World σ} (hw : w.tree = t) (ht : P t) :
    Within (servicePlaces t s.tlsDirectory) ∅ t
        ((ps.mapM (buildService host s authority)).exec w).2.tree ∧
      P ((ps.mapM (buildService host s authority)).exec w).2.tree := by
  refine mapM_outcome (P := fun w => Within (servicePlaces t s.tlsDirectory) ∅ t w.tree ∧ P w.tree)
    (fun p hp v hv => ?_) w (by rw [hw]; exact ⟨.refl _ _ _, ht⟩)
  obtain ⟨hname, hproper, hdir, hroles, hd⟩ := profile_of_mem hps hp
  rcases hwork : (buildService host s authority p).exec v with ⟨outcome, v'⟩
  have hwithin := service_within hconf (hv.1.isDirectory hd) hwork
  refine ⟨hv.1.trans (hwithin.mono (fun l hl => ⟨p.name, hname, ?_⟩) subset_rfl),
    hstep p hp hroles (hv.1.isDirectory hd) hwork hv.2⟩
  rwa [hdir] at hl

theorem services_within (authority : Authority) (hconf : Confined host.tool) {t : Tree} {ps : List Profile}
    (hps : Discovery.profilesIn t s.tlsDirectory s.deploySpace s.defaultSpace = .ok ps) {w : World σ}
    (hw : w.tree = t) :
    Within (servicePlaces t s.tlsDirectory) ∅ t
      ((ps.mapM (buildService host s authority)).exec w).2.tree :=
  (services_outcome hconf hps (P := fun _ => True) (fun _ _ _ _ _ _ _ _ _ => trivial) hw trivial).1

theorem services_apart {t : Tree} {ps : List Profile}
    (hps : Discovery.profilesIn t s.tlsDirectory s.deploySpace s.defaultSpace = .ok ps) {q : Profile}
    (hp : p ∈ ps) (hq : q ∈ ps) (hne : p ≠ q) : p.layout.directory.place ≠ q.layout.directory.place := by
  obtain ⟨-, hproper, hdir, -, -⟩ := profile_of_mem hps hp
  obtain ⟨-, hproper', hdir', -, -⟩ := profile_of_mem hps hq
  rw [hdir, hdir', ne_eq, Path.place_child_inj hproper hproper']
  have hnodup := Discovery.profilesIn_names hps ▸ Discovery.nodup_serviceNames t s.tlsDirectory
  exact fun he => hne (List.inj_on_of_nodup_map hnodup hp hq he.2)

/-- What the work on a service brings about among its generated files, the work on all services has
brought about for each of them. -/
theorem services_forall₂ (hconf : Confined host.tool) {t : Tree} {ps : List Profile}
    (hps : Discovery.profilesIn t s.tlsDirectory s.deploySpace s.defaultSpace = .ok ps)
    {Q : Profile → List (Material × Bundle) → Tree → Prop}
    (hwork : ∀ p ∈ ps, p.roles = Role.all → ∀ {w w' : World σ} {made},
      (buildService host s authority p).exec w = (.ok made, w') →
      w.tree.isDirectory p.layout.directory = true → Q p made w'.tree)
    (hkeep : ∀ p made {files : Set Location} {t t' : Tree}, Within files ∅ t t' →
      (∀ l ∈ stalePlaces p.layout.directory.place, l ∉ files) → Q p made t → Q p made t')
    {w w' : World σ} {made : List (List (Material × Bundle))} (hw : w.tree = t)
    (h : (ps.mapM (buildService host s authority)).exec w = (.ok made, w')) :
    List.Forall₂ (fun p made => Q p made w'.tree) ps made := by
  have hnames := Discovery.profilesIn_names hps
  have hnodup : ps.Nodup := .of_map _ (hnames ▸ Discovery.nodup_serviceNames t s.tlsDirectory)
  -- all the directories stay, and a service keeps to its own
  refine (mapM_forall₂ (I := fun w => ∀ q ∈ ps, w.tree.isDirectory q.layout.directory = true)
    (Q := fun p made w => Q p made w.tree) hnodup ?_ ?_ h fun q hq => hw ▸ (profile_of_mem hps hq).2.2.2.2).2
  · intro p hp w made w' hmade hd
    obtain ⟨-, hproper, hdir, hroles, -⟩ := profile_of_mem hps hp
    have hwithin := service_within hconf (hd p hp) hmade
    exact ⟨fun q hq => hwithin.isDirectory (hd q hq),
      hwork p hp hroles hmade (hd p hp)⟩
  · intro p hp q hq hne made w made' w' hmade hd
    exact hkeep p made (service_within hconf (hd q hq) hmade) fun l =>
      stalePlaces_disjoint (services_apart hps hp hq hne)

theorem services_all (hconf : Confined host.tool) {t : Tree} {ps : List Profile}
    (hps : Discovery.profilesIn t s.tlsDirectory s.deploySpace s.defaultSpace = .ok ps)
    {Q : Profile → Tree → Prop}
    (hwork : ∀ p ∈ ps, p.roles = Role.all → ∀ {w w' : World σ} {made},
      (buildService host s authority p).exec w = (.ok made, w') →
      w.tree.isDirectory p.layout.directory = true → Q p w'.tree)
    (hkeep : ∀ p {files : Set Location} {t t' : Tree}, Within files ∅ t t' →
      (∀ l ∈ stalePlaces p.layout.directory.place, l ∉ files) → Q p t → Q p t')
    {w w' : World σ} {made : List (List (Material × Bundle))} (hw : w.tree = t)
    (h : (ps.mapM (buildService host s authority)).exec w = (.ok made, w')) : ∀ p ∈ ps, Q p w'.tree := by
  intro p hp
  have hall := services_forall₂ (Q := fun p _ t => Q p t) hconf hps hwork (fun p _ => hkeep p) hw h
  obtain ⟨-, -, hq⟩ := exists_of_forall₂ hall hp
  exact hq

/-- What was made for all roles of all services is what their files hold. -/
theorem services_finished (hconf : Confined host.tool) (hdel : Delivers host.tool) {t : Tree}
    {ps : List Profile} (hps : Discovery.profilesIn t s.tlsDirectory s.deploySpace s.defaultSpace = .ok ps)
    {w w' : World σ} {made : List (List (Material × Bundle))} (hw : w.tree = t)
    (h : (ps.mapM (buildService host s authority)).exec w = (.ok made, w')) :
    List.Forall₂ (fun p made => List.Forall₂ (Finished host.suite authority p w'.tree) Role.all made) ps made := by
  refine services_forall₂ hconf hps
    (Q := fun p made t => List.Forall₂ (Finished host.suite authority p t) Role.all made) ?_ ?_ hw h
  · intro p _ hroles w w' made hmade hd
    rw [← hroles]
    exact buildService_ok hconf hdel (hroles ▸ by decide) hd hmade
  · intro p made files t t' hwithin hout hfinished
    exact hfinished.imp fun r made hmade => hmade.mono hwithin fun l hl =>
      hout l (ServiceLayout.placesFor_subset_stale _ r _ hl)

/-- After the work on the services their directories hold no generated files but those of the roles. -/
theorem services_cleared (hconf : Confined host.tool) {t : Tree} {ps : List Profile}
    (hps : Discovery.profilesIn t s.tlsDirectory s.deploySpace s.defaultSpace = .ok ps)
    {w w' : World σ} {made : List (List (Material × Bundle))} (hw : w.tree = t)
    (h : (ps.mapM (buildService host s authority)).exec w = (.ok made, w')) {name : String}
    (hname : isName name = true ∧ isStale name = true)
    (hother : ∀ r, name ∉ ServiceLayout.namesFor r Artifact.all) :
    ∀ p ∈ ps, ¬ w'.tree.HoldsFile (p.layout.directory.place ++ [name]) := by
  refine services_all hconf hps
    (Q := fun p t => ¬ t.HoldsFile (p.layout.directory.place ++ [name])) ?_ ?_ hw h
  · intro p _ _ w w' made hmade hd
    exact buildService_cleared hconf hname hother hd hmade
  · intro p files t t' hwithin hout hnone
    exact (hwithin.holdsFile (hout _ ((mem_stalePlaces hname.1).mpr hname.2))).not.mpr hnone

/-! ## A whole build -/

theorem counted_tree {α : Type} (act : Stage σ α) (w : World σ) :
    ((counted act).exec w).2.tree = (act.exec w).2.tree := by
  unfold counted
  rw [exec_tryCatch]
  rcases act.exec w with ⟨e | a, w'⟩
  · cases e <;> rfl
  · rfl

theorem counted_obeys {α : Type} {F : Frame σ} {act : Stage σ α} (h : Obeys F act) : Obeys F (counted act) :=
  h.tryCatch fun e => by
    cases e with
    | pipeline e => exact .bind (.count _) fun _ => .throw _
    | fault f => exact .throw _

theorem counted_ok {α : Type} {act : Stage σ α} {w w' : World σ} {a : α} :
    (counted act).exec w = (.ok a, w') ↔ act.exec w = (.ok a, w') :=
  tryCatch_ok fun e w w' a h => by cases e <;> simp at h

theorem exec_counted_bind {α β : Type} {act : Stage σ α} {w w₁ : World σ} {a : α} (h : act.exec w = (.ok a, w₁))
    (f : α → Stage σ β) : (counted (act >>= f)).exec w = (counted (f a)).exec w₁ := by
  unfold counted
  rw [exec_tryCatch, exec_bind, h, exec_tryCatch]

theorem exec_counted_error {α : Type} {act : Stage σ α} {w w' : World σ} {e : Failure}
    (h : act.exec w = (.error e, w')) :
    ∃ v, (counted act).exec w = (.error e, v) ∧ v.tree = w'.tree ∧ v.store = w'.store := by
  unfold counted
  rw [exec_tryCatch, h]
  cases e <;> exact ⟨_, rfl, rfl, rfl⟩

/-- How a descriptor that gives no authority ends a run. -/
def authorityFailure (s : Settings) (f : Descriptor.Fault) : Failure :=
  if f.isDescribed then .pipeline (.authorityDescriptor s.authorityDescriptorPath f) else .fault (.descriptor f)

theorem exec_authorityDescriptor (s : Settings) (w : World σ) :
    (authorityDescriptor s).exec w =
      ((Descriptor.loadAuthority w.tree s.authorityDescriptorPath).mapError (authorityFailure s), w) := by
  unfold authorityDescriptor
  rw [exec_bind, exec_tree]
  dsimp only
  cases Descriptor.loadAuthority w.tree s.authorityDescriptorPath with
  | ok d => rfl
  | error f =>
    dsimp only [Except.mapError]
    unfold authorityFailure
    split <;> rfl

theorem authorityDescriptor_ok {w w' : World σ} {d : AuthorityDescriptor}
    (h : (authorityDescriptor s).exec w = (.ok d, w')) :
    Descriptor.loadAuthority w.tree s.authorityDescriptorPath = .ok d ∧ w' = w := by
  rw [exec_authorityDescriptor, Prod.mk.injEq, mapError_eq_ok] at h
  exact ⟨h.1, h.2.symm⟩

/-- Once its descriptor was read, the authority is provided without making a directory, and the services stay
what they were. -/
theorem ensure_provides {force : Bool} {t : Tree} {d d' : AuthorityDescriptor}
    (hd : Descriptor.loadAuthority t s.authorityDescriptorPath = .ok d) {w w' : World σ}
    {outcome : Except Failure Authority} (hw : w.tree = t)
    (h : (Authority.ensure host s.authorityLayout.directory d' none force).exec w = (outcome, w')) :
    Within (stalePlaces s.authorityLayout.directory.place) ∅ t w'.tree ∧
      Discovery.serviceNames w'.tree s.tlsDirectory = Discovery.serviceNames t s.tlsDirectory := by
  have hdir : t.isDirectory s.authorityLayout.directory = true :=
    isDirectory_parent (Discovery.isFile_of_loadAuthority hd)
  subst hw
  have hwithin := ((Authority.ensure_inside s.authorityLayout.directory none force).ran h).1 hdir
  exact ⟨hwithin, Discovery.serviceNames_within hwithin fun l => l.place_descriptor_not_stale _⟩

theorem build_tree (force withTokenKeys : Bool) (w : World σ) :
    ((build host s force withTokenKeys).exec w).2.tree =
      ((buildAll host s force withTokenKeys).exec w).2.tree := by
  have hcounted := counted_tree (buildAll host s force withTokenKeys) w
  unfold build
  rw [exec_bind, ← hcounted]
  rcases (counted _).exec w with ⟨e | a, w'⟩ <;> rfl

/-- The ways in which a build can go, by the tree that it ends with: refused before the authority, or
stopped at the authority, at the services, at the work on one of them, or later. -/
inductive Course (σ : Type) (host : Host) (s : Settings) (force withTokenKeys : Bool) (t : Tree) :
    Tree → Prop
  | refused : Course σ host s force withTokenKeys t t
  | withoutAuthority {w w' : World σ} {d : AuthorityDescriptor} {e : Failure} (ht : w.tree = t)
    (hd : Descriptor.loadAuthority t s.authorityDescriptorPath = .ok d)
    (hensure : (Authority.ensure host s.authorityLayout.directory d none force).exec w = (.error e, w')) :
    Course σ host s force withTokenKeys t w'.tree
  | withoutServices {w w' : World σ} {d : AuthorityDescriptor} {a : Authority} (ht : w.tree = t)
    (hd : Descriptor.loadAuthority t s.authorityDescriptorPath = .ok d)
    (hensure : (Authority.ensure host s.authorityLayout.directory d none force).exec w = (.ok a, w')) :
    Course σ host s force withTokenKeys t w'.tree
  | working {w w' v : World σ} {d : AuthorityDescriptor} {a : Authority} {ps : List Profile} (ht : w.tree = t)
    (hd : Descriptor.loadAuthority t s.authorityDescriptorPath = .ok d)
    (hensure : (Authority.ensure host s.authorityLayout.directory d none force).exec w = (.ok a, w'))
    (hps : Discovery.profilesIn w'.tree s.tlsDirectory s.deploySpace s.defaultSpace = .ok ps)
    (hv : v.tree = w'.tree) :
    Course σ host s force withTokenKeys t ((ps.mapM (buildService host s a)).exec v).2.tree
  | worked {w w' v v' : World σ} {d : AuthorityDescriptor} {a : Authority} {ps : List Profile}
    {made : List (List (Material × Bundle))} (ht : w.tree = t)
    (hd : Descriptor.loadAuthority t s.authorityDescriptorPath = .ok d)
    (hensure : (Authority.ensure host s.authorityLayout.directory d none force).exec w = (.ok a, w'))
    (hps : Discovery.profilesIn w'.tree s.tlsDirectory s.deploySpace s.defaultSpace = .ok ps)
    (hv : v.tree = w'.tree) (hmade : (ps.mapM (buildService host s a)).exec v = (.ok made, v'))
    (hkeys : withTokenKeys = true) :
    Course σ host s force withTokenKeys t ((TokenKeys.ensure host s.tokenDirectory force).exec v').2.tree

theorem build_course (host : Host) (s : Settings) (force withTokenKeys : Bool) (w : World σ) :
    Course σ host s force withTokenKeys w.tree ((build host s force withTokenKeys).exec w).2.tree := by
  rw [build_tree]
  let P (v : World σ) := Course σ host s force withTokenKeys w.tree v.tree
  refine bind_outcome (P := P) (fun e w₁ h => ?_) fun _ w₁ h => ?_
  · show Course σ host s force withTokenKeys w.tree w₁.tree
    rw [((locate_still s.keytool).ran h).1]
    exact .refused
  have ht₁ := ((locate_still s.keytool).ran h).1
  refine bind_outcome (P := P) (fun e w₂ h => ?_) fun d w₂ h => ?_
  · show Course σ host s force withTokenKeys w.tree w₂.tree
    rw [exec_authorityDescriptor] at h
    rw [← (Prod.mk.inj h).2, ht₁]
    exact .refused
  obtain ⟨hd, rfl⟩ := authorityDescriptor_ok h
  rw [ht₁] at hd
  refine bind_outcome (P := P) (fun e w₃ h => .withoutAuthority ht₁ hd h) fun a w₃ hensure => ?_
  refine bind_outcome (P := P) (fun e w₄ h => ?_) fun ps w₄ h => ?_
  · show Course σ host s force withTokenKeys w.tree w₄.tree
    rw [(discover_still.ran h).1]
    exact .withoutServices ht₁ hd hensure
  obtain ⟨hps, ht₄⟩ := discover_ok h
  refine bind_outcome (P := P) (fun e w₅ h => ?_) fun made w₅ hmade => ?_
  · have hcourse : Course σ host s force withTokenKeys w.tree _ := .working ht₁ hd hensure hps ht₄
    rwa [h] at hcourse
  cases withTokenKeys with
  | false =>
    have hcourse : Course σ host s force false w.tree _ := .working ht₁ hd hensure hps ht₄
    rwa [hmade] at hcourse
  | true =>
    have hcourse : Course σ host s force true w.tree _ := .worked ht₁ hd hensure hps ht₄ hmade rfl
    simp only [if_true]
    have hmap := exec_map some (TokenKeys.ensure host s.tokenDirectory force) w₅
    refine bind_outcome (P := P) (fun e w₆ h => ?_) fun keys w₆ h => ?_
    · rw [hmap] at h
      rwa [(Prod.mk.inj h).2] at hcourse
    · rw [hmap] at h
      rwa [(Prod.mk.inj h).2] at hcourse

/-- What a build that returned went through. -/
theorem build_ok {force withTokenKeys : Bool} {w w' : World σ} {result : BuildResult}
    (h : (build host s force withTokenKeys).exec w = (.ok result, w')) :
    ∃ w₁ w₂ w₃ w₄ : World σ, ∃ d made,
      (w₁.tree = w.tree ∧ Descriptor.loadAuthority w.tree s.authorityDescriptorPath = .ok d) ∧
      (Authority.ensure host s.authorityLayout.directory d none force).exec w₁ =
        (.ok result.authority, w₂) ∧
      Discovery.profilesIn w₂.tree s.tlsDirectory s.deploySpace s.defaultSpace = .ok result.profiles ∧
      w₃.tree = w₂.tree ∧
      (result.profiles.mapM (buildService host s result.authority)).exec w₃ = (.ok made, w₄) ∧
      (result.materials = made.flatten.map (·.1) ∧ result.bundles = made.flatten.map (·.2)) ∧
      if withTokenKeys then
        ∃ keys w₅, (TokenKeys.ensure host s.tokenDirectory force).exec w₄ = (.ok keys, w₅) ∧
          result.tokenKeys = some keys ∧ w'.tree = w₅.tree
      else w'.tree = w₄.tree := by
  simp only [build, bind_ok, counted_ok, log_ok, pure_ok] at h
  obtain ⟨result, w₆, h, _, _, rfl, rfl, rfl⟩ := h
  simp only [buildAll, bind_ok] at h
  obtain ⟨_, w₀, hlocate, d, w₁, hd, a, w₂, hensure, ps, w₃, hdiscover, made, w₄, hmade, h⟩ := h
  have ht₁ := ((locate_still _).ran hlocate).1
  obtain ⟨hd, rfl⟩ := authorityDescriptor_ok hd
  rw [ht₁] at hd
  obtain ⟨hps, ht₃⟩ := discover_ok hdiscover
  cases withTokenKeys with
  | false =>
    simp only [Bool.false_eq_true, if_false, bind_ok, pure_ok] at h ⊢
    obtain ⟨_, _, ⟨rfl, rfl⟩, rfl, rfl⟩ := h
    exact ⟨w₁, w₂, w₃, _, d, made, ⟨ht₁, hd⟩, hensure, hps, ht₃, hmade, ⟨rfl, rfl⟩, rfl⟩
  | true =>
    simp only [if_true, bind_ok, map_ok, pure_ok] at h ⊢
    obtain ⟨_, w₅, ⟨keys, hkeys, rfl⟩, rfl, rfl⟩ := h
    exact ⟨w₁, w₂, w₃, w₄, d, made, ⟨ht₁, hd⟩, hensure, hps, ht₃, hmade, ⟨rfl, rfl⟩, keys, _, hkeys, rfl, rfl⟩

/-- After the services only the token keys change, and only where they are wanted. -/
theorem tokenKeys_last {force withTokenKeys : Bool} {w w' : World σ} {result : BuildResult}
    (h : if withTokenKeys then
        ∃ keys w₁, (TokenKeys.ensure host s.tokenDirectory force).exec w = (.ok keys, w₁) ∧
          result.tokenKeys = some keys ∧ w'.tree = w₁.tree
      else w'.tree = w.tree) :
    ∃ dirs, Within {l | withTokenKeys = true ∧ l ∈ TokenKeys.places s.tokenDirectory.place} dirs w.tree w'.tree := by
  cases withTokenKeys with
  | false => exact ⟨∅, .of_eq h⟩
  | true =>
    obtain ⟨keys, w₁, hkeys, -, ht⟩ := h
    have hwithin := ((TokenKeys.ensure_within s.tokenDirectory force).ran hkeys).1
    rw [← ht] at hwithin
    exact ⟨_, hwithin.mono (fun _ hl => ⟨rfl, hl⟩) subset_rfl⟩

/-- What was made for all roles of all services is as it was made when a build returns. -/
theorem build_finished (hconf : Confined host.tool) (hdel : Delivers host.tool)
    {force withTokenKeys : Bool} {w w' : World σ} {result : BuildResult}
    (h : (build host s force withTokenKeys).exec w = (.ok result, w')) :
    ∃ made : List (List (Material × Bundle)),
      (result.materials = made.flatten.map (·.1) ∧ result.bundles = made.flatten.map (·.2)) ∧
      List.Forall₂ (fun p made => List.Forall₂ (Finished host.suite result.authority p w'.tree) Role.all made)
        result.profiles made := by
  obtain ⟨_, _, _, w₄, _, made, -, -, hps, ht₃, hmade, hresult, hrest⟩ := build_ok h
  obtain ⟨dirs, hlast⟩ := tokenKeys_last hrest
  refine ⟨made, hresult, (services_finished hconf hdel hps ht₃ hmade).imp fun p made hp => hp.imp fun r m hm => ?_⟩
  exact hm.mono hlast fun l hl hm => ServiceLayout.placesFor_apart hl hm.2

end Pipeline

end ServiceTrust
