/-
Chains after work that may have stopped anywhere. The chain of the last role is written when the
certificates of all roles have been checked (`Sealed`), and clearing a directory takes it away
(`Chained`). So whatever a run was interrupted at, a service that has this chain afterwards is either
sealed under the authority of the run or has all files of its roles as they were (`Same`).
-/
import ServiceTrust.Proofs.Pipeline.Build

namespace ServiceTrust

open Stage ServiceTrust.Tree Keystore Pipeline

namespace Chain

variable {σ : Type} {host : Host} {s : Settings} {authority : Authority} {p : Profile} {suite : Suite}
  {t t' t'' : Tree} {d : Location} {ca : Bytes} {r : Role}

/-- The place of a file of the role `r` in the directory `d`. -/
def fileAt (d : Location) (r : Role) (a : Artifact) : Location := d ++ [Artifact.fileName r a]

/-- The certificate of the role verifies against `ca`, and its chain, if there is one, is the certificate
and `ca`. -/
def RoleSealed (suite : Suite) (t : Tree) (d : Location) (ca : Bytes) (r : Role) : Prop :=
  ∃ c, t.Holds (fileAt d r .cert) c ∧ suite.Verifies c ca ∧
    ∀ b, t.Holds (fileAt d r .chain) b → b = c ++ ca

/-- All roles of the service are sealed under one certificate. -/
def Sealed (suite : Suite) (t : Tree) (d : Location) (ca : Bytes) : Prop :=
  ∀ r, RoleSealed suite t d ca r

/-- The chain of the last role is there. -/
def Chained (t : Tree) (d : Location) : Prop := t.HoldsFile (fileAt d .client .chain)

/-- The files of roles in `d` have the same contents. -/
def Same (d : Location) (t t' : Tree) : Prop :=
  ∀ r a b, t'.Holds (fileAt d r a) b ↔ t.Holds (fileAt d r a) b

/-- A service that is chained afterwards was left as it was. -/
def Leaves (d : Location) (t t' : Tree) : Prop := Chained t' d → Same d t t'

/-! ## Services that are left as they were -/

theorem Same.refl (d : Location) (t : Tree) : Same d t t := fun _ _ _ => Iff.rfl

theorem Same.trans (h : Same d t t') (h' : Same d t' t'') : Same d t t'' := fun r a b =>
  (h' r a b).trans (h r a b)

theorem Same.chained (h : Same d t t') : Chained t' d ↔ Chained t d :=
  exists_congr fun b => h .client .chain b

theorem Same.sealed (h : Same d t t') (hs : Sealed suite t d ca) : Sealed suite t' d ca := fun r => by
  obtain ⟨c, hc, hv, hchain⟩ := hs r
  exact ⟨c, (h r .cert c).mpr hc, hv, fun b hb => hchain b ((h r .chain b).mp hb)⟩

theorem Same.of_within {files dirs : Set Location} (hw : Within files dirs t t')
    (h : ∀ r a, fileAt d r a ∉ files) : Same d t t' := fun r a _ => hw.holds (h r a)

theorem Leaves.trans (h : Leaves d t t') (h' : Leaves d t' t'') : Leaves d t t'' := fun hc =>
  (h ((h' hc).chained.mp hc)).trans (h' hc)

theorem Same.leaves (h : Same d t t') : Leaves d t t' := fun _ => h

/-- Changes that leave the service in `d` as it was, or without its chain. -/
def leaving {σ : Type} (d : Location) : Frame σ :=
  .ofTree (Leaves d) (fun t => (Same.refl d t).leaves) .trans

theorem fileAt_mem_stalePlaces {d' : Location} {a : Artifact} :
    fileAt d r a ∈ stalePlaces d' ↔ d = d' := by
  constructor
  · rintro ⟨name, -, -, he⟩
    exact List.append_inj_left' he rfl
  · rintro rfl
    exact (mem_stalePlaces (isName_fileName r a)).mpr
      (isStale_namesFor (fileName_mem_namesFor.mpr ⟨rfl, a.mem_all⟩))

theorem fileAt_not_mem_placesNamed {d' : Location} {names : List String} {a : Artifact}
    (h : ∀ name ∈ names, name ∈ AuthorityLayout.names ++ TokenKeys.names) :
    fileAt d r a ∉ placesNamed d' names := by
  rintro ⟨name, hname, he⟩
  obtain ⟨-, rfl⟩ : d = d' ∧ Artifact.fileName r a = name := by simpa [fileAt] using he
  exact fileName_apart r a (h _ hname)

theorem clear_leaves (path : Path) : Obeys (leaving d) (clear path : Stage σ (List Path)) := fun w => by
  rw [exec_clear]
  cases hd : w.tree.isDirectory path with
  | true =>
    obtain ⟨t, removed, h, hcleared⟩ := removeStale_cleared hd
    rw [h]
    refine ⟨fun hc => ?_, rfl⟩
    -- a directory that was cleared is not chained, so this is another one
    have hne : d ≠ path.place := by
      rintro rfl
      exact hcleared.not_holdsFile (fileAt_mem_stalePlaces.mpr rfl) hc
    exact .of_within hcleared.within fun r a hm => hne (fileAt_mem_stalePlaces.mp hm)
  | false =>
    rw [show w.tree.removeStale path = _ from removeStaleWith_of_not_isDirectory _ hd]
    exact Frame.quiet _ rfl rfl rfl

/-- An authority that is loaded or made, or was to be made, leaves every service as it was or without its
chain. -/
theorem ensure_leaves {directory : Path} {descriptor : AuthorityDescriptor} (days : Option Int) (force : Bool) :
    Obeys (leaving d) (Authority.ensure host directory descriptor days force : Stage σ Authority) :=
  Authority.ensure_obeys (Authority.acquire_obeys (clear_leaves directory) (fun h =>
    ⟨(Same.of_within h.1 fun _ _ => fileAt_not_mem_placesNamed fun _ =>
      List.mem_append_left _).leaves, h.2⟩) days force)

/-! ## Roles -/

/-- A file that holds `bytes` afterwards held it before, unless it is `x`. -/
def mayWrite {σ : Type} (l : Location) (x : Bytes) : Frame σ :=
  .ofTree (fun t t' => ∀ b, t'.Holds l b → t.Holds l b ∨ b = x) (fun _ _ h => .inl h)
    fun h h' b hb => (h' b hb).elim (h b) .inr

theorem bundle_chain {m : Material} (hconf : Confined host.tool) :
    Obeys (mayWrite ((⟨m.certPath.parent⟩ : ServiceLayout).path m.role .chain).place m.chainPem)
      (Bundle.bundle host s m : Stage σ Bundle) := by
  refine Bundle.bundle_obeys hconf ?_ fun h => ⟨fun b hb => .inl ?_, h.2⟩
  · refine Obeys.change fun t t' hw b hb => .inr ?_
    exact (holds_of_read (read_write hw)).unique hb |>.symm
  · refine (h.1.holds fun hm => ?_).mp hb
    exact absurd (ServiceLayout.place_path_mem.mp hm).2.2 (by decide)

theorem fileAt_path (l : ServiceLayout) (r : Role) (a : Artifact) :
    (l.path r a).place = fileAt l.directory.place r a := l.place_path r a

theorem fileAt_mem_placesFor {r' : Role} {a : Artifact} {as : List Artifact} {d' : Location} :
    fileAt d r a ∈ ServiceLayout.placesFor d' r' as ↔ d = d' ∧ r = r' ∧ a ∈ as := by
  constructor
  · rintro ⟨name, hname, he⟩
    obtain ⟨rfl, rfl⟩ : d = d' ∧ Artifact.fileName r a = name := by simpa [fileAt] using he
    exact ⟨rfl, fileName_mem_namesFor.mp hname⟩
  · rintro ⟨rfl, h⟩
    exact mem_placesNamed.mpr (fileName_mem_namesFor.mpr h)

/-- However the work on a role ends that had no chain: if it returned, or there is a chain now, the role
is sealed. -/
theorem buildRole_seals (hconf : Confined host.tool)
    (hissuer : host.suite.readCertificate authority.certPem = .ok authority.certificate)
    {w w' : World σ} {outcome : Except Failure (Material × Bundle)}
    (hd : w.tree.isDirectory p.layout.directory = true)
    (hnone : ¬ w.tree.HoldsFile (fileAt p.layout.directory.place r .chain))
    (h : (buildRole host s authority p r).exec w = (outcome, w'))
    (hend : (∃ made, outcome = .ok made) ∨ w'.tree.HoldsFile (fileAt p.layout.directory.place r .chain)) :
    RoleSealed host.suite w'.tree p.layout.directory.place authority.certPem r := by
  have hissue := (Issue.issue_inside : Obeys _ (Issue.issue host authority p r : Stage σ Material)) w
  unfold buildRole at h
  rw [exec_bind] at h
  rcases hm : (Issue.issue host authority p r).exec w with ⟨e | m, w₁⟩
  all_goals rw [hm] at h hissue
  all_goals
    have hnone₁ : ¬ w₁.tree.HoldsFile (fileAt p.layout.directory.place r .chain) :=
      ((hissue.1 hd).holdsFile fun hm => absurd (fileAt_mem_placesFor.mp hm).2.2 (by decide)).not.mpr hnone
  · obtain ⟨rfl, rfl⟩ := Prod.mk.inj h
    exact hend.elim (fun ⟨_, he⟩ => nomatch he) fun hc => absurd hc hnone₁
  obtain ⟨hissued, -⟩ := Issue.issue_ok hm
  dsimp only at h
  rw [exec_bind] at h
  rcases hc : (Issue.checkChain host m authority).exec w₁ with ⟨e | u, w₂⟩
  all_goals rw [hc] at h
  · obtain ⟨rfl, rfl⟩ := Prod.mk.inj h
    have ht₂ := ((Issue.checkChain_still m).ran hc).1
    exact hend.elim (fun ⟨_, he⟩ => nomatch he) fun hc => absurd (ht₂ ▸ hc) hnone₁
  obtain ⟨ht₂, c, hcert, hverifies⟩ := Issue.checkChain_ok hc
  have hdir : m.certPath.parent = p.layout.directory := by
    rw [hissued.certPath, ServiceLayout.parent_path]
  have hw₃ : w' = ((Bundle.bundle host s m).exec w₂).2 :=
    (congrArg Prod.snd h).symm.trans (world_bind_pure _ _ w₂)
  have hwithin := (Bundle.bundle_within (s := s) hconf (m := m) w₂).1
  have hchain := (bundle_chain (s := s) hconf (m := m) w₂).1
  rw [← hw₃, ht₂, hdir, hissued.role] at hwithin
  rw [← hw₃, ht₂, hdir, hissued.role, fileAt_path] at hchain
  refine ⟨m.certPem, ?_, ⟨c, _, hcert, hissuer, hverifies⟩, fun b hb => ?_⟩
  · refine (hwithin.holds fun hm => absurd (fileAt_mem_placesFor.mp hm).2.2 (by decide)).mpr ?_
    exact fileAt_path p.layout r .cert ▸ holds_of_read hissued.cert
  · rcases hchain b hb with hb | rfl
    · exact absurd hb.holdsFile hnone₁
    · rw [Material.chainPem, hissued.authorityPem]

theorem RoleSealed.keep {files dirs : Set Location} (h : RoleSealed suite t d ca r)
    (hw : Within files dirs t t') (hout : ∀ a, fileAt d r a ∉ files) : RoleSealed suite t' d ca r := by
  obtain ⟨c, hc, hv, hchain⟩ := h
  exact ⟨c, (hw.holds (hout _)).mpr hc, hv, fun b hb => hchain b ((hw.holds (hout _)).mp hb)⟩

/-- Roles are worked on one after another, so when the last of them has a chain all are sealed. -/
theorem roles_seal (hconf : Confined host.tool)
    (hissuer : host.suite.readCertificate authority.certPem = .ok authority.certificate)
    {rs : List Role} (hnodup : rs.Nodup) {w w' : World σ} {outcome : Except Failure (List (Material × Bundle))}
    (hd : w.tree.isDirectory p.layout.directory = true)
    (hnone : ∀ r ∈ rs, ¬ w.tree.HoldsFile (fileAt p.layout.directory.place r .chain))
    (h : (rs.mapM (buildRole host s authority p)).exec w = (outcome, w')) {last : Role}
    (hlast : rs.getLast? = some last) (hc : w'.tree.HoldsFile (fileAt p.layout.directory.place last .chain)) :
    ∀ r ∈ rs, RoleSealed host.suite w'.tree p.layout.directory.place authority.certPem r := by
  induction rs generalizing w outcome with
  | nil => cases hlast
  | cons r rs ih =>
    obtain ⟨hr, hnodup⟩ := List.nodup_cons.mp hnodup
    rw [List.mapM_cons, exec_bind] at h
    have hfirst := ((buildRole_inside hconf : Obeys _ (buildRole host s authority p r)) w).1
    rcases hm : (buildRole host s authority p r).exec w with ⟨e | made, w₁⟩
    all_goals rw [hm] at h hfirst
    all_goals have hwithin := hfirst hd
    all_goals
      have hnone₁ : ∀ r' ∈ rs, ¬ w₁.tree.HoldsFile (fileAt p.layout.directory.place r' .chain) :=
        fun r' hr' => (hwithin.holdsFile fun hm => hr ((fileAt_mem_placesFor.mp hm).2.1 ▸ hr')).not.mpr
          (hnone r' (List.mem_cons_of_mem _ hr'))
    · obtain ⟨rfl, rfl⟩ := Prod.mk.inj h
      -- a role that failed has no role after it with a chain
      cases rs with
      | nil =>
        obtain rfl := Option.some.inj hlast
        intro r' hr'
        obtain rfl := List.mem_singleton.mp hr'
        exact buildRole_seals hconf hissuer hd (hnone _ (List.mem_cons_self ..)) hm (.inr hc)
      | cons r' rs =>
        rw [List.getLast?_cons_cons] at hlast
        exact absurd hc (hnone₁ last (List.mem_of_getLast? hlast))
    · have hsealed := buildRole_seals hconf hissuer hd (hnone _ (List.mem_cons_self ..)) hm
        (.inl ⟨made, rfl⟩)
      dsimp only at h
      have hrest : Obeys (.inside p.layout.directory
          {l | ∃ r' ∈ rs, l ∈ ServiceLayout.placesFor p.layout.directory.place r' Artifact.all})
          (rs.mapM (buildRole host s authority p) : Stage σ (List (Material × Bundle))) :=
        .mapM fun r' hr' => (buildRole_inside hconf).mono fun hw =>
          ⟨fun hd => (hw.1 hd).mono (fun l hl => ⟨r', hr', hl⟩) subset_rfl, hw.2⟩
      have hworld := world_bind_pure (rs.mapM (buildRole host s authority p)) (made :: ·) w₁
      obtain ⟨outcome₂, hms⟩ : ∃ outcome₂, (rs.mapM (buildRole host s authority p)).exec w₁ = (outcome₂, w') := by
        have hsnd : ((rs.mapM (buildRole host s authority p)).exec w₁).2 = w' :=
          hworld.symm.trans (congrArg Prod.snd h)
        exact ⟨_, Prod.ext rfl hsnd⟩
      have hafter := (hrest.ran hms).1 (hwithin.isDirectory hd)
      intro r' hr'
      rcases List.mem_cons.mp hr' with rfl | hr'
      · exact hsealed.keep hafter fun a ⟨q, hq, hl⟩ => hr ((fileAt_mem_placesFor.mp hl).2.1 ▸ hq)
      · cases rs with
        | nil => cases hr'
        | cons q rs =>
          rw [List.getLast?_cons_cons] at hlast
          exact ih hnodup (w := w₁) (hwithin.isDirectory hd) hnone₁ hms hlast r' hr'

/-! ## Services -/

theorem Sealed.keep {files dirs : Set Location} (h : Sealed suite t d ca)
    (hw : Within files dirs t t') (hout : ∀ r a, fileAt d r a ∉ files) : Sealed suite t' d ca :=
  fun r => (h r).keep hw (hout r)

/-- However the work on a service ends, if it is chained afterwards it is sealed under the authority. -/
theorem buildService_seals (hconf : Confined host.tool) (hroles : p.roles = Role.all)
    (hissuer : host.suite.readCertificate authority.certPem = .ok authority.certificate)
    {w w' : World σ} {outcome : Except Failure (List (Material × Bundle))}
    (hd : w.tree.isDirectory p.layout.directory = true)
    (h : (buildService host s authority p).exec w = (outcome, w'))
    (hc : Chained w'.tree p.layout.directory.place) :
    Sealed host.suite w'.tree p.layout.directory.place authority.certPem := by
  obtain ⟨t, hcleared, -, hwork⟩ := buildService_course hconf hd h
  rw [hroles] at hwork
  have hnone : ∀ r ∈ Role.all, ¬ t.HoldsFile (fileAt p.layout.directory.place r .chain) := fun r _ =>
    hcleared.not_holdsFile (fileAt_mem_stalePlaces.mpr rfl)
  exact fun r => roles_seal (w := { w with tree := t }) hconf hissuer (by decide)
    (hcleared.within.isDirectory hd) hnone hwork
    (show Role.all.getLast? = some .client from rfl) hc r r.mem_all

section Services

variable (hconf : Confined host.tool)
  (hissuer : host.suite.readCertificate authority.certPem = .ok authority.certificate)
include hconf hissuer

/-- However the work on the services ends, what is chained afterwards is one of them, sealed under the
authority, or has its files as they were. -/
theorem services_seal {t : Tree} {ps : List Profile}
    (hps : Discovery.profilesIn t s.tlsDirectory s.deploySpace s.defaultSpace = .ok ps) {w : World σ}
    (hw : w.tree = t) (d : Location)
    (hc : Chained ((ps.mapM (buildService host s authority)).exec w).2.tree d) :
    ((∃ p ∈ ps, d = p.layout.directory.place) ∧
      Sealed host.suite ((ps.mapM (buildService host s authority)).exec w).2.tree d authority.certPem) ∨
      Same d t ((ps.mapM (buildService host s authority)).exec w).2.tree := by
  refine (services_outcome (P := fun t' => Chained t' d →
      ((∃ p ∈ ps, d = p.layout.directory.place) ∧ Sealed host.suite t' d authority.certPem) ∨ Same d t t')
    hconf hps ?_ hw fun _ => .inr (.refl _ _)).2 hc
  intro p hp hroles v v' outcome hd hwork hinv hc
  by_cases hpd : d = p.layout.directory.place
  · subst hpd
    exact .inl ⟨⟨p, hp, rfl⟩, buildService_seals hconf hroles hissuer hd hwork hc⟩
  · have hwithin := service_within hconf hd hwork
    have hout (r : Role) (a : Artifact) : fileAt d r a ∉ stalePlaces p.layout.directory.place :=
      fun hm => hpd (fileAt_mem_stalePlaces.mp hm)
    have hsame : Same d v.tree v'.tree := .of_within hwithin hout
    exact (hinv (hsame.chained.mp hc)).imp (.imp_right hsame.sealed) (·.trans hsame)

/-- After work on the services that returned, all of them are sealed under the authority. -/
theorem services_sealed {t : Tree} {ps : List Profile}
    (hps : Discovery.profilesIn t s.tlsDirectory s.deploySpace s.defaultSpace = .ok ps)
    {w w' : World σ} {made : List (List (Material × Bundle))} (hw : w.tree = t)
    (h : (ps.mapM (buildService host s authority)).exec w = (.ok made, w')) :
    ∀ p ∈ ps, Chained w'.tree p.layout.directory.place →
      Sealed host.suite w'.tree p.layout.directory.place authority.certPem := by
  refine services_all hconf hps (Q := fun p t => Chained t p.layout.directory.place →
    Sealed host.suite t p.layout.directory.place authority.certPem) ?_ ?_ hw h
  · intro p _ hroles w w' made hmade hd
    exact buildService_seals hconf hroles hissuer hd hmade
  · intro p files t t' hwithin hout hsealed hc
    have hout' (r : Role) (a : Artifact) := hout _ (fileAt_mem_stalePlaces (r := r) (a := a).mpr rfl)
    exact (hsealed ((Same.of_within hwithin hout').chained.mp hc)).keep hwithin hout'

end Services

/-- A file that has no name of a role's is not written by the work on the services. -/
theorem services_fade (hconf : Confined host.tool) {t : Tree} {ps : List Profile}
    (hps : Discovery.profilesIn t s.tlsDirectory s.deploySpace s.defaultSpace = .ok ps) {w : World σ}
    (hw : w.tree = t) {name : String} (hother : ∀ r, name ∉ ServiceLayout.namesFor r Artifact.all) {b : Bytes}
    (hb : ((ps.mapM (buildService host s authority)).exec w).2.tree.Holds (d ++ [name]) b) :
    t.Holds (d ++ [name]) b := by
  refine (services_outcome (P := fun t' => t'.Holds (d ++ [name]) b → t.Holds (d ++ [name]) b) hconf hps
    ?_ hw id).2 hb
  intro p hp _ v v' outcome hd hwork hinv hb
  refine hinv ?_
  obtain ⟨t', hcleared, hroles, -⟩ := buildService_course hconf hd hwork
  obtain ⟨mode, hb⟩ := (hroles.holds (not_mem_rolePlaces hother)).mp hb
  refine ⟨mode, ?_⟩
  by_cases hf : v.tree.HoldsFile (d ++ [name])
  · by_cases hl : d ++ [name] ∈ stalePlaces p.layout.directory.place
    · rw [hcleared.gone _ hl hf] at hb
      cases hb
    · rwa [hcleared.kept _ (.inl hl)] at hb
  · rwa [hcleared.kept _ (.inr hf)] at hb

/-! ## Builds -/

/-- The service in `d` is sealed under a certificate, and the authority's file holds no other. -/
def Current (suite : Suite) (s : Settings) (t : Tree) (d : Location) : Prop :=
  ∃ ca, Sealed suite t d ca ∧ ∀ b, t.Holds s.authorityLayout.cert.place b → b = ca

section Builds

variable {dirs : Set Location} {w w' v : World σ} {d : Location} {descriptor : AuthorityDescriptor}
  {ps : List Profile} {force : Bool}

theorem cert_not_mem_tokenKeys {l : AuthorityLayout} {d' : Location} :
    l.cert.place ∉ TokenKeys.places d' := by
  rw [AuthorityLayout.place_cert]
  exact placesNamed_disjoint authority_names_apart (mem_placesNamed.mpr (by decide))

/-- The certificate's file holds nothing after the work on the services but the authority's certificate. -/
theorem services_cert (hconf : Confined host.tool) (hlayout : authority.layout = s.authorityLayout)
    (hstands : Authority.Stands host.suite w.tree authority)
    (hps : Discovery.profilesIn w.tree s.tlsDirectory s.deploySpace s.defaultSpace = .ok ps)
    (hv : v.tree = w.tree) {b : Bytes}
    (hb : ((ps.mapM (buildService host s authority)).exec v).2.tree.Holds s.authorityLayout.cert.place b) :
    b = authority.certPem := by
  rw [AuthorityLayout.place_cert] at hb
  have hbefore := services_fade hconf hps hv (fun r => namesFor_apart (by decide) r) hb
  rw [← AuthorityLayout.place_cert, ← hlayout] at hbefore
  exact hbefore.unique (holds_of_read hstands.cert)

/-- A build that came as far as the services: what is chained afterwards is one of them, and current, or
has its files as they were. -/
theorem worked_seals (hconf : Confined host.tool) (hsuite : host.suite.ReadsAuthorities)
    (hensure : (Authority.ensure host s.authorityLayout.directory descriptor none force).exec w =
      (.ok authority, w'))
    (hps : Discovery.profilesIn w'.tree s.tlsDirectory s.deploySpace s.defaultSpace = .ok ps)
    (hv : v.tree = w'.tree)
    (htokens : Within (TokenKeys.places s.tokenDirectory.place) dirs
      ((ps.mapM (buildService host s authority)).exec v).2.tree t) (hc : Chained t d) :
    Same d w.tree t ∨ (∃ name ∈ Discovery.serviceNames t s.tlsDirectory,
      d = (s.tlsDirectory.child name).place) ∧ Current host.suite s t d := by
  obtain ⟨hlayout, hstands, -⟩ := Authority.ensure_ok hsuite hensure
  have hsame : Same d ((ps.mapM (buildService host s authority)).exec v).2.tree t :=
    .of_within htokens fun r a => fileAt_not_mem_placesNamed fun _ => List.mem_append_right _
  rcases services_seal hconf hstands.certificate hps hv d (hsame.chained.mp hc) with ⟨⟨p, hp, hpd⟩, hs⟩ | hbefore
  · obtain ⟨hname, -, hdir, -, -⟩ := profile_of_mem hps hp
    have hwithin := services_within authority hconf hps hv
    have hfound := (Discovery.serviceNames_mono hwithin (descriptor_not_mem_servicePlaces _ _ _) hname).1
    refine .inr ⟨⟨p.name, (Discovery.serviceNames_mono htokens (fun hm => ?_) hfound).1, hdir ▸ hpd⟩,
      authority.certPem, hsame.sealed hs, fun b hb => ?_⟩
    · exact ServiceLayout.place_descriptor_not_stale _ _ (TokenKeys.places_subset_stale _ hm)
    · exact services_cert hconf hlayout hstands hps hv ((htokens.holds cert_not_mem_tokenKeys).mp hb)
  · have hleaves := ((ensure_leaves (d := d) none force).ran hensure).1
    exact .inl (((hleaves.trans hbefore.leaves).trans hsame.leaves) hc)

/-- However a build ends, what is chained afterwards is a service that is current, or has its files as
they were. -/
theorem build_seals (hconf : Confined host.tool) (hsuite : host.suite.ReadsAuthorities)
    (force withTokenKeys : Bool) (w : World σ)
    (hc : Chained ((build host s force withTokenKeys).exec w).2.tree d) :
    Same d w.tree ((build host s force withTokenKeys).exec w).2.tree ∨
      (∃ name ∈ Discovery.serviceNames ((build host s force withTokenKeys).exec w).2.tree s.tlsDirectory,
        d = (s.tlsDirectory.child name).place) ∧
      Current host.suite s ((build host s force withTokenKeys).exec w).2.tree d := by
  have hcourse := build_course host s force withTokenKeys w
  generalize ((build host s force withTokenKeys).exec w).2.tree = t' at hcourse hc
  cases hcourse with
  | refused => exact .inl (.refl _ _)
  | withoutAuthority ht _ h => exact .inl (ht ▸ ((ensure_leaves none force).ran h).1 hc)
  | withoutServices ht _ h => exact .inl (ht ▸ ((ensure_leaves none force).ran h).1 hc)
  | working ht _ h hps hv => exact ht ▸ worked_seals hconf hsuite h hps hv (.refl _ ∅ _) hc
  | @worked _ _ _ u' _ _ _ _ ht _ h hps hv hmade hkeys =>
    have htokens := ((TokenKeys.ensure_within _ _ : Obeys _ (TokenKeys.ensure host s.tokenDirectory force)) u').1
    exact ht ▸ worked_seals hconf hsuite h hps hv (by rwa [hmade]) hc

/-- A build that returned has made every service current that was there before it. -/
theorem build_current (hconf : Confined host.tool) (hsuite : host.suite.ReadsAuthorities) {withTokenKeys : Bool}
    {result : BuildResult} (h : (build host s force withTokenKeys).exec w = (.ok result, w')) {name : String}
    (hname : name ∈ Discovery.serviceNames w.tree s.tlsDirectory)
    (hc : Chained w'.tree (s.tlsDirectory.child name).place) :
    Current host.suite s w'.tree (s.tlsDirectory.child name).place := by
  obtain ⟨w₁, w₂, w₃, w₄, descriptor, made, ⟨ht₁, -⟩, hensure, hps, ht₃, hmade, -, hrest⟩ := build_ok h
  obtain ⟨hlayout, hstands, -⟩ := Authority.ensure_ok hsuite hensure
  have hbefore := ((Authority.ensure_within s.authorityLayout.directory none force).ran hensure).1
  rw [ht₁] at hbefore
  have hfound := (Discovery.serviceNames_mono hbefore
    (ServiceLayout.place_descriptor_not_stale _ _) hname).1
  obtain ⟨p, hp, rfl⟩ : ∃ p ∈ result.profiles, p.name = name :=
    List.mem_map.mp (Discovery.profilesIn_names hps ▸ hfound)
  obtain ⟨-, -, hdir, -, -⟩ := profile_of_mem hps hp
  obtain ⟨dirs, htokens⟩ := tokenKeys_last hrest
  have hsame : Same (s.tlsDirectory.child p.name).place w₄.tree w'.tree :=
    .of_within htokens fun r a hm => fileAt_not_mem_placesNamed (fun _ => List.mem_append_right _) hm.2
  have hsealed := services_sealed hconf hstands.certificate hps ht₃ hmade p hp
  rw [hdir] at hsealed
  refine ⟨result.authority.certPem, hsame.sealed (hsealed (hsame.chained.mp hc)), fun b hb => ?_⟩
  refine services_cert hconf hlayout hstands hps ht₃ ?_
  rw [hmade]
  exact (htokens.holds fun hm => cert_not_mem_tokenKeys hm.2).mp hb

end Builds

end Chain

end ServiceTrust
