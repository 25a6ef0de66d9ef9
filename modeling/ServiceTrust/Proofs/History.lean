/-
Histories over one tree: any number of builds, each ending anywhere, of deployments to any store, and of
edits of files that are not generated. Two things hold all along of a service that has its last chain
(`Sound`): it is sealed under some certificate, and under the one that the authority's file has, unless it
was left behind by a build that changed that file and failed. So whatever a deployment publishes is a chain
that verifies, to the authority beside it where nothing was left behind.
-/
import ServiceTrust.Proofs.Pipeline.Assurance
import ServiceTrust.Proofs.Pipeline.Chain
import ServiceTrust.Proofs.Pipeline.Footprint
import ServiceTrust.Proofs.Pipeline.Writes
import ServiceTrust.Proofs.Specimen

namespace ServiceTrust

open Stage ServiceTrust.Tree Keystore Publish Pipeline

namespace History

variable {σ : Type} {suite : Suite} {s : Settings}

/-! ## Runs -/

/-- One run of a history. Builds and deployments start from a world with the files of the history. -/
inductive Run (σ : Type) where
  | build (host : Host) (force withTokenKeys : Bool) (w : World σ)
  | deploy (store : SecretStore σ) (space : Option String) (tlsOnly : Bool) (w : World σ)
  | edit (path : Path) (bytes : Bytes)

/-- Builds have the same primitives and a tool that keeps to its stores, stores leave the files alone,
and no generated file is edited. -/
def Run.Proper (suite : Suite) : Run σ → Prop
  | .build host _ _ _ => host.suite = suite ∧ Confined host.tool
  | .deploy store _ _ _ => store.Aloof
  | .edit path _ => path.place ∉ generatedPlaces

/-- The directory of the service `name`. -/
def directory (s : Settings) (name : String) : Location := (s.tlsDirectory.child name).place

/-- The services that have the same last chain in `t` and `t'`, and were left behind before, or are now
because the authority's certificate is not what it was. -/
def leftBehind (s : Settings) (t t' : Tree) (before : Set String) : Set String :=
  {name | (∃ chain, t.Holds (Chain.fileAt (directory s name) .client .chain) chain ∧
      t'.Holds (Chain.fileAt (directory s name) .client .chain) chain) ∧
    (name ∈ before ∨
      ¬ ∀ ca, t'.Holds s.authorityLayout.cert.place ca ↔ t.Holds s.authorityLayout.cert.place ca)}

/-- What a history has come to: the files, and the services that failed builds left behind since the last
build that returned. -/
structure Past where
  tree : Tree
  behind : Set String := ∅

def Past.after (s : Settings) (past : Past) : Run σ → Past
  | .build host force withTokenKeys w =>
    match (build host s force withTokenKeys).exec { w with tree := past.tree } with
    | (.ok _, w') => ⟨w'.tree, ∅⟩
    | (.error _, w') => ⟨w'.tree, leftBehind s past.tree w'.tree past.behind⟩
  | .deploy store space tlsOnly w =>
    { past with tree :=
        ((deploy store.noting s space tlsOnly).exec { w with tree := past.tree, store := (w.store, []) }).2.tree }
  | .edit path bytes => { past with tree := (past.tree.write path bytes).toOption.getD past.tree }

/-! ## The invariant -/

/-- What has its last chain is a service, it is sealed, and it is current if it was not left behind. -/
structure Sound (suite : Suite) (s : Settings) (past : Past) : Prop where
  found : ∀ {name}, isName name = true → Chain.Chained past.tree (directory s name) →
    name ∈ Discovery.serviceNames past.tree s.tlsDirectory
  issued : ∀ {name}, isName name = true → Chain.Chained past.tree (directory s name) →
    ∃ ca, Chain.Sealed suite past.tree (directory s name) ca
  current : ∀ {name}, isName name = true → Chain.Chained past.tree (directory s name) → name ∉ past.behind →
    Chain.Current suite s past.tree (directory s name)

/-- No service has its last chain. -/
def Unchained (s : Settings) (t : Tree) : Prop :=
  ∀ name, isName name = true → ¬ Chain.Chained t (directory s name)

theorem unchained_of_clean {t : Tree} (h : ∀ l ∈ generatedPlaces, ¬ t.HoldsFile l) : Unchained s t :=
  fun _ _ => h _ ⟨_, Chain.fileAt_mem_stalePlaces.mpr rfl⟩

theorem sound_unchained {t : Tree} (h : Unchained s t) : Sound suite s ⟨t, ∅⟩ :=
  ⟨fun hn hc => absurd hc (h _ hn), fun hn hc => absurd hc (h _ hn), fun hn hc => absurd hc (h _ hn)⟩

/-- Where no generated file changes and no service is lost, nothing changes. -/
theorem Sound.of_same {past : Past} {t : Tree} {files dirs : Set Location} (h : Sound suite s past)
    (hw : Within files dirs past.tree t) (hfiles : ∀ l ∈ generatedPlaces, l ∉ files)
    (hfound : ∀ name ∈ Discovery.serviceNames past.tree s.tlsDirectory,
      name ∈ Discovery.serviceNames t s.tlsDirectory) : Sound suite s { past with tree := t } := by
  have hsame (d : Location) : Chain.Same d past.tree t := .of_within hw fun r a =>
    hfiles _ ⟨d, Chain.fileAt_mem_stalePlaces.mpr rfl⟩
  have hcert : s.authorityLayout.cert.place ∈ generatedPlaces :=
    ⟨_, AuthorityLayout.places_subset_stale _ (s.authorityLayout.place_cert ▸ mem_placesNamed.mpr (by decide))⟩
  refine ⟨fun hn hc => hfound _ (h.found hn ((hsame _).chained.mp hc)), fun hn hc => ?_, fun hn hc hb => ?_⟩
  · obtain ⟨ca, hs⟩ := h.issued hn ((hsame _).chained.mp hc)
    exact ⟨ca, (hsame _).sealed hs⟩
  · obtain ⟨ca, hs, hca⟩ := h.current hn ((hsame _).chained.mp hc) hb
    exact ⟨ca, (hsame _).sealed hs, fun b hb => hca b ((hw.holds (hfiles _ hcert)).mp hb)⟩

theorem Sound.edit {past : Past} (h : Sound suite s past) {path : Path} (hpath : path.place ∉ generatedPlaces)
    (bytes : Bytes) : Sound suite s { past with tree := (past.tree.write path bytes).toOption.getD past.tree } := by
  cases hwrite : past.tree.write path bytes with
  | error fault => exact h
  | ok t =>
    have hw := write_within hwrite
    refine h.of_same hw (fun l hl he => hpath (he ▸ hl)) fun name hname => ?_
    obtain ⟨hn, hd, hf⟩ := Discovery.mem_serviceNames.mp hname
    refine Discovery.mem_serviceNames.mpr ⟨hn, hw.isDirectory hd, ?_⟩
    -- a descriptor that is written anew is still a file
    obtain ⟨hl, hholds⟩ := isFile_iff.mp hf
    refine isFile_iff.mpr ⟨hw.locate hl, ?_⟩
    by_cases he : (Discovery.layoutOf s.tlsDirectory name).descriptor.place = path.place
    · exact he ▸ (holds_of_read (read_write hwrite)).holdsFile
    · exact (hw.holdsFile he).mpr hholds

section Build

variable {host : Host} {past : Past} (hsuite : host.suite.ReadsAuthorities) (hconf : Confined host.tool)
include hsuite hconf

theorem Sound.build_outcome (h : Sound host.suite s past) (name : String) {force withTokenKeys : Bool} {w w' : World σ}
    {outcome : Except Failure BuildResult} (hw : w.tree = past.tree)
    (hbuild : (build host s force withTokenKeys).exec w = (outcome, w'))
    (hname : isName name = true) (hc : Chain.Chained w'.tree (directory s name)) :
    name ∈ Discovery.serviceNames w'.tree s.tlsDirectory ∧
      (∃ ca, Chain.Sealed host.suite w'.tree (directory s name) ca) ∧
      (Chain.Same (directory s name) past.tree w'.tree ∨
        Chain.Current host.suite s w'.tree (directory s name)) := by
  have hseals := Chain.build_seals (s := s) (d := directory s name) hconf hsuite force withTokenKeys w
  have hwithin := build_within (s := s) hconf force withTokenKeys w
  rw [hbuild] at hseals hwithin
  rw [hw] at hwithin hseals
  rcases hseals hc with hsame | ⟨⟨service, hservice, he⟩, hcurrent⟩
  · have hbefore := hsame.chained.mp hc
    obtain ⟨ca, hs⟩ := h.issued hname hbefore
    exact ⟨(Discovery.serviceNames_mono hwithin (descriptor_not_mem_generatedPlaces _) (h.found hname hbefore)).1,
      ⟨ca, hsame.sealed hs⟩, .inl hsame⟩
  · obtain ⟨hproper, -, -⟩ := Discovery.mem_serviceNames.mp hservice
    obtain ⟨-, rfl⟩ := (Path.place_child_inj hname hproper).mp he
    obtain ⟨ca, hs, honly⟩ := hcurrent
    exact ⟨hservice, ⟨ca, hs⟩, .inr ⟨ca, hs, honly⟩⟩

/-- A build that returned leaves no service behind. -/
theorem Sound.build_ok (h : Sound host.suite s past) {force withTokenKeys : Bool} {w w' : World σ}
    {result : BuildResult} (hw : w.tree = past.tree)
    (hbuild : (build host s force withTokenKeys).exec w = (.ok result, w')) :
    Sound host.suite s ⟨w'.tree, ∅⟩ := by
  have hall {name : String} := h.build_outcome hsuite hconf name hw hbuild
  refine ⟨fun hname hc => (hall hname hc).1, fun hname hc => (hall hname hc).2.1, fun hname hc _ => ?_⟩
  rcases (hall hname hc).2.2 with hsame | hcurrent
  · exact Chain.build_current hconf hsuite hbuild (hw ▸ h.found hname (hsame.chained.mp hc)) hc
  · exact hcurrent

/-- A build that failed may have left services behind, but those that it changed are current. -/
theorem Sound.build_error (h : Sound host.suite s past) {force withTokenKeys : Bool} {w w' : World σ}
    {e : Failure} (hw : w.tree = past.tree)
    (hbuild : (build host s force withTokenKeys).exec w = (.error e, w')) :
    Sound host.suite s ⟨w'.tree, leftBehind s past.tree w'.tree past.behind⟩ := by
  have hall {name : String} := h.build_outcome hsuite hconf name hw hbuild
  refine ⟨fun hname hc => (hall hname hc).1, fun hname hc => (hall hname hc).2.1, fun {name} hname hc hnot => ?_⟩
  rcases (hall hname hc).2.2 with hsame | hcurrent
  · have hbefore := hsame.chained.mp hc
    obtain ⟨chain, hchain⟩ := hc
    have hold : ¬ (name ∈ past.behind ∨
        ¬ ∀ ca, w'.tree.Holds s.authorityLayout.cert.place ca ↔
          past.tree.Holds s.authorityLayout.cert.place ca) :=
      fun hor => hnot ⟨⟨chain, (hsame _ _ _).mp hchain, hchain⟩, hor⟩
    obtain ⟨hbehind, hca⟩ := not_or.mp hold
    obtain ⟨ca, hs, honly⟩ := h.current hname hbefore hbehind
    exact ⟨ca, hsame.sealed hs, fun b hb => honly b ((not_not.mp hca b).mp hb)⟩
  · exact hcurrent

end Build

theorem Sound.after (hsuite : suite.ReadsAuthorities) {past : Past}
    (h : Sound suite s past) {run : Run σ} (hproper : run.Proper suite) : Sound suite s (past.after s run) := by
  cases run with
  | build host force withTokenKeys w =>
    obtain ⟨rfl, hconf⟩ := hproper
    unfold Past.after
    dsimp only
    split
    next result w' hbuild => exact h.build_ok hsuite hconf rfl hbuild
    next e w' hbuild => exact h.build_error hsuite hconf rfl hbuild
  | deploy store space tlsOnly w =>
    have ht := (deploy_writes (s := s) hproper space tlsOnly { w with tree := past.tree }).1
    exact h.of_same (show Within ∅ ∅ _ _ from .of_eq ht) (fun _ _ => Set.notMem_empty _) fun _ hname => ht ▸ hname
  | edit path bytes => exact h.edit hproper bytes

/-- The files, and the services left behind, after `runs` from the files `t`. -/
def past (s : Settings) (t : Tree) (runs : List (Run σ)) : Past := runs.foldl (Past.after s) ⟨t, ∅⟩

theorem sound_past (hsuite : suite.ReadsAuthorities) {t : Tree}
    (hstart : Unchained s t) {runs : List (Run σ)} (hproper : ∀ run ∈ runs, run.Proper suite) :
    Sound suite s (past s t runs) := by
  suffices hall : ∀ {p : Past}, Sound suite s p → Sound suite s (runs.foldl (Past.after s) p) from
    hall (sound_unchained hstart)
  induction runs with
  | nil => exact id
  | cons run runs ih =>
    intro p hp
    exact ih (fun r hr => hproper r (List.mem_cons_of_mem _ hr))
      (hp.after hsuite (hproper run (List.mem_cons_self ..)))

/-! ## What is published -/

/-- What the secret of a role of the service `p` says about its chain: its certificate verifies against
`issuer`, with which the chains of the shared roles end, and beside it is the authority's certificate
`ca`. -/
structure Publishes (suite : Suite) (t : Tree) (p : Profile) (r : SecretRecord) (issuer ca : Bytes) : Prop where
  cert : ∃ cert, r.data.lookup ((certKey p.convention).text p.name) = some cert ∧ suite.Verifies cert issuer
  chain : ∀ role ∈ [Role.server, Role.client], ∃ leaf, t.read (p.layout.path role .cert) = .ok leaf ∧
    r.data.lookup ((chainKey role).text p.name) = some (leaf ++ issuer)
  authority : r.data.lookup (authorityKeyName.text p.name) = some ca

/-- The secret of a role whose files are there, of a service that is sealed. -/
theorem publishes_of_sealed {t : Tree} {p : Profile} {role : Role} {issuer : Bytes} (target : String)
    (hcert : s.authorityCert = none) (hfiles : HasFiles t (dataEntries p role (authorityFiles s)))
    (hs : Chain.Sealed suite t p.layout.directory.place issuer) :
    ∃ ca, t.Holds s.authorityLayout.cert.place ca ∧
      Publishes suite t p (primaryRecord t (authorityFiles s) target p role) issuer ca := by
  have hthere {k : Key} {source : Source} (hb : binds p.convention role k source = true) :
      t.isFile (source.path p.layout (authorityFiles s)) = true :=
    hfiles _ (Lookup.mem_of_lookup (lookup_dataEntries hb))
  have hdir : t.isDirectory p.layout.directory = true :=
    isDirectory_of_isFile_child (isPart_fileName ..) (hthere (binds_cert p.convention role))
  have hleaf (r : Role) : ∃ leaf, t.read (p.layout.path r .cert) = .ok leaf ∧ suite.Verifies leaf issuer ∧
      ∀ b, t.read (p.layout.path r .chain) = .ok b → b = leaf ++ issuer := by
    obtain ⟨leaf, hholds, hv, hchain⟩ := hs r
    rw [← Chain.fileAt_path] at hholds
    refine ⟨leaf, (read_child hdir (isPart_fileName ..)).mpr hholds, hv, fun b hb => hchain b ?_⟩
    exact Chain.fileAt_path p.layout r .chain ▸ holds_of_read hb
  have hauthority : (authorityFiles s).cert = s.authorityLayout.cert := by simp [authorityFiles, hcert]
  obtain ⟨ca, hca⟩ := isFile_iff_read.mp (hthere (binds_authority p.convention role))
  refine ⟨ca, hauthority ▸ holds_of_read hca, ?_, fun shared hshared => ?_, lookup_primary (binds_authority _ role) hca⟩
  · obtain ⟨cert, hread, hv, -⟩ := hleaf (certRole p.convention role)
    exact ⟨cert, lookup_primary (binds_cert _ role) hread, hv⟩
  · have hbinds := (binds_shared p.convention role hshared).1
    obtain ⟨leaf, hread, -, hchain⟩ := hleaf shared
    obtain ⟨chain, hc⟩ := isFile_iff_read.mp (hthere hbinds)
    obtain rfl := hchain chain hc
    exact ⟨leaf, hread, lookup_primary hbinds hc⟩

/-- Whatever a deployment writes after any history that began without a chain of a service: under the name
of a role's secret it is one of a service that is there, its certificate verifies against the certificate
that its chains end with, and that is the authority's certificate beside it if the service was not left
behind. -/
theorem history_publishes_chains (hcert : s.authorityCert = none) (hsuite : suite.ReadsAuthorities) {t : Tree}
    (hstart : Unchained s t) {runs : List (Run σ)} (hproper : ∀ run ∈ runs, run.Proper suite)
    {store : SecretStore σ} (haloof : store.Aloof) (space : Option String) (tlsOnly : Bool) {w : World σ}
    (hw : w.tree = (past s t runs).tree) :
    ∀ r ∈ written store s space tlsOnly w, ∀ service role, r.name = secretName service role →
      ∃ ps p issuer ca,
        Discovery.profilesIn w.tree s.tlsDirectory (spaceOf s space) s.defaultSpace = .ok ps ∧
        p ∈ ps ∧ p.name = service ∧ Publishes suite w.tree p r issuer ca ∧
        (service ∉ (past s t runs).behind → issuer = ca) := by
  intro r hr service role hname
  obtain ⟨ps, target, hps, p, hp, rfl, hfiles, rfl⟩ := (deploy_writes haloof space tlsOnly w).2 r hr service role hname
  obtain ⟨hservice, descriptor, -, he⟩ := Discovery.mem_profilesIn hps hp
  have hdir : p.layout.directory.place = directory s p.name := by
    rw [he]
    rfl
  obtain ⟨hproperName, -, -⟩ := Discovery.mem_serviceNames.mp hservice
  have hchained : Chain.Chained w.tree (directory s p.name) := by
    have hbinds := (binds_shared p.convention role (show Role.client ∈ _ by decide)).1
    have hfile := hfiles _ (Lookup.mem_of_lookup (lookup_dataEntries hbinds))
    rw [Chain.Chained, ← hdir, ← Chain.fileAt_path]
    exact (isFile_iff.mp hfile).2
  have hsound := sound_past (s := s) hsuite hstart hproper
  rw [hw] at hchained hfiles
  by_cases hbehind : p.name ∈ (past s t runs).behind
  · obtain ⟨issuer, hs⟩ := hsound.issued hproperName hchained
    obtain ⟨ca, -, hpublishes⟩ := publishes_of_sealed target hcert hfiles (hdir ▸ hs)
    exact ⟨ps, p, issuer, ca, hps, hp, rfl, hw ▸ hpublishes, fun hnot => absurd hbehind hnot⟩
  · obtain ⟨issuer, hs, honly⟩ := hsound.current hproperName hchained hbehind
    obtain ⟨ca, hca, hpublishes⟩ := publishes_of_sealed target hcert hfiles (hdir ▸ hs)
    exact ⟨ps, p, issuer, ca, hps, hp, rfl, hw ▸ hpublishes, fun _ => (honly ca hca).symm⟩

/-! ## A history that is cut short -/

/-- Leaves a mark in the store that is named after the option `flag`. -/
def mark (flag : String) (argv : List String) (t : Tree) : ToolReply × Tree :=
  match t.write (.ofString (((Reference.options (argv.drop 4)).lookup flag).getD "")) [0] with
  | .ok t => (.finished 0 "" "", t)
  | .error fault => (.finished 1 "" fault.message, t)

/-- A tool that leaves a mark in each store that it is to write, and otherwise does nothing. -/
def markingTool : Tool := fun n argv t =>
  match argv[3]? with
  | some "-importcert" => mark "-keystore" argv t
  | some "-importkeystore" => mark "-destkeystore" argv t
  | _ => Bundle.idleTool n argv t

theorem mark_within {c : Command} {flag : String} {store : Path} {t : Tree} (executable : String)
    (hs : Reference.optionOf c flag = store.toString) :
    Within {store.place} ∅ t (mark flag (c.argv executable) t).2 := by
  have hnamed : ((Reference.options ((c.argv executable).drop 4)).lookup flag).getD "" = store.toString := hs
  rw [mark, hnamed, Path.ofString_toString]
  split
  next hwrite => exact write_within hwrite
  next => exact .refl _ _ _

theorem markingTool_confined : Confined markingTool := by
  intro n executable c store t hc
  cases hc with
  | importCert alias_ cert password type => exact mark_within executable (Reference.optionOf_importCert ..)
  | importKeystore source sourcePassword destPassword alias_ sourceType destType =>
    exact mark_within executable (Reference.optionOf_importKeystore ..)
  | listEntries password type => exact .refl _ _ _

/-- The specimen with a second service. -/
def twofold : Tree := ⟨Specimen.tree.entries ++ [
  (["tls", "b"], .directory),
  (["tls", "b", ServiceLayout.descriptorName], .file (Specimen.descriptorBytes "b") 0o644)]⟩

def hostWith (tool : Tool) : Host := { Specimen.host with tool := tool }

/-- A build, and one that is to replace the authority, of which the tool fails when it is run for the last store
of the first service. -/
def interrupted : List (Run DryStore) :=
  let failing := Reference.withFaults (fun n => if n = 21 then some (.finished 1 "" "") else none) markingTool
  [.build (hostWith markingTool) false true { Specimen.world with tree := twofold },
    .build (hostWith failing) true true { Specimen.world with seeds := 20 }]

theorem interrupted_proper : ∀ run ∈ interrupted, run.Proper Specimen.suite := by
  intro run hrun
  simp only [interrupted, List.mem_cons, List.not_mem_nil, or_false] at hrun
  rcases hrun with rfl | rfl
  · exact ⟨rfl, markingTool_confined⟩
  · exact ⟨rfl, Reference.withFaults_confined markingTool_confined _⟩

theorem twofold_clean : ∀ l ∈ generatedPlaces, ¬ twofold.HoldsFile l :=
  not_holdsFile_of_entries (by decide)

theorem interrupted_history_publishes :
    (∀ run ∈ interrupted, run.Proper Specimen.suite) ∧
    ∀ r ∈ written DryStore.store {} none false { Specimen.world with tree := (past {} twofold interrupted).tree },
      ∀ service role, r.name = secretName service role → ∃ p issuer ca, p.name = service ∧
        Publishes Specimen.suite (past {} twofold interrupted).tree p r issuer ca ∧
        (service ∉ (past {} twofold interrupted).behind → issuer = ca) := by
  refine ⟨interrupted_proper, fun r hr service role hname => ?_⟩
  -- said of any files, since checking it of those of the history would run it
  have htree (t : Tree) : { Specimen.world with tree := t }.tree = t := rfl
  obtain ⟨ps, p, issuer, ca, -, -, hp, hpublishes, hbehind⟩ := history_publishes_chains rfl
    Specimen.readsAuthorities (unchained_of_clean twofold_clean) interrupted_proper DryStore.store_aloof none false
    (htree _) r hr service role hname
  rw [htree] at hpublishes
  exact ⟨p, issuer, ca, hp, hpublishes, hbehind⟩

/-- The record is the secret of the server of `service`, and its certificate does not verify against the
authority's beside it. -/
def breaksChain (suite : Suite) (service : String) (r : SecretRecord) : Bool :=
  r.name = secretName service .server &&
    match r.data.lookup ((certKey .standard).text service), r.data.lookup (authorityKeyName.text service) with
    | some cert, some ca => !suite.verifies cert ca
    | _, _ => false

set_option maxRecDepth 100000 in
/-- The first service has all the files that are published of it, so the deployment comes to the second one, whose
files are those of the first build. -/
theorem interrupted_history_breaks_chain :
    (∀ l ∈ generatedPlaces, ¬ twofold.HoldsFile l) ∧
    (∀ run ∈ interrupted, run.Proper Specimen.suite) ∧
    ∃ r ∈ written DryStore.store {} none false { Specimen.world with tree := (past {} twofold interrupted).tree },
      r.name = secretName "b" .server ∧ ∃ cert ca,
        r.data.lookup ((certKey .standard).text "b") = some cert ∧
        r.data.lookup (authorityKeyName.text "b") = some ca ∧ ¬ Specimen.suite.Verifies cert ca := by
  have hbroken : (written DryStore.store {} none false
      { Specimen.world with tree := (past {} twofold interrupted).tree }).any
        (breaksChain Specimen.suite "b") = true := by
    decide +kernel
  obtain ⟨r, hr, hbreaks⟩ := List.any_eq_true.mp hbroken
  simp only [breaksChain, Bool.and_eq_true, decide_eq_true_eq] at hbreaks
  obtain ⟨hname, hbreaks⟩ := hbreaks
  refine ⟨twofold_clean, interrupted_proper, r, hr, hname, ?_⟩
  split at hbreaks
  next cert ca hcert hca =>
    refine ⟨cert, ca, hcert, hca, fun hv => ?_⟩
    rw [Suite.verifies_of_verifies hv] at hbreaks
    cases hbreaks
  next => cases hbreaks

end History

end ServiceTrust
