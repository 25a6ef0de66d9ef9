/-
The stores of a role. Whatever the tool does within its contract, packing writes only its own files
of the role and leaves key and certificate alone. A bundle that is returned has its chain, its
passwords and its PKCS #12 store on disk, and the store opens with the password. The other stores are
the tool's: for them there is the transcript of its runs, in which each listing shows the authority
alone, and no later run touched the store that was listed.
-/
import ServiceTrust.Pipeline.Bundle
import ServiceTrust.Proofs.Keystore.Transcript
import ServiceTrust.Proofs.Layout

namespace ServiceTrust

open Stage ServiceTrust.Tree Keystore

/-- A store of a key and two certificates that were read from their files, if it opens, holds the key, and
under the alias the first of the certificates. -/
def Suite.KeepsStores (suite : Suite) : Prop :=
  ∀ ⦃keyPem certPem authorityPem key leaf authority alias_ password seed content⦄,
    suite.readKey keyPem = .ok key → suite.readCertificate certPem = .ok leaf →
    suite.readCertificate authorityPem = .ok authority →
    suite.readStore (suite.writeStore alias_ key leaf [authority] password seed) password = some content →
    (∀ k, content.key = some k → k = key) ∧ ∀ c, content.leaf = some (c, some alias_) → c = leaf

namespace Bundle

variable {σ : Type} {host : Host} {s : Settings} {m : Material} {l : ServiceLayout}
  {executable password : String}

/-! ## What the tool is asked -/

/-- The stores that the tool makes. -/
def toolStores : List Artifact := [.truststoreP12, .keystoreJks, .truststoreJks]

/-- The commands that make them for `m`, in order. -/
def commands (l : ServiceLayout) (m : Material) (password : String) : List Command :=
  let path := l.path m.role
  let authorityFile := l.authorityFile m.role
  [.importCert (path .truststoreP12) "CARoot" authorityFile password "PKCS12",
    .listEntries (path .truststoreP12) password "PKCS12",
    .importKeystore (path .keystoreP12) password (path .keystoreJks) password m.service "PKCS12" "JKS",
    .importCert (path .keystoreJks) "CARoot" authorityFile password "JKS",
    .importCert (path .keystoreJks) m.service (path .chain) password "JKS",
    .importCert (path .truststoreJks) "CARoot" authorityFile password "JKS",
    .listEntries (path .truststoreJks) password "JKS"]

theorem commands_eq (l : ServiceLayout) (m : Material) (password : String) :
    commands l m password =
      [.importCert (l.path m.role .truststoreP12) authorityAlias (l.authorityFile m.role) password
          StoreType.pkcs12.name,
        .listEntries (l.path m.role .truststoreP12) password StoreType.pkcs12.name,
        .importKeystore (l.path m.role .keystoreP12) password (l.path m.role .keystoreJks) password m.service
          StoreType.pkcs12.name StoreType.jks.name,
        .importCert (l.path m.role .keystoreJks) authorityAlias (l.authorityFile m.role) password StoreType.jks.name,
        .importCert (l.path m.role .keystoreJks) m.service (l.path m.role .chain) password StoreType.jks.name,
        .importCert (l.path m.role .truststoreJks) authorityAlias (l.authorityFile m.role) password StoreType.jks.name,
        .listEntries (l.path m.role .truststoreJks) password StoreType.jks.name] := rfl

/-- The store that each of them is about. -/
def commanded : List Artifact :=
  [.truststoreP12, .truststoreP12, .keystoreJks, .keystoreJks, .keystoreJks, .truststoreJks, .truststoreJks]

theorem commands_about (l : ServiceLayout) (m : Material) (password : String) :
    List.Forall₂ (fun c a => c.About (l.path m.role a)) (commands l m password) commanded :=
  .cons (.importCert _ _ _ _) <| .cons (.listEntries _ _) <| .cons (.importKeystore _ _ _ _ _ _) <|
    .cons (.importCert _ _ _ _) <| .cons (.importCert _ _ _ _) <| .cons (.importCert _ _ _ _) <|
    .cons (.listEntries _ _) .nil

/-! ## What changes -/

theorem writeKeystore_within {path : Path} {files : Set Location} (h : path.place ∈ files) :
    Obeys (.within files ∅) (writeKeystore host m password path : Stage σ Unit) :=
  .bind (.crypto _) fun _ => .bind (.crypto _) fun _ => .bind (.crypto _) fun _ =>
    .bind (.newSeed host) fun _ => .write h _

theorem verifyKeystore_still (path : Path) (alias_ : String) :
    Obeys .still (verifyKeystore host path alias_ password : Stage σ Unit) := by
  refine .bind (.read _) fun bytes => ?_
  split
  · exact .fail _
  · exact .ite (fun _ => .fail _) fun _ => .pure _

/-- A run of the tool about one of the files `as` of a role. -/
theorem run_within (hconf : Confined host.tool) {r : Role} {a : Artifact} {as : List Artifact} (ha : a ∈ as)
    {c : Command} (hc : c.About (l.path r a)) :
    Obeys (.within (ServiceLayout.placesFor l.directory.place r as) ∅)
      (run host executable c : Stage σ String) := by
  have hmem : (l.path r a).place ∈ ServiceLayout.placesFor l.directory.place r as :=
    ServiceLayout.place_path_mem.mpr ⟨rfl, rfl, ha⟩
  exact (run_obeys hconf hc).mono fun h =>
    ⟨h.1.mono (Set.singleton_subset_iff.mpr hmem) subset_rfl, h.2⟩

theorem passwordFor_still (r : Role) : Obeys .still (passwordFor host s r : Stage σ String) := by
  unfold passwordFor
  split
  · exact .pure _
  · exact .newToken host

/-- The beginning of a packing: the old stores are removed. -/
def prepare (host : Host) (s : Settings) (m : Material) : Stage σ String := do
  let password ← passwordFor host s m.role
  storeArtifacts.forM fun a => change (·.unlinkIfPresent ((⟨m.certPath.parent⟩ : ServiceLayout).path m.role a))
  return password

/-- The rest of it: the stores are made, and what that came to is told. -/
def pack (host : Host) (s : Settings) (m : Material) (password : String) : Stage σ Bundle := do
  let l : ServiceLayout := ⟨m.certPath.parent⟩
  let about : List (String × Json) := [("service", .text m.service), ("role", .text m.role.name)]
  catchFault (make host s.keytool m l password) fun f => do
    log .error "bundle_failed" (about ++ [("error", .text f.message)])
    fail (.notBundled m.service m.role l f)
  count (.bundleBuilt m.role)
  log .info "bundle_built" (about ++ [("directory", .text (toString l.directory))])
  return ⟨m.service, m.role, password, l⟩

theorem bundle_eq (host : Host) (s : Settings) (m : Material) :
    (bundle host s m : Stage σ Bundle) = prepare host s m >>= pack host s m := by
  simp only [bundle, prepare, pack, bind_assoc, pure_bind]

section Obeying

variable {F : Frame σ}

theorem verifyTruststore_obeys {path : Path} {type : StoreType}
    (h : Obeys F (run host executable (.listEntries path password type.name) : Stage σ String))
    (fingerprint : String) :
    Obeys F (verifyTruststore host executable path password type fingerprint : Stage σ Unit) := by
  refine .bind (.bind h fun _ => .pure _) fun es => ?_
  dsimp only
  split
  · exact .ite (fun _ => .fail _) fun _ => .ite (fun _ => .fail _) fun _ => .pure _
  · exact .fail _

theorem convert_obeys (hauthority : Obeys F (write (l.authorityFile m.role) m.authorityPem))
    (hpassword : Obeys F (write (l.path m.role .jksPassword) (Text.encode (password ++ "\n"))))
    (hrun : ∀ c ∈ commands l m password, Obeys F (run host executable c : Stage σ String)) (fingerprint : String) :
    Obeys F (convert host executable m l password fingerprint (l.authorityFile m.role) : Stage σ Unit) := by
  simp only [commands_eq, List.forall_mem_cons] at hrun
  obtain ⟨h₁, h₂, h₃, h₄, h₅, h₆, h₇, -⟩ := hrun
  exact .bind hauthority fun _ => .bind (.bind h₁ fun _ => .pure _) fun _ =>
    .bind (verifyTruststore_obeys h₂ _) fun _ => .bind h₃ fun _ => .bind hpassword fun _ =>
    .bind (.bind h₄ fun _ => .pure _) fun _ => .bind (.bind h₅ fun _ => .pure _) fun _ =>
    .bind (.bind h₆ fun _ => .pure _) fun _ => verifyTruststore_obeys h₇ _

theorem make_obeys_parts (hchain : Obeys F (write (l.path m.role .chain) m.chainPem))
    (hkeystore : Obeys F (writeKeystore host m password (l.path m.role .keystoreP12)))
    (hpassword : Obeys F (write (l.path m.role .password) (Text.encode (password ++ "\n"))))
    (hconvert : ∀ fingerprint, Obeys F
      (andFinally (convert host executable m l password fingerprint (l.authorityFile m.role))
        (change (·.unlinkIfPresent (l.authorityFile m.role))))) :
    Obeys F (make host executable m l password : Stage σ Unit) :=
  .bind hchain fun _ => .bind hkeystore fun _ => .bind hpassword fun _ =>
    .bind (verifyKeystore_still _ _).of_still fun _ => .bind (.crypto _) fun _ => hconvert _

theorem prepare_obeys (h : ∀ a ∈ storeArtifacts, Obeys F
    (change (·.unlinkIfPresent ((⟨m.certPath.parent⟩ : ServiceLayout).path m.role a)))) :
    Obeys F (prepare host s m) :=
  .bind (passwordFor_still _).of_still fun _ => .bind (.forM h) fun _ => .pure _

theorem pack_obeys (h : Obeys F (make host s.keytool m ⟨m.certPath.parent⟩ password)) :
    Obeys F (pack host s m password) :=
  .bind (.catchFault h fun _ => .bind (.log _ _ _) fun _ => .fail _) fun _ => .bind (.count _) fun _ =>
    .bind (.log _ _ _) fun _ => .pure _

end Obeying

theorem convert_within (hconf : Confined host.tool) (fingerprint : String) :
    Obeys (.within (ServiceLayout.placesFor l.directory.place m.role Artifact.converted) ∅)
      (convert host executable m l password fingerprint (l.authorityFile m.role) : Stage σ Unit) := by
  refine convert_obeys (.write (l.place_authorityFile_mem m.role _) _)
    (.write (ServiceLayout.place_path_mem.mpr ⟨rfl, rfl, by decide⟩) _) (fun c hc => ?_) fingerprint
  have hconverted : ∀ a ∈ commanded, a ∈ Artifact.converted := by decide
  obtain ⟨a, ha, habout⟩ := exists_of_forall₂ (commands_about l m password) hc
  exact run_within hconf (hconverted a ha) habout

section Obeying

variable {F : Frame σ}

/-- Packing obeys whatever allows writing the chain and changing the other files that it makes. -/
theorem make_obeys (hconf : Confined host.tool) (hchain : Obeys F (write (l.path m.role .chain) m.chainPem))
    (hrest : ∀ {w w' : World σ},
      (Frame.within (ServiceLayout.placesFor l.directory.place m.role Artifact.stores) ∅).rel w w' → F.rel w w') :
    Obeys F (make host executable m l password : Stage σ Unit) := by
  have hmem {a : Artifact} (ha : a ∈ Artifact.stores) : (l.path m.role a).place ∈
      ServiceLayout.placesFor l.directory.place m.role Artifact.stores :=
    ServiceLayout.place_path_mem.mpr ⟨rfl, rfl, ha⟩
  refine make_obeys_parts hchain (.mono (writeKeystore_within (hmem (by decide))) hrest)
    (.mono (.write (hmem (by decide)) _) hrest) fun fingerprint => .andFinally ?_
      (.mono (.unlinkIfPresent (l.place_authorityFile_mem m.role _)) hrest)
  exact (convert_within hconf fingerprint).mono fun h =>
    hrest ⟨h.1.mono (ServiceLayout.placesFor_mono (by decide) _ _) subset_rfl, h.2⟩

theorem bundle_obeys (hconf : Confined host.tool)
    (hchain : Obeys F (write ((⟨m.certPath.parent⟩ : ServiceLayout).path m.role .chain) m.chainPem))
    (hrest : ∀ {w w' : World σ}, (Frame.within
      (ServiceLayout.placesFor m.certPath.parent.place m.role Artifact.stores) ∅).rel w w' → F.rel w w') :
    Obeys F (bundle host s m) := by
  have hstores : ∀ a ∈ storeArtifacts, a ∈ Artifact.stores := by decide
  rw [bundle_eq]
  exact .bind (prepare_obeys fun a ha => .mono (.unlinkIfPresent
    (ServiceLayout.place_path_mem.mpr ⟨rfl, rfl, hstores a ha⟩)) hrest) fun _ =>
    pack_obeys (make_obeys hconf hchain hrest)

end Obeying

theorem bundle_within (hconf : Confined host.tool) :
    Obeys (.within (ServiceLayout.placesFor m.certPath.parent.place m.role Artifact.packed) ∅)
      (bundle host s m : Stage σ Bundle) :=
  bundle_obeys hconf (.write (ServiceLayout.place_path_mem.mpr ⟨rfl, rfl, by decide⟩) _)
    fun h => ⟨h.1.mono (ServiceLayout.placesFor_mono (by decide) _ _) subset_rfl, h.2⟩

/-! ## What the tool answered -/

/-- The files that are written between runs of the tool. -/
def aside (l : ServiceLayout) (r : Role) : Set Location :=
  {(l.authorityFile r).place, (l.path r .jksPassword).place}

theorem place_toolStore_not_mem_aside {r : Role} {a : Artifact} (ha : a ∈ toolStores) :
    (l.path r a).place ∉ aside l r := by
  rintro (h | h)
  · exact l.place_path_ne_authorityFile r r a h
  · exact ServiceLayout.place_path_ne (by rintro rfl; exact absurd ha (by decide)) h

/-- A listing shows the certificate with the fingerprint as trusted, under the alias of the authority, and
nothing else. -/
def Shows (printed fingerprint : String) : Prop :=
  ∃ e, Listing.parse printed = [e] ∧ Text.lower e.alias_ = "caroot" ∧ e.type = "trustedCertEntry" ∧
    e.sha256 = some fingerprint

/-- The trust stores and their types. -/
def truststores : List (Artifact × StoreType) := [(.truststoreP12, .pkcs12), (.truststoreJks, .jks)]

/-- The exchanges made the tool's stores for `m`, as they are in `t`: each trust store was shown to hold the
authority, and is as it was left then. -/
structure Converted (tool : Tool) (l : ServiceLayout) (m : Material) (password fingerprint : String)
    (xs : List Exchange) (t : Tree) : Prop where
  commands : xs.map (·.command) = commands l m password
  listed : ∀ store ∈ truststores, ∃ x ∈ xs,
    x.command = .listEntries (l.path m.role store.1) password store.2.name ∧ Shows x.printed fingerprint ∧
      t.find? (l.path m.role store.1) = x.after.find? (l.path m.role store.1)
  stores : Delivers tool → ∀ a ∈ toolStores, t.isFile (l.path m.role a) = true

theorem Converted.of_within {fingerprint : String} {xs : List Exchange} {files : Set Location} {t t' : Tree}
    (h : Converted host.tool l m password fingerprint xs t) (hw : Within files ∅ t t')
    (hf : ∀ a ∈ toolStores, (l.path m.role a).place ∉ files) :
    Converted host.tool l m password fingerprint xs t' := by
  refine ⟨h.commands, fun store hstore => ?_, fun hdel a ha => hw.isFile (hf a ha) (h.stores hdel a ha)⟩
  have hmem : ∀ store ∈ truststores, store.1 ∈ toolStores := by decide
  obtain ⟨x, hx, hc, hshows, hleft⟩ := h.listed store hstore
  exact ⟨x, hx, hc, hshows, (hw.find?_eq (hf _ (hmem store hstore))).trans hleft⟩

theorem verifyTruststore_talked (files : Set Location) {path : Path} {type : StoreType} {fingerprint : String}
    {w w' : World σ} {u : Unit}
    (h : (verifyTruststore host executable path password type fingerprint).exec w = (.ok u, w')) :
    ∃ x : Exchange, x.command = .listEntries path password type.name ∧ Shows x.printed fingerprint ∧
      x.after = w'.tree ∧ Talked host executable files [x] w w' := by
  simp only [verifyTruststore, listEntries, bind_ok, pure_ok] at h
  obtain ⟨es, w₁, ⟨printed, _, hrun, rfl, rfl⟩, h⟩ := h
  obtain ⟨x, hcommand, rfl, hafter, htalked⟩ := run_talked files hrun
  split at h
  next e he =>
    split at h
    · simp at h
    next htrusted =>
      split at h
      · simp at h
      next hfingerprint =>
        obtain ⟨-, rfl⟩ := pure_ok.mp h
        simp only [Bool.or_eq_true, decide_eq_true_eq, not_or, Bool.not_eq_true', Bool.not_eq_false,
          not_not] at htrusted hfingerprint
        have hlower : Text.lower authorityAlias = "caroot" := by decide +kernel
        exact ⟨x, hcommand, ⟨e, he, htrusted.1.trans hlower, of_decide_eq_true htrusted.2, hfingerprint⟩, hafter,
          htalked⟩
  next => simp at h

/-- Exchanges that have only the commands from some point on are about the stores of these. -/
theorem about_other {n : Nat} (xs : List Exchange)
    (hxs : xs.map (·.command) = (commands l m password).drop n) {a : Artifact} (hother : a ∉ commanded.drop n) :
    ∀ x ∈ xs, ∃ store : Path, x.command.About store ∧ store.place ≠ (l.path m.role a).place := by
  intro x hx
  have hlater := List.forall₂_drop n (commands_about l m password)
  obtain ⟨b, hb, habout⟩ := exists_of_forall₂ hlater (hxs ▸ List.mem_map_of_mem hx)
  refine ⟨_, habout, ServiceLayout.place_path_ne ?_⟩
  rintro rfl
  exact hother hb

/-- What passes between the pipeline and the tool, before and after the password is written. -/
theorem convert_talked {fingerprint : String} {w w' : World σ} {u : Unit}
    (h : (convert host executable m l password fingerprint (l.authorityFile m.role)).exec w = (.ok u, w')) :
    ∃ x₁ x₂ x₃ x₄ x₅ x₆ x₇ : Exchange, ∃ v : World σ,
      [x₁, x₂, x₃, x₄, x₅, x₆, x₇].map (·.command) = commands l m password ∧
      Talked host executable (aside l m.role) [x₁, x₂, x₃] w v ∧
      v.tree.read (l.path m.role .jksPassword) = .ok (Text.encode (password ++ "\n")) ∧
      Talked host executable ∅ [x₄, x₅, x₆, x₇] v w' ∧
      Shows x₂.printed fingerprint ∧ Shows x₇.printed fingerprint ∧ x₇.after = w'.tree := by
  simp only [convert, bind_ok, pure_ok] at h
  obtain ⟨_, w₁, hauthorityFile, _, w₂, ⟨_, _, hrun₁, -, rfl⟩, _, w₃, hverify, _, w₄, hrun₃, _, w₅,
    hpassword, _, w₆, ⟨_, _, hrun₄, -, rfl⟩, _, w₇, ⟨_, _, hrun₅, -, rfl⟩, _, w₈,
    ⟨_, _, hrun₆, -, rfl⟩, hlast⟩ := h
  obtain ⟨x₁, hc₁, -, -, h₁⟩ := run_talked (aside l m.role) hrun₁
  obtain ⟨x₂, hc₂, hshows₂, -, h₂⟩ := verifyTruststore_talked (aside l m.role) hverify
  obtain ⟨x₃, hc₃, -, -, h₃⟩ := run_talked (aside l m.role) hrun₃
  obtain ⟨x₄, hc₄, -, -, h₄⟩ := run_talked ∅ hrun₄
  obtain ⟨x₅, hc₅, -, -, h₅⟩ := run_talked ∅ hrun₅
  obtain ⟨x₆, hc₆, -, -, h₆⟩ := run_talked ∅ hrun₆
  obtain ⟨x₇, hc₇, hshows₇, hafter₇, h₇⟩ := verifyTruststore_talked ∅ hlast
  have hbefore : Talked host executable (aside l m.role) [x₁, x₂, x₃] w w₄ :=
    (((write_talked (by simp [aside]) hauthorityFile).trans h₁).trans h₂).trans h₃
  refine ⟨x₁, x₂, x₃, x₄, x₅, x₆, x₇, w₅, ?_, hbefore.trans (write_talked (by simp [aside]) hpassword), ?_,
    ((h₄.trans h₅).trans h₆).trans h₇, hshows₂, hshows₇, hafter₇⟩
  · simp only [List.map_cons, List.map_nil, hc₁, hc₂, hc₃, hc₄, hc₅, hc₆, hc₇]
    rfl
  · obtain ⟨t, hwrite, rfl⟩ := write_ok.mp hpassword
    exact read_write hwrite

theorem convert_ok (hconf : Confined host.tool) {fingerprint : String} {w w' : World σ} {u : Unit}
    (h : (convert host executable m l password fingerprint (l.authorityFile m.role)).exec w = (.ok u, w')) :
    ∃ xs, Talked host executable (aside l m.role) xs w w' ∧
      Converted host.tool l m password fingerprint xs w'.tree ∧
      w'.tree.read (l.path m.role .jksPassword) = .ok (Text.encode (password ++ "\n")) := by
  obtain ⟨x₁, x₂, x₃, x₄, x₅, x₆, x₇, v, hcommands, hbefore, hread, hlater, hshows₂, hshows₇, hafter₇⟩ :=
    convert_talked h
  have htalked : Talked host executable (aside l m.role) [x₁, x₂, x₃, x₄, x₅, x₆, x₇] w w' :=
    hbefore.trans (hlater.mono (Set.empty_subset _))
  -- no command about a store comes after the last one that counts for it
  have htrust := about_other (a := .truststoreP12) [x₃, x₄, x₅, x₆, x₇] (congrArg (List.drop 2) hcommands)
    (by decide)
  have hpassword := about_other (a := .jksPassword) [x₄, x₅, x₆, x₇] (congrArg (List.drop 3) hcommands) (by decide)
  have hkey := about_other (a := .keystoreJks) [x₆, x₇] (congrArg (List.drop 5) hcommands) (by decide)
  have hthere : ∀ a ∈ toolStores, (l.path m.role a).place ∉ aside l m.role := fun a => place_toolStore_not_mem_aside
  have hnames := hcommands
  simp only [commands, List.map_cons, List.map_nil, List.cons.injEq] at hnames
  obtain ⟨-, hc₂, -, -, hc₅, -, hc₇, -⟩ := hnames
  refine ⟨_, htalked, ⟨hcommands, ?_, fun hdel a ha => ?_⟩, ?_⟩
  · simp only [truststores, List.mem_cons, List.not_mem_nil, or_false, forall_eq_or_imp, forall_eq]
    refine ⟨⟨x₂, by simp, hc₂, hshows₂, ?_⟩, x₇, by simp, hc₇, hshows₇, by rw [hafter₇]⟩
    exact (htalked.transcript.after [x₁]).2.find?_eq hconf (hthere _ (by decide)) htrust
  · have hout := hthere a ha
    simp only [toolStores, List.mem_cons, List.not_mem_nil, or_false] at ha
    rcases ha with rfl | rfl | rfl
    · exact htalked.transcript.isFile hconf hdel [x₁] (hc₂ ▸ .listEntries _ _) hout htrust
    · exact htalked.transcript.isFile hconf hdel [x₁, x₂, x₃, x₄] (hc₅ ▸ .importCert _ _ _ _) hout hkey
    · exact htalked.transcript.isFile hconf hdel [x₁, x₂, x₃, x₄, x₅, x₆] (hc₇ ▸ .listEntries _ _) hout (by simp)
  · obtain ⟨mode, hfile⟩ := read_iff_find?.mp hread
    refine read_iff_find?.mpr ⟨mode, ?_⟩
    rw [hlater.transcript.find?_eq hconf (Set.notMem_empty _) hpassword]
    exact hfile

/-! ## What a run that returned leaves -/

/-- A store holds the key and the certificate of `m`, under the name of its service. -/
def HoldsMaterial (suite : Suite) (m : Material) (content : StoreContent) : Prop :=
  ∃ key leaf, suite.readKey m.keyPem = .ok key ∧ suite.readCertificate m.certPem = .ok leaf ∧
    content.key = some key ∧ content.leaf = some (leaf, some m.service)

/-- What is written of `m` in `l` besides the tool: the chain, the passwords, and the key store, which opens
with the password. The authority's certificate, written for the tool, is gone. -/
structure Packed (suite : Suite) (l : ServiceLayout) (m : Material) (t : Tree) (password : String) :
    Prop where
  chain : t.read (l.path m.role .chain) = .ok m.chainPem
  keystore : ∃ bytes content, t.read (l.path m.role .keystoreP12) = .ok bytes ∧
    suite.readStore bytes password = some content ∧ (suite.KeepsStores → HoldsMaterial suite m content)
  passwords : ∀ a ∈ [Artifact.password, .jksPassword],
    t.read (l.path m.role a) = .ok (Text.encode (password ++ "\n"))
  cleared : ¬ t.HoldsFile (l.authorityFile m.role).place

theorem Packed.mono {suite : Suite} {t t' : Tree} {files dirs : Set Location} (h : Packed suite l m t password)
    (hw : Within files dirs t t')
    (hf : ∀ place ∈ ServiceLayout.placesFor l.directory.place m.role Artifact.packed, place ∉ files) :
    Packed suite l m t' password := by
  have hout {a : Artifact} (ha : a ∈ Artifact.packed) : (l.path m.role a).place ∉ files :=
    hf _ (ServiceLayout.place_path_mem.mpr ⟨rfl, rfl, ha⟩)
  have hpasswords : ∀ a ∈ [Artifact.password, .jksPassword], a ∈ Artifact.packed := by decide
  obtain ⟨bytes, content, hread, hopens⟩ := h.keystore
  exact ⟨hw.read (hout (by decide)) h.chain, ⟨bytes, content, hw.read (hout (by decide)) hread, hopens⟩,
    fun a ha => hw.read (hout (hpasswords a ha)) (h.passwords a ha),
    (hw.holdsFile (hf _ (l.place_authorityFile_mem m.role _))).not.mpr h.cleared⟩

theorem writeKeystore_ok {path : Path} {w w' : World σ} {u : Unit}
    (h : (writeKeystore host m password path).exec w = (.ok u, w')) :
    ∃ key leaf authority seed t, host.suite.readKey m.keyPem = .ok key ∧
      host.suite.readCertificate m.certPem = .ok leaf ∧ host.suite.readCertificate m.authorityPem = .ok authority ∧
      w.tree.write path (host.suite.writeStore m.service key leaf [authority] password seed) = .ok t ∧
      w'.tree = t ∧ w'.toolRuns = w.toolRuns := by
  simp only [writeKeystore, bind_ok, crypto_ok, newSeed_ok, write_ok] at h
  obtain ⟨key, _, ⟨hkey, rfl⟩, leaf, _, ⟨hleaf, rfl⟩, authority, _, ⟨hauthority, rfl⟩, seed, _, ⟨-, rfl⟩, t,
    hwrite, rfl⟩ := h
  exact ⟨key, leaf, authority, seed, t, hkey, hleaf, hauthority, hwrite, rfl, rfl⟩

theorem verifyKeystore_ok {path : Path} {alias_ : String} {w w' : World σ} {u : Unit}
    (h : (verifyKeystore host path alias_ password).exec w = (.ok u, w')) :
    w' = w ∧ ∃ bytes content key leaf, w.tree.read path = .ok bytes ∧
      host.suite.readStore bytes password = some content ∧ content.key = some key ∧
      content.leaf = some (leaf, some alias_) := by
  simp only [verifyKeystore, bind_ok, read_ok] at h
  obtain ⟨bytes, _, ⟨hbytes, rfl⟩, h⟩ := h
  split at h
  · simp at h
  next content hc =>
    split at h
    · simp at h
    next hfound =>
      obtain ⟨-, rfl⟩ := pure_ok.mp h
      simp only [ne_eq, Bool.or_eq_true, decide_eq_true_eq, not_or, not_not, Bool.not_eq_true,
        Option.isNone_eq_false_iff] at hfound
      obtain ⟨key, hkey⟩ := Option.isSome_iff_exists.mp hfound.1
      obtain ⟨⟨leaf, name⟩, hleaf, hname⟩ := Option.bind_eq_some_iff.mp hfound.2
      exact ⟨rfl, bytes, content, key, leaf, hbytes, hc, hkey, by rw [hleaf, ← hname]⟩

theorem passwordFor_ok {r : Role} {w w' : World σ} (h : (passwordFor host s r).exec w = (.ok password, w')) :
    password = (s.password? r).getD (host.token w.tokens) ∧ w'.tree = w.tree ∧ w'.toolRuns = w.toolRuns := by
  unfold passwordFor at h
  split at h
  next hp =>
    obtain ⟨rfl, rfl⟩ := pure_ok.mp h
    simp [hp]
  next hp =>
    obtain ⟨rfl, rfl⟩ := newToken_ok.mp h
    simp [hp]

/-- The parts of what is packed that are written before the tool is asked. -/
theorem written_ok (executable : String) {w w₁ w₂ w₃ w₄ : World σ} {u : Unit}
    (hchain : (write (l.path m.role .chain) m.chainPem).exec w = (.ok u, w₁))
    (hstore : (writeKeystore host m password (l.path m.role .keystoreP12)).exec w₁ = (.ok u, w₂))
    (hpassword : (write (l.path m.role .password) (Text.encode (password ++ "\n"))).exec w₂ = (.ok u, w₃))
    (hverify : (verifyKeystore host (l.path m.role .keystoreP12) m.service password).exec w₃ = (.ok u, w₄)) :
    w₄ = w₃ ∧ Talked host executable (ServiceLayout.placesFor l.directory.place m.role Artifact.packed) [] w w₃ ∧
      w₃.tree.read (l.path m.role .chain) = .ok m.chainPem ∧
      w₃.tree.read (l.path m.role .password) = .ok (Text.encode (password ++ "\n")) ∧
      ∃ bytes content, w₃.tree.read (l.path m.role .keystoreP12) = .ok bytes ∧
        host.suite.readStore bytes password = some content ∧
        (host.suite.KeepsStores → HoldsMaterial host.suite m content) := by
  have hmem {a : Artifact} (ha : a ∈ Artifact.packed) : (l.path m.role a).place ∈
      ServiceLayout.placesFor l.directory.place m.role Artifact.packed :=
    ServiceLayout.place_path_mem.mpr ⟨rfl, rfl, ha⟩
  have hne {a b : Artifact} (hab : a ≠ b) : (l.path m.role a).place ∉ ({(l.path m.role b).place} : Set Location) :=
    Set.mem_singleton_iff.not.mpr (ServiceLayout.place_path_ne hab)
  obtain ⟨hw₄, bytes, content, key, leaf, hbytes, hopens, hkey, hleaf⟩ := verifyKeystore_ok hverify
  obtain ⟨key', leaf', authority, seed, t₂, hkey', hleaf', hauthority, hwriteStore, rfl, hruns⟩ :=
    writeKeystore_ok hstore
  have hstored : Talked host executable (ServiceLayout.placesFor l.directory.place m.role Artifact.packed) [] w₁ w₂ :=
    .quiet ((write_within hwriteStore).mono (Set.singleton_subset_iff.mpr (hmem (by decide))) subset_rfl) hruns
  have htalked : Talked host executable (ServiceLayout.placesFor l.directory.place m.role Artifact.packed) [] w w₃ :=
    ((write_talked (hmem (by decide)) hchain).trans hstored).trans (write_talked (hmem (by decide)) hpassword)
  obtain ⟨t₁, hwriteChain, rfl⟩ := write_ok.mp hchain
  obtain ⟨t₃, hwritePassword, rfl⟩ := write_ok.mp hpassword
  have hpasswordWithin := write_within hwritePassword
  refine ⟨hw₄, htalked, hpasswordWithin.read (hne (by decide)) ((write_within hwriteStore).read (hne (by decide))
    (read_write hwriteChain)), read_write hwritePassword, bytes, content, hbytes, hopens, fun hkeeps => ?_⟩
  -- what was read back is what was written
  obtain rfl := Except.ok.inj (hbytes.symm.trans (hpasswordWithin.read (hne (by decide)) (read_write hwriteStore)))
  obtain ⟨hk, hc⟩ := hkeeps hkey' hleaf' hauthority hopens
  obtain rfl := hk key hkey
  obtain rfl := hc leaf hleaf
  exact ⟨key, _, hkey', hleaf', hkey, hleaf⟩

section Packing

variable (hconf : Confined host.tool)
include hconf

theorem make_ok {w w' : World σ} {u : Unit} (h : (make host executable m l password).exec w = (.ok u, w')) :
    ∃ authority xs, host.suite.readCertificate m.authorityPem = .ok authority ∧
      Talked host executable (ServiceLayout.placesFor l.directory.place m.role Artifact.packed) xs w w' ∧
      Converted host.tool l m password (host.suite.thumbprint authority) xs w'.tree ∧
      Packed host.suite l m w'.tree password := by
  simp only [make, bind_ok, crypto_ok] at h
  obtain ⟨_, w₁, hchain, _, w₂, hstore, _, w₃, hpassword, _, w₄, hverify, authority, v, ⟨hauthority, rfl⟩, h⟩ := h
  obtain ⟨w₅, hconvert, hlast⟩ := andFinally_ok h
  obtain ⟨t₆, hunlink, rfl⟩ := change_ok.mp hlast
  obtain ⟨rfl, hwritten, hchainRead, hpasswordRead, bytes, content, hbytes, hopens, hholds⟩ :=
    written_ok executable hchain hstore hpassword hverify
  obtain ⟨xs, htalked, hconverted, hjks⟩ := convert_ok hconf hconvert
  have hmade := ((convert_within hconf _).ran hconvert).1
  have hgone := unlinkIfPresent_within hunlink
  have hside (a : Artifact) : (l.path m.role a).place ∉ ({(l.authorityFile m.role).place} : Set Location) :=
    Set.mem_singleton_iff.not.mpr (l.place_path_ne_authorityFile m.role m.role a)
  have haside : aside l m.role ⊆ ServiceLayout.placesFor l.directory.place m.role Artifact.packed := by
    rintro _ (rfl | rfl)
    · exact l.place_authorityFile_mem m.role _
    · exact ServiceLayout.place_path_mem.mpr ⟨rfl, rfl, by decide⟩
  have hunlinked : Talked host executable (ServiceLayout.placesFor l.directory.place m.role Artifact.packed) [] w₅
      { w₅ with tree := t₆ } :=
    .quiet (hgone.mono (Set.singleton_subset_iff.mpr (l.place_authorityFile_mem m.role _)) subset_rfl) rfl
  -- the tool is asked for none of the files that were written before
  have hkeep {a : Artifact} {content : Bytes} (ha : a ∉ Artifact.converted)
      (hr : v.tree.read (l.path m.role a) = .ok content) : t₆.read (l.path m.role a) = .ok content :=
    hgone.read (hside a) (hmade.read (fun hm => ha (ServiceLayout.place_path_mem.mp hm).2.2) hr)
  refine ⟨authority, xs, hauthority, by simpa using (hwritten.trans (htalked.mono haside)).trans hunlinked,
    hconverted.of_within hgone fun a _ => hside a, ?_⟩
  refine ⟨hkeep (by decide) hchainRead, ⟨bytes, content, hkeep (by decide) hbytes, hopens, hholds⟩, ?_, ?_⟩
  · simp only [List.mem_cons, List.not_mem_nil, or_false, forall_eq_or_imp, forall_eq]
    exact ⟨hkeep (by decide) hpasswordRead, hgone.read (hside _) hjks⟩
  · intro hheld
    have hd := isDirectory_of_isFile_child (isPart_fileName m.role .chain)
      (isFile_iff_read.mpr ⟨_, hkeep (by decide) hchainRead⟩)
    have hfile : t₆.isFile (l.authorityFile m.role) = true :=
      (isFile_child hd (isPart_of_isName (isName_authorityFileName m.role))).mpr hheld
    exact Bool.false_ne_true ((isFile_unlinkIfPresent hunlink).symm.trans hfile)

/-- What a bundle that was returned stands for. -/
theorem bundle_ok {w w' : World σ} {b : Bundle} (h : (bundle host s m).exec w = (.ok b, w')) :
    b = ⟨m.service, m.role, (s.password? m.role).getD (host.token w.tokens), ⟨m.certPath.parent⟩⟩ ∧
      ∃ authority xs, host.suite.readCertificate m.authorityPem = .ok authority ∧
        Talked host s.keytool (ServiceLayout.placesFor m.certPath.parent.place m.role Artifact.packed) xs w w' ∧
        Converted host.tool b.layout m b.password (host.suite.thumbprint authority) xs w'.tree ∧
        Packed host.suite b.layout m w'.tree b.password := by
  simp only [bundle, bind_ok, count_ok, log_ok, pure_ok] at h
  obtain ⟨password, w₁, hpassword, _, w₂, hforM, _, w₃, hmake, _, _, rfl, _, _, rfl, rfl, rfl⟩ := h
  rw [catchFault_ok fun f w w' a hf => by simp at hf] at hmake
  obtain ⟨rfl, ht₁, hr₁⟩ := passwordFor_ok hpassword
  obtain ⟨authority, xs, hauthority, htalked, hconverted, hpacked⟩ := make_ok (l := ⟨m.certPath.parent⟩) hconf hmake
  refine ⟨rfl, authority, xs, hauthority, ?_, hconverted, hpacked⟩
  have hmem : ∀ a ∈ storeArtifacts, a ∈ Artifact.packed := by decide
  have hunlinked : Talked host s.keytool
      (ServiceLayout.placesFor m.certPath.parent.place m.role Artifact.packed) [] w₁ w₂ :=
    forM_talked (fun a ha _ _ _ => change_talked fun t t' hu => (unlinkIfPresent_within hu).mono
      (Set.singleton_subset_iff.mpr (ServiceLayout.place_path_mem.mpr ⟨rfl, rfl, hmem a ha⟩)) subset_rfl) hforM
  exact ((Talked.quiet (.of_eq ht₁) hr₁).trans hunlinked).trans ⟨htalked.transcript, htalked.runs⟩

end Packing

end Bundle

end ServiceTrust
