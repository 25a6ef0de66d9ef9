/-
What packing a role does to the directory, however it ends. It spares whatever is not one of its own files,
the file with the authority's certificate is there only while the tool is asked, and the old stores are removed
first: a store that is there afterwards came about in this packing, by its own writing or by a run of the tool
about that store. Of the tool nothing is assumed but that it keeps to the store of its command.
-/
import ServiceTrust.Proofs.Pipeline.BundleFailure

namespace ServiceTrust

open Stage ServiceTrust.Tree Keystore

/-- What was not at `p` is not there afterwards. -/
def Frame.absent {σ : Type} (p : Path) : Frame σ :=
  .ofTree (fun t t' => t.find? p = none → t'.find? p = none) (fun _ => id) fun h h' hnone => h' (h hnone)

namespace Stage

variable {σ α : Type} {files : Set Location} {p : Path}

theorem Obeys.absent {act : Stage σ α} (h : Obeys (.within files ∅) act) (hp : p.place ∉ files) :
    Obeys (.absent p) act := h.mono fun hw => ⟨fun hnone => (hw.1.find?_eq hp).trans hnone, hw.2⟩

/-- What is removed at last does not stay, even where removing it fails. -/
theorem andFinally_absent {act : Stage σ α} (h : Obeys (.within files ∅) act) :
    Obeys (.absent p) (andFinally act (change (·.unlinkIfPresent p))) := by
  intro w
  obtain ⟨hw, hs⟩ := h w
  refine ⟨fun hnone => ?_, ?_⟩
  · have hd : (act.exec w).2.tree.isDirectory p = false := by
      rw [hw.isDirectory_eq]
      exact (find?_eq_none_iff.mp hnone).2
    rw [world_andFinally, exec_change]
    split
    next t ht => exact find?_unlinkIfPresent hd ht
    next fault hfault => exact find?_of_locate_error (locate_of_unlinkIfPresent_error hd hfault)
  · rw [world_andFinally, exec_change]
    split <;> exact hs

end Stage

namespace Bundle

variable {σ : Type} {host : Host} {s : Settings} {m : Material} {l : ServiceLayout} {r : Role}
  {executable password : String}

/-! ## What is spared -/

/-- What the packing of the role `r` in `l` leaves as it was in `t`. -/
structure Spared (l : ServiceLayout) (r : Role) (t t' : Tree) : Prop where
  /-- Nothing differs but the packed files of the role and the one with the authority's certificate. -/
  others : ∀ p : Path, p.place ∉ ServiceLayout.placesFor l.directory.place r Artifact.packed → t'.find? p = t.find? p
  directories : ∀ p, t'.isDirectory p = t.isDirectory p
  issued : ∀ a ∈ Artifact.issued, t'.find? (l.path r a) = t.find? (l.path r a)
  roles : ∀ r' ≠ r, (∀ a, t'.find? (l.path r' a) = t.find? (l.path r' a)) ∧
    t'.find? (l.authorityFile r') = t.find? (l.authorityFile r')
  /-- The file with the authority's certificate is left only where there was something before. -/
  authorityFile : t.find? (l.authorityFile r) = none → t'.find? (l.authorityFile r) = none

theorem spared_of_within {t t' : Tree}
    (h : Within (ServiceLayout.placesFor l.directory.place r Artifact.packed) ∅ t t')
    (hauthority : t.find? (l.authorityFile r) = none → t'.find? (l.authorityFile r) = none) : Spared l r t t' where
  others _ hp := h.find?_eq hp
  directories := h.isDirectory_eq
  issued a ha := by
    have hissued : ∀ a ∈ Artifact.issued, a ∉ Artifact.packed := by decide
    exact h.find?_eq fun hm => hissued a ha (ServiceLayout.place_path_mem.mp hm).2.2
  roles r' hr :=
    ⟨fun _ => h.find?_eq fun hm => hr (ServiceLayout.place_path_mem.mp hm).2.1,
      h.find?_eq (ServiceLayout.placesFor_disjoint hr (l.place_authorityFile_mem r' []))⟩
  authorityFile := hauthority

theorem authorityFile_not_mem (l : ServiceLayout) (r : Role) (a : Artifact) :
    (l.authorityFile r).place ∉ ({(l.path r a).place} : Set Location) :=
  fun h => l.place_path_ne_authorityFile r r a (Set.mem_singleton_iff.mp h).symm

theorem make_absent (hconf : Confined host.tool) :
    Obeys (.absent (l.authorityFile m.role)) (make host executable m l password : Stage σ Unit) := by
  have hwrite (a : Artifact) (bytes : Bytes) :
      Obeys (.absent (l.authorityFile m.role)) (write (l.path m.role a) bytes : Stage σ Unit) :=
    Obeys.absent (.write (Set.mem_singleton _) bytes) (authorityFile_not_mem l m.role a)
  exact make_obeys_parts (hwrite _ _)
    (Obeys.absent (writeKeystore_within (Set.mem_singleton _)) (authorityFile_not_mem l m.role _)) (hwrite _ _)
    fun fingerprint => andFinally_absent (convert_within hconf fingerprint)

theorem bundle_absent (hconf : Confined host.tool) :
    Obeys (.absent ((⟨m.certPath.parent⟩ : ServiceLayout).authorityFile m.role))
      (bundle host s m : Stage σ Bundle) := by
  rw [bundle_eq]
  exact .bind (prepare_obeys fun a _ => Obeys.absent (.unlinkIfPresent (Set.mem_singleton _))
    (authorityFile_not_mem _ m.role a)) fun password => pack_obeys (make_absent hconf)

/-! ## The old stores -/

theorem find?_of_unlink_error {fault : FileFault} {t : Tree} {a : Artifact} (b : Artifact)
    (hd : t.isDirectory (l.path r a) = false) (h : t.unlinkIfPresent (l.path r a) = .error fault) :
    t.find? (l.path r b) = none := by
  have hl := locate_of_unlinkIfPresent_error hd h
  refine find?_child (Bool.eq_false_iff.mpr fun hdirectory => ?_) (isPart_fileName r b)
  rw [ServiceLayout.path, locate_child hdirectory (isPart_fileName r a)] at hl
  cases hl

/-- However the removal of files of a role ends, none of them is left, unless there is a directory in place of
one. -/
theorem removal_empties (l : ServiceLayout) (r : Role) {as : List Artifact} (hnodup : as.Nodup) (w : World σ)
    (hfree : ∀ a ∈ as, w.tree.isDirectory (l.path r a) = false) :
    ∀ a ∈ as, ((as.forM fun a => change (·.unlinkIfPresent (l.path r a))).exec w).2.tree.find? (l.path r a) =
      none := by
  induction as generalizing w with
  | nil => nofun
  | cons a as ih =>
    obtain ⟨ha, hnodup⟩ := List.nodup_cons.mp hnodup
    obtain ⟨hd, hfree⟩ := List.forall_mem_cons.mp hfree
    refine bind_outcome (P := fun w' => ∀ b ∈ a :: as, w'.tree.find? (l.path r b) = none)
      (fun e w₁ herror => ?_) fun u w₁ hok => ?_
    · obtain ⟨fault, hfault, -, rfl⟩ := change_error.mp herror
      exact fun b _ => find?_of_unlink_error b hd hfault
    · obtain ⟨t, ht, rfl⟩ := change_ok.mp hok
      have hrest := ih hnodup { w with tree := t } fun b hb => by
        rw [(unlinkIfPresent_within ht).isDirectory_eq]
        exact hfree b hb
      refine List.forall_mem_cons.mpr ⟨?_, hrest⟩
      -- the other removals leave this place alone
      have hwithin : Obeys (.within {p | ∃ b ∈ as, p = (l.path r b).place} ∅)
          (as.forM fun b => change (·.unlinkIfPresent (l.path r b)) : Stage σ PUnit) :=
        .forM fun b hb => .unlinkIfPresent ⟨b, hb, rfl⟩
      refine ((hwithin _).1.find?_eq ?_).trans (find?_unlinkIfPresent hd ht)
      rintro ⟨b, hb, hplace⟩
      by_cases hab : a = b
      · exact ha (hab ▸ hb)
      · exact ServiceLayout.place_path_ne hab hplace

theorem prepare_empties (host : Host) (s : Settings) (m : Material) (w : World σ)
    (hfree : ∀ a ∈ storeArtifacts, w.tree.isDirectory ((⟨m.certPath.parent⟩ : ServiceLayout).path m.role a) = false) :
    ∀ a ∈ storeArtifacts,
      ((prepare host s m).exec w).2.tree.find? ((⟨m.certPath.parent⟩ : ServiceLayout).path m.role a) = none := by
  obtain ⟨v, hpassword, ht⟩ := exec_passwordFor host s m.role w
  unfold prepare
  rw [exec_bind, hpassword]
  dsimp only
  rw [world_bind_pure]
  exact removal_empties _ _ (by decide) v fun a ha => by rw [ht]; exact hfree a ha

/-! ## The new stores -/

/-- Between `w` and `w'` the packing of `m` made what is at `p` the node `n`: it wrote the key store there, or
the tool changed what was there in a run about it. -/
inductive Made (host : Host) (executable : String) (l : ServiceLayout) (m : Material) (password : String)
    (w w' : World σ) (p : Path) (n : Node) : Prop
  | written {key : Crypto.PrivateKey} {leaf authority : X509.Certificate} {seed : Bytes} {before after : Tree}
    (hp : p = l.path m.role .keystoreP12) (hkey : host.suite.readKey m.keyPem = .ok key)
    (hleaf : host.suite.readCertificate m.certPem = .ok leaf)
    (hauthority : host.suite.readCertificate m.authorityPem = .ok authority)
    (hwrite : before.write p (host.suite.writeStore m.service key leaf [authority] password seed) = .ok after)
    (hbefore : before.find? p ≠ some n) (hafter : after.find? p = some n)
  | ran {c : Command} {i : ℕ} {before : Tree} (hc : c ∈ commands l m password) (habout : c.About p)
    (hlater : w.toolRuns.length ≤ i) (hrun : w'.toolRuns[i]? = some (c.argv executable))
    (hbefore : before.find? p ≠ some n)
    (hafter : (host.tool (i + 1) (c.argv executable) before).2.find? p = some n)

theorem Made.mono {v v' w w' : World σ} {p : Path} {n : Node} (h : Made host executable l m password w w' p n)
    (hv : v.toolRuns <+: w.toolRuns) (hv' : w'.toolRuns <+: v'.toolRuns) :
    Made host executable l m password v v' p n := by
  cases h with
  | written hp hkey hleaf hauthority hwrite hbefore hafter =>
    exact .written hp hkey hleaf hauthority hwrite hbefore hafter
  | ran hc habout hlater hrun hbefore hafter =>
    obtain ⟨more, hmore⟩ := hv'
    refine .ran hc habout (hv.length_le.trans hlater) ?_ hbefore hafter
    rw [← hmore, List.getElem?_append_left (List.getElem?_eq_some_iff.mp hrun).1, hrun]

/-- What is at `p` afterwards was there before, or the packing of `m` made it. -/
def making (host : Host) (executable : String) (l : ServiceLayout) (m : Material) (password : String) (p : Path) :
    Frame σ where
  rel w w' := w.toolRuns <+: w'.toolRuns ∧ ∀ n, w'.tree.find? p = some n →
    w.tree.find? p = some n ∨ Made host executable l m password w w' p n
  quiet ht _ hr := ⟨hr ▸ List.prefix_rfl, fun _ hnode => .inl (ht ▸ hnode)⟩
  trans h h' := ⟨h.1.trans h'.1, fun n hnode => (h'.2 n hnode).elim
    (fun hbefore => (h.2 n hbefore).imp id fun hmade => hmade.mono List.prefix_rfl h'.1)
    fun hmade => .inr (hmade.mono h.1 List.prefix_rfl)⟩

section Making

variable {a : Artifact}

theorem change_making {p : Path} {f : Tree → Except FileFault Tree}
    (hf : ∀ t t', f t = .ok t' → t'.find? p = t.find? p) :
    Obeys (making host executable l m password p) (change f : Stage σ Unit) := fun w => by
  rw [exec_change]
  cases ht : f w.tree with
  | error fault => exact (making ..).quiet rfl rfl rfl
  | ok t => exact ⟨List.prefix_rfl, fun n hnode => .inl (hf _ _ ht ▸ hnode)⟩

theorem write_making {p q : Path} (hpq : p.place ≠ q.place) (bytes : Bytes) :
    Obeys (making host executable l m password p) (write q bytes : Stage σ Unit) :=
  change_making fun _ _ hw => (write_within hw).find?_eq (Set.mem_singleton_iff.not.mpr hpq)

theorem writeKeystore_making :
    Obeys (making host executable l m password (l.path m.role a))
      (writeKeystore host m password (l.path m.role .keystoreP12) : Stage σ Unit) := by
  refine .bind_of_ok (.crypto _) fun _ key _ hkey => .bind_of_ok (.crypto _) fun _ leaf _ hleaf =>
    .bind_of_ok (.crypto _) fun _ authority _ hauthority => .bind (.newSeed host) fun seed => ?_
  rcases eq_or_ne a .keystoreP12 with rfl | ha
  · intro w
    rw [Stage.write, exec_change]
    split
    next t ht =>
      refine ⟨List.prefix_rfl, fun n hnode => or_iff_not_imp_left.mpr fun hbefore => ?_⟩
      exact .written rfl (crypto_ok.mp hkey).1 (crypto_ok.mp hleaf).1 (crypto_ok.mp hauthority).1 ht hbefore hnode
    next => exact (making ..).quiet rfl rfl rfl
  · exact write_making (ServiceLayout.place_path_ne ha) _

theorem run_making (hconf : Confined host.tool) {c : Command} (hc : c ∈ commands l m password) :
    Obeys (making host executable l m password (l.path m.role a)) (run host executable c : Stage σ String) := by
  intro w
  rw [exec_run]
  refine (making ..).trans ?_ (Obeys.of_still (settle_still _) _)
  refine ⟨List.prefix_append .., fun n hnode => or_iff_not_imp_left.mpr fun hbefore => ?_⟩
  obtain ⟨b, -, habout⟩ := exists_of_forall₂ (commands_about l m password) hc
  rcases eq_or_ne a b with rfl | hab
  · exact .ran hc habout le_rfl List.getElem?_concat_length hbefore hnode
  · -- a run about another store leaves this one as it is
    have hwithin := hconf (w.toolRuns.length + 1) executable w.tree habout
    rw [hwithin.find?_eq (Set.mem_singleton_iff.not.mpr (ServiceLayout.place_path_ne hab))] at hnode
    exact absurd hnode hbefore

theorem make_making (hconf : Confined host.tool) (ha : a ∈ storeArtifacts) :
    Obeys (making host executable l m password (l.path m.role a))
      (make host executable m l password : Stage σ Unit) := by
  have hwrite {b : Artifact} (hb : b ∉ storeArtifacts) (bytes : Bytes) :
      Obeys (making host executable l m password (l.path m.role a)) (write (l.path m.role b) bytes : Stage σ Unit) :=
    write_making (ServiceLayout.place_path_ne (by rintro rfl; exact hb ha)) bytes
  have hauthority := l.place_path_ne_authorityFile m.role m.role a
  refine make_obeys_parts (hwrite (by decide) _) writeKeystore_making (hwrite (by decide) _) fun fingerprint =>
    .andFinally (convert_obeys (write_making hauthority _) (hwrite (by decide) _)
      (fun c hc => run_making hconf hc) fingerprint) (change_making fun _ _ hu => ?_)
  exact (unlinkIfPresent_within hu).find?_eq (Set.mem_singleton_iff.not.mpr hauthority)

end Making

/-! ## A whole packing -/

theorem prepare_ok {w v : World σ} (h : (prepare host s m).exec w = (.ok password, v)) :
    password = passwordOf host s m w := by
  simp only [prepare, bind_ok, pure_ok] at h
  obtain ⟨password', w₁, hpassword, _, _, -, rfl, -⟩ := h
  exact (passwordFor_ok hpassword).1

/-- However packing ends it has spared all but its own files, and taken away the file with the authority's
certificate. Where no directory stood in place of a store, the old stores were gone before anything was made,
and each store that is there at the end was made in this packing. -/
theorem packing_spares_the_rest (hconf : Confined host.tool) (w : World σ) :
    let l : ServiceLayout := ⟨m.certPath.parent⟩
    let v := ((prepare host s m).exec w).2
    let w' := ((bundle host s m).exec w).2
    Spared l m.role w.tree w'.tree ∧
    (bundle host s m : Stage σ Bundle) = prepare host s m >>= pack host s m ∧
    ((∀ a ∈ storeArtifacts, w.tree.find? (l.path m.role a) = none ∨ w.tree.isFile (l.path m.role a) = true) →
      ∀ a ∈ storeArtifacts, v.tree.find? (l.path m.role a) = none ∧
        ∀ n, w'.tree.find? (l.path m.role a) = some n →
          Made host s.keytool l m (passwordOf host s m w) v w' (l.path m.role a) n) := by
  intro l v w'
  refine ⟨spared_of_within (bundle_within hconf w).1 (bundle_absent hconf w).1, bundle_eq host s m,
    fun hfree a ha => ?_⟩
  have hempty : v.tree.find? (l.path m.role a) = none := by
    refine prepare_empties host s m w (fun b hb => ?_) a ha
    obtain hnone | hfile := hfree b hb
    · exact (find?_eq_none_iff.mp hnone).2
    · exact isDirectory_of_isFile hfile
  refine ⟨hempty, fun n hnode => ?_⟩
  simp only [w', bundle_eq, exec_bind] at hnode ⊢
  rcases hprepare : (prepare host s m).exec w with ⟨e | password, v'⟩
  · -- where an old store could not be removed nothing was made
    simp only [v, hprepare] at hnode hempty
    exact nomatch hnode.symm.trans hempty
  · obtain rfl := prepare_ok hprepare
    simp only [v, hprepare] at hnode hempty ⊢
    refine ((pack_obeys (make_making hconf ha) v').2 n hnode).resolve_left fun hbefore => ?_
    exact nomatch hbefore.symm.trans hempty

/-- A tool that is gone when it is to be run. -/
def absentTool : Tool := fun _ _ t => (.notStarted "no such program", t)

theorem absentTool_confined : Confined absentTool := fun _ _ _ _ t _ => .refl _ _ t

set_option maxRecDepth 100000 in
/-- With the tool in memory all four stores are made, and with one that is gone the packing fails after the key
store was written; the file with the authority's certificate is left by neither. -/
theorem specimen_packings_spare :
    let l : ServiceLayout := ⟨specimenMaterial.certPath.parent⟩
    (∀ a ∈ storeArtifacts, ∃ n,
      ((bundle (storingHost (Reference.run storingSuite)) {} specimenMaterial).exec Specimen.world).2.tree.find?
        (l.path .server a) = some n ∧
      Made (storingHost (Reference.run storingSuite)) "keytool" l specimenMaterial
        (passwordOf (storingHost (Reference.run storingSuite)) {} specimenMaterial Specimen.world)
        ((prepare (storingHost (Reference.run storingSuite)) {} specimenMaterial).exec Specimen.world).2
        ((bundle (storingHost (Reference.run storingSuite)) {} specimenMaterial).exec Specimen.world).2
        (l.path .server a) n) ∧
    ((bundle (storingHost absentTool) {} specimenMaterial).exec Specimen.world).1.isOk = false ∧
    ((bundle (storingHost absentTool) {} specimenMaterial).exec Specimen.world).2.tree.isFile
      (l.path .server .keystoreP12) = true ∧
    Spared l .server Specimen.world.tree
      ((bundle (storingHost absentTool) {} specimenMaterial).exec Specimen.world).2.tree := by
  intro l
  have hfree : ∀ a ∈ storeArtifacts, Specimen.world.tree.find? (l.path .server a) = none ∨
      Specimen.world.tree.isFile (l.path .server a) = true := by decide +kernel
  have hstores : ∀ a ∈ storeArtifacts,
      (((bundle (storingHost (Reference.run storingSuite)) {} specimenMaterial).exec Specimen.world).2.tree.find?
        (l.path .server a)).isSome = true := by decide +kernel
  have hworking : Confined (storingHost (Reference.run storingSuite)).tool := Reference.confined storingSuite
  have habsent : Confined (storingHost absentTool).tool := absentTool_confined
  obtain ⟨-, -, hmade⟩ := packing_spares_the_rest (s := {}) hworking Specimen.world
  obtain ⟨hspared, -, -⟩ := packing_spares_the_rest (s := {}) habsent Specimen.world
  refine ⟨fun a ha => ?_, by decide +kernel, by decide +kernel, hspared⟩
  obtain ⟨n, hn⟩ := Option.isSome_iff_exists.mp (hstores a ha)
  exact ⟨n, hn, (hmade hfree a ha).2 n hn⟩

end Bundle

end ServiceTrust
