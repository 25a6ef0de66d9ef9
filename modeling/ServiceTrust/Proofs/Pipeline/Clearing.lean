/-
Clearing takes away what runs of the program leave, and nothing else. It goes by the endings of names alone:
the files of the directory with one of the endings are removed, each once and in the order of the endings, and
clearing again finds nothing. Whatever file the authority, a role, its stores or the token keys are written to
has such a name, the one that is there only while the tool is asked included, and no descriptor has.
-/
import ServiceTrust.Proofs.Pipeline.Authority
import ServiceTrust.Proofs.Pipeline.Bundle
import ServiceTrust.Proofs.Pipeline.Issue
import ServiceTrust.Proofs.Pipeline.TokenKeys
import ServiceTrust.Proofs.Specimen
import Mathlib.Data.List.Nodup

namespace ServiceTrust

open Stage ServiceTrust.Tree Keystore

variable {σ α : Type} {t t' : Tree} {d : Path} {name : String} {removed : List Path}

/-! ## The names that clearing goes by -/

/-- The name of a file that clearing removes. -/
structure ClearedName (name : String) : Prop where
  proper : isName name = true
  ending : ∃ ending ∈ generatedEndings, ∃ stem, name = stem ++ ending

theorem hasSuffix_iff_append {ending : String} : hasSuffix name ending = true ↔ ∃ stem, name = stem ++ ending := by
  rw [hasSuffix_iff]
  constructor
  · rintro ⟨stem, h⟩
    exact ⟨.ofList stem, String.toList_inj.mp (by simp [h])⟩
  · rintro ⟨stem, rfl⟩
    exact ⟨stem.toList, by simp⟩

theorem clearedName_iff : ClearedName name ↔ isName name = true ∧ isStale name = true := by
  simp only [isStale, List.any_eq_true, hasSuffix_iff_append]
  exact ⟨fun h => ⟨h.proper, h.ending⟩, fun h => ⟨h.1, h.2⟩⟩

instance (name : String) : Decidable (ClearedName name) := decidable_of_iff _ clearedName_iff.symm

example : ClearedName ".pem" ∧ ClearedName ".cache.p12" ∧ ClearedName "store.pkcs12" ∧ ¬ ClearedName "CA.PEM" ∧
    ¬ ClearedName "ca.pem.bak" := by decide

/-! ## Clearing a directory -/

/-- Clearing `d` leads from `t` to `t'` and returns the paths `removed`. -/
structure ClearsExactly (t : Tree) (d : Path) (t' : Tree) (removed : List Path) : Prop where
  gone : ∀ name, ClearedName name → t.isFile (d.child name) = true → t'.node? (d.place ++ [name]) = none
  /-- Directories, all other files and what is in directories below stay. -/
  kept : ∀ l, (∀ name, ClearedName name → t.isFile (d.child name) = true → l ≠ d.place ++ [name]) →
    t'.node? l = t.node? l
  listed : ∀ p, p ∈ removed ↔ ∃ name, ClearedName name ∧ t.isFile (d.child name) = true ∧ p = d.child name
  once : removed.Nodup
  ordered : ∃ names : String → List String,
    removed = generatedEndings.flatMap (fun ending => (names ending).map d.child) ∧
    ∀ ending ∈ generatedEndings, (names ending).Pairwise (· < ·) ∧
      ∀ name ∈ names ending, ∃ stem, name = stem ++ ending
  again : t'.removeStale d = .ok (t', [])

/-- The paths that clearing `d` returns. -/
def clearedPaths (t : Tree) (d : Path) : List Path :=
  generatedEndings.flatMap fun ending => (t.filesWith d ending).map d.child

theorem mem_clearedPaths {p : Path} : p ∈ clearedPaths t d ↔
    ∃ name, ClearedName name ∧ t.isFile (d.child name) = true ∧ p = d.child name := by
  simp only [clearedPaths, List.mem_flatMap, List.mem_map, mem_filesWith, hasSuffix_iff_append]
  constructor
  · rintro ⟨ending, hending, name, ⟨hname, hfile, hstem⟩, rfl⟩
    exact ⟨name, ⟨hname, ending, hending, hstem⟩, hfile, rfl⟩
  · rintro ⟨name, ⟨hname, ending, hending, hstem⟩, hfile, rfl⟩
    exact ⟨ending, hending, name, ⟨hname, hfile, hstem⟩, rfl⟩

theorem nodup_clearedPaths (t : Tree) (d : Path) : (clearedPaths t d).Nodup := by
  have hpart {ending name : String} (h : name ∈ t.filesWith d ending) : isPart name = true :=
    isPart_of_isName (mem_filesWith.mp h).1
  refine List.nodup_flatMap.mpr ⟨fun ending _ => ?_, ?_⟩
  · refine List.Nodup.map_on (fun m hm n hn h => ?_) ((filesWith_increasing t d ending).imp String.ne_of_lt)
    exact (d.child_inj (hpart hm) (hpart hn)).mp h
  · refine generatedEndings_apart.imp fun hapart p hp hp' => ?_
    obtain ⟨name, hname, rfl⟩ := List.mem_map.mp hp
    obtain ⟨name', hname', he⟩ := List.mem_map.mp hp'
    obtain rfl := (d.child_inj (hpart hname') (hpart hname)).mp he
    exact Bool.false_ne_true
      ((hapart _ (mem_filesWith.mp hname).2.2).symm.trans (mem_filesWith.mp hname').2.2)

theorem removeStale_eq (t : Tree) (d : Path) : ∃ t', t.removeStale d = .ok (t', clearedPaths t d) :=
  removeStaleWith_eq generatedEndings_apart

/-- Where `d` is no directory nothing happens. -/
theorem removeStale_ok (h : t.removeStale d = .ok (t', removed)) :
    t.isDirectory d = true ∧ Cleared (stalePlaces d.place) t t' ∨ t.isDirectory d = false ∧ t' = t := by
  cases hd : t.isDirectory d with
  | true =>
    obtain ⟨_, _, hr, hc⟩ := removeStale_cleared hd
    obtain ⟨rfl, -⟩ := Prod.mk.inj (Except.ok.inj (h.symm.trans hr))
    exact .inl ⟨rfl, hc⟩
  | false =>
    have hsame := removeStaleWith_of_not_isDirectory generatedEndings hd
    exact .inr ⟨rfl, (Prod.mk.inj (Except.ok.inj (h.symm.trans hsame))).1⟩

theorem place_mem_stalePlaces (h : ClearedName name) : (d.child name).place ∈ stalePlaces d.place := by
  rw [d.place_child_name h.proper]
  exact (mem_stalePlaces h.proper).mpr (clearedName_iff.mp h).2

/-- Of the files that clearing goes by none is left. -/
theorem isFile_removeStale (h : t.removeStale d = .ok (t', removed)) (hname : ClearedName name) :
    t'.isFile (d.child name) = false := by
  rw [← Bool.not_eq_true]
  intro hfile
  rcases removeStale_ok h with ⟨-, hc⟩ | ⟨hd, rfl⟩
  · exact hc.not_holdsFile (place_mem_stalePlaces hname) (isFile_iff.mp hfile).2
  · rw [isDirectory_of_isFile_child (isPart_of_isName hname.proper) hfile] at hd
    cases hd

theorem removeStale_again (h : t.removeStale d = .ok (t', removed)) : t'.removeStale d = .ok (t', []) := by
  refine removeStaleWith_of_none fun ending hending => List.eq_nil_iff_forall_not_mem.mpr fun name hm => ?_
  obtain ⟨hname, hfile, hstem⟩ := mem_filesWith.mp hm
  have hnone := isFile_removeStale h ⟨hname, ending, hending, hasSuffix_iff_append.mp hstem⟩
  rw [hfile] at hnone
  cases hnone

theorem clearsExactly (t : Tree) (d : Path) :
    ∃ t' removed, t.removeStale d = .ok (t', removed) ∧ ClearsExactly t d t' removed := by
  obtain ⟨t', h⟩ := removeStale_eq t d
  refine ⟨t', clearedPaths t d, h, ?gone, ?kept, fun p => mem_clearedPaths, nodup_clearedPaths t d,
    ⟨t.filesWith d, rfl, fun ending _ => ⟨filesWith_increasing t d ending, fun name hm => ?stem⟩⟩,
    removeStale_again h⟩
  case gone =>
    intro name hname hfile
    rcases removeStale_ok h with ⟨-, hc⟩ | ⟨hd, rfl⟩
    · rw [← d.place_child_name hname.proper]
      exact hc.gone _ (place_mem_stalePlaces hname) (isFile_iff.mp hfile).2
    · rw [isDirectory_of_isFile_child (isPart_of_isName hname.proper) hfile] at hd
      cases hd
  case kept =>
    intro l hl
    rcases removeStale_ok h with ⟨hd, hc⟩ | ⟨-, rfl⟩
    · refine hc.kept l (not_and_or.mp ?_)
      rintro ⟨⟨name, hname, hstale, rfl⟩, hholds⟩
      refine hl name (clearedName_iff.mpr ⟨hname, hstale⟩) ?_ rfl
      rwa [isFile_child hd (isPart_of_isName hname), d.place_child_name hname]
    · rfl
  case stem => exact hasSuffix_iff_append.mp (mem_filesWith.mp hm).2.2

/-! ## What is written -/

/-- However `act` ends, a file whose existence, bytes or mode differ then is one of `d` that clearing removes. -/
def WritesCleared (d : Path) (act : Stage σ α) : Prop :=
  ∀ w l, (act.exec w).2.tree.heldAt l ≠ w.tree.heldAt l → ∃ name, ClearedName name ∧ l = d.place ++ [name]

theorem writesCleared_of_within {files dirs : Set Location} {act : Stage σ α} (h : Obeys (.within files dirs) act)
    (hfiles : files ⊆ stalePlaces d.place) : WritesCleared d act := by
  intro w l hl
  obtain ⟨name, hname, hstale, rfl⟩ := hfiles (of_not_not fun hm => hl ((h w).1.heldAt hm))
  exact ⟨name, clearedName_iff.mpr ⟨hname, hstale⟩, rfl⟩

/-- In every tree and for every directory clearing removes exactly the files with one of the endings, returns
their paths in order, and finds nothing more afterwards. The files that providing the authority, issuing,
packing and making token keys write, however they end, have names that are cleared, and so has the one that
holds the authority's certificate during packing; the names of the descriptors are not cleared. -/
theorem clearing_exact_and_encompassing {host : Host} (hconf : Confined host.tool) :
    (∀ t d, ∃ t' removed, t.removeStale d = .ok (t', removed) ∧ ClearsExactly t d t' removed) ∧
    (∀ directory descriptor days force,
      WritesCleared directory (Authority.ensure host directory descriptor days force : Stage σ Authority)) ∧
    (∀ authority p role, WritesCleared p.layout.directory (Issue.issue host authority p role : Stage σ Material)) ∧
    (∀ s m, WritesCleared m.certPath.parent (Bundle.bundle host s m : Stage σ Bundle)) ∧
    (∀ executable m l password fingerprint, WritesCleared l.directory
      (Bundle.convert host executable m l password fingerprint (l.authorityFile m.role) : Stage σ Unit)) ∧
    (∀ directory force, WritesCleared directory (TokenKeys.ensure host directory force : Stage σ TokenKeys)) ∧
    (∀ r, (∀ a, ClearedName (Artifact.fileName r a)) ∧ ClearedName (ServiceLayout.authorityFileName r)) ∧
    (∀ name ∈ AuthorityLayout.names ++ TokenKeys.names, ClearedName name) ∧
    ¬ ClearedName AuthorityLayout.descriptorName ∧ ¬ ClearedName ServiceLayout.descriptorName := by
  have hroles : ∀ r ∈ Role.all, (∀ a ∈ Artifact.all, ClearedName (Artifact.fileName r a)) ∧
      ClearedName (ServiceLayout.authorityFileName r) := by decide
  refine ⟨clearsExactly, fun directory _ days force => ?authority, fun authority p role => ?issue,
    fun s m => ?bundle, fun executable m l password fingerprint => ?convert, fun directory force => ?keys,
    fun r => ⟨fun a => (hroles r r.mem_all).1 a a.mem_all, (hroles r r.mem_all).2⟩, by decide, by decide, by decide⟩
  case authority => exact writesCleared_of_within (Authority.ensure_within directory days force) subset_rfl
  case issue => exact writesCleared_of_within Issue.issue_within (ServiceLayout.placesFor_subset_stale _ _ _)
  case bundle =>
    exact writesCleared_of_within (Bundle.bundle_within hconf) (ServiceLayout.placesFor_subset_stale _ _ _)
  case convert =>
    exact writesCleared_of_within (Bundle.convert_within hconf fingerprint)
      (ServiceLayout.placesFor_subset_stale _ _ _)
  case keys =>
    exact writesCleared_of_within (TokenKeys.ensure_within directory force) (TokenKeys.places_subset_stale _)

/-- The specimen with files in the directory of its service: two of earlier runs, a hidden one, one whose name
has an ending in capitals, and a directory named like a generated file with a file in it. -/
def cluttered : Tree := ⟨Specimen.tree.entries ++ [
  (["tls", "a", "server.pem"], .file [1] 0o600),
  (["tls", "a", "old.pkcs12"], .file [1] 0o600),
  (["tls", "a", ".pem"], .file [1] 0o600),
  (["tls", "a", "OLD.PEM"], .file [1] 0o600),
  (["tls", "a", "kept.pem"], .directory),
  (["tls", "a", "kept.pem", "server.pem"], .file [1] 0o600)]⟩

set_option maxRecDepth 100000 in
/-- The files of earlier runs and the hidden one are removed, and all else stays; what packing writes there is
cleared next time. -/
theorem cluttered_cleared :
    let d := (Path.ofString "tls").child "a"
    ∃ t' removed, cluttered.removeStale d = .ok (t', removed) ∧ ClearsExactly cluttered d t' removed ∧
      removed.map toString = ["tls/a/.pem", "tls/a/server.pem", "tls/a/old.pkcs12"] ∧
      t'.isFile (d.child "OLD.PEM") = true ∧ t'.isFile ((d.child "kept.pem").child "server.pem") = true ∧
      t'.isFile (d.child ServiceLayout.descriptorName) = true ∧
      WritesCleared d (Bundle.bundle Specimen.host {} ⟨"a", .server, [], [], [], d.child "server.pem",
        d.child "server-key.pem", d.child "server.csr", "", ""⟩ : Stage Unit Bundle) := by
  intro d
  obtain ⟨hclears, -, -, hbundle, -⟩ := clearing_exact_and_encompassing (σ := Unit) Specimen.host_confined
  obtain ⟨t', removed, h, hexact⟩ := hclears cluttered d
  have hrun : ((cluttered.removeStale d).toOption.map fun r => (r.2.map toString, r.1.isFile (d.child "OLD.PEM"),
      r.1.isFile ((d.child "kept.pem").child "server.pem"), r.1.isFile (d.child ServiceLayout.descriptorName))) =
      some (["tls/a/.pem", "tls/a/server.pem", "tls/a/old.pkcs12"], true, true, true) := by decide +kernel
  rw [h] at hrun
  obtain ⟨hremoved, hkept⟩ := Prod.mk.inj (Option.some.inj hrun)
  obtain ⟨hcapitals, hkept⟩ := Prod.mk.inj hkept
  obtain ⟨hbelow, hdescriptor⟩ := Prod.mk.inj hkept
  refine ⟨t', removed, h, hexact, hremoved, hcapitals, hbelow, hdescriptor, ?_⟩
  have hparent : (d.child "server.pem").parent = d := d.parent_child (by decide)
  exact hparent ▸ hbundle {} _

end ServiceTrust
