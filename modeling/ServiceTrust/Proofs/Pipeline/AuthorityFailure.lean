/-
What is left of an authority when a run could not provide one. Where it was only to be loaded, and where
its directory could not be made, every file of it is as it was. Otherwise its directory was cleared before
anything could go wrong, and nothing of the old authority is left: a file that is there is of the new one,
and only because something stands in the place of a file that was to follow.
-/
import ServiceTrust.Proofs.Pipeline.Authority
import ServiceTrust.Proofs.Specimen

namespace ServiceTrust

open Stage ServiceTrust.Tree X509

/-- The certificate, the key and the request of an authority. -/
def AuthorityLayout.files (l : AuthorityLayout) : List Path := [l.cert, l.key, l.csr]

theorem AuthorityLayout.place_mem_places {l : AuthorityLayout} {p : Path} (hp : p ∈ l.files) :
    p.place ∈ places l.directory.place := by
  simp only [files, List.mem_cons, List.not_mem_nil, or_false] at hp
  rcases hp with rfl | rfl | rfl
  · exact l.place_cert ▸ mem_placesNamed.mpr (by decide)
  · exact l.place_key ▸ mem_placesNamed.mpr (by decide)
  · exact l.place_csr ▸ mem_placesNamed.mpr (by decide)

namespace Authority

variable {σ : Type} {host : Host} {l : AuthorityLayout} {d : AuthorityDescriptor} {force : Bool}

/-- What is left in `t'` of an authority that was to be made with the key `k` in the directories of `t`.
A directory in the place of a file stays; a file is a new one, and what was to follow it could not be
written. -/
structure Wreck (suite : Suite) (l : AuthorityLayout) (k : Crypto.PrivateKey) (t t' : Tree) : Prop where
  directory : ∀ p ∈ l.files, t'.isDirectory p = t.isDirectory p
  key : t'.isFile l.key = true →
    (t.isDirectory l.cert = true ∨ t.isDirectory l.csr = true) ∧ t'.read l.key = .ok (suite.keyPem k)
  cert : t'.isFile l.cert = true → t.isDirectory l.csr = true ∧ ∃ body certificate,
    body.publicKey = k.public ∧ suite.certify k body = .ok certificate ∧
      t'.read l.cert = .ok (suite.certificatePem certificate)
  csr : t'.isFile l.csr = false

/-! ## From the clearing on -/

section Making

variable {suite : Suite} {k : Crypto.PrivateKey} {t t₁ t₂ t₃ t₄ : Tree} {fault : FileFault}

/-- Where only another file is written there is no more of a file than before. -/
theorem isFile_of_apart {p q : Path} (h : Within {q.place} ∅ t t₁) (hne : q.place ≠ p.place)
    (hp : t.isFile p = false) : t₁.isFile p = false := by
  refine Bool.eq_false_iff.mpr fun hf => Bool.eq_false_iff.mp hp ?_
  obtain ⟨hl, hholds⟩ := isFile_iff.mp hf
  exact isFile_iff.mpr ⟨h.locate_iff.mp hl, (h.holdsFile fun he => hne he.symm).mp hholds⟩

theorem isFile_of_cleared (hc : Cleared (stalePlaces l.directory.place) t t₁) {p : Path} (hp : p ∈ l.files) :
    t₁.isFile p = false := by
  refine Bool.eq_false_iff.mpr fun hf => ?_
  have hstale := AuthorityLayout.places_subset_stale _ (AuthorityLayout.place_mem_places hp)
  exact hc.not_holdsFile hstale (isFile_iff.mp hf).2

/-- Nothing was written. -/
theorem Wreck.of_cleared (hc : Cleared (stalePlaces l.directory.place) t t₁) : Wreck suite l k t t₁ := by
  have hkey := isFile_of_cleared (p := l.key) hc (by simp [AuthorityLayout.files])
  have hcert := isFile_of_cleared (p := l.cert) hc (by simp [AuthorityLayout.files])
  have hcsr := isFile_of_cleared (p := l.csr) hc (by simp [AuthorityLayout.files])
  exact ⟨fun p _ => hc.within.isDirectory_eq p, fun hf => absurd (hkey.symm.trans hf) Bool.false_ne_true,
    fun hf => absurd (hcert.symm.trans hf) Bool.false_ne_true, hcsr⟩

/-- The key was written, and the certificate could not be. -/
theorem Wreck.of_key {mode : Nat} {bytes : Bytes} (hd : t.isDirectory l.directory = true)
    (hc : Cleared (stalePlaces l.directory.place) t t₁) (hkey : t₁.write l.key (suite.keyPem k) = .ok t₂)
    (hmode : t₂.setMode l.key mode = .ok t₃) (hfails : t₃.write l.cert bytes = .error fault) :
    Wreck suite l k t t₃ := by
  obtain ⟨hkc, hks, -⟩ := places_apart l
  have hwithin := (write_within hkey).trans (setMode_within hmode)
  have hsame (p : Path) : t₃.isDirectory p = t.isDirectory p := by
    rw [hwithin.isDirectory_eq, hc.within.isDirectory_eq]
  have hcert := isFile_of_apart hwithin hkc (isFile_of_cleared hc (by simp [AuthorityLayout.files]))
  have hcsr := isFile_of_apart hwithin hks (isFile_of_cleared hc (by simp [AuthorityLayout.files]))
  have hblocked : t.isDirectory l.cert = true :=
    hsame l.cert ▸ isDirectory_of_write_error (by decide) ((hsame _).trans hd) hfails
  exact ⟨fun p _ => hsame p, fun _ => ⟨.inl hblocked, read_setMode hmode (read_write hkey)⟩,
    fun hf => absurd (hcert.symm.trans hf) Bool.false_ne_true, hcsr⟩

/-- Key and certificate were written, and the request could not be. -/
theorem Wreck.of_cert {mode : Nat} {bytes : Bytes} {body : Body} {certificate : Certificate}
    (hd : t.isDirectory l.directory = true) (hc : Cleared (stalePlaces l.directory.place) t t₁)
    (hkey : t₁.write l.key (suite.keyPem k) = .ok t₂) (hmode : t₂.setMode l.key mode = .ok t₃)
    (hbody : body.publicKey = k.public) (hcertify : suite.certify k body = .ok certificate)
    (hcert : t₃.write l.cert (suite.certificatePem certificate) = .ok t₄)
    (hfails : t₄.write l.csr bytes = .error fault) : Wreck suite l k t t₄ := by
  obtain ⟨hkc, hks, hcs⟩ := places_apart l
  have hwithin := (write_within hkey).trans (setMode_within hmode)
  have hsame (p : Path) : t₄.isDirectory p = t.isDirectory p := by
    rw [(write_within hcert).isDirectory_eq, hwithin.isDirectory_eq, hc.within.isDirectory_eq]
  have hcsr := isFile_of_apart (write_within hcert) hcs
    (isFile_of_apart hwithin hks (isFile_of_cleared hc (by simp [AuthorityLayout.files])))
  have hblocked : t.isDirectory l.csr = true :=
    hsame l.csr ▸ isDirectory_of_write_error (by decide) ((hsame _).trans hd) hfails
  have hread := (write_within hcert).read hkc (read_setMode hmode (read_write hkey))
  exact ⟨fun p _ => hsame p, fun _ => ⟨.inr hblocked, hread⟩,
    fun _ => ⟨hblocked, body, certificate, hbody, hcertify, read_write hcert⟩, hcsr⟩

end Making

/-! ## A making that failed -/

/-- What cannot be computed fails on the cleared directory. -/
theorem Wreck.of_crypto {suite : Suite} {k : Crypto.PrivateKey} {t : Tree} {α : Type}
    {outcome : Except Crypto.Fault α} {w w' : World σ} {e : Failure}
    (hc : Cleared (stalePlaces l.directory.place) t w.tree) (h : (crypto outcome).exec w = (.error e, w')) :
    (∃ f, e = .fault f) ∧ Wreck suite l k t w'.tree := by
  obtain ⟨f, -, rfl, rfl⟩ := crypto_error.mp h
  exact ⟨⟨_, rfl⟩, .of_cleared hc⟩

/-- What cannot be written leaves what was written before it. -/
theorem Wreck.of_writing {suite : Suite} {k : Crypto.PrivateKey} {t : Tree} {body : Body}
    {certificate : Certificate} {request : Bytes} {a : Authority} {w w' : World σ} {e : Failure}
    (hd : t.isDirectory l.directory = true) (hc : Cleared (stalePlaces l.directory.place) t w.tree)
    (hbody : body.publicKey = k.public) (hcertify : suite.certify k body = .ok certificate)
    (h : (do
      write l.key (suite.keyPem k)
      change (·.setMode l.key keyFileMode)
      write l.cert (suite.certificatePem certificate)
      write l.csr request
      return a : Stage σ Authority).exec w = (.error e, w')) :
    (∃ f, e = .fault f) ∧ Wreck suite l k t w'.tree := by
  obtain h | ⟨_, w₁, hkey, h⟩ := bind_error.mp h
  · obtain ⟨fault, -, rfl, rfl⟩ := write_error.mp h
    exact ⟨⟨_, rfl⟩, .of_cleared hc⟩
  obtain ⟨t₁, hkeyPem, rfl⟩ := write_ok.mp hkey
  obtain h | ⟨_, w₂, hmode, h⟩ := bind_error.mp h
  · obtain ⟨fault, hfault, -⟩ := change_error.mp h
    obtain ⟨t₂, hmode⟩ := setMode_of_isFile (isFile_iff_read.mpr ⟨_, read_write hkeyPem⟩) keyFileMode
    exact nomatch hfault.symm.trans hmode
  obtain ⟨t₂, hkeyMode, rfl⟩ := change_ok.mp hmode
  obtain h | ⟨_, w₃, hcert, h⟩ := bind_error.mp h
  · obtain ⟨fault, hfault, rfl, rfl⟩ := write_error.mp h
    exact ⟨⟨_, rfl⟩, .of_key hd hc hkeyPem hkeyMode hfault⟩
  obtain ⟨t₃, hcertPem, rfl⟩ := write_ok.mp hcert
  obtain h | ⟨_, w₄, -, h⟩ := bind_error.mp h
  · obtain ⟨fault, hfault, rfl, rfl⟩ := write_error.mp h
    exact ⟨⟨_, rfl⟩, .of_cert hd hc hkeyPem hkeyMode hbody hcertify hcertPem hfault⟩
  exact (pure_error.mp h).elim

/-- A making fails with a plain fault: either its directory could not be made, or the directory was
cleared and a wreck is left. -/
theorem make_error {days : Int} {w w' : World σ} {e : Failure}
    (h : (make host l d days).exec w = (.error e, w')) :
    (∃ f, e = .fault f) ∧
      (((w.tree.makeDirectories l.directory).2 ≠ .ok () ∧
          w'.tree = (w.tree.makeDirectories l.directory).1) ∨
        (w.tree.makeDirectories l.directory).2 = .ok () ∧
          Wreck host.suite l (newKey host d w) (w.tree.makeDirectories l.directory).1 w'.tree) := by
  unfold make at h
  obtain h | ⟨_, w₁, hmake, h⟩ := bind_error.mp h
  · obtain ⟨fault, hfault, rfl, rfl⟩ := makeDirectories_error.mp h
    exact ⟨⟨_, rfl⟩, .inl ⟨by simp [hfault], rfl⟩⟩
  obtain ⟨hmade, rfl⟩ := makeDirectories_ok.mp hmake
  obtain h | ⟨_, w₂, hclear, h⟩ := bind_error.mp h
  · exact (clear_error.mp h).elim
  obtain ⟨t, hremoved, rfl⟩ := clear_ok.mp hclear
  have hd := isDirectory_makeDirectories hmade
  obtain ⟨t', removed, hremoved', hc⟩ := removeStale_cleared hd
  obtain ⟨rfl, -⟩ := Prod.mk.inj (Except.ok.inj (hremoved.symm.trans hremoved'))
  suffices hwreck : (∃ f, e = .fault f) ∧
      Wreck host.suite l (newKey host d w) (w.tree.makeDirectories l.directory).1 w'.tree from
    ⟨hwreck.1, .inr ⟨hmade, hwreck.2⟩⟩
  obtain h | ⟨seed, w₃, hseed, h⟩ := bind_error.mp h
  · exact (newSeed_error.mp h).elim
  obtain ⟨rfl, rfl⟩ := newSeed_ok.mp hseed
  obtain h | ⟨name, w₄, hname, h⟩ := bind_error.mp h
  · exact Wreck.of_crypto hc h
  obtain ⟨-, rfl⟩ := crypto_ok.mp hname
  obtain h | ⟨altNames, w₅, haltNames, h⟩ := bind_error.mp h
  · exact Wreck.of_crypto hc h
  obtain ⟨-, rfl⟩ := crypto_ok.mp haltNames
  obtain h | ⟨request, w₆, hrequest, h⟩ := bind_error.mp h
  · exact Wreck.of_crypto hc h
  obtain ⟨-, rfl⟩ := crypto_ok.mp hrequest
  obtain h | ⟨stop, w₇, hstop, h⟩ := bind_error.mp h
  · exact Wreck.of_crypto hc h
  obtain ⟨-, rfl⟩ := crypto_ok.mp hstop
  obtain h | ⟨seed, w₈, hseed, h⟩ := bind_error.mp h
  · exact (newSeed_error.mp h).elim
  obtain ⟨-, rfl⟩ := newSeed_ok.mp hseed
  obtain h | ⟨certificate, w₉, hcertify, h⟩ := bind_error.mp h
  · exact Wreck.of_crypto hc h
  obtain ⟨hcertified, rfl⟩ := crypto_ok.mp hcertify
  exact Wreck.of_writing hd hc rfl hcertified h

/-! ## A run that failed -/

/-- Whether a run over the files `t` keeps its hands off the files of `l`: it is only to load them, or
there can be no directory for them. -/
def Spares (l : AuthorityLayout) (force : Bool) (t : Tree) : Prop :=
  force = false ∧ l.isComplete t = true ∨ (t.makeDirectories l.directory).2 ≠ .ok ()

/-- What is left in `t'` of the files of `l` in `t` after a run that failed, which was to load the authority
or to make one with the key `k`. -/
structure Remains (suite : Suite) (l : AuthorityLayout) (force : Bool) (k : Crypto.PrivateKey) (t t' : Tree) :
    Prop where
  spared : Spares l force t → ∀ p ∈ l.files, t'.find? p = t.find? p
  wrecked : ¬Spares l force t → Wreck suite l k (t.makeDirectories l.directory).1 t'

/-- Where the directory of an authority cannot be made there were no files of it, and there are none. -/
theorem find?_of_not_made {t : Tree} {fault : FileFault} (h : (t.makeDirectories l.directory).2 = .error fault)
    {p : Path} (hp : p ∈ l.files) : (t.makeDirectories l.directory).1.find? p = t.find? p := by
  have hbefore : t.isDirectory l.directory = false := by
    by_contra hd
    rw [Bool.not_eq_false] at hd
    rw [makeDirectories_of_isDirectory hd] at h
    cases h
  have hafter := not_isDirectory_makeDirectories h
  simp only [AuthorityLayout.files, List.mem_cons, List.not_mem_nil, or_false] at hp
  rcases hp with rfl | rfl | rfl <;> exact (find?_child hafter (by decide)).trans (find?_child hbefore (by decide)).symm

theorem load_error {w w' : World σ} {e : Failure} (h : (load host l d).exec w = (.error e, w')) :
    ∃ p, e = .pipeline p ∧ p.kind = .generation := by
  unfold load at h
  obtain h | ⟨⟨keyPem, certPem, csrPem, key, certificate⟩, w₁, -, h⟩ := bind_error.mp h
  · obtain ⟨f, w₁, -, h⟩ | ⟨p, -, hread⟩ := catchFault_error.mp h
    · obtain h | ⟨_, w₂, -, h⟩ := bind_error.mp h
      · exact (log_error.mp h).elim
      · exact ⟨_, (fail_error.mp h).1, rfl⟩
    · simp only [bind_error, read_error, crypto_error, pure_error] at hread
      simp at hread
  · dsimp only at h
    split at h
    · obtain h | ⟨_, w₂, h, -⟩ := bind_error.mp h
      · exact ⟨_, (fail_error.mp h).1, rfl⟩
      · exact (fail_ok.mp h).elim
    · obtain h | ⟨_, w₂, -, h⟩ := bind_error.mp h
      · exact (log_error.mp h).elim
      · exact (pure_error.mp h).elim

theorem generate_error {days : Int} {w w' : World σ} {e : Failure}
    (h : (generate host l d days).exec w = (.error e, w'))
    (hload : ¬(force = false ∧ l.isComplete w.tree = true)) :
    (∃ p, e = .pipeline p ∧ p.kind = .generation) ∧
      Remains host.suite l force (newKey host d w) w.tree w'.tree := by
  unfold generate at h
  obtain h | ⟨_, w₁, hlog, h⟩ := bind_error.mp h
  · exact (log_error.mp h).elim
  have hw₁ := log_ok.mp hlog
  obtain h | ⟨_, w₂, -, h⟩ := bind_error.mp h
  · obtain ⟨f, w₂, hmake, h⟩ | ⟨p, -, h⟩ := catchFault_error.mp h
    · obtain h | ⟨_, w₃, hlog, h⟩ := bind_error.mp h
      · exact (log_error.mp h).elim
      obtain rfl := log_ok.mp hlog
      obtain ⟨rfl, rfl⟩ := fail_error.mp h
      refine ⟨⟨_, rfl, rfl⟩, ?_⟩
      have hleft := (make_error hmake).2
      rw [hw₁] at hleft
      rcases hleft with ⟨hfails, ht⟩ | ⟨hmade, hwreck⟩
      · refine ⟨fun _ p hp => ?_, fun hns => absurd (.inr hfails) hns⟩
        rcases hm : (w.tree.makeDirectories l.directory).2 with fault | ⟨⟩
        · exact (congrArg (·.find? p) ht).trans (find?_of_not_made hm hp)
        · exact absurd hm hfails
      · exact ⟨fun hs => (hs.elim hload fun hn => hn hmade).elim, fun _ => hwreck⟩
    · obtain ⟨f, hf⟩ := (make_error h).1
      exact nomatch hf
  obtain h | ⟨_, w₃, -, h⟩ := bind_error.mp h
  · exact (count_error.mp h).elim
  obtain h | ⟨_, w₄, -, h⟩ := bind_error.mp h
  · exact (log_error.mp h).elim
  · exact (pure_error.mp h).elim

theorem acquire_error {days : Option Int} {w w' : World σ} {e : Failure}
    (h : (acquire host l d days force).exec w = (.error e, w')) :
    (∃ p, e = .pipeline p ∧ p.kind = .generation) ∧
      Remains host.suite l force (newKey host d w) w.tree w'.tree := by
  unfold acquire at h
  obtain h | ⟨t, w₁, ht, h⟩ := bind_error.mp h
  · cases h
  obtain ⟨rfl, rfl⟩ := tree_ok.mp ht
  split at h
  next hload =>
    have hload : force = false ∧ l.isComplete w₁.tree = true := by simpa using hload
    have ht := (load_still.ran h).1
    exact ⟨load_error h, fun _ p _ => by rw [ht], fun hns => absurd (.inl hload) hns⟩
  next hload =>
    have hload : ¬(force = false ∧ l.isComplete w₁.tree = true) := by simpa using hload
    split at h
    · obtain h | ⟨_, w₂, hlog, h⟩ := bind_error.mp h
      · exact (log_error.mp h).elim
      have hw₂ := log_ok.mp hlog
      have htree : w₂.tree = w₁.tree := by rw [hw₂]
      have hkey : newKey host d w₂ = newKey host d w₁ := by rw [hw₂]; rfl
      have hleft := generate_error h (htree ▸ hload)
      rwa [htree, hkey] at hleft
    · exact generate_error h hload

/-- Once an authority is there nothing can fail any more. -/
theorem acquire_of_ensure_error {directory : Path} {days : Option Int} {w w' : World σ} {e : Failure}
    (h : (ensure host directory d days force).exec w = (.error e, w')) :
    (acquire host ⟨directory⟩ d days force).exec w = (.error e, w') := by
  unfold ensure at h
  obtain h | ⟨_, w₁, -, h⟩ := bind_error.mp h
  · exact h
  obtain h | ⟨_, w₂, -, h⟩ := bind_error.mp h
  · exact (log_error.mp h).elim
  obtain h | ⟨_, w₃, -, h⟩ := bind_error.mp h
  · exact (count_error.mp h).elim
  · exact (pure_error.mp h).elim

/-! ## A new authority that cannot be named -/

def unnamedLayout : AuthorityLayout := ⟨⟨.relative, ["tls", "ca"]⟩⟩

/-- The files of an authority that say nothing, beside a descriptor whose name is too long for a
certificate. -/
def unnamedTree : Tree := ⟨Specimen.tree.entries.filter (·.1 ≠ unnamedLayout.descriptor.place) ++ [
  (unnamedLayout.descriptor.place, .file (Specimen.descriptorBytes (String.ofList (List.replicate 65 'x'))) 0o644),
  (unnamedLayout.key.place, .file [0] 0o600),
  (unnamedLayout.cert.place, .file [0] 0o644),
  (unnamedLayout.csr.place, .file [0] 0o644)]⟩

def unnamedWorld : World DryStore := { Specimen.world with tree := unnamedTree }

/-- The end of a run for the authority of the descriptor `d`. -/
def unnamedRun (d : AuthorityDescriptor) (force : Bool) : Except Failure Authority × World DryStore :=
  (ensure Specimen.host unnamedLayout.directory d none force).exec unnamedWorld

/-- The descriptor can be read, and with it a run fails whether it is to load the authority or to make a
new one. -/
theorem unnamedRun_fails : ∃ d, Descriptor.loadAuthority unnamedTree unnamedLayout.descriptor = .ok d ∧
    ∀ force, ∃ e, (unnamedRun d force).1 = .error e := by
  have hfails : ((Descriptor.loadAuthority unnamedTree unnamedLayout.descriptor).toOption.any fun d =>
      [false, true].all fun force => !(unnamedRun d force).1.toBool) = true := by decide +kernel
  rcases hd : Descriptor.loadAuthority unnamedTree unnamedLayout.descriptor with _ | d
  · simp [hd, Except.toOption] at hfails
  · refine ⟨d, rfl, fun force => eq_error_of_toBool ?_⟩
    cases force <;> simp_all [Except.toOption]

/-! ## What is left -/

/-- A run that could not provide an authority fails as a generation. Where it was only to load one, or
its directory could not be made, the three files are as they were; otherwise the directory was cleared, and
a file of it is at most one of the new authority that something else kept from being finished. -/
theorem failed_ensure_spares_or_wrecks {directory : Path} {days : Option Int} {w w' : World σ} {e : Failure}
    (h : (ensure host directory d days force).exec w = (.error e, w')) :
    (∃ p, e = .pipeline p ∧ p.kind = .generation) ∧
      Remains host.suite ⟨directory⟩ force (newKey host d w) w.tree w'.tree :=
  acquire_error (acquire_of_ensure_error h)

/-- A run that fails whether it is to load the authority or to make a new one: it spares the files at first,
and then wrecks them. -/
theorem unnamed_authority_spared_then_wrecked :
    ∃ d, Descriptor.loadAuthority unnamedTree unnamedLayout.descriptor = .ok d ∧
      (∀ p ∈ unnamedLayout.files, (unnamedRun d false).2.tree.find? p = unnamedTree.find? p) ∧
      Wreck Specimen.suite unnamedLayout (newKey Specimen.host d unnamedWorld)
        (unnamedTree.makeDirectories unnamedLayout.directory).1 (unnamedRun d true).2.tree := by
  obtain ⟨d, hd, hfails⟩ := unnamedRun_fails
  obtain ⟨e, he⟩ := hfails false
  obtain ⟨e', he'⟩ := hfails true
  obtain ⟨-, hspared⟩ := failed_ensure_spares_or_wrecks
    (show (unnamedRun d false) = (.error e, (unnamedRun d false).2) from Prod.ext he rfl)
  obtain ⟨-, hwrecked⟩ := failed_ensure_spares_or_wrecks
    (show (unnamedRun d true) = (.error e', (unnamedRun d true).2) from Prod.ext he' rfl)
  have hmade : (unnamedTree.makeDirectories unnamedLayout.directory).2 = .ok () := by decide +kernel
  refine ⟨d, hd, hspared.spared (.inl ⟨rfl, by decide +kernel⟩), hwrecked.wrecked ?_⟩
  rintro (⟨hforce, -⟩ | hnot)
  · cases hforce
  · exact hnot hmade

/-- The authority that `old` describes is made, and a run that is to replace it by the one of `new` fails
with none of its files left. -/
def destroys (old new : AuthorityDescriptor) : Bool :=
  match (ensure Specimen.host unnamedLayout.directory old none false).exec Specimen.world with
  | (.ok _, w) =>
    unnamedLayout.isComplete w.tree &&
      match (ensure Specimen.host unnamedLayout.directory new none true).exec w with
      | (.error (.pipeline e), w') => e.kind = .generation && unnamedLayout.files.all fun p => w'.tree.find? p = none
      | _ => false
  | _ => false

theorem failed_run_destroys_authority :
    ∃ old new, Descriptor.loadAuthority Specimen.tree unnamedLayout.descriptor = .ok old ∧
      Descriptor.loadAuthority unnamedTree unnamedLayout.descriptor = .ok new ∧
      ∃ a w e w', (ensure Specimen.host unnamedLayout.directory old none false).exec Specimen.world = (.ok a, w) ∧
        unnamedLayout.isComplete w.tree = true ∧
        (ensure Specimen.host unnamedLayout.directory new none true).exec w = (.error (.pipeline e), w') ∧
        e.kind = .generation ∧ ∀ p ∈ unnamedLayout.files, w'.tree.find? p = none := by
  have hdestroys : ((Descriptor.loadAuthority Specimen.tree unnamedLayout.descriptor).toOption.any fun old =>
      (Descriptor.loadAuthority unnamedTree unnamedLayout.descriptor).toOption.any (destroys old)) = true := by
    decide +kernel
  rcases hold : Descriptor.loadAuthority Specimen.tree unnamedLayout.descriptor with _ | old
  · simp [hold, Except.toOption] at hdestroys
  rcases hnew : Descriptor.loadAuthority unnamedTree unnamedLayout.descriptor with _ | new
  · simp [hnew, Except.toOption] at hdestroys
  replace hdestroys : destroys old new = true := by simpa [hold, hnew, Except.toOption] using hdestroys
  refine ⟨old, new, rfl, rfl, ?_⟩
  unfold destroys at hdestroys
  split at hdestroys
  next a w hmade =>
    rw [Bool.and_eq_true] at hdestroys
    obtain ⟨hcomplete, hdestroys⟩ := hdestroys
    split at hdestroys
    next e w' hfailed =>
      rw [Bool.and_eq_true, List.all_eq_true] at hdestroys
      exact ⟨a, w, e, w', hmade, hcomplete, hfailed, of_decide_eq_true hdestroys.1,
        fun p hp => of_decide_eq_true (hdestroys.2 p hp)⟩
    next => cases hdestroys
  next => cases hdestroys

end Authority

end ServiceTrust
