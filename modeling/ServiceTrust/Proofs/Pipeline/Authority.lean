/-
The authority of a run. Where it is complete and no new one is asked for it is only read; a new one
touches nothing in its directory but generated files, and makes no directory but its own and those
above. Either way the three files are there afterwards with the content that is handed on.
-/
import ServiceTrust.Pipeline.Authority
import ServiceTrust.Proofs.Layout
import ServiceTrust.Proofs.Stage

namespace ServiceTrust

open Stage ServiceTrust.Tree X509

/-- The certificate of a new authority is read back from its file as it was made. -/
def Suite.ReadsAuthorities (suite : Suite) : Prop :=
  ∀ ⦃seed serial name stop days now certificate⦄ ⦃spec : KeySpec⦄ ⦃subject : Request.Subject⦄,
    Name.ofSubject subject = .ok name → Period.endOf now days = .ok stop →
    suite.certify (suite.newKey spec.kind seed) (authorityBody suite serial name now stop
      (suite.newKey spec.kind seed).public) = .ok certificate →
    suite.readCertificate (suite.certificatePem certificate) = .ok certificate

namespace Authority

variable {σ : Type} {host : Host} {l : AuthorityLayout} {d : AuthorityDescriptor} {force : Bool}

/-! ## What changes -/

theorem load_still : Obeys .still (load host l d : Stage σ Authority) := by
  refine .bind (.catchFault ?_ fun f => .bind (.log _ _ _) fun _ => .fail _) fun a => ?_
  · exact .bind (.read _) fun _ => .bind (.read _) fun _ => .bind (.read _) fun _ =>
      .bind (.crypto _) fun _ => .bind (.crypto _) fun _ => .pure _
  · exact .ite (fun _ => .bind (.fail _) fun _ => .bind (.log _ _ _) fun _ => .pure _) fun _ =>
      .bind (.log _ _ _) fun _ => .pure _

section Obeying

variable {F : Frame σ} (hclear : Obeys F (clear l.directory))
  (hrest : ∀ {w w' : World σ},
    (Frame.within (AuthorityLayout.places l.directory.place) l.directory.above).rel w w' → F.rel w w')
include hclear hrest

/-- A new authority obeys whatever allows clearing its directory and writing its files. -/
theorem make_obeys (days : Int) : Obeys F (make host l d days) := by
  have hkey : l.key.place ∈ AuthorityLayout.places l.directory.place :=
    l.place_key ▸ mem_placesNamed.mpr (by simp [AuthorityLayout.names])
  have hcert : l.cert.place ∈ AuthorityLayout.places l.directory.place :=
    l.place_cert ▸ mem_placesNamed.mpr (by simp [AuthorityLayout.names])
  have hcsr : l.csr.place ∈ AuthorityLayout.places l.directory.place :=
    l.place_csr ▸ mem_placesNamed.mpr (by simp [AuthorityLayout.names])
  refine .bind (.mono (.makeDirectories subset_rfl) hrest) fun _ => .bind hclear fun _ =>
    .bind (.newSeed host) fun _ => .bind (.crypto _) fun _ => .bind (.crypto _) fun _ =>
    .bind (.crypto _) fun _ => .bind (.crypto _) fun _ => .bind (.newSeed host) fun _ =>
    .bind (.crypto _) fun _ => ?_
  exact .bind (.mono (.write hkey _) hrest) fun _ => .bind (.mono (.setMode hkey _) hrest) fun _ =>
    .bind (.mono (.write hcert _) hrest) fun _ => .bind (.mono (.write hcsr _) hrest) fun _ => .pure _

theorem generate_obeys (days : Int) : Obeys F (generate host l d days) :=
  .bind (.log _ _ _) fun _ =>
    .bind (.catchFault (make_obeys hclear hrest days) fun _ => .bind (.log _ _ _) fun _ => .fail _) fun _ =>
      .bind (.count _) fun _ => .bind (.log _ _ _) fun _ => .pure _

theorem acquire_obeys (days : Option Int) (force : Bool) : Obeys F (acquire host l d days force) :=
  .bind .tree fun _ => .ite (fun _ => load_still.of_still) fun _ =>
    .ite (fun _ => .bind (.log _ _ _) fun _ => generate_obeys hclear hrest _) fun _ =>
      generate_obeys hclear hrest _

end Obeying

theorem ensure_obeys {F : Frame σ} {directory : Path} {days : Option Int}
    (h : Obeys F (acquire host ⟨directory⟩ d days force)) :
    Obeys F (ensure host directory d days force) :=
  .bind h fun _ => .bind (.log _ _ _) fun _ => .bind (.count _) fun _ => .pure _

theorem ensure_within (directory : Path) (days : Option Int) (force : Bool) :
    Obeys (.within (stalePlaces directory.place) directory.above)
      (ensure host directory d days force : Stage σ Authority) :=
  ensure_obeys (acquire_obeys (.clear subset_rfl)
    (fun h => ⟨h.1.mono (AuthorityLayout.places_subset_stale _) subset_rfl, h.2⟩) days force)

/-- Where its directory is there a new authority makes none. -/
theorem ensure_inside (directory : Path) (days : Option Int) (force : Bool) :
    Obeys (.inside directory (stalePlaces directory.place))
      (ensure host directory d days force : Stage σ Authority) :=
  (ensure_within directory days force).mono fun h => ⟨h.1.of_isDirectory, h.2⟩

/-- An authority that is complete is loaded, where no new one is asked for. -/
theorem acquire_of_complete (host : Host) (d : AuthorityDescriptor) (days : Option Int) {w : World σ}
    (h : l.isComplete w.tree = true) : (acquire host l d days false).exec w = (load host l d).exec w := by
  unfold acquire
  rw [exec_bind, exec_tree]
  simp [h]

/-- A complete authority is left as it is, whether or not it can be loaded. -/
theorem ensure_of_complete (host : Host) (directory : Path) (days : Option Int) {w : World σ}
    (h : (AuthorityLayout.mk directory).isComplete w.tree = true) :
    ((ensure host directory d days false).exec w).2.tree = w.tree := by
  have hacquire := acquire_of_complete host d days h
  refine bind_outcome (P := fun v => v.tree = w.tree) (fun e w₁ he => ?_) fun a w₁ ha => ?_
  · rw [hacquire] at he
    exact (congrArg (·.2.tree) he).symm.trans (load_still w).1
  · rw [hacquire] at ha
    exact (congrArg (·.2.tree) ha).symm.trans (load_still w).1

/-! ## What a run that returned leaves -/

/-- The authority's files are there with the content that `a` carries, and its certificate is the
one in its file. -/
structure Stands (suite : Suite) (t : Tree) (a : Authority) : Prop where
  cert : t.read a.layout.cert = .ok a.certPem
  key : t.read a.layout.key = .ok a.keyPem
  csr : t.read a.layout.csr = .ok a.csrPem
  certificate : suite.readCertificate a.certPem = .ok a.certificate

theorem load_ok {w w' : World σ} {a : Authority} (h : (load host l d).exec w = (.ok a, w')) :
    a.layout = l ∧ a.origin = .file ∧ Stands host.suite w.tree a ∧
      (host.suite.readKey a.keyPem = .ok a.key ∧ a.key.public = a.certificate.body.publicKey) ∧ w'.tree = w.tree := by
  have hstill := (load_still.ran h).1
  unfold load at h
  obtain ⟨⟨keyPem, certPem, csrPem, key, certificate⟩, w₁, hread, hrest⟩ := bind_ok.mp h
  rw [catchFault_ok fun f w w' a hf => by simp at hf] at hread
  simp only [bind_ok, read_ok, crypto_ok, pure_ok, Prod.mk.injEq] at hread
  obtain ⟨_, _, ⟨hk, rfl⟩, _, _, ⟨hc, rfl⟩, _, _, ⟨hs, rfl⟩, _, _, ⟨hkey, rfl⟩, _, _, ⟨hcert, rfl⟩,
    ⟨rfl, rfl, rfl, rfl, rfl⟩, rfl⟩ := hread
  dsimp only at hrest
  split at hrest
  · simp at hrest
  next hsame =>
    simp only [bind_ok, log_ok, pure_ok] at hrest
    obtain ⟨_, _, rfl, rfl, rfl⟩ := hrest
    exact ⟨rfl, rfl, ⟨hc, hk, hs, hcert⟩, ⟨hkey, of_not_not hsame⟩, hstill⟩

/-- The key that a new authority gets. -/
def newKey (host : Host) (d : AuthorityDescriptor) (w : World σ) : Crypto.PrivateKey :=
  host.suite.newKey d.subject.key.kind (host.seed w.seeds)

/-- `a` is a new authority for `d` with the key `k`, and its files are in `t`. -/
structure Made (host : Host) (l : AuthorityLayout) (d : AuthorityDescriptor) (k : Crypto.PrivateKey) (t : Tree)
    (a : Authority) : Prop where
  layout : a.layout = l
  origin : a.origin = .generated
  key : a.key = k
  keyPem : a.keyPem = host.suite.keyPem k
  certPem : a.certPem = host.suite.certificatePem a.certificate
  certificate : ∃ serial name days stop, Name.ofSubject d.subject = .ok name ∧
    Period.endOf host.now days = .ok stop ∧
    host.suite.certify k (authorityBody host.suite serial name host.now stop k.public) = .ok a.certificate
  files : t.read l.cert = .ok a.certPem ∧ t.read l.key = .ok a.keyPem ∧ t.read l.csr = .ok a.csrPem

theorem places_apart (l : AuthorityLayout) :
    l.key.place ≠ l.cert.place ∧ l.key.place ≠ l.csr.place ∧ l.cert.place ≠ l.csr.place := by
  rw [l.place_key, l.place_cert, l.place_csr]
  simp [AuthorityLayout.keyName, AuthorityLayout.certName, AuthorityLayout.csrName]

theorem make_ok {days : Int} {w w' : World σ} {a : Authority}
    (h : (make host l d days).exec w = (.ok a, w')) : Made host l d (newKey host d w) w'.tree a := by
  unfold make at h
  obtain ⟨_, w₁, hmake, h⟩ := bind_ok.mp h
  obtain ⟨-, hw₁⟩ := makeDirectories_ok.mp hmake
  obtain ⟨_, w₂, hclear, h⟩ := bind_ok.mp h
  obtain ⟨_, -, hw₂⟩ := clear_ok.mp hclear
  have hseeds : w₂.seeds = w.seeds := by rw [hw₂, hw₁]
  clear hw₁ hw₂
  obtain ⟨seed, w₃, hseed, h⟩ := bind_ok.mp h
  obtain rfl : seed = host.seed w.seeds := (newSeed_ok.mp hseed).1.trans (by rw [hseeds])
  obtain ⟨name, w₄, hname, h⟩ := bind_ok.mp h
  obtain ⟨altNames, w₅, -, h⟩ := bind_ok.mp h
  obtain ⟨request, w₆, -, h⟩ := bind_ok.mp h
  obtain ⟨stop, w₇, hstop, h⟩ := bind_ok.mp h
  obtain ⟨seed, w₈, -, h⟩ := bind_ok.mp h
  obtain ⟨certificate, w₉, hcertify, h⟩ := bind_ok.mp h
  have hname := mapError_eq_ok.mp (crypto_ok.mp hname).1
  have hstop := mapError_eq_ok.mp (crypto_ok.mp hstop).1
  have hcertify := (crypto_ok.mp hcertify).1
  obtain ⟨_, w₁₀, hkey, h⟩ := bind_ok.mp h
  obtain ⟨t₁, hwriteKey, hw₁₀⟩ := write_ok.mp hkey
  obtain ⟨_, w₁₁, hmode, h⟩ := bind_ok.mp h
  obtain ⟨t₂, hsetMode, hw₁₁⟩ := change_ok.mp hmode
  obtain ⟨_, w₁₂, hcert, h⟩ := bind_ok.mp h
  obtain ⟨t₃, hwriteCert, hw₁₂⟩ := write_ok.mp hcert
  obtain ⟨_, w₁₃, hcsr, h⟩ := bind_ok.mp h
  obtain ⟨t₄, hwriteCsr, hw₁₃⟩ := write_ok.mp hcsr
  rw [hw₁₀] at hsetMode
  rw [hw₁₁] at hwriteCert
  rw [hw₁₂] at hwriteCsr
  obtain ⟨ha, hw'⟩ := pure_ok.mp h
  have htree : w'.tree = t₄ := by rw [hw', hw₁₃]
  -- each file stays as it was written while the others are
  obtain ⟨hkc, hks, hcs⟩ := places_apart l
  have hreads : t₄.read l.cert = .ok (host.suite.certificatePem certificate) ∧
      t₄.read l.key = .ok (host.suite.keyPem (newKey host d w)) ∧
      t₄.read l.csr = .ok (host.suite.requestPem request) :=
    ⟨(write_within hwriteCsr).read hcs (read_write hwriteCert), (write_within hwriteCsr).read hks
      ((write_within hwriteCert).read hkc (read_setMode hsetMode (read_write hwriteKey))), read_write hwriteCsr⟩
  rw [htree, ha]
  exact ⟨rfl, rfl, rfl, rfl, rfl, ⟨_, name, days, stop, hname, hstop, hcertify⟩, hreads⟩

theorem generate_ok {days : Int} {w w' : World σ} {a : Authority}
    (h : (generate host l d days).exec w = (.ok a, w')) : Made host l d (newKey host d w) w'.tree a := by
  unfold generate at h
  obtain ⟨_, w₁, hlog, h⟩ := bind_ok.mp h
  have hw₁ := log_ok.mp hlog
  obtain ⟨_, w₂, hmake, h⟩ := bind_ok.mp h
  rw [catchFault_ok fun f w w' a hf => by simp at hf] at hmake
  simp only [bind_ok, count_ok, log_ok, pure_ok] at h
  obtain ⟨_, _, rfl, _, _, rfl, rfl, rfl⟩ := h
  have hkey : newKey host d w₁ = newKey host d w := by rw [hw₁]; rfl
  have hmade := make_ok hmake
  rwa [hkey] at hmade

theorem Made.stands (hsuite : host.suite.ReadsAuthorities) {k : Crypto.PrivateKey} {t : Tree} {a : Authority}
    {seed : Bytes} (h : Made host l d k t a) (hk : k = host.suite.newKey d.subject.key.kind seed) :
    Stands host.suite t a := by
  obtain ⟨serial, name, days, stop, hname, hstop, hcertify⟩ := h.certificate
  subst hk
  obtain ⟨hcert, hkey, hcsr⟩ := h.files
  exact ⟨h.layout ▸ hcert, h.layout ▸ hkey, h.layout ▸ hcsr, h.certPem ▸ hsuite hname hstop hcertify⟩

section Ensured

variable {directory : Path} {days : Option Int} {w w' : World σ} {a : Authority}

theorem acquire_of_ensure (h : (ensure host directory d days force).exec w = (.ok a, w')) :
    ∃ w₁, (acquire host ⟨directory⟩ d days force).exec w = (.ok a, w₁) ∧ w'.tree = w₁.tree := by
  simp only [ensure, bind_ok, log_ok, count_ok, pure_ok] at h
  obtain ⟨_, w₁, h, _, _, rfl, _, _, rfl, rfl, rfl⟩ := h
  exact ⟨w₁, h, rfl⟩

/-- An authority that is complete is loaded, unless a new one is asked for. -/
theorem ensure_loads (h : (ensure host directory d days force).exec w = (.ok a, w'))
    (hload : force = false ∧ (AuthorityLayout.mk directory).isComplete w.tree = true) :
    ∃ w₁, (load host ⟨directory⟩ d).exec w = (.ok a, w₁) ∧ w'.tree = w₁.tree := by
  obtain ⟨w₁, h, ht⟩ := acquire_of_ensure h
  simp only [acquire, bind_ok, tree_ok] at h
  obtain ⟨_, w, ⟨rfl, rfl⟩, h⟩ := h
  rw [if_pos (by simpa using hload)] at h
  exact ⟨w₁, h, ht⟩

theorem ensure_loaded (h : (ensure host directory d days force).exec w = (.ok a, w'))
    (hload : force = false ∧ (AuthorityLayout.mk directory).isComplete w.tree = true) :
    a.layout = ⟨directory⟩ ∧ a.origin = .file ∧ Stands host.suite w.tree a ∧ w'.tree = w.tree := by
  obtain ⟨w₁, h, ht⟩ := ensure_loads h hload
  obtain ⟨hlayout, horigin, hstands, -, hsame⟩ := load_ok h
  exact ⟨hlayout, horigin, hstands, ht.trans hsame⟩

theorem ensure_made (h : (ensure host directory d days force).exec w = (.ok a, w'))
    (hload : ¬(force = false ∧ (AuthorityLayout.mk directory).isComplete w.tree = true)) :
    Made host ⟨directory⟩ d (newKey host d w) w'.tree a := by
  obtain ⟨w₁, h, ht⟩ := acquire_of_ensure h
  simp only [acquire, bind_ok, tree_ok] at h
  obtain ⟨_, w, ⟨rfl, rfl⟩, h⟩ := h
  rw [if_neg (by simpa using hload)] at h
  rw [ht]
  split at h
  · obtain ⟨_, w₂, hlog, h⟩ := bind_ok.mp h
    have hw₂ := log_ok.mp hlog
    have hkey : newKey host d w₂ = newKey host d w := by rw [hw₂]; rfl
    have hmade := generate_ok h
    rwa [hkey] at hmade
  · exact generate_ok h

/-- An authority that was loaded left the files as they were. -/
theorem ensure_ok (hsuite : host.suite.ReadsAuthorities)
    (h : (ensure host directory d days force).exec w = (.ok a, w')) :
    a.layout = ⟨directory⟩ ∧ Stands host.suite w'.tree a ∧
      (a.origin = .file ∧ w'.tree = w.tree ∨ a.origin = .generated) := by
  by_cases hload : force = false ∧ (AuthorityLayout.mk directory).isComplete w.tree = true
  · obtain ⟨hl, ho, hs, ht⟩ := ensure_loaded h hload
    exact ⟨hl, ht ▸ hs, .inl ⟨ho, ht⟩⟩
  · have hmade := ensure_made h hload
    exact ⟨hmade.layout, hmade.stands hsuite rfl, .inr hmade.origin⟩

end Ensured

end Authority

end ServiceTrust
