/-
The authority that is there already. A call that finds all three files and does not ask for a new authority
only reads them: it returns what they hold exactly when the certificate and the key can be read and belong
together, and fails otherwise. What a call generates can be read and belongs together, so every later call,
whatever its descriptor and its period, returns the same three files, and the root of trust does not change.
-/
import ServiceTrust.Proofs.Pipeline.AuthorityFailure
import ServiceTrust.Proofs.Pipeline.Issue

namespace ServiceTrust

open Stage ServiceTrust.Tree X509

/-- The contents of the three files of an authority. -/
structure Pems where
  cert : Bytes
  key : Bytes
  csr : Bytes

/-- The files of the authority are there, with these contents. -/
def AuthorityLayout.Holds (l : AuthorityLayout) (t : Tree) (pems : Pems) : Prop :=
  t.read l.cert = .ok pems.cert ∧ t.read l.key = .ok pems.key ∧ t.read l.csr = .ok pems.csr

theorem AuthorityLayout.Holds.unique {l : AuthorityLayout} {t : Tree} {files others : Pems} (h : l.Holds t files)
    (h' : l.Holds t others) : files = others := by
  obtain ⟨hcert, hkey, hcsr⟩ := h
  obtain ⟨hcert', hkey', hcsr'⟩ := h'
  have hc := Except.ok.inj (hcert.symm.trans hcert')
  have hk := Except.ok.inj (hkey.symm.trans hkey')
  have hs := Except.ok.inj (hcsr.symm.trans hcsr')
  cases files
  cases others
  simp_all

theorem AuthorityLayout.isComplete_iff {l : AuthorityLayout} {t : Tree} :
    l.isComplete t = true ↔ ∃ pems, l.Holds t pems := by
  simp only [isComplete, Bool.and_eq_true, isFile_iff_read]
  constructor
  · rintro ⟨⟨⟨cert, hcert⟩, key, hkey⟩, csr, hcsr⟩
    exact ⟨⟨cert, key, csr⟩, hcert, hkey, hcsr⟩
  · rintro ⟨pems, hcert, hkey, hcsr⟩
    exact ⟨⟨⟨_, hcert⟩, _, hkey⟩, _, hcsr⟩

/-- What was made for a new authority can be loaded: its key and its certificate are read back from their
files, and the certificate is for the key that it was asked for. -/
structure Suite.ReloadsAuthorities (suite : Suite) : Prop where
  key : ∀ (spec : KeySpec) (seed : Bytes),
    suite.readKey (suite.keyPem (suite.newKey spec.kind seed)) = .ok (suite.newKey spec.kind seed)
  certificate : suite.ReadsAuthorities
  publicKey : ∀ ⦃spec : KeySpec⦄ ⦃seed serial name start stop certificate⦄,
    suite.certify (suite.newKey spec.kind seed) (authorityBody suite serial name start stop
      (suite.newKey spec.kind seed).public) = .ok certificate →
    certificate.body.publicKey = (suite.newKey spec.kind seed).public

namespace Authority

def pems (a : Authority) : Pems := ⟨a.certPem, a.keyPem, a.csrPem⟩

variable {σ : Type} {host : Host} {l : AuthorityLayout} {d : AuthorityDescriptor} {directory : Path}
  {days : Option Int} {files : Pems} {w w' : World σ}

/-! ## One call -/

/-- Loading succeeds exactly when the files are there and belong together. -/
theorem load_returns : (∃ a w', (load host l d).exec w = (.ok a, w')) ↔
    ∃ files, l.Holds w.tree files ∧ host.suite.Pairs files.cert files.key := by
  constructor
  · rintro ⟨a, w', h⟩
    obtain ⟨rfl, -, hstands, ⟨hkey, hsame⟩, -⟩ := load_ok h
    exact ⟨a.pems, ⟨hstands.cert, hstands.key, hstands.csr⟩, a.certificate, a.key, hstands.certificate, hkey, hsame⟩
  · rintro ⟨files, ⟨hc, hk, hs⟩, certificate, key, hcertificate, hkey, hsame⟩
    unfold load
    rw [exec_bind, (catchFault_ok fun f w w' a hf => by simp at hf).mpr
      (show Stage.exec _ w = (.ok (files.key, files.cert, files.csr, key, certificate), w) from ?reading)]
    case reading => simp [bind_ok, hc, hk, hs, hkey, hcertificate]
    dsimp only
    rw [if_neg (not_not.mpr hsame)]
    exact ⟨_, _, rfl⟩

/-- Where the files are there, a call returns exactly when they can be loaded. -/
theorem ensure_returns (host : Host) (d : AuthorityDescriptor) (days : Option Int)
    (hthere : (AuthorityLayout.mk directory).isComplete w.tree = true) :
    (∃ a w', (ensure host directory d days false).exec w = (.ok a, w')) ↔
      ∃ a w', (load host ⟨directory⟩ d).exec w = (.ok a, w') := by
  have hacquire := acquire_of_complete host d days hthere
  constructor
  · rintro ⟨a, w', h⟩
    obtain ⟨w₁, h, -⟩ := acquire_of_ensure h
    exact ⟨a, w₁, hacquire ▸ h⟩
  · rintro ⟨a, w', h⟩
    unfold ensure
    rw [exec_bind, hacquire, h]
    exact ⟨_, _, rfl⟩

/-- A call that finds the files there and asks for no new ones changes nothing; it returns what they hold if
they belong together, and fails otherwise. -/
theorem ensure_reuses (host : Host) (d : AuthorityDescriptor) (days : Option Int)
    (hfiles : (AuthorityLayout.mk directory).Holds w.tree files) :
    ((ensure host directory d days false).exec w).2.tree = w.tree ∧
    (host.suite.Pairs files.cert files.key → ∃ a w', (ensure host directory d days false).exec w = (.ok a, w') ∧
      a.pems = files ∧ a.origin = .file) ∧
    (¬ host.suite.Pairs files.cert files.key → ∃ p w',
      (ensure host directory d days false).exec w = (.error (.pipeline p), w') ∧ p.kind = .generation) := by
  have hthere := AuthorityLayout.isComplete_iff.mpr ⟨files, hfiles⟩
  have hreturns := (ensure_returns host d days hthere).trans load_returns
  refine ⟨ensure_of_complete host directory days hthere, fun hpairs => ?_, fun hpairs => ?_⟩
  · obtain ⟨a, w', h⟩ := hreturns.mpr ⟨files, hfiles, hpairs⟩
    obtain ⟨hlayout, horigin, hstands, -⟩ := ensure_loaded h ⟨rfl, hthere⟩
    have hpems : (AuthorityLayout.mk directory).Holds w.tree a.pems :=
      ⟨hlayout ▸ hstands.cert, hlayout ▸ hstands.key, hlayout ▸ hstands.csr⟩
    exact ⟨a, w', h, hpems.unique hfiles, horigin⟩
  · -- a call that returned would have found a key and a certificate that belong together
    rcases h : (ensure host directory d days false).exec w with ⟨e | a, w'⟩
    · obtain ⟨⟨p, rfl, hp⟩, -⟩ := acquire_error (acquire_of_ensure_error h)
      exact ⟨p, w', rfl, hp⟩
    · obtain ⟨others, hothers, hpairs'⟩ := hreturns.mp ⟨a, w', h⟩
      exact absurd (hothers.unique hfiles ▸ hpairs') hpairs

/-! ## Later calls -/

/-- A call that asks for no new authority. -/
structure Call where
  host : Host
  descriptor : AuthorityDescriptor
  days : Option Int

def Call.run (directory : Path) (c : Call) : Stage σ Authority := ensure c.host directory c.descriptor c.days false

/-- Where the files belong together, any number of calls return them all and leave them as they are. -/
theorem calls_reuse {suite : Suite} (hpairs : suite.Pairs files.cert files.key) (calls : List Call)
    (hsuite : ∀ c ∈ calls, c.host.suite = suite) (hfiles : (AuthorityLayout.mk directory).Holds w.tree files) :
    ∃ as w', (calls.mapM (Call.run directory)).exec w = (.ok as, w') ∧ w'.tree = w.tree ∧
      as.map pems = calls.map fun _ => files := by
  induction calls generalizing w with
  | nil => exact ⟨[], w, rfl, rfl, rfl⟩
  | cons c calls ih =>
    obtain ⟨hsame, hreturns, -⟩ := ensure_reuses c.host c.descriptor c.days hfiles
    obtain ⟨a, w₁, h, ha, -⟩ := hreturns (hsuite c (List.mem_cons_self ..) ▸ hpairs)
    rw [h] at hsame
    obtain ⟨as, w', hrest, ht, has⟩ := ih (fun c hc => hsuite c (List.mem_cons_of_mem _ hc)) (hsame ▸ hfiles)
    refine ⟨a :: as, w', ?_, ht.trans hsame, by rw [List.map_cons, List.map_cons, ha, has]⟩
    rw [List.mapM_cons]
    exact bind_ok.mpr ⟨a, w₁, h, bind_ok.mpr ⟨as, w', hrest, pure_ok.mpr ⟨rfl, rfl⟩⟩⟩

/-- The files of a new authority are there, and belong together. -/
theorem Made.reloads {k : Crypto.PrivateKey} {t : Tree} {a : Authority} {seed : Bytes}
    (hsuite : host.suite.ReloadsAuthorities) (h : Made host l d k t a)
    (hk : k = host.suite.newKey d.subject.key.kind seed) :
    l.Holds t a.pems ∧ host.suite.Pairs a.certPem a.keyPem := by
  have hstands := h.stands hsuite.certificate hk
  obtain ⟨serial, name, days, stop, -, -, hcertify⟩ := h.certificate
  subst hk
  refine ⟨h.files, a.certificate, _, hstands.certificate, ?_, (hsuite.publicKey hcertify).symm⟩
  rw [h.keyPem]
  exact hsuite.key _ _

/-- An authority that is there is only read, by every call that does not ask for a new one: the call returns
it exactly if its certificate and key can be read and belong together. One that was generated is returned by
every later call. -/
theorem reuse_is_read_only_and_stable (directory : Path) :
    (∀ (host : Host) (d : AuthorityDescriptor) (days : Option Int) (w : World σ),
      (AuthorityLayout.mk directory).isComplete w.tree = true →
      ((ensure host directory d days false).exec w).2.tree = w.tree ∧
      ∃ files : Pems, (AuthorityLayout.mk directory).Holds w.tree files ∧
        (host.suite.Pairs files.cert files.key →
          ∃ a w', (ensure host directory d days false).exec w = (.ok a, w') ∧ a.pems = files ∧ a.origin = .file) ∧
        (¬ host.suite.Pairs files.cert files.key → ∃ p w',
          (ensure host directory d days false).exec w = (.error (.pipeline p), w') ∧ p.kind = .generation)) ∧
    (∀ (host : Host) (d : AuthorityDescriptor) (days : Option Int) (force : Bool) (w w' : World σ) (a : Authority),
      host.suite.ReloadsAuthorities → (ensure host directory d days force).exec w = (.ok a, w') →
      a.origin = .generated → ∀ calls : List Call, (∀ c ∈ calls, c.host.suite = host.suite) →
        ∃ as w'', (calls.mapM (Call.run directory)).exec w' = (.ok as, w'') ∧ w''.tree = w'.tree ∧
          as.map pems = calls.map fun _ => a.pems) := by
  constructor
  · intro host d days w hthere
    obtain ⟨files, hfiles⟩ := AuthorityLayout.isComplete_iff.mp hthere
    obtain ⟨hsame, hreturns, hfails⟩ := ensure_reuses host d days hfiles
    exact ⟨hsame, files, hfiles, hreturns, hfails⟩
  · intro host d days force w w' a hsuite h horigin calls hcalls
    -- an authority that was loaded does not say that it was generated
    have hmade := ensure_made h fun hload => by
      have hloaded := (ensure_loaded h hload).2.1
      rw [horigin] at hloaded
      cases hloaded
    obtain ⟨hfiles, hpairs⟩ := hmade.reloads hsuite rfl
    exact calls_reuse hpairs calls hcalls hfiles

theorem specimen_reloads : Specimen.suite.ReloadsAuthorities where
  key := Specimen.keepsKeys.key
  certificate := Specimen.readsAuthorities
  publicKey := by
    intro spec seed serial name start stop certificate h
    obtain rfl := Except.ok.inj h
    rfl

def specimenDirectory : Path := ({} : Settings).authorityLayout.directory

/-- An authority of which nothing is wanted but the name. -/
def named (name : String) : AuthorityDescriptor := ⟨⟨name, [], .standard, []⟩, none, {}⟩

/-- Calls for other authorities; the second could make none, for want of a name and of a last day. -/
def otherCalls : List Call :=
  [⟨Specimen.host, named "other", none⟩, ⟨Specimen.host, named "", some 1000000000000⟩]

/-- The authority of an installation is returned to a call for another one. When it is replaced, the new one
is what two later calls return. -/
theorem specimen_authority_reused :
    (∃ a w', (ensure Specimen.host specimenDirectory (named "other") none false).exec
        (Specimen.settled 9) = (.ok a, w') ∧ w'.tree = (Specimen.settled 9).tree ∧
      a.pems = ⟨Specimen.certificatePem (Specimen.certificate 9 9), Specimen.suite.keyPem (Specimen.key 9), [3]⟩) ∧
    ∃ a w' as w'', (ensure Specimen.host specimenDirectory (named "root") none true).exec
        (Specimen.settled 9) = (.ok a, w') ∧
      (otherCalls.mapM (Call.run specimenDirectory)).exec w' = (.ok as, w'') ∧ w''.tree = w'.tree ∧
      as.map pems = [a.pems, a.pems] := by
  obtain ⟨hreuse, hstable⟩ := reuse_is_read_only_and_stable (σ := DryStore) specimenDirectory
  constructor
  · obtain ⟨hsame, files, hfiles, hreturns, -⟩ := hreuse Specimen.host (named "other") none
      (Specimen.settled 9) (by decide +kernel)
    have hheld : ({} : Settings).authorityLayout.Holds (Specimen.settled 9).tree
        ⟨Specimen.certificatePem (Specimen.certificate 9 9), Specimen.suite.keyPem (Specimen.key 9), [3]⟩ := by
      refine ⟨?_, ?_, ?_⟩ <;> decide +kernel
    obtain rfl := hfiles.unique hheld
    obtain ⟨a, w', h, ha, -⟩ := hreturns ⟨_, _, Specimen.readCertificate_pem 9 9, rfl, rfl⟩
    rw [h] at hsame
    exact ⟨a, w', h, hsame, ha⟩
  · have hmakes : ((ensure Specimen.host specimenDirectory (named "root") none true).exec
        (Specimen.settled 9)).1.toOption.map (·.origin) = some .generated := by decide +kernel
    rcases h : (ensure Specimen.host specimenDirectory (named "root") none true).exec
      (Specimen.settled 9) with ⟨e | a, w'⟩
    · rw [h] at hmakes
      cases hmakes
    · rw [h] at hmakes
      obtain ⟨as, w'', hcalls, hsame, has⟩ := hstable Specimen.host _ none true (Specimen.settled 9) w' a
        specimen_reloads h (Option.some.inj hmakes) otherCalls (by simp [otherCalls])
      exact ⟨a, w', as, w'', rfl, hcalls, hsame, has⟩

end Authority

end ServiceTrust
