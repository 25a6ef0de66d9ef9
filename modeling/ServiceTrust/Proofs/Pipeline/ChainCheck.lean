/-
The check of a chain never fails. Whatever was in the directory of the authority, the authority that a call
returned signs with the key of its certificate; a certificate that is issued names that certificate's subject
and is signed with that key. So it verifies against the authority, and no build ends because one does not.
-/
import ServiceTrust.Proofs.Pipeline.BuildFailure
import ServiceTrust.Proofs.Register

namespace ServiceTrust

open Stage X509

/-! ## Signatures that verify -/

/-- A certificate that names an issuer, and that the issuer's key signed, verifies against it when it is read from
its file. -/
structure Suite.VerifiesOwn (suite : Suite) : Prop extends suite.Composes where
  verifies : ∀ ⦃key body issuer days certificate c⦄, suite.Owns key → suite.Names issuer.body.subject →
    issuer.body.publicKey = key.public → body.issuer = issuer.body.subject →
    Period.endOf body.notBefore days = .ok body.notAfter →
    suite.certify key body = .ok certificate → suite.readCertificate (suite.certificatePem certificate) = .ok c →
    suite.checkIssuer c issuer = .ok ()

/-! ## The check -/

namespace Issue

variable {σ : Type} {host : Host} {authority : Authority} {p : Profile} {role : Role} {m : Material}

/-- What was issued under an authority that a call returned verifies against it. -/
theorem issue_verifies {w w' : World σ} (hsuite : host.suite.VerifiesOwn) (hauthority : authority.Returned host.suite)
    (h : (issue host authority p role).exec w = (.ok m, w')) :
    ∃ c, host.suite.readCertificate m.certPem = .ok c ∧ host.suite.checkIssuer c authority.certificate = .ok () := by
  obtain ⟨key, request, certificate, hmade⟩ := issue_made h
  obtain ⟨serial, stop, hstop, hcertify⟩ := hmade.signed
  obtain ⟨c, hc⟩ := hmade.readable
  refine ⟨c, hc, ?_⟩
  rw [hmade.certPem] at hc
  exact hsuite.verifies hauthority.owns (hauthority.names hsuite.toComposes) (hauthority.same hsuite.toComposes) rfl
    hstop hcertify hc

theorem exec_isIssuedBy {c issuer : Certificate} (h : host.suite.checkIssuer c issuer = .ok ()) (w : World σ) :
    (isIssuedBy host c issuer).exec w = (.ok true, w) := by
  unfold isIssuedBy
  rw [h]
  rfl

theorem exec_checkChain {c : Certificate} (hc : host.suite.readCertificate m.certPem = .ok c)
    (h : host.suite.checkIssuer c authority.certificate = .ok ()) (w : World σ) :
    (checkChain host m authority).exec w = (.ok (), w) :=
  bind_ok.mpr ⟨c, w, crypto_ok.mpr ⟨hc, rfl⟩, bind_ok.mpr ⟨true, w, exec_isIssuedBy h w, rfl⟩⟩

end Issue

theorem Bundle.Setback.unbroken {host : Host} {executable password : String} {m : Material} {l : ServiceLayout}
    {e : PipelineError} (h : Setback host executable m l password e) : e.isChainBroken = false := by
  cases h with
  | tool _ h => cases h <;> rfl
  | _ => rfl

namespace Pipeline

variable {σ : Type} {host : Host} {s : Settings}

theorem buildRole_unbroken {authority : Authority} {p : Profile} {r : Role} (hsuite : host.suite.VerifiesOwn)
    (hauthority : authority.Returned host.suite) :
    FailsWithin (·.isChainBroken = false) (buildRole host s authority p r : Stage σ (Material × Bundle)) := by
  refine .bind_of_ok (Issue.issue_fails.mono fun _ h => h.unbroken) fun w m w' hissue => .bind ?_ fun _ =>
    .bind (Bundle.bundle_fails.mono fun _ ⟨_, h⟩ => h.unbroken) fun _ => .pure _
  obtain ⟨c, hc, hissuer⟩ := Issue.issue_verifies hsuite hauthority hissue
  intro v e v' he
  rw [Issue.exec_checkChain hc hissuer] at he
  cases he

/-- Under an authority that a call returned, whatever it found, every certificate that is issued verifies, and the
check of its chain passes. So no build fails for a broken chain. -/
theorem chain_check_never_fires (hsuite : host.suite.VerifiesOwn) :
    (∀ (authority : Authority) (p : Profile) (role : Role) (m : Material) (w w' : World σ),
      authority.Returned host.suite → (Issue.issue host authority p role).exec w = (.ok m, w') →
      (∃ c, host.suite.readCertificate m.certPem = .ok c ∧
        ∀ v : World σ, (Issue.isIssuedBy host c authority.certificate).exec v = (.ok true, v)) ∧
      ∀ v : World σ, (Issue.checkChain host m authority).exec v = (.ok (), v)) ∧
    ∀ (s : Settings) (force withTokenKeys : Bool) (w w' : World σ) (e : PipelineError),
      (build host s force withTokenKeys).exec w = (.error (.pipeline e), w') → e.isChainBroken = false := by
  constructor
  · intro authority p role m w w' hauthority h
    obtain ⟨c, hc, hissuer⟩ := Issue.issue_verifies hsuite hauthority h
    exact ⟨⟨c, hc, Issue.exec_isIssuedBy hissuer⟩, Issue.exec_checkChain hc hissuer⟩
  · intro s force withTokenKeys w w' e h
    exact build_fails (fun _ h => h.unbroken) (fun _ _ _ => buildRole_unbroken hsuite) h

theorem register_verifiesOwn (register : List Certificate) : (Register.suite register).VerifiesOwn where
  toComposes := Register.composes register
  verifies := by
    intro key body issuer days certificate c _ _ hkey hissuer _ hcertify hread
    obtain rfl := Except.ok.inj hcertify
    obtain rfl := Register.eq_of_read hread
    show (if body.issuer ≠ _ then _ else if _ then _ else _) = _
    rw [if_neg (not_not.mpr hissuer), hkey]
    exact if_pos rfl

/-- A certificate under an authority that was loaded verifies. A build fails here, since the register has none of
its certificates, but not for that. -/
theorem registered_chain_holds :
    (∃ (a : Authority) (m : Material) (c : Certificate) (w w' : World DryStore), a.Returned Register.installed.suite ∧
      (Issue.issue Register.installed a Register.service .peer).exec w = (.ok m, w') ∧
      Register.installed.suite.readCertificate m.certPem = .ok c ∧
      (Issue.isIssuedBy Register.installed c a.certificate).exec w' = (.ok true, w') ∧
      (Issue.checkChain Register.installed m a).exec w' = (.ok (), w')) ∧
    ∃ (e : PipelineError) (w' : World DryStore),
      (build Register.installed {}).exec Specimen.world = (.error (.pipeline e), w') ∧ e.isChainBroken = false := by
  obtain ⟨hissues, hbuilds⟩ := chain_check_never_fires (σ := DryStore)
    (show Register.installed.suite.VerifiesOwn from register_verifiesOwn Register.register)
  constructor
  · obtain ⟨a, m, w, w', hreturned, -, -, hissue⟩ := Register.exists_laterIssue
    obtain ⟨⟨c, hc, hissued⟩, hchecked⟩ := hissues a Register.service .peer m w w' hreturned hissue
    exact ⟨a, m, c, w, w', hreturned, hissue, hc, hissued w', hchecked w'⟩
  · have hfails : ((build Register.installed {}).exec Specimen.world).1.map (fun _ => ()) =
        .error (.pipeline (.notIssued "a" .server Register.service.layout ({} : Settings).authorityLayout
          (.crypto .unreadableCertificate))) := by decide +kernel
    rcases h : (build Register.installed {}).exec Specimen.world with ⟨e | result, w'⟩
    · rw [h] at hfails
      obtain rfl := Except.error.inj hfails
      exact ⟨_, w', rfl, hbuilds {} false true _ w' _ h⟩
    · rw [h] at hfails
      cases hfails

end Pipeline

end ServiceTrust
