/-
How builds fail. Every step of a build but the last two of a role ends in failures of its own alone; issuing is
followed by the check of the chain, and packing runs the tool. What the failures of a role are, so are those of
a build.
-/
import ServiceTrust.Proofs.Pipeline.AuthorityKey
import ServiceTrust.Proofs.Pipeline.BundleFailure
import ServiceTrust.Proofs.Pipeline.Discovery

namespace ServiceTrust

open Stage Keystore

namespace PipelineError

/-- The failure is about nothing that was handed on: not a run of the tool, nor a request to a store. -/
def isOwn : PipelineError → Bool
  | .toolNotStarted _ _ _ | .toolFailed _ _ _ _ _ | .store _ _ => false
  | _ => true

/-- It tells that a certificate does not verify against its authority. -/
def isChainBroken : PipelineError → Bool
  | .chainBroken _ _ _ _ => true
  | _ => false

/-- A failure of this program's own steps, other than the check of a chain. -/
structure Plain (e : PipelineError) : Prop where
  isOwn : e.isOwn = true
  unbroken : e.isChainBroken = false

end PipelineError

open PipelineError

variable {σ : Type} {host : Host} {s : Settings}

/-! ## Steps -/

namespace Keystore

theorem locate_fails (executable : String) : FailsWithin Plain (locate host executable : Stage σ String) :=
  .bind .tree fun t => by
    cases find? t host.searchPath executable with
    | some place => exact .pure _
    | none => exact .fail ⟨rfl, rfl⟩

end Keystore

namespace Authority

variable {l : AuthorityLayout} {d : AuthorityDescriptor} {force : Bool}

theorem load_fails : FailsWithin Plain (load host l d : Stage σ Authority) := by
  refine .bind (.catchFault ?_ fun _ => .bind (.log _ _ _) fun _ => .fail ⟨rfl, rfl⟩) fun _ => ?_
  · exact .bind (.read _) fun _ => .bind (.read _) fun _ => .bind (.read _) fun _ =>
      .bind (.crypto _) fun _ => .bind (.crypto _) fun _ => .pure _
  · exact .ite (fun _ => .bind (.fail ⟨rfl, rfl⟩) fun _ => .bind (.log _ _ _) fun _ => .pure _)
      fun _ => .bind (.log _ _ _) fun _ => .pure _

theorem make_fails (days : Int) : FailsWithin Plain (make host l d days : Stage σ Authority) :=
  .bind (.makeDirectories _) fun _ => .bind (.clear _) fun _ => .bind (.newSeed host) fun _ =>
    .bind (.crypto _) fun _ => .bind (.crypto _) fun _ => .bind (.crypto _) fun _ => .bind (.crypto _) fun _ =>
    .bind (.newSeed host) fun _ => .bind (.crypto _) fun _ => .bind (.write _ _) fun _ => .bind (.change _) fun _ =>
    .bind (.write _ _) fun _ => .bind (.write _ _) fun _ => .pure _

theorem generate_fails (days : Int) : FailsWithin Plain (generate host l d days : Stage σ Authority) :=
  .bind (.log _ _ _) fun _ =>
    .bind ((make_fails days).catchFault fun _ => .bind (.log _ _ _) fun _ => .fail ⟨rfl, rfl⟩) fun _ =>
    .bind (.count _) fun _ => .bind (.log _ _ _) fun _ => .pure _

theorem ensure_fails (directory : Path) (days : Option Int) (force : Bool) :
    FailsWithin Plain (ensure host directory d days force : Stage σ Authority) := by
  refine .bind (.bind .tree fun t => ?_) fun _ => .bind (.log _ _ _) fun _ => .bind (.count _) fun _ => .pure _
  exact .ite (fun _ => load_fails) fun _ =>
    .ite (fun _ => .bind (.log _ _ _) fun _ => generate_fails _) fun _ => generate_fails _

end Authority

namespace Issue

variable {authority : Authority} {p : Profile} {role : Role}

theorem make_fails :
    FailsWithin Plain (make host authority p role : Stage σ (Material × X509.Certificate)) := by
  have hsign (r : X509.Request) (days : Int) :
      FailsWithin Plain (sign host authority r role days : Stage σ X509.Certificate) :=
    .bind (.crypto _) fun _ => .bind (.newSeed host) fun _ => .crypto _
  exact .bind (.newSeed host) fun _ => .bind (.crypto _) fun _ => .bind (.crypto _) fun _ =>
    .bind (.crypto _) fun _ => .bind (hsign _ _) fun _ => .bind (.makeDirectories _) fun _ =>
    .bind (.write _ _) fun _ => .bind (.change _) fun _ => .bind (.write _ _) fun _ =>
    .bind (.write _ _) fun _ => .bind (.crypto _) fun _ => .pure _

theorem issue_fails : FailsWithin Plain (issue host authority p role : Stage σ Material) :=
  .bind (make_fails.catchFault fun _ => .bind (.log _ _ _) fun _ => .fail ⟨rfl, rfl⟩) fun _ =>
    .bind (.count _) fun _ => .bind (.log _ _ _) fun _ => .pure _

/-- The check of a chain has no failure but its own. -/
theorem checkChain_fails (m : Material) :
    FailsWithin (·.isOwn = true) (checkChain host m authority : Stage σ Unit) := by
  have hissued (certificate issuer : X509.Certificate) :
      FailsWithin (·.isOwn = true) (isIssuedBy host certificate issuer : Stage σ Bool) := by
    unfold isIssuedBy
    split
    · exact .pure _
    · exact .bind (.log _ _ _) fun _ => .pure _
  exact .bind (.crypto _) fun _ => .bind (hissued _ _) fun _ => .ite (fun _ => .fail rfl) fun _ => .pure _

end Issue

namespace Bundle

/-- Packing ends in its setbacks. -/
theorem bundle_fails {m : Material} : FailsWithin
    (fun e => ∃ password, Setback host s.keytool m ⟨m.certPath.parent⟩ password e)
    (bundle host s m : Stage σ Bundle) := by
  intro w e w' h
  have hends := bundle_ends host s m w
  rw [h] at hends
  exact ⟨_, hends.2.1⟩

end Bundle

namespace TokenKeys

theorem ensure_fails (directory : Path) (force : Bool) :
    FailsWithin Plain (ensure host directory force : Stage σ TokenKeys) := by
  have hexisting (path : Path) : FailsWithin Plain (checkExisting host path : Stage σ Unit) := by
    refine .bind (.catchFault (.bind (.read _) fun _ => .crypto _) fun _ => .fail ⟨rfl, rfl⟩) fun key => ?_
    cases key with
    | ec => exact .pure _
    | rsa => exact .fail ⟨rfl, rfl⟩
  refine .bind .tree fun t => .ite (fun _ => ?_) fun _ => ?_
  · exact .bind (hexisting _) fun _ => .bind (.log _ _ _) fun _ => .pure _
  · refine .bind (.catchFault ?_ fun _ => .fail ⟨rfl, rfl⟩) fun _ => .bind (.log _ _ _) fun _ => .pure _
    exact .bind (.makeDirectories _) fun _ => .bind (.newSeed host) fun _ =>
      .bind (.write _ _) fun _ => .bind (.change _) fun _ => .write _ _

end TokenKeys

namespace Pipeline

theorem authorityDescriptor_fails :
    FailsWithin Plain (authorityDescriptor s : Stage σ AuthorityDescriptor) := by
  refine .bind .tree fun t => ?_
  split
  · exact .pure _
  · exact .ite (fun _ => .fail ⟨rfl, rfl⟩) fun _ => .throwFault _

theorem discover_fails (space : String) : FailsWithin Plain (discover s space : Stage σ (List Profile)) := by
  intro w e w' h
  obtain ⟨log, hdiscover⟩ := exec_discover s space w
  rw [hdiscover] at h
  -- a fault that is not described is not told, and so is no pipeline failure
  rcases hps : Discovery.profilesIn w.tree s.tlsDirectory space s.defaultSpace with f | ps
  · rw [hps] at h
    simp only [Except.mapError, servicesFailure, Prod.mk.injEq, Except.error.injEq] at h
    obtain ⟨h, -⟩ := h
    split at h
    · cases h
      exact ⟨rfl, rfl⟩
    · cases h
  · rw [hps] at h
    cases h

/-- A build fails as its other steps and its roles do, each under the authority that a call returned. -/
theorem build_fails {Q : PipelineError → Prop} {force withTokenKeys : Bool} (hplain : ∀ e, Plain e → Q e)
    (hrole : ∀ authority p r, authority.Returned host.suite →
      FailsWithin Q (buildRole host s authority p r : Stage σ (Material × Bundle))) :
    FailsWithin Q (build host s force withTokenKeys : Stage σ BuildResult) := by
  have hservice (authority : Authority) (p : Profile) (h : authority.Returned host.suite) :
      FailsWithin Q (buildService host s authority p : Stage σ (List (Material × Bundle))) :=
    .bind (.clear _) fun _ => .mapM fun r _ => hrole authority p r h
  have hall : FailsWithin Q (buildAll host s force withTokenKeys : Stage σ BuildResult) :=
    .bind ((locate_fails _).mono hplain) fun _ => .bind (authorityDescriptor_fails.mono hplain) fun _ =>
      .bind_of_ok ((Authority.ensure_fails _ _ _).mono hplain) fun _ authority _ hensure =>
      .bind ((discover_fails _).mono hplain) fun _ =>
      .bind (.mapM fun p _ => hservice authority p ⟨_, _, _, _, _, _, _, _, rfl, hensure⟩) fun _ =>
      .ite (fun _ => .bind (.map _ ((TokenKeys.ensure_fails _ _).mono hplain)) fun _ => .pure _)
        fun _ => .bind (.pure _) fun _ => .pure _
  exact .bind hall.counted fun _ => .bind (.log _ _ _) fun _ => .pure _

end Pipeline

end ServiceTrust
