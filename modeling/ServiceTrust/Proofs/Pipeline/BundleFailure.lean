/-
How the packing of a role fails. The old stores are removed before anything is caught: where one of them
cannot be removed, because a directory stands in its place or a file on the way to it, the packing ends in
that plain fault. Anywhere else it returns, or fails as one of its `Setback`s: a command of the tool that
did not start or did not end well, a store that is not what it should be, or a plain fault that is told as
a failure to bundle.
-/
import ServiceTrust.Proofs.Failing
import ServiceTrust.Proofs.Pipeline.Assurance

namespace ServiceTrust

open Stage ServiceTrust.Tree Keystore

namespace Keystore

variable {σ : Type} {host : Host} {executable : String} {c : Command}

/-- How a run of the command `c` of the tool fails: it was not started, or it ended with another status than
zero. -/
inductive Command.Failed (host : Host) (executable : String) (c : Command) : PipelineError → Prop
  | notStarted {n : Nat} {t t' : Tree} {reason : String}
    (h : host.tool n (c.argv executable) t = (.notStarted reason, t')) :
    Failed host executable c (.toolNotStarted executable reason c.operation)
  | ended {n : Nat} {t t' : Tree} {status : Int} {output errors : String}
    (h : host.tool n (c.argv executable) t = (.finished status output errors, t')) (hs : status ≠ 0) :
    Failed host executable c
      (.toolFailed status (complaint output errors) c.operation (masked (c.argv executable)) c.store)

theorem settle_fails {n : Nat} {t t' : Tree} {reply : ToolReply}
    (h : host.tool n (c.argv executable) t = (reply, t')) :
    FailsWithin (c.Failed host executable) (settle executable c reply : Stage σ String) := by
  cases reply with
  | notStarted reason => exact .fail (.notStarted h)
  | finished status output errors =>
    exact .ite (fun _ => .pure _) fun hs => .bind (.log _ _ _) fun _ => .fail (.ended h hs)

theorem run_fails : FailsWithin (c.Failed host executable) (run host executable c : Stage σ String) := by
  intro w e w' h
  rw [exec_run] at h
  exact settle_fails (Prod.ext rfl rfl) h

end Keystore

namespace Bundle

variable {σ : Type} {host : Host} {s : Settings} {m : Material} {l : ServiceLayout}
  {executable password : String}

/-! ## Making the stores -/

/-- A failure of packing that tells what went wrong. -/
inductive Setback (host : Host) (executable : String) (m : Material) (l : ServiceLayout) (password : String) :
    PipelineError → Prop
  | tool {c : Command} {e : PipelineError} (hc : c ∈ commands l m password) (h : c.Failed host executable e) :
    Setback host executable m l password e
  | locked : Setback host executable m l password (.keystoreLocked (l.path m.role .keystoreP12))
  | withoutKey : Setback host executable m l password (.keystoreWithoutKey (l.path m.role .keystoreP12) m.service)
  | entries {store : Artifact × StoreType} (hstore : store ∈ truststores) (found : List String) :
    Setback host executable m l password (.truststoreEntries (l.path m.role store.1) store.2.name found)
  | fingerprint {store : Artifact × StoreType} (hstore : store ∈ truststores) (expected : String)
    (found : Option String) : Setback host executable m l password
      (.truststoreFingerprint (l.path m.role store.1) store.2.name expected found)
  | fault (f : Fault) : Setback host executable m l password (.notBundled m.service m.role l f)

/-- Only a tool that did not start is told as one that was not found. -/
theorem Setback.kind {e : PipelineError} (h : Setback host executable m l password e) :
    e.kind = .generation ∨ e.kind = .toolNotFound ∧
      ∃ c ∈ commands l m password, ∃ n t t' reason, host.tool n (c.argv executable) t = (.notStarted reason, t') := by
  cases h with
  | tool hc h =>
    cases h with
    | notStarted h => exact .inr ⟨rfl, _, hc, _, _, _, _, h⟩
    | ended => exact .inl rfl
  | locked => exact .inl rfl
  | withoutKey => exact .inl rfl
  | entries => exact .inl rfl
  | fingerprint => exact .inl rfl
  | fault => exact .inl rfl

theorem writeKeystore_fails {Q : PipelineError → Prop} (path : Path) :
    FailsWithin Q (writeKeystore host m password path : Stage σ Unit) :=
  .bind (.crypto _) fun _ => .bind (.crypto _) fun _ => .bind (.crypto _) fun _ =>
    .bind (.newSeed host) fun _ => .write _ _

theorem verifyKeystore_fails : FailsWithin (Setback host executable m l password)
    (verifyKeystore host (l.path m.role .keystoreP12) m.service password : Stage σ Unit) := by
  refine .bind (.read _) fun bytes => ?_
  split
  · exact .fail .locked
  · exact .ite (fun _ => .fail .withoutKey) fun _ => .pure _

theorem verifyTruststore_fails {store : Artifact × StoreType} (hstore : store ∈ truststores)
    (hc : .listEntries (l.path m.role store.1) password store.2.name ∈ commands l m password)
    (fingerprint : String) : FailsWithin (Setback host executable m l password)
      (verifyTruststore host executable (l.path m.role store.1) password store.2 fingerprint : Stage σ Unit) := by
  refine .bind (.bind (run_fails.mono fun _ => .tool hc) fun _ => .pure _) fun es => ?_
  dsimp only
  split
  · exact .ite (fun _ => .fail (.entries hstore _)) fun _ =>
      .ite (fun _ => .fail (.fingerprint hstore _ _)) fun _ => .pure _
  · exact .fail (.entries hstore _)

theorem convert_fails (fingerprint : String) : FailsWithin (Setback host executable m l password)
    (convert host executable m l password fingerprint (l.authorityFile m.role) : Stage σ Unit) := by
  have hrun {c : Command} (hc : c ∈ commands l m password) :
      FailsWithin (Setback host executable m l password) (run host executable c : Stage σ String) :=
    run_fails.mono fun _ => .tool hc
  have himport {c : Command} (hc : c ∈ commands l m password) :
      FailsWithin (Setback host executable m l password)
        (do let _ ← run host executable c : Stage σ Unit) := .bind (hrun hc) fun _ => .pure _
  have hverify (store : Artifact × StoreType) (hstore : store ∈ truststores)
      (hc : .listEntries (l.path m.role store.1) password store.2.name ∈ commands l m password) :
      FailsWithin (Setback host executable m l password)
        (verifyTruststore host executable (l.path m.role store.1) password store.2 fingerprint : Stage σ Unit) :=
    verifyTruststore_fails hstore hc fingerprint
  exact .bind (.write _ _) fun _ => .bind (himport (by simp [commands_eq])) fun _ =>
    .bind (hverify (.truststoreP12, .pkcs12) (by simp [truststores]) (by simp [commands_eq])) fun _ =>
    .bind (hrun (by simp [commands_eq])) fun _ => .bind (.write _ _) fun _ =>
    .bind (himport (by simp [commands_eq])) fun _ => .bind (himport (by simp [commands_eq])) fun _ =>
    .bind (himport (by simp [commands_eq])) fun _ =>
    hverify (.truststoreJks, .jks) (by simp [truststores]) (by simp [commands_eq])

theorem make_fails : FailsWithin (Setback host executable m l password)
    (make host executable m l password : Stage σ Unit) :=
  .bind (.write _ _) fun _ => .bind (writeKeystore_fails _) fun _ => .bind (.write _ _) fun _ =>
    .bind verifyKeystore_fails fun _ => .bind (.crypto _) fun _ => .andFinally (convert_fails _) (.change _)

/-! ## Removing the old stores -/

/-- The removal of files of a role returns where none of them is obstructed, and otherwise ends in the fault
of one that is. -/
theorem removal_ends (r : Role) (as : List Artifact) (w : World σ) :
    (∃ w', (as.forM fun a => change (·.unlinkIfPresent (l.path r a))).exec w = (.ok (), w') ∧
        ∀ a ∈ as, ¬ w.tree.Obstructed (l.path r a)) ∨
      ∃ a ∈ as, ∃ fault w', w.tree.Obstructed (l.path r a) ∧ fault.path = l.path r a ∧
        (as.forM fun a => change (·.unlinkIfPresent (l.path r a))).exec w = (.error (.fault (.file fault)), w') := by
  induction as generalizing w with
  | nil => exact .inl ⟨w, rfl, nofun⟩
  | cons a as ih =>
    rw [show (a :: as).forM (fun a => (change (·.unlinkIfPresent (l.path r a)) : Stage σ Unit)) =
      (change (·.unlinkIfPresent (l.path r a)) >>= fun _ => as.forM _) from rfl, exec_bind, exec_change]
    rcases ht : w.tree.unlinkIfPresent (l.path r a) with fault | t
    · obtain ⟨hobstructed, hpath⟩ := unlinkIfPresent_error ht
      exact .inr ⟨a, List.mem_cons_self .., fault, w, hobstructed, hpath, rfl⟩
    · dsimp only
      have hfree : ¬ w.tree.Obstructed (l.path r a) := by
        intro h
        obtain ⟨fault, hfault⟩ := unlinkIfPresent_of_obstructed h
        exact nomatch ht.symm.trans hfault
      -- the rest meets the same obstructions as before
      have hsame (b : Artifact) : t.Obstructed (l.path r b) ↔ w.tree.Obstructed (l.path r b) :=
        obstructed_sibling (isPart_fileName r a) (isPart_fileName r b) ht
      obtain ⟨w', hrest, hnone⟩ | ⟨b, hb, fault, w', hobstructed, hpath, hrest⟩ := ih { w with tree := t }
      · exact .inl ⟨w', hrest, List.forall_mem_cons.mpr ⟨hfree, fun b hb => (hsame b).not.mp (hnone b hb)⟩⟩
      · exact .inr ⟨b, List.mem_cons_of_mem _ hb, fault, w', (hsame b).mp hobstructed, hpath, hrest⟩

/-! ## Packing -/

/-- The password of the stores of `m`, in a run that has drawn some already. -/
def passwordOf (host : Host) (s : Settings) (m : Material) (w : World σ) : String :=
  (s.password? m.role).getD (host.token w.tokens)

theorem exec_passwordFor (host : Host) (s : Settings) (r : Role) (w : World σ) :
    ∃ w', (passwordFor host s r).exec w = (.ok ((s.password? r).getD (host.token w.tokens)), w') ∧
      w'.tree = w.tree := by
  unfold passwordFor
  cases s.password? r with
  | some password => exact ⟨w, rfl, rfl⟩
  | none => exact ⟨_, rfl, rfl⟩

/-- One of the stores of a role cannot be removed. -/
def Blocked (l : ServiceLayout) (r : Role) (t : Tree) : Prop := ∃ a ∈ storeArtifacts, t.Obstructed (l.path r a)

/-- How the packing of `m` in `l` ends, by the files that were there: it returns or tells its setback, unless a
store of the role cannot be removed, which is a plain fault. -/
def EndsFrom (host : Host) (executable : String) (m : Material) (l : ServiceLayout) (password : String) (t : Tree) :
    Except Failure Bundle → Prop
  | .ok _ => ¬ Blocked l m.role t
  | .error (.pipeline e) => ¬ Blocked l m.role t ∧ Setback host executable m l password e ∧
    (e.kind = .generation ∨ e.kind = .toolNotFound ∧
      ∃ c ∈ commands l m password, ∃ n t t' reason, host.tool n (c.argv executable) t = (.notStarted reason, t'))
  | .error (.fault f) => ∃ a ∈ storeArtifacts, t.Obstructed (l.path m.role a) ∧
    ∃ fault, f = .file fault ∧ fault.path = l.path m.role a

/-- A fault that comes up when the stores are made is told as a failure to bundle. -/
theorem making_error {w w' : World σ} {e : Failure} {about : List (String × Json)}
    (h : (catchFault (make host executable m l password) fun f => do
      log .error "bundle_failed" (about ++ [("error", .text f.message)])
      fail (.notBundled m.service m.role l f)).exec w = (.error e, w')) :
    ∃ p, e = .pipeline p ∧ Setback host executable m l password p := by
  obtain ⟨f, w₁, -, htold⟩ | ⟨p, rfl, hmake⟩ := catchFault_error.mp h
  · obtain hlog | ⟨_, _, -, hfail⟩ := bind_error.mp htold
    · exact (log_error.mp hlog).elim
    · obtain ⟨rfl, -⟩ := fail_error.mp hfail
      exact ⟨_, rfl, .fault f⟩
  · exact ⟨p, rfl, make_fails hmake⟩

theorem bundle_ends (host : Host) (s : Settings) (m : Material) (w : World σ) :
    EndsFrom host s.keytool m ⟨m.certPath.parent⟩ (passwordOf host s m w) w.tree ((bundle host s m).exec w).1 := by
  -- a password is drawn before anything is removed, and leaves the files as they were
  obtain ⟨v, hpassword, ht⟩ := exec_passwordFor host s m.role w
  unfold bundle
  rw [exec_bind, hpassword]
  dsimp only
  rw [exec_bind]
  obtain ⟨v', hremoved, hfree⟩ | ⟨a, ha, fault, v', hobstructed, hpath, hremoved⟩ :=
    removal_ends (l := ⟨m.certPath.parent⟩) m.role storeArtifacts v
  · have hfree : ¬ Blocked ⟨m.certPath.parent⟩ m.role w.tree := fun ⟨a, ha, h⟩ => hfree a ha (ht ▸ h)
    rw [hremoved]
    dsimp only
    rcases hrest : exec _ v' with ⟨e | b, w'⟩
    · obtain hmaking | ⟨_, w₁, -, htold⟩ := bind_error.mp hrest
      · obtain ⟨p, rfl, hp⟩ := making_error hmaking
        exact ⟨hfree, hp, hp.kind⟩
      · simp only [bind_error, count_error, log_error, pure_error, and_false, exists_false, or_false] at htold
    · exact hfree
  · rw [hremoved]
    exact ⟨a, ha, ht ▸ hobstructed, fault, rfl, hpath⟩

end Bundle

namespace Pipeline

variable {σ : Type}

/-- What becomes of a failed build: a pipeline failure is counted and told by the program, which ends with
status one; a plain fault ends the program. -/
def Reported (host : Host) (api : ClusterApi σ) (s : Settings) (options : CommandLine.BuildOptions)
    (w : World σ) : Failure → World σ → Prop
  | .pipeline e, w' => w'.events.getLast? = some (.failed e.kind) ∧
    (CommandLine.runWith host api s (.build options) w).1 = .ok ⟨1, [], CommandLine.failureLines e⟩
  | .fault f, _ => (CommandLine.runWith host api s (.build options) w).1 = .error f

theorem build_error_reported {host : Host} (api : ClusterApi σ) {s : Settings} {options : CommandLine.BuildOptions}
    {w w' : World σ} {e : Failure} (h : (build host s options.force).exec w = (.error e, w')) :
    Reported host api s options w e w' := by
  have hcommand : (CommandLine.runCommand host api s (.build options)).exec w = (.error e, w') := by
    unfold CommandLine.runCommand
    rw [exec_bind, h]
  cases e with
  | fault f =>
    unfold Reported
    rw [CommandLine.runWith_eq, hcommand]
  | pipeline e =>
    refine ⟨?_, by rw [CommandLine.runWith_eq, hcommand]⟩
    unfold build at h
    obtain h | ⟨_, _, -, h⟩ := bind_error.mp h
    · exact counted_error h
    · simp only [bind_error, log_error, pure_error, and_false, exists_false, or_false] at h

/-- Packing returns, or fails as one of its setbacks: a tool that did not start, or a failure of generation.
Where a store of the role cannot be removed it ends in the plain fault of that store instead. A build that
fails is counted and told by the program if it is by a setback, and ends the program if it is by such a
fault. -/
theorem failed_packing_told_or_obstructed (host : Host) (api : ClusterApi σ) (s : Settings) (m : Material)
    (w : World σ) :
    Bundle.EndsFrom host s.keytool m ⟨m.certPath.parent⟩ (Bundle.passwordOf host s m w) w.tree
        ((Bundle.bundle host s m).exec w).1 ∧
      ∀ options e w', (build host s options.force).exec w = (.error e, w') → Reported host api s options w e w' :=
  ⟨Bundle.bundle_ends host s m w, fun _ _ _ h => build_error_reported api h⟩

/-- An installation where a directory stands in the place of a store. -/
def obstructedWorld : World DryStore :=
  { Specimen.world with tree := ⟨Specimen.tree.entries ++ [(["tls", "a", "server-keystore.p12"], .directory)]⟩ }

def obstructingFault : FileFault := ⟨.isDirectory, .ofString "tls/a/server-keystore.p12"⟩

/-- The failure that a run ended in. -/
def failureOf {α : Type} : Except Failure α → Option Failure
  | .error e => some e
  | .ok _ => none

theorem failureOf_eq_some {α : Type} {e : Failure} (outcome : Except Failure α) (h : failureOf outcome = some e) :
    outcome = .error e := by
  cases outcome with
  | error e' => rw [Option.some.inj h]
  | ok a => cases h

theorem obstructed_build_goes_untold :
    Bundle.EndsFrom Specimen.host "keytool" Bundle.specimenMaterial ⟨.ofString "tls/a"⟩ "password" obstructedWorld.tree
        (.error (.fault (.file obstructingFault))) ∧
      (CommandLine.runWith Specimen.host (ClusterApi.outOfReach "") {} (.build {}) obstructedWorld).1 =
        .error (.file obstructingFault) ∧
      ∀ kind, .failed kind ∉ ((build Specimen.host {}).exec obstructedWorld).2.events := by
  have hpacking := failureOf_eq_some (e := .fault (.file obstructingFault))
    ((Bundle.bundle Specimen.host {} Bundle.specimenMaterial).exec obstructedWorld).1 (by decide +kernel)
  have hbuild := failureOf_eq_some (e := .fault (.file obstructingFault))
    ((build Specimen.host {}).exec obstructedWorld).1 (by decide +kernel)
  have hevents : ((build Specimen.host {}).exec obstructedWorld).2.events =
      [.authorityGenerated, .authorityLoaded .generated, .certificateIssued .server] := by decide +kernel
  obtain ⟨hends, hreported⟩ := failed_packing_told_or_obstructed Specimen.host (ClusterApi.outOfReach "") {}
    Bundle.specimenMaterial obstructedWorld
  rw [hpacking] at hends
  exact ⟨hends, hreported {} _ _ (Prod.ext hbuild rfl), by simp [hevents]⟩

end Pipeline

end ServiceTrust
