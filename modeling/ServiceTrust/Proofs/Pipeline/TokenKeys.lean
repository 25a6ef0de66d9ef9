/-
The key pair for tokens. A pair that is there is only read unless a new one is asked for, and of it only the
private key; a new one writes its two files and makes no directory but its own and those above. A run that
returned leaves both files.
-/
import ServiceTrust.Proofs.Layout
import ServiceTrust.Proofs.Stage

namespace ServiceTrust

open Stage ServiceTrust.Tree

namespace TokenKeys

variable {σ : Type} {host : Host} {directory : Path} {force : Bool}

theorem checkExisting_still (path : Path) : Obeys .still (checkExisting host path : Stage σ Unit) := by
  refine .bind (.catchFault (.bind (.read _) fun _ => .crypto _) fun _ => .fail _) fun key => ?_
  cases key with
  | ec => exact .pure _
  | rsa => exact .fail _

theorem ensure_within (directory : Path) (force : Bool) :
    Obeys (.within (places directory.place) directory.above)
      (ensure host directory force : Stage σ TokenKeys) := by
  have hprivate : (pairIn directory true).privatePath.place ∈ places directory.place :=
    place_private directory ▸ mem_placesNamed.mpr (by decide)
  have hpublic : (pairIn directory true).publicPath.place ∈ places directory.place :=
    place_public directory ▸ mem_placesNamed.mpr (by decide)
  refine .bind .tree fun t => .ite (fun _ => ?_) fun _ => ?_
  · exact .bind (checkExisting_still _).of_still fun _ => .bind (.log _ _ _) fun _ => .pure _
  · refine .bind (.catchFault ?_ fun _ => .fail _) fun _ => .bind (.log _ _ _) fun _ => .pure _
    exact .bind (.makeDirectories subset_rfl) fun _ => .bind (.newSeed host) fun _ =>
      .bind (.write hprivate _) fun _ => .bind (.setMode hprivate _) fun _ => .write hpublic _

/-! ## A pair that is there -/

/-- Both files are there. -/
def There (t : Tree) (directory : Path) : Prop :=
  t.isFile (directory.child privateName) = true ∧ t.isFile (directory.child publicName) = true

/-- What is done about a pair that is there. -/
def reuse (host : Host) (directory : Path) : Stage σ TokenKeys := do
  checkExisting host (directory.child privateName)
  log .info "jwt_keys_reused" [("jwt_dir", .text (toString directory))]
  return pairIn directory false

theorem ensure_of_there (host : Host) {w : World σ} (hthere : There w.tree directory) :
    (ensure host directory false).exec w = (reuse host directory).exec w := by
  unfold ensure
  rw [exec_bind, exec_tree]
  dsimp only
  rw [if_pos (by simpa [pairIn, There] using hthere)]
  rfl

/-- It is left as it is, whether or not it is usable. -/
theorem ensure_of_isFile {w : World σ} (hprivate : w.tree.isFile (directory.child privateName) = true)
    (hpublic : w.tree.isFile (directory.child publicName) = true) :
    ((ensure host directory false).exec w).2.tree = w.tree := by
  have hstill : Obeys .still (reuse host directory : Stage σ TokenKeys) :=
    .bind (checkExisting_still _) fun _ => .bind (.log _ _ _) fun _ => .pure _
  rw [ensure_of_there host ⟨hprivate, hpublic⟩]
  exact (hstill w).1

/-! ## What a run that returned did -/

/-- The file holds a private key on a curve. -/
def HoldsCurveKey (suite : Suite) (t : Tree) (path : Path) : Prop :=
  ∃ bytes curve secret x y, t.read path = .ok bytes ∧ suite.readKey bytes = .ok (.ec curve secret x y)

/-- The check passes exactly for a private key on a curve. -/
theorem checkExisting_ok {path : Path} {w w' : World σ} {u : Unit} :
    (checkExisting host path).exec w = (.ok u, w') ↔ HoldsCurveKey host.suite w.tree path ∧ w' = w := by
  unfold checkExisting
  simp only [bind_ok, catchFault_ok fun _ _ _ _ hf => (fail_ok.mp hf).elim, read_ok, crypto_ok]
  constructor
  · rintro ⟨key, w₁, ⟨bytes, _, ⟨hread, rfl⟩, hkey, rfl⟩, h⟩
    cases key with
    | ec curve secret x y => exact ⟨⟨bytes, curve, secret, x, y, hread, hkey⟩, (pure_ok.mp h).2⟩
    | rsa => exact (fail_ok.mp h).elim
  · rintro ⟨⟨bytes, curve, secret, x, y, hread, hkey⟩, rfl⟩
    exact ⟨.ec curve secret x y, _, ⟨bytes, _, ⟨hread, rfl⟩, hkey, rfl⟩, rfl⟩

/-- A pair that is there, and not to be made anew, is returned exactly if its private key is one on a curve. -/
theorem ensure_reused (host : Host) {w : World σ} {keys : TokenKeys} (hthere : There w.tree directory) :
    (∃ w', (ensure host directory false).exec w = (.ok keys, w')) ↔
      keys = pairIn directory false ∧ HoldsCurveKey host.suite w.tree (directory.child privateName) := by
  simp only [ensure_of_there host hthere, reuse, bind_ok, checkExisting_ok, log_ok, pure_ok]
  constructor
  · rintro ⟨w', _, _, ⟨hkey, rfl⟩, _, _, rfl, rfl, -⟩
    exact ⟨rfl, hkey⟩
  · rintro ⟨rfl, hkey⟩
    exact ⟨_, (), w, ⟨hkey, rfl⟩, (), _, rfl, rfl, rfl⟩

/-- Otherwise a run that returned made a pair on the curve P-256. -/
theorem ensure_made {w w' : World σ} {keys : TokenKeys} (h : (ensure host directory force).exec w = (.ok keys, w'))
    (hnew : ¬ (force = false ∧ There w.tree directory)) :
    keys = pairIn directory true ∧ ∃ seed,
      w'.tree.read (directory.child privateName) = .ok (host.suite.keyPem (host.suite.newKey (.ec .p256) seed)) ∧
      w'.tree.read (directory.child publicName) =
        .ok (host.suite.publicPem (host.suite.newKey (.ec .p256) seed).public) := by
  simp only [ensure, bind_ok, tree_ok] at h
  obtain ⟨_, w, ⟨rfl, rfl⟩, h⟩ := h
  rw [if_neg (by simpa [pairIn, There, and_assoc] using hnew)] at h
  simp only [bind_ok, log_ok, pure_ok] at h
  obtain ⟨_, w₁, hmake, _, _, rfl, rfl, rfl⟩ := h
  rw [catchFault_ok fun f w w' a hf => by simp at hf] at hmake
  simp only [bind_ok, makeDirectories_ok, newSeed_ok, write_ok, change_ok] at hmake
  obtain ⟨_, _, ⟨-, rfl⟩, seed, _, ⟨-, rfl⟩, _, _, ⟨t₁, hprivate, rfl⟩, _, _, ⟨t₂, hmode, rfl⟩,
    t₃, hpublic, rfl⟩ := hmake
  have hne : (directory.child privateName).place ∉ ({(directory.child publicName).place} : Set Location) := by
    rw [Set.mem_singleton_iff, place_private, place_public]
    simp [privateName, publicName]
  exact ⟨rfl, seed, (write_within hpublic).read hne (read_setMode hmode (read_write hprivate)), read_write hpublic⟩

theorem ensure_ok {w w' : World σ} {keys : TokenKeys}
    (h : (ensure host directory force).exec w = (.ok keys, w')) :
    w'.tree.isFile (directory.child privateName) = true ∧
      w'.tree.isFile (directory.child publicName) = true := by
  by_cases hthere : force = false ∧ There w.tree directory
  · obtain ⟨rfl, hthere⟩ := hthere
    have hstill : ((ensure host directory false).exec w).2.tree = w.tree := ensure_of_isFile hthere.1 hthere.2
    rw [h] at hstill
    rwa [hstill]
  · obtain ⟨-, seed, hprivate, hpublic⟩ := ensure_made h hthere
    exact ⟨isFile_iff_read.mpr ⟨_, hprivate⟩, isFile_iff_read.mpr ⟨_, hpublic⟩⟩

/-- Where the private key is missing, a run that returned made a pair. -/
theorem ensure_generated {w w' : World σ} {keys : TokenKeys}
    (hmissing : w.tree.isFile (directory.child privateName) = false)
    (h : (ensure host directory force).exec w = (.ok keys, w')) : keys.generated = true := by
  rw [(ensure_made h fun hthere => by simp [There, hmissing] at hthere).1]
  rfl

end TokenKeys

end ServiceTrust
