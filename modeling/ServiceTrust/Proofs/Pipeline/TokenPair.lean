/-
Token keys that belong together. A pair that a call makes is a key on the curve P-256 and its public half, and
every later call returns it as it is. Of a pair that is there a call reads the private key alone: it returns
the pair if that is a key on some curve, and the public key may be anything.
-/
import ServiceTrust.Proofs.Pipeline.TokenKeys
import ServiceTrust.Proofs.Specimen

namespace ServiceTrust

open Stage ServiceTrust.Tree

/-- New token keys are on the curve P-256, and are read back from their files. -/
structure Suite.KeepsTokenKeys (suite : Suite) : Prop where
  kind : ∀ seed, (suite.newKey (.ec .p256) seed).kind = .ec .p256
  read : ∀ seed, suite.readKey (suite.keyPem (suite.newKey (.ec .p256) seed)) = .ok (suite.newKey (.ec .p256) seed)

namespace TokenKeys

variable {σ : Type} {host : Host} {suite : Suite} {directory : Path} {force : Bool} {w w' : World σ}
  {keys : TokenKeys}

/-- The private file holds a key on the curve P-256, and the public file its public half. -/
def Working (suite : Suite) (t : Tree) (directory : Path) : Prop :=
  ∃ bytes key, t.read (directory.child privateName) = .ok bytes ∧ suite.readKey bytes = .ok key ∧
    key.kind = .ec .p256 ∧ t.read (directory.child publicName) = .ok (suite.publicPem key.public)

theorem Working.there {t : Tree} (h : Working suite t directory) : There t directory := by
  obtain ⟨bytes, key, hprivate, -, -, hpublic⟩ := h
  exact ⟨isFile_iff_read.mpr ⟨_, hprivate⟩, isFile_iff_read.mpr ⟨_, hpublic⟩⟩

theorem Working.holdsCurveKey {t : Tree} (h : Working suite t directory) :
    HoldsCurveKey suite t (directory.child privateName) := by
  obtain ⟨bytes, key, hprivate, hkey, hkind, -⟩ := h
  cases key with
  | ec curve secret x y => exact ⟨bytes, curve, secret, x, y, hprivate, hkey⟩
  | rsa => cases hkind

/-- A pair that was made works. -/
theorem ensure_works (hsuite : host.suite.KeepsTokenKeys) (h : (ensure host directory force).exec w = (.ok keys, w'))
    (hnew : ¬ (force = false ∧ There w.tree directory)) : Working host.suite w'.tree directory := by
  obtain ⟨-, seed, hprivate, hpublic⟩ := ensure_made h hnew
  exact ⟨_, _, hprivate, hsuite.read seed, hsuite.kind seed, hpublic⟩

/-- Any number of calls return a pair that works, and leave it as it is. -/
theorem calls_return (hosts : List Host) (hsuite : ∀ h ∈ hosts, h.suite = suite)
    (hworks : Working suite w.tree directory) :
    ∃ w', (hosts.mapM fun h => ensure h directory false).exec w =
      (.ok (hosts.map fun _ => pairIn directory false), w') ∧ w'.tree = w.tree := by
  induction hosts generalizing w with
  | nil => exact ⟨w, rfl, rfl⟩
  | cons host hosts ih =>
    have hkey := hworks.holdsCurveKey
    rw [← hsuite host (List.mem_cons_self ..)] at hkey
    obtain ⟨w₁, h⟩ := (ensure_reused host hworks.there).mpr ⟨rfl, hkey⟩
    have hsame : ((ensure host directory false).exec w).2.tree = w.tree :=
      ensure_of_isFile hworks.there.1 hworks.there.2
    rw [h] at hsame
    obtain ⟨w', hrest, ht⟩ := ih (fun h hh => hsuite h (List.mem_cons_of_mem _ hh)) (hsame ▸ hworks)
    refine ⟨w', ?_, ht.trans hsame⟩
    rw [List.mapM_cons]
    exact bind_ok.mpr ⟨_, w₁, h, bind_ok.mpr ⟨_, w', hrest, rfl⟩⟩

/-- A pair that was made works, and is what every later call returns unchanged. A pair that was there is returned
unchanged exactly if its private key is one on a curve, whatever the curve and whatever its public key. -/
theorem new_pairs_work (directory : Path) (hsuite : host.suite.KeepsTokenKeys) :
    (∀ (force : Bool) (w w' : World σ) (keys : TokenKeys), (ensure host directory force).exec w = (.ok keys, w') →
      (keys.generated = true → Working host.suite w'.tree directory ∧
        ∀ hosts : List Host, (∀ h ∈ hosts, h.suite = host.suite) →
          ∃ w'', (hosts.mapM fun h => ensure h directory false).exec w' =
            (.ok (hosts.map fun _ => pairIn directory false), w'') ∧ w''.tree = w'.tree) ∧
      (keys.generated = false → force = false ∧ There w.tree directory ∧ w'.tree = w.tree)) ∧
    ∀ w : World σ, There w.tree directory →
      ((∃ keys w', (ensure host directory false).exec w = (.ok keys, w')) ↔
        HoldsCurveKey host.suite w.tree (directory.child privateName)) := by
  constructor
  · intro force w w' keys h
    by_cases hthere : force = false ∧ There w.tree directory
    · obtain ⟨rfl, hthere⟩ := hthere
      obtain ⟨rfl, -⟩ := (ensure_reused host hthere).mp ⟨w', h⟩
      have hsame : ((ensure host directory false).exec w).2.tree = w.tree := ensure_of_isFile hthere.1 hthere.2
      rw [h] at hsame
      exact ⟨fun hgenerated => (nomatch hgenerated), fun _ => ⟨rfl, hthere, hsame⟩⟩
    · have hworks := ensure_works hsuite h hthere
      refine ⟨fun _ => ⟨hworks, fun hosts hhosts => calls_return hosts hhosts hworks⟩, fun hgenerated => ?_⟩
      rw [(ensure_made h hthere).1] at hgenerated
      cases hgenerated
  · intro w hthere
    constructor
    · rintro ⟨keys, w', h⟩
      exact ((ensure_reused host hthere).mp ⟨w', h⟩).2
    · intro hkey
      obtain ⟨w', h⟩ := (ensure_reused host hthere).mpr ⟨rfl, hkey⟩
      exact ⟨_, w', h⟩

theorem specimen_keepsTokenKeys : Specimen.suite.KeepsTokenKeys where
  kind _ := rfl
  read := Specimen.keepsKeys.key { algorithm := .ecdsa, size := 256 }

/-- Token keys of which the public one is none. -/
def unpaired : World DryStore :=
  { Specimen.world with tree := ⟨Specimen.tree.entries ++ [(["jwt"], .directory),
    (["jwt", privateName], .file (Specimen.suite.keyPem (Specimen.key 2)) keyFileMode),
    (["jwt", publicName], .file [9] Tree.newFileMode)]⟩ }

/-- They are returned as they are, and do not work. The pair that is made in their place works, and two later calls
return it. -/
theorem unpaired_keys_returned :
    (∃ keys w', (ensure Specimen.host ({} : Settings).tokenDirectory false).exec unpaired = (.ok keys, w') ∧
      keys.generated = false ∧ w'.tree = unpaired.tree ∧
      ¬ Working Specimen.suite w'.tree ({} : Settings).tokenDirectory) ∧
    ∃ keys w' w'', (ensure Specimen.host ({} : Settings).tokenDirectory true).exec unpaired = (.ok keys, w') ∧
      Working Specimen.suite w'.tree ({} : Settings).tokenDirectory ∧
      ([Specimen.host, Specimen.host].mapM fun h => ensure h ({} : Settings).tokenDirectory false).exec w' =
        (.ok [pairIn ({} : Settings).tokenDirectory false, pairIn ({} : Settings).tokenDirectory false], w'') ∧
      w''.tree = w'.tree := by
  obtain ⟨hcalls, -⟩ := new_pairs_work (σ := DryStore) ({} : Settings).tokenDirectory
    (show Specimen.host.suite.KeepsTokenKeys from specimen_keepsTokenKeys)
  have hruns (force : Bool) : ((ensure Specimen.host ({} : Settings).tokenDirectory force).exec unpaired).1.toOption.map
      (·.generated) = some force := by
    cases force <;> decide +kernel
  have hreturns (force : Bool) : ∃ keys w', (ensure Specimen.host ({} : Settings).tokenDirectory force).exec unpaired =
      (.ok keys, w') ∧ keys.generated = force := by
    have hrun := hruns force
    rcases h : (ensure Specimen.host ({} : Settings).tokenDirectory force).exec unpaired with ⟨e | keys, w'⟩
    · rw [h] at hrun
      cases hrun
    · rw [h] at hrun
      exact ⟨keys, w', rfl, Option.some.inj hrun⟩
  constructor
  · obtain ⟨keys, w', h, hreused⟩ := hreturns false
    obtain ⟨-, -, hsame⟩ := (hcalls false unpaired w' keys h).2 hreused
    refine ⟨keys, w', h, hreused, hsame, ?_⟩
    rintro ⟨bytes, key, -, -, -, hpublic⟩
    have hgarbage : unpaired.tree.read (({} : Settings).tokenDirectory.child publicName) = .ok [9] := by decide +kernel
    rw [hsame, hgarbage] at hpublic
    cases hpublic
  · obtain ⟨keys, w', h, hmade⟩ := hreturns true
    obtain ⟨hworks, hlater⟩ := (hcalls true unpaired w' keys h).1 hmade
    obtain ⟨w'', hreused, hsame⟩ := hlater [Specimen.host, Specimen.host] (by simp)
    exact ⟨keys, w', w'', h, hworks, hreused, hsame⟩

end TokenKeys

end ServiceTrust
