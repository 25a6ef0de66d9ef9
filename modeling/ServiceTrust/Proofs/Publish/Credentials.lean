/-
The credentials of a deployment: of the API tier, of the database and of the object storage. Their names are
different unless the application has the name of the database; then the credentials of the database take the
place of those of the API tier, which are not published at all. What is logged of them tells passwords and keys
by length and last characters only.
-/
import ServiceTrust.Proofs.Mask
import ServiceTrust.Proofs.Pipeline.Deploy
import ServiceTrust.Proofs.Publish.Reports

namespace ServiceTrust.Credentials

open Stage Publish

variable {σ τ : Type} {s s' : Settings} {space : String}

/-! ## Secrets -/

/-- A dry run of the publication returns the credentials of database and object storage, and those of the API tier
unless the application is named like the database. What it returns is in the store, under names of its own, and
nothing else changes. -/
theorem published_apart_but_of_namesake (s : Settings) (space : String) (strategy : ReplaceStrategy)
    (authority : AuthorityFiles) (w : World DryStore) :
    ∃ rs w', (publish ⟨DryStore.store, strategy, authority⟩ s space).exec w = (.ok rs, w') ∧
      rs = (if s.credentialsApp = "postgres" then [databaseRow s space, storageRow s space]
        else [apiRow s space, databaseRow s space, storageRow s space]).map
          (fun e => literalRecord e.1 space e.2) ∧
      (rs.map (·.name)).Nodup ∧
      (∀ r ∈ rs, w'.store.get? r.name space = some r) ∧
      (∀ name target, (∀ r ∈ rs, r.isAt name target = false) →
        w'.store.get? name target = w.store.get? name target) ∧
      w'.tree = w.tree := by
  have hputs := Puts.publishCredentials (t := w.tree) (p := ⟨DryStore.store, strategy, authority⟩) rfl s space
  obtain ⟨w', ws, hrun, htree, hmem, hrecords⟩ := hputs.returns trivial w rfl
  have hnames := nodup_names_credentialRecords s space
  -- the records were written in some order, which does not matter as no two have one name
  have hget {name target : String} : w'.store.get? name target = (w.store.putAll ws).get? name target := by
    rw [DryStore.get?, hrecords]
    rfl
  have hconsistent : Consistent ws := fun a ha b hb hname _ =>
    List.inj_on_of_nodup_map hnames ((hmem a).mp ha) ((hmem b).mp hb) hname
  refine ⟨credentialRecords s space, w', hrun, ?_, hnames, fun r hr => ?_, fun name target hother => ?_, htree⟩
  · rw [credentialRecords, values_eq]
    rfl
  · have hspace : r.space = space := (of_mem_credentialRecords hr).1
    rw [hget, ← hspace]
    exact DryStore.get?_putAll hconsistent ((hmem r).mpr hr)
  · rw [hget]
    exact DryStore.get?_putAll_of_not fun r hr => Bool.eq_false_iff.mp (hother r ((hmem r).mp hr))

/-- Named like the database, the application gets no credentials. -/
theorem namesake_loses_api_credentials :
    ∃ rs w', (publish ⟨DryStore.store, .recreate, Pipeline.authorityFiles {}⟩ { credentialsApp := "postgres" }
        "dev").exec Specimen.world = (.ok rs, w') ∧
      rs.map (·.name) = ["dev-postgres-db-credentials", "dev-postgres-s3-credentials"] ∧
      w'.store.get? "dev-postgres-db-credentials" "dev" = some (literalRecord "dev-postgres-db-credentials" "dev"
        [("username", "postgres"), ("password", "postgres")]) := by
  obtain ⟨rs, w', hrun, rfl, -, hthere, -⟩ := published_apart_but_of_namesake { credentialsApp := "postgres" } "dev"
    .recreate (Pipeline.authorityFiles {}) Specimen.world
  exact ⟨_, w', hrun, by decide, hthere _ (List.mem_cons_self ..)⟩

/-! ## The log -/

/-- What is logged of one secret. -/
def deployedRecord (space : String) (e : String × List (String × String)) : LogRecord :=
  ⟨.info, "credentials_deployed", [("secret", .text e.1), ("namespace", .text space),
    ("keys", .texts (sortedNames (e.2.map (·.1)))), ("masked", .table (maskedValues e.2))]⟩

theorem publish_reports {p : Publisher σ} (h : p.store.Silent "credentials_deployed") (s : Settings)
    (space : String) :
    Reports "credentials_deployed" (publish p s space) ((values s space).map (deployedRecord space)) := by
  rw [List.map_eq_flatMap]
  exact .mapM fun e _ => (Publisher.publishLiteral_silent h (by decide) (by decide) e.1 space e.2 _).bind fun _ =>
    (Reports.log _ _).bind fun _ => .pure _

/-- The application is the same, and its secrets are as long and end alike. -/
structure LookAlike (s s' : Settings) : Prop where
  app : s.credentialsApp = s'.credentialsApp
  apiPassword : LooksLike 4 s.apiPassword s'.apiPassword
  databasePassword : LooksLike 4 s.databasePassword s'.databasePassword
  storageAccessKey : LooksLike 4 s.storageAccessKey s'.storageAccessKey
  storageSecretKey : LooksLike 4 s.storageSecretKey s'.storageSecretKey

/-- What is logged depends on the secrets by nothing but their looks, and on user names not at all. -/
theorem deployedRecords_congr (h : LookAlike s s') (space : String) :
    (values s space).map (deployedRecord space) = (values s' space).map (deployedRecord space) := by
  have hmask {a b : String} (hab : LooksLike 4 a b) : maskSecret a = maskSecret b :=
    (maskSecret_eq_iff (by decide)).mpr hab
  have hapi : deployedRecord space (apiRow s space) = deployedRecord space (apiRow s' space) := by
    simp [deployedRecord, apiRow, maskedValues, h.app, hmask h.apiPassword]
  have hdatabase : deployedRecord space (databaseRow s space) = deployedRecord space (databaseRow s' space) := by
    simp [deployedRecord, databaseRow, maskedValues, hmask h.databasePassword]
  have hstorage : deployedRecord space (storageRow s space) = deployedRecord space (storageRow s' space) := by
    simp [deployedRecord, storageRow, maskedValues, h.app, hmask h.storageAccessKey, hmask h.storageSecretKey]
  rw [values_eq, values_eq, credentialRows, credentialRows, h.app]
  split
  · simp only [List.map_cons, List.map_nil, hdatabase, hstorage]
  · simp only [List.map_cons, List.map_nil, hapi, hdatabase, hstorage]

/-- What the log tells of deployed credentials after a run that publishes them. -/
def deployedIn (p : Publisher σ) (s : Settings) (space : String) (w : World σ) : List LogRecord :=
  ((publish p s space).exec w).2.log.told "credentials_deployed"

theorem deployedIn_congr (h : LookAlike s s') (space : String) (p : Publisher σ) (p' : Publisher τ)
    (hp : p.store.Silent "credentials_deployed") (hp' : p'.store.Silent "credentials_deployed") {w : World σ}
    {w' : World τ} (hlog : w.log = w'.log) :
    (deployedIn p s space w <+: deployedIn p' s' space w' ∨ deployedIn p' s' space w' <+: deployedIn p s space w) ∧
      (((publish p s space).exec w).1.isOk = true → ((publish p' s' space).exec w').1.isOk = true →
        deployedIn p s space w = deployedIn p' s' space w') := by
  obtain ⟨begun, hprefix, hall, hgrown⟩ := publish_reports hp s space w
  obtain ⟨begun', hprefix', hall', hgrown'⟩ := publish_reports hp' s' space w'
  rw [← deployedRecords_congr h] at hprefix' hall'
  -- both runs add a first part of the same records to the same log
  have htold : deployedIn p s space w = w'.log.told "credentials_deployed" ++ w'.log.heard begun := by
    rw [← hlog]
    exact hgrown.told
  have htold' : deployedIn p' s' space w' = w'.log.told "credentials_deployed" ++ w'.log.heard begun' :=
    hgrown'.told
  rw [htold, htold', List.prefix_append_right_inj, List.prefix_append_right_inj]
  refine ⟨?_, fun hok hok' => by rw [hall hok, hall' hok']⟩
  exact (List.prefix_or_prefix_of_prefix hprefix hprefix').imp (·.filter _) (·.filter _)

/-- Dry runs return, and so tell the same of all credentials. -/
theorem deployedIn_dry (h : LookAlike s s') (space : String) (strategy strategy' : ReplaceStrategy)
    (authority authority' : AuthorityFiles) {w w' : World DryStore} (hlog : w.log = w'.log) :
    deployedIn ⟨DryStore.store, strategy, authority⟩ s space w =
      deployedIn ⟨DryStore.store, strategy', authority'⟩ s' space w' := by
  have hok (strategy : ReplaceStrategy) (authority : AuthorityFiles) (s : Settings) (w : World DryStore) :
      ((publish ⟨DryStore.store, strategy, authority⟩ s space).exec w).1.isOk = true := by
    obtain ⟨w', -, hrun, -⟩ := (Puts.publishCredentials (t := w.tree)
      (p := ⟨DryStore.store, strategy, authority⟩) rfl s space).returns trivial w rfl
    rw [hrun]
    rfl
  have hsilent : DryStore.store.Silent "credentials_deployed" := DryStore.store_silent (by decide) (by decide)
  obtain ⟨-, hsame⟩ := deployedIn_congr h space ⟨DryStore.store, strategy, authority⟩
    ⟨DryStore.store, strategy', authority'⟩ hsilent hsilent hlog
  exact hsame (hok _ _ _ _) (hok _ _ _ _)

/-- A mask that shows some of the last characters tells a secret by its length and these, and a mask that shows none
tells all of it. The log of a publication shows four, so whatever the store, two runs with secrets of the same looks
differ in what it tells of credentials only by how far they came, and dry runs not at all. -/
theorem masks_show_tails_but_of_none :
    (∀ (value : String) (shown : Nat), 0 < shown →
      (maskSecret value shown).length = value.length ∧
      (value.length ≤ shown → (maskSecret value shown).toList = List.replicate value.length '*') ∧
      (shown < value.length → (maskSecret value shown).toList =
        List.replicate (value.length - shown) '*' ++ value.toList.rtake shown) ∧
      ∀ other : String, maskSecret value shown = maskSecret other shown ↔ LooksLike shown value other) ∧
    (∀ value : String, (maskSecret value 0).toList = List.replicate value.length '*' ++ value.toList) ∧
    (DryStore.store.Silent "credentials_deployed" ∧
      ∀ api : ClusterApi σ, (ClusterApi.store api).Silent "credentials_deployed") ∧
    ∀ {s s' : Settings}, LookAlike s s' → ∀ space : String,
      (∀ (p : Publisher σ) (p' : Publisher τ), p.store.Silent "credentials_deployed" →
        p'.store.Silent "credentials_deployed" → ∀ (w : World σ) (w' : World τ), w.log = w'.log →
          (deployedIn p s space w <+: deployedIn p' s' space w' ∨
            deployedIn p' s' space w' <+: deployedIn p s space w) ∧
          (((publish p s space).exec w).1.isOk = true → ((publish p' s' space).exec w').1.isOk = true →
            deployedIn p s space w = deployedIn p' s' space w')) ∧
      ∀ (strategy strategy' : ReplaceStrategy) (authority authority' : AuthorityFiles) (w w' : World DryStore),
        w.log = w'.log →
          deployedIn ⟨DryStore.store, strategy, authority⟩ s space w =
            deployedIn ⟨DryStore.store, strategy', authority'⟩ s' space w' := by
  refine ⟨fun value shown hsome => ?_, toList_maskSecret_zero, ⟨?_, fun api => ?_⟩, fun h space => ⟨?_, ?_⟩⟩
  · exact ⟨length_maskSecret hsome value, toList_maskSecret_of_le, toList_maskSecret_of_lt hsome,
      fun _ => maskSecret_eq_iff hsome⟩
  · exact DryStore.store_silent (by decide) (by decide)
  · exact ClusterApi.store_silent api (by decide) (by decide)
  · exact fun p p' hp hp' _ _ hlog => deployedIn_congr h space p p' hp hp' hlog
  · exact fun _ _ _ _ _ _ hlog => deployedIn_dry h space _ _ _ _ hlog

/-- All of a secret is shown where none of it was to be; and two passwords of one length that end alike leave the
same three records. -/
theorem mask_of_none_shows_all :
    maskSecret "abc" 0 = "***abc" ∧
    deployedIn ⟨DryStore.store, .recreate, Pipeline.authorityFiles {}⟩ { apiPassword := "123321" } "dev"
        { Specimen.world with log := { threshold := 20 } } =
      deployedIn ⟨DryStore.store, .recreate, Pipeline.authorityFiles {}⟩ { apiPassword := "993321" } "dev"
        { Specimen.world with log := { threshold := 20 } } ∧
    (deployedIn ⟨DryStore.store, .recreate, Pipeline.authorityFiles {}⟩ { apiPassword := "123321" } "dev"
        { Specimen.world with log := { threshold := 20 } }).length = 3 := by
  obtain ⟨-, hnone, -, hlog⟩ := masks_show_tails_but_of_none (σ := DryStore) (τ := DryStore)
  refine ⟨String.toList_inj.mp (hnone "abc"), ?_, by decide +kernel⟩
  have hlook {a b : String} (hab : a.length = b.length) (htail : a.toList.rtake 4 = b.toList.rtake 4) :
      LooksLike 4 a b := ⟨hab, fun _ => htail⟩
  have h : LookAlike { apiPassword := "123321" } { apiPassword := "993321" } :=
    ⟨rfl, hlook (by decide) (by decide), hlook rfl rfl, hlook rfl rfl, hlook rfl rfl⟩
  exact (hlog h "dev").2 _ _ _ _ _ _ rfl

end ServiceTrust.Credentials
