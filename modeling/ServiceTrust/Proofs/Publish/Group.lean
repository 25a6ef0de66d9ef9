/-
The secret of a role and the auxiliary ones that go with it are one group: the files of all of them are looked
for before the first request to the store. Without one of these files a run fails where it started, whatever the
store; with all of them it returns what was read from them, unless the store turns a request down.
-/
import ServiceTrust.Proofs.Pipeline.Remedy
import ServiceTrust.Proofs.Pipeline.Writes
import ServiceTrust.Proofs.Publish.Journal

namespace ServiceTrust

open Stage Publish

variable {σ α β : Type} {t : Tree} {w : World σ} {a : α} {act : Stage σ α}

/-! ## Groups -/

namespace Publish

/-- The names of the secrets that are published with the one of a role, which comes first, and their entries. -/
def secretGroup (service : Profile) (role : Role) (space : String) (authority : AuthorityFiles) :
    List (String × Entries) :=
  (secretName service.name role, dataEntries service role authority) ::
    (auxiliarySecrets service role space authority).map fun a => (a.name, a.entries)

/-- Some entry of the secret has no file behind it. -/
def lacksFiles (t : Tree) (secret : String × Entries) : Bool := secret.2.any fun e => !t.isFile e.2

/-- The entries without files, as they are told. -/
def unbacked (t : Tree) (es : Entries) : List String :=
  (es.filter fun e => !t.isFile e.2).map fun e => s!"{e.1}={e.2}"

/-- The record of a secret in a namespace, with what was read from the files behind its entries. -/
structure BuiltFrom (t : Tree) (space : String) (secret : String × Entries) (r : SecretRecord) : Prop where
  name : r.name = secret.1
  space : r.space = space
  data : List.Forall₂ (fun e d => e.1 = d.1 ∧ t.read e.2 = .ok d.2) secret.2 r.data

theorem lacksFiles_eq_false {secret : String × Entries} : lacksFiles t secret = false ↔ HasFiles t secret.2 := by
  simp [lacksFiles, HasFiles]

theorem forall₂_contents {es : Entries} (h : HasFiles t es) :
    List.Forall₂ (fun e d => e.1 = d.1 ∧ t.read e.2 = .ok d.2) es (contents t es) := by
  induction es with
  | nil => exact .nil
  | cons e es ih =>
    obtain ⟨bytes, hread⟩ := Tree.isFile_iff_read.mp (h e (List.mem_cons_self ..))
    refine .cons ⟨rfl, ?_⟩ (ih fun d hd => h d (List.mem_cons_of_mem _ hd))
    show t.read e.2 = .ok ((t.read e.2).toOption.getD [])
    rw [hread]
    rfl

theorem builtFrom_fileRecord {f : Publisher.FileSecret} (h : HasFiles t f.entries) :
    BuiltFrom t f.space (f.name, f.entries) (fileRecord t f) := ⟨rfl, rfl, forall₂_contents h⟩

theorem names_of_builtFrom {space : String} {secrets : List (String × Entries)} {rs : List SecretRecord}
    (h : List.Forall₂ (BuiltFrom t space) secrets rs) : rs.map (·.name) = secrets.map (·.1) := by
  induction h with
  | nil => rfl
  | cons hfirst _ ih => rw [List.map_cons, List.map_cons, hfirst.name, ih]

end Publish

/-! ## Files that are missing -/

namespace Publisher

theorem exec_checkFiles (secret : String) (es : Entries) (w : World σ) :
    (checkFiles secret es).exec w =
      if lacksFiles w.tree (secret, es) then (.error (.pipeline (.missingFiles secret (missing w.tree es))), w)
      else (.ok (), w) := by
  unfold checkFiles
  rw [exec_bind, exec_tree]
  dsimp only
  cases h : lacksFiles w.tree (secret, es) with
  | true =>
    split
    next hnil =>
      have hnone : lacksFiles w.tree (secret, es) = false := lacksFiles_eq_false.mpr (Puts.missing_eq_nil.mp hnil)
      exact absurd (h.symm.trans hnone) (by decide)
    next => rfl
  | false =>
    rw [Puts.missing_eq_nil.mpr (lacksFiles_eq_false.mp h)]
    rfl

/-- The auxiliary secrets are checked in their order, and the first one without a file is told. -/
theorem exec_checkAuxiliaries (auxiliaries : List AuxiliarySecret) (w : World σ) :
    (auxiliaries.forM fun a => checkFiles a.name a.entries).exec w =
      match (auxiliaries.map fun a => (a.name, a.entries)).find? (lacksFiles w.tree) with
      | some secret => (.error (.pipeline (.missingFiles secret.1 (missing w.tree secret.2))), w)
      | none => (.ok (), w) := by
  induction auxiliaries with
  | nil => rfl
  | cons a auxiliaries ih =>
    show (checkFiles a.name a.entries >>= fun _ => auxiliaries.forM fun a => checkFiles a.name a.entries).exec w = _
    rw [exec_bind, exec_checkFiles, List.map_cons, List.find?_cons]
    cases lacksFiles w.tree (a.name, a.entries) with
    | true => rfl
    | false => exact ih

/-- Without a file of the group a run ends where it started. -/
theorem exec_publish_of_lacking {p : Publisher σ} {bundle : Option Bundle} {service : Profile} {role : Role}
    {space : String} {secret : String × Entries}
    (h : (secretGroup service role space p.authority).find? (lacksFiles w.tree) = some secret) :
    (p.publish bundle service role space).exec w =
      (.error (.pipeline (.missingFiles secret.1 (missing w.tree secret.2))), w) := by
  unfold publish
  dsimp only
  -- the check of the primary secret is the first step, and that of the auxiliary ones the second
  rw [secretGroup, List.find?_cons] at h
  rw [exec_bind, exec_checkFiles]
  cases hprimary : lacksFiles w.tree (secretName service.name role, dataEntries service role p.authority) with
  | true =>
    rw [hprimary] at h
    obtain rfl := Option.some.inj h
    rfl
  | false =>
    rw [hprimary] at h
    rw [if_neg (by simp)]
    dsimp only at h ⊢
    rw [exec_bind, exec_checkAuxiliaries, h]

end Publisher

/-! ## Runs with all files -/

/-- The run returned `a`, or ended in a failure to publish, or in a plain fault. -/
inductive Attempted (a : α) : Except Failure α → Prop
  | returned : Attempted a (.ok a)
  | refused {e : PipelineError} (h : e.kind = .publish) : Attempted a (.error (.pipeline e))
  | fault (f : Fault) : Attempted a (.error (.fault f))

/-- On the files `t`, which stay, a run can return nothing but `a`, and fail in nothing but publishing. -/
def Attempts (t : Tree) (act : Stage σ α) (a : α) : Prop :=
  ∀ w, w.tree = t → Attempted a (act.exec w).1 ∧ (act.exec w).2.tree = t

namespace Attempts

theorem pure (a : α) : Attempts t (Pure.pure a : Stage σ α) a := fun _ hw => ⟨.returned, hw⟩

theorem log (level : Level) (message : String) (fields : List (String × Json)) :
    Attempts t (Stage.log level message fields : Stage σ Unit) () := fun _ hw => ⟨.returned, hw⟩

theorem count (e : Event) : Attempts t (Stage.count e : Stage σ Unit) () := fun _ hw => ⟨.returned, hw⟩

theorem read {p : Path} {bytes : Bytes} (h : t.read p = .ok bytes) :
    Attempts t (Stage.read p : Stage σ Bytes) bytes := by
  intro w hw
  rw [exec_read, hw, h]
  exact ⟨.returned, rfl⟩

theorem bind {f : α → Stage σ β} {b : β} (h : Attempts t act a) (hf : Attempts t (f a) b) :
    Attempts t (act >>= f) b := by
  intro w hw
  obtain ⟨hcame, htree⟩ := h w hw
  rw [exec_bind]
  rcases hact : act.exec w with ⟨outcome, w₁⟩
  rw [hact] at hcame htree
  cases hcame with
  | returned => exact hf w₁ htree
  | refused he => exact ⟨.refused he, htree⟩
  | fault f => exact ⟨.fault f, htree⟩

theorem mapM {xs : List α} {f : α → Stage σ β} {g : α → β} (h : ∀ x ∈ xs, Attempts t (f x) (g x)) :
    Attempts t (xs.mapM f) (xs.map g) := by
  induction xs with
  | nil => exact pure _
  | cons x xs ih =>
    rw [List.mapM_cons]
    exact (h x (List.mem_cons_self ..)).bind
      ((ih fun y hy => h y (List.mem_cons_of_mem _ hy)).bind (pure _))

theorem forM {xs : List α} {f : α → Stage σ PUnit} (h : ∀ x ∈ xs, Attempts t (f x) ()) :
    Attempts t (xs.forM f) () := by
  induction xs with
  | nil => exact pure _
  | cons x xs ih =>
    exact (h x (List.mem_cons_self ..)).bind (ih fun y hy => h y (List.mem_cons_of_mem _ hy))

/-- What leaves the files alone and can only fail in publishing. -/
theorem request {act : Stage σ Unit} (h : Obeys .untouched act) (hf : FailsWithin (·.kind = .publish) act) :
    Attempts t act () := by
  intro w hw
  refine ⟨?_, (h w).trans hw⟩
  rcases hact : act.exec w with ⟨(f | e) | u, w'⟩
  · exact .fault f
  · exact .refused (hf hact)
  · exact .returned

theorem checkFiles {es : Entries} (h : HasFiles t es) (secret : String) :
    Attempts t (Publisher.checkFiles secret es : Stage σ Unit) () := by
  intro w hw
  have hlacks : lacksFiles w.tree (secret, es) = false := lacksFiles_eq_false.mpr (hw ▸ h)
  rw [Publisher.exec_checkFiles, hlacks]
  exact ⟨.returned, hw⟩

theorem readEntries {es : Entries} (h : HasFiles t es) :
    Attempts t (Publisher.readEntries es : Stage σ (List (String × Bytes))) (contents t es) := by
  refine mapM fun e he => ?_
  obtain ⟨bytes, hread⟩ := Tree.isFile_iff_read.mp (h e he)
  rw [hread]
  exact (read hread).bind (pure _)

end Attempts

/-! ## Stores that fail as they should -/

/-- A request that fails is told as a failure to publish. -/
structure SecretStore.Candid (store : SecretStore σ) : Prop where
  delete : ∀ name space, FailsWithin (·.kind = .publish) (store.delete name space)
  create : ∀ r, FailsWithin (·.kind = .publish) (store.create r)
  replace : ∀ r, FailsWithin (·.kind = .publish) (store.replace r)
  ensureSpace : ∀ space, FailsWithin (·.kind = .publish) (store.ensureSpace space)

theorem DryStore.store_candid : DryStore.store.Candid := by
  have hcreate (r : SecretRecord) : FailsWithin (·.kind = .publish) (DryStore.create r) :=
    .bind .get fun _ => .ite (fun _ => .bind (.fail rfl) fun _ => .bind (.modify _) fun _ => .log _ _ _)
      fun _ => .bind (.modify _) fun _ => .log _ _ _
  refine ⟨fun _ _ => ?_, hcreate, fun r => .bind (.modify _) fun _ => hcreate r, fun _ => ?_⟩
  · exact .bind .get fun _ => .bind (.modify _) fun _ => .pure _
  · exact .bind .get fun _ => .ite (fun _ => .pure _) fun _ =>
      .bind (.modify _) fun _ => .bind (.log _ _ _) fun _ => .pure _

theorem ClusterApi.store_candid (api : ClusterApi σ) : (ClusterApi.store api).Candid := by
  have hkind {key : String × String} (e : PipelineError) (h : Refused key none e) : e.kind = .publish := by
    cases h
    rfl
  refine ⟨fun name space => ?_, fun r => create_fails.mono hkind, fun r => replace_fails.mono hkind, fun space => ?_⟩
  · exact (delete_fails (r := ⟨name, space, [], [], []⟩)).mono hkind
  · refine .bind (call_fails _) fun answer => ?_
    cases answer with
    | ok u => exact .pure _
    | error fault =>
      refine .ite (fun _ => refuse_fails rfl) fun _ => .bind (call_fails _) fun answer => ?_
      cases answer with
      | ok u => exact .bind (.log _ _ _) fun _ => .pure _
      | error fault => exact .ite (fun _ => .pure _) fun _ => refuse_fails rfl

namespace Publisher

variable {p : Publisher σ}

theorem put_untouched (haloof : p.store.Aloof) (r : SecretRecord) (hint : Option String) :
    Obeys .untouched (p.put r hint) := by
  refine .bind (.tryCatch ?_ fun e => ?_) fun _ => .log _ _ _
  · cases p.strategy with
    | replace => exact haloof.replace r
    | recreate => exact .bind (haloof.delete r.name r.space) fun _ => haloof.create r
  · split
    · exact .bind (.log _ _ _) fun _ => .fail _
    · exact .throw _

theorem put_candid (hcandid : p.store.Candid) (r : SecretRecord) (hint : Option String) :
    FailsWithin (·.kind = .publish) (p.put r hint) := by
  refine .bind (.tryCatch (R := (·.kind = .publish)) ?_ (fun f => .throwFault f) fun e he => ?_) fun _ => .log _ _ _
  · cases p.strategy with
    | replace => exact hcandid.replace r
    | recreate => exact .bind (hcandid.delete r.name r.space) fun _ => hcandid.create r
  · split
    · exact .bind (.log _ _ _) fun _ => .fail rfl
    · exact .fail he

end Publisher

/-! ## Publication of a group -/

namespace Attempts

variable {p : Publisher σ} (haloof : p.store.Aloof) (hcandid : p.store.Candid)
include haloof hcandid

theorem publishFiles {f : Publisher.FileSecret} (h : HasFiles t f.entries) :
    Attempts t (p.publishFiles f) (fileRecord t f) :=
  (checkFiles h _).bind <| (readEntries h).bind <|
    (request (Publisher.put_untouched haloof _ _) (Publisher.put_candid hcandid _ _)).bind <|
      (count _).bind (pure _)

/-- With all files a run publishes what is in them, or fails in publishing. -/
theorem publish {service : Profile} {role : Role} {space : String} (bundle : Option Bundle)
    (h : ∀ secret ∈ secretGroup service role space p.authority, HasFiles t secret.2) :
    Attempts t (p.publish bundle service role space) (roleRecords t p.authority space service role) := by
  obtain ⟨hprimary, hauxiliaries⟩ := List.forall_mem_cons.mp h
  have haux {a : AuxiliarySecret} (ha : a ∈ auxiliarySecrets service role space p.authority) :
      HasFiles t a.entries := hauxiliaries _ (List.mem_map_of_mem ha)
  rw [roleRecords, ← Puts.auxiliaries_eq]
  exact (checkFiles hprimary _).bind <| (forM fun a ha => checkFiles (haux ha) a.name).bind <|
    (mapM fun a ha => publishFiles haloof hcandid (haux ha)).bind <|
      (publishFiles haloof hcandid hprimary).bind <| (log _ _ _).bind (pure _)

end Attempts

/-- The records of a role, with all files, are those of its group. -/
theorem builtFrom_roleRecords {service : Profile} {role : Role} {space : String} {authority : AuthorityFiles}
    (h : ∀ secret ∈ secretGroup service role space authority, HasFiles t secret.2) :
    List.Forall₂ (BuiltFrom t space) (secretGroup service role space authority)
      (roleRecords t authority space service role) := by
  obtain ⟨hprimary, hauxiliaries⟩ := List.forall_mem_cons.mp h
  refine .cons ⟨rfl, rfl, forall₂_contents hprimary⟩ ?_
  rw [← Puts.auxiliaries_eq t service role space authority "none" "auxiliary" none, List.forall₂_map_left_iff,
    List.forall₂_map_right_iff, List.forall₂_same]
  exact fun a ha => builtFrom_fileRecord (f := ⟨a.name, space, a.entries, a.labels, a.annotations, _, _, _⟩)
    (hauxiliaries _ (List.mem_map_of_mem ha))

/-- Whatever is noted of a run was read from the files of its group. -/
theorem Writing.publish_group {p : Publisher (σ × List SecretRecord)} {store : SecretStore σ} (haloof : store.Aloof)
    (hp : p.store = store.noting) (bundle : Option Bundle) (service : Profile) (role : Role) (space : String) :
    Obeys (.writing t fun r => ∃ secret ∈ secretGroup service role space p.authority, BuiltFrom t space secret r)
      (p.publish bundle service role space) :=
  .bind (checkFiles_still _ _).of_still fun _ => .bind (.forM fun _ _ => (checkFiles_still _ _).of_still) fun _ =>
    .bind (.mapM fun _ ha => publishFiles haloof hp fun hfiles =>
      ⟨_, List.mem_cons_of_mem _ (List.mem_map_of_mem ha), builtFrom_fileRecord hfiles⟩) fun _ =>
    .bind (publishFiles haloof hp fun hfiles => ⟨_, List.mem_cons_self .., builtFrom_fileRecord hfiles⟩) fun _ =>
    .bind (.log _ _ _) fun _ => .pure _

namespace Publisher

/-- The publisher that notes what it asks its store to write. -/
def noting (p : Publisher σ) : Publisher (σ × List SecretRecord) := ⟨p.store.noting, p.strategy, p.authority⟩

/-- The publisher whose store lists every request. -/
def journaled (p : Publisher σ) : Publisher (σ × List Served) := ⟨p.store.journaled, p.strategy, p.authority⟩

theorem find?_lacksFiles_eq_none {secrets : List (String × Entries)} :
    secrets.find? (lacksFiles t) = none ↔ ∀ secret ∈ secrets, HasFiles t secret.2 := by
  simp only [List.find?_eq_none, Bool.not_eq_true, lacksFiles_eq_false]

/-- With all files no run fails for want of one, and one that returns was built from them. -/
theorem publish_of_files {p : Publisher σ} (haloof : p.store.Aloof) (hcandid : p.store.Candid) {bundle : Option Bundle}
    {service : Profile} {role : Role} {space : String}
    (h : ∀ secret ∈ secretGroup service role space p.authority, HasFiles w.tree secret.2) :
    (∀ e w', (p.publish bundle service role space).exec w = (.error (.pipeline e), w') → e.kind = .publish) ∧
      ∀ rs w', (p.publish bundle service role space).exec w = (.ok rs, w') →
        List.Forall₂ (BuiltFrom w.tree space) (secretGroup service role space p.authority) rs := by
  obtain ⟨hattempted, -⟩ := Attempts.publish haloof hcandid bundle h w rfl
  refine ⟨fun e w' he => ?_, fun rs w' hrs => ?_⟩
  · rw [he] at hattempted
    cases hattempted with
    | refused hkind => exact hkind
  · rw [hrs] at hattempted
    cases hattempted
    exact builtFrom_roleRecords h

/-- The group of a role is published from its files, or not at all for want of one: then the first secret that lacks
any is told with all that it lacks, in order, and the store is asked for nothing. -/
theorem group_published_or_untouched (bundle : Option Bundle) (service : Profile) (role : Role) (space : String) :
    (∀ (p : Publisher σ) (w : World σ) (secret : String × Entries),
      (secretGroup service role space p.authority).find? (lacksFiles w.tree) = some secret →
      ∃ lacking : List String, lacking.Pairwise (· ≤ ·) ∧ lacking.Perm (unbacked w.tree secret.2) ∧
        (PipelineError.missingFiles secret.1 lacking).message =
          s!"Secret {secret.1} is missing backing files: " ++ ", ".intercalate lacking ∧
        (p.publish bundle service role space).exec w = (.error (.pipeline (.missingFiles secret.1 lacking)), w) ∧
        (p.journaled.publish bundle service role space).exec { w with store := (w.store, []) } =
          (.error (.pipeline (.missingFiles secret.1 lacking)), { w with store := (w.store, []) })) ∧
    (∀ p : Publisher σ, p.store.Aloof → p.store.Candid → ∀ w : World σ,
      ((∃ e w', (p.publish bundle service role space).exec w = (.error (.pipeline e), w') ∧
          e.kind = .missingInput) ↔
        ∃ secret ∈ secretGroup service role space p.authority, ∃ e ∈ secret.2, w.tree.isFile e.2 = false) ∧
      (∀ rs w', (p.publish bundle service role space).exec w = (.ok rs, w') →
        List.Forall₂ (BuiltFrom w.tree space) (secretGroup service role space p.authority) rs) ∧
      ∀ r ∈ ((p.noting.publish bundle service role space).exec { w with store := (w.store, []) }).2.store.2,
        ∃ secret ∈ secretGroup service role space p.authority, BuiltFrom w.tree space secret r) ∧
    (DryStore.store.Aloof ∧ DryStore.store.Candid) ∧
    ∀ api : ClusterApi σ, (ClusterApi.store api).Aloof ∧ (ClusterApi.store api).Candid := by
  refine ⟨fun p w secret h => ?_, fun p haloof hcandid w => ⟨?_, fun rs w' hrs => ?_, fun r hr => ?_⟩,
    ⟨DryStore.store_aloof, DryStore.store_candid⟩,
    fun api => ⟨ClusterApi.store_aloof api, ClusterApi.store_candid api⟩⟩
  · exact ⟨missing w.tree secret.2, sortedNames_pairwise _, sortedNames_perm _, rfl, exec_publish_of_lacking h,
      exec_publish_of_lacking (p := p.journaled) h⟩
  · cases h : (secretGroup service role space p.authority).find? (lacksFiles w.tree) with
    | some secret =>
      have hlacks : lacksFiles w.tree secret = true := List.find?_some h
      obtain ⟨e, he, hfile⟩ := List.any_eq_true.mp hlacks
      exact iff_of_true ⟨_, _, exec_publish_of_lacking h, rfl⟩
        ⟨secret, List.mem_of_find?_eq_some h, e, he, by simpa using hfile⟩
    | none =>
      have hfiles := find?_lacksFiles_eq_none.mp h
      refine iff_of_false ?_ ?_
      · rintro ⟨e, w', he, hkind⟩
        have hpublish := (publish_of_files haloof hcandid hfiles).1 e w' he
        exact absurd (hpublish.symm.trans hkind) (by decide)
      · rintro ⟨secret, hsecret, e, he, hfile⟩
        exact absurd (hfile.symm.trans (hfiles secret hsecret e he)) (by decide)
  · cases h : (secretGroup service role space p.authority).find? (lacksFiles w.tree) with
    | some secret =>
      rw [exec_publish_of_lacking h] at hrs
      cases hrs
    | none => exact (publish_of_files haloof hcandid (find?_lacksFiles_eq_none.mp h)).2 rs w' hrs
  · obtain ⟨-, rs, hrs, hbuilt⟩ := Writing.publish_group (t := w.tree) (p := p.noting) haloof rfl bundle service role
      space { w with store := (w.store, []) } rfl
    rw [hrs, List.nil_append] at hr
    exact hbuilt r hr

/-- A broker with the files of the specimen. -/
def broker : Profile where
  name := "a"
  layout := ⟨({} : Settings).tlsDirectory.child "a"⟩
  descriptor := { commonName := "a" }
  convention := .brokerOperator

/-- The files that were issued, but for the key of the authority. -/
def keylessTree : Tree := ⟨Pipeline.issuedTree.entries.filter (·.1 ≠ ["tls", "ca", "ca-key.pem"])⟩

/-- The publisher of a dry run with the files of the specimen. -/
def dryPublisher : Publisher DryStore := ⟨DryStore.store, .recreate, Pipeline.authorityFiles {}⟩

/-- A broker's five secrets are published with all files, and none of them without the key of the authority. -/
theorem broker_group_published_or_untouched :
    (dryPublisher.publish none broker .server "dev").exec { tree := keylessTree, store := {} } =
      (.error (.pipeline (.missingFiles "tls-a-server" ["caKey=tls/ca/ca-key.pem"])),
        { tree := keylessTree, store := {} }) ∧
    ∃ rs w', (dryPublisher.publish none broker .server "dev").exec { tree := Pipeline.issuedTree, store := {} } =
        (.ok rs, w') ∧
      rs.map (·.name) = ["tls-a-server", "dev-cluster-ca-cert", "dev-cluster-ca", "dev-clients-ca-cert",
        "dev-clients-ca"] ∧
      List.Forall₂ (BuiltFrom Pipeline.issuedTree "dev")
        (secretGroup broker .server "dev" dryPublisher.authority) rs := by
  obtain ⟨hlacking, hfiles, ⟨haloof, hcandid⟩, -⟩ :=
    group_published_or_untouched (σ := DryStore) none broker .server "dev"
  constructor
  · obtain ⟨lacking, -, hperm, -, hrun, -⟩ := hlacking dryPublisher { tree := keylessTree, store := {} }
      ("tls-a-server", dataEntries broker .server dryPublisher.authority) (by decide +kernel)
    have hone : unbacked keylessTree (dataEntries broker .server dryPublisher.authority) =
        ["caKey=tls/ca/ca-key.pem"] := by decide +kernel
    dsimp only at hperm hrun
    rw [hone] at hperm
    rw [hrun, List.perm_singleton.mp hperm]
  · obtain ⟨-, hbuilt, -⟩ := hfiles dryPublisher haloof hcandid { tree := Pipeline.issuedTree, store := {} }
    obtain ⟨rs, w', hrun⟩ := exists_of_isOk (dryPublisher.publish none broker .server "dev")
      { tree := Pipeline.issuedTree, store := {} } (by decide +kernel)
    have hrs := hbuilt rs w' hrun
    refine ⟨rs, w', hrun, ?_, hrs⟩
    rw [names_of_builtFrom hrs]
    decide +kernel

end Publisher

end ServiceTrust
