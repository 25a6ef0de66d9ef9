/-
What a deployment asks its store to write, whichever store that is and wherever the run stops. The
store is wrapped into one that notes every record before it passes the request on (`noting`). Whatever
is noted under the name of a role's secret is that secret of a service that was found, and all files
behind it were there (`Backed`).
-/
import ServiceTrust.Proofs.Pipeline.Deploy
import ServiceTrust.Publish.Cluster

namespace ServiceTrust

open Stage ServiceTrust.Tree Publish

variable {σ α β : Type} {t : Tree}

/-! ## Stores that leave the files alone -/

/-- Nothing but the files has to stay. -/
def Frame.untouched {σ : Type} : Frame σ := ⟨fun w w' => w'.tree = w.tree, fun h _ _ => h, fun h h' => h'.trans h⟩

/-- No request to the store changes a file. -/
structure SecretStore.Aloof (store : SecretStore σ) : Prop where
  delete : ∀ name space, Obeys .untouched (store.delete name space)
  create : ∀ r, Obeys .untouched (store.create r)
  replace : ∀ r, Obeys .untouched (store.replace r)
  ensureSpace : ∀ space, Obeys .untouched (store.ensureSpace space)

theorem modify_untouched {f : World σ → World σ} (h : ∀ w, (f w).tree = w.tree) :
    Obeys .untouched (modify f : Stage σ PUnit) := fun w => by
  rw [exec_modify]
  exact h w

theorem get_untouched : Obeys .untouched (get : Stage σ (World σ)) := fun _ => rfl

theorem DryStore.store_aloof : DryStore.store.Aloof := by
  have hcreate (r : SecretRecord) : Obeys .untouched (DryStore.create r) :=
    .bind get_untouched fun w => .ite (fun _ => .bind (.fail _) fun _ =>
      .bind (modify_untouched fun _ => rfl) fun _ => .log _ _ _) fun _ =>
      .bind (modify_untouched fun _ => rfl) fun _ => .log _ _ _
  refine ⟨fun name space => ?_, hcreate, fun r => ?_, fun space => ?_⟩
  · exact .bind get_untouched fun _ => .bind (modify_untouched fun _ => rfl) fun _ => .pure _
  · exact .bind (modify_untouched fun _ => rfl) fun _ => hcreate r
  · exact .bind get_untouched fun _ => .ite (fun _ => .pure _) fun _ =>
      .bind (modify_untouched fun _ => rfl) fun _ => .bind (.log _ _ _) fun _ => .pure _

theorem ClusterApi.store_aloof (api : ClusterApi σ) : (ClusterApi.store api).Aloof := by
  have hcall (request : StateM σ (Except ApiFault Unit)) : Obeys .untouched (ClusterApi.call request) :=
    fun _ => rfl
  have hrefuse {α : Type} (request : StoreRequest) (fault : ApiFault) :
      Obeys .untouched (ClusterApi.refuse request fault : Stage σ α) := by
    cases fault <;> exact .fail _
  have hcreate (r : SecretRecord) : Obeys .untouched (ClusterApi.create api r) :=
    .bind (hcall _) fun answer => by
      cases answer with
      | ok u => exact .pure _
      | error fault => exact hrefuse _ fault
  refine ⟨fun name space => .bind (hcall _) fun answer => ?_, hcreate, fun r => .bind (hcall _) fun answer => ?_,
    fun space => .bind (hcall _) fun answer => ?_⟩
  · cases answer with
    | ok u => exact .bind (.log _ _ _) fun _ => .pure _
    | error fault => exact .ite (fun _ => .pure _) fun _ => hrefuse _ fault
  · cases answer with
    | ok u => exact .pure _
    | error fault => exact .ite (fun _ => hcreate r) fun _ => hrefuse _ fault
  · cases answer with
    | ok u => exact .pure _
    | error fault =>
      refine .ite (fun _ => hrefuse _ fault) fun _ => .bind (hcall _) fun answer => ?_
      cases answer with
      | ok u => exact .bind (.log _ _ _) fun _ => .pure _
      | error fault => exact .ite (fun _ => .pure _) fun _ => hrefuse _ fault

/-! ## Notes -/

/-- A stage with notes beside the state of its store, which it leaves as they are. -/
def noted (act : Stage σ α) : Stage (σ × List SecretRecord) α := fun w =>
  let (outcome, v) := act.exec { w with store := w.store.1 }
  (outcome, { v with store := (v.store, w.store.2) })

def note (r : SecretRecord) : Stage (σ × List SecretRecord) Unit :=
  modify fun w => { w with store := (w.store.1, w.store.2 ++ [r]) }

/-- The store that notes what it is to write, and then writes it. -/
def SecretStore.noting (store : SecretStore σ) : SecretStore (σ × List SecretRecord) where
  delete name space := noted (store.delete name space)
  create r := do
    note r
    noted (store.create r)
  replace r := do
    note r
    noted (store.replace r)
  ensureSpace space := noted (store.ensureSpace space)

/-- The records that a deployment asks its store to write, in order. -/
def Pipeline.written (store : SecretStore σ) (s : Settings) (space : Option String) (tlsOnly : Bool)
    (w : World σ) : List SecretRecord :=
  ((Pipeline.deploy store.noting s space tlsOnly).exec { w with store := (w.store, []) }).2.store.2

/-- From the files `t`, which stay, nothing is noted but records with `Good`. -/
def Frame.writing {σ : Type} (t : Tree) (Good : SecretRecord → Prop) : Frame (σ × List SecretRecord) where
  rel w w' := w.tree = t → w'.tree = t ∧ ∃ rs, w'.store.2 = w.store.2 ++ rs ∧ ∀ r ∈ rs, Good r
  quiet ht hs _ hw := ⟨ht.trans hw, [], by simp [hs], by simp⟩
  trans h h' hw := by
    obtain ⟨ht, rs, hrs, hgood⟩ := h hw
    obtain ⟨ht', rs', hrs', hgood'⟩ := h' ht
    refine ⟨ht', rs ++ rs', by rw [hrs', hrs, List.append_assoc], fun r hr => ?_⟩
    exact (List.mem_append.mp hr).elim (hgood r) (hgood' r)

namespace Writing

variable {Good : SecretRecord → Prop} {p : Publisher (σ × List SecretRecord)} {store : SecretStore σ}
  {r : SecretRecord}

theorem noted {act : Stage σ α} (h : Obeys .untouched act) : Obeys (.writing t Good) (noted act) := fun w hw =>
  ⟨(h { w with store := w.store.1 }).trans hw, [], (List.append_nil _).symm, by simp⟩

theorem note (hr : Good r) : Obeys (.writing t Good) (note r : Stage (σ × List SecretRecord) Unit) := fun _ hw =>
  ⟨hw, [r], rfl, by simpa using hr⟩

/-- What follows a stage that returned has the files to go by. -/
theorem bind {act : Stage (σ × List SecretRecord) α} {f : α → Stage (σ × List SecretRecord) β}
    (h : Obeys (.writing t Good) act)
    (hf : ∀ w a w', w.tree = t → act.exec w = (.ok a, w') → Obeys (.writing t Good) (f a)) :
    Obeys (.writing t Good) (act >>= f) := fun w hw => by
  refine bind_outcome (P := fun w' => w'.tree = t ∧ ∃ rs, w'.store.2 = w.store.2 ++ rs ∧ ∀ r ∈ rs, Good r)
    (fun e w₁ he => h.ran he hw) fun a w₁ ha => ?_
  exact Frame.trans (.writing t Good) (h.ran ha) (hf w a w₁ hw ha w₁) hw

/-! ## Publishers -/

variable (haloof : store.Aloof) (hp : p.store = store.noting)
include haloof hp

theorem put (hr : Good r) (hint : Option String) : Obeys (.writing t Good) (p.put r hint) := by
  obtain ⟨noting, strategy, authority⟩ := p
  obtain rfl : noting = store.noting := hp
  unfold Publisher.put
  refine .bind (.tryCatch ?_ fun e => ?_) fun _ => .log _ _ _
  · cases strategy with
    | replace => exact .bind (note hr) fun _ => noted (haloof.replace r)
    | recreate =>
      exact .bind (noted (haloof.delete r.name r.space)) fun _ =>
        .bind (note hr) fun _ => noted (haloof.create r)
  · split
    · exact .bind (.log _ _ _) fun _ => .fail _
    · exact .throw _

omit haloof hp in
theorem checkFiles_still (secret : String) (es : Entries) :
    Obeys .still (Publisher.checkFiles secret es : Stage σ Unit) :=
  .bind .tree fun t => by
    split
    · exact .pure _
    · exact .fail _

omit haloof hp in
theorem checkFiles_ok {secret : String} {es : Entries} {w w' : World σ} {u : Unit}
    (h : (Publisher.checkFiles secret es).exec w = (.ok u, w')) : HasFiles w.tree es := by
  unfold Publisher.checkFiles at h
  obtain ⟨_, _, ⟨rfl, rfl⟩, h⟩ := (by simpa only [bind_ok, tree_ok] using h)
  split at h
  next hm => exact Puts.missing_eq_nil.mp hm
  next => exact (fail_ok.mp h).elim

omit haloof hp in
theorem readEntries_still (es : Entries) :
    Obeys .still (Publisher.readEntries es : Stage σ (List (String × Bytes))) :=
  .mapM fun _ _ => .bind (.read _) fun _ => .pure _

omit haloof hp in
theorem readEntries_ok {es : Entries} {w w' : World σ} {data : List (String × Bytes)}
    (h : (Publisher.readEntries es).exec w = (.ok data, w')) : data = contents w.tree es := by
  unfold Publisher.readEntries at h
  induction es generalizing data w with
  | nil => exact (pure_ok.mp h).1
  | cons e es ih =>
    rw [List.mapM_cons] at h
    simp only [bind_ok, read_ok, pure_ok] at h
    obtain ⟨_, _, ⟨bytes, _, ⟨hread, rfl⟩, rfl, rfl⟩, rest, w₂, hrest, rfl, rfl⟩ := h
    rw [ih hrest]
    simp [contents, hread, Except.toOption]

/-- Only what is backed by its files is written, and so it suffices that such a record is good. -/
theorem publishFiles {f : Publisher.FileSecret} (hgood : HasFiles t f.entries → Good (fileRecord t f)) :
    Obeys (.writing t Good) (p.publishFiles f) := by
  unfold Publisher.publishFiles
  refine bind (checkFiles_still _ _).of_still fun w _ _ hw hcheck => ?_
  have hfiles := hw ▸ checkFiles_ok hcheck
  refine bind (readEntries_still _).of_still fun v data _ hv hread => ?_
  obtain rfl := hv ▸ readEntries_ok hread
  exact .bind (put haloof hp (hgood hfiles) _) fun _ => .bind (.count _) fun _ => .pure _

theorem publishLiteral {name space : String} {values : List (String × String)} {kind : String}
    (hgood : Good (literalRecord name space values)) :
    Obeys (.writing t Good) (p.publishLiteral name space values kind) :=
  .bind (put haloof hp hgood _) fun _ => .bind (.count _) fun _ => .pure _

theorem publish {profile : Profile} {role : Role} {space : String}
    (hprimary : HasFiles t (dataEntries profile role p.authority) →
      Good (primaryRecord t p.authority space profile role))
    (hauxiliary : ∀ r ∈ auxiliaryRecords t p.authority space, Good r) (bundle : Option Bundle) :
    Obeys (.writing t Good) (p.publish bundle profile role space) := by
  refine .bind (checkFiles_still _ _).of_still fun _ =>
    .bind (.forM fun a _ => (checkFiles_still _ _).of_still) fun _ =>
    .bind (.mapM fun a ha => publishFiles haloof hp fun _ => ?_) fun _ =>
    .bind (publishFiles haloof hp hprimary) fun _ => .bind (.log _ _ _) fun _ => .pure _
  have hmem := List.mem_map_of_mem (f := fun a : AuxiliarySecret => fileRecord t
    ⟨a.name, space, a.entries, a.labels, a.annotations, profile.convention.name, "auxiliary",
      some (remediationHint (secretName profile.name role) space
        ((dataEntries profile role p.authority).map (·.1)))⟩) ha
  rw [Puts.auxiliaries_eq] at hmem
  split at hmem
  · exact hauxiliary _ hmem
  · cases hmem

end Writing

/-! ## A deployment -/

namespace Pipeline

variable {s : Settings} {space : String} {store : SecretStore σ}

/-- If `r` is the secret of a role by its name, then it is the one of a service of that name, and all
files behind it are there. -/
def Backed (t : Tree) (s : Settings) (space : String) (r : SecretRecord) : Prop :=
  ∀ service role, r.name = secretName service role → ∃ ps target,
    Discovery.profilesIn t s.tlsDirectory space s.defaultSpace = .ok ps ∧ ∃ p ∈ ps, p.name = service ∧
      HasFiles t (dataEntries p role (authorityFiles s)) ∧
      r = primaryRecord t (authorityFiles s) target p role

theorem Backed.of_kind {r : SecretRecord} (h : kindOf r.name ≠ .primary) : Backed t s space r :=
  fun service role hname => absurd (hname ▸ kindOf_secretName service role) h

theorem Backed.primary {ps : List Profile} {p : Profile} {role : Role} {target : String}
    (hps : Discovery.profilesIn t s.tlsDirectory space s.defaultSpace = .ok ps) (hp : p ∈ ps)
    (hfiles : HasFiles t (dataEntries p role (authorityFiles s))) :
    Backed t s space (primaryRecord t (authorityFiles s) target p role) := by
  intro service role' hname
  obtain ⟨rfl, rfl⟩ := secretName_inj hname
  exact ⟨ps, target, hps, p, hp, rfl, hfiles, rfl⟩

variable (haloof : store.Aloof)
include haloof

theorem ensureSpace_writes {Good : SecretRecord → Prop} (target : String) :
    Obeys (.writing t Good) (store.noting.ensureSpace target) := Writing.noted (haloof.ensureSpace target)

theorem deployService_writes {ps : List Profile}
    (hps : Discovery.profilesIn t s.tlsDirectory space s.defaultSpace = .ok ps) {service : Profile}
    (hmem : service ∈ ps) :
    Obeys (.writing t (Backed t s space))
      (deployService ⟨store.noting, s.strategy, authorityFiles s⟩ space service) := by
  have hwork (target : String) : Obeys (.writing t (Backed t s space)) (do
      let records ← service.roles.mapM fun role =>
        Publisher.publish ⟨store.noting, s.strategy, authorityFiles s⟩ none service role target
      return records.flatten : Stage (σ × List SecretRecord) (List SecretRecord)) := by
    refine .bind (.mapM fun role _ => Writing.publish haloof rfl (fun hfiles => ?_) (fun r hr => ?_) none)
      fun _ => .pure _
    · exact .primary hps hmem hfiles
    · exact .of_kind (by rw [(of_mem_auxiliaryRecords hr).2]; decide)
  unfold deployService
  dsimp only
  split
  · exact .bind (ensureSpace_writes haloof _) fun _ => hwork _
  · exact hwork _

theorem tokenKeys_writes :
    Obeys (.writing t (Backed t s space)) (TokenKeys.publish ⟨store.noting, s.strategy, authorityFiles s⟩
      (TokenKeys.pairIn s.tokenDirectory false) space s.credentialsApp) := by
  have hkind : kindOf (TokenKeys.secretName space s.credentialsApp) ≠ .primary := by
    have htoken : kindOf (TokenKeys.secretName space s.credentialsApp) = .token := kindOf_tokenRecord t s space
    simp [htoken]
  exact Writing.publishFiles haloof rfl fun _ => .of_kind hkind

theorem credentials_writes :
    Obeys (.writing t (Backed t s space))
      (Credentials.publish ⟨store.noting, s.strategy, authorityFiles s⟩ s space) := by
  refine .mapM fun e he => .bind (Writing.publishLiteral haloof rfl (.of_kind ?_)) fun _ =>
    .bind (.log _ _ _) fun _ => .pure _
  rw [show kindOf (literalRecord e.1 space e.2).name = .credential from
    (names_values s space).2 e.1 (List.mem_map_of_mem he)]
  decide

theorem deployAll_writes (space : String) (tlsOnly : Bool) :
    Obeys (.writing t (Backed t s space)) (deployAll store.noting s space tlsOnly) := by
  unfold deployAll
  dsimp only
  refine Writing.bind discover_still.of_still fun w ps _ hw hps => ?_
  obtain ⟨hps, -⟩ := discover_ok hps
  rw [hw] at hps
  refine .bind (ensureSpace_writes haloof _) fun _ =>
    .bind (.mapM fun service hmem => deployService_writes haloof hps hmem) fun _ => ?_
  split
  · exact .pure _
  · exact .bind (tokenKeys_writes haloof) fun _ => .bind (credentials_writes haloof) fun _ => .pure _

/-- A deployment leaves the files alone, and what it writes is backed by them. -/
theorem deploy_writes (space : Option String) (tlsOnly : Bool) (w : World σ) :
    ((deploy store.noting s space tlsOnly).exec { w with store := (w.store, []) }).2.tree = w.tree ∧
      ∀ r ∈ written store s space tlsOnly w, Backed w.tree s (spaceOf s space) r := by
  have hall := deployAll_writes (t := w.tree) (s := s) haloof (spaceOf s space) tlsOnly
  have hdeploy : Obeys (.writing w.tree (Backed w.tree s (spaceOf s space)))
      (deploy store.noting s space tlsOnly) :=
    .bind (counted_obeys hall) fun _ => .bind (.log _ _ _) fun _ => .pure _
  obtain ⟨ht, rs, hrs, hgood⟩ := hdeploy { w with store := (w.store, []) } rfl
  refine ⟨ht, fun r hr => hgood r ?_⟩
  rwa [written, hrs, List.nil_append] at hr

end Pipeline

end ServiceTrust
