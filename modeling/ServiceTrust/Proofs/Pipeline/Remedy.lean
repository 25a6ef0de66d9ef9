/-
What a failure tells to do. A pipeline failure is `Actionable` if it names the step that failed and tells how
to look into it. Every failure of a build is, and every failure of a dry run. Of a deployment to a cluster
every failure is but one: the pair of token keys is published without a hint, and where the API rejects a
request about its secret the failure has none.
-/
import ServiceTrust.Proofs.Pipeline.BuildFailure
import ServiceTrust.Proofs.Pipeline.PartialDeploy

namespace ServiceTrust

open Stage Keystore

/-! ## Failures that tell what to do -/

theorem append_ne_empty {a b : String} (h : a ≠ "" ∨ b ≠ "") : a ++ b ≠ "" := by
  rw [ne_eq, String.append_eq_empty_iff]
  rintro ⟨ha, hb⟩
  exact h.elim (absurd ha) (absurd hb)

theorem StoreRequest.text_ne_empty (r : StoreRequest) : r.text ≠ "" := by
  cases r
  all_goals
    repeat refine append_ne_empty (.inl ?_)
    decide

theorem StoreFault.operation_ne_empty (f : StoreFault) : f.operation ≠ "" := by
  cases f with
  | rejected request => exact request.text_ne_empty
  | unreachable request => exact request.text_ne_empty
  | alreadyExists space name => exact (StoreRequest.create space name).text_ne_empty

namespace PipelineError

/-- The failure names the step that failed and tells how to look into it. -/
def Actionable (e : PipelineError) : Prop := e.operation ≠ "" ∧ ∃ hint, e.hint = some hint ∧ hint ≠ ""

theorem Actionable.of_isOwn {e : PipelineError} (h : e.isOwn = true) : e.Actionable := by
  cases e with
  | toolNotStarted | toolFailed | store => cases h
  | toolMissing =>
    exact ⟨show "locate keytool" ≠ "" by decide, _, rfl, show installHint ≠ "" by decide⟩
  | clusterConfig =>
    exact ⟨show "load cluster configuration" ≠ "" by decide, _, rfl, by decide⟩
  | _ =>
    refine ⟨?_, _, rfl, ?_⟩
    all_goals
      repeat refine append_ne_empty (.inl ?_)
      decide

theorem Actionable.toolFailed (status : Int) (output operation command : String) (store : Path) :
    (toolFailed status output operation command (some store)).Actionable := by
  have hcolon : ": " ≠ "" := by decide
  exact ⟨append_ne_empty (.inl (append_ne_empty (.inr hcolon))), _, rfl, append_ne_empty (.inl (by decide))⟩

end PipelineError

open PipelineError

variable {σ : Type} {host : Host} {s : Settings}

/-! ## Builds -/

theorem Keystore.Command.About.told {c : Command} {store : Path} (h : c.About store) :
    c.operation ≠ "" ∧ c.store = some store := by
  cases h
  all_goals
    refine ⟨?_, rfl⟩
    repeat refine append_ne_empty (.inl ?_)
    decide

theorem Keystore.Command.Failed.actionable {c : Command} {executable : String} {store : Path} {e : PipelineError}
    (h : c.Failed host executable e) (hc : c.About store) : e.Actionable := by
  obtain ⟨hoperation, hstore⟩ := hc.told
  cases h with
  | notStarted => exact ⟨hoperation, _, rfl, by decide⟩
  | ended => exact hstore ▸ .toolFailed _ _ _ _ _

namespace Bundle

variable {m : Material} {l : ServiceLayout} {executable password : String}

theorem Setback.actionable {e : PipelineError} (h : Setback host executable m l password e) : e.Actionable := by
  cases h with
  | tool hc h =>
    obtain ⟨a, -, habout⟩ := exists_of_forall₂ (commands_about l m password) hc
    exact h.actionable habout
  | locked => exact .of_isOwn rfl
  | withoutKey => exact .of_isOwn rfl
  | entries => exact .of_isOwn rfl
  | fingerprint => exact .of_isOwn rfl
  | fault => exact .of_isOwn rfl

end Bundle

namespace Pipeline

theorem build_actionable (force withTokenKeys : Bool) :
    FailsWithin Actionable (build host s force withTokenKeys : Stage σ BuildResult) :=
  build_fails (fun _ h => .of_isOwn h.isOwn) fun _ _ _ _ =>
    .bind (Issue.issue_fails.mono fun _ h => .of_isOwn h.isOwn) fun m =>
      .bind ((Issue.checkChain_fails m).mono fun _ => .of_isOwn) fun _ =>
      .bind (Bundle.bundle_fails.mono fun _ ⟨_, h⟩ => h.actionable) fun _ => .pure _

end Pipeline

/-! ## Requests to a cluster -/

/-- The secret about which a request was rejected. -/
def PipelineError.rejected? : PipelineError → Option (String × String)
  | .store (.rejected request _) _ => request.secret?
  | _ => none

/-- A failure is actionable, unless it is a rejected request about one of the secrets `unhinted`, which tells what
was asked for and no more. -/
inductive PipelineError.ActionableBut (unhinted : Set (String × String)) (e : PipelineError) : Prop
  | actionable (h : e.Actionable) (hother : ∀ key ∈ unhinted, e.rejected? ≠ some key)
  | rejected {key : String × String} (hkey : key ∈ unhinted) (hrejected : e.rejected? = some key)
    (hoperation : e.operation ≠ "") (hhint : e.hint = none)

namespace PipelineError.ActionableBut

variable {unhinted : Set (String × String)} {e : PipelineError}

theorem of_isOwn (h : e.isOwn = true) : e.ActionableBut unhinted := by
  have hnone : e.rejected? = none := by
    cases e with
    | store => cases h
    | _ => rfl
  exact .actionable (.of_isOwn h) fun key _ hkey => nomatch hnone.symm.trans hkey

theorem of_empty (h : e.ActionableBut ∅) : e.Actionable := by
  cases h with
  | actionable h => exact h
  | rejected hkey => exact (Set.notMem_empty _ hkey).elim

end PipelineError.ActionableBut

namespace ClusterApi

variable {api : ClusterApi σ} {key : String × String} {unhinted : Set (String × String)} {r : SecretRecord}

theorem operation_refusal (request : StoreRequest) (fault : ApiFault) (hint : Option String) :
    (PipelineError.store (refusal request fault) hint).operation ≠ "" := (refusal request fault).operation_ne_empty

/-- What is told of a refusal: of a connection that failed and of a namespace there is a hint; of a secret it is
the one that is given. -/
theorem hint_refusal (request : StoreRequest) (fault : ApiFault) (hint : Option String) :
    (PipelineError.store (refusal request fault) hint).hint =
      match fault, request.secret? with
      | .transport _, _ => some "kubectl cluster-info"
      | .status _ _, none => some "kubectl get namespaces"
      | .status _ _, some _ => hint := by
  cases fault <;> cases request <;> rfl

/-- A refusal is actionable if it is about no secret, or about one that is not `unhinted` and with a hint. -/
theorem refusal_actionableBut {request : StoreRequest} {hint : Option String} (fault : ApiFault)
    (h : ∀ key, request.secret? = some key → key ∉ unhinted ∧ ∃ text, hint = some text ∧ text ≠ "") :
    (PipelineError.store (refusal request fault) hint).ActionableBut unhinted := by
  have hoperation := operation_refusal request fault hint
  have hhint := hint_refusal request fault hint
  cases fault with
  | transport error => exact .actionable ⟨hoperation, _, hhint, by decide⟩ fun _ _ hkey => nomatch hkey
  | status code reason =>
    cases hsecret : request.secret? with
    | none =>
      rw [hsecret] at hhint
      exact .actionable ⟨hoperation, _, hhint, by decide⟩ fun _ _ hkey => nomatch hsecret.symm.trans hkey
    | some key =>
      obtain ⟨hother, text, rfl, hne⟩ := h key hsecret
      rw [hsecret] at hhint
      refine .actionable ⟨hoperation, text, hhint, hne⟩ fun key' hkey' hrejected => hother ?_
      rwa [Option.some.inj (hsecret.symm.trans hrejected)]

/-- A request about the secret `key` that the API did not fulfil, told with `hint`. -/
inductive Refused (key : String × String) (hint : Option String) : PipelineError → Prop
  | of {request : StoreRequest} (hkey : request.secret? = some key) (fault : ApiFault) :
    Refused key hint (.store (refusal request fault) hint)

theorem Refused.hinted {e : PipelineError} {hint : String} (h : Refused key (some hint) e) (hne : hint ≠ "")
    (hother : key ∉ unhinted) : e.ActionableBut unhinted := by
  cases h with
  | of hkey fault =>
    refine refusal_actionableBut fault fun own hown => ⟨?_, hint, rfl, hne⟩
    rwa [Option.some.inj (hown.symm.trans hkey)]

theorem Refused.of_mem {e : PipelineError} (h : Refused key none e) (hkey : key ∈ unhinted) :
    e.ActionableBut unhinted := by
  cases h with
  | @of request hsecret fault =>
    have hoperation := operation_refusal request fault none
    have hhint := hint_refusal request fault none
    cases fault with
    | transport error => exact .actionable ⟨hoperation, _, hhint, by decide⟩ fun _ _ hkey => nomatch hkey
    | status code reason =>
      rw [hsecret] at hhint
      exact .rejected hkey hsecret hoperation hhint

theorem call_fails {Q : PipelineError → Prop} (request : StateM σ (Except ApiFault Unit)) :
    FailsWithin Q (call request : Stage σ (Except ApiFault Unit)) :=
  .bind .get fun _ => .bind (.set _) fun _ => .pure _

theorem refuse_fails {α : Type} {Q : PipelineError → Prop} {request : StoreRequest} {fault : ApiFault}
    (h : Q (.store (refusal request fault) none)) : FailsWithin Q (refuse request fault : Stage σ α) := by
  intro w e w' he
  rw [exec_refuse] at he
  cases he
  exact h

theorem delete_fails : FailsWithin (Refused (r.space, r.name) none) (delete api r.name r.space) := by
  refine .bind (call_fails _) fun answer => ?_
  cases answer with
  | ok u => exact .bind (.log _ _ _) fun _ => .pure _
  | error fault => exact .ite (fun _ => .pure _) fun _ => refuse_fails (.of rfl fault)

theorem create_fails : FailsWithin (Refused (r.space, r.name) none) (create api r) := by
  refine .bind (call_fails _) fun answer => ?_
  cases answer with
  | ok u => exact .pure _
  | error fault => exact refuse_fails (.of rfl fault)

theorem replace_fails : FailsWithin (Refused (r.space, r.name) none) (replace api r) := by
  refine .bind (call_fails _) fun answer => ?_
  cases answer with
  | ok u => exact .pure _
  | error fault => exact .ite (fun _ => create_fails) fun _ => refuse_fails (.of rfl fault)

theorem ensureSpace_fails (space : String) : FailsWithin (ActionableBut unhinted) (ensureSpace api space) := by
  refine .bind (call_fails _) fun answer => ?_
  cases answer with
  | ok u => exact .pure _
  | error fault =>
    refine .ite (fun _ => refuse_fails (refusal_actionableBut _ nofun)) fun _ =>
      .bind (call_fails _) fun answer => ?_
    cases answer with
    | ok u => exact .bind (.log _ _ _) fun _ => .pure _
    | error fault => exact .ite (fun _ => .pure _) fun _ => refuse_fails (refusal_actionableBut _ nofun)

/-- What a publisher is told of a request that was not fulfilled, it hands on with its own hint. -/
theorem put_fails {strategy : ReplaceStrategy} {authority : AuthorityFiles} (r : SecretRecord) (hint : Option String) :
    FailsWithin (Refused (r.space, r.name) hint) ((⟨store api, strategy, authority⟩ : Publisher σ).put r hint) := by
  -- the store tells of a refusal without a hint, and the publisher puts its own in the place
  refine .bind (.tryCatch (R := Refused (r.space, r.name) none) ?_ (fun f => .throwFault f) fun e he => ?_)
    fun _ => .log _ _ _
  · cases strategy with
    | replace => exact replace_fails
    | recreate => exact .bind delete_fails fun _ => create_fails
  · cases he with
    | of hkey fault => exact .bind (.log _ _ _) fun _ => .fail (.of hkey fault)

end ClusterApi

/-! ## Deployments -/

namespace Publish

theorem remediationHint_ne_empty (name space : String) (keys : List String) : remediationHint name space keys ≠ "" := by
  have hfirst : s!"kubectl describe secret -n {space} {name}" ≠ "" := by
    repeat refine append_ne_empty (.inl ?_)
    decide
  unfold remediationHint
  generalize List.filterMap _ hintChecks = lines
  cases lines with
  | nil => rwa [String.intercalate_singleton]
  | cons line lines =>
    rw [String.intercalate_cons_of_ne_nil (by simp)]
    exact append_ne_empty (.inl (append_ne_empty (.inl hfirst)))

theorem kindOf_auxiliarySecret {profile : Profile} {role : Role} {space : String} {authority : AuthorityFiles}
    {a : AuxiliarySecret} (ha : a ∈ auxiliarySecrets profile role space authority) : kindOf a.name = .auxiliary := by
  have hrecord := List.mem_map_of_mem (f := fun a => fileRecord {} ⟨a.name, space, a.entries, a.labels, a.annotations,
    "none", "files", none⟩) ha
  rw [Puts.auxiliaries_eq] at hrecord
  split at hrecord
  · exact (of_mem_auxiliaryRecords hrecord).2
  · cases hrecord

end Publish

section Publishing

open Publish

variable {unhinted : Set (String × String)}

theorem Publisher.checkFiles_fails (secret : String) (es : Entries) :
    FailsWithin (ActionableBut unhinted) (checkFiles secret es : Stage σ Unit) := by
  refine .bind .tree fun t => ?_
  split
  · exact .pure _
  · exact .fail (.of_isOwn rfl)

theorem Publisher.publishFiles_fails {p : Publisher σ} {f : FileSecret}
    (hput : ∀ data,
      FailsWithin (ActionableBut unhinted) (p.put ⟨f.name, f.space, data, f.labels, f.annotations⟩ f.hint)) :
    FailsWithin (ActionableBut unhinted) (p.publishFiles f) :=
  .bind (checkFiles_fails _ _) fun _ => .bind (.mapM fun _ _ => .bind (.read _) fun _ => .pure _) fun _ =>
    .bind (hput _) fun _ => .bind (.count _) fun _ => .pure _

/-- A publisher hands on the refusals of its requests with its own hints. -/
def HandsOn (p : Publisher σ) : Prop :=
  ∀ r hint, FailsWithin (ClusterApi.Refused (r.space, r.name) hint) (p.put r hint)

namespace HandsOn

variable {p : Publisher σ} (hp : HandsOn p) (hu : ∀ key ∈ unhinted, kindOf key.2 = .token)
include hp hu

/-- A secret that is not one of token keys, put with a hint. -/
theorem put {r : SecretRecord} {hint : String} (hkind : kindOf r.name ≠ .token) (hne : hint ≠ "") :
    FailsWithin (ActionableBut unhinted) (p.put r (some hint)) :=
  (hp r _).mono fun _ h => h.hinted hne fun hm => hkind (hu _ hm)

theorem publish (service : Profile) (role : Role) (space : String) :
    FailsWithin (ActionableBut unhinted) (p.publish none service role space) := by
  have hhint := remediationHint_ne_empty (secretName service.name role) space
    ((dataEntries service role p.authority).map (·.1))
  refine .bind (Publisher.checkFiles_fails _ _) fun _ =>
    .bind (.forM fun a _ => Publisher.checkFiles_fails _ _) fun _ =>
    .bind (.mapM fun a ha => Publisher.publishFiles_fails fun _ => hp.put hu ?_ hhint) fun _ =>
    .bind (Publisher.publishFiles_fails fun _ => hp.put hu ?_ hhint) fun _ => .bind (.log _ _ _) fun _ => .pure _
  · rw [kindOf_auxiliarySecret ha]
    decide
  · rw [kindOf_secretName]
    decide

theorem publishCredentials (s : Settings) (space : String) :
    FailsWithin (ActionableBut unhinted) (Credentials.publish p s space) := by
  refine .mapM fun e he => .bind ?_ fun _ => .bind (.log _ _ _) fun _ => .pure _
  refine .bind (hp.put hu ?_ ?_) fun _ => .bind (.count _) fun _ => .pure _
  · rw [(names_values s space).2 e.1 (List.mem_map_of_mem he)]
    decide
  · repeat refine append_ne_empty (.inl ?_)
    decide

end HandsOn

end Publishing

namespace Pipeline

open Publish

variable {unhinted : Set (String × String)} {store : SecretStore σ} {tlsOnly : Bool}

/-- A deployment whose publisher hands on refusals fails as the publication of its token keys does, or
actionably. -/
theorem deploy_fails (space : Option String) (hu : ∀ key ∈ unhinted, kindOf key.2 = .token)
    (hp : HandsOn ⟨store, s.strategy, authorityFiles s⟩)
    (hensure : ∀ space, FailsWithin (ActionableBut unhinted) (store.ensureSpace space))
    (htokens : tlsOnly = false → FailsWithin (ActionableBut unhinted) (TokenKeys.publish
      ⟨store, s.strategy, authorityFiles s⟩ (.pairIn s.tokenDirectory false) (spaceOf s space) s.credentialsApp)) :
    FailsWithin (ActionableBut unhinted) (deploy store s space tlsOnly) := by
  have hservice (service : Profile) : FailsWithin (ActionableBut unhinted)
      (deployService ⟨store, s.strategy, authorityFiles s⟩ (spaceOf s space) service) := by
    have hroles : FailsWithin (ActionableBut unhinted) (do
        let records ← service.roles.mapM fun role =>
          (⟨store, s.strategy, authorityFiles s⟩ : Publisher σ).publish none service role
            ((service.space.filter (!·.isEmpty)).getD (spaceOf s space))
        return records.flatten) :=
      .bind (.mapM fun role _ => hp.publish hu service role _) fun _ => .pure _
    exact .ite (fun _ => .bind (hensure _) fun _ => hroles) fun _ => hroles
  have hall : FailsWithin (ActionableBut unhinted) (deployAll store s (spaceOf s space) tlsOnly) := by
    refine .bind ((discover_fails _).mono fun _ h => .of_isOwn h.isOwn) fun _ => .bind (hensure _) fun _ =>
      .bind (.mapM fun service _ => hservice service) fun _ => ?_
    cases tlsOnly with
    | true => exact .pure _
    | false => exact .bind (htokens rfl) fun _ => .bind (hp.publishCredentials hu s _) fun _ => .pure _
  exact .bind hall.counted fun _ => .bind (.log _ _ _) fun _ => .pure _

/-- The secret of the token keys of a deployment, with its namespace. -/
def tokenSecret (s : Settings) (space : Option String) : String × String :=
  (spaceOf s space, TokenKeys.secretName (spaceOf s space) s.credentialsApp)

theorem kindOf_tokenSecret (s : Settings) (space : Option String) : kindOf (tokenSecret s space).2 = .token :=
  kindOf_tokenRecord {} s (spaceOf s space)

/-- The secrets that a deployment publishes without a hint. -/
def unhintedSecrets (s : Settings) (space : Option String) (tlsOnly : Bool) : Set (String × String) :=
  {key | tlsOnly = false ∧ key = tokenSecret s space}

theorem deploy_cluster_fails (api : ClusterApi σ) (s : Settings) (space : Option String) (tlsOnly : Bool) :
    FailsWithin (ActionableBut (unhintedSecrets s space tlsOnly)) (deploy api.store s space tlsOnly) := by
  refine deploy_fails space ?_ (fun r hint => ClusterApi.put_fails r hint) (fun _ => ClusterApi.ensureSpace_fails _)
    fun htls => Publisher.publishFiles_fails fun _ => (ClusterApi.put_fails _ _).mono fun _ he => he.of_mem ⟨htls, rfl⟩
  rintro key ⟨-, rfl⟩
  exact kindOf_tokenSecret s space

/-- A dry run fails only for want of files. -/
theorem deploy_dry_fails (s : Settings) (space : Option String) (tlsOnly : Bool) :
    FailsWithin Actionable (deploy DryStore.store s space tlsOnly) := by
  have hput {Q : PipelineError → Prop} (r : SecretRecord) (hint : Option String) :
      FailsWithin Q ((⟨DryStore.store, s.strategy, authorityFiles s⟩ : Publisher DryStore).put r hint) := by
    intro w e w' h
    obtain ⟨log, hdone⟩ := Publisher.exec_put (p := ⟨DryStore.store, s.strategy, authorityFiles s⟩) rfl r hint w
    rw [hdone] at h
    cases h
  have hensure (space : String) : FailsWithin (ActionableBut ∅) (DryStore.store.ensureSpace space) :=
    .bind .get fun _ => .ite (fun _ => .pure _) fun _ => .bind (.modify _) fun _ => .bind (.log _ _ _) fun _ => .pure _
  -- no request of a dry run fails, so there is no secret to make an exception for
  exact (deploy_fails space (by simp) (fun r hint => hput r hint) hensure fun _ =>
    Publisher.publishFiles_fails fun _ => hput _ _).mono fun _ => ActionableBut.of_empty

end Pipeline

/-! ## What the program tells -/

namespace CommandLine

/-- What is printed about a failure: the step that failed and how to look into it, or the step alone for a rejected
request about the secret `key`. -/
inductive Tells (key : String × String) : List String → Prop
  | remedy (e : PipelineError) {hint : String} (hoperation : e.operation ≠ "") (hhint : hint ≠ "") :
    Tells key [s!"error: {e.message}", s!"failed operation: {e.operation}", "verify manually with:", hint]
  | rejected (e : PipelineError) (hrejected : e.rejected? = some key) (hoperation : e.operation ≠ "") :
    Tells key [s!"error: {e.message}", s!"failed operation: {e.operation}"]

theorem tells_of_actionable {key : String × String} {e : PipelineError} (h : e.Actionable) :
    Tells key (failureLines e) := by
  obtain ⟨hoperation, hint, hhint, hne⟩ := h
  have hlines : failureLines e =
      [s!"error: {e.message}", s!"failed operation: {e.operation}", "verify manually with:", hint] := by
    simp [failureLines, hhint, hoperation, hne]
  exact hlines ▸ .remedy e hoperation hne

theorem tells_of_actionableBut {key : String × String} {unhinted : Set (String × String)} {e : PipelineError}
    (h : e.ActionableBut unhinted) (hu : ∀ own ∈ unhinted, own = key) : Tells key (failureLines e) := by
  cases h with
  | actionable h => exact tells_of_actionable h
  | @rejected own hown hrejected hoperation hhint =>
    have hlines : failureLines e = [s!"error: {e.message}", s!"failed operation: {e.operation}"] := by
      simp [failureLines, hhint, hoperation]
    exact hlines ▸ .rejected e (hu own hown ▸ hrejected) hoperation

variable {api : ClusterApi σ}

theorem onOwnStore_fails {τ α : Type} {Q : PipelineError → Prop} {act : Stage τ α} (h : FailsWithin Q act) (s : τ) :
    FailsWithin Q (onOwnStore s act : Stage σ α) := by
  intro w e w' he
  exact h (w := { w with store := s }) (Prod.ext (Prod.mk.inj he).1 rfl)

theorem runCommand_fails (host : Host) (api : ClusterApi σ) (s : Settings) (c : Command) :
    FailsWithin (fun e => Tells (Pipeline.tokenSecret s none) (failureLines e)) (runCommand host api s c) := by
  cases c with
  | build o => exact .bind ((Pipeline.build_actionable _ _).mono fun _ => tells_of_actionable) fun _ => .pure _
  | deploy o =>
    refine .ite (fun _ => ?_) fun _ => .bind ?_ fun _ => .bind ?_ fun _ => .pure _
    · exact onOwnStore_fails (.bind ((Pipeline.deploy_dry_fails s none o.tlsOnly).mono fun _ => tells_of_actionable)
        fun _ => .pure _) _
    · refine .bind .tree fun t => ?_
      split
      · exact .fail (tells_of_actionable (.of_isOwn rfl))
      · exact .log _ _ _
    · exact (Pipeline.deploy_cluster_fails api s none o.tlsOnly).mono fun _ he =>
        tells_of_actionableBut he fun _ hown => hown.2

theorem runWith_tells {host : Host} {s : Settings} {c : Command} {w w' : World σ} {ending : Ending}
    (h : runWith host api s c w = (.ok ending, w')) (hstatus : ending.status ≠ 0) :
    Tells (Pipeline.tokenSecret s none) ending.errors := by
  rw [runWith_eq] at h
  rcases hrun : (runCommand host api s c).exec w with ⟨(f | e) | lines, v⟩
  · rw [hrun] at h
    cases h
  · rw [hrun] at h
    cases h
    exact runCommand_fails host api s c hrun
  · rw [hrun] at h
    cases h
    exact absurd rfl hstatus

end CommandLine

namespace Pipeline

/-- Every failure of a build names its step and tells how to look into it; so does every failure of a dry run, and
every failure of a deployment to a cluster, however its requests are answered, unless the API rejected a request
about the secret of the token keys: that has no hint. The program prints as much as there is. -/
theorem failures_actionable_but_token_keys (host : Host) (api : ClusterApi σ) (s : Settings) :
    (∀ force withTokenKeys, FailsWithin (σ := σ) Actionable (build host s force withTokenKeys)) ∧
    (∀ space tlsOnly,
      FailsWithin (ActionableBut (unhintedSecrets s space tlsOnly)) (deploy api.store s space tlsOnly)) ∧
    (∀ space tlsOnly, FailsWithin Actionable (deploy DryStore.store s space tlsOnly)) ∧
    ∀ c w ending w', CommandLine.runWith host api s c w = (.ok ending, w') → ending.status ≠ 0 →
      CommandLine.Tells (tokenSecret s none) ending.errors :=
  ⟨build_actionable, deploy_cluster_fails api s, deploy_dry_fails s, fun _ _ _ _ => CommandLine.runWith_tells⟩

/-- The API turns down the creation of the secret of the token keys. -/
def rejecting (calls : List ApiCall) : Option ApiFault :=
  if calls.getLast? = some ⟨"create", ["default", "default-api-jwt-keys"]⟩ then
    some (.status 500 (some "Internal Server Error")) else none

/-- The failure that it comes to. -/
def rejection : PipelineError :=
  .store (.rejected (.create "default" "default-api-jwt-keys") (some "Internal Server Error")) none

theorem rejected_token_keys_unhinted :
    ((deploy (ClusterApi.store (Cluster.api rejecting)) {}).exec { tree := issuedTree, store := {} }).1 =
        .error (.pipeline rejection) ∧
      rejection.ActionableBut (unhintedSecrets {} none false) ∧ rejection.hint = none := by
  have hfails := failureOf_eq_some (e := .pipeline rejection)
    ((deploy (ClusterApi.store (Cluster.api rejecting)) {}).exec { tree := issuedTree, store := {} }).1
    (by decide +kernel)
  obtain ⟨-, hdeploy, -⟩ := failures_actionable_but_token_keys Specimen.host (Cluster.api rejecting) {}
  exact ⟨hfails, hdeploy none false (Prod.ext hfails rfl), rfl⟩

end Pipeline

end ServiceTrust
