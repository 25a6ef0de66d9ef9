/-
Secrets go into namespaces that were ensured. That is said once for all stores that can tell which
namespaces are there (`Houses`): a request about a secret of such a namespace keeps what is good and drops no
namespace. Both a store with a journal and the store of a dry run are of this kind; for the first, good is an
orderly journal, for the second that every record has its namespace. What a part of a deployment relies on is
the set of namespaces that were ensured before it.
-/
import ServiceTrust.Proofs.Pipeline.PartialDeploy
import ServiceTrust.Proofs.Publish.Journal

namespace ServiceTrust

open Stage Journal

variable {σ α β : Type} {good : σ → Prop} {spaces : σ → Set String} {S S' : Set String}

/-- As long as the namespaces of `S` are there, what is good stays so, and no namespace goes away. -/
def Frame.housing {σ : Type} (good : σ → Prop) (spaces : σ → Set String) (S : Set String) : Frame σ where
  rel w w' := good w.store → S ⊆ spaces w.store → good w'.store ∧ spaces w.store ⊆ spaces w'.store
  quiet _ hs _ hgood _ := by
    rw [hs]
    exact ⟨hgood, subset_rfl⟩
  trans h h' hgood hS := by
    obtain ⟨hgood', hgrow⟩ := h hgood hS
    obtain ⟨hgood'', hgrow'⟩ := h' hgood' (hS.trans hgrow)
    exact ⟨hgood'', hgrow.trans hgrow'⟩

/-- Each request about a secret relies on its namespace alone, and the one that ensures a namespace on none;
if that returned, the namespace is there. -/
structure SecretStore.Houses (store : SecretStore σ) (good : σ → Prop) (spaces : σ → Set String) : Prop where
  delete : ∀ name space, Obeys (.housing good spaces {space}) (store.delete name space)
  create : ∀ r, Obeys (.housing good spaces {r.space}) (store.create r)
  replace : ∀ r, Obeys (.housing good spaces {r.space}) (store.replace r)
  ensureSpace : ∀ space, Obeys (.housing good spaces ∅) (store.ensureSpace space)
  ensures : ∀ space w made w', (store.ensureSpace space).exec w = (.ok made, w') → space ∈ spaces w'.store

namespace Housing

theorem mono {act : Stage σ α} (h : Obeys (.housing good spaces S) act) (hS : S ⊆ S') :
    Obeys (.housing good spaces S') act := h.mono fun hw hgood hS' => hw hgood (hS.trans hS')

variable {store : SecretStore σ} {p : Publisher σ} (h : store.Houses good spaces)
include h

/-- What follows once a namespace was ensured may rely on it. -/
theorem ensuring {target : String} {rest : Bool → Stage σ α}
    (hrest : ∀ made, Obeys (.housing good spaces (insert target S)) (rest made)) :
    Obeys (.housing good spaces S) (store.ensureSpace target >>= rest) := fun w hgood hS => by
  refine bind_outcome (P := fun w' => good w'.store ∧ spaces w.store ⊆ spaces w'.store)
    (fun e w₁ he => ?_) fun made w₁ hmade => ?_
  · exact (h.ensureSpace target).ran he hgood (Set.empty_subset _)
  · obtain ⟨hgood₁, hgrow⟩ := (h.ensureSpace target).ran hmade hgood (Set.empty_subset _)
    -- the namespaces that the rest relies on: the new one, and those that were there and did not go away
    have hthere : insert target S ⊆ spaces w₁.store :=
      Set.insert_subset (h.ensures target w made w₁ hmade) (hS.trans hgrow)
    obtain ⟨hgood', hgrow'⟩ := hrest made w₁ hgood₁ hthere
    exact ⟨hgood', hgrow.trans hgrow'⟩

/-! ## Publishers -/

variable (hp : p.store = store)
include hp

theorem put {r : SecretRecord} (hr : r.space ∈ S) (hint : Option String) :
    Obeys (.housing good spaces S) (p.put r hint) := by
  subst hp
  have hS : {r.space} ⊆ S := Set.singleton_subset_iff.mpr hr
  unfold Publisher.put
  refine .bind (.tryCatch ?_ fun e => ?_) fun _ => .log _ _ _
  · cases p.strategy with
    | replace => exact mono (h.replace r) hS
    | recreate => exact .bind (mono (h.delete r.name r.space) hS) fun _ => mono (h.create r) hS
  · split
    · exact .bind (.log _ _ _) fun _ => .fail _
    · exact .throw _

theorem publishFiles {f : Publisher.FileSecret} (hf : f.space ∈ S) :
    Obeys (.housing good spaces S) (p.publishFiles f) :=
  .bind (Writing.checkFiles_still _ _).of_still fun _ =>
    .bind (Writing.readEntries_still _).of_still fun _ =>
      .bind (put h hp hf _) fun _ => .bind (.count _) fun _ => .pure _

theorem publish {space : String} (hspace : space ∈ S) (bundle : Option Bundle) (service : Profile) (role : Role) :
    Obeys (.housing good spaces S) (p.publish bundle service role space) :=
  .bind (Writing.checkFiles_still _ _).of_still fun _ =>
    .bind (.forM fun _ _ => (Writing.checkFiles_still _ _).of_still) fun _ =>
      .bind (.mapM fun _ _ => publishFiles h hp hspace) fun _ =>
        .bind (publishFiles h hp hspace) fun _ => .bind (.log _ _ _) fun _ => .pure _

theorem publishCredentials {space : String} (hspace : space ∈ S) (s : Settings) :
    Obeys (.housing good spaces S) (Credentials.publish p s space) :=
  .mapM fun _ _ => .bind (.bind (put h hp hspace _) fun _ => .bind (.count _) fun _ => .pure _) fun _ =>
    .bind (.log _ _ _) fun _ => .pure _

/-! ## A deployment -/

theorem deployService {space : String} (hspace : space ∈ S) (service : Profile) :
    Obeys (.housing good spaces S) (Pipeline.deployService p space service) := by
  have hwork {S : Set String} {target : String} (ht : target ∈ S) : Obeys (.housing good spaces S) (do
      let records ← service.roles.mapM fun role => p.publish none service role target
      return records.flatten) :=
    .bind (.mapM fun role _ => publish h hp ht none service role) fun _ => .pure _
  unfold Pipeline.deployService
  dsimp only
  generalize (service.space.filter (!·.isEmpty)).getD space = target
  split
  next =>
    rw [hp]
    exact ensuring h fun _ => hwork (Set.mem_insert target S)
  next hsame =>
    -- the namespace of the deployment was ensured before its first service
    obtain rfl : target = space := not_not.mp hsame
    exact hwork hspace

omit hp in
theorem deployAll (s : Settings) (space : String) (tlsOnly : Bool) :
    Obeys (.housing good spaces ∅) (Pipeline.deployAll store s space tlsOnly) := by
  have hspace : space ∈ insert space (∅ : Set String) := Set.mem_insert ..
  unfold Pipeline.deployAll
  dsimp only
  refine .bind Pipeline.discover_still.of_still fun _ => ensuring h fun _ =>
    .bind (.mapM fun service _ => deployService h rfl hspace service) fun _ => ?_
  split
  · exact .pure _
  · exact .bind (publishFiles h rfl hspace) fun _ =>
      .bind (publishCredentials h rfl hspace s) fun _ => .pure _

omit hp in
/-- A deployment relies on no namespace that was there before. -/
theorem deploy (s : Settings) (space : Option String) (tlsOnly : Bool) (w : World σ) (hgood : good w.store) :
    good ((Pipeline.deploy store s space tlsOnly).exec w).2.store := by
  have hdeploy : Obeys (.housing good spaces ∅) (Pipeline.deploy store s space tlsOnly) :=
    .bind (Pipeline.counted_obeys (deployAll h s _ tlsOnly)) fun _ => .bind (.log _ _ _) fun _ => .pure _
  exact (hdeploy w hgood (Set.empty_subset _)).1

end Housing

/-! ## The stores -/

/-- A store with a journal, whatever store that is. -/
theorem SecretStore.journaled_houses (store : SecretStore σ) :
    store.journaled.Houses (fun v => Orderly v.2) fun v => ensured v.2 := by
  have hserved {α : Type} {call : StoreCall} {act : Stage σ α} {S : Set String}
      (hS : ∀ space, call.subject? = some space → space ∈ S) :
      Obeys (.housing (fun v => Orderly v.2) (fun v => ensured v.2) S) (journaling call act) :=
    fun w horderly hthere =>
      ⟨horderly.concat fun space hspace => hthere (hS space hspace), ensured_append _ _⟩
  refine ⟨fun name space => hserved ?_, fun r => hserved ?_, fun r => hserved ?_, fun space => hserved ?_,
    fun space w made w' hmade => ?_⟩
  · rintro _ ⟨⟩
    rfl
  · rintro _ ⟨⟩
    rfl
  · rintro _ ⟨⟩
    rfl
  · rintro _ ⟨⟩
  · obtain ⟨hok, rfl⟩ := Prod.mk.inj hmade
    exact List.mem_append_right _ (by simp [hok, Except.isOk, Except.toBool])

namespace DryStore

/-- Each record has its namespace. -/
def Housed (d : DryStore) : Prop := ∀ r ∈ d.records, r.space ∈ d.spaces

variable {d : DryStore} {r : SecretRecord}

theorem Housed.erase (h : d.Housed) (name space : String) : (d.erase name space).Housed := fun r hr =>
  h r (List.mem_of_mem_filter hr)

theorem Housed.insert (h : d.Housed) (hr : r.space ∈ d.spaces) : (d.insert r).Housed := by
  intro q hq
  rcases List.mem_append.mp hq with hq | hq
  · exact h q hq
  · obtain rfl := List.mem_singleton.mp hq
    exact hr

theorem store_houses : store.Houses Housed fun d => {space | space ∈ d.spaces} where
  delete name space w hhoused _ := ⟨hhoused.erase name space, subset_rfl⟩
  create r w hhoused hthere := by
    have hspace : r.space ∈ w.store.spaces := hthere rfl
    by_cases hr : (w.store.get? r.name r.space).isSome = true
    · rw [show (store.create r).exec w = _ from exec_create_present hr]
      exact ⟨hhoused, subset_rfl⟩
    · obtain ⟨log, hw'⟩ := exec_create (r := r) (w := w) (by simpa using hr)
      rw [show (store.create r).exec w = _ from hw']
      exact ⟨hhoused.insert hspace, subset_rfl⟩
  replace r w hhoused hthere := by
    have hspace : r.space ∈ w.store.spaces := hthere rfl
    obtain ⟨log, hw'⟩ := exec_replace (r := r) w
    rw [show (store.replace r).exec w = _ from hw']
    exact ⟨(hhoused.erase r.name r.space).insert hspace, subset_rfl⟩
  ensureSpace space w hhoused _ := by
    by_cases hspace : space ∈ w.store.spaces
    · rw [show (store.ensureSpace space).exec w = _ from exec_ensureSpace_present hspace]
      exact ⟨hhoused, subset_rfl⟩
    · obtain ⟨log, hw'⟩ := exec_ensureSpace_absent hspace
      rw [show (store.ensureSpace space).exec w = _ from hw']
      exact ⟨fun r hr => List.mem_append_left _ (hhoused r hr), fun x hx => List.mem_append_left _ hx⟩
  ensures space w made w' hmade := by
    by_cases hspace : space ∈ w.store.spaces
    · obtain ⟨-, rfl⟩ := Prod.mk.inj ((exec_ensureSpace_present hspace).symm.trans hmade)
      exact hspace
    · obtain ⟨log, hw'⟩ := exec_ensureSpace_absent hspace
      obtain ⟨-, rfl⟩ := Prod.mk.inj (hw'.symm.trans hmade)
      exact List.mem_append_right _ (List.mem_singleton_self space)

end DryStore

/-! ## Requests of a deployment -/

namespace Pipeline

/-- What a deployment asks its store for, in order, and what of it was fulfilled. -/
def requests (store : SecretStore σ) (s : Settings) (space : Option String) (tlsOnly : Bool) (w : World σ) :
    List Served :=
  ((deploy store.journaled s space tlsOnly).exec { w with store := (w.store, []) }).2.store.2

/-- However a deployment ends and whatever its store is, at every request about a secret the namespace of the
secret was ensured before in the same run. The journal of a steady store is that of the run itself: with it the
deployment ends the same, over the same files, with the store in the same state; and both stores of the program
are steady. In a dry run every record keeps having its namespace. -/
theorem deploy_writes_into_ensured_spaces (s : Settings) (space : Option String) (tlsOnly : Bool) :
    (∀ (store : SecretStore σ) (w : World σ), Orderly (requests store s space tlsOnly w) ∧
      (store.Steady → ∃ outcome w' v', (deploy store s space tlsOnly).exec w = (outcome, w') ∧
        (deploy store.journaled s space tlsOnly).exec { w with store := (w.store, []) } = (outcome, v') ∧
        v'.tree = w'.tree ∧ v'.store = (w'.store, requests store s space tlsOnly w))) ∧
    DryStore.store.Steady ∧ (∀ api : ClusterApi σ, (ClusterApi.store api).Steady) ∧
    ∀ w : World DryStore, w.store.Housed →
      ((deploy DryStore.store s space tlsOnly).exec w).2.store.Housed := by
  refine ⟨fun store w => ⟨?_, fun hsteady => ?_⟩, DryStore.store_steady, ClusterApi.store_steady, fun w hhoused => ?_⟩
  · exact Housing.deploy store.journaled_houses s space tlsOnly { w with store := (w.store, []) } .nil
  · have halike := Alike.deploy (hsteady.journaled.publishers s.strategy (authorityFiles s)) space tlsOnly
    obtain ⟨outcome, w', v', hw, hv, htree, hstate⟩ :=
      halike.ends (w := w) (v := { w with store := (w.store, []) }) ⟨rfl, rfl⟩
    have hjournal : requests store s space tlsOnly w = v'.store.2 :=
      congrArg (fun run => run.2.store.2) (show (deploy store.journaled s space tlsOnly).exec _ = _ from hv)
    exact ⟨outcome, w', v', hw, hv, htree.symm, Prod.ext hstate hjournal.symm⟩
  · exact Housing.deploy DryStore.store_houses s space tlsOnly w hhoused

/-- The secret that could not be created. -/
def uncreated? : Served → Option (String × String)
  | ⟨.create r, false⟩ => some (r.space, r.name)
  | _ => none

theorem of_uncreated? {js : List Served} {key : String × String} (h : js.getLast?.bind uncreated? = some key) :
    ∃ before r, js = before ++ [⟨.create r, false⟩] ∧ (r.space, r.name) = key := by
  obtain ⟨j, hj, hkey⟩ := Option.bind_eq_some_iff.mp h
  obtain ⟨before, rfl⟩ := List.getLast?_eq_some_iff.mp hj
  unfold uncreated? at hkey
  split at hkey
  next r => exact ⟨before, r, rfl, Option.some.inj hkey⟩
  next => cases hkey

/-- The requests of a deployment into `dev` to a cluster that gives out. -/
def cutOffRequests : List Served :=
  requests (ClusterApi.store (Cluster.api cutOff)) { strategy := .recreate } (some "dev") false cutOffWorld

set_option maxRecDepth 100000 in
/-- The service has no place of its own: its secrets go into `default`, not into `dev`. The run ends as one of
them cannot be created, and `default` was ensured before. A dry run makes both namespaces. -/
theorem cut_off_deploy_ensured_space :
    (∃ before r, cutOffRequests = before ++ [⟨.create r, false⟩] ∧ (r.space, r.name) = ("default", "tls-a-peer") ∧
      "default" ∈ ensured before ∧ ∃ outcome w', outcome.isOk = false ∧ w'.store.spaces = ["dev", "default"] ∧
        (deploy (ClusterApi.store (Cluster.api cutOff)) { strategy := .recreate } (some "dev") false).exec cutOffWorld =
          (outcome, w')) ∧
    ∃ d, d = ((deploy DryStore.store {} (some "dev") false).exec { tree := issuedTree, store := {} }).2.store ∧
      d.Housed ∧ d.spaces = ["dev", "default"] ∧ d.records.length = 7 := by
  obtain ⟨hcluster, -, hsteady, -⟩ :=
    deploy_writes_into_ensured_spaces (σ := Cluster) { strategy := .recreate } (some "dev") false
  obtain ⟨-, -, -, hdry⟩ := deploy_writes_into_ensured_spaces (σ := Cluster) {} (some "dev") false
  obtain ⟨horderly, hsame⟩ := hcluster (ClusterApi.store (Cluster.api cutOff)) cutOffWorld
  have hlast : cutOffRequests.getLast?.bind uncreated? = some ("default", "tls-a-peer") := by decide +kernel
  obtain ⟨before, r, hrequests, hr⟩ := of_uncreated? hlast
  refine ⟨⟨before, r, hrequests, hr, ?_, ?_⟩, _, rfl, ?_, by decide +kernel⟩
  · exact horderly before ⟨.create r, false⟩ [] hrequests _ (congrArg some (Prod.mk.inj hr).1)
  · have hends : (fun run => (run.1.isOk, run.2.store.spaces)) ((deploy (ClusterApi.store (Cluster.api cutOff))
        { strategy := .recreate } (some "dev") false).exec cutOffWorld) = (false, ["dev", "default"]) := by
      decide +kernel
    obtain ⟨outcome, w', -, hrun, -⟩ := hsame (hsteady _)
    rw [hrun] at hends
    exact ⟨outcome, w', (Prod.mk.inj hends).1, (Prod.mk.inj hends).2, hrun⟩
  · exact hdry { tree := issuedTree, store := {} } (by rintro r ⟨⟩)

end Pipeline

end ServiceTrust
