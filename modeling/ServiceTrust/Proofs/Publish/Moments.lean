/-
Every state that a cluster goes through. An API is `watched` by listing the state after each request beside
the state of the cluster. Watching changes nothing about a run, and the state that it ends in is the last
one of the list.
-/
import ServiceTrust.Proofs.Publish.Alike
import ServiceTrust.Proofs.Publish.Cluster

namespace ServiceTrust

open Stage

variable {σ τ α : Type}

/-! ## APIs side by side -/

namespace Alike

variable {rel : σ → τ → Prop}

/-- Two APIs answer every request alike. -/
structure Apis (rel : σ → τ → Prop) (api : ClusterApi σ) (api' : ClusterApi τ) : Prop where
  deleteSecret : ∀ space name,
    Alike rel (ClusterApi.call (api.deleteSecret space name)) (ClusterApi.call (api'.deleteSecret space name))
  createSecret : ∀ space m,
    Alike rel (ClusterApi.call (api.createSecret space m)) (ClusterApi.call (api'.createSecret space m))
  replaceSecret : ∀ space name m,
    Alike rel (ClusterApi.call (api.replaceSecret space name m)) (ClusterApi.call (api'.replaceSecret space name m))
  readSpace : ∀ space, Alike rel (ClusterApi.call (api.readSpace space)) (ClusterApi.call (api'.readSpace space))
  createSpace : ∀ space, Alike rel (ClusterApi.call (api.createSpace space)) (ClusterApi.call (api'.createSpace space))

theorem refuse (request : StoreRequest) (fault : ApiFault) :
    Alike rel (ClusterApi.refuse request fault : Stage σ α) (ClusterApi.refuse request fault) := by
  cases fault with
  | status code reason => exact .fail _
  | transport error => exact .fail _

/-- The stores behind them fulfil every request alike. -/
theorem Apis.stores {api : ClusterApi σ} {api' : ClusterApi τ} (h : Apis rel api api') :
    Stores rel (ClusterApi.store api) (ClusterApi.store api') := by
  have hcreate (r : SecretRecord) : Alike rel (api.create r) (api'.create r) := by
    refine (h.createSecret _ _).bind fun answer => ?_
    cases answer with
    | ok u => exact .pure _
    | error fault => exact refuse _ fault
  refine ⟨fun name space => ?delete, hcreate, fun r => ?replace, fun space => ?ensureSpace⟩
  case delete =>
    refine (h.deleteSecret _ _).bind fun answer => ?_
    cases answer with
    | ok u => exact (Alike.log _ _ _).bind fun _ => .pure _
    | error fault => exact .ite (.pure _) (refuse _ fault)
  case replace =>
    refine (h.replaceSecret _ _ _).bind fun answer => ?_
    cases answer with
    | ok u => exact .pure _
    | error fault => exact .ite (hcreate r) (refuse _ fault)
  case ensureSpace =>
    refine (h.readSpace _).bind fun answer => ?_
    cases answer with
    | ok u => exact .pure _
    | error fault =>
      refine .ite (refuse _ fault) ((h.createSpace _).bind fun answer => ?_)
      cases answer with
      | ok u => exact (Alike.log _ _ _).bind fun _ => .pure _
      | error fault => exact .ite (.pure _) (refuse _ fault)

end Alike

/-! ## Watching -/

/-- Makes the request, and lists the state after it. -/
def watch (request : StateM σ (Except ApiFault Unit)) : StateM (σ × List σ) (Except ApiFault Unit) := fun s =>
  let (answer, s') := request s.1
  (answer, (s', s.2 ++ [s']))

def ClusterApi.watched (api : ClusterApi σ) : ClusterApi (σ × List σ) where
  deleteSecret space name := watch (api.deleteSecret space name)
  createSecret space m := watch (api.createSecret space m)
  replaceSecret space name m := watch (api.replaceSecret space name m)
  readSpace space := watch (api.readSpace space)
  createSpace space := watch (api.createSpace space)

/-- The states of the cluster after each request of a deployment. -/
def Pipeline.moments (api : ClusterApi σ) (s : Settings) (space : Option String) (tlsOnly : Bool) (w : World σ) :
    List σ :=
  ((Pipeline.deploy (ClusterApi.store api.watched) s space tlsOnly).exec { w with store := (w.store, []) }).2.store.2

/-- A request that is atomic has its effect or none, and lists the state that it leaves. -/
theorem ClusterApi.Atomically.watch {view : σ → ClusterView} {request : StateM σ (Except ApiFault Unit)}
    {effect : ClusterView → ClusterView} (h : Atomically view request effect) (s : σ × List σ) :
    (∃ s', ServiceTrust.watch request s = (.ok (), (s', s.2 ++ [s'])) ∧ view s' = effect (view s.1)) ∨
      ∃ fault s', ServiceTrust.watch request s = (.error fault, (s', s.2 ++ [s'])) ∧ view s' = view s.1 := by
  rcases hrequest : request s.1 with ⟨fault | u, s'⟩
  · exact .inr ⟨fault, s', by rw [ServiceTrust.watch, hrequest], h s.1 _ s' hrequest⟩
  · exact .inl ⟨s', by rw [ServiceTrust.watch, hrequest], h s.1 _ s' hrequest⟩

/-! ## Runs that are watched -/

/-- The state `b` is that of a cluster in the state `a`, watched since it was in the state `s`. -/
def Watched (s : σ) (a : σ) (b : σ × List σ) : Prop := b.1 = a ∧ (s :: b.2).getLast? = some a

namespace Watched

variable {s : σ}

theorem call (request : StateM σ (Except ApiFault Unit)) :
    Alike (Watched s) (ClusterApi.call request) (ClusterApi.call (watch request)) := by
  rintro w v ⟨htree, hstate, -⟩
  have hlast : ∀ s', (s :: (v.store.2 ++ [s'])).getLast? = some s' := by
    intro s'
    rw [← List.cons_append, List.getLast?_concat]
  have hexec : (ClusterApi.call (watch request)).exec v =
      (.ok (request w.store).1, { v with store := ((request w.store).2, v.store.2 ++ [(request w.store).2]) }) := by
    rw [← hstate]
    rfl
  rw [hexec]
  exact ⟨rfl, htree, rfl, hlast _⟩

/-- A watched cluster fulfils every request as it does when nobody watches. -/
theorem stores (s : σ) (api : ClusterApi σ) :
    Alike.Stores (Watched s) (ClusterApi.store api) (ClusterApi.store api.watched) :=
  Alike.Apis.stores ⟨fun _ _ => call _, fun _ _ => call _, fun _ _ _ => call _, fun _ => call _, fun _ => call _⟩

end Watched

/-- A deployment ends as it does when it is watched, in the last of its moments. -/
theorem Pipeline.deploy_watched (api : ClusterApi σ) (s : Settings) (space : Option String) (tlsOnly : Bool)
    (w : World σ) :
    ((deploy (ClusterApi.store api) s space tlsOnly).exec w).1 =
        ((deploy (ClusterApi.store api.watched) s space tlsOnly).exec { w with store := (w.store, []) }).1 ∧
      ((deploy (ClusterApi.store api.watched) s space tlsOnly).exec { w with store := (w.store, []) }).2.store.1 =
        ((deploy (ClusterApi.store api) s space tlsOnly).exec w).2.store ∧
      (w.store :: moments api s space tlsOnly w).getLast? =
        some ((deploy (ClusterApi.store api) s space tlsOnly).exec w).2.store := by
  have halike := Alike.deploy ((Watched.stores w.store api).publishers s.strategy (authorityFiles s)) space tlsOnly
  obtain ⟨houtcome, -, hstate, hlast⟩ := halike w { w with store := (w.store, []) } ⟨rfl, rfl, rfl⟩
  exact ⟨houtcome, hstate, hlast⟩

end ServiceTrust
