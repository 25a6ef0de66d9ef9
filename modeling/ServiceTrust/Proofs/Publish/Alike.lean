/-
Two runs side by side, over the same files and over stores of different kinds. Stages that begin with
related stores and end with the same outcome, the same files and related stores are `Alike`; what is put
together from such stages is alike again. So of two deployments, however their stores work and replace
earlier secrets, only the requests that put a record and those that ensure a namespace need to be compared.
-/
import ServiceTrust.Proofs.Pipeline.Discovery
import ServiceTrust.Pipeline.Deploy

namespace ServiceTrust

open Stage

variable {σ τ α β : Type} {rel : σ → τ → Prop}

/-- The worlds have the same files and related stores. -/
structure SideBySide (rel : σ → τ → Prop) (w : World σ) (v : World τ) : Prop where
  tree : w.tree = v.tree
  store : rel w.store v.store

/-- From worlds side by side the two stages end with the same outcome, side by side. -/
def Alike (rel : σ → τ → Prop) (act : Stage σ α) (act' : Stage τ α) : Prop :=
  ∀ w v, SideBySide rel w v → (act.exec w).1 = (act'.exec v).1 ∧ SideBySide rel (act.exec w).2 (act'.exec v).2

namespace Alike

/-- Stages that come to the same function of the files and leave all but the log. -/
theorem of_exec {act : Stage σ α} {act' : Stage τ α} (outcome : Tree → Except Failure α)
    (h : ∀ w, (act.exec w).1 = outcome w.tree ∧ (act.exec w).2.tree = w.tree ∧ (act.exec w).2.store = w.store)
    (h' : ∀ v, (act'.exec v).1 = outcome v.tree ∧ (act'.exec v).2.tree = v.tree ∧ (act'.exec v).2.store = v.store) :
    Alike rel act act' := by
  intro w v hwv
  obtain ⟨ho, ht, hs⟩ := h w
  obtain ⟨ho', ht', hs'⟩ := h' v
  refine ⟨by rw [ho, ho', hwv.tree], by rw [ht, ht', hwv.tree], ?_⟩
  rw [hs, hs']
  exact hwv.store

theorem pure (a : α) : Alike rel (Pure.pure a : Stage σ α) (Pure.pure a : Stage τ α) := fun _ _ h => ⟨rfl, h⟩

theorem throw (e : Failure) : Alike rel (throw e : Stage σ α) (MonadExcept.throw e : Stage τ α) :=
  fun _ _ h => ⟨rfl, h⟩

theorem fail (e : PipelineError) : Alike rel (fail e : Stage σ α) (Stage.fail e : Stage τ α) := throw _

theorem log (level : Level) (message : String) (fields : List (String × Json)) :
    Alike rel (log level message fields) (Stage.log level message fields) := fun _ _ h => ⟨rfl, h.tree, h.store⟩

theorem count (e : Event) : Alike rel (count e) (Stage.count e) := fun _ _ h => ⟨rfl, h.tree, h.store⟩

theorem tree : Alike rel tree Stage.tree := of_exec .ok (fun _ => ⟨rfl, rfl, rfl⟩) fun _ => ⟨rfl, rfl, rfl⟩

theorem read (p : Path) : Alike rel (read p) (Stage.read p) :=
  of_exec (fun t => (t.read p).mapError fun f => .fault (.file f))
    (fun w => by rw [exec_read]; exact ⟨rfl, rfl, rfl⟩) fun v => by rw [exec_read]; exact ⟨rfl, rfl, rfl⟩

theorem ends {act : Stage σ α} {act' : Stage τ α} (h : Alike rel act act') {w : World σ} {v : World τ}
    (hwv : SideBySide rel w v) :
    ∃ outcome w₁ v₁, act.exec w = (outcome, w₁) ∧ act'.exec v = (outcome, v₁) ∧ SideBySide rel w₁ v₁ := by
  obtain ⟨ho, hs⟩ := h w v hwv
  exact ⟨_, _, _, rfl, Prod.ext ho.symm rfl, hs⟩

theorem bind {act : Stage σ α} {act' : Stage τ α} {f : α → Stage σ β} {f' : α → Stage τ β}
    (h : Alike rel act act') (hf : ∀ a, Alike rel (f a) (f' a)) : Alike rel (act >>= f) (act' >>= f') := by
  intro w v hwv
  obtain ⟨outcome, w₁, v₁, hw, hv, hs⟩ := h.ends hwv
  rw [exec_bind, exec_bind, hw, hv]
  cases outcome with
  | error e => exact ⟨rfl, hs⟩
  | ok a => exact hf a w₁ v₁ hs

theorem tryCatch {act : Stage σ α} {act' : Stage τ α} {handler : Failure → Stage σ α}
    {handler' : Failure → Stage τ α} (h : Alike rel act act') (hh : ∀ e, Alike rel (handler e) (handler' e)) :
    Alike rel (tryCatch act handler) (MonadExcept.tryCatch act' handler') := by
  intro w v hwv
  obtain ⟨outcome, w₁, v₁, hw, hv, hs⟩ := h.ends hwv
  rw [exec_tryCatch, exec_tryCatch, hw, hv]
  cases outcome with
  | error e => exact hh e w₁ v₁ hs
  | ok a => exact ⟨rfl, hs⟩

theorem ite {c : Prop} [Decidable c] {act other : Stage σ α} {act' other' : Stage τ α} (h : Alike rel act act')
    (h' : Alike rel other other') : Alike rel (if c then act else other) (if c then act' else other') := by
  split
  · exact h
  · exact h'

theorem mapM {xs : List α} {f : α → Stage σ β} {f' : α → Stage τ β} (h : ∀ x ∈ xs, Alike rel (f x) (f' x)) :
    Alike rel (xs.mapM f) (xs.mapM f') := by
  induction xs with
  | nil => exact pure _
  | cons x xs ih =>
    rw [List.mapM_cons, List.mapM_cons]
    exact (h x (List.mem_cons_self ..)).bind fun _ =>
      (ih fun y hy => h y (List.mem_cons_of_mem _ hy)).bind fun _ => pure _

theorem forM {xs : List α} {f : α → Stage σ PUnit} {f' : α → Stage τ PUnit}
    (h : ∀ x ∈ xs, Alike rel (f x) (f' x)) : Alike rel (xs.forM f) (xs.forM f') := by
  induction xs with
  | nil => exact pure _
  | cons x xs ih =>
    exact (h x (List.mem_cons_self ..)).bind fun _ => ih fun y hy => h y (List.mem_cons_of_mem _ hy)

theorem counted {act : Stage σ α} {act' : Stage τ α} (h : Alike rel act act') :
    Alike rel (Pipeline.counted act) (Pipeline.counted act') :=
  h.tryCatch fun e => by
    cases e with
    | fault f => exact throw _
    | pipeline p => exact (count _).bind fun _ => throw _

/-! ## Publishers -/

/-- Two publishers of the same authority put records and ensure namespaces alike. -/
structure Publishers (rel : σ → τ → Prop) (p : Publisher σ) (q : Publisher τ) : Prop where
  authority : p.authority = q.authority
  put : ∀ r hint, Alike rel (p.put r hint) (q.put r hint)
  ensureSpace : ∀ space, Alike rel (p.store.ensureSpace space) (q.store.ensureSpace space)

/-- Two stores fulfil every request alike. -/
structure Stores (rel : σ → τ → Prop) (store : SecretStore σ) (store' : SecretStore τ) : Prop where
  delete : ∀ name space, Alike rel (store.delete name space) (store'.delete name space)
  create : ∀ r, Alike rel (store.create r) (store'.create r)
  replace : ∀ r, Alike rel (store.replace r) (store'.replace r)
  ensureSpace : ∀ space, Alike rel (store.ensureSpace space) (store'.ensureSpace space)

/-- Publishers that work the same way work alike with stores that do. -/
theorem Stores.publishers {store : SecretStore σ} {store' : SecretStore τ} (h : Stores rel store store')
    (strategy : ReplaceStrategy) (authority : AuthorityFiles) :
    Publishers rel ⟨store, strategy, authority⟩ ⟨store', strategy, authority⟩ where
  authority := rfl
  put r hint := by
    refine (Alike.tryCatch ?_ fun e => ?_).bind fun _ => .log _ _ _
    · cases strategy with
      | replace => exact h.replace r
      | recreate => exact (h.delete r.name r.space).bind fun _ => h.create r
    · split
      · exact (Alike.log _ _ _).bind fun _ => .fail _
      · exact .throw _
  ensureSpace := h.ensureSpace

namespace Publishers

variable {p : Publisher σ} {q : Publisher τ}

theorem checkFiles (secret : String) (es : Entries) :
    Alike rel (Publisher.checkFiles secret es) (Publisher.checkFiles secret es) :=
  tree.bind fun t => by
    cases Publisher.missing t es with
    | nil => exact pure _
    | cons e es => exact fail _

theorem readEntries (es : Entries) :
    Alike rel (Publisher.readEntries es) (Publisher.readEntries es) :=
  mapM fun e _ => (read e.2).bind fun _ => pure _

variable (h : Publishers rel p q)
include h

theorem publishFiles (f : Publisher.FileSecret) : Alike rel (p.publishFiles f) (q.publishFiles f) :=
  (checkFiles _ _).bind fun _ => (readEntries _).bind fun _ => (h.put _ _).bind fun _ =>
    (count _).bind fun _ => pure _

theorem publishLiteral (name space : String) (values : List (String × String)) (kind : String) :
    Alike rel (p.publishLiteral name space values kind) (q.publishLiteral name space values kind) :=
  (h.put _ _).bind fun _ => (count _).bind fun _ => pure _

theorem publish (bundle : Option Bundle) (service : Profile) (role : Role) (space : String) :
    Alike rel (p.publish bundle service role space) (q.publish bundle service role space) := by
  unfold Publisher.publish
  rw [h.authority]
  exact (checkFiles _ _).bind fun _ => (forM fun a _ => checkFiles _ _).bind fun _ =>
    (mapM fun a _ => h.publishFiles _).bind fun _ => (h.publishFiles _).bind fun _ =>
      (log _ _ _).bind fun _ => pure _

theorem publishTokenKeys (keys : TokenKeys) (space app : String) :
    Alike rel (TokenKeys.publish p keys space app) (TokenKeys.publish q keys space app) := h.publishFiles _

theorem publishCredentials (s : Settings) (space : String) :
    Alike rel (Credentials.publish p s space) (Credentials.publish q s space) :=
  mapM fun _ _ => (h.publishLiteral _ _ _ _).bind fun _ => (log _ _ _).bind fun _ => pure _

theorem deployService (space : String) (service : Profile) :
    Alike rel (Pipeline.deployService p space service) (Pipeline.deployService q space service) := by
  have hwork (target : String) : Alike rel
      (do let records ← service.roles.mapM fun role => p.publish none service role target
          return records.flatten)
      (do let records ← service.roles.mapM fun role => q.publish none service role target
          return records.flatten) :=
    (mapM fun role _ => h.publish none service role target).bind fun _ => pure _
  unfold Pipeline.deployService
  dsimp only
  split
  · exact (h.ensureSpace _).bind fun _ => hwork _
  · exact hwork _

end Publishers

/-! ## Deployments -/

theorem discover (s : Settings) (space : String) :
    Alike rel (Pipeline.discover s space) (Pipeline.discover s space) := by
  let outcome (t : Tree) : Except Failure (List Profile) :=
    (Discovery.profilesIn t s.tlsDirectory space s.defaultSpace).mapError (Pipeline.servicesFailure s)
  have hexec {ρ : Type} (w : World ρ) : ((Pipeline.discover s space).exec w).1 = outcome w.tree ∧
      ((Pipeline.discover s space).exec w).2.tree = w.tree ∧
      ((Pipeline.discover s space).exec w).2.store = w.store := by
    obtain ⟨log, h⟩ := Pipeline.exec_discover s space w
    rw [h]
    exact ⟨rfl, rfl, rfl⟩
  exact of_exec outcome (fun w => hexec w) fun v => hexec v

/-- Deployments with the same settings, but for how earlier secrets are replaced. -/
theorem deploy {store : SecretStore σ} {store' : SecretStore τ} {s : Settings} {strategy : ReplaceStrategy}
    (h : Publishers rel ⟨store, s.strategy, Pipeline.authorityFiles s⟩
      ⟨store', strategy, Pipeline.authorityFiles s⟩) (space : Option String) (tlsOnly : Bool) :
    Alike rel (Pipeline.deploy store s space tlsOnly)
      (Pipeline.deploy store' { s with strategy := strategy } space tlsOnly) := by
  have hall (space : String) : Alike rel (Pipeline.deployAll store s space tlsOnly)
      (Pipeline.deployAll store' { s with strategy := strategy } space tlsOnly) := by
    refine (discover s space).bind fun ps => (h.ensureSpace space).bind fun _ =>
      (mapM fun service _ => h.deployService space service).bind fun records => ?_
    cases tlsOnly with
    | true => exact pure _
    | false =>
      exact (h.publishTokenKeys _ _ _).bind fun _ => (h.publishCredentials s space).bind fun _ => pure _
  exact (hall _).counted.bind fun _ => (log _ _ _).bind fun _ => pure _

end Alike

end ServiceTrust
