/-
What the API of a cluster is relied on for, in terms of what can be seen of its state. An API is `Atomic`
if a request that succeeds has its whole effect and any other has none, whatever the reason; it is
`Faultless` if moreover only those requests are turned down that make no sense, in the documented way. The
cluster in memory is atomic under every schedule of faults, and faultless without one. What the store makes
of a request is told answer by answer.
-/
import ServiceTrust.Proofs.Lookup
import ServiceTrust.Proofs.Stage
import ServiceTrust.Publish.Cluster
import Mathlib.Data.Set.Insert

namespace ServiceTrust

/-- What can be seen of a cluster: the secrets by namespace and name, and the namespaces. -/
@[ext]
structure ClusterView where
  secrets : String × String → Option Manifest
  spaces : Set String

namespace ClusterView

/-- The secret under `key` is `m`, or there is none. -/
def set (v : ClusterView) (key : String × String) (m : Option Manifest) : ClusterView :=
  { v with secrets := Function.update v.secrets key m }

def addSpace (v : ClusterView) (space : String) : ClusterView := { v with spaces := insert space v.spaces }

end ClusterView

namespace ClusterApi

variable {σ : Type} {view : σ → ClusterView} {request : StateM σ (Except ApiFault Unit)}
  {effect : ClusterView → ClusterView} {possible : ClusterView → Prop} {code : Int}

/-- The request has its effect if it succeeds, and none if it is turned down. -/
def Atomically (view : σ → ClusterView) (request : StateM σ (Except ApiFault Unit))
    (effect : ClusterView → ClusterView) : Prop :=
  ∀ s answer s', request s = (answer, s') →
    view s' = match answer with
      | .ok _ => effect (view s)
      | .error _ => view s

/-- Every request is atomic, whether or not it succeeds. -/
structure Atomic (api : ClusterApi σ) (view : σ → ClusterView) : Prop where
  deleteSecret : ∀ space name, Atomically view (api.deleteSecret space name) (·.set (space, name) none)
  createSecret : ∀ space m, Atomically view (api.createSecret space m) (·.set (space, m.name) (some m))
  replaceSecret : ∀ space name m, Atomically view (api.replaceSecret space name m) (·.set (space, name) (some m))
  readSpace : ∀ space, Atomically view (api.readSpace space) id
  createSpace : ∀ space, Atomically view (api.createSpace space) (·.addSpace space)

/-- The request succeeds with its effect where it is possible; otherwise it is answered with the status
`code`, and nothing changes. -/
structure Answers (view : σ → ClusterView) (request : StateM σ (Except ApiFault Unit))
    (possible : ClusterView → Prop) (effect : ClusterView → ClusterView) (code : Int) : Prop where
  succeeds : ∀ s, possible (view s) → ∃ s', request s = (.ok (), s') ∧ view s' = effect (view s)
  declines : ∀ s, ¬ possible (view s) →
    ∃ reason s', request s = (.error (.status code reason), s') ∧ view s' = view s

/-- Nothing fails but what makes no sense: to delete, replace or read what is not there, or to create what
is. -/
structure Faultless (api : ClusterApi σ) (view : σ → ClusterView) : Prop where
  deleteSecret : ∀ space name, Answers view (api.deleteSecret space name)
    (fun v => (v.secrets (space, name)).isSome = true) (·.set (space, name) none) notFound
  createSecret : ∀ space m, Answers view (api.createSecret space m)
    (fun v => ¬ (v.secrets (space, m.name)).isSome = true) (·.set (space, m.name) (some m)) conflict
  replaceSecret : ∀ space name m, Answers view (api.replaceSecret space name m)
    (fun v => (v.secrets (space, name)).isSome = true) (·.set (space, name) (some m)) notFound
  readSpace : ∀ space, Answers view (api.readSpace space) (space ∈ ·.spaces) id notFound
  createSpace : ∀ space, Answers view (api.createSpace space) (space ∉ ·.spaces) (·.addSpace space) conflict

/-! ## What the store makes of an answer -/

section Store

open Stage

variable {api : ClusterApi σ} {w : World σ} {r : SecretRecord} {name space : String} {fault : ApiFault} {s s' : σ}

/-- The failure of a request that was answered by `fault`. -/
def refusal (request : StoreRequest) (fault : ApiFault) : StoreFault :=
  match fault with
  | .status _ reason => .rejected request reason
  | .transport error => .unreachable request error

theorem exec_refuse {α : Type} (request : StoreRequest) (fault : ApiFault) (w : World σ) :
    (refuse request fault : Stage σ α).exec w = (.error (.pipeline (.store (refusal request fault) none)), w) := by
  cases fault <;> rfl

theorem exec_call {answer : Except ApiFault Unit} (h : request w.store = (answer, s)) :
    (call request).exec w = (.ok answer, { w with store := s }) := by
  show (Except.ok (request w.store).1, { w with store := (request w.store).2 }) = _
  rw [h]

theorem exec_delete_done (h : api.deleteSecret space name w.store = (.ok (), s)) :
    ∃ log, (delete api name space).exec w = (.ok true, { w with store := s, log := log }) := by
  unfold delete
  rw [exec_bind, exec_call h]
  exact ⟨_, rfl⟩

theorem exec_delete_failed (h : api.deleteSecret space name w.store = (.error fault, s)) :
    (delete api name space).exec w =
      (if hasStatus notFound fault then .ok false else
        .error (.pipeline (.store (refusal (.delete space name) fault) none)), { w with store := s }) := by
  unfold delete
  rw [exec_bind, exec_call h]
  dsimp only
  split
  · rfl
  · exact exec_refuse ..

theorem exec_create_done (h : api.createSecret r.space (.ofRecord r) w.store = (.ok (), s)) :
    (create api r).exec w = (.ok (), { w with store := s }) := by
  unfold create
  rw [exec_bind, exec_call h]
  rfl

theorem exec_create_failed (h : api.createSecret r.space (.ofRecord r) w.store = (.error fault, s)) :
    (create api r).exec w =
      (.error (.pipeline (.store (refusal (.create r.space r.name) fault) none)), { w with store := s }) := by
  unfold create
  rw [exec_bind, exec_call h]
  exact exec_refuse ..

theorem exec_replace_done (h : api.replaceSecret r.space r.name (.ofRecord r) w.store = (.ok (), s)) :
    (replace api r).exec w = (.ok (), { w with store := s }) := by
  unfold replace
  rw [exec_bind, exec_call h]
  rfl

theorem exec_replace_failed (h : api.replaceSecret r.space r.name (.ofRecord r) w.store = (.error fault, s)) :
    (replace api r).exec w =
      if hasStatus notFound fault then (create api r).exec { w with store := s } else
        (.error (.pipeline (.store (refusal (.replace r.space r.name) fault) none)), { w with store := s }) := by
  unfold replace
  rw [exec_bind, exec_call h]
  dsimp only
  split
  · rfl
  · exact exec_refuse ..

theorem exec_ensureSpace_there (h : api.readSpace space w.store = (.ok (), s)) :
    (ensureSpace api space).exec w = (.ok false, { w with store := s }) := by
  unfold ensureSpace
  rw [exec_bind, exec_call h]
  rfl

theorem exec_ensureSpace_unread (h : api.readSpace space w.store = (.error fault, s))
    (hf : hasStatus notFound fault = false) :
    (ensureSpace api space).exec w =
      (.error (.pipeline (.store (refusal (.readSpace space) fault) none)), { w with store := s }) := by
  unfold ensureSpace
  rw [exec_bind, exec_call h]
  dsimp only
  rw [hf, if_pos Bool.not_false]
  exact exec_refuse ..

theorem exec_ensureSpace_made (h : api.readSpace space w.store = (.error fault, s))
    (hf : hasStatus notFound fault = true) (hmade : api.createSpace space s = (.ok (), s')) :
    ∃ log, (ensureSpace api space).exec w = (.ok true, { w with store := s', log := log }) := by
  unfold ensureSpace
  rw [exec_bind, exec_call h]
  dsimp only
  rw [hf, if_neg (by simp), exec_bind, exec_call hmade]
  exact ⟨_, rfl⟩

theorem exec_ensureSpace_failed {fault' : ApiFault} (h : api.readSpace space w.store = (.error fault, s))
    (hf : hasStatus notFound fault = true) (hmade : api.createSpace space s = (.error fault', s')) :
    (ensureSpace api space).exec w =
      (if hasStatus conflict fault' then .ok false else
        .error (.pipeline (.store (refusal (.createSpace space) fault') none)), { w with store := s' }) := by
  unfold ensureSpace
  rw [exec_bind, exec_call h]
  dsimp only
  rw [hf, if_neg (by simp), exec_bind, exec_call hmade]
  dsimp only
  split
  · rfl
  · exact exec_refuse ..

end Store

end ClusterApi

/-! ## The cluster in memory -/

namespace Cluster

open ClusterApi

def view (c : Cluster) : ClusterView := ⟨(c.secrets.lookup ·), {space | space ∈ c.spaces}⟩

variable {schedule : List ApiCall → Option ApiFault} {call : ApiCall} {c : Cluster}
  {effect : Cluster → Except ApiFault Cluster} {change : ClusterView → ClusterView}

theorem view_erase (c : Cluster) (key : String × String) :
    ({ c with secrets := c.secrets.filter (·.1 ≠ key) } : Cluster).view = c.view.set key none := by
  refine ClusterView.ext (funext fun k => ?_) rfl
  show _ = Function.update c.view.secrets key none k
  rw [Function.update_apply]
  exact Lookup.lookup_filter_ne

theorem view_bind (c : Cluster) (key : String × String) (m : Manifest) :
    (c.bind key m).view = c.view.set key (some m) := by
  refine ClusterView.ext (funext fun k => ?_) rfl
  show _ = Function.update c.view.secrets key (some m) k
  rw [Function.update_apply]
  exact Lookup.lookup_set

theorem view_addSpace (c : Cluster) (space : String) :
    ({ c with spaces := c.spaces ++ [space] } : Cluster).view = c.view.addSpace space := by
  refine ClusterView.ext rfl (Set.ext fun x => ?_)
  simp [view, ClusterView.addSpace, or_comm]

/-- An answer is atomic if the effect that it is to have is. -/
theorem answer_atomically (heffects : ∀ c c', effect c = .ok c' → c'.view = change c.view) :
    Atomically view (answer schedule call effect) change := by
  intro c outcome c' h
  unfold answer at h
  dsimp only at h
  split at h
  next fault hfault =>
    obtain ⟨rfl, rfl⟩ := Prod.mk.inj h
    rfl
  next hnone =>
    split at h
    next c'' heffect =>
      obtain ⟨rfl, rfl⟩ := Prod.mk.inj h
      exact heffects { c with calls := c.calls ++ [call] } c'' heffect
    next fault heffect =>
      obtain ⟨rfl, rfl⟩ := Prod.mk.inj h
      rfl

theorem api_atomic (schedule : List ApiCall → Option ApiFault) : (api schedule).Atomic view := by
  constructor <;> dsimp only [api]
  · intro space name
    refine answer_atomically fun c c' h => ?_
    split at h
    · exact Except.ok.inj h ▸ view_erase c _
    · cases h
  · intro space m
    refine answer_atomically fun c c' h => ?_
    split at h
    · cases h
    · exact Except.ok.inj h ▸ view_bind c _ m
  · intro space name m
    refine answer_atomically fun c c' h => ?_
    split at h
    · exact Except.ok.inj h ▸ view_bind c _ m
    · cases h
  · intro space
    refine answer_atomically fun c c' h => ?_
    split at h
    · exact Except.ok.inj h ▸ rfl
    · cases h
  · intro space
    refine answer_atomically fun c c' h => ?_
    split at h
    · cases h
    · exact Except.ok.inj h ▸ view_addSpace c space

/-- Without faults the answer is that of the effect. -/
theorem answer_answers {possible : ClusterView → Prop} {code : Int}
    (hok : ∀ c, possible (view c) → ∃ c', effect c = .ok c' ∧ c'.view = change c.view)
    (herror : ∀ c, ¬ possible (view c) → ∃ reason, effect c = .error (.status code reason)) :
    Answers view (answer (fun _ => none) call effect) possible change code := by
  constructor
  · intro c hc
    obtain ⟨c', hc', hview⟩ := hok { c with calls := c.calls ++ [call] } hc
    exact ⟨c', by simp only [answer, hc'], hview⟩
  · intro c hc
    obtain ⟨reason, h⟩ := herror { c with calls := c.calls ++ [call] } hc
    exact ⟨reason, { c with calls := c.calls ++ [call] }, by simp only [answer, h], rfl⟩

theorem api_faultless : (api fun _ => none).Faultless view := by
  constructor <;> dsimp only [api]
  · intro space name
    exact answer_answers (fun c hc => ⟨_, if_pos hc, view_erase c _⟩) fun c hc => ⟨_, if_neg hc⟩
  · intro space m
    exact answer_answers (fun c hc => ⟨_, if_neg hc, view_bind c _ m⟩) fun c hc => ⟨_, if_pos (not_not.mp hc)⟩
  · intro space name m
    exact answer_answers (fun c hc => ⟨_, if_pos hc, view_bind c _ m⟩) fun c hc => ⟨_, if_neg hc⟩
  · intro space
    refine answer_answers (fun c hc => ⟨_, if_pos ?_, rfl⟩) fun c hc => ⟨_, if_neg ?_⟩
    · simpa [view] using hc
    · simpa [view] using hc
  · intro space
    refine answer_answers (fun c hc => ⟨_, if_neg ?_, view_addSpace c space⟩) fun c hc => ⟨_, if_pos ?_⟩
    · simpa [view] using hc
    · simpa [view] using hc

end Cluster

end ServiceTrust
