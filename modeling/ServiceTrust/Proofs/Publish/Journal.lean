/-
What a store was asked for, and what it fulfilled. A store is `journaled` by listing each request with
whether it was fulfilled beside the state of the store. The journal is `Orderly` if every request about a
secret comes after a fulfilled one to ensure the namespace of the secret. A store whose requests depend on
nothing but files and its own state works the same with a journal as without.
-/
import ServiceTrust.Proofs.Publish.Correspondence
import ServiceTrust.Proofs.Publish.Moments

namespace ServiceTrust

open Stage

variable {σ α β : Type}

/-! ## Journals -/

/-- A request, and whether it was fulfilled. -/
structure Served where
  call : StoreCall
  fulfilled : Bool

/-- The namespace of the secret that a request is about. -/
def StoreCall.subject? : StoreCall → Option String
  | .delete _ space => some space
  | .create r => some r.space
  | .replace r => some r.space
  | .ensureSpace _ => none

namespace Journal

/-- The namespaces that were ensured. -/
def ensured (js : List Served) : Set String := {space | ⟨.ensureSpace space, true⟩ ∈ js}

/-- Before each request about a secret the namespace of the secret was ensured. -/
def Orderly (js : List Served) : Prop :=
  ∀ before j after, js = before ++ j :: after → ∀ space, j.call.subject? = some space → space ∈ ensured before

theorem ensured_append (js js' : List Served) : ensured js ⊆ ensured (js ++ js') := fun _ h =>
  List.mem_append_left _ h

theorem Orderly.nil : Orderly [] := fun before j after h => by simp at h

theorem Orderly.concat {js : List Served} {j : Served} (h : Orderly js)
    (hj : ∀ space, j.call.subject? = some space → space ∈ ensured js) : Orderly (js ++ [j]) := by
  intro before j' after he space hspace
  -- `j'` is the last request, or it is followed by the last one
  rcases List.eq_nil_or_concat after with rfl | ⟨after, last, rfl⟩
  · obtain ⟨rfl, hj'⟩ := List.append_inj' he rfl
    cases hj'
    exact hj space hspace
  · rw [List.concat_eq_append, ← List.cons_append, ← List.append_assoc] at he
    exact h before j' after (List.append_inj' he rfl).1 space hspace

end Journal

/-! ## Stores with a journal -/

/-- The world of a store without its journal. -/
def World.plain {ρ : Type} (w : World (σ × ρ)) : World σ := { w with store := w.store.1 }

/-- Does what `act` does, and then lists the request `call` as served. -/
def journaling (call : StoreCall) (act : Stage σ α) : Stage (σ × List Served) α := fun w =>
  let (outcome, v) := act.exec w.plain
  (outcome, { v with store := (v.store, w.store.2 ++ [⟨call, outcome.isOk⟩]) })

/-- The store that lists what it was asked for. -/
def SecretStore.journaled (store : SecretStore σ) : SecretStore (σ × List Served) where
  delete name space := journaling (.delete name space) (store.delete name space)
  create r := journaling (.create r) (store.create r)
  replace r := journaling (.replace r) (store.replace r)
  ensureSpace space := journaling (.ensureSpace space) (store.ensureSpace space)

/-- A request comes to the same whatever the log and the counters say. -/
def SecretStore.Steady (store : SecretStore σ) : Prop := Alike.Stores Eq store store

/-- The store is in the same state, and has a journal. -/
def Journaled (a : σ) (b : σ × List Served) : Prop := b.1 = a

theorem Journaled.journaling {act : Stage σ α} (h : Alike Eq act act) (call : StoreCall) :
    Alike Journaled act (journaling call act) := by
  rintro w v ⟨htree, hstore⟩
  obtain ⟨houtcome, htree', hstore'⟩ := h w v.plain ⟨htree, hstore.symm⟩
  exact ⟨houtcome, htree', hstore'.symm⟩

/-- A steady store fulfils every request as it does when nothing is listed. -/
theorem SecretStore.Steady.journaled {store : SecretStore σ} (h : store.Steady) :
    Alike.Stores Journaled store store.journaled where
  delete name space := Journaled.journaling (h.delete name space) _
  create r := Journaled.journaling (h.create r) _
  replace r := Journaled.journaling (h.replace r) _
  ensureSpace space := Journaled.journaling (h.ensureSpace space) _

/-! ## Steady stores -/

/-- What follows may go by the state of the store. -/
theorem Alike.get {f f' : World σ → Stage σ α} (h : ∀ w v, w.store = v.store → Alike Eq (f w) (f' v)) :
    Alike Eq (get >>= f) (get >>= f') := fun w v hwv => h w v hwv.store w v hwv

theorem DryStore.store_steady : DryStore.store.Steady := by
  have hmodify (f : DryStore → DryStore) : Alike Eq (modifyStore f) (modifyStore f) := fun w v hwv =>
    ⟨rfl, hwv.tree, congrArg f hwv.store⟩
  have hcreate (r : SecretRecord) : Alike Eq (create r) (create r) := by
    refine .get fun w v hwv => ?_
    rw [hwv]
    exact .ite ((Alike.fail _).bind fun _ => (hmodify _).bind fun _ => .log _ _ _)
      ((hmodify _).bind fun _ => .log _ _ _)
  refine ⟨fun name space => .get fun w v hwv => ?_, hcreate, fun r => (hmodify _).bind fun _ => hcreate r,
    fun space => .get fun w v hwv => ?_⟩
  · rw [hwv]
    exact (hmodify _).bind fun _ => .pure _
  · rw [hwv]
    exact .ite (.pure _) ((hmodify _).bind fun _ => (Alike.log _ _ _).bind fun _ => .pure _)

theorem ClusterApi.store_steady (api : ClusterApi σ) : (ClusterApi.store api).Steady := by
  have hcall (request : StateM σ (Except ApiFault Unit)) : Alike Eq (call request) (call request) := by
    rintro w v ⟨htree, hstore⟩
    have hexec (w : World σ) :
        (call request).exec w = (.ok (request w.store).1, { w with store := (request w.store).2 }) := rfl
    rw [hexec, hexec, hstore]
    exact ⟨rfl, htree, rfl⟩
  exact Alike.Apis.stores ⟨fun _ _ => hcall _, fun _ _ => hcall _, fun _ _ _ => hcall _, fun _ => hcall _,
    fun _ => hcall _⟩

end ServiceTrust
