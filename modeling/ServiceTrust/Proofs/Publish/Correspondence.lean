/-
The store of a dry run and the store behind the API of a cluster do the same. What either holds can be read
the same way (`StoreReading`): the namespaces, and by namespace and name the data of each secret, out of its
base 64, with its labels and annotations. How a store is to work is said once on such readings, and both
implement it, the one behind an API if that is faultless. So they answer every sequence of requests alike,
and a deployment gives the same with either, whether it replaces secrets or makes them anew.
-/
import ServiceTrust.Proofs.Crypto.Base64
import ServiceTrust.Proofs.Pipeline.Writes
import ServiceTrust.Proofs.Publish.Alike
import ServiceTrust.Proofs.Publish.Cluster

namespace ServiceTrust

open Stage

/-! ## Readings -/

/-- What a secret says; data that is in no base 64 says nothing. -/
structure SecretReading where
  data : Option (List (String × Bytes))
  labels : List (String × String)
  annotations : List (String × String)

def SecretRecord.reading (r : SecretRecord) : SecretReading := ⟨some r.data, r.labels, r.annotations⟩

/-- Metadata that is absent says as much as none. -/
def Manifest.reading (m : Manifest) : SecretReading where
  data := m.data.mapM fun e => (Crypto.Base64.decode e.2.toList).map (e.1, ·)
  labels := m.labels.getD []
  annotations := m.annotations.getD []

theorem reading_ofRecord (r : SecretRecord) : (Manifest.ofRecord r).reading = r.reading := by
  have hrows (rows : List (String × String)) : (Manifest.nonEmpty rows).getD [] = rows := by
    cases rows <;> rfl
  have hdata (data : List (String × Bytes)) :
      (data.map fun e => (e.1, String.ofList (Crypto.Base64.encode e.2))).mapM
        (fun e => (Crypto.Base64.decode e.2.toList).map (e.1, ·)) = some data := by
    induction data with
    | nil => rfl
    | cons e data ih =>
      rw [List.map_cons, List.mapM_cons, ih]
      simp [Crypto.Base64.decode_encode]
  simp only [Manifest.reading, Manifest.ofRecord, hrows, SecretRecord.reading, hdata]

/-- What a store holds: its namespaces, and its secrets by namespace and name. -/
@[ext]
structure StoreReading where
  spaces : Set String
  secrets : String × String → Option SecretReading

namespace StoreReading

def set (v : StoreReading) (key : String × String) (s : Option SecretReading) : StoreReading :=
  { v with secrets := Function.update v.secrets key s }

def addSpace (v : StoreReading) (space : String) : StoreReading := { v with spaces := insert space v.spaces }

theorem set_set (v : StoreReading) (key : String × String) (s s' : Option SecretReading) :
    (v.set key s).set key s' = v.set key s' := by
  simp [set]

theorem set_none {v : StoreReading} {key : String × String} (h : ¬ (v.secrets key).isSome = true) :
    v.set key none = v := by
  rw [Option.not_isSome_iff_eq_none] at h
  exact StoreReading.ext rfl (Function.update_eq_self_iff.mpr h.symm)

end StoreReading

def DryStore.reading (d : DryStore) : StoreReading where
  spaces := {space | space ∈ d.spaces}
  secrets key := (d.get? key.2 key.1).map (·.reading)

def ClusterView.reading (v : ClusterView) : StoreReading where
  spaces := v.spaces
  secrets key := (v.secrets key).map (·.reading)

theorem ClusterView.reading_set (v : ClusterView) (key : String × String) (m : Option Manifest) :
    (v.set key m).reading = v.reading.set key (m.map (·.reading)) := by
  refine StoreReading.ext rfl (funext fun k => ?_)
  show (Function.update v.secrets key m k).map _ = Function.update v.reading.secrets key _ k
  rw [Function.update_apply, Function.update_apply]
  split <;> rfl

namespace DryStore

variable {d : DryStore}

theorem get?_erase_of_not {name space name' space' : String} (h : ¬ (name' = name ∧ space' = space)) :
    (d.erase name space).get? name' space' = d.get? name' space' := by
  show List.find? _ (d.records.filter _) = List.find? _ d.records
  rw [List.find?_filter]
  congr 1
  funext r
  by_cases hr : r.isAt name' space' = true
  · obtain ⟨rfl, rfl⟩ := SecretRecord.isAt_iff.mp hr
    simp [hr, mt SecretRecord.isAt_iff.mp h]
  · simp [hr]

theorem reading_erase (d : DryStore) (name space : String) :
    (d.erase name space).reading = d.reading.set (space, name) none := by
  refine StoreReading.ext rfl (funext fun key => ?_)
  show ((d.erase name space).get? key.2 key.1).map _ = Function.update d.reading.secrets (space, name) none key
  rw [Function.update_apply]
  split
  next h => rw [h, get?_erase_self]; rfl
  next h => rw [get?_erase_of_not fun he => h (Prod.ext he.2 he.1)]; rfl

/-- A record that is put where none is of its name. -/
theorem reading_insert {r : SecretRecord} (h : d.get? r.name r.space = none) :
    (d.insert r).reading = d.reading.set (r.space, r.name) (some r.reading) := by
  refine StoreReading.ext rfl (funext fun key => ?_)
  show (List.find? _ (d.records ++ [r])).map _ = Function.update d.reading.secrets (r.space, r.name) _ key
  rw [Function.update_apply, List.find?_append]
  split
  next hk =>
    subst hk
    rw [show List.find? _ d.records = none from h, Option.none_or, List.find?_cons,
      SecretRecord.isAt_iff.mpr ⟨rfl, rfl⟩]
    rfl
  next hk =>
    have hr : r.isAt key.2 key.1 = false := Bool.eq_false_iff.mpr fun he =>
      hk (Prod.ext (SecretRecord.isAt_iff.mp he).2.symm (SecretRecord.isAt_iff.mp he).1.symm)
    rw [List.find?_cons, hr, List.find?_nil, Option.or_none]
    rfl

end DryStore

/-! ## Requests -/

/-- A request to a store of secrets. -/
inductive StoreCall where
  | delete (name space : String)
  | create (r : SecretRecord)
  | replace (r : SecretRecord)
  | ensureSpace (space : String)

/-- Makes a request; what it returns, if anything. -/
def SecretStore.serve {σ : Type} (store : SecretStore σ) : StoreCall → Stage σ (Option Bool)
  | .delete name space => do return some (← store.delete name space)
  | .create r => do
    store.create r
    return none
  | .replace r => do
    store.replace r
    return none
  | .ensureSpace space => do return some (← store.ensureSpace space)

/-- Makes one request after the other, also after one that failed. -/
def SecretStore.serveAll {σ : Type} (store : SecretStore σ) :
    List StoreCall → World σ → List (Except Failure (Option Bool)) × World σ
  | [], w => ([], w)
  | call :: calls, w =>
    let (answer, w) := (store.serve call).exec w
    let (answers, w) := store.serveAll calls w
    (answer :: answers, w)

/-- What is told of the outcome of a request: the value, or the operation of a failed publication. -/
def told : Except Failure (Option Bool) → Option (Except String (Option Bool))
  | .ok a => some (.ok a)
  | .error (.pipeline e) => if e.kind = .publish then some (.error e.operation) else none
  | .error (.fault _) => none

theorem told_eq_ok {outcome : Except Failure (Option Bool)} {a : Option Bool} (h : told outcome = some (.ok a)) :
    outcome = .ok a := by
  rcases outcome with (_ | e) | b
  · cases h
  · simp only [told, Option.ite_none_right_eq_some, Option.some.injEq, reduceCtorEq, and_false] at h
  · cases h
    rfl

/-! ## How a store is to work -/

namespace StoreReading

open Classical in
/-- What a store that holds `v` is to tell of a request, and what it is to hold then. -/
noncomputable def serve (v : StoreReading) : StoreCall → Except String (Option Bool) × StoreReading
  | .delete name space => (.ok (some (v.secrets (space, name)).isSome), v.set (space, name) none)
  | .create r =>
    if (v.secrets (r.space, r.name)).isSome then (.error (StoreRequest.create r.space r.name).text, v)
    else (.ok none, v.set (r.space, r.name) (some r.reading))
  | .replace r => (.ok none, v.set (r.space, r.name) (some r.reading))
  | .ensureSpace space => if space ∈ v.spaces then (.ok (some false), v) else (.ok (some true), v.addSpace space)

noncomputable def serveAll (v : StoreReading) : List StoreCall → List (Except String (Option Bool)) × StoreReading
  | [] => ([], v)
  | call :: calls =>
    let (answer, v) := v.serve call
    let (answers, v) := v.serveAll calls
    (answer :: answers, v)

end StoreReading

/-- The store serves the request as it is to. -/
def SecretStore.Serves {σ : Type} (store : SecretStore σ) (reading : σ → StoreReading) (call : StoreCall) : Prop :=
  ∀ w, told ((store.serve call).exec w).1 = some ((reading w.store).serve call).1 ∧
    reading ((store.serve call).exec w).2.store = ((reading w.store).serve call).2

/-- The store serves every request as it is to, and leaves the files alone. -/
structure SecretStore.Implements {σ : Type} (store : SecretStore σ) (reading : σ → StoreReading) : Prop where
  serves : ∀ call, store.Serves reading call
  aloof : store.Aloof

namespace SecretStore.Implements

variable {σ : Type} {store : SecretStore σ} {reading : σ → StoreReading} (h : store.Implements reading)
include h

/-- A whole sequence of requests is served as it is to be. -/
theorem serveAll (calls : List StoreCall) (w : World σ) :
    (store.serveAll calls w).1.map told = ((reading w.store).serveAll calls).1.map some ∧
      reading (store.serveAll calls w).2.store = ((reading w.store).serveAll calls).2 := by
  induction calls generalizing w with
  | nil => exact ⟨rfl, rfl⟩
  | cons call calls ih =>
    obtain ⟨htells, hholds⟩ := h.serves call w
    obtain ⟨hanswers, hreading⟩ := ih ((store.serve call).exec w).2
    rw [hholds] at hanswers hreading
    exact ⟨congrArg₂ List.cons htells hanswers, hreading⟩

/-- A request that is to return does. -/
theorem serve_ok (call : StoreCall) {a : Option Bool} {w : World σ} {v : StoreReading}
    (hspec : (reading w.store).serve call = (.ok a, v)) :
    ∃ w', (store.serve call).exec w = (.ok a, w') ∧ reading w'.store = v := by
  obtain ⟨htells, hholds⟩ := h.serves call w
  rw [hspec] at htells hholds
  exact ⟨_, Prod.ext (told_eq_ok htells) rfl, hholds⟩

theorem delete (name space : String) (w : World σ) :
    ∃ found w', (store.delete name space).exec w = (.ok found, w') ∧ w'.tree = w.tree ∧
      reading w'.store = (reading w.store).set (space, name) none := by
  obtain ⟨w', hw', hreading⟩ := h.serve_ok (.delete name space) (w := w) rfl
  obtain ⟨found, hfound, -⟩ := map_ok.mp (show (some <$> store.delete name space).exec w = _ from hw')
  exact ⟨found, w', hfound, (h.aloof.delete name space).ran hfound, hreading⟩

theorem create {r : SecretRecord} {w : World σ} (hnone : (reading w.store).secrets (r.space, r.name) = none) :
    ∃ w', (store.create r).exec w = (.ok (), w') ∧ w'.tree = w.tree ∧
      reading w'.store = (reading w.store).set (r.space, r.name) (some r.reading) := by
  have hspec : (reading w.store).serve (.create r) =
      (.ok none, (reading w.store).set (r.space, r.name) (some r.reading)) := by
    simp [StoreReading.serve, hnone]
  obtain ⟨w', hw', hreading⟩ := h.serve_ok _ hspec
  obtain ⟨u, w₁, hcreate, hpure⟩ := bind_ok.mp hw'
  obtain rfl := (pure_ok.mp hpure).2
  exact ⟨w', hcreate, (h.aloof.create r).ran hcreate, hreading⟩

theorem replace (r : SecretRecord) (w : World σ) :
    ∃ w', (store.replace r).exec w = (.ok (), w') ∧ w'.tree = w.tree ∧
      reading w'.store = (reading w.store).set (r.space, r.name) (some r.reading) := by
  obtain ⟨w', hw', hreading⟩ := h.serve_ok (.replace r) (w := w) rfl
  obtain ⟨u, w₁, hreplace, hpure⟩ := bind_ok.mp hw'
  obtain rfl := (pure_ok.mp hpure).2
  exact ⟨w', hreplace, (h.aloof.replace r).ran hreplace, hreading⟩

theorem ensureSpace (space : String) (w : World σ) :
    ∃ made w', (store.ensureSpace space).exec w = (.ok made, w') ∧ w'.tree = w.tree ∧
      (reading w.store).serve (.ensureSpace space) = (.ok (some made), reading w'.store) := by
  obtain ⟨made, v, hspec⟩ :
      ∃ made v, (reading w.store).serve (.ensureSpace space) = (.ok (some made), v) := by
    unfold StoreReading.serve
    dsimp only
    split <;> exact ⟨_, _, rfl⟩
  obtain ⟨w', hw', hreading⟩ := h.serve_ok _ hspec
  obtain ⟨made', hmade, he⟩ := map_ok.mp (show (some <$> store.ensureSpace space).exec w = _ from hw')
  obtain rfl := Option.some.inj he
  exact ⟨made, w', hmade, (h.aloof.ensureSpace space).ran hmade, hreading ▸ hspec⟩

/-- However earlier secrets are replaced, afterwards the record is there. -/
theorem put (strategy : ReplaceStrategy) (authority : AuthorityFiles) (r : SecretRecord) (hint : Option String)
    (w : World σ) :
    ∃ w', ((⟨store, strategy, authority⟩ : Publisher σ).put r hint).exec w = (.ok (), w') ∧ w'.tree = w.tree ∧
      reading w'.store = (reading w.store).set (r.space, r.name) (some r.reading) := by
  unfold Publisher.put
  cases strategy with
  | replace =>
    obtain ⟨w', hw', htree, hreading⟩ := h.replace r w
    dsimp only
    rw [exec_bind, exec_tryCatch, hw']
    exact ⟨_, rfl, htree, hreading⟩
  | recreate =>
    obtain ⟨found, w₁, hw₁, htree₁, hreading₁⟩ := h.delete r.name r.space w
    obtain ⟨w', hw', htree, hreading⟩ := h.create (r := r) (w := w₁) (by simp [hreading₁, StoreReading.set])
    dsimp only
    rw [exec_bind, exec_tryCatch, exec_bind, hw₁]
    dsimp only
    rw [hw']
    refine ⟨_, rfl, htree.trans htree₁, ?_⟩
    exact hreading.trans (by rw [hreading₁, StoreReading.set_set])

end SecretStore.Implements

/-- Two stores that are read the same have the same services to offer to publishers, however these replace
secrets. -/
theorem SecretStore.Implements.publishers {σ τ : Type} {store : SecretStore σ} {store' : SecretStore τ}
    {reading : σ → StoreReading} {reading' : τ → StoreReading} (h : store.Implements reading)
    (h' : store'.Implements reading') (strategy strategy' : ReplaceStrategy) (authority : AuthorityFiles) :
    Alike.Publishers (fun s s' => reading s = reading' s') ⟨store, strategy, authority⟩
      ⟨store', strategy', authority⟩ where
  authority := rfl
  put r hint w v hwv := by
    obtain ⟨w', hw', htree, hreading⟩ := h.put strategy authority r hint w
    obtain ⟨v', hv', htree', hreading'⟩ := h'.put strategy' authority r hint v
    rw [hw', hv']
    exact ⟨rfl, htree.trans (hwv.tree.trans htree'.symm), by rw [hreading, hreading', hwv.store]⟩
  ensureSpace space w v hwv := by
    obtain ⟨made, w', hw', htree, hspec⟩ := h.ensureSpace space w
    obtain ⟨made', v', hv', htree', hspec'⟩ := h'.ensureSpace space v
    obtain ⟨hmade, hreading⟩ := Prod.mk.inj (hspec.symm.trans (hwv.store ▸ hspec'))
    rw [hw', hv', Option.some.inj (Except.ok.inj hmade)]
    exact ⟨rfl, htree.trans (hwv.tree.trans htree'.symm), hreading⟩

/-! ## Both stores -/

namespace DryStore

variable {r : SecretRecord} {w : World DryStore}

theorem exec_create_present (h : (w.store.get? r.name r.space).isSome = true) :
    (create r).exec w = (.error (.pipeline (.store (.alreadyExists r.space r.name) none)), w) := by
  unfold create
  rw [exec_bind, exec_get]
  dsimp only
  rw [if_pos h]
  rfl

theorem exec_ensureSpace_present {space : String} (h : space ∈ w.store.spaces) :
    (ensureSpace space).exec w = (.ok false, w) := by
  unfold ensureSpace
  rw [exec_bind, exec_get]
  dsimp only
  rw [if_pos (by simpa using h)]
  rfl

theorem exec_ensureSpace_absent {space : String} (h : space ∉ w.store.spaces) :
    ∃ log, (ensureSpace space).exec w =
      (.ok true, { w with store := { w.store with spaces := w.store.spaces ++ [space] }, log := log }) := by
  unfold ensureSpace
  rw [exec_bind, exec_get]
  dsimp only
  rw [if_neg (by simpa using h)]
  exact ⟨_, rfl⟩

theorem isSome_reading (d : DryStore) (space name : String) :
    (d.reading.secrets (space, name)).isSome = (d.get? name space).isSome := Option.isSome_map

theorem serves_delete (name space : String) : store.Serves reading (.delete name space) := fun _ =>
  ⟨congrArg (some ∘ Except.ok ∘ some) (isSome_reading ..).symm, reading_erase ..⟩

theorem serves_create (r : SecretRecord) : store.Serves reading (.create r) := fun w => by
  by_cases hr : (w.store.get? r.name r.space).isSome = true
  · rw [show (store.serve (.create r)).exec w = _ from bind_error.mpr (.inl (exec_create_present hr)),
      show w.store.reading.serve (.create r) = _ from if_pos ((isSome_reading ..).trans hr)]
    exact ⟨rfl, rfl⟩
  · have hnone : w.store.get? r.name r.space = none := by simpa using hr
    obtain ⟨log, hw'⟩ := exec_create hnone
    rw [show (store.serve (.create r)).exec w = (.ok none, _) from bind_ok.mpr ⟨(), _, hw', rfl⟩,
      show w.store.reading.serve (.create r) = _ from if_neg (isSome_reading .. ▸ hr)]
    exact ⟨rfl, reading_insert hnone⟩

theorem serves_replace (r : SecretRecord) : store.Serves reading (.replace r) := fun w => by
  obtain ⟨log, hw'⟩ := exec_replace (r := r) w
  rw [show (store.serve (.replace r)).exec w = (.ok none, _) from bind_ok.mpr ⟨(), _, hw', rfl⟩]
  refine ⟨rfl, (reading_insert get?_erase_self).trans ?_⟩
  rw [reading_erase, StoreReading.set_set]
  rfl

theorem serves_ensureSpace (space : String) : store.Serves reading (.ensureSpace space) := fun w => by
  by_cases hspace : space ∈ w.store.spaces
  · rw [show (store.serve (.ensureSpace space)).exec w = (.ok (some false), _) from
        bind_ok.mpr ⟨false, _, exec_ensureSpace_present hspace, rfl⟩,
      show w.store.reading.serve (.ensureSpace space) = _ from if_pos hspace]
    exact ⟨rfl, rfl⟩
  · obtain ⟨log, hw'⟩ := exec_ensureSpace_absent hspace
    rw [show (store.serve (.ensureSpace space)).exec w = (.ok (some true), _) from
        bind_ok.mpr ⟨true, _, hw', rfl⟩,
      show w.store.reading.serve (.ensureSpace space) = _ from if_neg hspace]
    refine ⟨rfl, StoreReading.ext (Set.ext fun x => ?_) rfl⟩
    simp [reading, StoreReading.addSpace, or_comm]

theorem store_implements : store.Implements reading where
  serves
    | .delete name space => serves_delete name space
    | .create r => serves_create r
    | .replace r => serves_replace r
    | .ensureSpace space => serves_ensureSpace space
  aloof := store_aloof

end DryStore

namespace ClusterApi

variable {σ : Type} {api : ClusterApi σ} {view : σ → ClusterView} (h : api.Faultless view)
include h

omit h in
theorem isSome_reading (v : ClusterView) (key : String × String) :
    (v.reading.secrets key).isSome = (v.secrets key).isSome := Option.isSome_map

theorem serves_delete (name space : String) :
    (store api).Serves (fun s => (view s).reading) (.delete name space) := fun w => by
  have hspec (found : Bool) (hfound : ((view w.store).secrets (space, name)).isSome = found) :
      (view w.store).reading.serve (.delete name space) =
        (.ok (some found), (view w.store).reading.set (space, name) none) := by
    rw [StoreReading.serve, isSome_reading, hfound]
  by_cases hthere : ((view w.store).secrets (space, name)).isSome = true
  · obtain ⟨s, hs, hview⟩ := (h.deleteSecret space name).succeeds w.store hthere
    obtain ⟨log, hw'⟩ := exec_delete_done hs
    rw [show ((store api).serve (.delete name space)).exec w = (.ok (some true), _) from
        bind_ok.mpr ⟨true, _, hw', rfl⟩, hspec true hthere]
    refine ⟨rfl, ?_⟩
    dsimp only
    rw [hview, ClusterView.reading_set]
    rfl
  · obtain ⟨reason, s, hs, hview⟩ := (h.deleteSecret space name).declines w.store hthere
    rw [show ((store api).serve (.delete name space)).exec w = (.ok (some false), _) from
        bind_ok.mpr ⟨false, _, exec_delete_failed hs, rfl⟩, hspec false (Bool.not_eq_true _ ▸ hthere),
      StoreReading.set_none (isSome_reading .. ▸ hthere)]
    exact ⟨rfl, congrArg ClusterView.reading hview⟩

/-- A secret is created where there is none. -/
theorem creates {r : SecretRecord} {w : World σ}
    (hnone : ¬ ((view w.store).secrets (r.space, r.name)).isSome = true) :
    ∃ w', (create api r).exec w = (.ok (), w') ∧
      (view w'.store).reading = (view w.store).reading.set (r.space, r.name) (some r.reading) := by
  obtain ⟨s, hs, hview⟩ := (h.createSecret r.space (.ofRecord r)).succeeds w.store hnone
  refine ⟨_, exec_create_done hs, ?_⟩
  dsimp only
  rw [hview, ClusterView.reading_set, Option.map_some, reading_ofRecord]
  rfl

theorem serves_create (r : SecretRecord) :
    (store api).Serves (fun s => (view s).reading) (.create r) := fun w => by
  by_cases hr : ((view w.store).secrets (r.space, r.name)).isSome = true
  · obtain ⟨reason, s, hs, hview⟩ :=
      (h.createSecret r.space (.ofRecord r)).declines w.store (not_not.mpr hr)
    rw [show ((store api).serve (.create r)).exec w = _ from bind_error.mpr (.inl (exec_create_failed hs)),
      show (view w.store).reading.serve (.create r) = _ from if_pos ((isSome_reading ..).trans hr)]
    exact ⟨rfl, congrArg ClusterView.reading hview⟩
  · obtain ⟨w', hw', hreading⟩ := creates h hr
    rw [show ((store api).serve (.create r)).exec w = (.ok none, _) from bind_ok.mpr ⟨(), _, hw', rfl⟩,
      show (view w.store).reading.serve (.create r) = _ from if_neg (isSome_reading .. ▸ hr)]
    exact ⟨rfl, hreading⟩

theorem serves_replace (r : SecretRecord) :
    (store api).Serves (fun s => (view s).reading) (.replace r) := fun w => by
  obtain ⟨w', hw', hreading⟩ : ∃ w', (replace api r).exec w = (.ok (), w') ∧
      (view w'.store).reading = (view w.store).reading.set (r.space, r.name) (some r.reading) := by
    by_cases hr : ((view w.store).secrets (r.space, r.name)).isSome = true
    · obtain ⟨s, hs, hview⟩ := (h.replaceSecret r.space r.name (.ofRecord r)).succeeds w.store hr
      refine ⟨_, exec_replace_done hs, ?_⟩
      dsimp only
      rw [hview, ClusterView.reading_set, Option.map_some, reading_ofRecord]
    · obtain ⟨reason, s, hs, hview⟩ := (h.replaceSecret r.space r.name (.ofRecord r)).declines w.store hr
      obtain ⟨w', hw', hreading⟩ := creates h (w := { w with store := s }) (hview ▸ hr)
      exact ⟨w', (exec_replace_failed hs).trans hw', hview ▸ hreading⟩
  rw [show ((store api).serve (.replace r)).exec w = (.ok none, _) from bind_ok.mpr ⟨(), _, hw', rfl⟩]
  exact ⟨rfl, hreading⟩

theorem serves_ensureSpace (space : String) :
    (store api).Serves (fun s => (view s).reading) (.ensureSpace space) := fun w => by
  by_cases hspace : space ∈ (view w.store).spaces
  · obtain ⟨s, hs, hview⟩ := (h.readSpace space).succeeds w.store hspace
    rw [show ((store api).serve (.ensureSpace space)).exec w = (.ok (some false), _) from
        bind_ok.mpr ⟨false, _, exec_ensureSpace_there hs, rfl⟩,
      show (view w.store).reading.serve (.ensureSpace space) = _ from if_pos hspace]
    exact ⟨rfl, congrArg ClusterView.reading hview⟩
  · obtain ⟨reason, s, hs, hview⟩ := (h.readSpace space).declines w.store hspace
    obtain ⟨s', hs', hview'⟩ := (h.createSpace space).succeeds s (hview.symm ▸ hspace)
    obtain ⟨log, hw'⟩ := exec_ensureSpace_made hs rfl hs'
    rw [show ((store api).serve (.ensureSpace space)).exec w = (.ok (some true), _) from
        bind_ok.mpr ⟨true, _, hw', rfl⟩,
      show (view w.store).reading.serve (.ensureSpace space) = _ from if_neg hspace]
    refine ⟨rfl, ?_⟩
    dsimp only
    rw [hview', hview]
    rfl

theorem store_implements : (store api).Implements fun s => (view s).reading where
  serves
    | .delete name space => serves_delete h name space
    | .create r => serves_create h r
    | .replace r => serves_replace h r
    | .ensureSpace space => serves_ensureSpace h space
  aloof := store_aloof api

end ClusterApi

/-! ## Agreement -/

namespace Pipeline

variable {σ : Type} {api : ClusterApi σ} {view : σ → ClusterView}

/-- A dry run and a faultless cluster that hold the same answer every sequence of requests alike: the same
values, and failed publications at the same requests, of the same operations; and they hold the same
afterwards. So a deployment from the same files ends alike with either, whichever way each of them replaces
secrets. -/
theorem dry_run_and_cluster_agree (h : api.Faultless view) {w : World DryStore} {v : World σ}
    (hwv : w.store.reading = (view v.store).reading) :
    (∀ calls,
      (DryStore.store.serveAll calls w).1.map told = ((ClusterApi.store api).serveAll calls v).1.map told ∧
      none ∉ (DryStore.store.serveAll calls w).1.map told ∧
      (DryStore.store.serveAll calls w).2.store.reading =
        (view ((ClusterApi.store api).serveAll calls v).2.store).reading) ∧
    (w.tree = v.tree → ∀ (s : Settings) (space : Option String) (tlsOnly : Bool) (dry cluster : ReplaceStrategy),
      ((deploy DryStore.store { s with strategy := dry } space tlsOnly).exec w).1 =
        ((deploy (ClusterApi.store api) { s with strategy := cluster } space tlsOnly).exec v).1 ∧
      ((deploy DryStore.store { s with strategy := dry } space tlsOnly).exec w).2.store.reading =
        (view
          ((deploy (ClusterApi.store api) { s with strategy := cluster } space tlsOnly).exec v).2.store).reading) := by
  have hdry := DryStore.store_implements
  have hcluster := ClusterApi.store_implements h
  refine ⟨fun calls => ?_, fun htree s space tlsOnly dry cluster => ?_⟩
  · obtain ⟨hanswers, hholds⟩ := hdry.serveAll calls w
    obtain ⟨hanswers', hholds'⟩ := hcluster.serveAll calls v
    rw [hanswers, hanswers', hholds, hholds', hwv]
    exact ⟨rfl, by simp, rfl⟩
  · have halike := Alike.deploy (s := { s with strategy := dry })
      (hdry.publishers hcluster dry cluster (authorityFiles s)) space tlsOnly
    obtain ⟨houtcome, hside⟩ := halike w v ⟨htree, hwv⟩
    exact ⟨houtcome, hside.store⟩

set_option maxRecDepth 100000 in
/-- From nothing, a cluster in memory refuses to create a secret twice, and a deployment to it that replaces
secrets returns what a dry run does that makes them anew. -/
theorem specimen_dry_run_and_cluster_agree :
    ((ClusterApi.store (Cluster.api fun _ => none)).serveAll
        [.ensureSpace "default", .create ⟨"a", "default", [("k", [1])], [], []⟩,
          .create ⟨"a", "default", [], [], []⟩, .delete "a" "default", .delete "a" "default"]
        { tree := issuedTree, store := {} }).1.map told =
      [some (.ok (some true)), some (.ok none), some (.error "create secret default/a"), some (.ok (some true)),
        some (.ok (some false))] ∧
    ∃ rs dry cluster,
      (deploy DryStore.store { strategy := .recreate }).exec { tree := issuedTree, store := {} } = (.ok rs, dry) ∧
      (deploy (ClusterApi.store (Cluster.api fun _ => none)) { strategy := .replace }).exec
        { tree := issuedTree, store := {} } = (.ok rs, cluster) ∧
      dry.store.reading = cluster.store.view.reading := by
  obtain ⟨hcalls, hdeploys⟩ := dry_run_and_cluster_agree Cluster.api_faultless
    (w := { tree := issuedTree, store := {} }) (v := { tree := issuedTree, store := {} }) rfl
  refine ⟨?_, ?_⟩
  · rw [← (hcalls _).1]
    decide +kernel
  · have hreturns : ((deploy DryStore.store { strategy := .recreate }).exec
        { tree := issuedTree, store := {} }).1.isOk = true := by decide +kernel
    obtain ⟨houtcome, hreading⟩ := hdeploys rfl {} none false .recreate .replace
    rcases hdry : (deploy DryStore.store { strategy := .recreate }).exec { tree := issuedTree, store := {} }
      with ⟨e | rs, dry⟩
    · rw [hdry] at hreturns
      cases hreturns
    · refine ⟨rs, dry, _, rfl, Prod.ext (houtcome.symm.trans (by rw [hdry])) rfl, ?_⟩
      exact (by rw [hdry] : dry.store.reading = _).trans hreading

end Pipeline

end ServiceTrust
