/-
Publication to the store of a dry run. A stage that publishes is described by `Puts`: on which
condition it returns, what it returns, and the records it writes; where the condition fails it fails.
Of records that are `Consistent` the store has each one afterwards, in whatever order they are written.
-/
import ServiceTrust.Proofs.Stage
import ServiceTrust.Publish.Publisher

namespace ServiceTrust

open Stage

/-- No two different records have one name in one namespace. -/
def Consistent (rs : List SecretRecord) : Prop :=
  ∀ a ∈ rs, ∀ b ∈ rs, a.name = b.name → a.space = b.space → a = b

theorem SecretRecord.isAt_iff {r : SecretRecord} {name space : String} :
    r.isAt name space = true ↔ r.name = name ∧ r.space = space := by
  simp [isAt]

namespace DryStore

/-- The store with `r` in the place of a record of the same name. -/
def put (d : DryStore) (r : SecretRecord) : DryStore := (d.erase r.name r.space).insert r

def putAll (d : DryStore) (rs : List SecretRecord) : DryStore := rs.foldl put d

variable {d d' : DryStore} {r : SecretRecord} {rs : List SecretRecord} {name space : String}

theorem get?_erase_self : (d.erase name space).get? name space = none := by
  refine List.find?_eq_none.mpr fun r hr => ?_
  simpa using (List.mem_filter.mp hr).2

theorem get?_put_self : (d.put r).get? r.name r.space = some r := by
  have hr : r.isAt r.name r.space = true := SecretRecord.isAt_iff.mpr ⟨rfl, rfl⟩
  show List.find? _ ((d.erase r.name r.space).records ++ [r]) = some r
  rw [List.find?_append, show List.find? _ _ = none from get?_erase_self (d := d), Option.none_or,
    List.find?_cons, hr]

theorem get?_put_of_not (h : ¬ r.isAt name space = true) : (d.put r).get? name space = d.get? name space := by
  show List.find? _ ((d.records.filter fun q => !q.isAt r.name r.space) ++ [r]) = List.find? _ d.records
  rw [List.find?_append, List.find?_filter, List.find?_cons, Bool.eq_false_iff.mpr h, List.find?_nil,
    Option.or_none]
  congr 1
  funext q
  by_cases hq : q.isAt name space = true
  · have hne : ¬ q.isAt r.name r.space = true := by
      obtain ⟨rfl, rfl⟩ := SecretRecord.isAt_iff.mp hq
      exact fun he => h (SecretRecord.isAt_iff.mpr (by simpa [eq_comm] using SecretRecord.isAt_iff.mp he))
    simp [hq, hne]
  · simp [hq]

theorem get?_putAll_of_not (h : ∀ r ∈ rs, ¬ r.isAt name space = true) :
    (d.putAll rs).get? name space = d.get? name space := by
  induction rs generalizing d with
  | nil => rfl
  | cons r rs ih =>
    refine (ih fun q hq => h q (List.mem_cons_of_mem _ hq)).trans ?_
    exact get?_put_of_not (h r (List.mem_cons_self ..))

/-- Of consistent records each is there after all were written. -/
theorem get?_putAll (hc : Consistent rs) (hr : r ∈ rs) :
    (d.putAll rs).get? r.name r.space = some r := by
  induction rs generalizing d with
  | nil => cases hr
  | cons q rs ih =>
    have hrest : Consistent rs := fun a ha b hb =>
      hc a (List.mem_cons_of_mem _ ha) b (List.mem_cons_of_mem _ hb)
    by_cases hm : r ∈ rs
    · exact ih hrest hm
    · obtain rfl := (List.mem_cons.mp hr).resolve_right hm
      have hnone : ∀ q ∈ rs, ¬ q.isAt r.name r.space = true := by
        intro q hq he
        obtain ⟨hn, hs⟩ := SecretRecord.isAt_iff.mp he
        exact hm (hc q (List.mem_cons_of_mem _ hq) r (List.mem_cons_self ..) hn hs ▸ hq)
      exact (get?_putAll_of_not (d := d.put r) hnone).trans get?_put_self

theorem records_put_congr (h : d.records = d'.records) : (d.put r).records = (d'.put r).records := by
  simp [put, insert, erase, h]

theorem records_putAll_congr (h : d.records = d'.records) :
    (d.putAll rs).records = (d'.putAll rs).records := by
  induction rs generalizing d d' with
  | nil => exact h
  | cons r rs ih => exact ih (records_put_congr h)

theorem putAll_append (d : DryStore) (rs rs' : List SecretRecord) :
    d.putAll (rs ++ rs') = (d.putAll rs).putAll rs' := List.foldl_append ..

/-! ## Requests -/

theorem exec_delete (w : World DryStore) :
    (delete name space).exec w = (.ok (w.store.get? name space).isSome,
      { w with store := w.store.erase name space }) := rfl

theorem exec_create {w : World DryStore} (h : w.store.get? r.name r.space = none) :
    ∃ log, (create r).exec w = (.ok (), { w with store := w.store.insert r, log := log }) := by
  unfold create
  rw [exec_bind, exec_get]
  simp only [h, Option.isSome_none, Bool.false_eq_true, if_false]
  exact ⟨_, rfl⟩

theorem exec_replace (w : World DryStore) :
    ∃ log, (replace r).exec w = (.ok (), { w with store := w.store.put r, log := log }) := by
  obtain ⟨log, h⟩ := exec_create (w := { w with store := w.store.erase r.name r.space }) get?_erase_self
  refine ⟨log, ?_⟩
  unfold replace modifyStore
  rw [exec_bind, exec_modify]
  exact h

end DryStore

theorem Publisher.exec_put {p : Publisher DryStore} (hp : p.store = DryStore.store) (r : SecretRecord)
    (hint : Option String) (w : World DryStore) :
    ∃ log, (p.put r hint).exec w = (.ok (), { w with store := w.store.put r, log := log }) := by
  obtain ⟨store, strategy, authority⟩ := p
  obtain rfl : store = DryStore.store := hp
  unfold put
  cases strategy with
  | replace =>
    obtain ⟨log, h⟩ := DryStore.exec_replace (r := r) w
    dsimp only
    rw [exec_bind, exec_tryCatch, show (DryStore.store.replace r).exec w = _ from h]
    exact ⟨_, rfl⟩
  | recreate =>
    obtain ⟨log, h⟩ := DryStore.exec_create (r := r)
      (w := { w with store := w.store.erase r.name r.space }) DryStore.get?_erase_self
    dsimp only
    rw [exec_bind, exec_tryCatch, exec_bind,
      show (DryStore.store.delete r.name r.space).exec w = _ from DryStore.exec_delete w]
    dsimp only
    rw [show (DryStore.store.create r).exec { w with store := w.store.erase r.name r.space } = _ from h]
    exact ⟨_, rfl⟩

/-! ## Records -/

namespace Publish

/-- The contents of the files behind entries, under their keys. -/
def contents (t : Tree) (es : Entries) : List (String × Bytes) :=
  es.map fun e => (e.1, (t.read e.2).toOption.getD [])

theorem lookup_contents (t : Tree) (es : Entries) (key : String) :
    (contents t es).lookup key = (es.lookup key).map fun p => (t.read p).toOption.getD [] := by
  induction es with
  | nil => rfl
  | cons e es ih =>
    rcases e with ⟨k, p⟩
    show List.lookup key ((k, _) :: contents t es) = _
    rw [List.lookup_cons, List.lookup_cons]
    cases key == k <;> simp [ih]

/-- All files behind the entries are there. -/
def HasFiles (t : Tree) (es : Entries) : Prop := ∀ e ∈ es, t.isFile e.2 = true

/-- The record of a secret of files. -/
def fileRecord (t : Tree) (f : Publisher.FileSecret) : SecretRecord :=
  ⟨f.name, f.space, contents t f.entries, f.labels, f.annotations⟩

/-- The record of a secret of texts. -/
def literalRecord (name space : String) (values : List (String × String)) : SecretRecord :=
  { name, space, data := values.map fun (k, v) => (k, Text.encode v) }

end Publish

/-! ## Stages that publish -/

open Publish

variable {α β : Type} {t : Tree} {act : Stage DryStore α} {ready : Prop} {a : α} {rs : List SecretRecord}

/-- On the files `t` the stage returns `a` and has written the records `rs` if `ready`, and fails
otherwise. -/
structure Puts (t : Tree) (act : Stage DryStore α) (ready : Prop) (a : α) (rs : List SecretRecord) :
    Prop where
  returns : ready → ∀ w, w.tree = t → ∃ w' ws, act.exec w = (.ok a, w') ∧ w'.tree = t ∧
    (∀ r, r ∈ ws ↔ r ∈ rs) ∧ w'.store.records = (w.store.putAll ws).records
  fails : ¬ ready → ∀ w, w.tree = t → ∃ e w', act.exec w = (.error e, w')

namespace Puts

theorem mono {ready' : Prop} {a' : α} {rs' : List SecretRecord} (h : Puts t act ready a rs)
    (hready : ready' ↔ ready) (ha : ready → a = a') (hrs : ∀ r, r ∈ rs' ↔ r ∈ rs) :
    Puts t act ready' a' rs' := by
  refine ⟨fun hr w hw => ?_, fun hr => h.fails fun hr' => hr (hready.mpr hr')⟩
  obtain ⟨w', ws, hw', ht, hmem, hstore⟩ := h.returns (hready.mp hr) w hw
  exact ⟨w', ws, ha (hready.mp hr) ▸ hw', ht, fun r => (hmem r).trans (hrs r).symm, hstore⟩

/-- A stage that touches neither files nor secrets. -/
theorem quiet (h : ∀ w : World DryStore, w.tree = t →
      ∃ w', act.exec w = (.ok a, w') ∧ w'.tree = t ∧ w'.store.records = w.store.records) :
    Puts t act True a [] := by
  refine ⟨fun _ w hw => ?_, fun hn => absurd trivial hn⟩
  obtain ⟨w', hw', ht, hstore⟩ := h w hw
  exact ⟨w', [], hw', ht, fun _ => Iff.rfl, hstore⟩

theorem pure (a : α) : Puts t (Pure.pure a : Stage DryStore α) True a [] :=
  quiet fun w hw => ⟨w, rfl, hw, rfl⟩

theorem log (level : Level) (message : String) (fields : List (String × Json)) :
    Puts t (Stage.log level message fields) True () [] :=
  quiet fun _ hw => ⟨_, rfl, hw, rfl⟩

theorem count (e : Event) : Puts t (Stage.count e) True () [] :=
  quiet fun _ hw => ⟨_, rfl, hw, rfl⟩

theorem read (p : Path) :
    Puts t (Stage.read p) (t.isFile p = true) ((t.read p).toOption.getD []) [] := by
  refine ⟨fun hf w hw => ?_, fun hf w hw => ?_⟩
  · obtain ⟨bytes, hr⟩ := Tree.isFile_iff_read.mp hf
    refine ⟨w, [], ?_, hw, fun _ => Iff.rfl, rfl⟩
    rw [exec_read, hw, hr]
    rfl
  · cases hr : t.read p with
    | ok bytes => exact absurd (Tree.isFile_iff_read.mpr ⟨bytes, hr⟩) hf
    | error f =>
      refine ⟨.fault (.file f), w, ?_⟩
      rw [exec_read, hw, hr]
      rfl

theorem bind {f : α → Stage DryStore β} {ready' : Prop} {b : β} {rs' : List SecretRecord}
    (h : Puts t act ready a rs) (hf : ready → Puts t (f a) ready' b rs') :
    Puts t (act >>= f) (ready ∧ ready') b (rs ++ rs') := by
  refine ⟨fun hr w hw => ?_, fun hr w hw => ?_⟩
  · obtain ⟨w₁, ws, hw₁, ht₁, hmem, hstore⟩ := h.returns hr.1 w hw
    obtain ⟨w₂, ws', hw₂, ht₂, hmem', hstore'⟩ := (hf hr.1).returns hr.2 w₁ ht₁
    refine ⟨w₂, ws ++ ws', bind_ok.mpr ⟨a, w₁, hw₁, hw₂⟩, ht₂, fun r => ?_, ?_⟩
    · rw [List.mem_append, List.mem_append, hmem, hmem']
    · rw [hstore', DryStore.putAll_append]
      exact DryStore.records_putAll_congr hstore
  · rw [exec_bind]
    by_cases hready : ready
    · obtain ⟨w₁, ws, hw₁, ht₁, -⟩ := h.returns hready w hw
      rw [hw₁]
      exact (hf hready).fails (fun hr' => hr ⟨hready, hr'⟩) w₁ ht₁
    · obtain ⟨e, w₁, hw₁⟩ := h.fails hready w hw
      exact ⟨e, w₁, by rw [hw₁]⟩

theorem andReturn {f : α → β} (h : Puts t act ready a rs) :
    Puts t (act >>= fun a => Pure.pure (f a)) ready (f a) rs :=
  (h.bind fun _ => pure (f a)).mono (by simp) (fun _ => rfl) (by simp)

theorem mapM (xs : List α) {f : α → Stage DryStore β} {ready : α → Prop} {g : α → β}
    {ws : α → List SecretRecord} (h : ∀ x ∈ xs, Puts t (f x) (ready x) (g x) (ws x)) :
    Puts t (xs.mapM f) (∀ x ∈ xs, ready x) (xs.map g) (xs.flatMap ws) := by
  induction xs with
  | nil => exact (pure []).mono (by simp) (fun _ => rfl) fun _ => Iff.rfl
  | cons x xs ih =>
    rw [List.mapM_cons]
    have hrest := ih fun y hy => h y (List.mem_cons_of_mem _ hy)
    refine ((h x (List.mem_cons_self ..)).bind fun _ => hrest.andReturn).mono ?_
      (fun _ => rfl) fun r => ?_
    · simp only [List.forall_mem_cons]
    · simp only [List.flatMap_cons]

theorem forM {xs : List α} {f : α → Stage DryStore Unit} {ready : α → Prop}
    (h : ∀ x ∈ xs, Puts t (f x) (ready x) () []) :
    Puts t (xs.forM f) (∀ x ∈ xs, ready x) () [] := by
  induction xs with
  | nil => exact (pure ()).mono (by simp) (fun _ => rfl) fun _ => Iff.rfl
  | cons x xs ih =>
    have hrest := ih fun y hy => h y (List.mem_cons_of_mem _ hy)
    exact ((h x (List.mem_cons_self ..)).bind fun _ => hrest).mono (by simp) (fun _ => rfl)
      fun _ => Iff.rfl

/-! ## What a publisher puts -/

variable {p : Publisher DryStore}

theorem missing_eq_nil {es : Entries} : Publisher.missing t es = [] ↔ HasFiles t es := by
  simp [Publisher.missing, sortedNames_eq_nil, HasFiles]

theorem checkFiles (secret : String) (es : Entries) :
    Puts t (Publisher.checkFiles secret es) (HasFiles t es) () [] := by
  constructor
  · intro hf w hw
    refine ⟨w, [], ?_, hw, fun _ => Iff.rfl, rfl⟩
    unfold Publisher.checkFiles
    rw [exec_bind, exec_tree]
    simp only [hw, missing_eq_nil.mpr hf, exec_pure]
  · intro hf w hw
    unfold Publisher.checkFiles
    rw [exec_bind, exec_tree]
    dsimp only
    rw [hw]
    split
    next hm => exact absurd (missing_eq_nil.mp hm) hf
    next => exact ⟨_, w, rfl⟩

theorem readEntries (es : Entries) :
    Puts t (Publisher.readEntries es) (HasFiles t es) (contents t es) [] := by
  have hone (e : String × Path) : Puts t (do return (e.1, ← Stage.read e.2)) (t.isFile e.2 = true)
      (e.1, (t.read e.2).toOption.getD []) [] := (read e.2).andReturn
  exact (mapM es fun e _ => hone e).mono Iff.rfl (fun _ => rfl) (by simp)

theorem put (hp : p.store = DryStore.store) (r : SecretRecord) (hint : Option String) :
    Puts t (p.put r hint) True () [r] := by
  refine ⟨fun _ w hw => ?_, fun hn => absurd trivial hn⟩
  obtain ⟨log, h⟩ := Publisher.exec_put hp r hint w
  exact ⟨_, [r], h, hw, fun _ => Iff.rfl, rfl⟩

theorem publishFiles (hp : p.store = DryStore.store) (f : Publisher.FileSecret) :
    Puts t (p.publishFiles f) (HasFiles t f.entries) (fileRecord t f) [fileRecord t f] :=
  ((checkFiles f.name f.entries).bind fun _ => (readEntries f.entries).bind fun _ =>
    (put hp (fileRecord t f) f.hint).bind fun _ => (count _).bind fun _ => pure (fileRecord t f)).mono
    (by simp) (fun _ => rfl) fun _ => Iff.rfl

theorem publishLiteral (hp : p.store = DryStore.store) (name space : String)
    (values : List (String × String)) (kind : String) :
    Puts t (p.publishLiteral name space values kind) True (literalRecord name space values)
      [literalRecord name space values] :=
  ((put hp (literalRecord name space values) _).bind fun _ => (count _).bind fun _ =>
    pure (literalRecord name space values)).mono (by simp) (fun _ => rfl) fun _ => Iff.rfl

end Puts

end ServiceTrust
