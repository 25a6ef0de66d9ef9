/-
What is logged under one message. A stage `Reports` a list of records if its run adds a first part of them to
what the log has under the message, and all of them if it returns; the log drops those below its threshold. The
records need not depend on anything that the run does, and so on nothing that a run only keeps to itself. Stores
that use other messages have no part in it.
-/
import ServiceTrust.Proofs.Stage
import ServiceTrust.Publish.Cluster
import ServiceTrust.Publish.Publisher

namespace ServiceTrust

variable {σ α β : Type} {message : String} {rs rs' : List LogRecord} {l l' l'' : Log}

/-! ## Records in a log -/

namespace Log

/-- What the log has under a message, in order. -/
def told (l : Log) (message : String) : List LogRecord := l.records.filter (·.message = message)

/-- Those of the records that the log takes. -/
def heard (l : Log) (rs : List LogRecord) : List LogRecord := rs.filter (l.threshold ≤ ·.level.number)

theorem told_add (l : Log) (r : LogRecord) (message : String) :
    (l.add r).told message = l.told message ++ l.heard (if r.message = message then [r] else []) := by
  by_cases hlevel : l.threshold ≤ r.level.number <;> by_cases hmessage : r.message = message <;>
    simp [add, told, heard, hlevel, hmessage]

theorem threshold_add (l : Log) (r : LogRecord) : (l.add r).threshold = l.threshold := by
  unfold add
  split <;> rfl

/-- Under the message the records `rs` were added, as far as the log takes them. -/
structure Grown (message : String) (rs : List LogRecord) (l l' : Log) : Prop where
  threshold : l'.threshold = l.threshold
  told : l'.told message = l.told message ++ l.heard rs

namespace Grown

theorem refl (l : Log) : Grown message [] l l := ⟨rfl, (List.append_nil _).symm⟩

theorem trans (h : Grown message rs l l') (h' : Grown message rs' l' l'') : Grown message (rs ++ rs') l l'' := by
  refine ⟨h'.threshold.trans h.threshold, ?_⟩
  rw [h'.told, h.told, List.append_assoc]
  simp only [heard, h.threshold, List.filter_append]

theorem add (message : String) (l : Log) (r : LogRecord) :
    Grown message (if r.message = message then [r] else []) l (l.add r) :=
  ⟨threshold_add l r, told_add l r message⟩

end Grown

end Log

/-! ## Stages -/

namespace Stage

/-- Under the message a run adds a first part of `rs` to the log, and all of it if it returns. -/
def Reports (message : String) (act : Stage σ α) (rs : List LogRecord) : Prop :=
  ∀ w, ∃ begun, begun <+: rs ∧ ((act.exec w).1.isOk = true → begun = rs) ∧
    Log.Grown message begun w.log (act.exec w).2.log

namespace Reports

/-- A stage that adds nothing under the message. -/
theorem silent {act : Stage σ α} (h : ∀ w, (act.exec w).2.log = w.log) : Reports message act [] := fun w =>
  ⟨[], List.prefix_refl _, fun _ => rfl, (h w).symm ▸ .refl _⟩

theorem pure (a : α) : Reports message (Pure.pure a : Stage σ α) [] := silent fun _ => rfl

theorem get : Reports message (get : Stage σ (World σ)) [] := silent fun _ => rfl

theorem count (e : Event) : Reports message (count e : Stage σ Unit) [] := silent fun _ => rfl

theorem modify {f : World σ → World σ} (h : ∀ w, (f w).log = w.log) :
    Reports message (modify f : Stage σ PUnit) [] := silent h

/-- After a failure nothing of what was to come is reported. -/
theorem throw (e : Failure) (rs : List LogRecord) : Reports message (throw e : Stage σ α) rs := fun w =>
  ⟨[], List.nil_prefix, (nomatch ·), Log.Grown.refl w.log⟩

theorem fail (e : PipelineError) (rs : List LogRecord) : Reports message (fail e : Stage σ α) rs := throw _ rs

theorem log (level : Level) (fields : List (String × Json)) :
    Reports message (log level message fields : Stage σ Unit) [⟨level, message, fields⟩] := fun w => by
  have hadd := Log.Grown.add message w.log ⟨level, message, fields⟩
  rw [if_pos rfl] at hadd
  exact ⟨_, List.prefix_refl _, fun _ => rfl, hadd⟩

theorem log_other {other : String} (h : other ≠ message) (level : Level) (fields : List (String × Json)) :
    Reports message (Stage.log level other fields : Stage σ Unit) [] := fun w => by
  have hadd := Log.Grown.add message w.log ⟨level, other, fields⟩
  rw [if_neg h] at hadd
  exact ⟨_, List.prefix_refl _, fun _ => rfl, hadd⟩

theorem bind {act : Stage σ α} {f : α → Stage σ β} (h : Reports message act rs)
    (hf : ∀ a, Reports message (f a) rs') : Reports message (act >>= f) (rs ++ rs') := fun w => by
  obtain ⟨begun, hprefix, hall, hgrown⟩ := h w
  rw [exec_bind]
  rcases hact : act.exec w with ⟨e | a, w₁⟩
  · rw [hact] at hgrown
    exact ⟨begun, hprefix.trans (List.prefix_append _ _), (nomatch ·), hgrown⟩
  · rw [hact] at hall hgrown
    -- what returned has reported all of its part, so that the next part goes on from its end
    obtain rfl := hall rfl
    obtain ⟨begun', hprefix', hall', hgrown'⟩ := hf a w₁
    exact ⟨begun ++ begun', (List.prefix_append_right_inj begun).mpr hprefix', fun hok => by rw [hall' hok],
      hgrown.trans hgrown'⟩

theorem tryCatch {act : Stage σ α} {handler : Failure → Stage σ α} (h : Reports message act [])
    (hh : ∀ e, Reports message (handler e) []) : Reports message (tryCatch act handler) [] := fun w => by
  obtain ⟨begun, hprefix, -, hgrown⟩ := h w
  obtain rfl := List.prefix_nil.mp hprefix
  rw [exec_tryCatch]
  rcases hact : act.exec w with ⟨e | a, w₁⟩
  · rw [hact] at hgrown
    obtain ⟨begun, hprefix, hall, hgrown'⟩ := hh e w₁
    exact ⟨begun, hprefix, hall, hgrown.trans hgrown'⟩
  · rw [hact] at hgrown
    exact ⟨[], hprefix, fun _ => rfl, hgrown⟩

theorem ite {c : Prop} [Decidable c] {act other : Stage σ α} (h : Reports message act rs)
    (h' : Reports message other rs) : Reports message (if c then act else other) rs := by
  split
  · exact h
  · exact h'

theorem mapM {xs : List α} {f : α → Stage σ β} {g : α → List LogRecord}
    (h : ∀ x ∈ xs, Reports message (f x) (g x)) : Reports message (xs.mapM f) (xs.flatMap g) := by
  induction xs with
  | nil => exact pure _
  | cons x xs ih =>
    rw [List.mapM_cons, List.flatMap_cons, ← List.append_nil (xs.flatMap g)]
    exact (h x (List.mem_cons_self ..)).bind fun _ =>
      (ih fun y hy => h y (List.mem_cons_of_mem _ hy)).bind fun _ => pure _

end Reports

end Stage

/-! ## Stores and publishers -/

open Stage

/-- No request to the store adds to the log under the message. -/
structure SecretStore.Silent (message : String) (store : SecretStore σ) : Prop where
  delete : ∀ name space, Reports message (store.delete name space) []
  create : ∀ r, Reports message (store.create r) []
  replace : ∀ r, Reports message (store.replace r) []
  ensureSpace : ∀ space, Reports message (store.ensureSpace space) []

theorem DryStore.store_silent (hsecret : "dry_run_secret" ≠ message) (hspace : "dry_run_namespace" ≠ message) :
    DryStore.store.Silent message := by
  have hmodify (f : DryStore → DryStore) : Reports message (modifyStore f) [] := .modify fun _ => rfl
  have hcreate (r : SecretRecord) : Reports message (DryStore.create r) [] :=
    Reports.get.bind fun _ => .ite ((Reports.fail _ []).bind fun _ => (hmodify _).bind fun _ => .log_other hsecret _ _)
      ((hmodify _).bind fun _ => .log_other hsecret _ _)
  refine ⟨fun name space => ?_, hcreate, fun r => (hmodify _).bind fun _ => hcreate r, fun space => ?_⟩
  · exact Reports.get.bind fun _ => (hmodify _).bind fun _ => .pure _
  · exact Reports.get.bind fun _ => .ite (.pure _)
      ((hmodify _).bind fun _ => (Reports.log_other hspace _ _).bind fun _ => .pure _)

theorem ClusterApi.store_silent (api : ClusterApi σ) (hdeleted : "secret_deleted" ≠ message)
    (hmade : "namespace_created" ≠ message) : (ClusterApi.store api).Silent message := by
  have hcall (request : StateM σ (Except ApiFault Unit)) : Reports message (ClusterApi.call request) [] :=
    .silent fun _ => rfl
  have hrefuse {α : Type} (request : StoreRequest) (fault : ApiFault) :
      Reports message (ClusterApi.refuse request fault : Stage σ α) [] := by
    cases fault <;> exact .fail _ _
  have hcreate (r : SecretRecord) : Reports message (ClusterApi.create api r) [] :=
    (hcall _).bind fun answer => by
      cases answer with
      | ok u => exact .pure _
      | error fault => exact hrefuse _ fault
  refine ⟨fun name space => (hcall _).bind fun answer => ?_, hcreate, fun r => (hcall _).bind fun answer => ?_,
    fun space => (hcall _).bind fun answer => ?_⟩
  · cases answer with
    | ok u => exact (Reports.log_other hdeleted _ _).bind fun _ => .pure _
    | error fault => exact .ite (.pure _) (hrefuse _ fault)
  · cases answer with
    | ok u => exact .pure _
    | error fault => exact .ite (hcreate r) (hrefuse _ fault)
  · cases answer with
    | ok u => exact .pure _
    | error fault =>
      refine .ite (hrefuse _ fault) ((hcall _).bind fun answer => ?_)
      cases answer with
      | ok u => exact (Reports.log_other hmade _ _).bind fun _ => .pure _
      | error fault => exact .ite (.pure _) (hrefuse _ fault)

namespace Publisher

variable {p : Publisher σ} (h : p.store.Silent message) (hfailed : "secret_publish_failed" ≠ message)
  (hwritten : "secret_written" ≠ message)
include h hfailed hwritten

theorem put_silent (r : SecretRecord) (hint : Option String) : Reports message (p.put r hint) [] := by
  refine (Reports.tryCatch ?_ fun e => ?_).bind fun _ => .log_other hwritten _ _
  · cases p.strategy with
    | replace => exact h.replace r
    | recreate => exact (h.delete r.name r.space).bind fun _ => h.create r
  · split
    · exact (Reports.log_other hfailed _ _).bind fun _ => .fail _ _
    · exact .throw _ _

theorem publishLiteral_silent (name space : String) (values : List (String × String)) (kind : String) :
    Reports message (p.publishLiteral name space values kind) [] :=
  (put_silent h hfailed hwritten _ _).bind fun _ => (Reports.count _).bind fun _ => .pure _

end Publisher

end ServiceTrust
