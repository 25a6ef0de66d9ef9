/-
How stages fail. A stage `FailsWithin Q` if `Q` holds of every pipeline failure that it ends in, from
whatever world it starts; plain faults are left aside, since whoever catches one tells it as a pipeline
failure of its own. The primitive stages have only plain faults, and what is put together from stages fails
as its parts do.
-/
import ServiceTrust.CommandLine.Run
import ServiceTrust.Proofs.Stage

namespace ServiceTrust

namespace Stage

variable {σ α β : Type} {Q R : PipelineError → Prop}

/-- Every pipeline failure of `act` is one that `Q` holds of. -/
def FailsWithin (Q : PipelineError → Prop) (act : Stage σ α) : Prop :=
  ∀ ⦃w e w'⦄, act.exec w = (.error (.pipeline e), w') → Q e

namespace FailsWithin

theorem mono {act : Stage σ α} (h : FailsWithin R act) (hRQ : ∀ e, R e → Q e) : FailsWithin Q act :=
  fun _ e _ he => hRQ e (h he)

/-! ## Primitive stages -/

theorem pure (a : α) : FailsWithin Q (Pure.pure a : Stage σ α) := fun _ _ _ he => (pure_error.mp he).elim

theorem fail {e : PipelineError} (h : Q e) : FailsWithin Q (fail e : Stage σ α) := by
  intro w e' w' he
  obtain ⟨he, -⟩ := fail_error.mp he
  cases he
  exact h

theorem throwFault (f : Fault) : FailsWithin Q (throw (.fault f) : Stage σ α) := by
  intro w e w' he
  rw [exec_throw] at he
  cases he

theorem log (level : Level) (message : String) (fields : List (String × Json)) :
    FailsWithin Q (log level message fields : Stage σ Unit) := fun _ _ _ he => (log_error.mp he).elim

theorem count (event : Event) : FailsWithin Q (count event : Stage σ Unit) :=
  fun _ _ _ he => (count_error.mp he).elim

theorem get : FailsWithin Q (get : Stage σ (World σ)) := by
  intro w e w' he
  rw [exec_get] at he
  cases he

theorem set (v : World σ) : FailsWithin Q (set v : Stage σ PUnit) := by
  intro w e w' he
  rw [exec_set] at he
  cases he

theorem modify (f : World σ → World σ) : FailsWithin Q (modify f : Stage σ PUnit) := by
  intro w e w' he
  rw [exec_modify] at he
  cases he

theorem tree : FailsWithin Q (tree : Stage σ Tree) := by
  intro w e w' he
  rw [exec_tree] at he
  cases he

theorem newSeed (host : Host) : FailsWithin Q (newSeed host : Stage σ Bytes) :=
  fun _ _ _ he => (newSeed_error.mp he).elim

theorem crypto (outcome : Except Crypto.Fault α) : FailsWithin Q (crypto outcome : Stage σ α) := by
  intro w e w' he
  obtain ⟨f, -, he, -⟩ := crypto_error.mp he
  cases he

theorem change (f : Tree → Except FileFault Tree) : FailsWithin Q (change f : Stage σ Unit) := by
  intro w e w' he
  obtain ⟨f, -, he, -⟩ := change_error.mp he
  cases he

theorem write (p : Path) (bytes : Bytes) : FailsWithin Q (write p bytes : Stage σ Unit) := change _

theorem read (p : Path) : FailsWithin Q (read p : Stage σ Bytes) := by
  intro w e w' he
  obtain ⟨f, -, he, -⟩ := read_error.mp he
  cases he

theorem makeDirectories (p : Path) : FailsWithin Q (makeDirectories p : Stage σ Unit) := by
  intro w e w' he
  obtain ⟨f, -, he, -⟩ := makeDirectories_error.mp he
  cases he

theorem clear (p : Path) : FailsWithin Q (clear p : Stage σ (List Path)) :=
  fun _ _ _ he => (clear_error.mp he).elim

/-! ## Stages put together -/

/-- The second stage only has to fail so after what the first one can return. -/
theorem bind_of_ok {act : Stage σ α} {f : α → Stage σ β} (h : FailsWithin Q act)
    (hf : ∀ ⦃w a w'⦄, act.exec w = (.ok a, w') → FailsWithin Q (f a)) : FailsWithin Q (act >>= f) := by
  intro w e w' he
  rcases bind_error.mp he with he | ⟨a, w₁, ha, he⟩
  · exact h he
  · exact hf ha he

theorem bind {act : Stage σ α} {f : α → Stage σ β} (h : FailsWithin Q act) (hf : ∀ a, FailsWithin Q (f a)) :
    FailsWithin Q (act >>= f) :=
  h.bind_of_ok fun _ a _ _ => hf a

theorem tryCatch {act : Stage σ α} {handler : Failure → Stage σ α} (h : FailsWithin R act)
    (hf : ∀ f, FailsWithin Q (handler (.fault f))) (hp : ∀ e, R e → FailsWithin Q (handler (.pipeline e))) :
    FailsWithin Q (tryCatch act handler) := by
  intro w e w' he
  rw [exec_tryCatch] at he
  rcases hact : act.exec w with ⟨(f | e₁) | a, w₁⟩
  · rw [hact] at he
    exact hf f he
  · rw [hact] at he
    exact hp e₁ (h hact) he
  · rw [hact] at he
    cases he

/-- What is told in the place of a plain fault counts, and pipeline failures pass. -/
theorem catchFault {act : Stage σ α} {onFault : Fault → Stage σ α} (h : FailsWithin Q act)
    (hf : ∀ f, FailsWithin Q (onFault f)) : FailsWithin Q (catchFault act onFault) := by
  refine tryCatch h hf fun e he w e' w' hthrow => ?_
  rw [exec_throw] at hthrow
  cases hthrow
  exact he

theorem andFinally {act : Stage σ α} {last : Stage σ Unit} (h : FailsWithin Q act) (hl : FailsWithin Q last) :
    FailsWithin Q (andFinally act last) := by
  refine bind (tryCatch h (fun f => hl.bind fun _ => throwFault f) fun e he => hl.bind fun _ => fail he)
    fun a => hl.bind fun _ => pure a

theorem ite {c : Prop} [Decidable c] {act other : Stage σ α} (h : c → FailsWithin Q act)
    (h' : ¬c → FailsWithin Q other) : FailsWithin Q (if c then act else other) := by
  split
  next hc => exact h hc
  next hc => exact h' hc

theorem mapM {xs : List α} {f : α → Stage σ β} (h : ∀ x ∈ xs, FailsWithin Q (f x)) :
    FailsWithin Q (xs.mapM f) := by
  induction xs with
  | nil => exact pure _
  | cons x xs ih =>
    rw [List.mapM_cons]
    exact (h x (List.mem_cons_self ..)).bind fun _ =>
      (ih fun y hy => h y (List.mem_cons_of_mem _ hy)).bind fun _ => pure _

theorem forM {xs : List α} {f : α → Stage σ PUnit} (h : ∀ x ∈ xs, FailsWithin Q (f x)) :
    FailsWithin Q (xs.forM f) := by
  induction xs with
  | nil => exact pure _
  | cons x xs ih =>
    exact (h x (List.mem_cons_self ..)).bind fun _ => ih fun y hy => h y (List.mem_cons_of_mem _ hy)

theorem map {act : Stage σ α} (f : α → β) (h : FailsWithin Q act) : FailsWithin Q (f <$> act) := by
  rw [map_eq_pure_bind]
  exact h.bind fun _ => pure _

/-- Counting a failure does not change it. -/
theorem counted {act : Stage σ α} (h : FailsWithin Q act) : FailsWithin Q (Pipeline.counted act) :=
  tryCatch h (fun f => (pure ()).bind fun _ => throwFault f) fun _ he => (count _).bind fun _ => fail he

end FailsWithin

end Stage

/-! ## Counting and telling -/

open Stage

variable {σ α : Type} {w w' : World σ}

/-- A pipeline failure is the last thing that is counted. -/
theorem Pipeline.counted_error {act : Stage σ α} {e : PipelineError}
    (h : (counted act).exec w = (.error (.pipeline e), w')) : w'.events.getLast? = some (.failed e.kind) := by
  unfold counted at h
  rw [exec_tryCatch] at h
  rcases hact : act.exec w with ⟨(f | e₁) | a, w₁⟩
  · rw [hact] at h
    cases h
  · rw [hact] at h
    cases h
    exact List.getLast?_concat
  · rw [hact] at h
    cases h

namespace CommandLine

variable {host : Host} {api : ClusterApi σ} {s : Settings} {c : Command}

/-- The log record of a command that failed. -/
def failureRecord (c : Command) (e : PipelineError) : LogRecord :=
  ⟨.error, "command_failed", [("command", .text c.name), ("error", .text e.message)]⟩

/-- A plain fault ends the program; everything else ends it with a status. -/
theorem runWith_eq (host : Host) (api : ClusterApi σ) (s : Settings) (c : Command) (w : World σ) :
    runWith host api s c w =
      match (runCommand host api s c).exec w with
      | (.ok lines, w') => (.ok ⟨0, lines, []⟩, w')
      | (.error (.fault f), w') => (.error f, w')
      | (.error (.pipeline e), w') =>
        (.ok ⟨1, [], failureLines e⟩, { w' with log := w'.log.add (failureRecord c e) }) := by
  unfold runWith exec
  simp only [bind, StateT.bind, ExceptT.run]
  rcases runCommand host api s c w with ⟨(f | e) | lines, w'⟩ <;> rfl

end CommandLine

end ServiceTrust
