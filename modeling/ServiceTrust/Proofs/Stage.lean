/-
Reading runs of stages. A run that returned is opened one step at a time (`bind_ok` and one lemma
for each primitive); of a run that may have failed anywhere one knows what every step keeps to: a
`Frame` is a preorder on worlds that does not look at the log, and a stage obeys it as soon as its
parts do.
-/
import ServiceTrust.Stage
import ServiceTrust.Proofs.Tree.Clear
import Mathlib.Data.List.Forall2

namespace ServiceTrust

/-- In lists that are related, each element of the first has one of the second. -/
theorem exists_of_forall₂ {α β : Type} {R : α → β → Prop} {xs : List α} {ys : List β} (h : List.Forall₂ R xs ys)
    {x : α} (hx : x ∈ xs) : ∃ y ∈ ys, R x y := by
  induction h with
  | nil => cases hx
  | cons hxy _ ih =>
    rcases List.mem_cons.mp hx with rfl | hx
    · exact ⟨_, List.mem_cons_self .., hxy⟩
    · obtain ⟨y, hy, hr⟩ := ih hx
      exact ⟨y, List.mem_cons_of_mem _ hy, hr⟩

namespace Stage

variable {σ α β : Type} {w w' : World σ}

/-- How `act` ends from the world `w`, and the world that it leaves. -/
def exec (act : Stage σ α) (w : World σ) : Except Failure α × World σ := act w

/-! ## Steps of a run -/

theorem exec_bind (act : Stage σ α) (f : α → Stage σ β) (w : World σ) :
    (act >>= f).exec w =
      match act.exec w with
      | (.ok a, w') => (f a).exec w'
      | (.error e, w') => (.error e, w') := by
  show (match act.exec w with
    | (r, w') => (ExceptT.bindCont f r : StateM (World σ) (Except Failure β)) w') = _
  rcases act.exec w with ⟨e | a, w'⟩ <;> rfl

theorem exec_bind_congr {act act' : Stage σ α} {w w' : World σ} (h : act.exec w = act'.exec w')
    (f : α → Stage σ β) : (act >>= f).exec w = (act' >>= f).exec w' := by
  rw [exec_bind, exec_bind, h]

theorem exec_tryCatch (act : Stage σ α) (handler : Failure → Stage σ α) (w : World σ) :
    (tryCatch act handler).exec w =
      match act.exec w with
      | (.ok a, w') => (.ok a, w')
      | (.error e, w') => (handler e).exec w' := by
  unfold exec
  simp only [tryCatch, tryCatchThe, MonadExceptOf.tryCatch, ExceptT.tryCatch, ExceptT.mk, bind,
    StateT.bind]
  rcases act w with ⟨e | a, w'⟩ <;> rfl

@[simp] theorem bind_ok {act : Stage σ α} {f : α → Stage σ β} {b : β} :
    (act >>= f).exec w = (.ok b, w') ↔
      ∃ a w₁, act.exec w = (.ok a, w₁) ∧ (f a).exec w₁ = (.ok b, w') := by
  rw [exec_bind]
  rcases act.exec w with ⟨_ | a, w₁⟩ <;> simp

theorem exec_map (f : α → β) (act : Stage σ α) (w : World σ) :
    (f <$> act).exec w = ((act.exec w).1.map f, (act.exec w).2) := by
  rw [map_eq_pure_bind, exec_bind]
  rcases act.exec w with ⟨e | a, w'⟩ <;> rfl

theorem world_bind_pure (act : Stage σ α) (f : α → β) (w : World σ) :
    ((act >>= fun a => pure (f a)).exec w).2 = (act.exec w).2 := by
  rw [exec_bind]
  rcases act.exec w with ⟨e | a, w'⟩ <;> rfl

@[simp] theorem map_ok {f : α → β} {act : Stage σ α} {b : β} :
    (f <$> act).exec w = (.ok b, w') ↔ ∃ a, act.exec w = (.ok a, w') ∧ b = f a := by
  rw [exec_map]
  rcases act.exec w with ⟨e | a, w₁⟩
  · simp [Except.map]
  · simp [Except.map, and_comm, @eq_comm _ b]

theorem exec_pure (a : α) (w : World σ) : (pure a : Stage σ α).exec w = (.ok a, w) := rfl

theorem exec_throw (e : Failure) (w : World σ) : (throw e : Stage σ α).exec w = (.error e, w) := rfl

theorem exec_modify (f : World σ → World σ) (w : World σ) :
    (modify f : Stage σ PUnit).exec w = (.ok ⟨⟩, f w) := rfl

theorem exec_log (level : Level) (message : String) (fields : List (String × Json)) (w : World σ) :
    (log level message fields).exec w =
      (.ok (), { w with log := w.log.add ⟨level, message, fields⟩ }) := rfl

theorem exec_count (e : Event) (w : World σ) :
    (count e).exec w = (.ok (), { w with events := w.events ++ [e] }) := rfl

theorem exec_tree (w : World σ) : (tree : Stage σ Tree).exec w = (.ok w.tree, w) := rfl

theorem exec_get (w : World σ) : (get : Stage σ (World σ)).exec w = (.ok w, w) := rfl

theorem exec_set (v w : World σ) : (set v : Stage σ PUnit).exec w = (.ok ⟨⟩, v) := rfl

theorem exec_newSeed (host : Host) (w : World σ) :
    (newSeed host).exec w = (.ok (host.seed w.seeds), { w with seeds := w.seeds + 1 }) := rfl

theorem exec_newToken (host : Host) (w : World σ) :
    (newToken host).exec w = (.ok (host.token w.tokens), { w with tokens := w.tokens + 1 }) := rfl

theorem exec_crypto (outcome : Except Crypto.Fault α) (w : World σ) :
    (crypto outcome).exec w = (outcome.mapError fun f => .fault (.crypto f), w) := by
  cases outcome <;> rfl

theorem exec_read (p : Path) (w : World σ) :
    (read p).exec w = ((w.tree.read p).mapError fun f => .fault (.file f), w) := by
  unfold read
  rw [exec_bind, exec_get]
  dsimp only
  cases w.tree.read p <;> rfl

theorem exec_change (f : Tree → Except FileFault Tree) (w : World σ) :
    (change f).exec w =
      match f w.tree with
      | .ok t => (.ok (), { w with tree := t })
      | .error fault => (.error (.fault (.file fault)), w) := by
  unfold change
  rw [exec_bind, exec_get]
  dsimp only
  cases f w.tree <;> rfl

theorem exec_makeDirectories (p : Path) (w : World σ) :
    (makeDirectories p).exec w =
      ((w.tree.makeDirectories p).2.mapError fun f => .fault (.file f),
        { w with tree := (w.tree.makeDirectories p).1 }) := by
  unfold makeDirectories
  rw [exec_bind, exec_get]
  dsimp only
  rcases w.tree.makeDirectories p with ⟨t, _ | _⟩ <;> rfl

theorem exec_clear (p : Path) (w : World σ) :
    (clear p).exec w =
      match w.tree.removeStale p with
      | .ok (t, removed) => (.ok removed, { w with tree := t })
      | .error fault => (.error (.fault (.file fault)), w) := by
  unfold clear
  rw [exec_bind, exec_get]
  dsimp only
  rcases w.tree.removeStale p with _ | ⟨t, removed⟩ <;> rfl

/-! ## Runs that returned -/

@[simp] theorem pure_ok {a b : α} :
    (pure a : Stage σ α).exec w = (.ok b, w') ↔ b = a ∧ w' = w := by
  rw [exec_pure, Prod.mk.injEq, Except.ok.injEq, @eq_comm _ a, @eq_comm _ w]

@[simp] theorem throw_ok {e : Failure} {a : α} :
    (throw e : Stage σ α).exec w = (.ok a, w') ↔ False := by
  simp [exec_throw]

@[simp] theorem fail_ok {e : PipelineError} {a : α} :
    (fail e : Stage σ α).exec w = (.ok a, w') ↔ False := throw_ok

@[simp] theorem log_ok {level : Level} {message : String} {fields : List (String × Json)} {u : Unit} :
    (log level message fields).exec w = (.ok u, w') ↔
      w' = { w with log := w.log.add ⟨level, message, fields⟩ } := by
  simp [exec_log, @eq_comm _ w']

@[simp] theorem count_ok {e : Event} {u : Unit} :
    (count e).exec w = (.ok u, w') ↔ w' = { w with events := w.events ++ [e] } := by
  simp [exec_count, @eq_comm _ w']

@[simp] theorem tree_ok {t : Tree} : tree.exec w = (.ok t, w') ↔ t = w.tree ∧ w' = w := by
  simp [exec_tree, @eq_comm _ t, @eq_comm _ w']

@[simp] theorem newSeed_ok {host : Host} {seed : Bytes} :
    (newSeed host).exec w = (.ok seed, w') ↔
      seed = host.seed w.seeds ∧ w' = { w with seeds := w.seeds + 1 } := by
  simp [exec_newSeed, @eq_comm _ seed, @eq_comm _ w']

@[simp] theorem newToken_ok {host : Host} {token : String} :
    (newToken host).exec w = (.ok token, w') ↔
      token = host.token w.tokens ∧ w' = { w with tokens := w.tokens + 1 } := by
  simp [exec_newToken, @eq_comm _ token, @eq_comm _ w']

@[simp] theorem crypto_ok {outcome : Except Crypto.Fault α} {a : α} :
    (crypto outcome).exec w = (.ok a, w') ↔ outcome = .ok a ∧ w' = w := by
  cases outcome <;> simp [exec_crypto, Except.mapError, @eq_comm _ w']

@[simp] theorem read_ok {p : Path} {bytes : Bytes} :
    (read p).exec w = (.ok bytes, w') ↔ w.tree.read p = .ok bytes ∧ w' = w := by
  cases h : w.tree.read p <;> simp [exec_read, h, Except.mapError, @eq_comm _ w']

@[simp] theorem change_ok {f : Tree → Except FileFault Tree} {u : Unit} :
    (change f).exec w = (.ok u, w') ↔ ∃ t, f w.tree = .ok t ∧ w' = { w with tree := t } := by
  cases h : f w.tree <;> simp [exec_change, h, @eq_comm _ w']

@[simp] theorem write_ok {p : Path} {bytes : Bytes} {u : Unit} :
    (write p bytes).exec w = (.ok u, w') ↔
      ∃ t, w.tree.write p bytes = .ok t ∧ w' = { w with tree := t } :=
  change_ok

@[simp] theorem makeDirectories_ok {p : Path} {u : Unit} :
    (makeDirectories p).exec w = (.ok u, w') ↔ (w.tree.makeDirectories p).2 = .ok () ∧
      w' = { w with tree := (w.tree.makeDirectories p).1 } := by
  cases h : (w.tree.makeDirectories p).2 <;>
    simp [exec_makeDirectories, h, Except.mapError, @eq_comm _ w']

@[simp] theorem clear_ok {p : Path} {removed : List Path} :
    (clear p).exec w = (.ok removed, w') ↔
      ∃ t, w.tree.removeStale p = .ok (t, removed) ∧ w' = { w with tree := t } := by
  rcases h : w.tree.removeStale p with fault | ⟨t, more⟩
  · simp [exec_clear, h]
  · simp only [exec_clear, h, Prod.mk.injEq, Except.ok.injEq]
    constructor
    · rintro ⟨rfl, rfl⟩
      exact ⟨t, ⟨rfl, rfl⟩, rfl⟩
    · rintro ⟨_, ⟨rfl, rfl⟩, rfl⟩
      exact ⟨rfl, rfl⟩

theorem mapError_eq_ok {ε ε' : Type} {f : ε → ε'} {outcome : Except ε α} {a : α} :
    outcome.mapError f = .ok a ↔ outcome = .ok a := by
  cases outcome <;> simp [Except.mapError]

theorem eq_error_of_toBool {ε : Type} {outcome : Except ε α} (h : outcome.toBool = false) :
    ∃ e, outcome = .error e := by
  cases outcome with
  | error e => exact ⟨e, rfl⟩
  | ok a => cases h

theorem exists_of_isOk (act : Stage σ α) (w : World σ) (h : (act.exec w).1.isOk = true) :
    ∃ a w', act.exec w = (.ok a, w') := by
  rcases he : act.exec w with ⟨e | a, w'⟩
  · rw [he] at h
    cases h
  · exact ⟨a, w', rfl⟩

theorem tryCatch_ok {act : Stage σ α} {handler : Failure → Stage σ α} {a : α}
    (hh : ∀ e w w' a, (handler e).exec w ≠ (.ok a, w')) :
    (tryCatch act handler).exec w = (.ok a, w') ↔ act.exec w = (.ok a, w') := by
  rw [exec_tryCatch]
  rcases act.exec w with ⟨e | b, w₁⟩
  · simp [hh]
  · exact Iff.rfl

/-- A fault that is told otherwise is still a failure. -/
theorem catchFault_ok {act : Stage σ α} {onFault : Fault → Stage σ α} {a : α}
    (hf : ∀ f w w' a, (onFault f).exec w ≠ (.ok a, w')) :
    (catchFault act onFault).exec w = (.ok a, w') ↔ act.exec w = (.ok a, w') := by
  refine tryCatch_ok fun e w w' a => ?_
  cases e with
  | fault f => exact hf f w w' a
  | pipeline e => exact fun h => throw_ok.mp h

theorem andFinally_ok {act : Stage σ α} {last : Stage σ Unit} {a : α}
    (h : (andFinally act last).exec w = (.ok a, w')) :
    ∃ w₁, act.exec w = (.ok a, w₁) ∧ last.exec w₁ = (.ok (), w') := by
  unfold andFinally at h
  obtain ⟨b, w₁, hact, h⟩ := bind_ok.mp h
  rw [tryCatch_ok fun e w w' a hm => by simp at hm] at hact
  simp only [bind_ok, pure_ok] at h
  obtain ⟨_, _, hlast, rfl, rfl⟩ := h
  exact ⟨w₁, hact, hlast⟩

/-! ## Runs that failed -/

/-- A run failed in its first part or, after that returned, in its second. -/
theorem bind_error {act : Stage σ α} {f : α → Stage σ β} {e : Failure} :
    (act >>= f).exec w = (.error e, w') ↔ act.exec w = (.error e, w') ∨
      ∃ a w₁, act.exec w = (.ok a, w₁) ∧ (f a).exec w₁ = (.error e, w') := by
  rw [exec_bind]
  rcases act.exec w with ⟨e' | a, w₁⟩ <;> simp

theorem pure_error {a : α} {e : Failure} : (pure a : Stage σ α).exec w = (.error e, w') ↔ False := by
  simp [exec_pure]

theorem log_error {level : Level} {message : String} {fields : List (String × Json)} {e : Failure} :
    (log level message fields).exec w = (.error e, w') ↔ False := by
  simp [exec_log]

theorem count_error {event : Event} {e : Failure} :
    (count event).exec w = (.error e, w') ↔ False := by
  simp [exec_count]

theorem newSeed_error {host : Host} {e : Failure} :
    (newSeed host).exec w = (.error e, w') ↔ False := by
  simp [exec_newSeed]

theorem fail_error {p : PipelineError} {e : Failure} :
    (fail p : Stage σ α).exec w = (.error e, w') ↔ e = .pipeline p ∧ w' = w := by
  show (Except.error (.pipeline p), w) = (Except.error e, w') ↔ _
  simp [@eq_comm _ e, @eq_comm _ w']

theorem crypto_error {outcome : Except Crypto.Fault α} {e : Failure} :
    (crypto outcome).exec w = (.error e, w') ↔
      ∃ f, outcome = .error f ∧ e = .fault (.crypto f) ∧ w' = w := by
  cases outcome <;> simp [exec_crypto, Except.mapError, @eq_comm _ e, @eq_comm _ w']

theorem change_error {f : Tree → Except FileFault Tree} {e : Failure} :
    (change f).exec w = (.error e, w') ↔
      ∃ fault, f w.tree = .error fault ∧ e = .fault (.file fault) ∧ w' = w := by
  cases h : f w.tree <;> simp [exec_change, h, @eq_comm _ e, @eq_comm _ w']

theorem read_error {p : Path} {e : Failure} :
    (read p).exec w = (.error e, w') ↔
      ∃ fault, w.tree.read p = .error fault ∧ e = .fault (.file fault) ∧ w' = w := by
  cases h : w.tree.read p <;> simp [exec_read, h, Except.mapError, @eq_comm _ e, @eq_comm _ w']

theorem write_error {p : Path} {bytes : Bytes} {e : Failure} :
    (write p bytes).exec w = (.error e, w') ↔
      ∃ fault, w.tree.write p bytes = .error fault ∧ e = .fault (.file fault) ∧ w' = w :=
  change_error

theorem makeDirectories_error {p : Path} {e : Failure} :
    (makeDirectories p).exec w = (.error e, w') ↔
      ∃ fault, (w.tree.makeDirectories p).2 = .error fault ∧ e = .fault (.file fault) ∧
        w' = { w with tree := (w.tree.makeDirectories p).1 } := by
  cases h : (w.tree.makeDirectories p).2 <;>
    simp [exec_makeDirectories, h, Except.mapError, @eq_comm _ e, @eq_comm _ w']

/-- Clearing never fails. -/
theorem clear_error {p : Path} {e : Failure} : (clear p).exec w = (.error e, w') ↔ False := by
  obtain ⟨t, removed, hr, -⟩ := Tree.removeStale_within w.tree p
  simp [exec_clear, hr]

/-- A run fails as it does after a plain fault, or with a pipeline failure that passes. -/
theorem catchFault_error {act : Stage σ α} {onFault : Fault → Stage σ α} {e : Failure} :
    (catchFault act onFault).exec w = (.error e, w') ↔
      (∃ f w₁, act.exec w = (.error (.fault f), w₁) ∧ (onFault f).exec w₁ = (.error e, w')) ∨
        ∃ p, e = .pipeline p ∧ act.exec w = (.error (.pipeline p), w') := by
  unfold catchFault
  rw [exec_tryCatch]
  rcases act.exec w with ⟨(f | p) | a, w₁⟩
  · simp
  · simp [exec_throw, @eq_comm _ e]
  · simp

/-! ## Runs that may have failed -/

/-- What holds after an early end of `act` and after every end of what follows it, holds at the end
of both. -/
theorem bind_outcome {P : World σ → Prop} {act : Stage σ α} {f : α → Stage σ β}
    (herror : ∀ e w₁, act.exec w = (.error e, w₁) → P w₁)
    (hok : ∀ a w₁, act.exec w = (.ok a, w₁) → P ((f a).exec w₁).2) : P ((act >>= f).exec w).2 := by
  rw [exec_bind]
  rcases h : act.exec w with ⟨e | a, w₁⟩
  · exact herror e w₁ h
  · exact hok a w₁ h

/-- What is done at last is done to the world that `act` leaves, however it ends. -/
theorem world_andFinally (act : Stage σ α) (last : Stage σ Unit) (w : World σ) :
    ((andFinally act last).exec w).2 = (last.exec (act.exec w).2).2 := by
  unfold andFinally
  rw [exec_bind, exec_tryCatch]
  rcases act.exec w with ⟨e | a, w₁⟩
  · dsimp only
    rw [exec_bind]
    rcases last.exec w₁ with ⟨e' | u, w₂⟩ <;> rfl
  · exact world_bind_pure last (fun _ => a) w₁

theorem mapM_outcome {P : World σ → Prop} {xs : List α} {f : α → Stage σ β}
    (hstep : ∀ x ∈ xs, ∀ w, P w → P ((f x).exec w).2) (w : World σ) (h : P w) :
    P ((xs.mapM f).exec w).2 := by
  induction xs generalizing w with
  | nil => exact h
  | cons x xs ih =>
    rw [List.mapM_cons]
    have hx := hstep x (List.mem_cons_self ..) w h
    refine bind_outcome (fun e w₁ he => by rwa [he] at hx) fun b w₁ hb => ?_
    rw [hb] at hx
    have hxs := ih (fun y hy => hstep y (List.mem_cons_of_mem _ hy)) w₁ hx
    exact bind_outcome (fun e w₂ he => by rwa [he] at hxs) fun bs w₂ hbs => by rwa [hbs] at hxs

/-- Where each step brings about what belongs to its element and to what it returns, and no step undoes
what belongs to another, a loop that returned has brought about all of it. -/
theorem mapM_forall₂ {I : World σ → Prop} {Q : α → β → World σ → Prop} {xs : List α} {f : α → Stage σ β}
    (hnodup : xs.Nodup) (hstep : ∀ x ∈ xs, ∀ w b w', (f x).exec w = (.ok b, w') → I w → I w' ∧ Q x b w')
    (hkeep : ∀ x ∈ xs, ∀ y ∈ xs, x ≠ y → ∀ c w b w', (f y).exec w = (.ok b, w') → I w → Q x c w → Q x c w')
    {w w' : World σ} {bs : List β} (h : (xs.mapM f).exec w = (.ok bs, w')) (hI : I w) :
    I w' ∧ List.Forall₂ (fun x b => Q x b w') xs bs := by
  -- what belongs to elements outside of the rest of the list is carried along
  suffices hs : ∀ ys, ys ⊆ xs → ys.Nodup → ∀ {w bs}, (ys.mapM f).exec w = (.ok bs, w') → I w →
      I w' ∧ List.Forall₂ (fun x b => Q x b w') ys bs ∧ ∀ x ∈ xs, x ∉ ys → ∀ c, Q x c w → Q x c w' by
    obtain ⟨hI', hall, -⟩ := hs xs (List.Subset.refl _) hnodup h hI
    exact ⟨hI', hall⟩
  intro ys
  induction ys with
  | nil =>
    intro _ _ w bs h hI
    obtain ⟨rfl, rfl⟩ := pure_ok.mp h
    exact ⟨hI, .nil, fun x _ _ c hq => hq⟩
  | cons y ys ih =>
    intro hsub hnd w bs h hI
    obtain ⟨hy, hnd⟩ := List.nodup_cons.mp hnd
    have hmem := hsub (List.mem_cons_self ..)
    rw [List.mapM_cons] at h
    simp only [bind_ok, pure_ok] at h
    obtain ⟨b, w₁, hfirst, bs', w₂, hrest, rfl, rfl⟩ := h
    obtain ⟨hI₁, hq⟩ := hstep y hmem w b w₁ hfirst hI
    obtain ⟨hI', hall, hother⟩ := ih (fun x hx => hsub (List.mem_cons_of_mem _ hx)) hnd hrest hI₁
    refine ⟨hI', .cons (hother y hmem hy b hq) hall, fun x hx hne c hqx => ?_⟩
    obtain ⟨hxy, hxs⟩ := not_or.mp (List.mem_cons.not.mp hne)
    exact hother x hx hxs c (hkeep x hx y hmem hxy c w b w₁ hfirst hI hqx)

/-! ## Frames -/

end Stage

/-- What a stage may do to a world: a preorder that does not depend on the log and on what was counted or
drawn. -/
structure Frame (σ : Type) where
  rel : World σ → World σ → Prop
  quiet : ∀ {w w'}, w'.tree = w.tree → w'.store = w.store → w'.toolRuns = w.toolRuns → rel w w'
  trans : ∀ {w w' w''}, rel w w' → rel w' w'' → rel w w''

/-- Nothing but changes of files, within what `rel` allows. -/
def Frame.ofTree {σ : Type} (rel : Tree → Tree → Prop) (refl : ∀ t, rel t t)
    (trans : ∀ {t t' t''}, rel t t' → rel t' t'' → rel t t'') : Frame σ where
  rel w w' := rel w.tree w'.tree ∧ w'.store = w.store
  quiet ht hs _ := ⟨ht ▸ refl _, hs⟩
  trans h h' := ⟨trans h.1 h'.1, h'.2.trans h.2⟩

/-- Changes of files at `files` and new directories at `dirs`. -/
def Frame.within {σ : Type} (files dirs : Set Location) : Frame σ :=
  .ofTree (Tree.Within files dirs) (.refl files dirs) .trans

/-- Changes of files at `files`, as long as `d` is a directory. -/
def Frame.inside {σ : Type} (d : Path) (files : Set Location) : Frame σ :=
  .ofTree (fun t t' => t.isDirectory d = true → Tree.Within files ∅ t t') (fun _ _ => .refl _ _ _)
    fun h h' hd => (h hd).trans (h' ((h hd).isDirectory hd))

/-- Nothing at all. -/
def Frame.still {σ : Type} : Frame σ where
  rel w w' := w'.tree = w.tree ∧ w'.store = w.store ∧ w'.toolRuns = w.toolRuns
  quiet ht hs hr := ⟨ht, hs, hr⟩
  trans h h' := ⟨h'.1.trans h.1, h'.2.1.trans h.2.1, h'.2.2.trans h.2.2⟩

namespace Stage

open ServiceTrust.Tree

/-- However `act` ends, it does to its world no more than `F` allows. -/
def Obeys (F : Frame σ) (act : Stage σ α) : Prop := ∀ w, F.rel w (act.exec w).2

namespace Obeys

variable {σ α β : Type} {F G : Frame σ}

theorem ran {act : Stage σ α} (h : Obeys F act) {w w' : World σ} {r : Except Failure α}
    (hr : act.exec w = (r, w')) : F.rel w w' := by
  have hw := h w
  rwa [hr] at hw

theorem pure (a : α) : Obeys F (Pure.pure a : Stage σ α) := fun _ => F.quiet rfl rfl rfl

theorem bind {act : Stage σ α} {f : α → Stage σ β} (h : Obeys F act) (hf : ∀ a, Obeys F (f a)) :
    Obeys F (act >>= f) := fun w => by
  have hact := h w
  refine bind_outcome (P := F.rel w) (fun e w₁ he => ?_) fun a w₁ ha => ?_
  · rwa [he] at hact
  · rw [ha] at hact
    exact F.trans hact (hf a w₁)

/-- The rest of a run needs to obey only after what the first part returns. -/
theorem bind_of_ok {act : Stage σ α} {f : α → Stage σ β} (h : Obeys F act)
    (hf : ∀ w a w', act.exec w = (.ok a, w') → Obeys F (f a)) : Obeys F (act >>= f) := fun w => by
  refine bind_outcome (P := F.rel w) (fun e w₁ he => h.ran he) fun a w₁ ha => ?_
  exact F.trans (h.ran ha) (hf w a w₁ ha w₁)

theorem tryCatch {act : Stage σ α} {handler : Failure → Stage σ α} (h : Obeys F act)
    (hh : ∀ e, Obeys F (handler e)) : Obeys F (tryCatch act handler) := fun w => by
  have hact := h w
  rw [exec_tryCatch]
  rcases he : act.exec w with ⟨e | a, w₁⟩
  · rw [he] at hact
    exact F.trans hact (hh e w₁)
  · rwa [he] at hact

theorem throw (e : Failure) : Obeys F (throw e : Stage σ α) := fun _ => F.quiet rfl rfl rfl

theorem fail (e : PipelineError) : Obeys F (fail e : Stage σ α) := throw _

theorem log (level : Level) (message : String) (fields : List (String × Json)) :
    Obeys F (log level message fields) := fun _ => F.quiet rfl rfl rfl

theorem count (e : Event) : Obeys F (count e) := fun _ => F.quiet rfl rfl rfl

theorem tree : Obeys F tree := fun _ => F.quiet rfl rfl rfl

theorem newSeed (host : Host) : Obeys F (newSeed host) := fun _ => F.quiet rfl rfl rfl

theorem newToken (host : Host) : Obeys F (newToken host) := fun _ => F.quiet rfl rfl rfl

theorem crypto (outcome : Except Crypto.Fault α) : Obeys F (crypto outcome) := fun w => by
  rw [exec_crypto]
  exact F.quiet rfl rfl rfl

theorem read (p : Path) : Obeys F (read p) := fun w => by
  rw [exec_read]
  exact F.quiet rfl rfl rfl

theorem ite {c : Prop} [Decidable c] {act other : Stage σ α} (h : c → Obeys F act)
    (h' : ¬c → Obeys F other) : Obeys F (if c then act else other) := by
  split
  next hc => exact h hc
  next hc => exact h' hc

theorem catchFault {act : Stage σ α} {onFault : Fault → Stage σ α} (h : Obeys F act)
    (hf : ∀ f, Obeys F (onFault f)) : Obeys F (catchFault act onFault) :=
  h.tryCatch fun e => by
    cases e with
    | fault f => exact hf f
    | pipeline e => exact throw _

theorem andFinally {act : Stage σ α} {last : Stage σ Unit} (h : Obeys F act) (hl : Obeys F last) :
    Obeys F (andFinally act last) :=
  (h.tryCatch fun e => hl.bind fun _ => throw e).bind fun a => hl.bind fun _ => pure a

theorem mapM {xs : List α} {f : α → Stage σ β} (h : ∀ x ∈ xs, Obeys F (f x)) :
    Obeys F (xs.mapM f) := by
  induction xs with
  | nil => exact pure _
  | cons x xs ih =>
    rw [List.mapM_cons]
    exact (h x (List.mem_cons_self ..)).bind fun _ =>
      (ih fun y hy => h y (List.mem_cons_of_mem _ hy)).bind fun _ => pure _

theorem forM {xs : List α} {f : α → Stage σ PUnit} (h : ∀ x ∈ xs, Obeys F (f x)) :
    Obeys F (xs.forM f) := by
  induction xs with
  | nil => exact pure _
  | cons x xs ih =>
    exact (h x (List.mem_cons_self ..)).bind fun _ => ih fun y hy => h y (List.mem_cons_of_mem _ hy)

theorem mono {act : Stage σ α} (h : Obeys F act) (hFG : ∀ {w w'}, F.rel w w' → G.rel w w') :
    Obeys G act := fun w => hFG (h w)

theorem of_still {act : Stage σ α} (h : Obeys Frame.still act) : Obeys F act := fun w =>
  F.quiet (h w).1 (h w).2.1 (h w).2.2

/-! ## Changes of files -/

theorem change {rel : Tree → Tree → Prop} {refl trans} {f : Tree → Except FileFault Tree}
    (h : ∀ t t', f t = .ok t' → rel t t') :
    Obeys (.ofTree rel refl trans) (change f : Stage σ Unit) := fun w => by
  rw [exec_change]
  cases hf : f w.tree with
  | error fault => exact Frame.quiet _ rfl rfl rfl
  | ok t => exact ⟨h _ _ hf, rfl⟩

theorem write {files dirs : Set Location} {p : Path} (h : p.place ∈ files) (bytes : Bytes) :
    Obeys (.within files dirs) (write p bytes : Stage σ Unit) :=
  change fun _ _ hw => (write_within hw).mono (Set.singleton_subset_iff.mpr h) (Set.empty_subset _)

theorem setMode {files dirs : Set Location} {p : Path} (h : p.place ∈ files) (mode : Nat) :
    Obeys (.within files dirs) (Stage.change (·.setMode p mode) : Stage σ Unit) :=
  change fun _ _ hm => (setMode_within hm).mono (Set.singleton_subset_iff.mpr h) (Set.empty_subset _)

theorem unlinkIfPresent {files dirs : Set Location} {p : Path} (h : p.place ∈ files) :
    Obeys (.within files dirs) (Stage.change (·.unlinkIfPresent p) : Stage σ Unit) :=
  change fun _ _ hu =>
    (unlinkIfPresent_within hu).mono (Set.singleton_subset_iff.mpr h) (Set.empty_subset _)

theorem makeDirectories {files dirs : Set Location} {p : Path} (h : p.above ⊆ dirs) :
    Obeys (.within files dirs) (makeDirectories p : Stage σ Unit) := fun w => by
  rw [exec_makeDirectories]
  exact ⟨(makeDirectories_within w.tree p).mono (Set.empty_subset _) h, rfl⟩

theorem clear {files dirs : Set Location} {p : Path} (h : stalePlaces p.place ⊆ files) :
    Obeys (.within files dirs) (clear p : Stage σ (List Path)) := fun w => by
  obtain ⟨t, removed, hr, hw⟩ := removeStale_within w.tree p
  rw [exec_clear, hr]
  exact ⟨hw.mono h (Set.empty_subset _), rfl⟩

/-! ## Inside a directory -/

theorem inside {files : Set Location} {d : Path} {act : Stage σ α} (h : Obeys (.within files ∅) act) :
    Obeys (.inside d files) act := h.mono fun hw => ⟨fun _ => hw.1, hw.2⟩

end Obeys

end Stage

end ServiceTrust
