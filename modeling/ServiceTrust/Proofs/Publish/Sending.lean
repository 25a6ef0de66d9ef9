/-
The course of a run that writes secrets to a watched cluster of which any request may fail. The run has a
list of publications to write, in order (`Sends`). Whenever it is looked at it is at a `Cut` of that list:
the publications before it are written, those after it are not, and of the one that is being written the
secret is what it was or, if secrets are made anew, gone.
-/
import ServiceTrust.Proofs.Publish.DryRun
import ServiceTrust.Proofs.Publish.Moments

namespace ServiceTrust

open Stage Publish

/-! ## Publications -/

/-- A secret of files or of texts that is to be written. -/
inductive Publication where
  | files (f : Publisher.FileSecret)
  | texts (name space : String) (values : List (String × String))

/-- The secrets of a cluster, by namespace and name. -/
abbrev Secrets := String × String → Option Manifest

namespace Publication

def key : Publication → String × String
  | files f => (f.space, f.name)
  | texts name space _ => (space, name)

def record (t : Tree) : Publication → SecretRecord
  | files f => fileRecord t f
  | texts name space values => literalRecord name space values

def HasFiles (t : Tree) : Publication → Prop
  | files f => Publish.HasFiles t f.entries
  | texts _ _ _ => True

theorem record_key (t : Tree) (p : Publication) : ((p.record t).space, (p.record t).name) = p.key := by
  cases p <;> rfl

/-- The secrets after a publication was written. -/
def write (t : Tree) (f : Secrets) (p : Publication) : Secrets :=
  Function.update f p.key (some (.ofRecord (p.record t)))

theorem secrets_set (v : ClusterView) (t : Tree) (p : Publication) :
    (v.set ((p.record t).space, (p.record t).name) (some (.ofRecord (p.record t)))).secrets =
      write t v.secrets p := by
  rw [record_key]
  rfl

def writeAll (t : Tree) (f : Secrets) (ps : List Publication) : Secrets := ps.foldl (write t) f

variable {t : Tree} {f : Secrets} {ps qs : List Publication} {key : String × String}

theorem writeAll_append : writeAll t f (ps ++ qs) = writeAll t (writeAll t f ps) qs := List.foldl_append ..

theorem writeAll_of_not (h : ∀ p ∈ ps, p.key ≠ key) : writeAll t f ps key = f key := by
  induction ps generalizing f with
  | nil => rfl
  | cons p ps ih =>
    have hp := h p (List.mem_cons_self ..)
    rw [show writeAll t f (p :: ps) = writeAll t (write t f p) ps from rfl,
      ih fun q hq => h q (List.mem_cons_of_mem _ hq)]
    exact Function.update_of_ne hp.symm _ _

/-- Of publications that do not contradict each other each one is there after all were written. -/
theorem writeAll_of_mem (hc : ∀ p ∈ ps, ∀ q ∈ ps, p.key = q.key → p.record t = q.record t) {p : Publication}
    (hp : p ∈ ps) : writeAll t f ps p.key = some (.ofRecord (p.record t)) := by
  induction ps generalizing f p with
  | nil => cases hp
  | cons q ps ih =>
    have hrest : ∀ p ∈ ps, ∀ q ∈ ps, p.key = q.key → p.record t = q.record t := by
      intro a ha b hb
      exact hc a (List.mem_cons_of_mem _ ha) b (List.mem_cons_of_mem _ hb)
    by_cases hlater : ∃ p' ∈ ps, p'.key = p.key
    · -- written once more: the later one says the same
      obtain ⟨p', hp', hkey⟩ := hlater
      rw [← hkey, ← hc p' (List.mem_cons_of_mem _ hp') p hp hkey]
      exact ih hrest hp'
    · have hlast : ∀ p' ∈ ps, p'.key ≠ p.key := fun p' hp' hkey => hlater ⟨p', hp', hkey⟩
      obtain rfl : p = q := (List.mem_cons.mp hp).resolve_right fun hm => hlast p hm rfl
      rw [show writeAll t f (p :: ps) = writeAll t (write t f p) ps from rfl, writeAll_of_not hlast]
      exact Function.update_self ..

/-- What is there is not lost by writing. -/
theorem isSome_writeAll (h : (f key).isSome = true) : (writeAll t f ps key).isSome = true := by
  induction ps generalizing f with
  | nil => exact h
  | cons p ps ih =>
    refine ih ?_
    rw [write, Function.update_apply]
    split
    · rfl
    · exact h

end Publication

open Publication

/-- The secret that a request is about. -/
def StoreRequest.secret? : StoreRequest → Option (String × String)
  | delete space name => some (space, name)
  | create space name => some (space, name)
  | replace space name => some (space, name)
  | readSpace _ => none
  | createSpace _ => none

/-- The secret that was not written. -/
def StoreFault.secret? : StoreFault → Option (String × String)
  | rejected request _ => request.secret?
  | unreachable request _ => request.secret?
  | alreadyExists space name => some (space, name)

theorem ClusterApi.secret?_refusal (request : StoreRequest) (fault : ApiFault) :
    (refusal request fault).secret? = request.secret? := by
  cases fault <;> rfl

/-- The refusal of a request about the secret of a publication. -/
theorem Publication.secret?_refusal_of {t : Tree} {p : Publication} {request : StoreRequest} {fault : ApiFault}
    (hrequest : request.secret? = some ((p.record t).space, (p.record t).name)) :
    (ClusterApi.refusal request fault).secret? = some p.key := by
  rw [ClusterApi.secret?_refusal, hrequest, record_key]

/-! ## Cuts -/

/-- From the secrets `f` the publications `done`, the first ones of `ps`, were written, which gave the secrets
`g` but for the next one if that is the `subject` of a request. -/
inductive Cut (strategy : ReplaceStrategy) (t : Tree) (f : Secrets) (ps : List Publication) :
    Option (String × String) → List Publication → Secrets → Prop where
  | between {done rest : List Publication} (split : ps = done ++ rest) (files : ∀ p ∈ done, p.HasFiles t) :
    Cut strategy t f ps none done (writeAll t f done)
  | unwritten {done rest : List Publication} {p : Publication} (split : ps = done ++ p :: rest)
    (files : ∀ p ∈ done, p.HasFiles t) : Cut strategy t f ps (some p.key) done (writeAll t f done)
  | gone {done rest : List Publication} {p : Publication} (anew : strategy = .recreate)
    (split : ps = done ++ p :: rest) (files : ∀ p ∈ done, p.HasFiles t) :
    Cut strategy t f ps (some p.key) done (Function.update (writeAll t f done) p.key none)

namespace Cut

variable {strategy : ReplaceStrategy} {t : Tree} {f g : Secrets} {ps qs done : List Publication}
  {subject : Option (String × String)} {key : String × String}

theorem append_right (h : Cut strategy t f ps subject done g) (qs : List Publication) :
    Cut strategy t f (ps ++ qs) subject done g := by
  cases h with
  | between split files => exact .between (by rw [split, List.append_assoc]) files
  | unwritten split files => exact .unwritten (by rw [split, List.append_assoc]; rfl) files
  | gone anew split files => exact .gone anew (by rw [split, List.append_assoc]; rfl) files

/-- A cut of later publications, after all earlier ones were written. -/
theorem append_left (hps : ∀ p ∈ ps, p.HasFiles t) (h : Cut strategy t (writeAll t f ps) qs subject done g) :
    Cut strategy t f (ps ++ qs) subject (ps ++ done) g := by
  have hall : (∀ p ∈ done, p.HasFiles t) → ∀ p ∈ ps ++ done, p.HasFiles t := by
    intro hdone p hp
    exact (List.mem_append.mp hp).elim (hps p) (hdone p)
  cases h with
  | between split files =>
    rw [← writeAll_append]
    exact .between (by rw [split, List.append_assoc]) (hall files)
  | unwritten split files =>
    rw [← writeAll_append]
    exact .unwritten (by rw [split, List.append_assoc]) (hall files)
  | gone anew split files =>
    rw [← writeAll_append]
    exact .gone anew (by rw [split, List.append_assoc]) (hall files)

theorem split (h : Cut strategy t f ps subject done g) :
    ∃ rest, ps = done ++ rest ∧ ∀ key, subject = some key → ∃ p ∈ rest.head?, p.key = key := by
  cases h with
  | between split => exact ⟨_, split, nofun⟩
  | unwritten split => exact ⟨_, split, fun key hkey => ⟨_, rfl, Option.some.inj hkey⟩⟩
  | gone _ split => exact ⟨_, split, fun key hkey => ⟨_, rfl, Option.some.inj hkey⟩⟩

theorem files (h : Cut strategy t f ps subject done g) : ∀ p ∈ done, p.HasFiles t := by
  cases h <;> assumption

theorem elsewhere (h : Cut strategy t f ps subject done g) (hkey : subject ≠ some key) :
    g key = writeAll t f done key := by
  cases h with
  | between => rfl
  | unwritten => rfl
  | gone => exact Function.update_of_ne (fun he => hkey (congrArg some he.symm)) _ _

theorem at_subject (h : Cut strategy t f ps (some key) done g) :
    g key = writeAll t f done key ∨ strategy = .recreate ∧ g key = none := by
  cases h with
  | unwritten => exact .inl rfl
  | gone anew => exact .inr ⟨anew, Function.update_self ..⟩

/-- Where secrets are replaced none of them is lost. -/
theorem isSome (h : Cut .replace t f ps subject done g) (hkey : (f key).isSome = true) :
    (g key).isSome = true := by
  cases h with
  | between => exact isSome_writeAll hkey
  | unwritten => exact isSome_writeAll hkey
  | gone anew => cases anew

end Cut

/-! ## Sending -/

variable {σ α β : Type} {view : σ → ClusterView} {strategy : ReplaceStrategy} {t : Tree}
  {ps qs : List Publication} {w w₁ w₂ : World (σ × List σ)} {outcome : Except Failure α} {ms ms' : List σ}

/-- A run from `w` to `w₂` through the states `ms`, which writes `ps` unless it fails. -/
structure Sending (view : σ → ClusterView) (strategy : ReplaceStrategy) (t : Tree) (ps : List Publication)
    (w : World (σ × List σ)) (outcome : Except Failure α) (w₂ : World (σ × List σ)) (ms : List σ) : Prop where
  tree : w₂.tree = t
  moments : w₂.store.2 = w.store.2 ++ ms
  state : w₂.store.1 ∈ w.store.1 :: ms
  cuts : ∀ m ∈ ms, ∃ subject done, Cut strategy t (view w.store.1).secrets ps subject done (view m).secrets
  returned : ∀ a, outcome = .ok a → (∀ p ∈ ps, p.HasFiles t) ∧
    (view w₂.store.1).secrets = writeAll t (view w.store.1).secrets ps
  /-- The state before the write that failed was one of those that the run went through. -/
  failed : ∀ fault hint, outcome = .error (.pipeline (.store fault hint)) →
    ∃ done, Cut strategy t (view w.store.1).secrets ps fault.secret? done (view w₂.store.1).secrets ∧
      ∃ m ∈ w.store.1 :: ms, (view m).secrets = writeAll t (view w.store.1).secrets done

namespace Sending

/-- A run that writes nothing, and fails for no secret. -/
theorem still (htree : w₂.tree = t) (hmoments : w₂.store.2 = w.store.2 ++ ms)
    (hstate : w₂.store.1 ∈ w.store.1 :: ms) (hsame : ∀ m ∈ ms, (view m).secrets = (view w.store.1).secrets)
    (hfault : ∀ fault hint, outcome = .error (.pipeline (.store fault hint)) → fault.secret? = none) :
    Sending view strategy t [] w outcome w₂ ms := by
  have hfinal : (view w₂.store.1).secrets = (view w.store.1).secrets := by
    rcases List.mem_cons.mp hstate with he | hm
    · rw [he]
    · exact hsame _ hm
  have hcut {g : Secrets} (hg : g = (view w.store.1).secrets) :
      Cut strategy t (view w.store.1).secrets [] none [] g := hg ▸ .between rfl nofun
  refine ⟨htree, hmoments, hstate, fun m hm => ⟨none, [], hcut (hsame m hm)⟩, fun _ _ => ⟨nofun, hfinal⟩, ?_⟩
  intro fault hint he
  rw [hfault fault hint he]
  exact ⟨[], hcut hfinal, w.store.1, List.mem_cons_self .., rfl⟩

/-- One run after another that returned. -/
theorem trans {a : β} (h : Sending view strategy t ps w (.ok a : Except Failure β) w₁ ms)
    (h' : Sending view strategy t qs w₁ outcome w₂ ms') :
    Sending view strategy t (ps ++ qs) w outcome w₂ (ms ++ ms') := by
  obtain ⟨hfiles, hwritten⟩ := h.returned a rfl
  have hlift {m : σ} (hm : m ∈ w₁.store.1 :: ms') : m ∈ w.store.1 :: (ms ++ ms') := by
    rcases List.mem_cons.mp hm with rfl | hm
    · rw [← List.cons_append]
      exact List.mem_append_left _ h.state
    · exact List.mem_cons_of_mem _ (List.mem_append_right _ hm)
  refine ⟨h'.tree, ?_, hlift h'.state, ?_, ?_, ?_⟩
  · rw [h'.moments, h.moments, List.append_assoc]
  · intro m hm
    rcases List.mem_append.mp hm with hm | hm
    · obtain ⟨subject, done, hcut⟩ := h.cuts m hm
      exact ⟨subject, done, hcut.append_right qs⟩
    -- the later run started where all of `ps` was written
    · obtain ⟨subject, done, hcut⟩ := h'.cuts m hm
      exact ⟨subject, ps ++ done, .append_left hfiles (hwritten ▸ hcut)⟩
  · intro b hb
    obtain ⟨hfiles', hwritten'⟩ := h'.returned b hb
    refine ⟨fun p hp => (List.mem_append.mp hp).elim (hfiles p) (hfiles' p), ?_⟩
    rw [hwritten', hwritten, writeAll_append]
  · intro fault hint he
    obtain ⟨done, hcut, m, hm, hbefore⟩ := h'.failed fault hint he
    refine ⟨ps ++ done, .append_left hfiles (hwritten ▸ hcut), m, hlift hm, ?_⟩
    rw [hbefore, hwritten, writeAll_append]

/-- What was left out of a run that failed does not matter. -/
theorem cut_short {e : Failure} (h : Sending view strategy t ps w (.error e : Except Failure α) w₁ ms)
    (qs : List Publication) : Sending view strategy t (ps ++ qs) w (.error e : Except Failure β) w₁ ms := by
  refine ⟨h.tree, h.moments, h.state, ?_, nofun, ?_⟩
  · intro m hm
    obtain ⟨subject, done, hcut⟩ := h.cuts m hm
    exact ⟨subject, done, hcut.append_right qs⟩
  · intro fault hint he
    obtain ⟨done, hcut, hbefore⟩ := h.failed fault hint (congrArg Except.error (Except.error.inj he))
    exact ⟨done, hcut.append_right qs, hbefore⟩

/-- A failure that is reported in other words, about the same request. -/
theorem reworded {e e' : Failure} (h : Sending view strategy t ps w (.error e : Except Failure α) w₁ ms)
    (htree : w₂.tree = w₁.tree) (hstore : w₂.store = w₁.store)
    (hfault : ∀ fault hint, e' = .pipeline (.store fault hint) → ∃ hint', e = .pipeline (.store fault hint')) :
    Sending view strategy t ps w (.error e' : Except Failure α) w₂ ms := by
  refine ⟨htree.trans h.tree, hstore ▸ h.moments, hstore ▸ h.state, h.cuts, nofun, ?_⟩
  intro fault hint he
  obtain ⟨hint', rfl⟩ := hfault fault hint (Except.error.inj he)
  rw [hstore]
  exact h.failed fault hint' rfl

end Sending

/-- The stage writes the publications `ps` to a watched cluster, in order, unless it fails. -/
def Sends (view : σ → ClusterView) (strategy : ReplaceStrategy) (t : Tree) (act : Stage (σ × List σ) α)
    (ps : List Publication) : Prop :=
  ∀ w, w.tree = t → ∃ ms, Sending view strategy t ps w (act.exec w).1 (act.exec w).2 ms

namespace Sends

variable {act : Stage (σ × List σ) α}

/-- A stage that makes no request, and fails for no secret. -/
theorem quiet (h : ∀ w : World (σ × List σ), w.tree = t → (act.exec w).2.tree = t ∧
      (act.exec w).2.store = w.store ∧
      ∀ fault hint, (act.exec w).1 ≠ .error (.pipeline (.store fault hint))) :
    Sends view strategy t act [] := by
  intro w hw
  obtain ⟨htree, hstore, hfault⟩ := h w hw
  refine ⟨[], .still htree ?_ ?_ nofun fun fault hint he => absurd he (hfault fault hint)⟩
  · rw [hstore, List.append_nil]
  · rw [hstore]
    exact List.mem_cons_self ..

theorem pure (a : α) : Sends view strategy t (Pure.pure a : Stage (σ × List σ) α) [] :=
  quiet fun _ hw => ⟨hw, rfl, nofun⟩

theorem log (level : Level) (message : String) (fields : List (String × Json)) :
    Sends view strategy t (Stage.log level message fields) [] := quiet fun _ hw => ⟨hw, rfl, nofun⟩

theorem count (e : Event) : Sends view strategy t (Stage.count e) [] := quiet fun _ hw => ⟨hw, rfl, nofun⟩

/-- What follows a stage that returned has its answer to go by. -/
theorem bind {f : α → Stage (σ × List σ) β} (h : Sends view strategy t act ps)
    (hf : ∀ w a w', w.tree = t → act.exec w = (.ok a, w') → Sends view strategy t (f a) qs) :
    Sends view strategy t (act >>= f) (ps ++ qs) := by
  intro w hw
  obtain ⟨ms, hsending⟩ := h w hw
  rw [exec_bind]
  rcases hact : act.exec w with ⟨e | a, w₁⟩
  · rw [hact] at hsending
    exact ⟨ms, hsending.cut_short qs⟩
  · rw [hact] at hsending
    obtain ⟨ms', hsending'⟩ := hf w a w₁ hw hact w₁ hsending.tree
    exact ⟨ms ++ ms', hsending.trans hsending'⟩

theorem andThen {act : Stage (σ × List σ) β} {f : β → Stage (σ × List σ) α}
    (h : Sends view strategy t act ps) (hf : ∀ a, Sends view strategy t (f a) []) :
    Sends view strategy t (act >>= f) ps :=
  List.append_nil ps ▸ h.bind fun _ a _ _ _ => hf a

/-- A first part that sends nothing. -/
theorem after {act : Stage (σ × List σ) β} {f : β → Stage (σ × List σ) α} (h : Sends view strategy t act [])
    (hf : ∀ w a w', w.tree = t → act.exec w = (.ok a, w') → Sends view strategy t (f a) ps) :
    Sends view strategy t (act >>= f) ps :=
  List.nil_append ps ▸ h.bind hf

theorem mapM {xs : List α} {f : α → Stage (σ × List σ) β} {ps : α → List Publication}
    (h : ∀ x ∈ xs, Sends view strategy t (f x) (ps x)) :
    Sends view strategy t (xs.mapM f) (xs.flatMap ps) := by
  induction xs with
  | nil => exact pure _
  | cons x xs ih =>
    rw [List.mapM_cons, List.flatMap_cons]
    refine (h x (List.mem_cons_self ..)).bind fun _ _ _ _ _ => ?_
    exact (ih fun y hy => h y (List.mem_cons_of_mem _ hy)).andThen fun _ => pure _

theorem mapM_one {xs : List α} {f : α → Stage (σ × List σ) β} {g : α → Publication}
    (h : ∀ x ∈ xs, Sends view strategy t (f x) [g x]) : Sends view strategy t (xs.mapM f) (xs.map g) :=
  List.map_eq_flatMap (f := g) ▸ mapM h

theorem forM {xs : List α} {f : α → Stage (σ × List σ) PUnit} (h : ∀ x ∈ xs, Sends view strategy t (f x) []) :
    Sends view strategy t (xs.forM f) [] := by
  induction xs with
  | nil => exact pure _
  | cons x xs ih =>
    exact (h x (List.mem_cons_self ..)).after fun _ _ _ _ _ => ih fun y hy => h y (List.mem_cons_of_mem _ hy)

/-- A failure that is noted and passed on, be it in other words. -/
theorem rethrow {handler : Failure → Stage (σ × List σ) α} (h : Sends view strategy t act ps)
    (hh : ∀ e w, ∃ e' w', (handler e).exec w = (.error e', w') ∧ w'.tree = w.tree ∧ w'.store = w.store ∧
      ∀ fault hint, e' = .pipeline (.store fault hint) → ∃ hint', e = .pipeline (.store fault hint')) :
    Sends view strategy t (tryCatch act handler) ps := by
  intro w hw
  obtain ⟨ms, hsending⟩ := h w hw
  rw [exec_tryCatch]
  rcases hact : act.exec w with ⟨e | a, w₁⟩
  · rw [hact] at hsending
    obtain ⟨e', w', hw', htree, hstore, hfault⟩ := hh e w₁
    refine ⟨ms, ?_⟩
    dsimp only
    rw [hw']
    exact hsending.reworded htree hstore hfault
  · rw [hact] at hsending
    exact ⟨ms, hsending⟩

theorem counted (h : Sends view strategy t act ps) : Sends view strategy t (Pipeline.counted act) ps := by
  refine h.rethrow fun e w => ?_
  cases e with
  | fault f => exact ⟨_, _, rfl, rfl, rfl, nofun⟩
  | pipeline p => exact ⟨_, _, rfl, rfl, rfl, fun fault hint he => ⟨hint, he⟩⟩

end Sends

/-! ## Requests that write one secret -/

namespace Cut

variable {f : Secrets} {p : Publication}

theorem unwritten_one (f : Secrets) (p : Publication) : Cut strategy t f [p] (some p.key) [] f :=
  .unwritten (show [p] = [] ++ p :: [] from rfl) nofun

theorem gone_one (f : Secrets) (p : Publication) :
    Cut .recreate t f [p] (some p.key) [] (Function.update f p.key none) :=
  .gone rfl (show [p] = [] ++ p :: [] from rfl) nofun

theorem written_one (f : Secrets) (hfiles : p.HasFiles t) : Cut strategy t f [p] none [p] (write t f p) :=
  .between (List.append_nil [p]).symm (by simpa using hfiles)

end Cut

namespace Sending

variable {p : Publication} {s s' : σ} {fault : StoreFault} {hint : Option String} {a : α}

/-- The request was turned down. -/
theorem refused (htree : w₂.tree = t) (hstore : w₂.store = (s, w.store.2 ++ [s]))
    (hview : (view s).secrets = (view w.store.1).secrets) (hfault : fault.secret? = some p.key) :
    Sending view strategy t [p] w (.error (.pipeline (.store fault hint)) : Except Failure α) w₂ [s] := by
  have hcut : Cut strategy t (view w.store.1).secrets [p] (some p.key) [] (view s).secrets :=
    hview ▸ .unwritten_one _ p
  refine ⟨htree, by rw [hstore], by simp [hstore], ?_, nofun, ?_⟩
  · intro m hm
    obtain rfl := List.mem_singleton.mp hm
    exact ⟨_, _, hcut⟩
  · intro fault' hint' he
    cases he
    rw [hstore, hfault]
    exact ⟨[], hcut, w.store.1, by simp, rfl⟩

/-- The request wrote the secret. -/
theorem written (htree : w₂.tree = t) (hstore : w₂.store = (s, w.store.2 ++ [s])) (hfiles : p.HasFiles t)
    (hview : (view s).secrets = write t (view w.store.1).secrets p) :
    Sending view strategy t [p] w (.ok a : Except Failure α) w₂ [s] := by
  refine ⟨htree, by rw [hstore], by simp [hstore], ?_, ?_, nofun⟩
  · intro m hm
    obtain rfl := List.mem_singleton.mp hm
    exact ⟨none, [p], hview ▸ .written_one _ hfiles⟩
  · intro _ _
    rw [hstore]
    exact ⟨by simpa using hfiles, hview⟩

/-- The secret was removed, and the request to make it anew was turned down. -/
theorem removed (htree : w₂.tree = t) (hstore : w₂.store = (s', w.store.2 ++ [s, s']))
    (hgone : (view s).secrets = Function.update (view w.store.1).secrets p.key none)
    (hview : (view s').secrets = (view s).secrets) (hfault : fault.secret? = some p.key) :
    Sending view .recreate t [p] w (.error (.pipeline (.store fault hint)) : Except Failure α) w₂ [s, s'] := by
  have hcut : Cut .recreate t (view w.store.1).secrets [p] (some p.key) [] (view s).secrets :=
    hgone ▸ .gone_one _ p
  refine ⟨htree, by rw [hstore], by simp [hstore], ?_, nofun, ?_⟩
  · intro m hm
    rcases List.mem_pair.mp hm with rfl | rfl
    · exact ⟨_, _, hcut⟩
    · exact ⟨_, _, hview ▸ hcut⟩
  · intro fault' hint' he
    cases he
    rw [hstore, hfault]
    exact ⟨[], hview ▸ hcut, w.store.1, by simp, rfl⟩

/-- The secret was removed and made anew. -/
theorem remade (htree : w₂.tree = t) (hstore : w₂.store = (s', w.store.2 ++ [s, s'])) (hfiles : p.HasFiles t)
    (hgone : (view s).secrets = Function.update (view w.store.1).secrets p.key none)
    (hview : (view s').secrets = write t (view w.store.1).secrets p) :
    Sending view .recreate t [p] w (.ok a : Except Failure α) w₂ [s, s'] := by
  refine ⟨htree, by rw [hstore], by simp [hstore], ?_, ?_, nofun⟩
  · intro m hm
    rcases List.mem_pair.mp hm with rfl | rfl
    · exact ⟨some p.key, [], hgone ▸ .gone_one _ p⟩
    · exact ⟨none, [p], hview ▸ .written_one _ hfiles⟩
  · intro _ _
    rw [hstore]
    exact ⟨by simpa using hfiles, hview⟩

/-- The request changed no secret. -/
theorem unchanged (htree : w₂.tree = t) (hstore : w₂.store = (s, w.store.2 ++ [s]))
    (hview : (view s).secrets = (view w.store.1).secrets) :
    Sending view strategy t [] w (.ok a : Except Failure α) w₂ [s] :=
  .still htree (by rw [hstore]) (by simp [hstore]) (by simpa using hview) nofun

end Sending

namespace Sends

variable {api : ClusterApi σ} (h : api.Atomic view) {p : Publication} (hp : p.HasFiles t)
include h

theorem ensureSpace (space : String) : Sends view strategy t (api.watched.ensureSpace space) [] := by
  intro w hw
  rcases (h.readSpace space).watch w.store with ⟨s, hs, hview⟩ | ⟨fault, s, hs, hview⟩
  · rw [ClusterApi.exec_ensureSpace_there hs]
    exact ⟨[s], .unchanged hw rfl (congrArg ClusterView.secrets hview)⟩
  · cases hfault : ClusterApi.hasStatus notFound fault with
    | false =>
      rw [ClusterApi.exec_ensureSpace_unread hs hfault]
      refine ⟨[s], .still hw rfl (by simp) (by simp [hview]) fun fault' hint' he => ?_⟩
      cases he
      exact ClusterApi.secret?_refusal ..
    | true =>
      have hsame (s' : σ) (hs' : view s' = view s ∨ view s' = (view s).addSpace space) :
          ∀ m ∈ [s, s'], (view m).secrets = (view w.store.1).secrets := by
        intro m hm
        rcases List.mem_pair.mp hm with rfl | rfl
        · rw [hview]
        · rcases hs' with hs' | hs'
          · rw [hs', hview]
          · rw [hs', hview]
            rfl
      rcases (h.createSpace space).watch (s, w.store.2 ++ [s]) with ⟨s', hs', hview'⟩ | ⟨fault', s', hs', hview'⟩
      · obtain ⟨log, hexec⟩ := ClusterApi.exec_ensureSpace_made
          (show api.watched.readSpace space w.store = _ from hs) hfault hs'
        rw [hexec]
        exact ⟨[s, s'], .still hw (by simp) (by simp) (hsame s' (.inr hview')) nofun⟩
      · rw [ClusterApi.exec_ensureSpace_failed hs hfault hs']
        refine ⟨[s, s'], .still hw (by simp) (by simp) (hsame s' (.inl hview')) fun fault' hint' he => ?_⟩
        dsimp only at he
        split at he
        · cases he
        · cases he
          exact ClusterApi.secret?_refusal ..

include hp

theorem create : Sends view strategy t (api.watched.create (p.record t)) [p] := by
  intro w hw
  rcases (h.createSecret (p.record t).space (.ofRecord (p.record t))).watch w.store with
    ⟨s, hs, hview⟩ | ⟨fault, s, hs, hview⟩
  · rw [ClusterApi.exec_create_done hs]
    exact ⟨[s], .written hw rfl hp (hview ▸ secrets_set ..)⟩
  · rw [ClusterApi.exec_create_failed hs]
    exact ⟨[s], .refused hw rfl (congrArg ClusterView.secrets hview) (secret?_refusal_of rfl)⟩

/-- The secret is created after a request that found none. -/
theorem create_after {w : World (σ × List σ)} (hw : w.tree = t) {s : σ} (hview : view s = view w.store.1) :
    ∃ ms, Sending view strategy t [p] w
      ((api.watched.create (p.record t)).exec { w with store := (s, w.store.2 ++ [s]) }).1
      ((api.watched.create (p.record t)).exec { w with store := (s, w.store.2 ++ [s]) }).2 ms := by
  obtain ⟨ms, hsending⟩ := create h hp { w with store := (s, w.store.2 ++ [s]) } hw
  have hfound : Sending view strategy t [] w (.ok () : Except Failure Unit)
      { w with store := (s, w.store.2 ++ [s]) } [s] := .unchanged hw rfl (congrArg ClusterView.secrets hview)
  exact ⟨[s] ++ ms, hfound.trans hsending⟩

theorem replace : Sends view strategy t (api.watched.replace (p.record t)) [p] := by
  intro w hw
  rcases (h.replaceSecret (p.record t).space (p.record t).name (.ofRecord (p.record t))).watch w.store with
    ⟨s, hs, hview⟩ | ⟨fault, s, hs, hview⟩
  · rw [ClusterApi.exec_replace_done hs]
    exact ⟨[s], .written hw rfl hp (hview ▸ secrets_set ..)⟩
  · rw [ClusterApi.exec_replace_failed hs]
    split
    · exact create_after h hp hw hview
    · exact ⟨[s], .refused hw rfl (congrArg ClusterView.secrets hview) (secret?_refusal_of rfl)⟩

theorem recreate : Sends view .recreate t (do
    let _ ← api.watched.delete (p.record t).name (p.record t).space
    api.watched.create (p.record t)) [p] := by
  intro w hw
  rw [exec_bind]
  rcases (h.deleteSecret (p.record t).space (p.record t).name).watch w.store with
    ⟨s, hs, hview⟩ | ⟨fault, s, hs, hview⟩
  · have hgone : (view s).secrets = Function.update (view w.store.1).secrets p.key none := by
      rw [hview, ← record_key t p]
      rfl
    obtain ⟨log, hexec⟩ := ClusterApi.exec_delete_done
      (show api.watched.deleteSecret (p.record t).space (p.record t).name w.store = _ from hs)
    rw [hexec]
    rcases (h.createSecret (p.record t).space (.ofRecord (p.record t))).watch (s, w.store.2 ++ [s]) with
      ⟨s', hs', hview'⟩ | ⟨fault, s', hs', hview'⟩
    · dsimp only
      rw [ClusterApi.exec_create_done hs']
      refine ⟨[s, s'], .remade hw (by simp) hp hgone ?_⟩
      -- making it anew writes over what was removed before
      rw [hview', show Manifest.name _ = (p.record t).name from rfl, secrets_set, hgone]
      exact Function.update_idem ..
    · dsimp only
      rw [ClusterApi.exec_create_failed hs']
      exact ⟨[s, s'], .removed hw (by simp) hgone (congrArg ClusterView.secrets hview') (secret?_refusal_of rfl)⟩
  · rw [ClusterApi.exec_delete_failed hs]
    cases hfault : ClusterApi.hasStatus notFound fault with
    | true => exact create_after h hp hw hview
    | false => exact ⟨[s], .refused hw rfl (congrArg ClusterView.secrets hview) (secret?_refusal_of rfl)⟩

end Sends

end ServiceTrust
