/-
What the pipeline relies on of the key store tool, whatever it answers: a command changes no file
but the store that it names (`Confined`), and one that ends well leaves that store there
(`Delivers`). Both are facts about single runs of the tool, told of its argument vector; what a stage
that runs it may do follows. The tool in memory keeps to both.
-/
import ServiceTrust.Keystore.Reference
import ServiceTrust.Keystore.Tool
import ServiceTrust.Proofs.Path
import ServiceTrust.Proofs.Stage

namespace ServiceTrust.Keystore

open Stage ServiceTrust.Tree

/-- A program for key stores: the number of the run, its arguments and the files are given. -/
abbrev Tool := Nat → List String → Tree → ToolReply × Tree

/-! ## The contract -/

/-- The commands about a store. -/
inductive Command.About (store : Path) : Command → Prop
  | importCert (alias_ : String) (cert : Path) (password type : String) :
    About store (.importCert store alias_ cert password type)
  | importKeystore (source : Path) (sourcePassword destPassword alias_ sourceType destType : String) :
    About store (.importKeystore source sourcePassword store destPassword alias_ sourceType destType)
  | listEntries (password type : String) : About store (.listEntries store password type)

/-- No file changes but the store of the command. -/
def Confined (tool : Tool) : Prop :=
  ∀ n executable {c : Command} {store : Path} t, c.About store →
    Within {store.place} ∅ t (tool n (c.argv executable) t).2

/-- A command that ends with status zero leaves its store. -/
def Delivers (tool : Tool) : Prop :=
  ∀ n executable {c : Command} {store : Path} t output errors, c.About store →
    (tool n (c.argv executable) t).1 = .finished 0 output errors →
    (tool n (c.argv executable) t).2.isFile store = true

/-! ## Stages that run the tool -/

variable {σ : Type} {host : Host} {executable : String} {c : Command} {store : Path}

theorem exec_run (w : World σ) :
    (run host executable c).exec w =
      (settle executable c (host.tool (w.toolRuns.length + 1) (c.argv executable) w.tree).1).exec
        { w with
          tree := (host.tool (w.toolRuns.length + 1) (c.argv executable) w.tree).2
          log := w.log.add ⟨.debug, "keytool_run", [("argv", .text (masked (c.argv executable)))]⟩
          toolRuns := w.toolRuns ++ [c.argv executable] } := rfl

theorem settle_still (reply : ToolReply) :
    Obeys .still (settle executable c reply : Stage σ String) := by
  cases reply with
  | notStarted reason => exact .fail _
  | finished status output errors =>
    exact .ite (fun _ => .pure _) fun _ => .bind (.log _ _ _) fun _ => .fail _

theorem settle_ok {reply : ToolReply} {printed : String} {w w' : World σ}
    (h : (settle executable c reply).exec w = (.ok printed, w')) :
    (∃ errors, reply = .finished 0 printed errors) ∧ w' = w := by
  cases reply with
  | notStarted reason => exact (fail_ok.mp h).elim
  | finished status output errors =>
    rw [settle] at h
    split at h
    next hs =>
      obtain ⟨rfl, rfl⟩ := pure_ok.mp h
      exact ⟨⟨errors, by rw [hs]⟩, rfl⟩
    next => simp at h

theorem run_obeys (hconf : Confined host.tool) (hc : c.About store) :
    Obeys (.within {store.place} ∅) (run host executable c : Stage σ String) := fun w => by
  rw [exec_run]
  refine Frame.trans _ ?_ (Obeys.of_still (settle_still _) _)
  exact ⟨hconf _ executable w.tree hc, rfl⟩

theorem run_ok {w w' : World σ} {printed : String} (h : (run host executable c).exec w = (.ok printed, w')) :
    (∃ errors, host.tool (w.toolRuns.length + 1) (c.argv executable) w.tree =
        (.finished 0 printed errors, w'.tree)) ∧
      w'.toolRuns = w.toolRuns ++ [c.argv executable] := by
  rw [exec_run] at h
  obtain ⟨⟨errors, hreply⟩, rfl⟩ := settle_ok h
  exact ⟨⟨errors, Prod.ext hreply rfl⟩, rfl⟩

theorem locate_still (executable : String) :
    Obeys .still (locate host executable : Stage σ String) :=
  .bind .tree fun t => by
    cases find? t host.searchPath executable with
    | some place => exact .pure _
    | none => exact .fail _

/-! ## The tool in memory -/

namespace Reference

theorem save_ok {n : Nat} {t t' : Tree} {password : String} {entries : List Entry}
    (h : save n t store.toString password entries = .ok t') :
    Within {store.place} ∅ t t' ∧ t'.isFile store = true := by
  unfold save at h
  split at h
  · cases h
  · rw [Path.ofString_toString] at h
    split at h
    next t'' hw =>
      obtain rfl := Except.ok.inj h
      exact ⟨write_within hw, isFile_iff_read.mpr ⟨_, read_write hw⟩⟩
    next => cases h

theorem bind_eq_ok {α β : Type} {x : Except Complaint α} {f : α → Except Complaint β} {b : β} :
    (x >>= f) = .ok b ↔ ∃ a, x = .ok a ∧ f a = .ok b := by
  cases x with
  | error e => exact ⟨fun h => (nomatch h), fun ⟨_, h, _⟩ => (nomatch h)⟩
  | ok a => exact ⟨fun h => ⟨a, rfl, h⟩, fun ⟨_, ha, h⟩ => Except.ok.inj ha ▸ h⟩

theorem throw_ne_ok {α : Type} {e : Complaint} {a : α} : (throw e : Except Complaint α) ≠ .ok a :=
  fun h => nomatch h

theorem pure_eq_ok {α : Type} {a b : α} : (pure a : Except Complaint α) = .ok b ↔ a = b :=
  ⟨Except.ok.inj, congrArg _⟩

theorem importCert_ok {suite : Suite} {n : Nat} {t t' : Tree} {get : String → String}
    {printed : String} (hs : get "-keystore" = store.toString)
    (h : importCert suite n t get = .ok (printed, t')) :
    Within {store.place} ∅ t t' ∧ t'.isFile store = true := by
  have hsave {es : List Entry} (hm : save n t (get "-keystore") (get "-storepass") es = .ok t') :=
    save_ok (hs ▸ hm)
  simp only [importCert, bind_eq_ok] at h
  obtain ⟨es, -, h⟩ := h
  split at h
  · split at h
    · simp [bind_eq_ok, throw_ne_ok] at h
    · simp only [bind_eq_ok, pure_eq_ok, Prod.mk.injEq] at h
      obtain ⟨_, -, _, hm, -, rfl⟩ := h
      exact hsave hm
  · simp only [bind_eq_ok, pure_eq_ok, Prod.mk.injEq] at h
    obtain ⟨_, -, _, -, _, hm, -, rfl⟩ := h
    exact hsave hm

theorem importKeystore_ok {n : Nat} {t t' : Tree} {get : String → String} {printed : String}
    (hs : get "-destkeystore" = store.toString) (h : importKeystore n t get = .ok (printed, t')) :
    Within {store.place} ∅ t t' ∧ t'.isFile store = true := by
  simp only [importKeystore] at h
  split at h
  · simp [bind_eq_ok, throw_ne_ok] at h
  · simp only [bind_eq_ok, pure_eq_ok, Prod.mk.injEq] at h
    obtain ⟨_, -, _, hm, -, rfl⟩ := h
    exact save_ok (hs ▸ hm)

theorem list_ok {t t' : Tree} {get : String → String} {printed : String} (hs : get "-keystore" = store.toString)
    (h : list t get = .ok (printed, t')) : Within {store.place} ∅ t t' ∧ t'.isFile store = true := by
  simp only [list] at h
  split at h
  · simp [bind_eq_ok, throw_ne_ok] at h
  · simp only [bind_eq_ok, pure_eq_ok, Prod.mk.injEq] at h
    obtain ⟨_, hopen, -, rfl⟩ := h
    refine ⟨.refl _ _ _, ?_⟩
    unfold openStore at hopen
    rw [hs, Path.ofString_toString] at hopen
    split at hopen
    · cases hopen
    next bytes hr => exact isFile_iff_read.mpr ⟨bytes, hr⟩

/-- The value of an option of a command, empty if it has none. -/
def optionOf (c : Command) (flag : String) : String :=
  ((options (c.arguments.drop 1)).lookup flag).getD ""

theorem optionOf_importCert (alias_ : String) (cert : Path) (password type : String) :
    optionOf (.importCert store alias_ cert password type) "-keystore" = store.toString := by
  simp [optionOf, Command.importCert, options, List.lookup_cons, ToString.toString]

theorem optionOf_importKeystore (source : Path) (sourcePassword destPassword alias_ sourceType destType : String) :
    optionOf (.importKeystore source sourcePassword store destPassword alias_ sourceType destType) "-destkeystore" =
      store.toString := by
  simp [optionOf, Command.importKeystore, options, List.lookup_cons, ToString.toString]

theorem optionOf_listEntries (password type : String) :
    optionOf (.listEntries store password type) "-keystore" = store.toString := by
  simp [optionOf, Command.listEntries, options, ToString.toString]

/-- What a command comes to, before it is told as a reply. -/
def outcomeOf (suite : Suite) (n : Nat) (c : Command) (t : Tree) : Except Complaint (String × Tree) :=
  match c.arguments.head? with
  | some "-importcert" => importCert suite n t (optionOf c)
  | some "-importkeystore" => importKeystore n t (optionOf c)
  | some "-list" => list t (optionOf c)
  | _ => .ok ("", t)

theorem run_argv (suite : Suite) (n : Nat) (c : Command) (executable : String) (t : Tree) :
    run suite n (c.argv executable) t =
      match outcomeOf suite n c t with
      | .ok (output, t) => (.finished 0 output "", t)
      | .error complaint => (.finished 1 s!"keytool error: {complaint}\n" "", t) := rfl

theorem outcomeOf_ok {suite : Suite} {n : Nat} {t t' : Tree} {printed : String}
    (hc : c.About store) (h : outcomeOf suite n c t = .ok (printed, t')) :
    Within {store.place} ∅ t t' ∧ t'.isFile store = true := by
  cases hc with
  | importCert alias_ cert password type =>
    exact importCert_ok (optionOf_importCert ..) (by simpa [outcomeOf, Command.importCert] using h)
  | importKeystore source sourcePassword destPassword alias_ sourceType destType =>
    exact importKeystore_ok (optionOf_importKeystore ..) (by simpa [outcomeOf, Command.importKeystore] using h)
  | listEntries password type =>
    exact list_ok (optionOf_listEntries ..) (by simpa [outcomeOf, Command.listEntries] using h)

theorem confined (suite : Suite) : Confined (run suite) := by
  intro n executable c store t hc
  rw [run_argv]
  rcases h : outcomeOf suite n c t with complaint | ⟨printed, t'⟩
  · exact .refl _ _ _
  · exact (outcomeOf_ok hc h).1

theorem delivers (suite : Suite) : Delivers (run suite) := by
  intro n executable c store t output errors hc hreply
  rw [run_argv] at hreply ⊢
  rcases h : outcomeOf suite n c t with complaint | ⟨printed, t'⟩
  · rw [h] at hreply
    simp at hreply
  · exact (outcomeOf_ok hc h).2

theorem withFaults_confined {tool : Tool} (h : Confined tool) (faults : Nat → Option ToolReply) :
    Confined (withFaults faults tool) := by
  intro n executable c store t hc
  unfold withFaults
  cases faults n with
  | some reply => exact .refl _ _ _
  | none => exact h n executable t hc

end Reference

end ServiceTrust.Keystore
