/-
What passes between the pipeline and the key store tool, when every run of the tool ended well. Of the tool
nothing is known but what it answered: a `Transcript` numbers its runs, says of each which files it was
given, what it printed and which files it left, and allows the pipeline to change certain files in between.
A tool that keeps to the store of its command changes no other, so each store is at the end what the last
command about it left.
-/
import ServiceTrust.Proofs.Keystore.Tool

namespace ServiceTrust.Keystore

open Stage ServiceTrust.Tree

/-- A run of the tool that ended well: what it was asked, the files that it found, what it printed, and the
files that it left. -/
structure Exchange where
  command : Command
  before : Tree
  printed : String
  after : Tree

/-- The tool answered so, as its run number `n`. -/
def Exchange.Answered (tool : Tool) (executable : String) (n : Nat) (x : Exchange) : Prop :=
  ∃ errors, tool n (x.command.argv executable) x.before = (.finished 0 x.printed errors, x.after)

/-- From the files `t` to the files `t'` the exchanges took place, the first of them as run number `n`, and
besides them nothing changed but files at `files`. -/
inductive Transcript (tool : Tool) (executable : String) (files : Set Location) :
    Nat → Tree → List Exchange → Tree → Prop
  | done {n : Nat} {t t' : Tree} (hw : Within files ∅ t t') : Transcript tool executable files n t [] t'
  | run {n : Nat} {t t' : Tree} {x : Exchange} {xs : List Exchange} (hw : Within files ∅ t x.before)
    (hx : x.Answered tool executable n) (hrest : Transcript tool executable files (n + 1) x.after xs t') :
    Transcript tool executable files n t (x :: xs) t'

namespace Transcript

variable {tool : Tool} {executable : String} {files files' : Set Location} {n : Nat} {t t' t'' : Tree}
  {x : Exchange} {xs ys : List Exchange}

theorem mono (h : Transcript tool executable files n t xs t') (hf : files ⊆ files') :
    Transcript tool executable files' n t xs t' := by
  induction h with
  | done hw => exact .done (hw.mono hf subset_rfl)
  | run hw hx _ ih => exact .run (hw.mono hf subset_rfl) hx ih

theorem of_within (hw : Within files ∅ t t') (h : Transcript tool executable files n t' xs t'') :
    Transcript tool executable files n t xs t'' := by
  cases h with
  | done hw' => exact .done (hw.trans hw')
  | run hw' hx hrest => exact .run (hw.trans hw') hx hrest

theorem append (h : Transcript tool executable files n t xs t')
    (h' : Transcript tool executable files (n + xs.length) t' ys t'') :
    Transcript tool executable files n t (xs ++ ys) t'' := by
  induction h with
  | done hw =>
    -- what changed after the last exchange comes before the first of the others
    exact h'.of_within hw
  | @run n t t' x xs hw hx _ ih =>
    refine .run hw hx (ih ?_)
    rwa [List.length_cons, Nat.add_comm xs.length, ← Nat.add_assoc] at h'

/-- What came after an exchange is a transcript too. -/
theorem after (xs : List Exchange) (h : Transcript tool executable files n t (xs ++ x :: ys) t') :
    x.Answered tool executable (n + xs.length) ∧
      Transcript tool executable files (n + xs.length + 1) x.after ys t' := by
  induction xs generalizing n t with
  | nil =>
    obtain _ | ⟨-, hx, hrest⟩ := h
    exact ⟨hx, hrest⟩
  | cons y xs ih =>
    obtain _ | ⟨-, -, hrest⟩ := h
    rw [List.length_cons, Nat.add_comm xs.length, ← Nat.add_assoc]
    exact ih hrest

section Confined

variable (hconf : Confined tool)
include hconf

/-- Nothing changes but the stores of the commands and the files of the pipeline. -/
theorem within (h : Transcript tool executable files n t xs t') (hf : files ⊆ files')
    (habout : ∀ x ∈ xs, ∃ store : Path, x.command.About store ∧ store.place ∈ files') :
    Within files' ∅ t t' := by
  induction h with
  | done hw => exact hw.mono hf subset_rfl
  | @run n t t' x xs hw hx _ ih =>
    obtain ⟨store, hc, hs⟩ := habout x (List.mem_cons_self ..)
    -- the tree after the exchange is the tool's, which keeps to the store of its command
    obtain ⟨errors, hx⟩ := hx
    have htool := hconf n executable x.before hc
    rw [hx] at htool
    exact ((hw.mono hf subset_rfl).trans (htool.mono (Set.singleton_subset_iff.mpr hs) subset_rfl)).trans
      (ih fun y hy => habout y (List.mem_cons_of_mem _ hy))

/-- A file stays as it is that no command is about, and that the pipeline leaves alone. -/
theorem find?_eq (h : Transcript tool executable files n t xs t') {p : Path} (hout : p.place ∉ files)
    (habout : ∀ x ∈ xs, ∃ store : Path, x.command.About store ∧ store.place ≠ p.place) :
    t'.find? p = t.find? p := by
  have hwithin : Within {p.place}ᶜ ∅ t t' := by
    refine h.within hconf (fun l hl => ?_) habout
    rintro rfl
    exact hout hl
  exact hwithin.find?_eq fun hm => hm rfl

/-- The last command about a store, if the tool leaves a store there at all, leaves it for good. -/
theorem isFile (hdel : Delivers tool) (xs : List Exchange)
    (h : Transcript tool executable files n t (xs ++ x :: ys) t') {store : Path} (hx : x.command.About store)
    (hout : store.place ∉ files)
    (habout : ∀ y ∈ ys, ∃ other : Path, y.command.About other ∧ other.place ≠ store.place) :
    t'.isFile store = true := by
  obtain ⟨⟨errors, hanswer⟩, hrest⟩ := h.after xs
  have hleft := hdel _ executable x.before x.printed errors hx (congrArg Prod.fst hanswer)
  rw [hanswer] at hleft
  unfold Tree.isFile
  rwa [hrest.find?_eq hconf hout habout]

end Confined

end Transcript

/-! ## Runs of the pipeline -/

variable {σ : Type} {host : Host} {executable : String} {files files' : Set Location} {c : Command}
  {xs ys : List Exchange} {w w' w'' : World σ}

/-- From `w` to `w'` the exchanges are the runs of the tool, and besides them nothing changed but files at
`files`. -/
structure Talked (host : Host) (executable : String) (files : Set Location) (xs : List Exchange)
    (w w' : World σ) : Prop where
  transcript : Transcript host.tool executable files (w.toolRuns.length + 1) w.tree xs w'.tree
  runs : w'.toolRuns = w.toolRuns ++ xs.map fun x => x.command.argv executable

namespace Talked

theorem quiet (hw : Within files ∅ w.tree w'.tree) (hr : w'.toolRuns = w.toolRuns) :
    Talked host executable files [] w w' := ⟨.done hw, by simp [hr]⟩

theorem trans (h : Talked host executable files xs w w') (h' : Talked host executable files ys w' w'') :
    Talked host executable files (xs ++ ys) w w'' := by
  refine ⟨h.transcript.append ?_, by rw [h'.runs, h.runs, List.map_append, List.append_assoc]⟩
  have hrest := h'.transcript
  rwa [h.runs, List.length_append, List.length_map, Nat.add_right_comm] at hrest

theorem mono (h : Talked host executable files xs w w') (hf : files ⊆ files') :
    Talked host executable files' xs w w' := ⟨h.transcript.mono hf, h.runs⟩

end Talked

theorem change_talked {f : Tree → Except FileFault Tree} {u : Unit}
    (hf : ∀ t t', f t = .ok t' → Within files ∅ t t') (h : (change f).exec w = (.ok u, w')) :
    Talked host executable files [] w w' := by
  obtain ⟨t, ht, rfl⟩ := change_ok.mp h
  exact .quiet (hf _ _ ht) rfl

theorem write_talked {p : Path} {bytes : Bytes} {u : Unit} (hp : p.place ∈ files)
    (h : (write p bytes).exec w = (.ok u, w')) : Talked host executable files [] w w' :=
  change_talked (fun _ _ hw => (write_within hw).mono (Set.singleton_subset_iff.mpr hp) subset_rfl) h

theorem forM_talked {α : Type} {as : List α} {f : α → Stage σ PUnit} {u : PUnit}
    (hf : ∀ a ∈ as, ∀ {w w' : World σ} {u}, (f a).exec w = (.ok u, w') → Talked host executable files [] w w')
    (h : (as.forM f).exec w = (.ok u, w')) : Talked host executable files [] w w' := by
  induction as generalizing w with
  | nil =>
    obtain ⟨-, rfl⟩ := pure_ok.mp h
    exact .quiet (.refl _ _ _) rfl
  | cons a as ih =>
    obtain ⟨_, w₁, hfirst, hrest⟩ := bind_ok.mp h
    exact (hf a (List.mem_cons_self ..) hfirst).trans (ih (fun b hb => hf b (List.mem_cons_of_mem _ hb)) hrest)

theorem run_talked (files : Set Location) {printed : String} (h : (run host executable c).exec w = (.ok printed, w')) :
    ∃ x : Exchange, x.command = c ∧ x.printed = printed ∧ x.after = w'.tree ∧
      Talked host executable files [x] w w' := by
  obtain ⟨hreply, hruns⟩ := run_ok h
  exact ⟨⟨c, w.tree, printed, w'.tree⟩, rfl, rfl, rfl, .run (.refl _ _ _) hreply (.done (.refl _ _ _)), hruns⟩

end ServiceTrust.Keystore
