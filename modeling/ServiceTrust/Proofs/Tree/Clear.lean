/-
What clearing a directory does. It never fails, and of its tree it removes exactly the files of the
directory whose names have one of the endings (`Tree.Cleared`); everything else stays as it is.
-/
import ServiceTrust.Layout
import ServiceTrust.Proofs.Tree.Frame

namespace ServiceTrust

/-- The endings that the names of generated files have, and no name of a descriptor. -/
def generatedEndings : List String := [".p12", ".txt", ".pem", ".csr", ".pkcs12", ".jks"]

/-- The name has an ending of a generated file. -/
def isStale (name : String) : Bool := generatedEndings.any (hasSuffix name)

namespace Tree

/-- The places of `d` under names with one of the endings. -/
def placesWith (d : Location) (suffixes : List String) : Set Location :=
  {l | ∃ name, isName name = true ∧ suffixes.any (hasSuffix name) = true ∧ l = d ++ [name]}

/-- The places of the generated files of the directory `d`. -/
def stalePlaces (d : Location) : Set Location := placesWith d generatedEndings

theorem mem_stalePlaces {d : Location} {name : String} (h : isName name = true) :
    d ++ [name] ∈ stalePlaces d ↔ isStale name = true := by
  constructor
  · rintro ⟨m, -, hm, he⟩
    obtain rfl : name = m := by simpa using he
    exact hm
  · intro hm
    exact ⟨name, h, hm, rfl⟩

/-- From `t` to `t'` exactly the files at `S` were removed. -/
structure Cleared (S : Set Location) (t t' : Tree) : Prop where
  gone : ∀ l ∈ S, t.HoldsFile l → t'.node? l = none
  kept : ∀ l, l ∉ S ∨ ¬ t.HoldsFile l → t'.node? l = t.node? l

variable {S S' : Set Location} {t t' t'' : Tree} {d : Path}

namespace Cleared

theorem trans (h : Cleared S t t') (h' : Cleared S' t' t'') : Cleared (S ∪ S') t t'' := by
  have hfile {l : Location} (hn : t'.node? l = t.node? l) : t'.HoldsFile l ↔ t.HoldsFile l := by
    rw [HoldsFile, HoldsFile, hn]
  constructor
  · intro l hl hf
    by_cases hS : l ∈ S
    · have hnone := h.gone l hS hf
      rw [h'.kept l (.inr fun ⟨_, _, hn⟩ => by rw [hnone] at hn; cases hn), hnone]
    · exact h'.gone l (hl.resolve_left hS) ((hfile (h.kept l (.inl hS))).mpr hf)
  · rintro l (hl | hl)
    · rw [h'.kept l (.inl fun hm => hl (.inr hm)), h.kept l (.inl fun hm => hl (.inl hm))]
    · have hk := h.kept l (.inr hl)
      rw [h'.kept l (.inr ((hfile hk).not.mpr hl)), hk]

theorem not_holdsFile (h : Cleared S t t') {l : Location} (hl : l ∈ S) : ¬ t'.HoldsFile l := by
  intro hf
  by_cases ht : t.HoldsFile l
  · obtain ⟨_, _, hn⟩ := hf
    rw [h.gone l hl ht] at hn
    cases hn
  · obtain ⟨bytes, mode, hn⟩ := hf
    exact ht ⟨bytes, mode, h.kept l (.inr ht) ▸ hn⟩

theorem within (h : Cleared S t t') : Within S ∅ t t' := by
  refine ⟨fun {l} hl => ?_, fun {l} hl => ?_, fun {l} hl => by rw [h.kept l (.inl hl)]⟩
  · rw [h.kept l (.inr fun ⟨_, _, hn⟩ => by rw [hl] at hn; cases hn), hl]
  · by_cases hc : l ∈ S ∧ t.HoldsFile l
    · rw [h.gone l hc.1 hc.2] at hl
      cases hl
    · rw [h.kept l (not_and_or.mp hc)] at hl
      exact .inl hl

end Cleared

theorem erase_cleared {l : Location} (h : t.HoldsFile l) : Cleared {l} t (t.erase l) := by
  constructor
  · rintro m rfl _
    rw [node?_erase_of h.node_ne, if_pos rfl]
  · intro m hm
    rw [node?_erase_of h.node_ne, if_neg]
    rintro rfl
    exact hm.elim (fun hne => hne rfl) fun hne => hne h

/-- The places of `d` under `names`. -/
def placesNamed (d : Location) (names : List String) : Set Location :=
  {l | ∃ name ∈ names, l = d ++ [name]}

theorem removeFiles_cleared (names : List String) (hd : t.isDirectory d = true)
    (hn : ∀ name ∈ names, isName name = true) :
    ∃ t' removed, t.removeFiles d names = .ok (t', removed) ∧
      Cleared (placesNamed d.place names) t t' := by
  induction names generalizing t with
  | nil =>
    refine ⟨t, [], rfl, ⟨fun l hl => ?_, fun _ _ => rfl⟩⟩
    obtain ⟨name, hm, -⟩ := hl
    cases hm
  | cons name names ih =>
    have hname := hn name (List.mem_cons_self ..)
    have hrest := fun n hm => hn n (List.mem_cons_of_mem _ hm)
    have hplaces : placesNamed d.place (name :: names) =
        {d.place ++ [name]} ∪ placesNamed d.place names := by
      ext l
      simp [placesNamed]
    have hfile : t.isFile (d.child name) = true ↔ t.HoldsFile (d.place ++ [name]) := by
      rw [isFile_child hd (isPart_of_isName hname), d.place_child_name hname]
    unfold removeFiles
    split
    next hf =>
      have herase := erase_cleared (hfile.mp hf)
      obtain ⟨t', removed, hr, hc⟩ := ih (herase.within.isDirectory hd) hrest
      rw [unlink_of_isFile hf, d.place_child_name hname]
      refine ⟨t', d.child name :: removed, ?_, hplaces ▸ herase.trans hc⟩
      simp only [bind, Except.bind, hr, pure, Except.pure]
    next hf =>
      obtain ⟨t', removed, hr, hc⟩ := ih hd hrest
      refine ⟨t', removed, hr, hplaces ▸ ?_⟩
      constructor
      · rintro l (rfl | hl) hlf
        · exact absurd (hfile.mpr hlf) hf
        · exact hc.gone l hl hlf
      · rintro l (hl | hl)
        · exact hc.kept l (.inl fun hm => hl (.inr hm))
        · exact hc.kept l (.inr hl)

theorem removeStaleWith_cleared (suffixes : List String) (hd : t.isDirectory d = true) :
    ∃ t' removed, t.removeStaleWith d suffixes = .ok (t', removed) ∧
      Cleared (placesWith d.place suffixes) t t' := by
  induction suffixes generalizing t with
  | nil =>
    refine ⟨t, [], rfl, ⟨fun l hl => ?_, fun _ _ => rfl⟩⟩
    obtain ⟨name, -, hm, -⟩ := hl
    simp at hm
  | cons suffix suffixes ih =>
    have hmem {name : String} : name ∈ t.namesWithSuffix d suffix ↔ isName name = true ∧
        (t.node? (d.place ++ [name])).isSome = true ∧ hasSuffix name suffix = true := by
      simp only [namesWithSuffix, List.mem_filter, mem_sortedNames, hd, true_and, and_assoc]
    obtain ⟨t₁, removed, hr, hc⟩ := removeFiles_cleared (t.namesWithSuffix d suffix) hd
      fun name hm => (hmem.mp hm).1
    -- names of the ending under which there is nothing are none of the listed ones, and need not be
    have hone : Cleared (placesWith d.place [suffix]) t t₁ := by
      constructor
      · rintro l ⟨name, hname, hs, rfl⟩ hf
        obtain ⟨bytes, mode, hn⟩ := hf
        refine hc.gone _ ⟨name, hmem.mpr ⟨hname, by simp [hn], by simpa using hs⟩, rfl⟩ ⟨bytes, mode, hn⟩
      · rintro l (hl | hl)
        · refine hc.kept l (.inl ?_)
          rintro ⟨name, hm, rfl⟩
          obtain ⟨hname, -, hs⟩ := hmem.mp hm
          exact hl ⟨name, hname, by simpa using hs, rfl⟩
        · exact hc.kept l (.inr hl)
    obtain ⟨t', more, hr', hc'⟩ := ih (hone.within.isDirectory hd)
    refine ⟨t', removed ++ more, ?_, ?_⟩
    · unfold removeStaleWith
      simp only [hr, bind, Except.bind, hr', pure, Except.pure]
    · have hplaces : placesWith d.place (suffix :: suffixes) =
          placesWith d.place [suffix] ∪ placesWith d.place suffixes := by
        ext l
        constructor
        · rintro ⟨name, hname, hs, rfl⟩
          rw [List.any_cons, Bool.or_eq_true] at hs
          exact hs.imp (fun h => ⟨name, hname, by simpa using h, rfl⟩) fun h => ⟨name, hname, h, rfl⟩
        · rintro (⟨name, hname, hs, rfl⟩ | ⟨name, hname, hs, rfl⟩)
          · exact ⟨name, hname, by simp_all, rfl⟩
          · exact ⟨name, hname, by simp [hs], rfl⟩
      exact hplaces ▸ hone.trans hc'

theorem removeStale_cleared (hd : t.isDirectory d = true) :
    ∃ t' removed, t.removeStale d = .ok (t', removed) ∧ Cleared (stalePlaces d.place) t t' :=
  removeStaleWith_cleared generatedEndings hd

theorem removeStaleWith_of_not_isDirectory (suffixes : List String) (hd : t.isDirectory d = false) :
    t.removeStaleWith d suffixes = .ok (t, []) := by
  have hnil (suffix : String) : t.namesWithSuffix d suffix = [] := by
    refine List.eq_nil_iff_forall_not_mem.mpr fun name hm => ?_
    have hs := (List.mem_filter.mp hm).1
    rw [mem_sortedNames, hd] at hs
    exact Bool.noConfusion hs.1
  induction suffixes with
  | nil => rfl
  | cons suffix suffixes ih =>
    unfold removeStaleWith
    simp only [hnil, removeFiles, bind, Except.bind, ih, pure, Except.pure, List.append_nil]

/-- Clearing succeeds everywhere, and touches nothing but generated files. -/
theorem removeStale_within (t : Tree) (d : Path) :
    ∃ t' removed, t.removeStale d = .ok (t', removed) ∧ Within (stalePlaces d.place) ∅ t t' := by
  cases hd : t.isDirectory d with
  | true =>
    obtain ⟨t', removed, h, hc⟩ := removeStale_cleared hd
    exact ⟨t', removed, h, hc.within⟩
  | false => exact ⟨t, [], removeStaleWith_of_not_isDirectory _ hd, .refl _ _ _⟩

/-! ## What is returned -/

/-- The names of the files of `d` with a certain ending, increasing. -/
def filesWith (t : Tree) (d : Path) (ending : String) : List String :=
  (t.namesWithSuffix d ending).filter fun name => t.isFile (d.child name)

theorem mem_filesWith {name ending : String} : name ∈ t.filesWith d ending ↔
    isName name = true ∧ t.isFile (d.child name) = true ∧ hasSuffix name ending = true := by
  simp only [filesWith, namesWithSuffix, List.mem_filter, mem_sortedNames]
  constructor
  · rintro ⟨⟨⟨-, hname, -⟩, hending⟩, hfile⟩
    exact ⟨hname, hfile, hending⟩
  · rintro ⟨hname, hfile, hending⟩
    obtain ⟨bytes, mode, hnode⟩ := (isFile_iff.mp hfile).2
    rw [d.place_child_name hname] at hnode
    exact ⟨⟨⟨isDirectory_of_isFile_child (isPart_of_isName hname) hfile, hname, by rw [hnode]; rfl⟩, hending⟩, hfile⟩

theorem filesWith_increasing (t : Tree) (d : Path) (ending : String) :
    (t.filesWith d ending).Pairwise (· < ·) :=
  ((sortedNames_increasing t d).filter _).filter _

/-- The files with an ending are listed the same way in a tree in which they are the same. -/
theorem filesWith_congr {ending : String} (h : ∀ name, isName name = true → hasSuffix name ending = true →
    t'.isFile (d.child name) = t.isFile (d.child name)) : t'.filesWith d ending = t.filesWith d ending := by
  refine eq_of_increasing (filesWith_increasing t' d ending) (filesWith_increasing t d ending) fun name => ?_
  rw [mem_filesWith, mem_filesWith]
  exact and_congr_right fun hname => and_congr_left fun hending => by rw [h name hname hending]

theorem isFile_erase {name m : String} (hfile : t.isFile (d.child name) = true) (hname : isName name = true)
    (hm : isName m = true) (hne : m ≠ name) :
    (t.erase (d.child name).place).isFile (d.child m) = t.isFile (d.child m) := by
  have hplace : (d.child m).place ∉ ({(d.child name).place} : Set Location) := by
    rw [Set.mem_singleton_iff, Path.place_child_inj hm hname]
    exact fun h => hne h.2
  unfold isFile
  rw [(erase_within (isFile_iff.mp hfile).2).find?_eq hplace]

/-- The files among the names are removed, and what is under another name stays. -/
theorem removeFiles_eq {names : List String} (hnodup : names.Nodup) (hproper : ∀ name ∈ names, isName name = true) :
    ∃ t', t.removeFiles d names =
        .ok (t', (names.filter fun name => t.isFile (d.child name)).map d.child) ∧
      ∀ m, isName m = true → m ∉ names → t'.isFile (d.child m) = t.isFile (d.child m) := by
  induction names generalizing t with
  | nil => exact ⟨t, rfl, fun _ _ _ => rfl⟩
  | cons name names ih =>
    obtain ⟨hfresh, hnodup⟩ := List.nodup_cons.mp hnodup
    obtain ⟨hname, hproper⟩ := List.forall_mem_cons.mp hproper
    unfold removeFiles
    rw [List.filter_cons]
    split
    next hfile =>
      obtain ⟨t', hrest, hkept⟩ := ih (t := t.erase (d.child name).place) hnodup hproper
      have hothers : (names.filter fun m => (t.erase (d.child name).place).isFile (d.child m)) =
          names.filter fun m => t.isFile (d.child m) :=
        List.filter_congr fun m hm =>
          isFile_erase hfile hname (hproper m hm) (ne_of_mem_of_not_mem hm hfresh)
      refine ⟨t', ?_, fun m hm hnew => ?_⟩
      · simp only [unlink_of_isFile hfile, bind, Except.bind, hrest, hothers, pure, Except.pure, List.map_cons]
      · obtain ⟨hne, hnew⟩ := not_or.mp (List.mem_cons.not.mp hnew)
        rw [hkept m hm hnew, isFile_erase hfile hname hm hne]
    next =>
      obtain ⟨t', hrest, hkept⟩ := ih hnodup hproper
      exact ⟨t', hrest, fun m hm hnew => hkept m hm fun h => hnew (List.mem_cons_of_mem _ h)⟩

theorem removeFiles_of_none {names : List String} (h : ∀ name ∈ names, t.isFile (d.child name) = false) :
    t.removeFiles d names = .ok (t, []) := by
  induction names with
  | nil => rfl
  | cons name names ih =>
    obtain ⟨hname, hnames⟩ := List.forall_mem_cons.mp h
    rw [removeFiles, if_neg (Bool.eq_false_iff.mp hname), ih hnames]

/-- No name ends in both. -/
def Apart (ending ending' : String) : Prop :=
  ∀ name, hasSuffix name ending = true → hasSuffix name ending' = false

theorem apart_of_not_hasSuffix {ending ending' : String} (h : hasSuffix ending ending' = false)
    (h' : hasSuffix ending' ending = false) : Apart ending ending' := by
  intro name hending
  rw [← Bool.not_eq_true]
  intro hending'
  rcases List.suffix_or_suffix_of_suffix (hasSuffix_iff.mp hending) (hasSuffix_iff.mp hending') with hs | hs
  · exact Bool.false_ne_true (h'.symm.trans (hasSuffix_iff.mpr hs))
  · exact Bool.false_ne_true (h.symm.trans (hasSuffix_iff.mpr hs))

theorem generatedEndings_apart : generatedEndings.Pairwise Apart := by
  have hall : generatedEndings.Pairwise fun ending ending' =>
      hasSuffix ending ending' = false ∧ hasSuffix ending' ending = false := by decide
  exact hall.imp fun h => apart_of_not_hasSuffix h.1 h.2

/-- The paths are those of the files, one ending after another. -/
theorem removeStaleWith_eq {suffixes : List String} (hapart : suffixes.Pairwise Apart) :
    ∃ t', t.removeStaleWith d suffixes =
      .ok (t', suffixes.flatMap fun ending => (t.filesWith d ending).map d.child) := by
  induction suffixes generalizing t with
  | nil => exact ⟨t, rfl⟩
  | cons ending endings ih =>
    obtain ⟨hfirst, hapart⟩ := List.pairwise_cons.mp hapart
    have hnodup : (t.namesWithSuffix d ending).Nodup := (nodup_sortedNames t d).filter _
    obtain ⟨t₁, hremoved, hkept⟩ := removeFiles_eq (t := t) hnodup fun name hm =>
      (mem_sortedNames.mp (List.mem_filter.mp hm).1).2.1
    obtain ⟨t', hrest⟩ := ih (t := t₁) hapart
    -- the files with the other endings are still those of `t`
    have hothers : (endings.flatMap fun e => (t₁.filesWith d e).map d.child) =
        endings.flatMap fun e => (t.filesWith d e).map d.child := by
      refine List.flatMap_congr fun e hm => congrArg _ (filesWith_congr fun name hname hending => ?_)
      refine hkept name hname fun hlisted => ?_
      have hother := hfirst e hm name (List.mem_filter.mp hlisted).2
      exact Bool.false_ne_true (hother.symm.trans hending)
    refine ⟨t', ?_⟩
    rw [hothers] at hrest
    rw [removeStaleWith, List.flatMap_cons]
    simp only [hremoved, bind, Except.bind, hrest, pure, Except.pure, filesWith]

/-- Where there is no file with one of the endings nothing is removed. -/
theorem removeStaleWith_of_none {suffixes : List String} (h : ∀ ending ∈ suffixes, t.filesWith d ending = []) :
    t.removeStaleWith d suffixes = .ok (t, []) := by
  induction suffixes with
  | nil => rfl
  | cons ending endings ih =>
    obtain ⟨hfirst, hendings⟩ := List.forall_mem_cons.mp h
    have hnone : ∀ name ∈ t.namesWithSuffix d ending, t.isFile (d.child name) = false := fun name hm =>
      Bool.eq_false_iff.mpr fun hfile => List.filter_eq_nil_iff.mp hfirst name hm hfile
    rw [removeStaleWith]
    simp only [removeFiles_of_none hnone, ih hendings, bind, Except.bind, pure, Except.pure, List.append_nil]

end Tree

end ServiceTrust
