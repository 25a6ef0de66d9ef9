/-
What a change of the tree leaves alone. `Tree.Within files dirs` relates a tree to a later one when
nothing but files at `files` was written or removed and nothing but directories at `dirs` was made.
No operation removes a directory, so the relation is a preorder, paths stay good along it, and
every file outside of `files` can be read as before. Each operation is placed in it once.
-/
import ServiceTrust.Proofs.Tree.Place
import Mathlib.Data.Set.Insert

namespace ServiceTrust

namespace Tree

/-- There is a file at the place `l`. -/
def HoldsFile (t : Tree) (l : Location) : Prop := ∃ bytes mode, t.node? l = some (.file bytes mode)

/-- The bytes of the file at the place `l` are `bytes`. -/
def Holds (t : Tree) (l : Location) (bytes : Bytes) : Prop :=
  ∃ mode, t.node? l = some (.file bytes mode)

/-- The file at the place `l`, if there is one: its bytes and its mode. -/
def heldAt (t : Tree) (l : Location) : Option (Bytes × Nat) :=
  match t.node? l with
  | some (.file bytes mode) => some (bytes, mode)
  | _ => none

/-- Whatever there is, is in a directory, as it is in every file system. -/
def Rooted (t : Tree) : Prop :=
  ∀ {l : Location} {name : String}, (t.node? (l ++ [name])).isSome = true → t.node? l = some .directory

theorem rooted_of_entries {t : Tree} (h : ∀ e ∈ t.entries, t.node? e.1.dropLast = some .directory) :
    t.Rooted := by
  intro l name hsome
  unfold node? at hsome
  split at hsome
  next ha =>
    have hl : l = [] := by
      rcases l with _ | ⟨first, rest⟩
      · rfl
      · simp [isAnchor] at ha
    subst hl
    rfl
  next =>
    obtain ⟨e, he, hl⟩ := List.mem_map.mp (lookup_isSome.mp hsome)
    have hnode := h e he
    rwa [hl, List.dropLast_concat] at hnode

/-- From `t` to `t'` only files at `files` changed, only directories at `dirs` were made, and no
directory was removed. -/
structure Within (files dirs : Set Location) (t t' : Tree) : Prop where
  directory : ∀ {l}, t.node? l = some .directory → t'.node? l = some .directory
  made : ∀ {l}, t'.node? l = some .directory → t.node? l = some .directory ∨ l ∈ dirs
  file : ∀ {l}, l ∉ files → ∀ {bytes mode},
    t'.node? l = some (.file bytes mode) ↔ t.node? l = some (.file bytes mode)

variable {files dirs : Set Location} {t t' t'' : Tree} {p : Path} {l : Location} {bytes : Bytes}

theorem heldAt_eq_some {mode : Nat} :
    t.heldAt l = some (bytes, mode) ↔ t.node? l = some (.file bytes mode) := by
  unfold heldAt
  split
  next hn => simp [hn]
  next hn =>
    refine ⟨fun h => (nomatch h), fun h => ?_⟩
    exact absurd h (hn bytes mode)

theorem find?_eq_file {mode : Nat} : t.find? p = some (.file bytes mode) ↔
    t.locate p = .ok p.place ∧ t.node? p.place = some (.file bytes mode) := by
  unfold find?
  cases h : t.locate p with
  | error kind => simp
  | ok l =>
    obtain rfl := locate_ok h
    simp

theorem read_iff_find? : t.read p = .ok bytes ↔ ∃ mode, t.find? p = some (.file bytes mode) := by
  simp only [find?_eq_file, read_eq_ok, exists_and_left]

/-! ## A preorder -/

namespace Within

theorem refl (files dirs : Set Location) (t : Tree) : Within files dirs t t :=
  ⟨id, .inl, fun _ => Iff.rfl⟩

theorem of_eq (h : t' = t) : Within files dirs t t' := h ▸ refl files dirs t

theorem trans (h : Within files dirs t t') (h' : Within files dirs t' t'') :
    Within files dirs t t'' where
  directory hl := h'.directory (h.directory hl)
  made hl := (h'.made hl).elim h.made .inr
  file hl := (h'.file hl).trans (h.file hl)

theorem mono {files' dirs' : Set Location} (h : Within files dirs t t') (hf : files ⊆ files')
    (hd : dirs ⊆ dirs') : Within files' dirs' t t' where
  directory := h.directory
  made hl := (h.made hl).imp id (@hd _)
  file hl := h.file fun hm => hl (hf hm)

/-! ## What stays -/

theorem holds (h : Within files dirs t t') (hl : l ∉ files) : t'.Holds l bytes ↔ t.Holds l bytes :=
  exists_congr fun _ => h.file hl

theorem holdsFile (h : Within files dirs t t') (hl : l ∉ files) : t'.HoldsFile l ↔ t.HoldsFile l :=
  exists_congr fun _ => exists_congr fun _ => h.file hl

theorem heldAt (h : Within files dirs t t') (hl : l ∉ files) : t'.heldAt l = t.heldAt l :=
  Option.ext fun ⟨_, _⟩ => by rw [heldAt_eq_some, heldAt_eq_some, h.file hl]

theorem node (h : Within files dirs t t') (hf : l ∉ files) (hd : l ∉ dirs) :
    t'.node? l = t.node? l := by
  cases hn : t'.node? l with
  | none =>
    cases hm : t.node? l with
    | none => rfl
    | some n =>
      cases n with
      | file bytes mode => rw [(h.file hf).mpr hm] at hn; cases hn
      | directory => rw [h.directory hm] at hn; cases hn
  | some n =>
    cases n with
    | file bytes mode => exact ((h.file hf).mp hn).symm
    | directory => exact ((h.made hn).resolve_right hd).symm

theorem locate (h : Within files dirs t t') (hp : t.locate p = .ok l) : t'.locate p = .ok l :=
  locate_mono (fun _ => h.directory) hp

theorem isDirectory (h : Within files dirs t t') (hp : t.isDirectory p = true) :
    t'.isDirectory p = true :=
  have ⟨hl, hn⟩ := isDirectory_iff.mp hp
  isDirectory_iff.mpr ⟨h.locate hl, h.directory hn⟩

/-- Where no directory is made the same paths can be followed before and after. -/
theorem locate_iff (h : Within files ∅ t t') : t'.locate p = .ok l ↔ t.locate p = .ok l :=
  ⟨locate_mono fun _ hm => (h.made hm).resolve_right (Set.notMem_empty _), h.locate⟩

theorem isDirectory_eq (h : Within files ∅ t t') (p : Path) : t'.isDirectory p = t.isDirectory p := by
  rw [Bool.eq_iff_iff, isDirectory_iff, isDirectory_iff, h.locate_iff]
  exact and_congr_right fun _ => ⟨fun hn => (h.made hn).resolve_right (Set.notMem_empty _), h.directory⟩

/-- Where no directory is made a path leads to the same as before. -/
theorem find?_eq (h : Within files ∅ t t') (hp : p.place ∉ files) : t'.find? p = t.find? p := by
  unfold find?
  cases hl : t.locate p with
  | ok l =>
    obtain rfl := locate_ok hl
    rw [h.locate hl]
    exact h.node hp (Set.notMem_empty _)
  | error kind =>
    cases hl' : t'.locate p with
    | ok l => rw [h.locate_iff.mp hl'] at hl; cases hl
    | error kind => rfl

theorem find?_file {mode : Nat} (h : Within files dirs t t') (hp : p.place ∉ files)
    (hf : t.find? p = some (.file bytes mode)) : t'.find? p = some (.file bytes mode) := by
  obtain ⟨hl, hn⟩ := find?_eq_file.mp hf
  exact find?_eq_file.mpr ⟨h.locate hl, (h.file hp).mpr hn⟩

theorem read (h : Within files dirs t t') (hp : p.place ∉ files) (hr : t.read p = .ok bytes) :
    t'.read p = .ok bytes := by
  obtain ⟨hl, mode, hn⟩ := read_eq_ok.mp hr
  exact read_eq_ok.mpr ⟨h.locate hl, mode, (h.file hp).mpr hn⟩

theorem isFile (h : Within files dirs t t') (hp : p.place ∉ files) (hf : t.isFile p = true) :
    t'.isFile p = true := by
  obtain ⟨hl, hn⟩ := isFile_iff.mp hf
  exact isFile_iff.mpr ⟨h.locate hl, (h.holdsFile hp).mpr hn⟩

end Within

/-! ## Files in a directory -/

theorem isFile_child {d : Path} (hd : t.isDirectory d = true) {name : String} (hname : isPart name = true) :
    t.isFile (d.child name) = true ↔ t.HoldsFile (d.child name).place := by
  rw [isFile_iff]
  exact and_iff_right (locate_child hd hname)

theorem read_child {d : Path} (hd : t.isDirectory d = true) {name : String} (hname : isPart name = true) :
    t.read (d.child name) = .ok bytes ↔ t.Holds (d.child name).place bytes := by
  rw [read_eq_ok]
  exact and_iff_right (locate_child hd hname)

theorem holds_of_read (h : t.read p = .ok bytes) : t.Holds p.place bytes := (read_eq_ok.mp h).2

theorem Holds.holdsFile (h : t.Holds l bytes) : t.HoldsFile l := ⟨bytes, h⟩

theorem Holds.unique {bytes' : Bytes} (h : t.Holds l bytes) (h' : t.Holds l bytes') :
    bytes = bytes' := by
  obtain ⟨mode, h⟩ := h
  obtain ⟨mode', h'⟩ := h'
  rw [h, Option.some.injEq, Node.file.injEq] at h'
  exact h'.1

/-! ## The operations -/

theorem isAnchor_of_node_ne (h : t.node? l ≠ some .directory) : isAnchor l = false := by
  by_contra ha
  rw [Bool.not_eq_false] at ha
  exact h (by simp [node?, ha])

theorem node?_put_of (h : t.node? l ≠ some .directory) (n : Node) (m : Location) :
    (t.put l n).node? m = if m = l then some n else t.node? m :=
  node?_put t l m n (isAnchor_of_node_ne h)

theorem node?_erase_of (h : t.node? l ≠ some .directory) (m : Location) :
    (t.erase l).node? m = if m = l then none else t.node? m :=
  node?_erase t l m (isAnchor_of_node_ne h)

/-- A change of one place where there is no directory, neither before nor after. -/
theorem within_of_file (h : t.node? l ≠ some .directory) (h' : t'.node? l ≠ some .directory)
    (hne : ∀ m, m ≠ l → t'.node? m = t.node? m) : Within {l} ∅ t t' := by
  refine ⟨fun {m} hm => ?_, fun {m} hm => ?_, fun {m} hm => by rw [hne m hm]⟩
  · rw [hne m (by rintro rfl; exact h hm)]
    exact hm
  · rw [hne m (by rintro rfl; exact h' hm)] at hm
    exact .inl hm

theorem put_file_within {mode : Nat} (h : t.node? l ≠ some .directory) :
    Within {l} ∅ t (t.put l (.file bytes mode)) := by
  refine within_of_file h ?_ fun m hm => ?_
  · rw [node?_put_of h, if_pos rfl]
    simp
  · rw [node?_put_of h, if_neg hm]

theorem of_write (h : t.write p bytes = .ok t') :
    t.locate p = .ok p.place ∧ t.node? p.place ≠ some .directory ∧
      ∃ mode, t' = t.put p.place (.file bytes mode) := by
  unfold write at h
  split at h
  · cases h
  next l hl =>
    obtain rfl := locate_ok hl
    refine ⟨hl, ?_⟩
    split at h
    next mode hn => exact ⟨by simp [hn], mode, (Except.ok.inj h).symm⟩
    next => cases h
    next hn => exact ⟨by simp [hn], newFileMode, (Except.ok.inj h).symm⟩

theorem write_within (h : t.write p bytes = .ok t') : Within {p.place} ∅ t t' := by
  obtain ⟨-, hn, mode, rfl⟩ := of_write h
  exact put_file_within hn

theorem read_write (h : t.write p bytes = .ok t') : t'.read p = .ok bytes := by
  have hw := write_within h
  obtain ⟨hl, hn, mode, rfl⟩ := of_write h
  refine read_eq_ok.mpr ⟨hw.locate hl, mode, ?_⟩
  rw [node?_put_of hn, if_pos rfl]

theorem of_setMode {mode : Nat} (h : t.setMode p mode = .ok t') :
    t' = t ∨ ∃ bytes old, t.node? p.place = some (.file bytes old) ∧
      t' = t.put p.place (.file bytes mode) := by
  unfold setMode at h
  split at h
  · cases h
  next l hl =>
    obtain rfl := locate_ok hl
    split at h
    next bytes old hn => exact .inr ⟨bytes, old, hn, (Except.ok.inj h).symm⟩
    next => exact .inl (Except.ok.inj h).symm
    next => cases h

theorem setMode_within {mode : Nat} (h : t.setMode p mode = .ok t') : Within {p.place} ∅ t t' := by
  obtain rfl | ⟨bytes, old, hn, rfl⟩ := of_setMode h
  · exact .refl _ _ _
  · exact put_file_within (by simp [hn])

/-- A change of modes changes no content. -/
theorem read_setMode {mode : Nat} {q : Path} (h : t.setMode p mode = .ok t')
    (hr : t.read q = .ok bytes) : t'.read q = .ok bytes := by
  have hw := setMode_within h
  obtain rfl | ⟨content, old, hn, rfl⟩ := of_setMode h
  · exact hr
  · obtain ⟨hl, m, hq⟩ := read_eq_ok.mp hr
    refine read_eq_ok.mpr ⟨hw.locate hl, ?_⟩
    rw [node?_put_of (by simp [hn])]
    split
    next he =>
      rw [he, hn] at hq
      simp only [Option.some.injEq, Node.file.injEq] at hq
      exact ⟨mode, by rw [hq.1]⟩
    next => exact ⟨m, hq⟩

/-- A file that is there has the mode that it is given. -/
theorem find?_setMode {mode : Nat} (h : t.setMode p mode = .ok t') (hr : t.read p = .ok bytes) :
    t'.find? p = some (.file bytes mode) := by
  have hw := setMode_within h
  obtain ⟨hl, old, hn⟩ := read_eq_ok.mp hr
  refine find?_eq_file.mpr ⟨hw.locate hl, ?_⟩
  have ht : t' = t.put p.place (.file bytes mode) := by
    unfold setMode at h
    rw [hl] at h
    simp only [hn] at h
    exact (Except.ok.inj h).symm
  rw [ht, node?_put_of (by simp [hn]), if_pos rfl]

theorem HoldsFile.node_ne (h : t.HoldsFile l) : t.node? l ≠ some .directory := by
  obtain ⟨bytes, mode, hn⟩ := h
  simp [hn]

theorem erase_within (h : t.HoldsFile l) : Within {l} ∅ t (t.erase l) := by
  refine within_of_file h.node_ne ?_ fun m hm => ?_
  · rw [node?_erase_of h.node_ne, if_pos rfl]
    simp
  · rw [node?_erase_of h.node_ne, if_neg hm]

theorem of_unlink (h : t.unlink p = .ok t') :
    t.locate p = .ok p.place ∧ t.HoldsFile p.place ∧ t' = t.erase p.place := by
  unfold unlink at h
  split at h
  · cases h
  next l hl =>
    obtain rfl := locate_ok hl
    split at h
    next bytes mode hn => exact ⟨hl, ⟨bytes, mode, hn⟩, (Except.ok.inj h).symm⟩
    next => cases h
    next => cases h

theorem unlink_of_isFile (h : t.isFile p = true) : t.unlink p = .ok (t.erase p.place) := by
  obtain ⟨hl, bytes, mode, hn⟩ := isFile_iff.mp h
  simp [unlink, hl, hn]

theorem unlinkIfPresent_within (h : t.unlinkIfPresent p = .ok t') : Within {p.place} ∅ t t' := by
  unfold unlinkIfPresent at h
  split at h
  · exact .of_eq (Except.ok.inj h).symm
  · obtain ⟨-, hf, rfl⟩ := of_unlink h
    exact erase_within hf

theorem isFile_unlinkIfPresent (h : t.unlinkIfPresent p = .ok t') : t'.isFile p = false := by
  unfold unlinkIfPresent at h
  refine Bool.eq_false_iff.mpr fun hf => ?_
  split at h
  next q hnone =>
    obtain rfl := Except.ok.inj h
    rw [unlink_of_isFile hf] at hnone
    cases hnone
  · obtain ⟨-, hheld, rfl⟩ := of_unlink h
    obtain ⟨-, bytes, mode, hn⟩ := isFile_iff.mp hf
    rw [node?_erase_of hheld.node_ne, if_pos rfl] at hn
    cases hn

/-! ## Files that cannot be removed -/

/-- What is at `p` cannot be removed: it is a directory, or a file stands on the way to it. -/
def Obstructed (t : Tree) (p : Path) : Prop :=
  t.isDirectory p = true ∨ t.locate p = .error .notDirectory

theorem follow_error {l : Location} {ns : List String} {kind : FileFault.Kind}
    (h : t.follow l ns = .error kind) : kind = .notFound ∨ kind = .notDirectory := by
  induction ns generalizing l with
  | nil => cases h
  | cons n ns ih =>
    unfold follow at h
    split at h
    · exact .inl (Except.error.inj h).symm
    · exact .inr (Except.error.inj h).symm
    · exact ih h

theorem unlinkIfPresent_error {fault : FileFault} (h : t.unlinkIfPresent p = .error fault) :
    t.Obstructed p ∧ fault.path = p := by
  unfold unlinkIfPresent at h
  split at h
  · cases h
  next hnone =>
    unfold unlink at h hnone
    split at h
    next kind hl =>
      obtain rfl := Except.error.inj h
      refine ⟨.inr ?_, rfl⟩
      obtain rfl | rfl := follow_error hl
      · exact absurd (by rw [hl]) (hnone p)
      · exact hl
    next l hl =>
      obtain rfl := locate_ok hl
      split at h
      · cases h
      next hn =>
        obtain rfl := Except.error.inj h
        exact ⟨.inl (isDirectory_iff.mpr ⟨hl, hn⟩), rfl⟩
      next hn => exact absurd (by rw [hl]; simp [hn]) (hnone p)

theorem unlinkIfPresent_of_obstructed (h : t.Obstructed p) : ∃ fault, t.unlinkIfPresent p = .error fault := by
  unfold unlinkIfPresent unlink
  obtain h | h := h
  · obtain ⟨hl, hn⟩ := isDirectory_iff.mp h
    exact ⟨⟨.isDirectory, p⟩, by simp [hl, hn]⟩
  · exact ⟨⟨.notDirectory, p⟩, by simp [h]⟩

theorem find?_eq_none_iff : t.find? p = none ↔ t.isFile p = false ∧ t.isDirectory p = false := by
  unfold isFile isDirectory
  rcases t.find? p with _ | _ | _ <;> simp

theorem isDirectory_of_isFile (h : t.isFile p = true) : t.isDirectory p = false := by
  revert h
  unfold isFile isDirectory
  rcases t.find? p with _ | _ | _ <;> simp

/-- What is no directory is gone when it was removed. -/
theorem find?_unlinkIfPresent (hd : t.isDirectory p = false) (h : t.unlinkIfPresent p = .ok t') :
    t'.find? p = none :=
  find?_eq_none_iff.mpr ⟨isFile_unlinkIfPresent h, by rw [(unlinkIfPresent_within h).isDirectory_eq, hd]⟩

/-- What is no directory cannot be removed only where a file stands on the way to it. -/
theorem locate_of_unlinkIfPresent_error {fault : FileFault} (hd : t.isDirectory p = false)
    (h : t.unlinkIfPresent p = .error fault) : t.locate p = .error .notDirectory :=
  (unlinkIfPresent_error h).1.resolve_left (Bool.eq_false_iff.mp hd)

theorem find?_of_locate_error {kind : FileFault.Kind} (h : t.locate p = .error kind) : t.find? p = none := by
  rw [find?, h]

/-- Removing one file of a directory neither obstructs nor frees another. -/
theorem obstructed_sibling {d : Path} {m n : String} (hm : isPart m = true) (hn : isPart n = true)
    (h : t.unlinkIfPresent (d.child m) = .ok t') :
    t'.Obstructed (d.child n) ↔ t.Obstructed (d.child n) := by
  have hw := unlinkIfPresent_within h
  unfold Obstructed
  rw [hw.isDirectory_eq]
  refine or_congr_right ?_
  unfold unlinkIfPresent at h
  split at h
  · rw [Except.ok.inj h]
  · obtain ⟨hl, -, -⟩ := of_unlink h
    have hd := isDirectory_of_locate_child hm hl
    rw [locate_child hd hn, locate_child (hw.isDirectory hd) hn]

/-! ## Directories -/

end Tree

namespace Path

/-- The places of `p` and of the directories above it. -/
def above (p : Path) : Set Location := {l | ∃ n, l = (⟨p.anchor, p.parts.take n⟩ : Path).place}

theorem place_mem_above (p : Path) : p.place ∈ p.above :=
  ⟨p.parts.names.length, by rw [Parts.take_of_length_le le_rfl]⟩

theorem above_parent_subset (p : Path) : p.parent.above ⊆ p.above := by
  rintro l ⟨n, rfl⟩
  exact ⟨_, by rw [parent, Parts.take_dropLast]⟩

end Path

namespace Tree

variable {files dirs : Set Location} {t t' : Tree} {p : Path}

theorem of_makeDirectory (h : t.makeDirectory p = .ok t') :
    t.locate p = .ok p.place ∧ t.node? p.place = none ∧ t' = t.put p.place .directory := by
  unfold makeDirectory at h
  split at h
  · cases h
  next l hl =>
    obtain rfl := locate_ok hl
    split at h
    next => cases h
    next hn => exact ⟨hl, hn, (Except.ok.inj h).symm⟩

theorem makeDirectory_within (h : t.makeDirectory p = .ok t') : Within ∅ {p.place} t t' := by
  obtain ⟨-, hn, rfl⟩ := of_makeDirectory h
  have hput := node?_put_of (t := t) (l := p.place) (by simp [hn]) .directory
  refine ⟨fun {m} hm => ?_, fun {m} hm => ?_, fun {m} _ => ?_⟩
  · rw [hput]
    split
    · rfl
    · exact hm
  · rw [hput] at hm
    split at hm
    next he => exact .inr he
    next => exact .inl hm
  · rw [hput]
    split
    next he => simp [he, hn]
    next => exact Iff.rfl

theorem isDirectory_makeDirectory (h : t.makeDirectory p = .ok t') : t'.isDirectory p = true := by
  have hw := makeDirectory_within h
  obtain ⟨hl, hn, rfl⟩ := of_makeDirectory h
  refine isDirectory_iff.mpr ⟨hw.locate hl, ?_⟩
  rw [node?_put_of (by simp [hn]), if_pos rfl]

theorem makeDirectories_within (t : Tree) (p : Path) : Within ∅ p.above t (t.makeDirectories p).1 := by
  have hone {t t' : Tree} {p : Path} (h : t.makeDirectory p = .ok t') : Within ∅ p.above t t' :=
    (makeDirectory_within h).mono subset_rfl (Set.singleton_subset_iff.mpr p.place_mem_above)
  fun_induction makeDirectories t p with
  | case1 p t' h => exact hone h
  | case2 => exact .refl _ _ _
  | case3 p q h hp t' fault hrec ih =>
    rw [hrec] at ih
    exact ih.mono subset_rfl p.above_parent_subset
  | case4 p q h hp t' hrec t'' hmade ih =>
    rw [hrec] at ih
    exact (ih.mono subset_rfl p.above_parent_subset).trans (hone hmade)
  | case5 p q h hp t' hrec fault hmade ih =>
    rw [hrec] at ih
    exact ih.mono subset_rfl p.above_parent_subset
  | case6 => exact .refl _ _ _

theorem isDirectory_makeDirectories (h : (t.makeDirectories p).2 = .ok ()) :
    (t.makeDirectories p).1.isDirectory p = true := by
  have hcheck {t : Tree} {fault : FileFault}
      (h : (if t.isDirectory p = true then .ok () else .error fault : Except FileFault Unit) = .ok ()) :
      t.isDirectory p = true := by
    by_contra hd
    rw [if_neg hd] at h
    cases h
  revert h
  fun_cases makeDirectories t p with
  | case1 t' hm => exact fun _ => isDirectory_makeDirectory hm
  | case2 => exact fun h => nomatch h
  | case3 => exact fun h => nomatch h
  | case4 q hm hp t' hrec t'' hmade => exact fun _ => isDirectory_makeDirectory hmade
  | case5 => exact hcheck
  | case6 => exact hcheck

/-- Where making a directory fails there is none. -/
theorem not_isDirectory_makeDirectories {fault : FileFault} (h : (t.makeDirectories p).2 = .error fault) :
    (t.makeDirectories p).1.isDirectory p = false := by
  have hcheck {t : Tree} {p : Path} {fault fault' : FileFault}
      (h : (if t.isDirectory p = true then .ok () else .error fault : Except FileFault Unit) = .error fault') :
      t.isDirectory p = false := by
    by_contra hd
    rw [Bool.not_eq_false] at hd
    rw [if_pos hd] at h
    cases h
  fun_induction makeDirectories t p with
  | case1 => cases h
  | case2 p q hm =>
    refine Bool.eq_false_iff.mpr fun hd => ?_
    obtain ⟨hl, hn⟩ := isDirectory_iff.mp hd
    simp [makeDirectory, hl, hn] at hm
  | case3 p q hm hp t' fault' hrec ih =>
    rw [hrec] at ih
    refine Bool.eq_false_iff.mpr fun hd => ?_
    -- a directory is in a directory, and the one above could not be made
    rw [← p.parent_child_getLast hp] at hd
    have hparent := isDirectory_of_locate_child (p.isPart_getLast hp) (isDirectory_iff.mp hd).1
    exact Bool.false_ne_true ((ih h).symm.trans hparent)
  | case4 => cases h
  | case5 => exact hcheck h
  | case6 => exact hcheck h

/-- Nothing is found in what is no directory. -/
theorem find?_child {d : Path} (hd : t.isDirectory d = false) {name : String} (hname : isPart name = true) :
    t.find? (d.child name) = none := by
  unfold find?
  split
  next l hl => exact absurd (isDirectory_of_locate_child hname hl) (by simp [hd])
  next => rfl

/-- In a directory only another directory stands in the way of a file. -/
theorem isDirectory_of_write_error {d : Path} {name : String} {bytes : Bytes} {fault : FileFault}
    (hname : isPart name = true) (hd : t.isDirectory d = true) (h : t.write (d.child name) bytes = .error fault) :
    t.isDirectory (d.child name) = true := by
  have hl := locate_child hd hname
  refine isDirectory_iff.mpr ⟨hl, ?_⟩
  unfold write at h
  rw [hl] at h
  dsimp only at h
  split at h
  next => cases h
  next hn => exact hn
  next => cases h

theorem setMode_of_isFile (h : t.isFile p = true) (mode : Nat) : ∃ t', t.setMode p mode = .ok t' := by
  obtain ⟨hl, bytes, old, hn⟩ := isFile_iff.mp h
  exact ⟨_, by simp only [setMode, hl, hn]; rfl⟩

/-- A directory that is there is not made again. -/
theorem makeDirectories_of_isDirectory (h : t.isDirectory p = true) :
    t.makeDirectories p = (t, .ok ()) := by
  obtain ⟨hl, hn⟩ := isDirectory_iff.mp h
  unfold makeDirectories
  simp [makeDirectory, hl, hn, h]

theorem isDirectory_parent (h : t.isFile p = true) : t.isDirectory p.parent = true := by
  have hp : p.parts.names ≠ [] := by
    intro hnil
    obtain ⟨-, bytes, mode, hn⟩ := isFile_iff.mp h
    -- the working directory and the root are no files
    have hanchor : isAnchor p.place = true := by
      unfold Path.place
      rw [hnil]
      by_cases ha : p.anchor = .relative <;> simp [ha, isAnchor]
    simp [node?, hanchor] at hn
  rw [← p.parent_child_getLast hp] at h
  exact isDirectory_of_isFile_child (p.isPart_getLast hp) h

/-- A directory that can be reached is in directories all the way. -/
theorem node?_above (h : t.isDirectory p = true) {l : Location} (hl : l ∈ p.above) :
    t.node? l = some .directory := by
  induction hk : p.parts.names.length generalizing p with
  | zero =>
    obtain ⟨n, rfl⟩ := hl
    rw [Parts.take_of_length_le (by omega)]
    exact (isDirectory_iff.mp h).2
  | succ k ih =>
    have hp : p.parts.names ≠ [] := List.ne_nil_of_length_eq_add_one hk
    obtain ⟨n, rfl⟩ := hl
    by_cases hn : p.parts.names.length ≤ n
    · rw [Parts.take_of_length_le hn]
      exact (isDirectory_iff.mp h).2
    · rw [← p.parent_child_getLast hp] at h
      have hparent := isDirectory_of_locate_child (p.isPart_getLast hp) (isDirectory_iff.mp h).1
      refine ih hparent ⟨n, ?_⟩ (by simp [Path.parent, hk])
      rw [Path.parent, Parts.take_dropLast, Nat.min_eq_left (by omega)]

/-- Above a directory that is there no directory is made. -/
theorem Within.of_isDirectory {files : Set Location} (h : Within files p.above t t')
    (hd : t.isDirectory p = true) : Within files ∅ t t' :=
  ⟨h.directory, fun hl => .inl ((h.made hl).elim id (node?_above hd)), h.file⟩

end Tree

end ServiceTrust
