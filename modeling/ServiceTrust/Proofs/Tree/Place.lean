/-
Where a path leads. Following a path is one walk over names that no tree takes part in
(`Path.place`); the tree only decides whether the walk may go on. So two paths mean the same file
exactly when their places are equal, a path that can be followed stays so while directories stay,
and the entries of a directory are the places one name below it.
-/
import ServiceTrust.Tree
import ServiceTrust.Proofs.Path

namespace ServiceTrust

namespace Path

/-- The place that a path leads to in every tree in which it can be followed. -/
def place (p : Path) : Location :=
  p.parts.names.foldl Tree.step (if p.anchor = .relative then [] else ["/"])

theorem place_child (p : Path) {name : String} (h : isPart name = true) :
    (p.child name).place = Tree.step p.place name := by
  unfold place
  rw [p.names_child h, p.anchor_child h, List.foldl_concat]

theorem step_name {l : Location} {name : String} (h : isName name = true) :
    Tree.step l name = l ++ [name] := by
  simp [Tree.step, (isName_iff.mp h).2.2.1]

theorem place_child_name (p : Path) {name : String} (h : isName name = true) :
    (p.child name).place = p.place ++ [name] := by
  rw [p.place_child (isPart_of_isName h), step_name h]

theorem place_child_inj {p q : Path} {m n : String} (hm : isName m = true) (hn : isName n = true) :
    (p.child m).place = (q.child n).place ↔ p.place = q.place ∧ m = n := by
  rw [place_child_name p hm, place_child_name q hn]
  simp

end Path

namespace Tree

/-! ## Following names -/

theorem follow_ok {t : Tree} {ns : List String} {l m : Location} (h : t.follow l ns = .ok m) :
    m = ns.foldl step l := by
  induction ns generalizing l with
  | nil => simpa [follow] using h.symm
  | cons n ns ih =>
    unfold follow at h
    split at h
    · simp at h
    · simp at h
    · exact ih h

theorem locate_ok {t : Tree} {p : Path} {l : Location} (h : t.locate p = .ok l) : l = p.place :=
  follow_ok h

theorem follow_append (t : Tree) (l : Location) (ns ms : List String) :
    t.follow l (ns ++ ms) = (t.follow l ns).bind fun m => t.follow m ms := by
  induction ns generalizing l with
  | nil => rfl
  | cons n ns ih =>
    rw [List.cons_append, follow, follow]
    split
    · rfl
    · rfl
    · exact ih _

theorem locate_child_eq (t : Tree) (d : Path) {name : String} (h : isPart name = true) :
    t.locate (d.child name) = (t.locate d).bind fun l => t.follow l [name] := by
  unfold locate
  rw [d.names_child h, d.anchor_child h, follow_append]

theorem isDirectory_iff {t : Tree} {p : Path} :
    t.isDirectory p = true ↔ t.locate p = .ok p.place ∧ t.node? p.place = some .directory := by
  unfold isDirectory find?
  cases h : t.locate p with
  | error kind => simp
  | ok l =>
    obtain rfl := locate_ok h
    simp

theorem isFile_iff {t : Tree} {p : Path} :
    t.isFile p = true ↔
      t.locate p = .ok p.place ∧ ∃ bytes mode, t.node? p.place = some (.file bytes mode) := by
  unfold isFile find?
  cases h : t.locate p with
  | error kind => simp
  | ok l =>
    obtain rfl := locate_ok h
    cases hn : t.node? p.place with
    | none => simp [hn]
    | some n => cases n <;> simp [hn]

theorem read_eq_ok {t : Tree} {p : Path} {bytes : Bytes} :
    t.read p = .ok bytes ↔
      t.locate p = .ok p.place ∧ ∃ mode, t.node? p.place = some (.file bytes mode) := by
  unfold read
  cases h : t.locate p with
  | error kind => simp
  | ok l =>
    obtain rfl := locate_ok h
    cases hn : t.node? p.place with
    | none => simp [hn]
    | some n => cases n <;> simp [hn]

theorem isFile_iff_read {t : Tree} {p : Path} : t.isFile p = true ↔ ∃ bytes, t.read p = .ok bytes := by
  rw [isFile_iff]
  constructor
  · rintro ⟨hl, bytes, mode, hn⟩
    exact ⟨bytes, read_eq_ok.mpr ⟨hl, mode, hn⟩⟩
  · rintro ⟨bytes, h⟩
    obtain ⟨hl, mode, hn⟩ := read_eq_ok.mp h
    exact ⟨hl, bytes, mode, hn⟩

/-- In a directory every name can be looked up. -/
theorem locate_child {t : Tree} {d : Path} (h : t.isDirectory d = true) {name : String}
    (hname : isPart name = true) : t.locate (d.child name) = .ok (d.child name).place := by
  obtain ⟨hl, hn⟩ := isDirectory_iff.mp h
  rw [locate_child_eq t d hname, hl, d.place_child hname]
  simp [Except.bind, follow, hn]

theorem isDirectory_of_locate_child {t : Tree} {d : Path} {name : String} {l : Location}
    (hname : isPart name = true) (h : t.locate (d.child name) = .ok l) : t.isDirectory d = true := by
  rw [locate_child_eq t d hname] at h
  cases hl : t.locate d with
  | error kind => simp [hl, Except.bind] at h
  | ok m =>
    obtain rfl := locate_ok hl
    refine isDirectory_iff.mpr ⟨hl, ?_⟩
    simp only [hl, Except.bind, follow] at h
    split at h
    · simp at h
    · simp at h
    next hn => exact hn

theorem isDirectory_of_isFile_child {t : Tree} {d : Path} {name : String} (hname : isPart name = true)
    (h : t.isFile (d.child name) = true) : t.isDirectory d = true :=
  isDirectory_of_locate_child hname (isFile_iff.mp h).1

/-- A path that can be followed can be followed wherever the directories are still there. -/
theorem locate_mono {t t' : Tree} {p : Path} {l : Location}
    (hd : ∀ m, t.node? m = some .directory → t'.node? m = some .directory)
    (h : t.locate p = .ok l) : t'.locate p = .ok l := by
  unfold locate at h ⊢
  generalize (if p.anchor = .relative then [] else ["/"] : Location) = at_ at h
  generalize p.parts.names = ns at h
  induction ns generalizing at_ with
  | nil => exact h
  | cons n ns ih =>
    unfold follow at h ⊢
    split at h
    · simp at h
    · simp at h
    next hn => rw [hd _ hn]; exact ih _ h

/-! ## The names in a directory -/

theorem isAnchor_concat {l : Location} {name : String} (h : isName name = true) :
    isAnchor (l ++ [name]) = false := by
  have hslash : name ≠ "/" := by rintro rfl; simp [isName, isPart] at h
  cases l <;> simp [isAnchor, hslash]

theorem nameIn_eq_some {l k : Location} {name : String} :
    nameIn l k = some name ↔ isName name = true ∧ k = l ++ [name] := by
  unfold nameIn
  rw [Option.filter_eq_some_iff]
  constructor
  · rintro ⟨hk, hc⟩
    simp only [Bool.and_eq_true, decide_eq_true_eq] at hc
    refine ⟨hc.2, ?_⟩
    rw [← hc.1]
    exact (List.dropLast_append_getLast? _ hk).symm
  · rintro ⟨hn, rfl⟩
    simp [hn]

theorem lookup_isSome {es : List (Location × Node)} {k : Location} :
    (es.lookup k).isSome = true ↔ k ∈ es.map (·.1) := by
  induction es with
  | nil => simp
  | cons e es ih =>
    rw [List.lookup_cons]
    by_cases h : k = e.1
    · simp [h]
    · have : (k == e.1) = false := by simpa using h
      simp only [this, List.map_cons, List.mem_cons, h, false_or]
      exact ih

/-- The names of a directory are those that lead somewhere. -/
theorem mem_names {t : Tree} {l : Location} {name : String} :
    name ∈ t.names l ↔ isName name = true ∧ (t.node? (l ++ [name])).isSome = true := by
  unfold names
  rw [List.mem_eraseDups, List.mem_filterMap]
  constructor
  · rintro ⟨e, he, hn⟩
    obtain ⟨hname, hk⟩ := nameIn_eq_some.mp hn
    refine ⟨hname, ?_⟩
    simp only [node?, isAnchor_concat hname, Bool.false_eq_true, if_false]
    exact lookup_isSome.mpr (hk ▸ List.mem_map_of_mem he)
  · rintro ⟨hname, hs⟩
    simp only [node?, isAnchor_concat hname, Bool.false_eq_true, if_false] at hs
    obtain ⟨e, he, hk⟩ := List.mem_map.mp (lookup_isSome.mp hs)
    exact ⟨e, he, nameIn_eq_some.mpr ⟨hname, hk⟩⟩

theorem nodup_eraseDups {α : Type} [BEq α] [LawfulBEq α] (xs : List α) : xs.eraseDups.Nodup := by
  induction h : xs.length using Nat.strongRecOn generalizing xs with
  | ind n ih =>
    cases xs with
    | nil => simp
    | cons x xs =>
      rw [List.eraseDups_cons, List.nodup_cons]
      refine ⟨by simp [List.mem_eraseDups], ih _ ?_ _ rfl⟩
      have := List.length_filter_le (fun b => !b == x) xs
      simp only [List.length_cons] at h
      omega

theorem nodup_names (t : Tree) (l : Location) : (t.names l).Nodup := nodup_eraseDups _

theorem mem_sortedNames {t : Tree} {d : Path} {name : String} :
    name ∈ t.sortedNames d ↔
      t.isDirectory d = true ∧ isName name = true ∧ (t.node? (d.place ++ [name])).isSome = true := by
  unfold sortedNames
  split
  next l hl =>
    obtain rfl := locate_ok hl
    split
    next hd => simp [hd, mem_names]
    next hd => simp [hd]
  next hl => simp [isDirectory_iff, hl]

theorem sortedNames_increasing (t : Tree) (d : Path) : (t.sortedNames d).Pairwise (· < ·) := by
  unfold sortedNames
  split
  · split
    · exact ServiceTrust.sortedNames_increasing (nodup_names _ _)
    · exact .nil
  · exact .nil

theorem nodup_sortedNames (t : Tree) (d : Path) : (t.sortedNames d).Nodup :=
  (sortedNames_increasing t d).imp String.ne_of_lt

end Tree

end ServiceTrust
