/-
Paths and their texts. The names of a path are ones that can stand between slashes, so a path is
read back from its own text, and what another program is told about a file by its text is that file.
The entries of a directory are its path with one name more.
-/
import ServiceTrust.Path
import Mathlib.Data.List.Basic

namespace ServiceTrust

/-! ## Names -/

theorem isPart_iff {s : String} : isPart s = true ↔ s ≠ "" ∧ s ≠ "." ∧ '/' ∉ s.toList := by
  simp [isPart, and_assoc]

theorem isName_iff {s : String} :
    isName s = true ↔ s ≠ "" ∧ s ≠ "." ∧ s ≠ ".." ∧ '/' ∉ s.toList := by
  rw [isName, Bool.and_eq_true, isPart_iff, decide_eq_true_eq]
  tauto

theorem isPart_of_isName {s : String} (h : isName s = true) : isPart s = true :=
  (Bool.and_eq_true_iff.mp h).1

namespace Parts

theorem names_ofNames {names : List String} (h : ∀ name ∈ names, isPart name = true) :
    (ofNames names).names = names :=
  List.filter_eq_self.mpr h

theorem take_of_length_le {ps : Parts} {n : Nat} (h : ps.names.length ≤ n) : ps.take n = ps :=
  ext_names (List.take_of_length_le h)

theorem take_dropLast (ps : Parts) (n : Nat) : ps.dropLast.take n = ps.take (min n (ps.names.length - 1)) :=
  ext_names (by simp [List.dropLast_eq_take, List.take_take])

end Parts

namespace Path

/-! ## Texts between slashes -/

theorem splitFrom_name (acc : List Char) {name : List Char} (h : '/' ∉ name) :
    splitFrom acc name = [.ofList (acc.reverse ++ name)] := by
  induction name generalizing acc with
  | nil => simp [splitFrom]
  | cons c cs ih =>
    obtain ⟨hc, hcs⟩ := not_or.mp (List.mem_cons.not.mp h)
    rw [splitFrom, if_neg (Ne.symm hc), ih _ hcs]
    simp

theorem splitFrom_append (acc : List Char) {name : List Char} (h : '/' ∉ name) (cs : List Char) :
    splitFrom acc (name ++ '/' :: cs) = .ofList (acc.reverse ++ name) :: splitFrom [] cs := by
  induction name generalizing acc with
  | nil => simp [splitFrom]
  | cons c name ih =>
    obtain ⟨hc, hcs⟩ := not_or.mp (List.mem_cons.not.mp h)
    rw [List.cons_append, splitFrom, if_neg (Ne.symm hc), ih _ hcs]
    simp

/-- The characters of the names with slashes between them. -/
def textOf (names : List String) : List Char := ("/".intercalate names).toList

theorem textOf_cons (name : String) {names : List String} (h : names ≠ []) :
    textOf (name :: names) = name.toList ++ '/' :: textOf names := by
  simp [textOf, String.intercalate_cons_of_ne_nil h]

theorem splitFrom_textOf {names : List String} (h : ∀ name ∈ names, '/' ∉ name.toList)
    (hne : names ≠ []) : splitFrom [] (textOf names) = names := by
  induction names with
  | nil => exact absurd rfl hne
  | cons name names ih =>
    have hname := h name (List.mem_cons_self ..)
    by_cases hp : names = []
    · subst hp
      rw [show textOf [name] = name.toList by simp [textOf], splitFrom_name _ hname]
      simp
    · rw [textOf_cons name hp, splitFrom_append _ hname,
        ih (fun m hm => h m (List.mem_cons_of_mem _ hm)) hp]
      simp

theorem textOf_ne (p : Path) (cs : List Char) : textOf p.parts.names ≠ '/' :: cs := by
  have hproper := p.parts.proper
  generalize p.parts.names = names at hproper ⊢
  rcases names with _ | ⟨name, names⟩
  · simp [textOf]
  · obtain ⟨hne, -, hslash⟩ := isPart_iff.mp (hproper name (List.mem_cons_self ..))
    have hchars : name.toList ≠ [] := by simpa using hne
    obtain ⟨c, rest, hc⟩ := List.exists_cons_of_ne_nil hchars
    intro he
    have hhead : (textOf (name :: names)).head? = some c := by
      by_cases hq : names = []
      · subst hq
        simp [textOf, hc]
      · simp [textOf_cons name hq, hc]
    rw [he] at hhead
    obtain rfl := Option.some.inj hhead
    exact hslash (hc ▸ List.mem_cons_self ..)

theorem anchorOf_textOf (p : Path) (a : Anchor) :
    anchorOf (a.text.toList ++ textOf p.parts.names) = a := by
  have hne := p.textOf_ne
  generalize textOf p.parts.names = text at hne ⊢
  rcases text with _ | ⟨c, cs⟩
  · cases a <;> rfl
  · have hc : c ≠ '/' := fun hc => hne cs (hc ▸ rfl)
    cases a <;> simp [Anchor.text, anchorOf, hc]

theorem parts_textOf (p : Path) (a : Anchor) :
    Parts.ofNames (splitFrom [] (a.text.toList ++ textOf p.parts.names)) = p.parts := by
  apply Parts.ext_names
  show (splitFrom [] _).filter isPart = _
  have hroot (cs : List Char) :
      (splitFrom [] ('/' :: cs)).filter isPart = (splitFrom [] cs).filter isPart := rfl
  have hslash : ∀ name ∈ p.parts.names, '/' ∉ name.toList := fun name hm =>
    (isPart_iff.mp (p.parts.proper name hm)).2.2
  have hnames : (splitFrom [] (textOf p.parts.names)).filter isPart = p.parts.names := by
    by_cases hp : p.parts.names = []
    · rw [hp]
      rfl
    · rw [splitFrom_textOf hslash hp]
      exact Parts.names_ofNames p.parts.proper
  cases a with
  | relative => exact hnames
  | root => exact (hroot _).trans hnames
  | doubleRoot => exact ((hroot _).trans (hroot _)).trans hnames

/-- A path is read back from its text. -/
theorem ofString_toString (p : Path) : ofString p.toString = p := by
  have htext : p.toString.toList = p.anchor.text.toList ++ textOf p.parts.names ∨
      p.toString = "." ∧ p.anchor = .relative ∧ p.parts.names = [] := by
    unfold toString
    split
    next ha hp => exact .inr ⟨rfl, ha, hp⟩
    next => exact .inl (by simp [textOf])
  obtain ht | ⟨ht, ha, hp⟩ := htext
  · unfold ofString
    rw [ht, anchorOf_textOf, parts_textOf]
  · rw [ht]
    obtain ⟨a, parts⟩ := p
    obtain rfl : a = .relative := ha
    exact congrArg (Path.mk _) (Parts.ext_names hp.symm)

/-! ## Entries of a directory -/

theorem ofString_part {name : String} (h : isPart name = true) :
    ofString name = ⟨.relative, ⟨[name], by simpa using h⟩⟩ := by
  have hself := ofString_toString ⟨.relative, ⟨[name], by simpa using h⟩⟩
  rwa [show toString ⟨.relative, ⟨[name], _⟩⟩ = name by simp [toString, Anchor.text]] at hself

/-- An entry is what its name is as a path, seen from the directory. -/
theorem child_eq_append (p : Path) (name : String) : p.child name = p.append (ofString name) := by
  unfold child
  split
  next h =>
    rw [ofString_part h]
    rfl
  next => rfl

theorem names_child (p : Path) {name : String} (h : isPart name = true) :
    (p.child name).parts.names = p.parts.names ++ [name] := by
  rw [child, dif_pos h, Parts.names_snoc]

theorem anchor_child (p : Path) {name : String} (h : isPart name = true) :
    (p.child name).anchor = p.anchor := by
  rw [child, dif_pos h]

theorem ext_names {p q : Path} (ha : p.anchor = q.anchor) (hn : p.parts.names = q.parts.names) : p = q := by
  obtain ⟨a, ps⟩ := p
  obtain ⟨b, qs⟩ := q
  exact Path.mk.injEq .. ▸ ⟨ha, Parts.ext_names hn⟩

theorem parent_child (p : Path) {name : String} (h : isPart name = true) : (p.child name).parent = p := by
  refine ext_names (p.anchor_child h) ?_
  rw [parent, Parts.names_dropLast, p.names_child h, List.dropLast_concat]

theorem isPart_getLast (p : Path) (h : p.parts.names ≠ []) : isPart (p.parts.names.getLast h) = true :=
  p.parts.proper _ (List.getLast_mem h)

theorem parent_child_getLast (p : Path) (h : p.parts.names ≠ []) :
    p.parent.child (p.parts.names.getLast h) = p := by
  have hlast := p.isPart_getLast h
  refine ext_names (anchor_child _ hlast) ?_
  rw [names_child _ hlast]
  exact List.dropLast_append_getLast h

/-- Different names are different entries. -/
theorem child_inj (p : Path) {m n : String} (hm : isPart m = true) (hn : isPart n = true) :
    p.child m = p.child n ↔ m = n := by
  refine ⟨fun h => ?_, fun h => h ▸ rfl⟩
  have hnames := congrArg (·.parts.names) h
  simpa [names_child, hm, hn] using hnames

end Path

end ServiceTrust
