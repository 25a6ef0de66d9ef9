/-!
Names in increasing order.
-/
namespace ServiceTrust

/-- Puts a name before the first one that is not smaller. -/
def insertName (name : String) : List String → List String
  | [] => [name]
  | n :: ns => if name ≤ n then name :: n :: ns else n :: insertName name ns

/-- Names in increasing order. -/
def sortedNames (ss : List String) : List String := ss.foldr insertName []

theorem insertName_perm (name : String) (ns : List String) :
    (insertName name ns).Perm (name :: ns) := by
  induction ns with
  | nil => exact .refl _
  | cons n ns ih =>
    unfold insertName
    split
    · exact .refl _
    · exact (ih.cons n).trans (.swap name n ns)

theorem sortedNames_perm (ss : List String) : (sortedNames ss).Perm ss := by
  induction ss with
  | nil => exact .refl _
  | cons s ss ih => exact (insertName_perm s _).trans (ih.cons s)

@[simp] theorem mem_sortedNames {name : String} {ss : List String} :
    name ∈ sortedNames ss ↔ name ∈ ss := (sortedNames_perm ss).mem_iff

@[simp] theorem sortedNames_eq_nil {ss : List String} : sortedNames ss = [] ↔ ss = [] :=
  ⟨fun h => by simpa [h] using (sortedNames_perm ss).symm, fun h => by rw [h]; rfl⟩

theorem sortedNames_nodup {ss : List String} (h : ss.Nodup) : (sortedNames ss).Nodup :=
  (sortedNames_perm ss).nodup_iff.mpr h

theorem insertName_pairwise {name : String} {ns : List String} (h : ns.Pairwise (· ≤ ·)) :
    (insertName name ns).Pairwise (· ≤ ·) := by
  induction ns with
  | nil => exact .cons (by simp) .nil
  | cons n ns ih =>
    obtain ⟨hn, hns⟩ := List.pairwise_cons.mp h
    unfold insertName
    split
    next hle =>
      refine .cons (fun m hm => ?_) h
      rcases List.mem_cons.mp hm with rfl | hm
      · exact hle
      · exact String.le_trans hle (hn m hm)
    next hle =>
      refine .cons (fun m hm => ?_) (ih hns)
      rcases List.mem_cons.mp ((insertName_perm name ns).mem_iff.mp hm) with rfl | hm
      · exact (String.le_total m n).resolve_left hle
      · exact hn m hm

theorem sortedNames_pairwise (ss : List String) : (sortedNames ss).Pairwise (· ≤ ·) := by
  induction ss with
  | nil => exact .nil
  | cons s ss ih => exact insertName_pairwise ih

theorem sortedNames_of_perm {ms ns : List String} (h : ms.Perm ns) : sortedNames ms = sortedNames ns :=
  ((sortedNames_perm ms).trans (h.trans (sortedNames_perm ns).symm)).eq_of_pairwise
    (fun _ _ _ _ => String.le_antisymm) (sortedNames_pairwise ms) (sortedNames_pairwise ns)

theorem sortedNames_increasing {ss : List String} (h : ss.Nodup) : (sortedNames ss).Pairwise (· < ·) := by
  refine ((sortedNames_pairwise ss).and (sortedNames_nodup h)).imp fun hle => ?_
  exact Decidable.byContradiction fun hlt => hle.2 (String.le_antisymm hle.1 (String.not_lt.mp hlt))

/-- There is one way to list names in increasing order. -/
theorem eq_of_increasing {ms ns : List String} (hm : ms.Pairwise (· < ·)) (hn : ns.Pairwise (· < ·))
    (h : ∀ name, name ∈ ms ↔ name ∈ ns) : ms = ns := by
  have hperm := (List.perm_ext_iff_of_nodup (hm.imp String.ne_of_lt) (hn.imp String.ne_of_lt)).mpr h
  exact hperm.eq_of_pairwise (fun _ _ _ _ hlt hgt => absurd hgt (String.lt_asymm hlt)) hm hn

end ServiceTrust
