/-
Trees that hold the same under every location, and so differ at most in the order in which they list it
(`Tree.SameFiles`). Whatever is looked up by a path is the same in both, and the names of a directory are the
same but for their order, which sorting them takes away.
-/
import ServiceTrust.Proofs.Lookup
import ServiceTrust.Proofs.Tree.Place
import Mathlib.Data.List.Nodup

namespace ServiceTrust.Tree

/-- The same files and directories, in whatever order they are listed. -/
def SameFiles (t t' : Tree) : Prop := ∀ l, t'.node? l = t.node? l

variable {t t' : Tree}

/-- Where each location is listed once, the order of the listing does not matter. -/
theorem sameFiles_of_perm (h : t'.entries.Perm t.entries) (hnodup : (t.entries.map (·.1)).Nodup) :
    SameFiles t t' := by
  intro l
  unfold node?
  split
  · rfl
  · exact Lookup.lookup_of_perm h.symm hnodup

namespace SameFiles

variable (h : SameFiles t t')
include h

theorem locate (p : Path) : t'.locate p = t.locate p := by
  have hfollow : ∀ l names, t'.follow l names = t.follow l names := by
    intro l names
    induction names generalizing l with
    | nil => rfl
    | cons name names ih => rw [follow, follow, h l, ih]
  exact hfollow _ _

theorem find? (p : Path) : t'.find? p = t.find? p := by
  rw [Tree.find?, Tree.find?, h.locate]
  cases t.locate p with
  | ok l => exact h l
  | error kind => rfl

theorem isFile (p : Path) : t'.isFile p = t.isFile p := by rw [Tree.isFile, Tree.isFile, h.find?]

theorem isDirectory (p : Path) : t'.isDirectory p = t.isDirectory p := by
  rw [Tree.isDirectory, Tree.isDirectory, h.find?]

theorem read (p : Path) : t'.read p = t.read p := by
  rw [Tree.read, Tree.read, h.locate]
  cases t.locate p with
  | ok l => dsimp only; rw [h l]
  | error kind => rfl

/-- The names of a directory come in any order. -/
theorem names_perm (l : Location) : (t'.names l).Perm (t.names l) :=
  (List.perm_ext_iff_of_nodup (nodup_names t' l) (nodup_names t l)).mpr fun name => by
    rw [mem_names, mem_names, h]

theorem sortedNames (d : Path) : t'.sortedNames d = t.sortedNames d := by
  unfold Tree.sortedNames
  rw [h.locate, h.isDirectory]
  cases t.locate d with
  | ok l => dsimp only; rw [sortedNames_of_perm (h.names_perm l)]
  | error kind => rfl

end SameFiles

end ServiceTrust.Tree
