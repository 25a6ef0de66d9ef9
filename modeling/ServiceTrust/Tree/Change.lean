import ServiceTrust.Tree

/-!
The steps that lead from one tree to a later one.
-/
namespace ServiceTrust.Tree

inductive Change where
  | removed (place : Location)
  | directory (place : Location)
  | file (place : Location) (bytes : Bytes) (mode : Nat)
  deriving DecidableEq, Repr

/-- The step that puts `n` at `l`. -/
def Change.ofNode (l : Location) : Node → Change
  | .file bytes mode => .file l bytes mode
  | .directory => .directory l

/-- Removals, and after them what is new or different, in the order in which it was made. -/
def changes (old new : Tree) : List Change :=
  (old.entries.filterMap fun (l, _) =>
    if (new.node? l).isNone then some (.removed l) else none) ++
  (new.entries.filterMap fun (l, n) =>
    if old.node? l = some n then none else some (.ofNode l n))

/-- A directory, with all directories above it. -/
def putDirectories (t : Tree) (l : Location) : Tree :=
  (List.range l.length).foldl (fun t n => t.put (l.take (n + 1)) .directory) t

end ServiceTrust.Tree
