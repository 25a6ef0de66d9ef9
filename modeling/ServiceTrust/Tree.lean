import ServiceTrust.Path
import ServiceTrust.Text.Sorted
import ServiceTrust.Text.Utf8

/-!
The tree of files that the program works in: a finite map from locations to files and
directories, the resolution of paths in it, and the file operations with their faults.
-/
namespace ServiceTrust

/-- What a file operation can run into. -/
inductive FileFault.Kind where
  | notFound
  | exists
  | notDirectory
  | isDirectory
  deriving DecidableEq, Repr

def FileFault.Kind.message : FileFault.Kind → String
  | notFound => "[Errno 2] No such file or directory"
  | .exists => "[Errno 17] File exists"
  | notDirectory => "[Errno 20] Not a directory"
  | isDirectory => "[Errno 21] Is a directory"

/-- A file operation that failed, with the path as the caller gave it. -/
structure FileFault where
  kind : FileFault.Kind
  path : Path
  deriving DecidableEq, Repr

def FileFault.message (f : FileFault) : String := f.kind.message ++ ": " ++ f.path.quoted

/-- A place in the tree: the names from the working directory down. Places outside of the working
directory start with a slash. -/
abbrev Location := List String

inductive Node where
  | file (bytes : Bytes) (mode : Nat)
  | directory
  deriving DecidableEq, Repr

structure Tree where
  entries : List (Location × Node) := []
  deriving DecidableEq, Repr

namespace Tree

/-- The working directory and the root are always directories. -/
def isAnchor (l : Location) : Bool := l = [] || l = ["/"]

def node? (t : Tree) (l : Location) : Option Node :=
  if isAnchor l then some .directory else t.entries.lookup l

/-- Binds `l` to `n`. -/
def put (t : Tree) (l : Location) (n : Node) : Tree :=
  ⟨t.entries.filter (·.1 ≠ l) ++ [(l, n)]⟩

def erase (t : Tree) (l : Location) : Tree := ⟨t.entries.filter (·.1 ≠ l)⟩

/-- The name of the place `k` if it is one in the directory `l`. -/
def nameIn (l k : Location) : Option String :=
  k.getLast?.filter fun name => k.dropLast = l && isName name

/-- The names of the entries of a directory, in no particular order. -/
def names (t : Tree) (l : Location) : List String :=
  (t.entries.filterMap fun e => nameIn l e.1).eraseDups

/-- One name further; a double dot goes back up, and above the working directory outside. -/
def step (at_ : Location) (name : String) : Location :=
  if name ≠ ".." then at_ ++ [name]
  else if at_ = ["/"] then at_
  else if at_.getLastD ".." = ".." then at_ ++ [".."]
  else at_.dropLast

/-- Follows names from `at_`; each name is looked up in a directory. -/
def follow (t : Tree) (at_ : Location) : List String → Except FileFault.Kind Location
  | [] => .ok at_
  | name :: names =>
    match t.node? at_ with
    | none => .error .notFound
    | some (.file _ _) => .error .notDirectory
    | some .directory => t.follow (step at_ name) names

/-- The location that a path names, whether or not something is there. -/
def locate (t : Tree) (p : Path) : Except FileFault.Kind Location :=
  t.follow (if p.anchor = .relative then [] else ["/"]) p.parts.names

/-- What a path names, if anything. -/
def find? (t : Tree) (p : Path) : Option Node :=
  match t.locate p with
  | .ok l => t.node? l
  | .error _ => none

def isFile (t : Tree) (p : Path) : Bool :=
  match t.find? p with
  | some (.file _ _) => true
  | _ => false

def isDirectory (t : Tree) (p : Path) : Bool := t.find? p = some .directory

def contains (t : Tree) (p : Path) : Bool := (t.find? p).isSome

/-- The bytes of the file at `p`. -/
def read (t : Tree) (p : Path) : Except FileFault Bytes :=
  match t.locate p with
  | .error kind => .error ⟨kind, p⟩
  | .ok l =>
    match t.node? l with
    | some (.file bytes _) => .ok bytes
    | some .directory => .error ⟨.isDirectory, p⟩
    | none => .error ⟨.notFound, p⟩

/-- The mode of a file that is made by writing it. -/
def newFileMode : Nat := 0o644

/-- Gives the file at `p` the content `bytes`; an existing file keeps its mode. -/
def write (t : Tree) (p : Path) (bytes : Bytes) : Except FileFault Tree :=
  match t.locate p with
  | .error kind => .error ⟨kind, p⟩
  | .ok l =>
    match t.node? l with
    | some (.file _ mode) => .ok (t.put l (.file bytes mode))
    | some .directory => .error ⟨.isDirectory, p⟩
    | none => .ok (t.put l (.file bytes newFileMode))

def setMode (t : Tree) (p : Path) (mode : Nat) : Except FileFault Tree :=
  match t.locate p with
  | .error kind => .error ⟨kind, p⟩
  | .ok l =>
    match t.node? l with
    | some (.file bytes _) => .ok (t.put l (.file bytes mode))
    | some .directory => .ok t
    | none => .error ⟨.notFound, p⟩

/-- Removes the file at `p`. -/
def unlink (t : Tree) (p : Path) : Except FileFault Tree :=
  match t.locate p with
  | .error kind => .error ⟨kind, p⟩
  | .ok l =>
    match t.node? l with
    | some (.file _ _) => .ok (t.erase l)
    | some .directory => .error ⟨.isDirectory, p⟩
    | none => .error ⟨.notFound, p⟩

/-- Removes the file at `p` if there is one. -/
def unlinkIfPresent (t : Tree) (p : Path) : Except FileFault Tree :=
  match t.unlink p with
  | .error ⟨.notFound, _⟩ => .ok t
  | outcome => outcome

def makeDirectory (t : Tree) (p : Path) : Except FileFault Tree :=
  match t.locate p with
  | .error kind => .error ⟨kind, p⟩
  | .ok l =>
    match t.node? l with
    | some _ => .error ⟨.exists, p⟩
    | none => .ok (t.put l .directory)

/-- Makes the directory `p` unless it is one, and the missing ones above it first. What was made
before a failure stays. -/
def makeDirectories (t : Tree) (p : Path) : Tree × Except FileFault Unit :=
  match t.makeDirectory p with
  | .ok t' => (t', .ok ())
  | .error ⟨.notFound, q⟩ =>
    if p.parts.names = [] then (t, .error ⟨.notFound, q⟩)
    else
      match makeDirectories t p.parent with
      | (t', .error fault) => (t', .error fault)
      | (t', .ok ()) =>
        match t'.makeDirectory p with
        | .ok t'' => (t'', .ok ())
        | .error fault => (t', if t'.isDirectory p then .ok () else .error fault)
  | .error fault => (t, if t.isDirectory p then .ok () else .error fault)
termination_by p.parts.names.length
decreasing_by
  rename_i h
  simp only [Path.parent, Parts.names_dropLast, List.length_dropLast]
  have := List.length_pos_iff.mpr h
  omega

/-- The names in the directory `p`, increasing; none if `p` is no directory. -/
def sortedNames (t : Tree) (p : Path) : List String :=
  match t.locate p with
  | .ok l => if t.isDirectory p then ServiceTrust.sortedNames (t.names l) else []
  | .error _ => []

theorem lookup_filter_ne (es : List (Location × Node)) (l m : Location) :
    (es.filter (·.1 ≠ l)).lookup m = if m = l then none else es.lookup m := by
  induction es with
  | nil => simp
  | cons e es ih =>
    rw [List.filter_cons, List.lookup_cons]
    split
    · rw [List.lookup_cons, ih]; grind
    · rw [ih]; grind

theorem node?_put (t : Tree) (l m : Location) (n : Node) (hl : isAnchor l = false) :
    (t.put l n).node? m = if m = l then some n else t.node? m := by
  unfold node? put
  rw [List.lookup_append, lookup_filter_ne]
  by_cases hm : m = l
  · subst hm; simp [hl]
  · have : (m == l) = false := by simpa using hm
    simp [hm, List.lookup_cons, this]

theorem node?_erase (t : Tree) (l m : Location) (hl : isAnchor l = false) :
    (t.erase l).node? m = if m = l then none else t.node? m := by
  unfold node? erase
  rw [lookup_filter_ne]
  by_cases hm : m = l
  · subst hm; simp [hl]
  · simp [hm]

end Tree

end ServiceTrust
