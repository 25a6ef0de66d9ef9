import ServiceTrust.Text.Quoted

/-!
Lexical paths: an anchor and the names below it. Empty names and single dots are dropped, double
dots are kept; so no name of a path is empty, a single dot or has a slash in it.
-/
namespace ServiceTrust

/-- A path can have the name `s` between its slashes. -/
def isPart (s : String) : Bool := s ≠ "" && s ≠ "." && !s.toList.contains '/'

/-- An entry of a directory can have the name `s`. -/
def isName (s : String) : Bool := isPart s && s ≠ ".."

/-- The names of a path below its anchor. -/
structure Parts where
  names : List String
  proper : ∀ name ∈ names, isPart name = true
  deriving DecidableEq, Repr

namespace Parts

/-- The names of the list that a path can have. -/
def ofNames (names : List String) : Parts := ⟨names.filter isPart, fun _ h => (List.mem_filter.mp h).2⟩

instance : Coe (List String) Parts := ⟨ofNames⟩

instance : Append Parts :=
  ⟨fun ps qs => ⟨ps.names ++ qs.names, fun name h => (List.mem_append.mp h).elim (ps.proper name) (qs.proper name)⟩⟩

def take (n : Nat) (ps : Parts) : Parts :=
  ⟨ps.names.take n, fun name h => ps.proper name (List.mem_of_mem_take h)⟩

def dropLast (ps : Parts) : Parts :=
  ⟨ps.names.dropLast, fun name h => ps.proper name ((List.dropLast_sublist _).subset h)⟩

/-- One name more. -/
def snoc (ps : Parts) (name : String) (h : isPart name = true) : Parts :=
  ps ++ (⟨[name], List.forall_mem_singleton.mpr h⟩ : Parts)

@[simp] theorem names_append (ps qs : Parts) : (ps ++ qs).names = ps.names ++ qs.names := rfl

@[simp] theorem names_snoc (ps : Parts) {name : String} (h : isPart name = true) :
    (ps.snoc name h).names = ps.names ++ [name] := rfl

@[simp] theorem names_take (n : Nat) (ps : Parts) : (ps.take n).names = ps.names.take n := rfl

@[simp] theorem names_dropLast (ps : Parts) : ps.dropLast.names = ps.names.dropLast := rfl

theorem ext_names {ps qs : Parts} (h : ps.names = qs.names) : ps = qs := by
  cases ps
  cases qs
  cases h
  rfl

end Parts

/-- Where a path starts. Exactly two leading slashes stay two; three or more are one. -/
inductive Anchor where
  | relative
  | root
  | doubleRoot
  deriving DecidableEq, Repr

def Anchor.text : Anchor → String
  | relative => ""
  | root => "/"
  | doubleRoot => "//"

structure Path where
  anchor : Anchor := .relative
  parts : Parts
  deriving DecidableEq, Repr

namespace Path

/-- The names of `cs` between slashes, where `name` holds the characters of the current one, last
first. -/
def splitFrom (name : List Char) : List Char → List String
  | [] => [.ofList name.reverse]
  | c :: cs => if c = '/' then .ofList name.reverse :: splitFrom [] cs else splitFrom (c :: name) cs

def anchorOf : List Char → Anchor
  | '/' :: '/' :: '/' :: _ => .root
  | '/' :: '/' :: _ => .doubleRoot
  | '/' :: _ => .root
  | _ => .relative

def ofString (s : String) : Path :=
  ⟨anchorOf s.toList, splitFrom [] s.toList⟩

def toString (p : Path) : String :=
  match p.anchor, p.parts.names with
  | .relative, [] => "."
  | anchor, names => anchor.text ++ "/".intercalate names

instance : ToString Path := ⟨toString⟩

/-- `q` seen from `p`: an anchored `q` stands for itself. -/
def append (p q : Path) : Path :=
  if q.anchor = .relative then ⟨p.anchor, p.parts ++ q.parts⟩ else q

/-- What `name` is seen from the directory `p`, for most names an entry of it. -/
def child (p : Path) (name : String) : Path :=
  if h : isPart name = true then ⟨p.anchor, p.parts.snoc name h⟩ else p.append (.ofString name)

def parent (p : Path) : Path := ⟨p.anchor, p.parts.dropLast⟩

/-- The last name, empty for an anchor by itself. -/
def name (p : Path) : String := p.parts.names.getLastD ""

def quoted (p : Path) : String := Text.quoted p.toString

end Path

end ServiceTrust
