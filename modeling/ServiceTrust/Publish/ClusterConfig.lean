import ServiceTrust.Text.Lines
import ServiceTrust.Tree
import ServiceTrust.Yaml

/-!
Which cluster to talk to, from configuration files that list clusters, users and contexts.
-/
namespace ServiceTrust

/-- The part of the settings that says which cluster is meant. -/
structure ClusterChoice where
  /-- Paths with colons between them. -/
  files : Option String := none
  context : Option String := none
  /-- The program itself runs in the cluster. -/
  inside : Bool := false
  deriving DecidableEq, Repr

namespace ClusterConfig

/-- Why there is no cluster to talk to. -/
inductive Fault where
  | outside
  | noFile
  | empty (file : Path)
  | unreadable (fault : FileFault)
  | malformed (file : Path)
  | missing (what : String)
  deriving DecidableEq, Repr

def Fault.message : Fault → String
  | outside => "Service host/port is not set."
  | noFile => "Invalid kube-config. No configuration found."
  | empty file => s!"Invalid kube-config. {file} file is empty"
  | unreadable fault => fault.message
  | malformed file => s!"Invalid kube-config file. {file} is not a mapping"
  | missing what => s!"Invalid kube-config file. Expected {what}"

/-- What all files together say. -/
structure Merged where
  current : Option Json := none
  contexts : List Json := []
  clusters : List Json := []

def nameOf (entry : Json) : Option String :=
  match entry.get? "name" with
  | some (.str (.unicode s)) => some s
  | _ => none

/-- The entries of a list, after those there are; of equal names the first counts. -/
def addEntries (entries : List Json) (added : Option Json) : List Json :=
  match added with
  | some (.arr js) =>
    js.foldl (fun es j => if es.any fun e => nameOf e = nameOf j then es else es ++ [j]) entries
  | _ => entries

def Merged.add (m : Merged) (doc : Json) : Merged where
  current := doc.get? "current-context" <|> m.current
  contexts := addEntries m.contexts (doc.get? "contexts")
  clusters := addEntries m.clusters (doc.get? "clusters")

/-- The mapping in a file. -/
def readFile (t : Tree) (file : Path) : Except Fault Json :=
  match t.read file with
  | .error fault => .error (.unreadable fault)
  | .ok bytes =>
    match Text.decode bytes with
    | .error _ => .error (.malformed file)
    | .ok s =>
      match Yaml.read? (.ofList (Text.plainNewlines s.toList)) with
      | some .null => .error (.empty file)
      | some (.obj ms) => .ok (.obj ms)
      | _ => .error (.malformed file)

/-- The files that are there, in order. -/
def present (t : Tree) (files : String) : List Path :=
  ((files.splitOn ":").filter (!·.isEmpty)).map Path.ofString |>.filter t.contains

def entry (name : String) (what : String) (entries : List Json) : Except Fault Json :=
  match entries.find? fun e => nameOf e = some name with
  | some e => .ok e
  | none => .error (.missing s!"object with name {name} in {what} list")

def member (name : String) (j : Json) : Except Fault Json :=
  match j.get? name with
  | some v => .ok v
  | none => .error (.missing s!"key {name}")

/-- The cluster of the context that is chosen, or else of the current one. -/
def load (t : Tree) (c : ClusterChoice) : Except Fault Json := do
  if c.inside then throw .outside
  match present t (c.files.getD "") with
  | [] => throw .noFile
  | files =>
    let m := (← files.mapM (readFile t)).foldl Merged.add {}
    let chosen ←
      match c.context, m.current with
      | some name, _ => pure name
      | none, some (.str (.unicode name)) => pure name
      | none, _ => throw (.missing "key current-context")
    let context ← member "context" (← entry chosen "contexts" m.contexts)
    match ← member "cluster" context with
    | .str (.unicode name) => member "cluster" (← entry name "clusters" m.clusters)
    | _ => throw (.missing "object in clusters list")

end ClusterConfig

end ServiceTrust
