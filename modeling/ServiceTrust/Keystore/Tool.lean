import ServiceTrust.Stage
import ServiceTrust.Keystore.Command
import ServiceTrust.Keystore.Listing

/-!
Runs of the key store tool, and the search for it.
-/
namespace ServiceTrust.Keystore

open Stage

/-- Directories of a search path. -/
def searchDirectories (path : List Char) : List String :=
  let rec go (part : List Char) : List Char → List String
    | [] => [.ofList part.reverse]
    | c :: cs => if c = ':' then .ofList part.reverse :: go [] cs else go (c :: part) cs
  go [] path

/-- Only a directory can be meant by a text that ends so. -/
def meansDirectory (p : String) : Bool := p.endsWith "/" || p.endsWith "/."

/-- The file can be run: it is no directory, and somebody may execute it. -/
def isExecutable (t : Tree) (p : String) : Bool :=
  match t.find? (.ofString p) with
  | some (.file _ mode) => mode &&& 0o111 ≠ 0 && !meansDirectory p
  | _ => false

def joined (directory name : String) : String :=
  if directory.isEmpty || directory.endsWith "/" then directory ++ name else directory ++ "/" ++ name

/-- The first place on the search path where a program is. A name with a slash in it is a place
itself. -/
def find? (t : Tree) (searchPath : Option String) (executable : String) : Option String :=
  if executable.toList.contains '/' then
    if isExecutable t executable then some executable else none
  else
    let path := searchPath.getD "/bin:/usr/bin"
    if path.isEmpty then none
    else
      ((searchDirectories path.toList).map (joined · executable)).find? (isExecutable t)

variable {σ : Type}

/-- The place of the tool. -/
def locate (host : Host) (executable : String) : Stage σ String := do
  match find? (← tree) host.searchPath executable with
  | some place => return place
  | none => fail (.toolMissing executable)

/-- The tool's own words about a run that failed. -/
def complaint (output errors : String) : String :=
  let e := Text.trim errors
  if e.isEmpty then Text.trim output else e

/-- What the reply to a command comes to: the text that was printed, or a failure. -/
def settle (executable : String) (c : Command) : ToolReply → Stage σ String
  | .notStarted reason => fail (.toolNotStarted executable reason c.operation)
  | .finished status output errors =>
    if status = 0 then return output
    else do
      let words := complaint output errors
      log .error "keytool_failed" [("operation", .text c.operation), ("returncode", .int status),
        ("output", .text words)]
      fail (.toolFailed status words c.operation (masked (c.argv executable)) c.store)

/-- Runs a command and gives what it printed. -/
def run (host : Host) (executable : String) (c : Command) : Stage σ String := do
  let argv := c.argv executable
  log .debug "keytool_run" [("argv", .text (masked argv))]
  let w ← get
  let (reply, t) := host.tool (w.toolRuns.length + 1) argv w.tree
  set { w with tree := t, toolRuns := w.toolRuns ++ [argv] }
  settle executable c reply

/-- The entries of a store. -/
def listEntries (host : Host) (executable : String) (store : Path) (password type : String) :
    Stage σ (List Entry) := do
  return Listing.parse (← run host executable (.listEntries store password type))

end ServiceTrust.Keystore
