import ServiceTrust.CommandLine.Run
import ServiceTrust.Crypto.Hmac
import ServiceTrust.Tree.Change
import Std.Time.DateTime.Timestamp

/-!
The program: it takes the files that the settings name into a tree, runs a command on the tree, and
writes down what the run changed. Other programs and the network are out of its reach: a build ends
where it needs the key store tool, and a deployment, unless it is a dry run, where it needs the
cluster.
-/
namespace ServiceTrust.CommandLine

/-- The name of a place for the operating system. -/
def placeName (l : Location) : String :=
  match l with
  | "/" :: names => "/" ++ "/".intercalate names
  | [] => "."
  | names => "/".intercalate names

/-- Adds what is at a place, with everything below it. -/
partial def readPlace (t : Tree) (l : Location) : IO Tree := do
  let .ok place ← (IO.FS.realPath (placeName l)).toBaseIO | return t
  if ← place.isDir then
    let mut t := t.putDirectories l
    for entry in ← place.readDir do
      t ← readPlace t (l ++ [entry.fileName])
    return t
  else
    let .ok bytes ← (IO.FS.readBinFile place).toBaseIO | return t
    return (t.putDirectories l.dropLast).put l (.file bytes.toList Tree.newFileMode)

/-- Adds what a path names. -/
def readPath (t : Tree) (p : Path) : IO Tree :=
  match t.locate p with
  | .ok l => readPlace t l
  | .error _ => readPlace t ((if p.anchor = .relative then [] else ["/"]) ++ p.parts.names)

/-- The rights of a file with the mode `mode`. -/
def rightsOf (mode : Nat) : IO.FileRight :=
  let digit (n : Nat) : IO.AccessRight :=
    ⟨n.testBit 2, n.testBit 1, n.testBit 0⟩
  ⟨digit (mode / 64), digit (mode / 8), digit mode⟩

/-- Writes one change down. -/
def writeChange : Tree.Change → IO Unit
  | .removed l => IO.FS.removeFile (placeName l)
  | .directory l => IO.FS.createDirAll (placeName l)
  | .file l bytes mode => do
    IO.FS.writeBinFile (placeName l) ⟨bytes.toArray⟩
    IO.setAccessRights (placeName l) (rightsOf mode)

/-- The surroundings of a run. All randomness comes from one secret. -/
def hostOf (secret : Bytes) (now : X509.Instant) (env : Environment) : Host where
  suite := .standard
  tool _ _ t := (.notStarted "programs cannot be started", t)
  token n := .ofList ((Crypto.hmac .sha256 secret (0 :: Crypto.Words.ofNat 8 n)).take 16 |>.flatMap
    fun b => Text.hexPadded 2 b.toNat)
  seed n := Crypto.hmac .sha256 secret (1 :: Crypto.Words.ofNat 8 n)
  now := now
  searchPath := env.lookup "PATH"

/-- Runs a command, writes down what it changed, and prints what it says. -/
def perform (env : Environment) (c : Command) : IO UInt32 := do
  let about ← readPath {} Settings.file
  let places := match Settings.load env about with
    | .ok s => (c.override s).places
    | .error _ => []
  let before ← places.foldlM readPath about
  let now := (← Std.Time.Timestamp.now).toSecondsSinceUnixEpoch.val
  let host := hostOf (← IO.getRandomBytes 32).toList now env
  let world : World Unit := { tree := before, store := () }
  let (outcome, after) := run host (.outOfReach "no connection") env c world
  (before.changes after.tree).forM writeChange
  match outcome with
  | .ok e =>
    e.output.forM IO.println
    e.errors.forM IO.eprintln
    return e.status.toUInt32
  | .error stop =>
    IO.eprintln stop.message
    return 1

/-- How the program is called. -/
def usage : String := s!"usage: {program} [-h] " ++ "\x7b" ++ ",".intercalate commandNames ++ "\x7d ..."

end ServiceTrust.CommandLine

open ServiceTrust ServiceTrust.CommandLine in
def main (arguments : List String) : IO UInt32 := do
  match CommandLine.read arguments with
  | .error misuse =>
    IO.eprintln misuse.message
    return 2
  | .ok .help =>
    IO.println usage
    return 0
  | .ok (.run command) =>
    perform (.ofBlock (← IO.FS.readBinFile "/proc/self/environ").toList) command
