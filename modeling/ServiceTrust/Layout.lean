import ServiceTrust.Role
import ServiceTrust.Tree

/-!
The names of generated files, and the clearing of a directory before a fresh generation.
-/
namespace ServiceTrust

/-- The files made for one role of a service. -/
inductive Artifact where
  | cert
  | key
  | csr
  | chain
  | keystoreP12
  | truststoreP12
  | keystoreJks
  | truststoreJks
  | password
  | jksPassword
  deriving DecidableEq, Repr

namespace Artifact

def all : List Artifact :=
  [cert, key, csr, chain, keystoreP12, truststoreP12, keystoreJks, truststoreJks, password,
    jksPassword]

/-- What follows the role in the name of the file. -/
def suffix : Artifact → String
  | cert => ".pem"
  | key => "-key.pem"
  | csr => ".csr"
  | chain => "-cert-chain.pem"
  | keystoreP12 => "-keystore.p12"
  | truststoreP12 => "-truststore.p12"
  | keystoreJks => "-keystore.jks"
  | truststoreJks => "-truststore.jks"
  | password => "-keystore-password.txt"
  | jksPassword => "-jks-keystore-password.txt"

def fileName (r : Role) (a : Artifact) : String := r.name ++ a.suffix

theorem mem_all (a : Artifact) : a ∈ all := by cases a <;> decide

end Artifact

/-- The directory of the certificate authority. -/
structure AuthorityLayout where
  directory : Path
  deriving DecidableEq, Repr

namespace AuthorityLayout

def descriptorName : String := "cfssl-ca.json"

def descriptor (l : AuthorityLayout) : Path := l.directory.child descriptorName

def cert (l : AuthorityLayout) : Path := l.directory.child "ca.pem"

def key (l : AuthorityLayout) : Path := l.directory.child "ca-key.pem"

def csr (l : AuthorityLayout) : Path := l.directory.child "ca.csr"

def isComplete (l : AuthorityLayout) (t : Tree) : Bool :=
  t.isFile l.cert && t.isFile l.key && t.isFile l.csr

end AuthorityLayout

/-- The directory of one service. -/
structure ServiceLayout where
  directory : Path
  deriving DecidableEq, Repr

namespace ServiceLayout

def descriptorName : String := "cfssl-server-csr.json"

def descriptor (l : ServiceLayout) : Path := l.directory.child descriptorName

def path (l : ServiceLayout) (r : Role) (a : Artifact) : Path :=
  l.directory.child (Artifact.fileName r a)

/-- Holds the authority's certificate while the stores of a role are made. -/
def authorityFile (l : ServiceLayout) (r : Role) : Path :=
  l.directory.child (r.name ++ "-ca.tmp.pem")

end ServiceLayout

/-- Endings of the names of generated files, in the order in which they are cleared. -/
def staleSuffixes : List String := [".p12", ".txt", ".pem", ".csr", ".pkcs12", ".jks"]

def hasSuffix (name suffix : String) : Bool := suffix.toList.isSuffixOf name.toList

theorem hasSuffix_iff {name suffix : String} :
    hasSuffix name suffix = true ↔ suffix.toList <:+ name.toList := List.isSuffixOf_iff_suffix

namespace Tree

/-- Removes the files among `names` of the directory `d`, in order; the paths removed come second. -/
def removeFiles (t : Tree) (d : Path) : List String → Except FileFault (Tree × List Path)
  | [] => .ok (t, [])
  | name :: names =>
    if t.isFile (d.child name) then do
      let t ← t.unlink (d.child name)
      let (t, removed) ← t.removeFiles d names
      return (t, d.child name :: removed)
    else t.removeFiles d names

/-- The names in `d` with a certain ending, increasing. -/
def namesWithSuffix (t : Tree) (d : Path) (suffix : String) : List String :=
  (t.sortedNames d).filter fun name => hasSuffix name suffix

/-- Removes the generated files of a directory, one ending after another. Directories and what is
in them stay, and so do descriptors. -/
def removeStaleWith (t : Tree) (d : Path) : List String → Except FileFault (Tree × List Path)
  | [] => .ok (t, [])
  | suffix :: suffixes => do
    let (t, removed) ← t.removeFiles d (t.namesWithSuffix d suffix)
    let (t, more) ← t.removeStaleWith d suffixes
    return (t, removed ++ more)

def removeStale (t : Tree) (d : Path) : Except FileFault (Tree × List Path) :=
  t.removeStaleWith d staleSuffixes

end Tree

end ServiceTrust
