import ServiceTrust.Descriptor.Basic
import ServiceTrust.Text.Lines
import ServiceTrust.Tree

/-!
Descriptors from their files.
-/
namespace ServiceTrust

namespace Descriptor

/-- Why a file gives no descriptor. The first three name the file. -/
inductive Fault where
  | absent (path : Path)
  | notJson (path : Path) (fault : Json.SyntaxFault)
  | invalid (isAuthority : Bool) (path : Path) (fault : Schema.Fault)
  | encoding (fault : Text.Utf8Fault)
  | limit (fault : Json.Fault)
  deriving DecidableEq, Repr

def Fault.message : Fault → String
  | absent path => s!"descriptor not found: {path}"
  | notJson path fault => s!"invalid JSON in {path}: {fault.message}"
  | invalid isAuthority path fault =>
    let kind := if isAuthority then "CA" else "service"
    s!"invalid {kind} descriptor {path}: {fault.message}"
  | encoding fault => fault.message
  | limit fault => fault.message

/-- The fault is one of the descriptor, told as such to whoever runs the program. -/
def Fault.isDescribed : Fault → Bool
  | absent _ | notJson _ _ | invalid _ _ _ => true
  | encoding _ | limit _ => false

/-- The document in a file of UTF-8 text. -/
def loadDocument (t : Tree) (path : Path) : Except Fault Json :=
  match t.isFile path, t.read path with
  | true, .ok bytes =>
    match Text.decode bytes with
    | .error fault => .error (.encoding fault)
    | .ok s =>
      match Json.read (.ofList (Text.plainNewlines s.toList)) with
      | .ok j => .ok j
      | .error (.grammar fault) => .error (.notJson path fault)
      | .error fault => .error (.limit fault)
  | _, _ => .error (.absent path)

def loadAuthority (t : Tree) (path : Path) : Except Fault AuthorityDescriptor := do
  let j ← loadDocument t path
  match (checkAuthority j).toExcept "CADescriptor" with
  | .ok d => .ok d
  | .error fault => .error (.invalid true path fault)

def loadService (t : Tree) (path : Path) : Except Fault Request.Subject := do
  let j ← loadDocument t path
  match (checkService j).toExcept "ServiceDescriptor" with
  | .ok d => .ok d
  | .error fault => .error (.invalid false path fault)

end Descriptor

end ServiceTrust
