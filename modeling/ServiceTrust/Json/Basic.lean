import ServiceTrust.Json.Approx

/-!
Documents of names, numbers and lists, as descriptors and log records hold them.
-/
namespace ServiceTrust

namespace Json

/-- A string of a document: a text, or code points among which a surrogate stands alone. -/
inductive Text where
  | unicode (s : String)
  | unpaired (codes : List Nat)
  deriving DecidableEq, Repr

instance : Coe String Text := ⟨.unicode⟩

end Json

/-- A document. Members keep the order in which their names first appear. -/
inductive Json where
  | null
  | bool (b : Bool)
  | int (n : Int)
  | float (x : Json.Approx)
  | str (s : Json.Text)
  | arr (items : List Json)
  | obj (members : List (Json.Text × Json))
  deriving Repr

namespace Json

instance : Inhabited Json := ⟨.null⟩

/-- Sets the member `name`, where it already stands if it does. -/
def setMember (name : Text) (value : Json) : List (Text × Json) → List (Text × Json)
  | [] => [(name, value)]
  | (n, v) :: ms => if n = name then (n, value) :: ms else (n, v) :: setMember name value ms

/-- Members as they were written: of equal names the first gives the place and the last the
value. -/
def objOfList (members : List (Text × Json)) : Json :=
  .obj (members.foldl (fun ms (n, v) => setMember n v ms) [])

/-- The value of the member `name`. -/
def get? (j : Json) (name : String) : Option Json :=
  match j with
  | .obj ms => (ms.find? fun m => m.1 = .unicode name).map (·.2)
  | _ => none

def text (s : String) : Json := .str (.unicode s)

def texts (ss : List String) : Json := .arr (ss.map text)

def optText : Option String → Json
  | some s => text s
  | none => .null

/-- A table of texts. -/
def table (rows : List (String × String)) : Json :=
  .obj (rows.map fun (k, v) => (.unicode k, text v))

end Json

end ServiceTrust
