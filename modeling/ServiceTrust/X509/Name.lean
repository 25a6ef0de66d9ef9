import ServiceTrust.Descriptor.Basic
import ServiceTrust.Text.Utf8

/-!
Distinguished names, and the one that a descriptor asks for.
-/
namespace ServiceTrust.X509

/-- An object identifier. -/
abbrev Oid := List Nat

namespace Oid

def commonName : Oid := [2, 5, 4, 3]
def country : Oid := [2, 5, 4, 6]
def locality : Oid := [2, 5, 4, 7]
def state : Oid := [2, 5, 4, 8]
def organization : Oid := [2, 5, 4, 10]
def unit : Oid := [2, 5, 4, 11]

def toString (oid : Oid) : String := ".".intercalate (oid.map Nat.repr)

end Oid

/-- How the text of an attribute is written, by the number of its form. -/
abbrev TextForm := Nat

def TextForm.utf8 : TextForm := 0x0c

def TextForm.printable : TextForm := 0x13

structure Attribute where
  oid : Oid
  form : TextForm
  value : Bytes
  deriving DecidableEq, Repr

/-- The attributes of each level of a name. -/
structure Name where
  levels : List (List Attribute)
  deriving DecidableEq, Repr

namespace Attribute

/-- Names of the attributes that are shown by a short name. -/
def shortNames : List (Oid × String) :=
  [(Oid.commonName, "CN"), (Oid.country, "C"), (Oid.locality, "L"), (Oid.state, "ST"),
    ([2, 5, 4, 9], "STREET"), (Oid.organization, "O"), (Oid.unit, "OU"),
    ([0, 9, 2342, 19200300, 100, 1, 25], "DC"), ([0, 9, 2342, 19200300, 100, 1, 1], "UID")]

def label (a : Attribute) : String := (shortNames.lookup a.oid).getD (Oid.toString a.oid)

/-- The text of the value; octets that are no UTF-8 are read one character each. -/
def text (a : Attribute) : String :=
  match Text.decode a.value with
  | .ok s => s
  | .error _ => .ofList (a.value.map fun b => Char.ofNat b.toNat)

end Attribute

/-- Labels and texts of all attributes, in order. -/
def Name.pairs (n : Name) : List (String × String) :=
  n.levels.flatten.map fun a => (a.label, a.text)

/-- An attribute whose length is out of bounds. -/
structure Name.Fault where
  least : Nat
  most : Nat
  length : Nat
  deriving DecidableEq, Repr

def Name.Fault.message (f : Name.Fault) : String :=
  s!"Attribute's length must be >= {f.least} and <= {f.most}, but it was {f.length}"

/-- The least and the greatest number of octets of an attribute that has bounds. -/
def bounds? (oid : Oid) : Option (Nat × Nat) :=
  if oid = Oid.country then some (2, 2)
  else if oid = Oid.commonName then some (1, 64)
  else none

/-- The attribute `oid` with the text `s`. -/
def Attribute.ofText (oid : Oid) (s : String) : Except Name.Fault Attribute :=
  let value := Text.encode s
  let form := if oid = Oid.country then TextForm.printable else TextForm.utf8
  match bounds? oid with
  | some (least, most) =>
    if value.length < least || most < value.length then .error ⟨least, most, value.length⟩
    else .ok ⟨oid, form, value⟩
  | none => .ok ⟨oid, form, value⟩

/-- The parts of a group of subject fields, in the order in which a name lists them. -/
def entryParts (e : NameEntry) : List (Oid × Option String) :=
  [(Oid.country, e.country), (Oid.state, e.state), (Oid.locality, e.locality),
    (Oid.organization, e.organization), (Oid.unit, e.unit)]

/-- The common name, and after it the parts of every group that are present and not empty. -/
def subjectParts (s : Request.Subject) : List (Oid × String) :=
  (Oid.commonName, s.commonName) ::
    (s.names.flatMap entryParts).filterMap fun (oid, value) =>
      match value with
      | some v => if v.isEmpty then none else some (oid, v)
      | none => none

/-- The name of a certificate with the subject `s`: one attribute to a level. -/
def Name.ofSubject (s : Request.Subject) : Except Name.Fault Name :=
  ((subjectParts s).mapM fun (oid, v) => Attribute.ofText oid v).map fun (as : List Attribute) =>
    ⟨as.map ([·])⟩

end ServiceTrust.X509
