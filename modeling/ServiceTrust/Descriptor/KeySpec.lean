import ServiceTrust.Schema

/-!
The algorithm and size of a key, as a descriptor asks for it.
-/
namespace ServiceTrust

inductive KeyAlgorithm where
  | rsa
  | ecdsa
  deriving DecidableEq, Repr

def KeyAlgorithm.name : KeyAlgorithm → String
  | rsa => "rsa"
  | ecdsa => "ecdsa"

namespace KeySpec

def leastRsaSize : Nat := 2048

/-- A size of keys of an algorithm: RSA keys have a least size. -/
structure Size (algorithm : KeyAlgorithm) where
  value : Nat
  least : algorithm = .rsa → leastRsaSize ≤ value

end KeySpec

structure KeySpec where
  algorithm : KeyAlgorithm := .rsa
  size : Nat := 2048
  least : algorithm = .rsa → KeySpec.leastRsaSize ≤ size := by intro h; first | contradiction | decide
  deriving DecidableEq, Repr

namespace KeySpec

open Schema

/-- The key of a descriptor that asks for none. -/
def standard : KeySpec := {}

def ecdsaSizes : List Nat := [256, 384, 521]

def ofSize (algorithm : KeyAlgorithm) (size : Size algorithm) : KeySpec := ⟨algorithm, size.value, size.least⟩

/-- The size of a key whose algorithm is `algorithm`. -/
def checkSize (algorithm : KeyAlgorithm) (size : Int) : Checked (Size algorithm) :=
  match algorithm with
  | .rsa =>
    if h : size < leastRsaSize then .problem (.value "rsa size must be at least 2048")
    else .valid ⟨size.toNat, fun _ => by omega⟩
  | .ecdsa =>
    if ecdsaSizes.any fun n => size = n then .valid ⟨size.toNat, nofun⟩
    else .problem (.value "ecdsa size must be one of 256, 384, 521")

def checkAlgorithm : Check KeyAlgorithm :=
  oneOf [("rsa", .rsa), ("ecdsa", .ecdsa)]

/-- A missing size is 2048, whatever the algorithm; one that is given must suit it. -/
def sizeIn (j : Json) (algorithm : KeyAlgorithm) : Checked (Size algorithm) :=
  fieldOr "size" (.valid ⟨2048, fun _ => by decide⟩) (fun v => (int v).andThen (checkSize algorithm)) j

/-- A missing algorithm is RSA. Beside an algorithm that is no valid one a size must suit RSA. -/
def check : Check KeySpec :=
  object "KeySpec" fun j =>
    match fieldOr "algo" (.valid .rsa) checkAlgorithm j with
    | .valid algorithm => (sizeIn j algorithm).map (ofSize algorithm)
    | .invalid problems => .ap (.invalid problems) (sizeIn j .rsa)
end KeySpec

end ServiceTrust
