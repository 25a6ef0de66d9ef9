import ServiceTrust.Descriptor.KeySpec
import ServiceTrust.Expiry
import ServiceTrust.Role

/-!
What the descriptor files hold: the subject, host names and key of a certificate, and for the
authority also its own expiry and how long the certificates that it signs are valid.
-/
namespace ServiceTrust

/-- One group of subject fields. -/
structure NameEntry where
  country : Option String := none
  state : Option String := none
  locality : Option String := none
  organization : Option String := none
  unit : Option String := none
  deriving DecidableEq, Repr

/-- What a certificate is requested for. -/
structure Request.Subject where
  commonName : String
  hosts : List String := []
  key : KeySpec := .standard
  names : List NameEntry := []
  deriving DecidableEq, Repr

/-- Usages are kept for the record; the expiry decides. -/
structure SigningProfile where
  usages : List String := []
  expiry : Option Expiry := none

structure SigningPolicy where
  fallback : SigningProfile := {}
  profiles : List (String × SigningProfile) := []

def SigningPolicy.defaultDays : Nat := 365

/-- Days of validity of a certificate for `role`: the expiry of the role's profile, or else the
one of the fallback profile, or else 365. -/
def SigningPolicy.validityDays (p : SigningPolicy) (role : Role) : Nat :=
  match (p.profiles.lookup role.name).bind (·.expiry), p.fallback.expiry with
  | some e, _ => e.days
  | none, some e => e.days
  | none, none => defaultDays

/-- The descriptor of a certificate authority. -/
structure AuthorityDescriptor where
  subject : Request.Subject
  expiry : Option Expiry := none
  signing : SigningPolicy := {}

def AuthorityDescriptor.defaultDays : Nat := 3650

/-- Days of validity of the authority's own certificate. -/
def AuthorityDescriptor.validityDays (d : AuthorityDescriptor) : Nat :=
  match d.expiry with
  | some e => e.days
  | none => defaultDays

namespace Descriptor

open Schema

def checkExpiry : Check Expiry := fun j =>
  (string j).andThen fun s =>
    match Expiry.ofText s with
    | .ok e => .valid e
    | .error fault => .problem (.value fault.message)

def checkNameEntry : Check NameEntry :=
  object "NameEntry" fun j =>
    let part (name : String) := fieldOr name (.valid none) (nullable string) j
    ((((part "C").map NameEntry.mk).ap (part "ST")).ap (part "L")).ap (part "O") |>.ap (part "OU")

/-- The fields that all descriptors have; `key` stands for a missing key. -/
def checkSubjectFields (key : KeySpec) (j : Json) : Checked Request.Subject :=
  (((field "CN" nonEmptyString j).map Request.Subject.mk).ap
    (fieldOr "hosts" (.valid []) (list string) j)).ap
    (fieldOr "key" (.valid key) KeySpec.check j) |>.ap
    (fieldOr "names" (.valid []) (list checkNameEntry) j)

def checkSigningProfile : Check SigningProfile :=
  object "SigningProfile" fun j =>
    ((fieldOr "usages" (.valid []) (list string) j).map SigningProfile.mk).ap
      (fieldOr "expiry" (.valid none) (nullable checkExpiry) j)

def checkSigningPolicy : Check SigningPolicy :=
  object "SigningPolicy" fun j =>
    ((fieldOr "default" (.valid {}) checkSigningProfile j).map SigningPolicy.mk).ap
      (fieldOr "profiles" (.valid []) (table checkSigningProfile) j)

def checkParameters : Check (Option Expiry) :=
  object "CAParameters" fun j => fieldOr "expiry" (.valid none) (nullable checkExpiry) j

/-- The key of an authority whose descriptor names none. -/
def authorityKey : KeySpec := { size := 4096 }

def checkAuthority : Check AuthorityDescriptor :=
  object "CADescriptor" fun j =>
    ((checkSubjectFields authorityKey j).map AuthorityDescriptor.mk).ap
      (fieldOr "ca" (.valid none) checkParameters j) |>.ap
      (fieldOr "signing" (.valid {}) checkSigningPolicy j)

def checkService : Check Request.Subject :=
  object "ServiceDescriptor" (checkSubjectFields .standard)

end Descriptor

end ServiceTrust
