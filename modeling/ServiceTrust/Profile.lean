import ServiceTrust.Convention
import ServiceTrust.Descriptor.Basic
import ServiceTrust.Layout
import ServiceTrust.X509.Certificate

/-!
The values that pass through the pipeline: authority, services, issued material, bundles.
-/
namespace ServiceTrust

/-- Where the authority of a run came from. -/
inductive Origin where
  | file
  | generated
  deriving DecidableEq, Repr

def Origin.name : Origin → String
  | file => "file"
  | generated => "generated"

/-- A certificate authority with its files as they are on disk. -/
structure Authority where
  key : Crypto.PrivateKey
  certificate : X509.Certificate
  keyPem : Bytes
  certPem : Bytes
  csrPem : Bytes
  layout : AuthorityLayout
  descriptor : AuthorityDescriptor
  origin : Origin

/-- A service and how its material is packed and routed. Without a namespace of its own it goes to
the one of the deployment. -/
structure Profile where
  name : String
  layout : ServiceLayout
  descriptor : Request.Subject
  convention : Convention := .standard
  space : Option String := none
  roles : List Role := Role.all

/-- The certificate and key of one role of a service. -/
structure Material where
  service : String
  role : Role
  certPem : Bytes
  keyPem : Bytes
  authorityPem : Bytes
  certPath : Path
  keyPath : Path
  csrPath : Path
  serial : String
  thumbprint : String
  deriving DecidableEq, Repr

/-- The certificate and after it the authority's. -/
def Material.chainPem (m : Material) : Bytes := m.certPem ++ m.authorityPem

/-- The stores of one role of a service. -/
structure Bundle where
  service : String
  role : Role
  password : String
  layout : ServiceLayout
  deriving DecidableEq, Repr

def Bundle.path (b : Bundle) (a : Artifact) : Path := b.layout.path b.role a

/-- A secret as it is published. -/
structure SecretRecord where
  name : String
  space : String
  data : List (String × Bytes) := []
  labels : List (String × String) := []
  annotations : List (String × String) := []
  deriving DecidableEq, Repr

end ServiceTrust
