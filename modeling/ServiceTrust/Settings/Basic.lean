import ServiceTrust.Layout
import ServiceTrust.Publish.ClusterConfig

/-!
The settings of a run.
-/
namespace ServiceTrust

/-- How a secret replaces the one of the same name: by deletion and creation, or in one request. -/
inductive ReplaceStrategy where
  | recreate
  | replace
  deriving DecidableEq, Repr

def ReplaceStrategy.name : ReplaceStrategy → String
  | recreate => "recreate"
  | replace => "replace"

structure Settings where
  appName : String := "cluster-pki"
  logLevel : String := "INFO"
  consoleExport : Bool := false
  tlsDirectory : Path := ⟨.relative, ["tls"]⟩
  authorityDescriptor : Option Path := none
  tokenDirectory : Path := ⟨.relative, ["jwt"]⟩
  keytool : String := "keytool"
  serverPassword : Option String := none
  peerPassword : Option String := none
  clientPassword : Option String := none
  deploySpace : String := "default"
  defaultSpace : String := "default"
  authorityCert : Option Path := none
  authorityKey : Option Path := none
  strategy : ReplaceStrategy := .recreate
  kubeconfig : Option String := none
  kubeContext : Option String := none
  inCluster : Bool := false
  credentialsApp : String := "api"
  apiUser : String := "datawriter"
  apiPassword : String := "123321"
  databaseUser : String := "postgres"
  databasePassword : String := "postgres"
  storageAccessKey : String := "ACCESS_KEY_HERE"
  storageSecretKey : String := "SECRET_KEY_HERE"
  deriving DecidableEq, Repr

namespace Settings

/-- The authority's descriptor, in the conventional place unless it is set. -/
def authorityDescriptorPath (s : Settings) : Path :=
  s.authorityDescriptor.getD ((s.tlsDirectory.child "ca").child AuthorityLayout.descriptorName)

def authorityLayout (s : Settings) : AuthorityLayout := ⟨s.authorityDescriptorPath.parent⟩

/-- The files and directories that a run works with. -/
def places (s : Settings) : List Path :=
  [s.tlsDirectory, s.authorityLayout.directory, s.tokenDirectory, .ofString s.keytool] ++
    s.authorityCert.toList ++ s.authorityKey.toList ++
    ((s.kubeconfig.getD "").splitOn ":").map .ofString

def clusterChoice (s : Settings) : ClusterChoice := ⟨s.kubeconfig, s.kubeContext, s.inCluster⟩

/-- The password of the stores of a role, if one is set and not empty. -/
def password? (s : Settings) (r : Role) : Option String :=
  let set := match r with
    | .server => s.serverPassword
    | .peer => s.peerPassword
    | .client => s.clientPassword
  set.filter (!·.isEmpty)

/-- The password of the stores of the role of a name, which may be written in letters of any case;
other names have none. -/
def passwordNamed? (s : Settings) (role : String) : Option String :=
  (Role.ofAnyCase? role).bind s.password?

end Settings

end ServiceTrust
