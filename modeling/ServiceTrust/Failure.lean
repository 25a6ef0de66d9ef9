import ServiceTrust.Crypto.Fault
import ServiceTrust.Descriptor.Load
import ServiceTrust.Layout
import ServiceTrust.Publish.ClusterConfig
import ServiceTrust.X509.Certificate

/-!
Everything that ends a run early, by its cause. A pipeline failure tells which step failed and how
to look into it; a plain fault is one that no step expects.
-/
namespace ServiceTrust

/-- A fault of a file, a descriptor, or a key or certificate. -/
inductive Fault where
  | file (fault : FileFault)
  | descriptor (fault : Descriptor.Fault)
  | crypto (fault : Crypto.Fault)
  deriving DecidableEq, Repr

def Fault.message : Fault → String
  | file fault => fault.message
  | descriptor fault => fault.message
  | crypto fault => fault.message

/-- What a store of secrets was asked to do. -/
inductive StoreRequest where
  | delete (space name : String)
  | create (space name : String)
  | replace (space name : String)
  | readSpace (space : String)
  | createSpace (space : String)
  deriving DecidableEq, Repr

def StoreRequest.text : StoreRequest → String
  | delete space name => s!"delete secret {space}/{name}"
  | create space name => s!"create secret {space}/{name}"
  | replace space name => s!"replace secret {space}/{name}"
  | readSpace space => s!"read namespace {space}"
  | createSpace space => s!"create namespace {space}"

def StoreRequest.isAboutSpace : StoreRequest → Bool
  | readSpace _ | createSpace _ => true
  | _ => false

/-- A request that a store did not fulfil. -/
inductive StoreFault where
  | rejected (request : StoreRequest) (reason : Option String)
  | unreachable (request : StoreRequest) (error : String)
  | alreadyExists (space name : String)
  deriving DecidableEq, Repr

namespace StoreFault

def message : StoreFault → String
  | rejected request reason => s!"Failed to {request.text}: " ++ reason.getD "None"
  | unreachable request error => s!"Kubernetes API unreachable during {request.text}: {error}"
  | alreadyExists space name => s!"Secret {space}/{name} already exists"

def operation : StoreFault → String
  | rejected request _ => request.text
  | unreachable request _ => request.text
  | alreadyExists space name => (StoreRequest.create space name).text

def hint : StoreFault → Option String
  | rejected request _ => if request.isAboutSpace then some "kubectl get namespaces" else none
  | unreachable _ _ => some "kubectl cluster-info"
  | alreadyExists _ _ => none

end StoreFault

/-- The kinds of pipeline failure that are counted. -/
inductive PipelineError.Kind where
  | toolNotFound
  | generation
  | publish
  | missingInput
  deriving DecidableEq, Repr

def PipelineError.Kind.name : PipelineError.Kind → String
  | toolNotFound => "ToolNotFound"
  | generation => "GenerationFailure"
  | publish => "PublishFailure"
  | missingInput => "MissingInputFile"

/-- A step of the pipeline that failed. -/
inductive PipelineError where
  | toolMissing (executable : String)
  | toolNotStarted (executable reason operation : String)
  | toolFailed (status : Int) (output operation command : String) (store : Option Path)
  | authorityUnreadable (layout : AuthorityLayout) (cause : Fault)
  | authorityMismatch (layout : AuthorityLayout)
  | authorityNotMade (layout : AuthorityLayout) (cause : Fault)
  | notIssued (service : String) (role : Role) (layout : ServiceLayout)
      (authority : AuthorityLayout) (cause : Fault)
  | chainBroken (service : String) (role : Role) (cert : Path) (authority : AuthorityLayout)
  | notBundled (service : String) (role : Role) (layout : ServiceLayout) (cause : Fault)
  | keystoreLocked (path : Path)
  | keystoreWithoutKey (path : Path) (alias_ : String)
  | truststoreEntries (path : Path) (type : String) (found : List String)
  | truststoreFingerprint (path : Path) (type expected : String) (found : Option String)
  | signingKeyUnreadable (path : Path) (cause : Fault)
  | signingKeyNotEc (path : Path)
  | signingKeysNotWritten (directory : Path) (cause : Fault)
  | authorityDescriptor (path : Path) (cause : Descriptor.Fault)
  | services (directory : Path) (cause : Descriptor.Fault)
  | missingFiles (secret : String) (missing : List String)
  | store (fault : StoreFault) (fallbackHint : Option String)
  | clusterConfig (fault : ClusterConfig.Fault)
  deriving DecidableEq, Repr

namespace PipelineError

def kind : PipelineError → Kind
  | toolMissing _ | toolNotStarted _ _ _ | clusterConfig _ => .toolNotFound
  | missingFiles _ _ => .missingInput
  | store _ _ => .publish
  | _ => .generation

def truststoreAlias : String := "CARoot"

def message : PipelineError → String
  | toolMissing executable => s!"keytool not found: {executable}"
  | toolNotStarted executable reason _ => s!"Could not execute {executable}: {reason}"
  | toolFailed status output _ _ _ => s!"keytool failed ({status}): {output}"
  | authorityUnreadable l cause => s!"Failed to load CA from {l.directory}: {cause.message}"
  | authorityMismatch l => s!"CA key {l.key} does not match certificate {l.cert}"
  | authorityNotMade l cause => s!"Failed to generate CA in {l.directory}: {cause.message}"
  | notIssued service role _ _ cause =>
    s!"Failed to issue {role.name} certificate for {service}: {cause.message}"
  | chainBroken _ _ cert authority => s!"{cert} does not verify against {authority.cert}"
  | notBundled service role _ cause =>
    s!"Failed to bundle {role.name} stores for {service}: {cause.message}"
  | keystoreLocked path => s!"Keystore {path} does not open with its recorded password"
  | keystoreWithoutKey path alias_ => s!"Keystore {path} has no key entry under alias {alias_}"
  | truststoreEntries path _ found =>
    s!"Truststore {path} should hold only {truststoreAlias}, found {Text.quotedList found}"
  | truststoreFingerprint path _ expected found =>
    s!"Truststore {path} {truststoreAlias} entry does not match the CA certificate " ++
      s!"(expected SHA256 {expected}, found " ++ found.getD "None" ++ ")"
  | signingKeyUnreadable path cause => s!"Unreadable JWT private key {path}: {cause.message}"
  | signingKeyNotEc path => s!"JWT private key {path} is not an EC key"
  | signingKeysNotWritten directory cause =>
    s!"Failed to write JWT keys to {directory}: {cause.message}"
  | authorityDescriptor _ cause => cause.message
  | services _ cause => cause.message
  | missingFiles secret missing =>
    s!"Secret {secret} is missing backing files: " ++ ", ".intercalate missing
  | store fault _ => fault.message
  | clusterConfig fault => s!"Kubernetes configuration could not be loaded: {fault.message}"

def operation : PipelineError → String
  | toolMissing _ => "locate keytool"
  | toolNotStarted _ _ operation => operation
  | toolFailed _ _ operation command _ => s!"{operation}: {command}"
  | authorityUnreadable l _ => s!"load CA from {l.directory}"
  | authorityMismatch l => s!"load CA from {l.directory}"
  | authorityNotMade l _ => s!"generate root CA in {l.directory}"
  | notIssued service role _ _ _ => s!"issue {role.name} certificate for {service}"
  | chainBroken service role _ _ => s!"verify {role.name} certificate for {service}"
  | notBundled service role _ _ => s!"bundle {role.name} keystores for {service}"
  | keystoreLocked path => s!"verify {path.name}"
  | keystoreWithoutKey path _ => s!"verify {path.name}"
  | truststoreEntries path _ _ => s!"verify {path.name}"
  | truststoreFingerprint path _ _ _ => s!"verify {path.name}"
  | signingKeyUnreadable path _ => s!"load JWT signing key {path}"
  | signingKeyNotEc path => s!"load JWT signing key {path}"
  | signingKeysNotWritten directory _ => s!"generate JWT signing keys in {directory}"
  | authorityDescriptor path _ => s!"load CA descriptor {path}"
  | services directory _ => s!"discover services in {directory}"
  | missingFiles secret _ => s!"collect files for secret {secret}"
  | store fault _ => fault.operation
  | clusterConfig _ => "load cluster configuration"

/-- The advice to install the tool or to say where it is. -/
def installHint : String := "install a JDK or set KEYTOOL_PATH to the keytool binary"

/-- A command, or a remark, that helps to look into the failure by hand. -/
def hint : PipelineError → Option String
  | toolMissing _ => some installHint
  | toolNotStarted _ _ _ => some installHint
  | toolFailed _ _ _ _ subject => subject.map fun p => s!"keytool -list -v -keystore {p}"
  | authorityUnreadable l _ =>
    some s!"rm -f {l.cert} {l.key} {l.csr} and re-run build to recreate the CA"
  | authorityMismatch l => some s!"openssl x509 -noout -pubkey -in {l.cert}"
  | authorityNotMade l _ => some s!"check {l.descriptor} and write access to {l.directory}"
  | notIssued _ _ l authority _ => some s!"check {l.descriptor} and the CA in {authority.directory}"
  | chainBroken _ _ cert authority => some s!"openssl verify -CAfile {authority.cert} {cert}"
  | notBundled _ _ l _ => some s!"ls -l {l.directory}"
  | keystoreLocked path => some s!"keytool -list -v -keystore {path} -storetype PKCS12"
  | keystoreWithoutKey path _ => some s!"keytool -list -v -keystore {path} -storetype PKCS12"
  | truststoreEntries path type _ => some s!"keytool -list -v -keystore {path} -storetype {type}"
  | truststoreFingerprint path type _ _ =>
    some s!"keytool -list -v -keystore {path} -storetype {type}"
  | signingKeyUnreadable path _ => some s!"openssl pkey -in {path} -noout -text"
  | signingKeyNotEc path => some s!"rm {path} and re-run to regenerate"
  | signingKeysNotWritten directory _ => some s!"ls -l {directory}"
  | authorityDescriptor path _ => some s!"python -m json.tool {path}"
  | services directory _ => some s!"ls {directory}/*/{ServiceLayout.descriptorName}"
  | missingFiles _ _ => some "run the build command first to generate the artifacts"
  | store fault fallback => fault.hint <|> fallback
  | clusterConfig _ => some "kubectl config current-context"

/-- The fault of the descriptor that a failure goes back to. -/
def descriptorFault? : PipelineError → Option Descriptor.Fault
  | authorityDescriptor _ cause => some cause
  | services _ cause => some cause
  | _ => none

end PipelineError

inductive Failure where
  | fault (fault : Fault)
  | pipeline (error : PipelineError)
  deriving DecidableEq, Repr

def Failure.message : Failure → String
  | fault f => f.message
  | pipeline e => e.message

end ServiceTrust
