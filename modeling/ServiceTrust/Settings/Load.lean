import ServiceTrust.Schema
import ServiceTrust.Settings.Basic
import ServiceTrust.Settings.EnvFile
import ServiceTrust.Text.Case
import ServiceTrust.Tree

/-!
Settings from the environment and from the assignments in the file `.env` of the working
directory. The environment wins over the file, and what neither sets keeps its default.
-/
namespace ServiceTrust

namespace Settings

/-- The value that is set for `name` last, in letters of any case. -/
def lookupAnyCase (name : String) (table : List (String × α)) : Option α :=
  (table.reverse.find? fun e => Text.lower e.1 = Text.lower name).map (·.2)

/-- A truth value in words. -/
def flag? (s : String) : Option Bool :=
  let s := s.map Char.toLower
  if ["1", "t", "true", "y", "yes", "on"].contains s then some true
  else if ["0", "f", "false", "n", "no", "off"].contains s then some false
  else none

open Schema

def flag (name : String) (absent : Bool) : Option String → Checked Bool
  | none => .valid absent
  | some s =>
    match flag? s with
    | some b => .valid b
    | none => (Checked.problem .boolParsing).inside (.name name)

def strategyChoices : List (String × ReplaceStrategy) :=
  [ReplaceStrategy.recreate, .replace].map fun s => (s.name, s)

def strategyOf (name : String) (absent : ReplaceStrategy) : Option String → Checked ReplaceStrategy
  | none => .valid absent
  | some s =>
    match strategyChoices.lookup s with
    | some strategy => .valid strategy
    | none =>
      (Checked.problem (.literal (strategyChoices.map (·.1)))).inside (.name name)

/-- Settings out of named texts. -/
def check (get : String → Option String) : Checked Settings :=
  let d : Settings := {}
  let text (name absent : String) := (get name).getD absent
  let path (name : String) (absent : Path) := ((get name).map Path.ofString).getD absent
  let settings (consoleExport : Bool) (strategy : ReplaceStrategy) (inCluster : Bool) : Settings :=
    { appName := text "APP_NAME" d.appName
      logLevel := text "LOG_LEVEL" d.logLevel
      consoleExport
      tlsDirectory := path "TLS_DIR" d.tlsDirectory
      authorityDescriptor := (get "CA_CONFIG_PATH").map .ofString
      tokenDirectory := path "JWT_DIR" d.tokenDirectory
      keytool := text "KEYTOOL_PATH" d.keytool
      serverPassword := get "PASSWORD_SERVER_KEYSTORE"
      peerPassword := get "PASSWORD_PEER_KEYSTORE"
      clientPassword := get "PASSWORD_CLIENT_KEYSTORE"
      deploySpace := text "ENV_NAME" d.deploySpace
      defaultSpace := text "DEFAULT_NAMESPACE" d.defaultSpace
      authorityCert := (get "PATH_TO_CA_FILE").map .ofString
      authorityKey := (get "PATH_TO_CA_KEY").map .ofString
      strategy
      kubeconfig := get "KUBECONFIG"
      kubeContext := get "KUBE_CONTEXT"
      inCluster
      credentialsApp := text "CREDENTIALS_APP_NAME" d.credentialsApp
      apiUser := text "DB_API_USERNAME" d.apiUser
      apiPassword := text "DB_API_PASSWORD" d.apiPassword
      databaseUser := text "DB_POSTGRES_USERNAME" d.databaseUser
      databasePassword := text "DB_POSTGRES_PASSWORD" d.databasePassword
      storageAccessKey := text "S3_ACCESS_KEY" d.storageAccessKey
      storageSecretKey := text "S3_SECRET_KEY" d.storageSecretKey }
  let console := flag "OTEL_CONSOLE_EXPORT" d.consoleExport (get "OTEL_CONSOLE_EXPORT")
  let strategy :=
    strategyOf "SECRET_REPLACE_STRATEGY" d.strategy (get "SECRET_REPLACE_STRATEGY")
  let inCluster := flag "KUBE_IN_CLUSTER" d.inCluster (get "KUBE_IN_CLUSTER")
  ((console.map settings).ap strategy).ap inCluster

/-- Why there are no settings. -/
inductive Fault where
  | encoding (fault : Text.Utf8Fault)
  | invalid (fault : Schema.Fault)
  deriving DecidableEq, Repr

def Fault.message : Fault → String
  | encoding fault => fault.message
  | invalid fault => fault.message

def model : String := "Settings"

/-- Settings from the environment and the text of the file. -/
def ofTexts (env : Environment) (file : String) : Except Fault Settings :=
  let assigned := EnvFile.read env file
  let get (name : String) :=
    lookupAnyCase name env <|> (lookupAnyCase name assigned).join
  ((check get).toExcept model).mapError .invalid

def file : Path := ⟨.relative, [".env"]⟩

def load (env : Environment) (t : Tree) : Except Fault Settings := do
  match t.isFile file, t.read file with
  | true, .ok bytes => ofTexts env (← (Text.decode bytes).mapError .encoding)
  | _, _ => ofTexts env ""

/-- Settings are fixed once they are loaded: a change of one is a fault. -/
def changeFault (field : String) : Schema.Fault := ⟨model, [⟨[.name field], .frozen⟩]⟩

end Settings

end ServiceTrust
