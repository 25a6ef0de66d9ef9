import ServiceTrust.Profile

/-!
What the secrets of a service hold: data keys and the files behind them, by convention and role.
-/
namespace ServiceTrust

/-- Data keys in order, each with its file. -/
abbrev Entries := List (String × Path)

namespace Entries

/-- Binds a key to a file, where it stands if it is there already. -/
def set (es : Entries) (key : String) (p : Path) : Entries :=
  if es.any (·.1 = key) then es.map fun e => if e.1 = key then (key, p) else e
  else es ++ [(key, p)]

def setAll (es more : Entries) : Entries := more.foldl (fun es e => es.set e.1 e.2) es

def erase (es : Entries) (key : String) : Entries := es.filter (·.1 ≠ key)

end Entries

/-- A secret that is published beside the one of a service. -/
structure AuxiliarySecret where
  name : String
  entries : Entries
  labels : List (String × String)
  annotations : List (String × String)
  deriving DecidableEq, Repr

/-- The certificate and key of the authority that a deployment publishes. -/
structure AuthorityFiles where
  cert : Path
  key : Path
  deriving DecidableEq, Repr

namespace Publish

def secretName (service : String) (r : Role) : String := s!"tls-{service}-{r.name}"

/-- Certificate and key of each role under names of their own. -/
def rolePairs (l : ServiceLayout) (roles : List Role) : Entries :=
  roles.flatMap fun r => [(r.name ++ "Cert", l.path r .cert), (r.name ++ "Key", l.path r .key)]

/-- The entries that all conventions start from. -/
def commonEntries (p : Profile) (r : Role) (authority : AuthorityFiles) : Entries :=
  Entries.setAll []
    ([(p.name ++ "-ca.pem", authority.cert), (p.name ++ "-crt.pem", p.layout.path r .cert),
        (p.name ++ "-key.pem", p.layout.path r .key), ("caCert", authority.cert),
        ("caKey", authority.key)] ++
      [Role.server, Role.client].flatMap fun shared =>
        [(shared.name ++ "-keystore.p12", p.layout.path shared .keystoreP12),
          (shared.name ++ "-truststore.p12", p.layout.path shared .truststoreP12),
          (shared.name ++ "-cert-chain.pem", p.layout.path shared .chain),
          (shared.name ++ "-keystore-password", p.layout.path shared .password)])

/-- Data keys and files of the secret of one role. -/
def dataEntries (p : Profile) (r : Role) (authority : AuthorityFiles) : Entries :=
  let es := commonEntries p r authority
  let cert := p.layout.path r .cert
  let key := p.layout.path r .key
  match p.convention, r with
  | .containerKeys, _ =>
    ((es.erase (p.name ++ "-crt.pem")).erase (p.name ++ "-key.pem")).setAll
      [("server.cert", p.layout.path .server .cert), ("server.key", p.layout.path .server .key)]
  | .brokerOperator, .server =>
    es.setAll
      ([("keystore.jks", p.layout.path r .keystoreJks),
          ("truststore.jks", p.layout.path r .truststoreJks),
          ("password", p.layout.path r .password), ("ca.crt", authority.cert), ("tls.crt", cert),
          ("tls.key", key)] ++ rolePairs p.layout [.client, .peer, .server])
  | .brokerOperator, .client =>
    es.setAll
      ([("ca.crt", authority.cert), ("tls.crt", cert), ("tls.key", key)] ++
        rolePairs p.layout [.client, .peer] ++
        [("kafka-ca.pem", authority.cert), ("kafka-crt.pem", cert), ("kafka-key.pem", key)])
  | _, _ => es

/-- The secrets of the cluster authority and of the clients authority that a broker's operator
looks for. They go with the broker's server secret. -/
def auxiliarySecrets (p : Profile) (r : Role) (space : String) (authority : AuthorityFiles) :
    List AuxiliarySecret :=
  if p.convention = .brokerOperator && r = .server then
    let labels := [("strimzi.io/kind", "Kafka"), ("strimzi.io/cluster", space)]
    ["cluster", "clients"].flatMap fun scope =>
      [⟨s!"{space}-{scope}-ca-cert", [("ca.crt", authority.cert)], labels,
          [("strimzi.io/ca-cert-generation", "0")]⟩,
        ⟨s!"{space}-{scope}-ca", [("ca.key", authority.key)], labels,
          [("strimzi.io/ca-key-generation", "0")]⟩]
  else []

end Publish

end ServiceTrust
