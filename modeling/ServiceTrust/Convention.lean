/-!
How the secrets of a service are packed, and which services are published into the namespace of a
deployment.
-/
namespace ServiceTrust

inductive Convention where
  | standard
  | containerKeys
  | brokerOperator
  deriving DecidableEq, Repr

namespace Convention

def name : Convention → String
  | standard => "standard"
  | containerKeys => "container_keys"
  | brokerOperator => "broker_operator"

def all : List Convention := [standard, containerKeys, brokerOperator]

def ofName? (s : String) : Option Convention := all.find? fun c => c.name = s

end Convention

namespace Routing

/-- The services with a place of their own; the names after the first eight are those of earlier
deployments. -/
def services : List (String × Convention) :=
  [("api-tier", .standard), ("control-plane", .standard),
    ("message-broker-cluster", .brokerOperator), ("admin-ui", .containerKeys),
    ("database", .standard), ("proxy", .standard), ("schema-registry", .standard),
    ("coordination-service", .standard), ("api", .standard), ("control-center", .standard),
    ("kafka-cluster-0", .brokerOperator), ("pgadmin", .containerKeys), ("postgres", .standard),
    ("rest-proxy", .standard), ("zookeeper", .standard)]

def convention (service : String) : Convention := (services.lookup service).getD .standard

/-- The namespace of the deployment for a routed service, the fallback for any other. -/
def space (service deploy fallback : String) : String :=
  if (services.lookup service).isSome then deploy else fallback

end Routing

end ServiceTrust
