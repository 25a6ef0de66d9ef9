/-
Which services go to the namespace of a deployment, and how the secrets of each are packed. The routing
table is the one documented here and nothing more: a service that is not in it goes to the fallback, and
its secrets are packed the standard way.
-/
import ServiceTrust.Convention
import ServiceTrust.Proofs.Lookup

namespace ServiceTrust.Routing

/-- The services that go to the namespace of a deployment, the names of earlier deployments last. -/
def routed : List String :=
  ["api-tier", "control-plane", "message-broker-cluster", "admin-ui", "database", "proxy", "schema-registry",
    "coordination-service", "api", "control-center", "kafka-cluster-0", "pgadmin", "postgres", "rest-proxy",
    "zookeeper"]

/-- How the secrets of a service are packed: for the operator of a broker, for the containers of the admin
UI, or the standard way. -/
def packing (service : String) : Convention :=
  if service ∈ ["message-broker-cluster", "kafka-cluster-0"] then .brokerOperator
  else if service ∈ ["admin-ui", "pgadmin"] then .containerKeys
  else .standard

theorem packing_of_not_routed {service : String} (h : service ∉ routed) : packing service = .standard := by
  have hbroker : service ∉ ["message-broker-cluster", "kafka-cluster-0"] := fun hm =>
    h ((show _ ⊆ routed by decide) hm)
  have hcontainer : service ∉ ["admin-ui", "pgadmin"] := fun hm => h ((show _ ⊆ routed by decide) hm)
  rw [packing, if_neg hbroker, if_neg hcontainer]

/-- The routing table as a whole. -/
theorem lookup_services (service : String) :
    services.lookup service = if service ∈ routed then some (packing service) else none := by
  rw [show services = routed.map fun name => (name, packing name) by decide, Lookup.lookup_map_pair]

theorem convention_eq (service : String) : convention service = packing service := by
  rw [convention, lookup_services]
  split
  next => rfl
  next h => exact (packing_of_not_routed h).symm

theorem space_eq (service deploy fallback : String) :
    space service deploy fallback = if service ∈ routed then deploy else fallback := by
  rw [space, lookup_services]
  split <;> rfl

end ServiceTrust.Routing
