import ServiceTrust.Mask
import ServiceTrust.Publish.Publisher

/-!
Secrets with the credentials of the API tier, the database and the object storage.
-/
namespace ServiceTrust

open Stage

namespace Credentials

/-- Names of the secrets and their values. Of equal names the later values stand, in the place of
the first. -/
def values (s : Settings) (space : String) : List (String × List (String × String)) :=
  let rows :=
    [(s!"{space}-{s.credentialsApp}-db-credentials",
        [("username", s.apiUser), ("password", s.apiPassword)]),
      (s!"{space}-postgres-db-credentials",
        [("username", s.databaseUser), ("password", s.databasePassword)]),
      (s!"{space}-{s.credentialsApp}-s3-credentials",
        [("access-key", s.storageAccessKey), ("secret-key", s.storageSecretKey)])]
  rows.foldl (fun done (name, vs) =>
    if (done.lookup name).isSome then done.map fun e => if e.1 = name then (name, vs) else e
    else done ++ [(name, vs)]) []

/-- The values that a log may show: all but the user name, masked. -/
def maskedValues (vs : List (String × String)) : List (String × String) :=
  (vs.filter (·.1 ≠ "username")).map fun (k, v) => (k, maskSecret v)

variable {σ : Type}

/-- Publishes all credentials of a deployment. -/
def publish (p : Publisher σ) (s : Settings) (space : String) : Stage σ (List SecretRecord) :=
  (values s space).mapM fun (name, vs) => do
    let r ← p.publishLiteral name space vs "credentials"
    log .info "credentials_deployed" [("secret", .text name), ("namespace", .text space),
      ("keys", .texts (sortedNames (vs.map (·.1)))), ("masked", .table (maskedValues vs))]
    return r

end Credentials

end ServiceTrust
