import ServiceTrust.Layout

/-!
Commands that show the certificate authority, certificate and key that a secret holds.
-/
namespace ServiceTrust.Publish

/-- A key as a path expression names it: dots have a backslash in front. -/
def escapeKey (key : String) : String :=
  .ofList (key.toList.flatMap fun c => if c = '.' then ['\\', '.'] else [c])

/-- The first key with one of the endings. -/
def firstKey (keys suffixes : List String) : Option String :=
  keys.find? fun key => suffixes.any (hasSuffix key)

/-- What is looked for: its label, the endings of its keys, and the command that shows it. -/
def hintChecks : List (String × List String × String) :=
  [("ca", ["-ca.pem", "ca.crt"], "openssl x509 -text"),
    ("crt", ["-crt.pem", "server.cert", "tls.crt"], "openssl x509 -text"),
    ("key", ["-key.pem", "server.key", "tls.key"], "openssl pkey -text -noout")]

def hintLine (name space label key command : String) : String :=
  s!"- check the {label} with: kubectl get secret -n {space} {name} -o jsonpath=" ++
    "'\x7b.data." ++ escapeKey key ++ "\x7d' | base64 -d | " ++ command

/-- A line that describes the secret, and one for each part of which there is a key. -/
def remediationHint (name space : String) (keys : List String) : String :=
  "\n".intercalate (s!"kubectl describe secret -n {space} {name}" ::
    hintChecks.filterMap fun (label, suffixes, command) =>
      (firstKey keys suffixes).map fun key => hintLine name space label key command)

end ServiceTrust.Publish
