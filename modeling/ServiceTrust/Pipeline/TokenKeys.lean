import ServiceTrust.Pipeline.Authority

/-!
The key pair that signs the tokens of the API tier.
-/
namespace ServiceTrust

open Stage

/-- The files of a pair, and whether they were made in this run. -/
structure TokenKeys where
  privatePath : Path
  publicPath : Path
  generated : Bool
  deriving DecidableEq, Repr

namespace TokenKeys

def privateName : String := "private-key-pkcs8.pem"

def publicName : String := "public-key.pem"

def pairIn (directory : Path) (generated : Bool) : TokenKeys :=
  ⟨directory.child privateName, directory.child publicName, generated⟩

def secretName (space app : String) : String := s!"{space}-{app}-jwt-keys"

def defaultApp : String := "api"

variable {σ : Type}

/-- Fails unless the private key can be read and is one on a curve. -/
def checkExisting (host : Host) (path : Path) : Stage σ Unit := do
  let key ← catchFault (do crypto (host.suite.readKey (← read path)))
    fun f => fail (.signingKeyUnreadable path f)
  match key with
  | .ec _ _ _ _ => return
  | .rsa _ => fail (.signingKeyNotEc path)

/-- The pair in `directory`, made anew if a file is missing or `force` is set. -/
def ensure (host : Host) (directory : Path) (force : Bool) : Stage σ TokenKeys := do
  let keys := pairIn directory true
  let t ← tree
  if !force && t.isFile keys.privatePath && t.isFile keys.publicPath then
    checkExisting host keys.privatePath
    log .info "jwt_keys_reused" [("jwt_dir", .text (toString directory))]
    return { keys with generated := false }
  catchFault
    (do
      makeDirectories directory
      let key := host.suite.newKey (.ec .p256) (← newSeed host)
      write keys.privatePath (host.suite.keyPem key)
      change (·.setMode keys.privatePath keyFileMode)
      write keys.publicPath (host.suite.publicPem key.public))
    fun f => fail (.signingKeysNotWritten directory f)
  log .info "jwt_keys_generated" [("jwt_dir", .text (toString directory)),
    ("curve", .text "P-256")]
  return keys

end TokenKeys

end ServiceTrust
