/-
What a returned bundle stands for. The key store tool is not trusted: it may not start, fail, or end well
with any output, and all that is known of it is that it writes no file but the store of its command. So a
bundle cannot stand for the stores that the tool makes. It stands for what the pipeline wrote and read back
itself, and for the conversation: which commands were given, in which order and with which password, and
that each trust store was listed with the authority as its only entry and not touched again.
-/
import ServiceTrust.Proofs.Pipeline.Bundle
import ServiceTrust.Proofs.Specimen

namespace ServiceTrust

open Stage ServiceTrust.Tree Keystore

namespace Bundle

variable {σ : Type} {host : Host} {s : Settings} {m : Material}

/-- The number at the beginning, and what follows it. -/
def number (bytes : Bytes) : Nat × Bytes :=
  let zeros := bytes.takeWhile (· = 0)
  (zeros.length, bytes.drop (zeros.length + 1))

/-- The specimen with stores that can be looked into. -/
def storingSuite : Suite :=
  { Specimen.suite with
    writeStore := fun alias_ key leaf _ password _ =>
      Specimen.unary (Specimen.numberOf key.public) ++ 1 :: (Specimen.unary (Specimen.numberOf leaf.body.publicKey) ++
        1 :: (Specimen.unary leaf.sealed.signature.length ++ 1 :: Specimen.storeBytes alias_ password))
    readStore := fun bytes password =>
      let (key, bytes) := number bytes
      let (subject, bytes) := number bytes
      let (signer, bytes) := number bytes
      (Specimen.readStore bytes password).map fun content =>
        ⟨some (Specimen.key key), some (Specimen.certificate subject signer, content.leaf.bind (·.2)), []⟩ }

/-- Every command succeeds and none does anything; each prints the listing that is wanted. -/
def idleTool : Tool := fun _ _ t =>
  (.finished 0 "Alias name: caroot\nEntry type: trustedCertEntry\n\t SHA256: 00\n" "", t)

def storingHost (tool : Tool) : Host := { Specimen.host with suite := storingSuite, tool := tool }

/-- The material of a service whose key has the number 7, under the authority whose key has the number 9. -/
def specimenMaterial : Material :=
  let l : ServiceLayout := ⟨({} : Settings).tlsDirectory.child "a"⟩
  { service := "a", role := .server
    certPem := Specimen.certificatePem (Specimen.certificate 7 9)
    keyPem := Specimen.suite.keyPem (Specimen.key 7)
    authorityPem := Specimen.certificatePem (Specimen.certificate 9 9)
    certPath := l.path .server .cert, keyPath := l.path .server .key, csrPath := l.path .server .csr
    serial := "0", thumbprint := "00" }

end Bundle

end ServiceTrust
