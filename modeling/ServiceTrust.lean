import ServiceTrust.Asn1.Der
import ServiceTrust.Asn1.Pem
import ServiceTrust.CommandLine.Command
import ServiceTrust.CommandLine.Grammar
import ServiceTrust.CommandLine.Run
import ServiceTrust.Convention
import ServiceTrust.Crypto.Aes
import ServiceTrust.Crypto.Base64
import ServiceTrust.Crypto.Curve
import ServiceTrust.Crypto.Fault
import ServiceTrust.Crypto.Hmac
import ServiceTrust.Crypto.Keys
import ServiceTrust.Crypto.Modular
import ServiceTrust.Crypto.Sha1
import ServiceTrust.Crypto.Sha2
import ServiceTrust.Crypto.Signature
import ServiceTrust.Crypto.StoreKey
import ServiceTrust.Crypto.Words
import ServiceTrust.Descriptor.Basic
import ServiceTrust.Descriptor.KeySpec
import ServiceTrust.Descriptor.Load
import ServiceTrust.Expiry
import ServiceTrust.Failure
import ServiceTrust.Json.Approx
import ServiceTrust.Json.Basic
import ServiceTrust.Json.Reader
import ServiceTrust.Keystore.Command
import ServiceTrust.Keystore.Listing
import ServiceTrust.Keystore.Pkcs12
import ServiceTrust.Keystore.Reference
import ServiceTrust.Keystore.Tool
import ServiceTrust.Layout
import ServiceTrust.Log
import ServiceTrust.Main
import ServiceTrust.Mask
import ServiceTrust.Metrics
import ServiceTrust.Path
import ServiceTrust.Pipeline.Authority
import ServiceTrust.Pipeline.Build
import ServiceTrust.Pipeline.Bundle
import ServiceTrust.Pipeline.Deploy
import ServiceTrust.Pipeline.Discovery
import ServiceTrust.Pipeline.Issue
import ServiceTrust.Pipeline.TokenKeys
import ServiceTrust.Profile
import ServiceTrust.Proofs.Completeness
import ServiceTrust.Proofs.Crypto.Base64
import ServiceTrust.Proofs.Crypto.Keys
import ServiceTrust.Proofs.Descriptor.Expiry
import ServiceTrust.Proofs.Descriptor.KeySpec
import ServiceTrust.Proofs.Descriptor.Load
import ServiceTrust.Proofs.Failing
import ServiceTrust.Proofs.History
import ServiceTrust.Proofs.Json.Limits
import ServiceTrust.Proofs.Keystore.Listing
import ServiceTrust.Proofs.Keystore.Masking
import ServiceTrust.Proofs.Keystore.Printout
import ServiceTrust.Proofs.Keystore.Tool
import ServiceTrust.Proofs.Keystore.Transcript
import ServiceTrust.Proofs.Layout
import ServiceTrust.Proofs.Log
import ServiceTrust.Proofs.Lookup
import ServiceTrust.Proofs.Mask
import ServiceTrust.Proofs.Path
import ServiceTrust.Proofs.Pipeline.Assurance
import ServiceTrust.Proofs.Pipeline.Authority
import ServiceTrust.Proofs.Pipeline.AuthorityFailure
import ServiceTrust.Proofs.Pipeline.AuthorityKey
import ServiceTrust.Proofs.Pipeline.Build
import ServiceTrust.Proofs.Pipeline.BuildFailure
import ServiceTrust.Proofs.Pipeline.Bundle
import ServiceTrust.Proofs.Pipeline.BundleFailure
import ServiceTrust.Proofs.Pipeline.Chain
import ServiceTrust.Proofs.Pipeline.ChainCheck
import ServiceTrust.Proofs.Pipeline.Clearing
import ServiceTrust.Proofs.Pipeline.Deploy
import ServiceTrust.Proofs.Pipeline.Discovery
import ServiceTrust.Proofs.Pipeline.Finding
import ServiceTrust.Proofs.Pipeline.Footprint
import ServiceTrust.Proofs.Pipeline.Housing
import ServiceTrust.Proofs.Pipeline.Issue
import ServiceTrust.Proofs.Pipeline.IssuedCertificate
import ServiceTrust.Proofs.Pipeline.Malformed
import ServiceTrust.Proofs.Pipeline.Packing
import ServiceTrust.Proofs.Pipeline.PartialDeploy
import ServiceTrust.Proofs.Pipeline.Refusal
import ServiceTrust.Proofs.Pipeline.Remedy
import ServiceTrust.Proofs.Pipeline.Result
import ServiceTrust.Proofs.Pipeline.Reuse
import ServiceTrust.Proofs.Pipeline.TokenKeys
import ServiceTrust.Proofs.Pipeline.TokenPair
import ServiceTrust.Proofs.Pipeline.Writes
import ServiceTrust.Proofs.Publish.Alike
import ServiceTrust.Proofs.Publish.Cluster
import ServiceTrust.Proofs.Publish.Correspondence
import ServiceTrust.Proofs.Publish.Credentials
import ServiceTrust.Proofs.Publish.DryRun
import ServiceTrust.Proofs.Publish.Entries
import ServiceTrust.Proofs.Publish.Group
import ServiceTrust.Proofs.Publish.Hint
import ServiceTrust.Proofs.Publish.Journal
import ServiceTrust.Proofs.Publish.Moments
import ServiceTrust.Proofs.Publish.Records
import ServiceTrust.Proofs.Publish.Reports
import ServiceTrust.Proofs.Publish.Routing
import ServiceTrust.Proofs.Publish.Sending
import ServiceTrust.Proofs.Register
import ServiceTrust.Proofs.Schema
import ServiceTrust.Proofs.Specimen
import ServiceTrust.Proofs.Stage
import ServiceTrust.Proofs.Text.Blank
import ServiceTrust.Proofs.Text.Lines
import ServiceTrust.Proofs.Text.Utf8
import ServiceTrust.Proofs.Tree.Clear
import ServiceTrust.Proofs.Tree.Frame
import ServiceTrust.Proofs.Tree.Listing
import ServiceTrust.Proofs.Tree.Place
import ServiceTrust.Proofs.Trust
import ServiceTrust.Proofs.X509.Name
import ServiceTrust.Publish.Cluster
import ServiceTrust.Publish.ClusterConfig
import ServiceTrust.Publish.Credentials
import ServiceTrust.Publish.Entries
import ServiceTrust.Publish.Hint
import ServiceTrust.Publish.Publisher
import ServiceTrust.Publish.Store
import ServiceTrust.Role
import ServiceTrust.Schema
import ServiceTrust.Settings.Basic
import ServiceTrust.Settings.EnvFile
import ServiceTrust.Settings.Environment
import ServiceTrust.Settings.Load
import ServiceTrust.Stage
import ServiceTrust.Suite
import ServiceTrust.Text.Blank
import ServiceTrust.Text.Case
import ServiceTrust.Text.Digit
import ServiceTrust.Text.Lines
import ServiceTrust.Text.Printable
import ServiceTrust.Text.Quoted
import ServiceTrust.Text.Sorted
import ServiceTrust.Text.Utf8
import ServiceTrust.Tree
import ServiceTrust.Tree.Change
import ServiceTrust.X509.Address
import ServiceTrust.X509.AltName
import ServiceTrust.X509.Certificate
import ServiceTrust.X509.Encoding
import ServiceTrust.X509.Extension
import ServiceTrust.X509.KeyFile
import ServiceTrust.X509.Name
import ServiceTrust.X509.Time
import ServiceTrust.Yaml
