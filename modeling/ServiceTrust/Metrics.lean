import ServiceTrust.Failure
import ServiceTrust.Profile

/-!
What is counted: an event for each thing that was made, loaded, published or that failed.
-/
namespace ServiceTrust

inductive Event where
  | authorityGenerated
  | authorityLoaded (origin : Origin)
  | certificateIssued (role : Role)
  | bundleBuilt (role : Role)
  | secretPublished (convention kind : String)
  | failed (kind : PipelineError.Kind)
  deriving DecidableEq, Repr

/-- A measured series: a metric and its attributes. -/
structure Series where
  metric : String
  attributes : List (String × String)
  deriving DecidableEq, Repr

namespace Event

/-- The series that an event adds one to. -/
def series : Event → List Series
  | authorityGenerated => [⟨"pki_ca_generated_total", []⟩]
  | authorityLoaded _ => []
  | certificateIssued r =>
    [⟨"pki_certificates_issued_total", [("role", r.name)]⟩,
      ⟨"pki_certificate_issue_duration_seconds", [("role", r.name)]⟩]
  | bundleBuilt r =>
    [⟨"pki_bundles_built_total", [("role", r.name)]⟩,
      ⟨"pki_bundle_duration_seconds", [("role", r.name)]⟩]
  | secretPublished convention kind =>
    [⟨"pki_secrets_published_total", [("convention", convention), ("kind", kind)]⟩]
  | failed kind => [⟨"pki_pipeline_failures_total", [("error", kind.name)]⟩]

/-- The metric that shows whether an authority was loaded, and from where. -/
def loadedSeries (es : List Event) : Series × Nat :=
  let origins := es.filterMap fun e =>
    match e with
    | authorityLoaded o => some o
    | _ => none
  match origins.getLast? with
  | some o => (⟨"pki_ca_loaded", [("storage_type", o.name)]⟩, 1)
  | none => (⟨"pki_ca_loaded", [("storage_type", "none")]⟩, 0)

/-- How often each series was added to, in the order in which the series first appear. -/
def counts (es : List Event) : List (Series × Nat) :=
  let all := es.flatMap series
  all.eraseDups.map fun s => (s, all.count s)

end Event

end ServiceTrust
