import ImageFreshness.Check.Verdict
import ImageFreshness.Json.Value

/-!
# Reports of a scan

Specification: section 15a, `ContainerReport` and `ScanSummary`.
-/

namespace ImageFreshness

structure ContainerReport where
  space : String
  pod : String
  container : String
  verdict : Verdict
  deriving DecidableEq, Repr

namespace ContainerReport

def toJson (r : ContainerReport) : Json :=
  .object [("namespace", .string r.space), ("pod", .string r.pod),
    ("container", .string r.container), ("currentVersion", .string r.verdict.currentVersion),
    ("latestVersion", .string r.verdict.latestVersion), ("isLatest", .bool r.verdict.isLatest),
    ("imageUrl", .string r.verdict.imageUrl)]

end ContainerReport

inductive Outcome where
  | reported (report : ContainerReport)
  /-- It is not to be checked, or runs nothing yet. -/
  | skipped
  | notFound
  /-- The policy is invalid, or the tags could not be had. -/
  | failed
  | cancelled
  deriving DecidableEq, Repr

structure ScanSummary where
  reports : List ContainerReport
  notFound : Nat
  failures : Nat
  cancelled : Nat
  deriving DecidableEq, Repr

namespace ScanSummary

def ofOutcomes (outcomes : List Outcome) : ScanSummary where
  reports := outcomes.filterMap fun
    | .reported report => some report
    | _ => none
  notFound := outcomes.count .notFound
  failures := outcomes.count .failed
  cancelled := outcomes.count .cancelled

end ScanSummary

end ImageFreshness
