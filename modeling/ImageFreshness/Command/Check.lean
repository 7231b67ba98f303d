import ImageFreshness.Config.File
import ImageFreshness.Registry.Distribution
import ImageFreshness.Scan.Basic
import ImageFreshness.Workload.Document

/-!
# Checking the pods of a file

`checkPods` checks the containers of the pods in a file and writes one line for each report.  The
lines are written even if other containers could not be checked, but then the run fails.

Specification: section 16, `check`.
-/

namespace ImageFreshness

open Text

/-- Why checking the pods of a file fails. -/
inductive CheckFailure where
  | unreadable (path : String) (fault : ReadFault)
  | unparsable (path : String) (fault : Json.Fault)
  | noClient (error : RegistryError)
  | failedChecks (count : Nat)
  deriving DecidableEq, Repr

def CheckFailure.message : CheckFailure → String
  | .unreadable path _ => "Failed to read " ++ path
  | .unparsable path _ => "Failed to parse pods in " ++ path
  | .noClient error => error.message
  | .failedChecks n => String.ofList (Decimal.ofNat n) ++ " container checks failed"

structure CheckResult (σ : Type) where
  output : List String
  failure : Option CheckFailure
  notices : List Notice
  state : σ

variable [PatternEngine]

/-- Checks pods, with the cache swept in the meantime. -/
def runScan {σ : Type} (config : Config) (service : Service σ) (pods : List Pod) (state : σ) :
    ScanSummary × TagCache × σ :=
  let cache : TagCache :=
    (CacheSession.start config.cache.timeout).startCollector config.cache.sweepInterval
  let (summary, w) := scanPods service .live pods config.testAllContainers ⟨cache, state⟩
  (summary, w.cache.stopCollector.shutdown, w.registry)

/-- Checks the pods in the file at a path.  `connect` gives the registries as a client reaches
    them. -/
def checkPods {σ : Type} (config : Config) (path : String) (file : Except ReadFault ByteArray)
    (connect : DistributionClient → Service σ) (state : σ) : CheckResult σ :=
  match readText file with
  | .error fault => ⟨[], some (.unreadable path fault), [], state⟩
  | .ok text =>
    match Pod.parseAll text with
    | .error fault => ⟨[], some (.unparsable path fault), [], state⟩
    | .ok pods =>
      match DistributionClient.create config.registry.userAgent config.registry.insecureHosts with
      | .error error => ⟨[], some (.noClient error), [], state⟩
      | .ok client =>
        let (summary, cache, state) := runScan config (connect client) pods state
        ⟨summary.reports.map (·.toJson.text),
          if summary.failures = 0 then none else some (.failedChecks summary.failures),
          cache.journal.reverse, state⟩

end ImageFreshness
