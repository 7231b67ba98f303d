import ImageFreshness.Check.Schedule
import ImageFreshness.Scan.Report

/-!
# Scans

A scan checks the containers of some pods side by side.  Their starts are staggered, and what goes
wrong with one of them does not stop the others.

Specification: section 15a, `scan_pods`.
-/

namespace ImageFreshness

variable [PatternEngine]

structure ScanItem where
  pod : Pod
  container : Container
  policy : Except PolicyError (Option Policy)

namespace ScanItem

/-- The containers of some pods, in order, the init containers of a pod first. -/
def ofPods (pods : List Pod) (testAll : Bool) : List ScanItem :=
  pods.flatMap fun pod => pod.allContainers.map fun container =>
    ⟨pod, container, Policy.ofAnnotations pod.metadata.annotations container.name testAll⟩

/-- What is to be checked, if anything is. -/
def subject? (item : ScanItem) : Option Subject :=
  match item.policy with
  | .ok (some policy) => some ⟨item.pod, item.container, policy⟩
  | _ => none

def outcome (item : ScanItem) (ending : CheckEnding) : Outcome × List Notice :=
  let pod := item.pod.metadata.name
  let container := item.container.name
  match item.policy with
  | .error error => (.failed, [.invalidPolicy pod container error])
  | .ok none => (.skipped, [.notEnabled pod container])
  | .ok (some _) =>
    match ending with
    | .ok (some verdict) =>
      (.reported ⟨item.pod.metadata.space, pod, container, verdict⟩, [])
    | .ok none => (.skipped, [])
    | .error error =>
      if error.isNotFound then (.notFound, [.nothingFound pod container error])
      else if error.isCancelled then (.cancelled, [.checkCancelled pod container])
      else (.failed, [.checkFailed pod container error])

end ScanItem

/-- The time between the starts of two checks of a scan, in milliseconds. -/
def staggerDelay : Nat := 10

def scanTasks (now : Nat) (items : List ScanItem) : List CheckTask :=
  items.zipIdx.map fun (item, i) => .starting (now + staggerDelay * i) item.subject?

def ScanSummary.notices (s : ScanSummary) : List Notice :=
  (if s.cancelled = 0 then [] else [.someCancelled s.cancelled]) ++
    [.scanFinished s.reports.length s.notFound s.failures]

/-- Checks the containers of some pods. -/
def scanPods {σ : Type} (service : Service σ) (token : Token) (pods : List Pod) (testAll : Bool)
    (w : World σ) : ScanSummary × World σ :=
  let items := ScanItem.ofPods pods testAll
  let (endings, w) := CheckTask.runAll service token (scanTasks w.cache.now items) w
  let outcomes := List.zipWith ScanItem.outcome items endings
  let summary := ScanSummary.ofOutcomes (outcomes.map (·.1))
  (summary, { w with cache := w.cache.note (outcomes.flatMap (·.2) ++ summary.notices) })

end ImageFreshness
