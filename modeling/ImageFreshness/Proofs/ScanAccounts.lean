import ImageFreshness.Pattern.Compile
import ImageFreshness.Proofs.RegistryRecord
import ImageFreshness.Proofs.ScanIndependence

/-!
# The account of a scan

Every container of a scan is accounted for, once and in order, whatever registries answer, how long
that takes, what the cache holds and when the scan is cancelled (`scanPods_accounts`).

How a check may end is told by `MayEnd`.  It refers to the record of what registries have been
asked, and to whether the token has been cancelled by now.  Both only grow, so what has ended stays
accounted for while other checks go on (`CheckTask.Accounted.mono`).
-/

namespace ImageFreshness

variable {σ : Type}

namespace Token

variable {token : Token} {now later : Nat}

theorem stopsWait_mono (h : token.stopsWait now = true) (hle : now ≤ later) :
    token.stopsWait later = true := by
  cases token with
  | live => cases h
  | cancelled => rfl
  | cancelledAt instant =>
    have hstopped : instant ≤ now := of_decide_eq_true h
    exact decide_eq_true (Nat.le_trans hstopped hle)

theorem stopsWait_of_stopsStart (h : token.stopsStart now = true) :
    token.stopsWait now = true := by
  cases token with
  | live => cases h
  | cancelled => rfl
  | cancelledAt instant =>
    have hstopped : instant < now := of_decide_eq_true h
    exact decide_eq_true (Nat.le_of_lt hstopped)

end Token

section AnyEngine

variable [PatternEngine]

/-! ### Ends of checks -/

/-- How the check of a subject may end. -/
inductive MayEnd (record : List RegistryExchange) (stopped : Bool) :
    Option Subject → CheckEnding → Prop where
  | absent : MayEnd record stopped none (.ok none)
  | idle {s : Subject} : s.runningDigest = "" → MayEnd record stopped (some s) (.ok none)
  | judged {s : Subject} (verdict : Verdict) : s.runningDigest ≠ "" →
      MayEnd record stopped (some s) (.ok (some verdict))
  | notFound {s : Subject} (url : String) : s.runningDigest ≠ "" →
      MayEnd record stopped (some s) (.error (.notFound url))
  | refused {s : Subject} {error : RegistryError} : s.runningDigest ≠ "" →
      .tags s.location (.error error) ∈ record →
      MayEnd record stopped (some s) (.error (.fetch s.lookupUrl (.fetch error)))
  | cancelled {s : Subject} (url : String) : s.runningDigest ≠ "" → stopped = true →
      MayEnd record stopped (some s) (Subject.cancelledAt url)

namespace MayEnd

variable {record record' : List RegistryExchange} {stopped stopped' : Bool}
  {subject : Option Subject} {s : Subject} {ending : CheckEnding}

theorem mono (h : MayEnd record stopped subject ending) (hrecord : record ⊆ record')
    (hstopped : stopped = true → stopped' = true) : MayEnd record' stopped' subject ending := by
  cases h with
  | absent => exact .absent
  | idle hidle => exact .idle hidle
  | judged verdict hruns => exact .judged verdict hruns
  | notFound url hruns => exact .notFound url hruns
  | refused hruns hasked => exact .refused hruns (hrecord hasked)
  | cancelled url hruns hstop => exact .cancelled url hruns (hstopped hstop)

/-- Once a check has the tags, nothing but that none of them is allowed can go wrong. -/
theorem conclude (hruns : s.runningDigest ≠ "") (running : RunningTag) (tags : List ImageTag) :
    MayEnd record stopped (some s) (s.conclude running tags) := by
  cases hjudged : s.judge running tags with
  | ok verdict =>
    have hconcluded : s.conclude running tags = .ok (some verdict) := by
      rw [Subject.conclude, hjudged]
      rfl
    exact hconcluded ▸ .judged verdict hruns
  | error error =>
    have hconcluded : s.conclude running tags = .error error := by
      rw [Subject.conclude, hjudged]
      rfl
    have hmissing : error = .notFound s.lookupUrl := by
      simp only [Subject.judge] at hjudged
      repeat' split at hjudged
      all_goals cases hjudged
      all_goals rfl
    rw [hconcluded, hmissing]
    exact .notFound s.lookupUrl hruns

end MayEnd

/-! ### Steps -/

/-- A task is accounted for: what it waits for has been asked, and its end is one that it may come
    to. -/
def CheckTask.Accounted (record : List RegistryExchange) (stopped : Bool)
    (subject : Option Subject) : CheckTask → Prop
  | .starting _ s => s = subject
  | .resolving s _ _ => subject = some s ∧ s.runningDigest ≠ ""
  | .fetching s _ _ _ answer =>
    subject = some s ∧ s.runningDigest ≠ "" ∧ .tags s.location answer ∈ record
  | .ended ending => MayEnd record stopped subject ending

theorem CheckTask.Accounted.mono {record record' : List RegistryExchange}
    {stopped stopped' : Bool} {subject : Option Subject} {task : CheckTask}
    (h : task.Accounted record stopped subject) (hrecord : record ⊆ record')
    (hstopped : stopped = true → stopped' = true) :
    task.Accounted record' stopped' subject := by
  cases task with
  | starting start s => exact h
  | resolving s ready answer => exact h
  | fetching s running flight ready answer =>
    obtain ⟨hsubject, hruns, hasked⟩ := h
    exact ⟨hsubject, hruns, hrecord hasked⟩
  | ended ending => exact MayEnd.mono h hrecord hstopped

section Steps

variable {service : Service σ} {token : Token} {s : Subject} {running : RunningTag}
  {cancelled : Bool} {w w' : World (σ × List RegistryExchange)} {task next : CheckTask}

theorem Subject.Fetched.accounted {record : List RegistryExchange} {flight : Nat}
    {answer : Except RegistryError (List ImageTag)} {c c' : TagCache} {ending : CheckEnding}
    (h : s.Fetched running flight cancelled answer c ending c') (hruns : s.runningDigest ≠ "")
    (hasked : .tags s.location answer ∈ record) (hawaits : c.Awaits flight s.cacheKey) :
    MayEnd record cancelled (some s) ending := by
  cases h with
  | unknown hnone =>
    rw [hawaits.lookup] at hnone
    cases hnone
  | stopped notices hstop => exact .cancelled s.lookupUrl hruns hstop
  | refused hgo hanswer => exact .refused hruns (hanswer ▸ hasked)
  | given hkey hgo hanswer => exact .conclude hruns running _

theorem Subject.LookedUp.accounted (h : s.LookedUp service.recorded running cancelled w next w')
    (hruns : s.runningDigest ≠ "") :
    next.Accounted w'.record cancelled (some s) := by
  cases h with
  | hit notices hfresh => exact .conclude hruns running _
  | stopped notices hstop => exact .cancelled s.lookupUrl hruns hstop
  | waits notices hfresh hgo hasked =>
    refine ⟨rfl, hruns, ?_⟩
    simp [World.record, Service.recorded_tags hasked]
  | @fetched reply registry _ _ notices hfresh hgo hasked hfetched =>
    have hrecorded : .tags s.location reply.answer ∈ registry.2 := by
      simp [Service.recorded_tags hasked]
    have hending := hfetched.accounted hruns hrecorded
      ((w.cache.depart_awaits s.cacheKey).note notices)
    exact hending.mono (List.Subset.refl _) fun hstop => Bool.noConfusion hstop

/-- A step leaves a task accounted for, and takes no account back. -/
theorem CheckTask.Step.accounted (hstep : Step service.recorded token w task next w')
    {subject : Option Subject} (hflight : task.InFlight w.cache)
    (h : task.Accounted w.record (token.stopsWait w.cache.now) subject) :
    next.Accounted w'.record (token.stopsWait w'.cache.now) subject := by
  rw [hstep.now_eq]
  have hlive {next : CheckTask} {record : List RegistryExchange} {s : Subject}
      (h : next.Accounted record false (some s)) :
      next.Accounted record (token.stopsWait w.cache.now) (some s) :=
    h.mono (List.Subset.refl record) fun hstop => Bool.noConfusion hstop
  cases hstep with
  | absent =>
    obtain rfl : none = subject := h
    exact .absent
  | @idle _ s notices hidle =>
    obtain rfl : some s = subject := h
    exact .idle hidle
  | @stopped _ s notices hruns hwants hstop =>
    obtain rfl : some s = subject := h
    exact .cancelled s.image.url hruns (Token.stopsWait_of_stopsStart hstop)
  | @asked _ s _ _ notices hruns hwants hgo hasked =>
    obtain rfl : some s = subject := h
    exact ⟨rfl, hruns⟩
  | @resolvedAtOnce _ s _ _ _ _ hruns hwants hgo hasked hlooked =>
    obtain rfl : some s = subject := h
    exact hlive (hlooked.accounted hruns)
  | @declared _ s _ _ hruns hwants hlooked =>
    obtain rfl : some s = subject := h
    exact (hlooked.accounted hruns).mono (List.Subset.refl _) Token.stopsWait_of_stopsStart
  | @resolvingStopped s _ _ notices hstop =>
    obtain ⟨rfl, hruns⟩ := h
    exact .cancelled s.image.url hruns hstop
  | resolved hgo hlooked =>
    obtain ⟨rfl, hruns⟩ := h
    exact hlive (hlooked.accounted hruns)
  | fetched hfetched =>
    obtain ⟨rfl, hruns, hasked⟩ := h
    exact hfetched.accounted hruns hasked hflight
  | ended => exact h

/-! ### Runs -/

/-- All tasks are accounted for. -/
structure AllAccounted (token : Token) (subjects : List (Option Subject))
    (tasks : List CheckTask) (w : World (σ × List RegistryExchange)) : Prop where
  accounted : List.Forall₂ (fun subject task =>
    task.Accounted w.record (token.stopsWait w.cache.now) subject) subjects tasks
  flights : CheckTask.AllInFlight tasks w

theorem AllAccounted.of_starting {subjects : List (Option Subject)} {tasks : List CheckTask}
    (hstarting : List.Forall₂ (fun subject task => ∃ start, task = .starting start subject)
      subjects tasks) : AllAccounted token subjects tasks w where
  accounted := hstarting.imp fun subject task htask => by
    obtain ⟨start, rfl⟩ := htask
    rfl
  flights := .of_starting fun task hmem => by
    obtain ⟨subject, -, start, htask⟩ := exists_of_forall₂_of_mem hstarting hmem
    exact ⟨start, subject, htask⟩

theorem AllAccounted.step {subjects : List (Option Subject)} {before after : List CheckTask}
    (h : AllAccounted token subjects (before ++ task :: after) w)
    (hstep : CheckTask.Step service.recorded token w task next w') :
    AllAccounted token subjects (before ++ next :: after) w' := by
  refine ⟨?_, h.flights.step hstep⟩
  refine forall₂_replace h.accounted ?_ ?_
  · intro subject other _ hother
    exact hother.mono hstep.record_grows fun hstop => hstep.now_eq ▸ hstop
  · intro subject _ hthis
    exact hstep.accounted (h.flights.inFlight task (by simp)) hthis

theorem AllAccounted.advanceTo {subjects : List (Option Subject)} {tasks : List CheckTask}
    (h : AllAccounted token subjects tasks w) (instant : Nat) :
    AllAccounted token subjects tasks { w with cache := w.cache.advanceTo instant } := by
  refine ⟨h.accounted.imp fun subject task hthis => ?_, h.flights.advanceTo instant⟩
  refine hthis.mono (List.Subset.refl _) fun hstop => ?_
  exact Token.stopsWait_mono hstop (Nat.le_max_left w.cache.now instant)

variable (service) in
/-- The ends of checks, however they get in each other's way. -/
theorem AllAccounted.runAll {subjects : List (Option Subject)} {tasks : List CheckTask}
    (h : AllAccounted token subjects tasks w) :
    List.Forall₂
      (MayEnd (CheckTask.runAll service.recorded token tasks w).2.record
        (token.stopsWait (CheckTask.runAll service.recorded token tasks w).2.cache.now))
      subjects (CheckTask.runAll service.recorded token tasks w).1 := by
  have hrun := (CheckTask.schedule service.recorded token).run_induction
    (AllAccounted token subjects)
    (fun _ _ instant h _ => h.advanceTo instant)
    (fun _ task _ w h _ => h.step (CheckTask.resume_step service.recorded token task w)) h
  exact CheckTask.forall₂_endings hrun.accounted
    ((CheckTask.schedule_ends service.recorded token).due?_of_mem_run tasks w)
    fun _ _ hending => hending

end Steps

/-! ### Containers -/

namespace ScanItem

variable (item : ScanItem)

def isDisabled : Bool :=
  match item.policy with
  | .ok none => true
  | _ => false

def isInvalid : Bool :=
  match item.policy with
  | .error _ => true
  | .ok _ => false

/-- The node has recorded no digest for the container. -/
def isIdle : Bool := item.pod.runningDigest item.container.name = ""

/-- There is nothing to be checked. -/
def isSkipped : Bool := item.isDisabled || (item.isIdle && !item.isInvalid)

/-- There is a digest to be checked. -/
structure IsChecked (s : Subject) : Prop where
  subject? : item.subject? = some s
  runs : item.isIdle = false

/-- What may come of a container, with the notices about it. -/
inductive MayCome (record : List RegistryExchange) (stopped : Bool) :
    Outcome × List Notice → Prop where
  | reported {s : Subject} (verdict : Verdict) : item.IsChecked s →
      MayCome record stopped
        (.reported ⟨item.pod.metadata.space, item.pod.metadata.name, item.container.name, verdict⟩,
          [])
  | skipped (notices : List Notice) : item.isSkipped = true →
      MayCome record stopped (.skipped, notices)
  | notFound {s : Subject} (url : String) : item.IsChecked s →
      MayCome record stopped (.notFound,
        [.nothingFound item.pod.metadata.name item.container.name (.notFound url)])
  | invalid {error : PolicyError} : item.policy = .error error →
      MayCome record stopped
        (.failed, [.invalidPolicy item.pod.metadata.name item.container.name error])
  | refused {s : Subject} {error : RegistryError} : item.IsChecked s →
      .tags s.location (.error error) ∈ record →
      MayCome record stopped (.failed,
        [.checkFailed item.pod.metadata.name item.container.name
          (.fetch s.lookupUrl (.fetch error))])
  | cancelled {s : Subject} : item.IsChecked s → stopped = true →
      MayCome record stopped
        (.cancelled, [.checkCancelled item.pod.metadata.name item.container.name])

variable {item} {record : List RegistryExchange} {stopped : Bool}

theorem subject?_of_policy {policy : Policy} (h : item.policy = .ok (some policy)) :
    item.subject? = some ⟨item.pod, item.container, policy⟩ := by
  rw [subject?, h]

theorem IsChecked.exists_policy {s : Subject} (h : item.IsChecked s) :
    ∃ policy, item.policy = .ok (some policy) := by
  have hsubject := h.subject?
  unfold ScanItem.subject? at hsubject
  split at hsubject
  · exact ⟨_, ‹_›⟩
  · cases hsubject

theorem IsChecked.isSkipped_eq_false {s : Subject} (h : item.IsChecked s) :
    item.isSkipped = false := by
  obtain ⟨policy, hpolicy⟩ := h.exists_policy
  simp [isSkipped, isDisabled, hpolicy, h.runs]

/-- The end of its check decides what comes of a container that is to be checked. -/
theorem mayCome_outcome {ending : CheckEnding} (h : MayEnd record stopped item.subject? ending) :
    item.MayCome record stopped (item.outcome ending) := by
  cases hpolicy : item.policy with
  | error error =>
    have houtcome : item.outcome ending =
        (.failed, [.invalidPolicy item.pod.metadata.name item.container.name error]) := by
      simp [outcome, hpolicy]
    exact houtcome ▸ .invalid hpolicy
  | ok policy? =>
    cases policy? with
    | none =>
      have houtcome : item.outcome ending =
          (.skipped, [.notEnabled item.pod.metadata.name item.container.name]) := by
        simp [outcome, hpolicy]
      exact houtcome ▸ .skipped _ (by simp [isSkipped, isDisabled, hpolicy])
    | some policy =>
      have hsubject := subject?_of_policy hpolicy
      rw [hsubject] at h
      have hchecked (hruns : Subject.runningDigest ⟨item.pod, item.container, policy⟩ ≠ "") :
          item.IsChecked ⟨item.pod, item.container, policy⟩ :=
        ⟨hsubject, decide_eq_false hruns⟩
      cases h with
      | idle hidle =>
        have hskipped : item.isSkipped = true := by
          have hdigest : item.isIdle = true := decide_eq_true hidle
          simp [isSkipped, isInvalid, hpolicy, hdigest]
        have hcome : item.MayCome record stopped (.skipped, []) := .skipped [] hskipped
        simpa [outcome, hpolicy] using hcome
      | judged verdict hruns =>
        simpa [outcome, hpolicy] using .reported verdict (hchecked hruns)
      | notFound url hruns =>
        simpa [outcome, hpolicy, CheckError.isNotFound] using .notFound url (hchecked hruns)
      | refused hruns hasked =>
        simpa [outcome, hpolicy, CheckError.isNotFound, CheckError.isCancelled] using
          .refused (hchecked hruns) hasked
      | cancelled url hruns hstop =>
        simpa [outcome, hpolicy, Subject.cancelledAt, CheckError.isNotFound,
          CheckError.isCancelled] using .cancelled (hchecked hruns) hstop

theorem MayCome.skipped_iff {result : Outcome × List Notice}
    (h : item.MayCome record stopped result) :
    result.1 = .skipped ↔ item.isSkipped = true := by
  cases h with
  | skipped notices hskipped => simp [hskipped]
  | invalid hpolicy => simp [isSkipped, isDisabled, isInvalid, hpolicy]
  | reported _ hchecked | notFound _ hchecked | refused hchecked | cancelled hchecked =>
    simp [hchecked.isSkipped_eq_false]

/-- The container by the namespace and the name of its pod, and by its own name. -/
def label (item : ScanItem) : String × String × String :=
  (item.pod.metadata.space, item.pod.metadata.name, item.container.name)

theorem MayCome.label_eq {report : ContainerReport} {notices : List Notice}
    (h : item.MayCome record stopped (.reported report, notices)) :
    (report.space, report.pod, report.container) = item.label := by
  cases h with
  | reported verdict hchecked => rfl

end ScanItem

/-! ### The summary of a scan -/

omit [PatternEngine] in
theorem ScanSummary.total_ofOutcomes (outcomes : List Outcome) :
    (ofOutcomes outcomes).reports.length + (ofOutcomes outcomes).notFound +
      (ofOutcomes outcomes).failures + (ofOutcomes outcomes).cancelled +
      outcomes.count .skipped = outcomes.length := by
  induction outcomes with
  | nil => rfl
  | cons outcome rest ih =>
    simp only [ofOutcomes] at ih ⊢
    cases outcome <;> simp <;> omega

section Results

variable {items : List ScanItem} {results : List (Outcome × List Notice)}
  {record : List RegistryExchange} {stopped : Bool}

theorem count_skipped
    (h : List.Forall₂ (fun item result => item.MayCome record stopped result) items results) :
    (results.map Prod.fst).count .skipped = items.countP ScanItem.isSkipped := by
  induction h with
  | nil => rfl
  | @cons item result items results hresult _ ih =>
    rw [List.map_cons, List.count_cons, List.countP_cons, ih]
    have hiff := hresult.skipped_iff
    by_cases hskipped : item.isSkipped = true
    · simp [hskipped, hiff.mpr hskipped]
    · have hother : result.1 ≠ .skipped := fun hresult => hskipped (hiff.mp hresult)
      simp [hskipped, hother]

theorem reports_sublist
    (h : List.Forall₂ (fun item result => item.MayCome record stopped result) items results) :
    ((ScanSummary.ofOutcomes (results.map Prod.fst)).reports.map
      fun report => (report.space, report.pod, report.container)).Sublist
      (items.map ScanItem.label) := by
  induction h with
  | nil => exact .slnil
  | @cons item result items results hresult _ ih =>
    obtain ⟨outcome, notices⟩ := result
    cases outcome with
    | reported report =>
      change ((report.space, report.pod, report.container) :: _).Sublist (item.label :: _)
      rw [hresult.label_eq]
      exact ih.cons_cons item.label
    | skipped | notFound | failed | cancelled => exact ih.cons item.label

/-- A scan reports a failure only where annotations are invalid or a registry has refused. -/
theorem failures_eq_zero
    (h : List.Forall₂ (fun item result => item.MayCome record stopped result) items results)
    (hvalid : ∀ item ∈ items, item.isInvalid = false)
    (hgiven : ∀ location error, .tags location (.error error) ∉ record) :
    (ScanSummary.ofOutcomes (results.map Prod.fst)).failures = 0 := by
  refine List.count_eq_zero.mpr fun hfailed => ?_
  obtain ⟨⟨outcome, notices⟩, hmem, rfl⟩ := List.mem_map.mp hfailed
  obtain ⟨item, hitem, hresult⟩ := exists_of_forall₂_of_mem h hmem
  cases hresult with
  | invalid hpolicy =>
    have hno := hvalid item hitem
    simp [ScanItem.isInvalid, hpolicy] at hno
  | refused hchecked hasked => exact hgiven _ _ hasked

theorem cancelled_eq_zero
    (h : List.Forall₂ (fun item result => item.MayCome record false result) items results) :
    (ScanSummary.ofOutcomes (results.map Prod.fst)).cancelled = 0 := by
  refine List.count_eq_zero.mpr fun hcancelled => ?_
  obtain ⟨⟨outcome, notices⟩, hmem, rfl⟩ := List.mem_map.mp hcancelled
  obtain ⟨item, hitem, hresult⟩ := exists_of_forall₂_of_mem h hmem
  cases hresult with
  | cancelled hchecked hstop => cases hstop

end Results

theorem scanResults_mayCome (service : Service σ) (token : Token) (pods : List Pod)
    (testAll : Bool) (w : World σ) :
    List.Forall₂
      (fun item result => item.MayCome (scanRecord service token pods testAll w)
        (token.stopsWait (scanPods service token pods testAll w).2.cache.now) result)
      (ScanItem.ofPods pods testAll) (scanResults service token pods testAll w) := by
  have hstart : AllAccounted token ((ScanItem.ofPods pods testAll).map ScanItem.subject?)
      (scanTasks w.cache.now (ScanItem.ofPods pods testAll)) w.recording :=
    .of_starting (scanTasks_starting w.cache.now (ScanItem.ofPods pods testAll))
  have hends := AllAccounted.runAll service hstart
  obtain ⟨hendings, hworld⟩ := CheckTask.runAll_recorded service token
    (scanTasks w.cache.now (ScanItem.ofPods pods testAll)) w.recording
  rw [World.forget_recording] at hendings hworld
  rw [hendings, List.forall₂_map_left_iff] at hends
  have hnow : (scanPods service token pods testAll w).2.cache.now =
      (CheckTask.runAll service.recorded token
        (scanTasks w.cache.now (ScanItem.ofPods pods testAll)) w.recording).2.cache.now :=
    congrArg (fun w => w.cache.now) hworld.symm
  rw [hnow]
  exact forall₂_zipWith hends fun item ending hending => ScanItem.mayCome_outcome hending

theorem ScanItem.ofPods_containers (pods : List Pod) (testAll : Bool) :
    (ofPods pods testAll).map (fun item => (item.pod, item.container)) =
      pods.flatMap fun pod => pod.allContainers.map fun container => (pod, container) := by
  simp only [ofPods, List.map_flatMap, List.map_map]
  rfl

/-- **Every container of a scan is accounted for.**  In order, each container has one result, and
    it is one that may come of it; the summary is made of these results.  The token and what the
    cache holds at first are arbitrary. -/
theorem scanPods_accounts (service : Service σ) (token : Token) (pods : List Pod)
    (testAll : Bool) (w : World σ) :
    let items := ScanItem.ofPods pods testAll
    let results := scanResults service token pods testAll w
    let summary := (scanPods service token pods testAll w).1
    let record := scanRecord service token pods testAll w
    let stopped := token.stopsWait (scanPods service token pods testAll w).2.cache.now
    items.map (fun item => (item.pod, item.container)) =
        pods.flatMap (fun pod => pod.allContainers.map fun container => (pod, container)) ∧
      List.Forall₂ (fun item result => item.MayCome record stopped result) items results ∧
      summary = .ofOutcomes (results.map Prod.fst) ∧
      (summary.reports.map fun report => (report.space, report.pod, report.container)).Sublist
        (items.map ScanItem.label) ∧
      summary.reports.length + summary.notFound + summary.failures + summary.cancelled +
        items.countP ScanItem.isSkipped = items.length ∧
      ((∀ item ∈ items, item.isInvalid = false) →
        (∀ location error, .tags location (.error error) ∉ record) → summary.failures = 0) ∧
      (stopped = false → summary.cancelled = 0) := by
  intro items results summary record stopped
  have hresults : List.Forall₂ (fun item result => item.MayCome record stopped result) items
      results := scanResults_mayCome service token pods testAll w
  have hsummary : summary = .ofOutcomes (results.map Prod.fst) := rfl
  refine ⟨ScanItem.ofPods_containers pods testAll, hresults, hsummary, ?_, ?_, ?_, ?_⟩
  · exact reports_sublist hresults
  · rw [← count_skipped hresults, hsummary, ScanSummary.total_ofOutcomes, List.length_map,
      hresults.length_eq]
  · exact failures_eq_zero hresults
  · intro hlive
    rw [hlive] at hresults
    exact cancelled_eq_zero hresults

end AnyEngine

/-- A pod of which nothing runs yet, with annotations that are invalid. -/
def undecidedPod : Pod :=
  ⟨⟨"web", "default", [("enable.version-checker.io/app", "maybe")]⟩,
    ⟨[⟨"app", "nginx:1.0.0"⟩], []⟩, ⟨[], []⟩⟩

/-- Invalid annotations come first: a container that has them is a failure even if it runs nothing.
    Where every container that is disabled or runs nothing is taken to be skipped, the numbers do
    not add up. -/
theorem scanPods_fails_invalid_idle :
    let items := ScanItem.ofPods [undecidedPod] false
    let summary := (scanPods nginxRegistry .live [undecidedPod] false (.fresh 60000 0 0)).1
    items.countP (fun item => item.isDisabled || item.isIdle) = 1 ∧ summary.failures = 1 ∧
      summary.reports.length + summary.notFound + summary.failures + summary.cancelled +
        items.countP (fun item => item.isDisabled || item.isIdle) ≠ items.length := by
  decide +kernel

end ImageFreshness
