import ImageFreshness.Command.Run
import ImageFreshness.Pattern.Compile
import ImageFreshness.Proofs.JsonOutput
import ImageFreshness.Proofs.PodLists
import ImageFreshness.Proofs.ScanAccounts

/-!
# What a run writes

A check that gets as far as its file of pods (`CheckOptions.Reads`) writes a line for each report
of the scan, and nothing else.  The reports are read back from the lines, and the lines from the
standard output, whatever characters the names in the reports hold.  What is not reported shows in
the exit code only, and there only failures count (`CheckOptions.run_tells`).
-/

namespace ImageFreshness

open Text

variable {σ : Type}

/-! ### Lines of reports -/

def Json.bool? : Json → Option Bool
  | .bool value => some value
  | _ => none

namespace ContainerReport

/-- The report that a line tells. -/
def ofLine? (line : String) : Option ContainerReport := do
  let members ← (Json.parse line).toOption >>= Json.members?
  let string (name : String) := members.lookup name >>= Json.string?
  let verdict : Verdict := {
    currentVersion := ← string "currentVersion"
    latestVersion := ← string "latestVersion"
    isLatest := ← members.lookup "isLatest" >>= Json.bool?
    imageUrl := ← string "imageUrl" }
  return ⟨← string "namespace", ← string "pod", ← string "container", verdict⟩

variable (r : ContainerReport)

theorem numberFree_toJson : Json.NumberFree Json.maxDepth r.toJson := by
  refine .object ?_
  iterate 5 refine List.forall_mem_cons.mpr ⟨.string _, ?_⟩
  exact List.forall_mem_cons.mpr ⟨.bool _, List.forall_mem_singleton.mpr (.string _)⟩

/-- A report is read back from its line. -/
theorem ofLine?_text : ofLine? r.toJson.text = some r := by
  rw [ofLine?, r.numberFree_toJson.parse_text]
  rfl

theorem newline_notMem_text : '\n' ∉ r.toJson.text.toList := by
  rw [Json.text, String.toList_ofList]
  exact r.numberFree_toJson.isLine.newline_notMem

end ContainerReport

/-- What is on the standard output: the lines, each with a line break behind it. -/
def RunReport.stdout (r : RunReport σ) : List Char :=
  r.output.flatMap fun line => line.toList ++ ['\n']

/-- Lines are told apart by the line breaks behind them. -/
theorem splitOn_terminated {lines : List String} (h : ∀ line ∈ lines, '\n' ∉ line.toList) :
    (lines.flatMap fun line => line.toList ++ ['\n']).splitOn '\n' =
      lines.map String.toList ++ [[]] := by
  induction lines with
  | nil => rfl
  | cons line lines ih =>
    -- the first line break is the one behind the line, since there is none in it
    have hline : ∀ c ∈ line.toList, (c == '\n') = false := by
      intro c hc
      exact beq_eq_false_iff_ne.mpr fun hbreak => h line List.mem_cons_self (hbreak ▸ hc)
    rw [List.flatMap_cons, List.append_assoc, List.singleton_append, List.splitOn,
      List.splitOnP_append_cons_of_forall_mem hline '\n' rfl, List.map_cons, List.cons_append]
    exact congrArg _ (ih fun other hother => h other (List.mem_cons_of_mem _ hother))

/-! ### The course of a run -/

/-- The world in which the scan of a run starts. -/
def Config.startWorld (config : Config) (state : σ) : World σ :=
  ⟨(CacheSession.start config.cache.timeout).startCollector config.cache.sweepInterval, state⟩

theorem run_bind_of_run_eq {S α β : Type} {x : StateM S α} {s s' : S} {a : α}
    (h : x.run s = (a, s')) (f : α → StateM S β) : (x >>= f).run s = (f a).run s' := by
  rw [StateT.run_bind, h]
  rfl

theorem RunFailure.exitCode_ne_zero (failure : RunFailure) : failure.exitCode ≠ 0 := by
  cases failure with
  | closedLog directory fault => cases fault <;> exact Nat.succ_ne_zero _
  | _ => exact Nat.succ_ne_zero _

theorem RunReport.exitCode_eq_zero_iff {report : RunReport σ} :
    report.exitCode = 0 ↔ report.failure = none := by
  rw [RunReport.exitCode]
  cases report.failure with
  | none => exact iff_of_true rfl rfl
  | some failure => exact iff_of_false failure.exitCode_ne_zero (Option.some_ne_none failure)

namespace CheckOptions

variable {S : Type} {options : CheckOptions} {storage : Storage (StateM S)} {vars : Variables}
  {disk : S} (connect : DistributionClient → Service σ) (state : σ)

variable (options storage vars disk) in
/-- A run opens the log, loads a configuration and reads the file of pods, with this result.  The
    configuration given is the one in effect, to which the option for all containers belongs. -/
inductive Reads : Config → Except ReadFault ByteArray → Prop where
  | mk {log : LogSetup} {config : Config} {file : Except ReadFault ByteArray}
      {opened loaded left : S} :
      (openLog storage vars options.logFormat options.logTarget).run disk = (.ok log, opened) →
      (loadConfig storage options.config).run opened = (.ok config, loaded) →
      (storage.read options.pod).run loaded = (file, left) →
      Reads { config with
        testAllContainers := config.testAllContainers || options.testAllContainers } file

variable [PatternEngine]

theorem Reads.run {config : Config} {file : Except ReadFault ByteArray}
    (h : options.Reads storage vars disk config file) :
    ((options.run storage vars connect state).run disk).1.output =
        (checkPods config options.pod file connect state).output ∧
      ((options.run storage vars connect state).run disk).1.failure =
        (checkPods config options.pod file connect state).failure.map .check := by
  obtain @⟨log, config, file, opened, loaded, left, hopened, hloaded, hread⟩ := h
  rw [CheckOptions.run, run_bind_of_run_eq hopened, run_bind_of_run_eq hloaded,
    run_bind_of_run_eq hread]
  exact ⟨rfl, rfl⟩

/-- A run that does not get as far as the file of pods writes nothing and fails. -/
theorem silent_of_not_reads (h : ∀ config file, ¬ options.Reads storage vars disk config file) :
    ((options.run storage vars connect state).run disk).1.output = [] ∧
      ((options.run storage vars connect state).run disk).1.exitCode ≠ 0 := by
  rcases hopened : (openLog storage vars options.logFormat options.logTarget).run disk with
    ⟨failure | log, opened⟩
  · rw [CheckOptions.run, run_bind_of_run_eq hopened]
    exact ⟨rfl, failure.exitCode_ne_zero⟩
  · rcases hloaded : (loadConfig storage options.config).run opened with ⟨failure | config, loaded⟩
    · rw [CheckOptions.run, run_bind_of_run_eq hopened, run_bind_of_run_eq hloaded]
      exact ⟨rfl, failure.exitCode_ne_zero⟩
    · exact absurd (.mk hopened hloaded rfl) (h _ _)

end CheckOptions

/-! ### What is written -/

section Checks

variable [PatternEngine] (config : Config) (path : String) {file : Except ReadFault ByteArray}
  {text : String} {pods : List Pod} {client : DistributionClient}
  (connect : DistributionClient → Service σ) (state : σ)

/-- A file without pods is not checked. -/
theorem checkPods_of_no_pods
    (h : ∀ text pods, readText file = .ok text → Pod.parseAll text ≠ .ok pods) :
    (checkPods config path file connect state).output = [] ∧
      ∃ failure, (checkPods config path file connect state).failure = some failure := by
  cases hread : readText file with
  | error fault => simp [checkPods, hread]
  | ok text =>
    cases hparsed : Pod.parseAll text with
    | error fault => simp [checkPods, hread, hparsed]
    | ok pods => exact absurd hparsed (h text pods hread)

/-- A file with pods is checked, and the summary of the scan decides the rest. -/
theorem checkPods_of_pods (hread : readText file = .ok text)
    (hparsed : Pod.parseAll text = .ok pods)
    (hclient : DistributionClient.create config.registry.userAgent config.registry.insecureHosts =
      .ok client) :
    let summary := (scanPods (connect client) .live pods config.testAllContainers
      (config.startWorld state)).1
    (checkPods config path file connect state).output = summary.reports.map (·.toJson.text) ∧
      ((checkPods config path file connect state).failure = none ↔ summary.failures = 0) := by
  intro summary
  simp only [checkPods, hread, hparsed, hclient]
  refine ⟨rfl, ?_⟩
  change (if summary.failures = 0 then none else
    some (CheckFailure.failedChecks summary.failures)) = none ↔ summary.failures = 0
  simp

end Checks

/-- What a run tells of the results of a scan. -/
structure RunReport.Tells (report : RunReport σ) (results : List (Outcome × List Notice)) :
    Prop where
  output : report.output =
    (ScanSummary.ofOutcomes (results.map Prod.fst)).reports.map (·.toJson.text)
  /-- The lines say what the reports are. -/
  reports : report.output.map ContainerReport.ofLine? =
    (ScanSummary.ofOutcomes (results.map Prod.fst)).reports.map some
  stdout : report.stdout.splitOn '\n' = report.output.map String.toList ++ [[]]
  /-- The exit code says whether a check failed. -/
  exitCode : report.exitCode ≠ 0 ↔ ∃ result ∈ results, result.1 = .failed

theorem RunReport.Tells.of_summary {report : RunReport σ} {results : List (Outcome × List Notice)}
    (houtput : report.output =
      (ScanSummary.ofOutcomes (results.map Prod.fst)).reports.map (·.toJson.text))
    (hfailure : report.failure = none ↔
      (ScanSummary.ofOutcomes (results.map Prod.fst)).failures = 0) :
    report.Tells results where
  output := houtput
  reports := by
    rw [houtput, List.map_map]
    exact List.map_congr_left fun r _ => r.ofLine?_text
  stdout := by
    refine splitOn_terminated fun line hline => ?_
    rw [houtput] at hline
    obtain ⟨r, -, rfl⟩ := List.mem_map.mp hline
    exact r.newline_notMem_text
  exitCode := by
    rw [ne_eq, RunReport.exitCode_eq_zero_iff, hfailure, ScanSummary.ofOutcomes,
      ← ne_eq, ← Nat.pos_iff_ne_zero, List.count_pos_iff, List.mem_map]

/-- **A run tells all reports of its scan, and fails if a check fails.**  Each container has one
    result, whatever comes of the others.  The lines are those of the reports among the results, in
    order.  A run without a file of pods writes nothing and fails.  The storage, the registries and
    the time that they take are arbitrary. -/
theorem CheckOptions.run_tells [PatternEngine] {S : Type} (options : CheckOptions)
    (storage : Storage (StateM S)) (vars : Variables) (disk : S)
    (connect : DistributionClient → Service σ) (state : σ) :
    let report := ((options.run storage vars connect state).run disk).1
    (∀ config file text pods client, options.Reads storage vars disk config file →
      readText file = .ok text → Pod.parseAll text = .ok pods →
      DistributionClient.create config.registry.userAgent config.registry.insecureHosts =
        .ok client →
      let items := ScanItem.ofPods pods config.testAllContainers
      let w := config.startWorld state
      let results := scanResults (connect client) .live pods config.testAllContainers w
      let record := scanRecord (connect client) .live pods config.testAllContainers w
      List.Forall₂ (fun item result => item.MayCome record false result) items results ∧
        (scanPods (connect client) .live pods config.testAllContainers w).1 =
          .ofOutcomes (results.map Prod.fst) ∧
        report.Tells results) ∧
      (∀ config file, options.Reads storage vars disk config file →
        (∀ text pods, readText file = .ok text → Pod.parseAll text ≠ .ok pods) →
        report.output = [] ∧ report.exitCode = 1) ∧
      ((∀ config file, ¬ options.Reads storage vars disk config file) →
        report.output = [] ∧ report.exitCode ≠ 0) := by
  intro report
  refine ⟨?_, ?_, silent_of_not_reads connect state⟩
  · intro config file text pods client hreads hread hparsed hclient items w results record
    obtain ⟨hlines, hfails⟩ := hreads.run connect state
    obtain ⟨houtput, hfailure⟩ :=
      checkPods_of_pods config options.pod connect state hread hparsed hclient
    refine ⟨scanResults_mayCome (connect client) .live pods config.testAllContainers w, rfl, ?_⟩
    refine .of_summary (hlines.trans houtput) ?_
    rw [hfails, Option.map_eq_none_iff]
    exact hfailure
  · intro config file hreads hnone
    obtain ⟨hlines, hfails⟩ := hreads.run connect state
    obtain ⟨houtput, failure, hfailure⟩ :=
      checkPods_of_no_pods config options.pod connect state hnone
    refine ⟨hlines.trans houtput, ?_⟩
    rw [RunReport.exitCode, hfails, hfailure]
    rfl

/-- A storage with one text in every file. -/
def textStorage (text : String) : Storage (StateM Unit) where
  read _ := pure (.ok text.toUTF8)
  openLog _ _ := pure (.ok ())

/-- A pod with a line break in its name.  The registry refuses the image of its first container. -/
def brokenNamePod : Pod :=
  ⟨⟨"we\nb", "", []⟩, ⟨[⟨"cache", "redis:7.0.0"⟩, ⟨"old", "nginx:1.0.0"⟩], []⟩,
    ⟨[⟨"cache", "redis@sha256:c"⟩, ⟨"old", "nginx@sha256:a"⟩], []⟩⟩

/-- The same pod as a document. -/
def brokenNameValue : Json :=
  .object [("metadata", .object [("name", .string "we\nb")]),
    ("spec", .object [("containers", .array [
      .object [("name", .string "cache"), ("image", .string "redis:7.0.0")],
      .object [("name", .string "old"), ("image", .string "nginx:1.0.0")]])]),
    ("status", .object [("containerStatuses", .array [
      .object [("name", .string "cache"), ("imageID", .string "redis@sha256:c")],
      .object [("name", .string "old"), ("imageID", .string "nginx@sha256:a")]])])]

theorem brokenNameValue_numberFree : Json.NumberFree Json.maxDepth brokenNameValue := by
  have hpair {n : Nat} (s t u v : String) :
      Json.NumberFree (n + 1) (.object [(s, .string t), (u, .string v)]) :=
    .object (List.forall_mem_cons.mpr ⟨.string t, List.forall_mem_singleton.mpr (.string v)⟩)
  have hlist {n : Nat} {a b : Json} (s : String) (ha : Json.NumberFree n a)
      (hb : Json.NumberFree n b) : Json.NumberFree (n + 2) (.object [(s, .array [a, b])]) :=
    .object (List.forall_mem_singleton.mpr
      (.array (List.forall_mem_cons.mpr ⟨ha, List.forall_mem_singleton.mpr hb⟩)))
  refine .object (List.forall_mem_cons.mpr ⟨?_, List.forall_mem_cons.mpr ⟨?_, ?_⟩⟩)
  · exact .object (List.forall_mem_singleton.mpr (.string "we\nb"))
  · exact hlist "containers" (hpair ..) (hpair ..)
  · exact List.forall_mem_singleton.mpr (hlist "containerStatuses" (hpair ..) (hpair ..))

theorem parseAll_brokenNameValue : Pod.parseAll brokenNameValue.text = .ok [brokenNamePod] := by
  rw [Pod.parseAll_of_parse brokenNameValue_numberFree.parse_text]
  rfl

/-- A storage without files. -/
def noStorage : Storage (StateM Unit) where
  read _ := pure (.error .missing)
  openLog _ _ := pure (.ok ())

/-- A check of all containers, with the log on the standard error stream. -/
def plainCheck : CheckOptions := ⟨"pods.json", none, .text, .console, true⟩

theorem plainCheck_reads {storage : Storage (StateM Unit)} {file : Except ReadFault ByteArray}
    (h : (storage.read "pods.json").run () = (file, ())) :
    plainCheck.Reads storage (fun _ => none) ()
      { Config.default with testAllContainers := true } file :=
  .mk rfl rfl h

/-- The container that is refused is missing from the output, and the other one has its line.
    Without its files a run has no output. -/
theorem CheckOptions.run_tells_brokenName :
    let report := ((plainCheck.run (textStorage brokenNameValue.text) (fun _ => none)
      (fun _ => nginxRegistry) 0).run ()).1
    let podless := ((plainCheck.run noStorage (fun _ => none) (fun _ => nginxRegistry) 0).run ()).1
    let unconfigured := ((CheckOptions.run { plainCheck with config := some "config.json" }
      noStorage (fun _ => none) (fun _ => nginxRegistry) 0).run ()).1
    report.output.map ContainerReport.ofLine? =
        [some ⟨"", "we\nb", "old", "1.0.0", "1.1.0", false, "nginx"⟩] ∧
      report.stdout.splitOn '\n' = report.output.map String.toList ++ [[]] ∧
      report.exitCode ≠ 0 ∧ (podless.output = [] ∧ podless.exitCode = 1) ∧
      (unconfigured.output = [] ∧ unconfigured.exitCode ≠ 0) := by
  intro report podless unconfigured
  obtain ⟨htells, -⟩ := plainCheck.run_tells (textStorage brokenNameValue.text) (fun _ => none) ()
    (fun _ => nginxRegistry) 0
  obtain ⟨-, hpodless, -⟩ := plainCheck.run_tells noStorage (fun _ => none) ()
    (fun _ => nginxRegistry) 0
  obtain ⟨-, -, hunconfigured⟩ := CheckOptions.run_tells
    { plainCheck with config := some "config.json" } noStorage (fun _ => none) ()
    (fun _ => nginxRegistry) 0
  obtain ⟨-, -, htells⟩ := htells { Config.default with testAllContainers := true } _
    brokenNameValue.text [brokenNamePod]
    ⟨Config.default.registry.userAgent, none, Config.default.registry.insecureHosts⟩
    (plainCheck_reads rfl) (readText_toUTF8 brokenNameValue.text) parseAll_brokenNameValue rfl
  have hreports : (ScanSummary.ofOutcomes ((scanResults nginxRegistry .live [brokenNamePod] true
      (Config.default.startWorld 0)).map Prod.fst)).reports =
      [⟨"", "we\nb", "old", "1.0.0", "1.1.0", false, "nginx"⟩] := by
    decide +kernel
  have hfailed : ∃ result ∈ scanResults nginxRegistry .live [brokenNamePod] true
      (Config.default.startWorld 0), result.1 = .failed := by
    decide +kernel
  refine ⟨htells.reports.trans (congrArg _ hreports), htells.stdout, htells.exitCode.mpr hfailed,
    hpodless _ (.error .missing) (plainCheck_reads rfl) nofun, hunconfigured ?_⟩
  rintro config file ⟨-, hloaded, -⟩
  cases hloaded

end ImageFreshness
