import ImageFreshness.Pattern.Compile
import ImageFreshness.Proofs.CheckCourse
import ImageFreshness.Proofs.Lists
import ImageFreshness.Proofs.ScheduleRuns
import ImageFreshness.Scan.Basic

/-!
# The independence of the checks of a scan

A scan makes its checks side by side with one cache.  Each of them ends as it would by itself with
a cache of its own: what other containers there are, how their checks end and how long their
fetches take makes no difference.

The checks may find what others have stored, fetch one image at the same time, or find an entry
that has expired meanwhile.  The invariant of a run, `AllOnCourse`, does not tell these cases
apart: it only says that the cache agrees with the registries and that every task is on its way.
It is kept by each step of each task (`AllOnCourse.step`), so it does not matter in which order
the fetches end.
-/

namespace ImageFreshness

section AnyEngine

variable [PatternEngine]

namespace CheckTask

variable {σ : Type} {service : Service σ} {answers : Answers}

/-! ### Runs of checks end -/

theorem remaining_afterLookup (s : Subject) (stage : LookupStage) (w : World σ) :
    (afterLookup service s stage w).1.remaining ≤ 1 := by
  cases stage with
  | ended ending => exact Nat.zero_le _
  | fetching running flight =>
    simp only [afterLookup]
    split
    · exact Nat.zero_le _
    · exact Nat.le_refl _

theorem remaining_afterStart (s : Subject) (stage : StartStage) (w : World σ) :
    (afterStart service s stage w).1.remaining ≤ 2 := by
  cases stage with
  | lookup stage => exact Nat.le_succ_of_le (remaining_afterLookup s stage w)
  | resolving =>
    simp only [afterStart]
    split
    · exact Nat.le_succ_of_le (remaining_afterLookup s _ _)
    · exact Nat.le_refl _

theorem schedule_ends (service : Service σ) (token : Token) : (schedule service token).Ends where
  advance_reaches := fun w instant => Nat.le_max_right w.cache.now instant
  resume_remaining := by
    intro task w hdue
    cases task with
    | starting start s =>
      cases s with
      | none => exact Nat.zero_lt_succ 2
      | some s => exact Nat.lt_succ_of_le (remaining_afterStart s _ _)
    | resolving s ready answer => exact Nat.lt_succ_of_le (remaining_afterLookup s _ _)
    | fetching s running flight ready answer => exact Nat.zero_lt_one
    | ended ending => exact absurd rfl hdue

/-! ### The invariant of a run -/

/-- The cache agrees with the registries, and every task is on its way to the end of its
    subject. -/
structure AllOnCourse (answers : Answers) (subjects : List (Option Subject))
    (tasks : List CheckTask) (w : World σ) : Prop where
  agrees : answers.AgreesWith (some · ∈ subjects) w.cache.cache
  onCourse : List.Forall₂ (fun subject task => task.OnCourse answers subject) subjects tasks
  flights : AllInFlight tasks w

/-- Every step of a task keeps the invariant. -/
theorem AllOnCourse.step (hgives : service.Gives answers) {subjects : List (Option Subject)}
    (hkeys : KeysApart (some · ∈ subjects)) {before after : List CheckTask}
    {task next : CheckTask} {w w' : World σ}
    (h : AllOnCourse answers subjects (before ++ task :: after) w)
    (hstep : Step service .live w task next w') :
    AllOnCourse answers subjects (before ++ next :: after) w' := by
  have hflight : task.InFlight w.cache := h.flights.inFlight task (by simp)
  have hcourse (subject : Option Subject) (hmem : subject ∈ subjects)
      (hthis : task.OnCourse answers subject) :=
    hstep.onCourse hgives hkeys (fun s hs => hs ▸ hmem) h.agrees hflight hthis
  obtain ⟨subject, hmem, hthis⟩ := exists_of_forall₂_of_mem h.onCourse (y := task) (by simp)
  refine ⟨(hcourse subject hmem hthis).2, ?_, h.flights.step hstep⟩
  refine forall₂_replace h.onCourse (fun _ _ _ hother => hother) fun subject' hmem' hthis' => ?_
  exact (hcourse subject' hmem' hthis').1

/-- So does the passing of time. -/
theorem AllOnCourse.advanceTo {subjects : List (Option Subject)} {tasks : List CheckTask}
    {w : World σ} (h : AllOnCourse answers subjects tasks w) (instant : Nat) :
    AllOnCourse answers subjects tasks { w with cache := w.cache.advanceTo instant } where
  agrees := h.agrees.within (w.cache.advanceTo_within instant)
  onCourse := h.onCourse
  flights := h.flights.advanceTo instant

theorem AllOnCourse.run (hgives : service.Gives answers) {subjects : List (Option Subject)}
    (hkeys : KeysApart (some · ∈ subjects)) {tasks : List CheckTask} {w : World σ}
    (h : AllOnCourse answers subjects tasks w) :
    AllOnCourse answers subjects ((schedule service .live).run tasks w).1
      ((schedule service .live).run tasks w).2 :=
  (schedule service .live).run_induction (AllOnCourse answers subjects)
    (fun _ _ instant h _ => h.advanceTo instant)
    (fun _ task _ w h _ => h.step hgives hkeys (resume_step service .live task w)) h

/-! ### What comes of a run -/

theorem AllOnCourse.of_starting {subjects : List (Option Subject)} {tasks : List CheckTask}
    {w : World σ} (hagrees : answers.AgreesWith (some · ∈ subjects) w.cache.cache)
    (hstarting : List.Forall₂ (fun subject task => ∃ start, task = .starting start subject)
      subjects tasks) : AllOnCourse answers subjects tasks w where
  agrees := hagrees
  onCourse := hstarting.imp fun subject task htask => by
    obtain ⟨start, rfl⟩ := htask
    rfl
  flights := .of_starting fun task hmem => by
    obtain ⟨subject, -, start, htask⟩ := exists_of_forall₂_of_mem hstarting hmem
    exact ⟨start, subject, htask⟩

/-- What holds between the subjects and their tasks, all of which have ended, holds between the
    subjects and the ends. -/
theorem forall₂_endings {token : Token} {R : Option Subject → CheckTask → Prop}
    {S : Option Subject → CheckEnding → Prop} {subjects : List (Option Subject)}
    {tasks : List CheckTask} (h : List.Forall₂ R subjects tasks)
    (hended : ∀ task ∈ tasks, task.due? token = none)
    (himp : ∀ subject ending, R subject (.ended ending) → S subject ending) :
    List.Forall₂ S subjects (tasks.filterMap ending?) := by
  induction h with
  | nil => exact .nil
  | @cons subject task subjects tasks htask _ ih =>
    have hnone := hended task List.mem_cons_self
    cases task with
    | ended ending =>
      have hrest := ih fun task hmem => hended task (List.mem_cons_of_mem _ hmem)
      exact .cons (himp subject ending htask) hrest
    | starting | resolving | fetching => cases hnone

/-- Checks that share a cache which agrees with the registries all end as the registries' answers
    call for. -/
theorem AllOnCourse.runAll (hgives : service.Gives answers) {subjects : List (Option Subject)}
    (hkeys : KeysApart (some · ∈ subjects)) {tasks : List CheckTask} {w : World σ}
    (h : AllOnCourse answers subjects tasks w) :
    (runAll service .live tasks w).1 = subjects.map answers.endingOf := by
  have hended := (schedule_ends service .live).due?_of_mem_run tasks w
  have hendings : List.Forall₂ (fun subject ending => ending = answers.endingOf subject) subjects
      (CheckTask.runAll service .live tasks w).1 :=
    forall₂_endings (h.run hgives hkeys).onCourse hended fun _ _ hending => hending
  have hequal : List.Forall₂ (· = ·) (CheckTask.runAll service .live tasks w).1
      (subjects.map answers.endingOf) := by
    rw [List.forall₂_map_right_iff]
    exact hendings.flip
  rwa [List.forall₂_eq_eq_eq] at hequal

end CheckTask

/-- A check by itself ends in the same way. -/
theorem Subject.check_eq_settle {σ : Type} {service : Service σ} {answers : Answers}
    (hgives : service.Gives answers) (s : Subject) {w : World σ}
    (hempty : w.cache.cache.entries = []) :
    (s.check service .live w).1 = s.settle answers := by
  have hkeys : KeysApart (some · ∈ [some s]) := by
    intro a b ha hb _
    simp only [List.mem_singleton, Option.some.injEq] at ha hb
    rw [ha, hb]
  have hcourse : CheckTask.AllOnCourse answers [some s] [.starting w.cache.now (some s)] w :=
    .of_starting (.of_entries_nil hempty) (.cons ⟨w.cache.now, rfl⟩ .nil)
  have hendings := hcourse.runAll hgives hkeys
  simp only [Subject.check, hendings]
  rfl

/-! ### Scans -/

/-- What comes of the containers of a scan, in order, with the notices about them. -/
def scanResults {σ : Type} (service : Service σ) (token : Token) (pods : List Pod)
    (testAll : Bool) (w : World σ) : List (Outcome × List Notice) :=
  let items := ScanItem.ofPods pods testAll
  List.zipWith ScanItem.outcome items
    (CheckTask.runAll service token (scanTasks w.cache.now items) w).1

def scanOutcomes {σ : Type} (service : Service σ) (token : Token) (pods : List Pod)
    (testAll : Bool) (w : World σ) : List Outcome :=
  (scanResults service token pods testAll w).map Prod.fst

theorem scanPods_eq_ofOutcomes {σ : Type} (service : Service σ) (token : Token) (pods : List Pod)
    (testAll : Bool) (w : World σ) :
    (scanPods service token pods testAll w).1 =
      .ofOutcomes (scanOutcomes service token pods testAll w) :=
  rfl

/-- What comes of a container by the answers of the registries. -/
def ScanItem.settle (answers : Answers) (item : ScanItem) : Outcome :=
  (item.outcome (answers.endingOf item.subject?)).1

theorem scanTasks_starting (now : Nat) (items : List ScanItem) :
    List.Forall₂ (fun subject task => ∃ start, task = CheckTask.starting start subject)
      (items.map ScanItem.subject?) (scanTasks now items) := by
  have hitems : items.map ScanItem.subject? = items.zipIdx.map (ScanItem.subject? ∘ Prod.fst) := by
    rw [← List.map_map, List.zipIdx_map_fst]
  rw [hitems, scanTasks, List.forall₂_map_left_iff, List.forall₂_map_right_iff,
    List.forall₂_same]
  rintro ⟨item, i⟩ -
  exact ⟨now + staggerDelay * i, rfl⟩

theorem scanOutcomes_eq_settle {σ : Type} {service : Service σ} {answers : Answers}
    (hgives : service.Gives answers) {pods : List Pod} {testAll : Bool} {w : World σ}
    (hagrees : answers.AgreesWith
      (some · ∈ (ScanItem.ofPods pods testAll).map ScanItem.subject?) w.cache.cache)
    (hkeys : KeysApart (some · ∈ (ScanItem.ofPods pods testAll).map ScanItem.subject?)) :
    scanOutcomes service .live pods testAll w =
      (ScanItem.ofPods pods testAll).map (ScanItem.settle answers) := by
  have hcourse := CheckTask.AllOnCourse.of_starting hagrees
    (scanTasks_starting w.cache.now (ScanItem.ofPods pods testAll))
  simp only [scanOutcomes, scanResults, hcourse.runAll hgives hkeys, List.map_map]
  rw [List.map_zipWith, List.zipWith_map_right, List.zipWith_self]
  rfl

/-! ### Containers by themselves -/

/-- A world at an instant, with an empty cache. -/
def World.fresh {σ : Type} (ttl now : Nat) (registry : σ) : World σ :=
  ⟨{ CacheSession.start ttl with now }, registry⟩

/-- Checks one container by itself, with an empty cache of its own: what comes of it, and the
    instant and the registry after that. -/
def ScanItem.checkAlone {σ : Type} (service : Service σ) (ttl : Nat) (item : ScanItem)
    (now : Nat) (registry : σ) : Outcome × Nat × σ :=
  match item.subject? with
  | some s =>
    let (ending, w) := s.check service .live (.fresh ttl now registry)
    ((item.outcome ending).1, w.cache.now, w.registry)
  | none => ((item.outcome (.ok none)).1, now, registry)

/-- Checks containers one after another, each with an empty cache of its own. -/
def scanOneByOne {σ : Type} (service : Service σ) (ttl : Nat) :
    List ScanItem → Nat → σ → List Outcome
  | [], _, _ => []
  | item :: rest, now, registry =>
    let (outcome, now, registry) := item.checkAlone service ttl now registry
    outcome :: scanOneByOne service ttl rest now registry

theorem ScanItem.checkAlone_eq_settle {σ : Type} {service : Service σ} {answers : Answers}
    (hgives : service.Gives answers) (ttl : Nat) (item : ScanItem) (now : Nat) (registry : σ) :
    (item.checkAlone service ttl now registry).1 = item.settle answers := by
  unfold checkAlone settle
  cases item.subject? with
  | none => rfl
  | some s =>
    have hending := s.check_eq_settle hgives (w := .fresh ttl now registry) rfl
    simp only [hending]
    rfl

theorem scanOneByOne_eq_settle {σ : Type} {service : Service σ} {answers : Answers}
    (hgives : service.Gives answers) (ttl : Nat) (items : List ScanItem) (now : Nat)
    (registry : σ) :
    scanOneByOne service ttl items now registry = items.map (ScanItem.settle answers) := by
  induction items generalizing now registry with
  | nil => rfl
  | cons item rest ih =>
    simp only [scanOneByOne, List.map_cons, ih, item.checkAlone_eq_settle hgives]

/-- Two registries answer in the same way what a check asks. -/
structure Answers.AgreeFor (answers answers' : Answers) (s : Subject) : Prop where
  tags : answers.tags s.location = answers'.tags s.location
  resolve : answers.resolve s.image.url s.image.digest = answers'.resolve s.image.url s.image.digest

theorem Subject.settle_congr {answers answers' : Answers} {s : Subject}
    (h : answers.AgreeFor answers' s) : s.settle answers = s.settle answers' := by
  simp only [settle, runningTag, h.tags, h.resolve]

theorem ScanItem.settle_congr {answers answers' : Answers} {item : ScanItem}
    (h : ∀ s, item.subject? = some s → answers.AgreeFor answers' s) :
    item.settle answers = item.settle answers' := by
  unfold settle
  cases hsubject : item.subject? with
  | none => rfl
  | some s => simp only [Answers.endingOf, s.settle_congr (h s hsubject)]

/-- **Checks of a scan are independent.**  What comes of a scan that starts with an empty cache is
    what comes of checks which are made one after another, each with an empty cache of its own: its
    reports are theirs, in order, and it counts the others of them.  What comes of a container is
    what comes of it by itself with any registry that answers the questions about this container in
    the same way, whatever it answers to others, and however long that takes. -/
theorem scanPods_refines_separate_checks {σ : Type} {service : Service σ} {answers : Answers}
    (hgives : service.Gives answers) (pods : List Pod) (testAll : Bool) (w : World σ)
    (hempty : w.cache.cache.entries = [])
    (hkeys : KeysApart (some · ∈ (ScanItem.ofPods pods testAll).map ScanItem.subject?))
    (now : Nat) (registry : σ) :
    let outcomes :=
      scanOneByOne service w.cache.cache.ttl (ScanItem.ofPods pods testAll) now registry
    let summary := (scanPods service .live pods testAll w).1
    (summary.reports = outcomes.filterMap (fun outcome =>
        match outcome with
        | .reported report => some report
        | _ => none) ∧
      summary.notFound = outcomes.count .notFound ∧ summary.failures = outcomes.count .failed ∧
      summary.cancelled = outcomes.count .cancelled) ∧
      scanOutcomes service .live pods testAll w = outcomes ∧
      summary = .ofOutcomes (scanOutcomes service .live pods testAll w) ∧
      ∀ (i : Nat) (item : ScanItem), (ScanItem.ofPods pods testAll)[i]? = some item →
        ∀ (σ' : Type) (service' : Service σ') (answers' : Answers), service'.Gives answers' →
          (∀ s, item.subject? = some s → answers.AgreeFor answers' s) →
          ∀ (ttl' now' : Nat) (registry' : σ'),
            (scanOutcomes service .live pods testAll w)[i]? =
              some (item.checkAlone service' ttl' now' registry').1 := by
  intro outcomes summary
  have hsettled := scanOutcomes_eq_settle hgives (.of_entries_nil hempty) hkeys
  have houtcomes : scanOutcomes service .live pods testAll w = outcomes :=
    hsettled.trans (scanOneByOne_eq_settle hgives _ _ now registry).symm
  have hsummary : summary = .ofOutcomes (scanOutcomes service .live pods testAll w) :=
    scanPods_eq_ofOutcomes service .live pods testAll w
  refine ⟨?_, houtcomes, hsummary, ?_⟩
  · rw [hsummary, houtcomes]
    exact ⟨rfl, rfl, rfl, rfl⟩
  · intro i item hitem σ' service' answers' hgives' hsame ttl' now' registry'
    rw [hsettled, List.getElem?_map, hitem, item.checkAlone_eq_settle hgives',
      ← ScanItem.settle_congr hsame]
    rfl

end AnyEngine

/-! ### A scan with a slow and a failing fetch -/

/-- A pod that runs two versions of one image, and another image. -/
def mixedPod : Pod :=
  ⟨⟨"web", "default", []⟩,
    ⟨[⟨"old", "nginx:1.0.0"⟩, ⟨"new", "nginx:1.1.0"⟩, ⟨"cache", "redis:7.0.0"⟩], []⟩,
    ⟨[⟨"old", "nginx@sha256:a"⟩, ⟨"new", "nginx@sha256:b"⟩, ⟨"cache", "redis@sha256:c"⟩], []⟩⟩

/-- A registry that knows one image. -/
def nginxAnswers : Answers where
  tags location :=
    if location.image = "nginx" then .ok [.ofDigest "1.1.0" "sha256:b"] else .error .network
  resolve _ digest := .error (.notFound digest)

/-- It takes less time the more it has been asked, so a fetch may overtake those before it. -/
def nginxRegistry : Service Nat where
  tags location asked := (⟨40 / (asked + 1), nginxAnswers.tags location, []⟩, asked + 1)
  resolve url digest asked := (⟨0, nginxAnswers.resolve url digest, []⟩, asked + 1)

theorem nginxRegistry_gives : nginxRegistry.Gives nginxAnswers :=
  ⟨fun _ _ => rfl, fun _ _ _ => rfl⟩

theorem mixedPod_keysApart :
    KeysApart (some · ∈ (ScanItem.ofPods [mixedPod] true).map ScanItem.subject?) := by
  have hsubjects : (ScanItem.ofPods [mixedPod] true).map ScanItem.subject? =
      mixedPod.spec.containers.map fun container => some ⟨mixedPod, container, .empty⟩ := rfl
  have hkeys : ∀ a ∈ mixedPod.spec.containers, ∀ b ∈ mixedPod.spec.containers,
      Subject.cacheKey ⟨mixedPod, a, .empty⟩ = Subject.cacheKey ⟨mixedPod, b, .empty⟩ →
      Subject.lookupUrl ⟨mixedPod, a, .empty⟩ = Subject.lookupUrl ⟨mixedPod, b, .empty⟩ := by
    decide +kernel
  intro s s' hs hs'
  rw [hsubjects] at hs hs'
  obtain ⟨a, ha, hsa⟩ := List.mem_map.mp hs
  obtain ⟨b, hb, hsb⟩ := List.mem_map.mp hs'
  rw [← Option.some.inj hsa, ← Option.some.inj hsb]
  exact hkeys a ha b hb

/-- The two checks of one image fetch its tags at the same time, and the fetch of the other one
    fails. -/
theorem scanPods_refines_separate_checks_mixedPod :
    nginxRegistry.Gives nginxAnswers ∧
      KeysApart (some · ∈ (ScanItem.ofPods [mixedPod] true).map ScanItem.subject?) ∧
      scanOutcomes nginxRegistry .live [mixedPod] true (.fresh 60000 0 0) =
        scanOneByOne nginxRegistry 60000 (ScanItem.ofPods [mixedPod] true) 0 0 ∧
      (scanPods nginxRegistry .live [mixedPod] true (.fresh 60000 0 0)).1.failures = 1 := by
  obtain ⟨⟨-, -, hfailures, -⟩, houtcomes, -⟩ := scanPods_refines_separate_checks
    nginxRegistry_gives [mixedPod] true (.fresh 60000 0 0) rfl mixedPod_keysApart 0 0
  have hcount : (scanOneByOne nginxRegistry 60000 (ScanItem.ofPods [mixedPod] true) 0 0).count
      .failed = 1 := by decide +kernel
  exact ⟨nginxRegistry_gives, mixedPod_keysApart, houtcomes, hfailures.trans hcount⟩

end ImageFreshness
