import ImageFreshness.Proofs.CacheBackground
import ImageFreshness.Proofs.RegistryRecord
import ImageFreshness.Proofs.ScanIndependence

/-!
# A scan that is repeated

A scan that is repeated soon is served from the cache: it has the same summary, and asks for no
tags that the first one got (`scanPods_repeated`).

Soon means that the last lookup of the second scan comes before the first entry that the first one
has stored expires.  So there is a deadline before which all of these lookups come and until which
all of these entries last.  Both scans are followed with it:

* in the first, the entries of those checks that have ended with tags are there until the deadline
  (`AllStored`), unless the collector takes them after it;
* in the second, no check asks for tags that there are, and so nothing is stored (`AllServed`).
-/

namespace ImageFreshness

variable {σ : Type}

namespace CacheSession

variable {V : Type} {s t : CacheSession V} {deadline ttl : Nat} {key : String}

/-- All entries last until the deadline. -/
structure Lasts (s : CacheSession V) (ttl deadline : Nat) : Prop where
  ttl_eq : s.cache.ttl = ttl
  entry : ∀ key entry, s.cache.find? key = some entry → deadline ≤ entry.written + ttl

/-- There is an entry under the key until the deadline. -/
def Holds (s : CacheSession V) (deadline : Nat) (key : String) : Prop :=
  s.now < deadline → ∃ entry, s.cache.find? key = some entry

theorem Lasts.of_entries_nil (h : s.cache.entries = []) (deadline : Nat) :
    s.Lasts s.cache.ttl deadline := by
  refine ⟨rfl, ?_⟩
  intro key entry hentry
  simp [Cache.find?, h] at hentry

theorem Lasts.within (h : s.Lasts ttl deadline) (hwithin : t.cache.Within s.cache) :
    t.Lasts ttl deadline :=
  ⟨hwithin.ttl.trans h.ttl_eq, fun key entry hentry => h.entry key entry (hwithin.entry _ _ hentry)⟩

theorem Lasts.write {written : Nat} {value : V} (h : s.Lasts ttl deadline)
    (hlate : deadline ≤ written + ttl) (ht : t.cache = s.cache.write written key value) :
    t.Lasts ttl deadline := by
  refine ⟨?_, ?_⟩
  · rw [ht, Cache.ttl_write, h.ttl_eq]
  · intro k entry hentry
    rw [ht, Cache.find?_write] at hentry
    split at hentry
    · obtain rfl := Option.some.inj hentry
      exact hlate
    · exact h.entry k entry hentry

theorem Holds.congr (h : s.Holds deadline key) (hcache : t.cache = s.cache)
    (hnow : t.now = s.now) : t.Holds deadline key := by
  intro hsoon
  rw [hcache]
  exact h (hnow ▸ hsoon)

theorem Holds.write {written : Nat} {other : String} {value : V} (h : s.Holds deadline key)
    (ht : t.cache = s.cache.write written other value) (hnow : t.now = s.now) :
    t.Holds deadline key := by
  intro hsoon
  rw [ht, Cache.find?_write]
  split
  · exact ⟨_, rfl⟩
  · exact h (hnow ▸ hsoon)

theorem Lasts.isFresh (h : s.Lasts ttl deadline) {instant : Nat} (hsoon : instant < deadline)
    {entry : CacheEntry V} (hentry : s.cache.find? key = some entry) :
    s.cache.isFresh instant entry = true := by
  have hlate := h.entry key entry hentry
  rw [Cache.isFresh_iff, h.ttl_eq]
  omega

/-- Before the deadline nothing in the background takes an entry away. -/
theorem Holds.ages (h : s.Holds deadline key) (hlasts : s.Lasts ttl deadline) (hages : s.Ages t) :
    t.Holds deadline key := by
  intro hsoon
  obtain ⟨entry, hentry⟩ := h (Nat.lt_of_le_of_lt hages.now hsoon)
  have hthen : s.cache.unexpired? t.now key = some entry := by
    rw [Cache.unexpired?, hentry, Option.filter_some, if_pos (hlasts.isFresh hsoon hentry)]
  rw [← hages.cache.entry key] at hthen
  exact ⟨entry, Option.eq_some_of_filter_eq_some hthen⟩

theorem Holds.fresh (h : s.Holds deadline key) (hlasts : s.Lasts ttl deadline)
    (hsoon : s.now < deadline) : s.cache.fresh? s.now key ≠ none := by
  obtain ⟨entry, hentry⟩ := h hsoon
  have hfresh : s.cache.fresh? s.now key = some entry.value :=
    (s.cache.fresh?_eq_some).mpr ⟨entry, hentry, hlasts.isFresh hsoon hentry, rfl⟩
  rw [hfresh]
  exact Option.some_ne_none entry.value

end CacheSession

/-- One instant lies between all lookups and the ends of all entries. -/
theorem exists_deadline {T : Type} (lookups : List T) (looks : T → Prop) (time : T → Nat)
    (stores : Nat → Prop) (ttl : Nat)
    (h : ∀ store, stores store → ∀ lookup ∈ lookups, looks lookup → time lookup < store + ttl) :
    ∃ deadline, (∀ lookup ∈ lookups, looks lookup → time lookup < deadline) ∧
      ∀ store, stores store → deadline ≤ store + ttl := by
  induction lookups with
  | nil =>
    refine ⟨0, ?_, fun store _ => Nat.zero_le (store + ttl)⟩
    intro lookup hmem
    cases hmem
  | cons first rest ih =>
    obtain ⟨deadline, hlookups, hstores⟩ :=
      ih fun store hstore lookup hmem => h store hstore lookup (List.mem_cons_of_mem _ hmem)
    by_cases hfirst : looks first
    · refine ⟨max deadline (time first + 1), ?_, ?_⟩
      · intro lookup hmem hlooks
        rcases List.mem_cons.mp hmem with rfl | hmem
        · omega
        · have hbefore := hlookups lookup hmem hlooks
          omega
      · intro store hstore
        have hlate := hstores store hstore
        have hlater := h store hstore first List.mem_cons_self hfirst
        omega
    · refine ⟨deadline, ?_, hstores⟩
      intro lookup hmem hlooks
      rcases List.mem_cons.mp hmem with rfl | hmem
      · exact absurd hlooks hfirst
      · exact hlookups lookup hmem hlooks

theorem Service.Gives.recorded {service : Service σ} {answers : Answers}
    (h : service.Gives answers) : service.recorded.Gives answers :=
  ⟨fun location state => h.tags location state.1,
    fun url digest state => h.resolve url digest state.1⟩

theorem Service.Gives.eq_of_isWith {service : Service σ} {answers : Answers}
    (h : service.Gives answers) {location : ImageLocation}
    {answer : Except RegistryError (List ImageTag)}
    (hwith : RegistryExchange.IsWith service (.tags location answer)) :
    answer = answers.tags location := by
  obtain ⟨state, rfl⟩ := hwith
  exact h.tags location state

section AnyEngine

variable [PatternEngine]

/-- The container runs, and the registries have tags of its image. -/
structure Subject.HasTags (s : Subject) (answers : Answers) : Prop where
  runs : s.runningDigest ≠ ""
  tags : ∃ tags, answers.tags s.location = .ok tags

/-! ### The first scan -/

section First

variable {service : Service σ} {answers : Answers} {subjects : List (Option Subject)}
  {s : Subject} {running : RunningTag} {w w' : World σ} {task next : CheckTask}
  {before after : List CheckTask} {ending : CheckEnding} {ttl deadline : Nat}

theorem Subject.Fetched.holds {flight : Nat} {answer : Except RegistryError (List ImageTag)}
    {c c' : TagCache} (h : s.Fetched running flight false answer c ending c')
    (htags : ∃ tags, answer = .ok tags) (hawaits : c.Awaits flight s.cacheKey) :
    ∃ entry, c'.cache.find? s.cacheKey = some entry := by
  obtain ⟨tags, htags⟩ := htags
  cases h with
  | unknown hnone =>
    rw [hawaits.lookup] at hnone
    cases hnone
  | stopped notices hstop => cases hstop
  | refused hgo hanswer =>
    rw [htags] at hanswer
    cases hanswer
  | given hkey hgo hanswer =>
    obtain rfl := Option.some.inj (hawaits.lookup.symm.trans hkey)
    exact ⟨_, c.cache.find?_write_self c.now s.cacheKey _⟩

theorem Subject.LookedUp.holds (hgives : service.Gives answers) (hs : s.HasTags answers)
    (h : s.LookedUp service running false w (.ended ending) w') :
    ∃ entry, w'.cache.cache.find? s.cacheKey = some entry := by
  cases h with
  | hit notices hfresh =>
    obtain ⟨entry, hentry, -⟩ := (Cache.fresh?_eq_some _).mp hfresh
    exact ⟨entry, hentry⟩
  | stopped notices hstop => cases hstop
  | fetched notices hfresh hgo hasked hfetched =>
    rw [hgives.tags_eq hasked] at hfetched
    exact hfetched.holds hs.tags ((w.cache.depart_awaits s.cacheKey).note notices)

/-- A check that comes to its end with tags leaves them in the cache. -/
theorem CheckTask.Step.holds (hgives : service.Gives answers) (hs : s.HasTags answers)
    (hstep : Step service .live w task (.ended ending) w') (hflight : task.InFlight w.cache)
    (hcourse : task.OnCourse answers (some s)) (hgoes : ∀ ending, task ≠ .ended ending) :
    ∃ entry, w'.cache.cache.find? s.cacheKey = some entry := by
  cases hstep with
  | absent => cases hcourse
  | idle notices hidle =>
    obtain rfl := Option.some.inj hcourse
    exact absurd hidle hs.runs
  | stopped notices hruns hwants hstop => cases hstop
  | resolvedAtOnce hruns hwants hgo hasked hlooked =>
    obtain rfl := Option.some.inj hcourse
    exact hlooked.holds hgives hs
  | declared hruns hwants hlooked =>
    obtain rfl := Option.some.inj hcourse
    exact hlooked.holds hgives hs
  | resolvingStopped notices hstop => cases hstop
  | resolved hgo hlooked =>
    obtain rfl := Option.some.inj hcourse.1
    exact hlooked.holds hgives hs
  | fetched hfetched =>
    obtain ⟨hsubject, -, -, hanswer⟩ := hcourse
    obtain rfl := Option.some.inj hsubject
    exact hfetched.holds (hanswer ▸ hs.tags) hflight
  | ended => exact absurd rfl (hgoes ending)

/-- If the check of a subject with tags has ended, its tags are there until the deadline. -/
def CheckTask.Stored (answers : Answers) (deadline : Nat) (c : TagCache)
    (subject : Option Subject) (task : CheckTask) : Prop :=
  ∀ s ending, subject = some s → task = .ended ending → s.HasTags answers →
    c.Holds deadline s.cacheKey

/-- The invariant of the first scan. -/
structure AllStored (answers : Answers) (subjects : List (Option Subject)) (ttl deadline : Nat)
    (tasks : List CheckTask) (w : World σ) : Prop where
  course : CheckTask.AllOnCourse answers subjects tasks w
  lasts : w.cache.Lasts ttl deadline
  stored : List.Forall₂ (CheckTask.Stored answers deadline w.cache) subjects tasks

theorem AllStored.of_starting {tasks : List CheckTask} (hempty : w.cache.cache.entries = [])
    (hstarting : List.Forall₂ (fun subject task => ∃ start, task = .starting start subject)
      subjects tasks) (deadline : Nat) :
    AllStored answers subjects w.cache.cache.ttl deadline tasks w where
  course := .of_starting (.of_entries_nil hempty) hstarting
  lasts := .of_entries_nil hempty deadline
  stored := hstarting.imp fun subject task htask s ending _ hended => by
    obtain ⟨start, rfl⟩ := htask
    cases hended

theorem AllStored.step (hgives : service.Gives answers)
    (hkeys : KeysApart (some · ∈ subjects))
    (h : AllStored answers subjects ttl deadline (before ++ task :: after) w)
    (hstep : CheckTask.Step service .live w task next w')
    (hlate : w'.cache.cache ≠ w.cache.cache → deadline ≤ w.cache.now + ttl) :
    AllStored answers subjects ttl deadline (before ++ next :: after) w' := by
  have hnow := hstep.now_eq
  have hstores : w'.cache.cache = w.cache.cache ∨ deadline ≤ w.cache.now + ttl ∧
      ∃ key tags, w'.cache.cache = w.cache.cache.write w.cache.now key tags := by
    by_cases hsame : w'.cache.cache = w.cache.cache
    · exact Or.inl hsame
    · exact Or.inr ⟨hlate hsame, hstep.stores.resolve_left hsame⟩
  have hkept (key : String) (hholds : w.cache.Holds deadline key) :
      w'.cache.Holds deadline key := by
    rcases hstores with hsame | ⟨-, other, tags, hwrite⟩
    · exact hholds.congr hsame hnow
    · exact hholds.write hwrite hnow
  refine ⟨h.course.step hgives hkeys hstep, ?_, ?_⟩
  · rcases hstores with hsame | ⟨hlate, key, tags, hwrite⟩
    · exact h.lasts.within (hsame ▸ .refl w.cache.cache)
    · exact h.lasts.write hlate hwrite
  · refine forall₂_replace (h.course.onCourse.mp (fun _ _ => And.intro) h.stored) ?_ ?_
    · rintro subject other - ⟨-, hother⟩ s ending hsubject hended hs
      exact hkept s.cacheKey (hother s ending hsubject hended hs)
    · rintro subject - ⟨hcourse, hthis⟩ s ending rfl rfl hs
      by_cases hended : ∃ ending, task = .ended ending
      · obtain ⟨ending', hended⟩ := hended
        exact hkept s.cacheKey (hthis s ending' rfl hended hs)
      · intro _
        refine hstep.holds hgives hs (h.course.flights.inFlight task (by simp)) hcourse ?_
        intro ending' hended'
        exact hended ⟨ending', hended'⟩

theorem AllStored.advanceTo {tasks : List CheckTask}
    (h : AllStored answers subjects ttl deadline tasks w) (instant : Nat) :
    AllStored answers subjects ttl deadline tasks
      { w with cache := w.cache.advanceTo instant } where
  course := h.course.advanceTo instant
  lasts := h.lasts.within (w.cache.advanceTo_within instant)
  stored := h.stored.imp fun _ _ hthis s ending hsubject hended hs =>
    (hthis s ending hsubject hended hs).ages h.lasts (w.cache.advanceTo_ages instant)

end First

/-! ### The second scan -/

/-- The task has not been promised tags. -/
def CheckTask.AwaitsNone : CheckTask → Prop
  | .fetching _ _ _ _ answer => ∀ tags, answer ≠ .ok tags
  | _ => True

/-- A task looks tags up when it goes on: it does not have to wait for the tag of its digest. -/
def CheckTask.LooksUp (task next : CheckTask) : Prop :=
  match task with
  | .starting _ (some s) =>
    s.runningDigest ≠ "" ∧ ∀ subject ready answer, next ≠ .resolving subject ready answer
  | .resolving _ _ _ => True
  | _ => False

section Second

variable {service : Service σ} {answers : Answers} {subjects : List (Option Subject)}
  {s : Subject} {running : RunningTag} {w w' : World (σ × List RegistryExchange)}
  {task next : CheckTask} {before after : List CheckTask} {ttl deadline : Nat}

/-- No tags have been given. -/
def GivesNone (record : List RegistryExchange) : Prop :=
  ∀ location tags, .tags location (.ok tags) ∉ record

/-- A step that stores nothing, and gets no tags. -/
structure Serves (w : World (σ × List RegistryExchange)) (next : CheckTask)
    (w' : World (σ × List RegistryExchange)) : Prop where
  cache : w'.cache.cache = w.cache.cache
  awaits : next.AwaitsNone
  record : GivesNone w.record → GivesNone w'.record

theorem Subject.Fetched.cache_eq {cancelled : Bool} {flight : Nat}
    {answer : Except RegistryError (List ImageTag)} {c c' : TagCache} {ending : CheckEnding}
    (h : s.Fetched running flight cancelled answer c ending c')
    (hanswer : ∀ tags, answer ≠ .ok tags) : c'.cache = c.cache := by
  cases h with
  | unknown | stopped | refused => rfl
  | given hkey hgo htags => exact absurd htags (hanswer _)

theorem Subject.LookedUp.serves (hgives : service.Gives answers) (hruns : s.runningDigest ≠ "")
    (hfresh : s.HasTags answers → w.cache.cache.fresh? w.cache.now s.cacheKey ≠ none)
    (h : s.LookedUp service.recorded running false w next w') : Serves w next w' := by
  have hmissing (hnone : w.cache.cache.fresh? w.cache.now s.cacheKey = none)
      (tags : List ImageTag) : answers.tags s.location ≠ .ok tags :=
    fun htags => hfresh ⟨hruns, tags, htags⟩ hnone
  have hrecord : GivesNone w.record → GivesNone w'.record := by
    intro hnone location tags hmem
    rcases h.record_cases with hsame | ⟨hstale, answer, happend, hwith⟩
    · exact hnone location tags (hsame ▸ hmem)
    · rw [happend, List.mem_append, List.mem_singleton] at hmem
      rcases hmem with hmem | heq
      · exact hnone location tags hmem
      · obtain ⟨-, rfl⟩ := RegistryExchange.tags.inj heq
        exact hmissing hstale tags (hgives.eq_of_isWith hwith).symm
  cases h with
  | hit notices hhit => exact ⟨rfl, trivial, hrecord⟩
  | stopped notices hstop => cases hstop
  | waits notices hstale hgo hasked =>
    refine ⟨rfl, ?_, hrecord⟩
    intro tags htags
    exact hmissing hstale tags ((hgives.recorded.tags_eq hasked).symm.trans htags)
  | fetched notices hstale hgo hasked hfetched =>
    refine ⟨hfetched.cache_eq ?_, trivial, hrecord⟩
    intro tags htags
    exact hmissing hstale tags ((hgives.recorded.tags_eq hasked).symm.trans htags)

theorem Subject.LookedUp.ne_resolving {cancelled : Bool}
    (h : s.LookedUp service.recorded running cancelled w next w') :
    ∀ subject ready answer, next ≠ .resolving subject ready answer := by
  intro subject ready answer
  cases h with
  | hit | stopped | waits | fetched => exact nofun

/-- While the entries are fresh that there may be, no step of a check gets tags. -/
theorem CheckTask.Step.serves (hgives : service.Gives answers)
    (hstep : Step service.recorded .live w task next w') {subject : Option Subject}
    (hcourse : task.OnCourse answers subject) (hawaits : task.AwaitsNone)
    (hfresh : task.LooksUp next → ∀ s, subject = some s → s.HasTags answers →
      w.cache.cache.fresh? w.cache.now s.cacheKey ≠ none) : Serves w next w' := by
  cases hstep with
  | absent | idle | resolvingStopped | ended => exact ⟨rfl, trivial, id⟩
  | stopped notices hruns hwants hstop => cases hstop
  | asked notices hruns hwants hgo hasked =>
    refine ⟨rfl, trivial, ?_⟩
    intro hnone location tags hmem
    simp only [World.record, Service.recorded_resolve hasked, List.mem_append,
      List.mem_singleton, reduceCtorEq, or_false] at hmem
    exact hnone location tags hmem
  | @resolvedAtOnce _ s _ registry _ _ hruns hwants hgo hasked hlooked =>
    obtain rfl : some s = subject := hcourse
    have hserves : Serves ⟨w.cache, registry⟩ next w' :=
      hlooked.serves hgives hruns (hfresh ⟨hruns, hlooked.ne_resolving⟩ s rfl)
    refine ⟨hserves.cache, hserves.awaits, fun hnone => hserves.record ?_⟩
    intro location tags hmem
    simp only [World.record, Service.recorded_resolve hasked, List.mem_append,
      List.mem_singleton, reduceCtorEq, or_false] at hmem
    exact hnone location tags hmem
  | declared hruns hwants hlooked =>
    obtain rfl : some _ = subject := hcourse
    exact hlooked.serves hgives hruns (hfresh ⟨hruns, hlooked.ne_resolving⟩ _ rfl)
  | resolved hgo hlooked =>
    obtain ⟨rfl, hruns, -⟩ := hcourse
    exact hlooked.serves hgives hruns (hfresh trivial _ rfl)
  | fetched hfetched => exact ⟨hfetched.cache_eq hawaits, trivial, id⟩

/-- The invariant of the second scan. -/
structure AllServed (answers : Answers) (subjects : List (Option Subject)) (ttl deadline : Nat)
    (tasks : List CheckTask) (w : World (σ × List RegistryExchange)) : Prop where
  course : CheckTask.AllOnCourse answers subjects tasks w
  lasts : w.cache.Lasts ttl deadline
  holds : ∀ s, some s ∈ subjects → s.HasTags answers → w.cache.Holds deadline s.cacheKey
  awaits : ∀ task ∈ tasks, task.AwaitsNone
  record : GivesNone w.record

theorem AllServed.step (hgives : service.Gives answers)
    (hkeys : KeysApart (some · ∈ subjects))
    (h : AllServed answers subjects ttl deadline (before ++ task :: after) w)
    (hstep : CheckTask.Step service.recorded .live w task next w')
    (hsoon : task.LooksUp next → w.cache.now < deadline) :
    AllServed answers subjects ttl deadline (before ++ next :: after) w' := by
  obtain ⟨subject, hmem, hcourse⟩ :=
    exists_of_forall₂_of_mem h.course.onCourse (y := task) (by simp)
  have hserves : Serves w next w' := by
    refine hstep.serves hgives hcourse (h.awaits task (by simp)) ?_
    rintro hlooks s rfl hs
    exact (h.holds s hmem hs).fresh h.lasts (hsoon hlooks)
  refine ⟨h.course.step hgives.recorded hkeys hstep, ?_, ?_, ?_, hserves.record h.record⟩
  · exact h.lasts.within (hserves.cache ▸ .refl w.cache.cache)
  · intro s hs htags
    exact (h.holds s hs htags).congr hserves.cache hstep.now_eq
  · intro other hother
    rcases List.mem_append.mp hother with hother | hother
    · exact h.awaits other (List.mem_append_left _ hother)
    · rcases List.mem_cons.mp hother with rfl | hother
      · exact hserves.awaits
      · exact h.awaits other (List.mem_append_right _ (List.mem_cons_of_mem _ hother))

theorem AllServed.advanceTo {tasks : List CheckTask}
    (h : AllServed answers subjects ttl deadline tasks w) (instant : Nat) :
    AllServed answers subjects ttl deadline tasks
      { w with cache := w.cache.advanceTo instant } where
  course := h.course.advanceTo instant
  lasts := h.lasts.within (w.cache.advanceTo_within instant)
  holds := fun s hs htags =>
    (h.holds s hs htags).ages h.lasts (w.cache.advanceTo_ages instant)
  awaits := h.awaits
  record := h.record

end Second

/-! ### Both scans -/

/-- The steps of a scan: the checks that go on in it, each with the world as it finds it. -/
def scanSteps (service : Service σ) (pods : List Pod) (testAll : Bool) (w : World σ) :
    List (CheckTask × World σ) :=
  (CheckTask.schedule service .live).steps (scanTasks w.cache.now (ScanItem.ofPods pods testAll)) w

/-- A step of a scan stores tags. -/
def Stores (service : Service σ) (step : CheckTask × World σ) : Prop :=
  (CheckTask.resume service .live step.1 step.2).2.cache.cache ≠ step.2.cache.cache

/-- A step of a scan looks tags up. -/
def LooksUp (service : Service σ) (step : CheckTask × World σ) : Prop :=
  step.1.LooksUp (CheckTask.resume service .live step.1 step.2).1

theorem CheckTask.exists_ended {token : Token} {task : CheckTask} (h : task.due? token = none) :
    ∃ ending, task = .ended ending := by
  cases task with
  | ended ending => exact ⟨ending, rfl⟩
  | starting | resolving | fetching => cases h

section Scans

variable {service : Service σ} {answers : Answers} {pods : List Pod} {testAll : Bool}

/-- What the first scan leaves. -/
theorem scanPods_stored (hgives : service.Gives answers) {w : World σ}
    (hempty : w.cache.cache.entries = [])
    (hkeys : KeysApart (some · ∈ (ScanItem.ofPods pods testAll).map ScanItem.subject?))
    {deadline : Nat} (hlate : ∀ step ∈ scanSteps service pods testAll w, Stores service step →
      deadline ≤ step.2.cache.now + w.cache.cache.ttl) :
    let after := (scanPods service .live pods testAll w).2.cache
    after.Lasts w.cache.cache.ttl deadline ∧
      answers.AgreesWith (some · ∈ (ScanItem.ofPods pods testAll).map ScanItem.subject?)
        after.cache ∧
      ∀ s, some s ∈ (ScanItem.ofPods pods testAll).map ScanItem.subject? → s.HasTags answers →
        after.Holds deadline s.cacheKey := by
  have hstart : AllStored answers ((ScanItem.ofPods pods testAll).map ScanItem.subject?)
      w.cache.cache.ttl deadline (scanTasks w.cache.now (ScanItem.ofPods pods testAll)) w :=
    .of_starting hempty (scanTasks_starting w.cache.now (ScanItem.ofPods pods testAll)) deadline
  have hrun := (CheckTask.schedule service .live).run_induction_of_steps
    (AllStored answers ((ScanItem.ofPods pods testAll).map ScanItem.subject?)
      w.cache.cache.ttl deadline)
    (fun step => Stores service step → deadline ≤ step.2.cache.now + w.cache.cache.ttl)
    (fun _ _ instant h _ => h.advanceTo instant)
    (fun _ task _ w h _ hlate =>
      h.step hgives hkeys (CheckTask.resume_step service .live task w) hlate)
    hstart hlate
  have hended := (CheckTask.schedule_ends service .live).due?_of_mem_run
    (scanTasks w.cache.now (ScanItem.ofPods pods testAll)) w
  refine ⟨⟨hrun.lasts.ttl_eq, hrun.lasts.entry⟩, hrun.course.agrees, ?_⟩
  intro s hs htags
  obtain ⟨task, hmem, hstored⟩ := exists_of_forall₂_of_mem hrun.stored.flip hs
  obtain ⟨ending, hending⟩ := CheckTask.exists_ended (hended task hmem)
  exact (hstored s ending rfl hending htags).congr rfl rfl

/-- A scan that finds all tags in the cache does not ask for any. -/
theorem scanRecord_givesNone (hgives : service.Gives answers) {w : World σ}
    (hagrees : answers.AgreesWith (some · ∈ (ScanItem.ofPods pods testAll).map ScanItem.subject?)
      w.cache.cache)
    (hkeys : KeysApart (some · ∈ (ScanItem.ofPods pods testAll).map ScanItem.subject?))
    {ttl deadline : Nat} (hlasts : w.cache.Lasts ttl deadline)
    (hholds : ∀ s, some s ∈ (ScanItem.ofPods pods testAll).map ScanItem.subject? →
      s.HasTags answers → w.cache.Holds deadline s.cacheKey)
    (hsoon : ∀ step ∈ scanSteps service pods testAll w, LooksUp service step →
      step.2.cache.now < deadline) :
    GivesNone (scanRecord service .live pods testAll w) := by
  have hstarting := scanTasks_starting w.cache.now (ScanItem.ofPods pods testAll)
  have hstart : AllServed answers ((ScanItem.ofPods pods testAll).map ScanItem.subject?)
      ttl deadline (scanTasks w.cache.now (ScanItem.ofPods pods testAll)) w.recording := by
    refine ⟨.of_starting hagrees hstarting, ⟨hlasts.ttl_eq, hlasts.entry⟩, ?_, ?_, ?_⟩
    · intro s hs htags
      exact (hholds s hs htags).congr rfl rfl
    · intro task hmem
      obtain ⟨_, -, start, rfl⟩ := exists_of_forall₂_of_mem hstarting hmem
      trivial
    · intro location tags hmem
      cases hmem
  -- the steps of a scan do not change when they are recorded
  have hsteps : ∀ step ∈ (CheckTask.schedule service.recorded .live).steps
      (scanTasks w.cache.now (ScanItem.ofPods pods testAll)) w.recording,
      LooksUp service.recorded step → step.2.cache.now < deadline := by
    rintro ⟨task, v⟩ hmem hlooks
    obtain ⟨_, rfl, hplain⟩ :=
      (CheckTask.schedule_recorded service .live).exists_mem_steps _ rfl _ hmem
    refine hsoon _ hplain ?_
    rwa [LooksUp, (CheckTask.resume_forget service .live task v).1] at hlooks
  have hrun := (CheckTask.schedule service.recorded .live).run_induction_of_steps
    (AllServed answers ((ScanItem.ofPods pods testAll).map ScanItem.subject?) ttl deadline)
    (fun step => LooksUp service.recorded step → step.2.cache.now < deadline)
    (fun _ _ instant h _ => h.advanceTo instant)
    (fun _ task _ w h _ hsoon =>
      h.step hgives hkeys (CheckTask.resume_step service.recorded .live task w) hsoon)
    hstart hsteps
  exact hrun.record

/-- **A scan that is repeated soon is served from the cache.**  Between the scans time goes on and
    the cache is swept, and the second one starts with any state of the registries.  Each of its
    lookups comes less than the time to live after each entry that the first one has stored.  Then
    the summaries are the same, and the second scan asks for the tags of no image of which the
    first one got tags, or could have got them. -/
theorem scanPods_repeated (hgives : service.Gives answers) (pods : List Pod) (testAll : Bool)
    (w : World σ) (hempty : w.cache.cache.entries = [])
    (hkeys : KeysApart (some · ∈ (ScanItem.ofPods pods testAll).map ScanItem.subject?))
    {between : List (CacheEvent (List ImageTag))}
    (hbetween : ∀ event ∈ between, event.isBackground = true) (registry : σ)
    (hsoon : ∀ store ∈ scanSteps service pods testAll w, Stores service store →
      ∀ lookup ∈ scanSteps service pods testAll
          ⟨((scanPods service .live pods testAll w).2.cache.run between).2, registry⟩,
        LooksUp service lookup →
        lookup.2.cache.now < store.2.cache.now + w.cache.cache.ttl) :
    let again : World σ :=
      ⟨((scanPods service .live pods testAll w).2.cache.run between).2, registry⟩
    (scanPods service .live pods testAll again).1 = (scanPods service .live pods testAll w).1 ∧
      (∀ location tags,
        .tags location (.ok tags) ∈ scanRecord service .live pods testAll w →
        ∀ answer, .tags location answer ∉ scanRecord service .live pods testAll again) ∧
      ∀ location tags, answers.tags location = .ok tags →
        ∀ answer, .tags location answer ∉ scanRecord service .live pods testAll again := by
  intro again
  obtain ⟨deadline, hlookups, hstores⟩ := exists_deadline (scanSteps service pods testAll again)
    (LooksUp service) (fun step => step.2.cache.now)
    (fun instant => ∃ store ∈ scanSteps service pods testAll w,
      Stores service store ∧ store.2.cache.now = instant) w.cache.cache.ttl
    (by
      rintro _ ⟨store, hmem, hstore, rfl⟩ lookup hlookup hlooks
      exact hsoon store hmem hstore lookup hlookup hlooks)
  obtain ⟨hlasts, hagrees, hholds⟩ := scanPods_stored hgives hempty hkeys
    fun step hmem hstore => hstores _ ⟨step, hmem, hstore, rfl⟩
  obtain ⟨hages, hwithin⟩ :=
    (scanPods service .live pods testAll w).2.cache.run_background hbetween
  have hagreesAgain : answers.AgreesWith
      (some · ∈ (ScanItem.ofPods pods testAll).map ScanItem.subject?) again.cache.cache :=
    hagrees.within hwithin
  have hsummary : (scanPods service .live pods testAll again).1 =
      (scanPods service .live pods testAll w).1 := by
    rw [scanPods_eq_ofOutcomes, scanPods_eq_ofOutcomes, scanOutcomes_eq_settle hgives hagreesAgain
      hkeys, scanOutcomes_eq_settle hgives (.of_entries_nil hempty) hkeys]
  have hrecord : GivesNone (scanRecord service .live pods testAll again) :=
    scanRecord_givesNone hgives hagreesAgain hkeys (hlasts.within hwithin)
      (fun s hs htags => (hholds s hs htags).ages hlasts hages) hlookups
  have hunasked (location : ImageLocation) (tags : List ImageTag)
      (htags : answers.tags location = .ok tags) (answer : Except RegistryError (List ImageTag)) :
      .tags location answer ∉ scanRecord service .live pods testAll again := by
    intro hasked
    rw [hgives.eq_of_isWith (isWith_of_mem_scanRecord _ hasked), htags] at hasked
    exact hrecord location tags hasked
  refine ⟨hsummary, ?_, hunasked⟩
  intro location tags hfirst
  exact hunasked location tags (hgives.eq_of_isWith (isWith_of_mem_scanRecord _ hfirst)).symm

end Scans

end AnyEngine

/-! ### A scan that is repeated after one minute -/

/-- Meanwhile the collector runs. -/
def oneMinute : List (CacheEvent (List ImageTag)) :=
  [.startCollector 1000, .advance 60000, .sweep, .stopCollector]

/-- The mixed pod, one minute after it was scanned with entries that last for two minutes. -/
def scannedWorld : World Nat :=
  ⟨((scanPods nginxRegistry .live [mixedPod] true (.fresh 120000 0 0)).2.cache.run oneMinute).2, 7⟩

/-- The first scan asks three times for tags, since its checks overlap, and gets them twice.  The
    second one only asks for those again that it did not get. -/
theorem scanPods_repeated_mixedPod :
    (∀ event ∈ oneMinute, event.isBackground = true) ∧
      (∀ store ∈ scanSteps nginxRegistry [mixedPod] true (.fresh 120000 0 0),
        Stores nginxRegistry store →
        ∀ lookup ∈ scanSteps nginxRegistry [mixedPod] true scannedWorld,
          LooksUp nginxRegistry lookup →
          lookup.2.cache.now < store.2.cache.now + 120000) ∧
      (scanRecord nginxRegistry .live [mixedPod] true (.fresh 120000 0 0)).length = 3 ∧
      (scanRecord nginxRegistry .live [mixedPod] true scannedWorld).length = 1 ∧
      (scanPods nginxRegistry .live [mixedPod] true scannedWorld).1 =
        (scanPods nginxRegistry .live [mixedPod] true (.fresh 120000 0 0)).1 ∧
      ∀ location tags, nginxAnswers.tags location = .ok tags → ∀ answer,
        .tags location answer ∉ scanRecord nginxRegistry .live [mixedPod] true scannedWorld := by
  have hbetween : ∀ event ∈ oneMinute, event.isBackground = true := by
    simp [oneMinute, CacheEvent.isBackground]
  have hnow : ∀ step ∈ scanSteps nginxRegistry [mixedPod] true scannedWorld,
      step.2.cache.now < 120000 := by decide +kernel
  have hsoon : ∀ store ∈ scanSteps nginxRegistry [mixedPod] true (.fresh 120000 0 0),
      Stores nginxRegistry store →
      ∀ lookup ∈ scanSteps nginxRegistry [mixedPod] true scannedWorld,
        LooksUp nginxRegistry lookup → lookup.2.cache.now < store.2.cache.now + 120000 := by
    intro store _ _ lookup hmem _
    exact Nat.lt_of_lt_of_le (hnow lookup hmem) (Nat.le_add_left 120000 store.2.cache.now)
  obtain ⟨hsummary, -, hunasked⟩ := scanPods_repeated nginxRegistry_gives [mixedPod] true
    (.fresh 120000 0 0) rfl mixedPod_keysApart hbetween 7 hsoon
  exact ⟨hbetween, hsoon, by decide +kernel, by decide +kernel, hsummary, hunasked⟩

end ImageFreshness
