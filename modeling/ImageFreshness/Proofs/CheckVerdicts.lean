import ImageFreshness.Proofs.ScanIndependence

/-!
# Where the verdict of a check comes from

Whatever a registry answers, whenever it does, and whatever the cache holds: if a check ends with a
verdict, this is the verdict of `Subject.judge` for a list of tags that was cached at first or that
the registry has given, and for a tag that is declared or that the registry has given
(`Subject.check_verdict`).  So what is said about `judge` for all lists of tags is said about
checks.
-/

namespace ImageFreshness

variable [PatternEngine] {σ : Type}

/-! ### What a check may come to know -/

/-- Where the checks of some subjects come to know tags from: a registry, and the cache they start
    with. -/
structure Sources (σ : Type) where
  service : Service σ
  subjects : Subject → Prop
  cache : Cache (List ImageTag)

/-- The lists of tags that a check may come to know. -/
inductive Sources.Lists (src : Sources σ) : List ImageTag → Prop where
  | cached {key : String} {entry : CacheEntry (List ImageTag)} :
      src.cache.find? key = some entry → src.Lists entry.value
  | answered {s : Subject} {state : σ} {tags : List ImageTag} : src.subjects s →
      (src.service.tags s.location state).1.answer = .ok tags → src.Lists tags

/-- A cache holds nothing but such lists. -/
def Sources.Holds (src : Sources σ) (c : Cache (List ImageTag)) : Prop :=
  ∀ key entry, c.find? key = some entry → src.Lists entry.value

/-- The tag that a container counts as running is the declared one, or one that the registry has
    given for the digest it is pinned to. -/
inductive Subject.MayRun (service : Service σ) (s : Subject) : RunningTag → Prop where
  | declared : s.MayRun service (.declared s.image)
  | resolved {state : σ} {tag : String} : s.wantsResolution = true →
      (service.resolve s.image.url s.image.digest state).1.answer = .ok tag → tag ≠ "" →
      s.MayRun service ⟨tag, none⟩

variable {src : Sources σ}

theorem Sources.Holds.within {c c' : Cache (List ImageTag)} (h : src.Holds c')
    (hwithin : c.Within c') : src.Holds c :=
  fun key entry hentry => h key entry (hwithin.entry key entry hentry)

theorem Sources.Holds.write {c : Cache (List ImageTag)} (h : src.Holds c) {tags : List ImageTag}
    (htags : src.Lists tags) (now : Nat) (key : String) : src.Holds (c.write now key tags) := by
  intro k entry hentry
  rw [Cache.find?_write] at hentry
  by_cases hk : k = key
  · rw [if_pos hk, Option.some.injEq] at hentry
    rw [← hentry]
    exact htags
  · rw [if_neg hk] at hentry
    exact h k entry hentry

theorem Sources.Holds.finish {cache : TagCache} (h : src.Holds cache.cache)
    {answer : Except RegistryError (List ImageTag)}
    (hanswer : ∀ tags, answer = .ok tags → src.Lists tags) (flight : Nat) (cancelled : Bool) :
    src.Holds (cache.finish flight cancelled answer).2.cache := by
  rcases cache.finish_cases flight cancelled answer with
    ⟨-, hfinish⟩ | ⟨_, -, -, hfinish⟩ | ⟨_, _, -, -, -, hfinish⟩ | ⟨key, tags, -, -, htags, hfinish⟩
  · rw [hfinish]
    exact h
  · rw [hfinish]
    exact h
  · rw [hfinish]
    exact h
  · rw [hfinish]
    exact h.write (hanswer tags htags) cache.now key

namespace Subject

theorem mayRun_afterResolution {service : Service σ} {s : Subject}
    (hwants : s.wantsResolution = true) {answer : Except RegistryError String}
    (hanswer : ∃ state, (service.resolve s.image.url s.image.digest state).1.answer = answer) :
    s.MayRun service (.afterResolution s.image answer) := by
  obtain ⟨state, hstate⟩ := hanswer
  cases answer with
  | error error => exact .declared
  | ok tag =>
    by_cases hempty : tag = ""
    · rw [RunningTag.afterResolution, if_pos hempty]
      exact .declared
    · rw [RunningTag.afterResolution, if_neg hempty]
      exact .resolved hwants hstate hempty

/-- If an ending is a verdict, it has been judged from what the check may come to know. -/
def Justifies (s : Subject) (src : Sources σ) (ending : CheckEnding) : Prop :=
  ∀ v, ending = .ok (some v) → s.runningDigest ≠ "" ∧
    ∃ running tags, s.MayRun src.service running ∧ src.Lists tags ∧ s.judge running tags = .ok v

variable {s : Subject} {running : RunningTag}

theorem justifies_none : s.Justifies src (.ok none) := by
  intro v h
  cases h

theorem justifies_error (error : CheckError) : s.Justifies src (.error error) := by
  intro v h
  cases h

theorem justifies_conclude (hruns : s.runningDigest ≠ "")
    (hrunning : s.MayRun src.service running) {tags : List ImageTag} (htags : src.Lists tags) :
    s.Justifies src (s.conclude running tags) := by
  intro v hv
  cases hjudge : s.judge running tags with
  | error error =>
    rw [conclude, hjudge] at hv
    cases hv
  | ok v' =>
    rw [conclude, hjudge] at hv
    cases hv
    exact ⟨hruns, running, tags, hrunning, htags, hjudge⟩

theorem justifies_fetched (hruns : s.runningDigest ≠ "")
    (hrunning : s.MayRun src.service running) {answer : Except RegistryError (List ImageTag)}
    (hanswer : ∀ tags, answer = .ok tags → src.Lists tags) (flight : Nat) (cancelled : Bool)
    {cache : TagCache} (hcache : src.Holds cache.cache) :
    s.Justifies src (s.fetched running flight cancelled answer cache).1 ∧
      src.Holds (s.fetched running flight cancelled answer cache).2.cache := by
  have hholds := hcache.finish hanswer flight cancelled
  rcases cache.finish_cases flight cancelled answer with
    ⟨-, hfinish⟩ | ⟨_, -, -, hfinish⟩ | ⟨_, _, -, -, -, hfinish⟩ | ⟨_, tags, -, -, htags, hfinish⟩
  · simp only [fetched, hfinish] at hholds ⊢
    exact ⟨justifies_error _, hholds⟩
  · simp only [fetched, hfinish] at hholds ⊢
    exact ⟨justifies_error _, hholds⟩
  · simp only [fetched, hfinish] at hholds ⊢
    exact ⟨justifies_error _, hholds⟩
  · simp only [fetched, hfinish] at hholds ⊢
    exact ⟨justifies_conclude hruns hrunning (hanswer tags htags), hholds⟩

end Subject

/-! ### The steps of a check -/

/-- A check that has looked its tags up has ended rightly, or knows the tag that may be running. -/
def LookupStage.Justified (s : Subject) (src : Sources σ) : LookupStage → Prop
  | .ended ending => s.Justifies src ending
  | .fetching running _ => s.runningDigest ≠ "" ∧ s.MayRun src.service running

theorem Subject.justified_consult {s : Subject} {running : RunningTag}
    (hruns : s.runningDigest ≠ "") (hrunning : s.MayRun src.service running) (cancelled : Bool)
    {cache : TagCache} (hcache : src.Holds cache.cache) :
    (s.consult running cancelled cache).1.Justified s src ∧
      src.Holds (s.consult running cancelled cache).2.cache := by
  rcases (cache.note s.lookupNotices).lookup_cases s.cacheKey cancelled with
    ⟨tags, hfresh, hlookup⟩ | ⟨-, -, hlookup⟩ | ⟨-, -, hlookup⟩
  · obtain ⟨entry, hentry, -, rfl⟩ := (Cache.fresh?_eq_some _).mp hfresh
    simp only [consult, hlookup]
    exact ⟨justifies_conclude hruns hrunning (hcache _ entry hentry), hcache⟩
  · simp only [consult, hlookup]
    exact ⟨justifies_error _, hcache⟩
  · simp only [consult, hlookup]
    exact ⟨⟨hruns, hrunning⟩, hcache⟩

namespace CheckTask

/-- A task is about its subject, and has ended rightly or has asked for what it needs for that. -/
def Justified (src : Sources σ) (subject : Option Subject) : CheckTask → Prop
  | .starting _ s => s = subject
  | .resolving s _ answer =>
    subject = some s ∧ s.runningDigest ≠ "" ∧ s.wantsResolution = true ∧
      ∃ state, (src.service.resolve s.image.url s.image.digest state).1.answer = answer
  | .fetching s running _ _ answer =>
    subject = some s ∧ s.runningDigest ≠ "" ∧ s.MayRun src.service running ∧
      ∀ tags, answer = .ok tags → src.Lists tags
  | .ended ending => ∀ s, subject = some s → s.Justifies src ending

variable {s : Subject}

theorem justified_ended {ending : CheckEnding} (h : s.Justifies src ending) :
    (CheckTask.ended ending).Justified src (some s) := by
  intro s' hs'
  cases hs'
  exact h

/-- What a step of a task makes of it, and of the world. -/
def Keeps (src : Sources σ) (subject : Option Subject) (next : CheckTask × World σ) : Prop :=
  next.1.Justified src subject ∧ src.Holds next.2.cache.cache

theorem keeps_afterLookup (hs : src.subjects s) {stage : LookupStage} (h : stage.Justified s src)
    {w : World σ} (hcache : src.Holds w.cache.cache) :
    Keeps src (some s) (afterLookup src.service s stage w) := by
  cases stage with
  | ended ending => exact ⟨justified_ended h, hcache⟩
  | fetching running flight =>
    obtain ⟨hruns, hrunning⟩ := h
    have hanswer : ∀ tags, (src.service.tags s.location w.registry).1.answer = .ok tags →
        src.Lists tags := fun _ htags => .answered hs htags
    simp only [afterLookup]
    split
    · have hnoted :
          src.Holds (w.cache.note (src.service.tags s.location w.registry).1.notices).cache :=
        hcache
      obtain ⟨hends, hholds⟩ := Subject.justifies_fetched hruns hrunning hanswer flight false hnoted
      exact ⟨justified_ended hends, hholds⟩
    · exact ⟨⟨rfl, hruns, hrunning, hanswer⟩, hcache⟩

theorem justified_resolved (hruns : s.runningDigest ≠ "") (hwants : s.wantsResolution = true)
    {answer : Except RegistryError String}
    (hanswer : ∃ state, (src.service.resolve s.image.url s.image.digest state).1.answer = answer)
    (cancelled : Bool) {cache : TagCache} (hcache : src.Holds cache.cache) :
    (s.resolved cancelled answer cache).1.Justified s src ∧
      src.Holds (s.resolved cancelled answer cache).2.cache := by
  unfold Subject.resolved
  split
  · exact ⟨Subject.justifies_error _, hcache⟩
  · exact Subject.justified_consult hruns (Subject.mayRun_afterResolution hwants hanswer) _ hcache

theorem keeps_begin (hs : src.subjects s) (cancelled : Bool) {w : World σ}
    (hcache : src.Holds w.cache.cache) :
    Keeps src (some s) (afterStart src.service s (s.begin cancelled w.cache).1
      { w with cache := (s.begin cancelled w.cache).2 }) := by
  unfold Subject.begin
  by_cases hruns : s.runningDigest = ""
  · rw [if_pos hruns]
    exact ⟨justified_ended Subject.justifies_none, hcache⟩
  · rw [if_neg hruns]
    by_cases hwants : s.wantsResolution = true
    · rw [if_pos hwants]
      cases cancelled with
      | true => exact ⟨justified_ended (Subject.justifies_error _), hcache⟩
      | false =>
        simp only [afterStart, Bool.false_eq_true, if_false]
        split
        · have hnoted : src.Holds (w.cache.note
              (src.service.resolve s.image.url s.image.digest w.registry).1.notices).cache := hcache
          obtain ⟨hstage, hholds⟩ := justified_resolved hruns hwants ⟨w.registry, rfl⟩ false hnoted
          exact keeps_afterLookup hs hstage hholds
        · exact ⟨⟨rfl, hruns, hwants, w.registry, rfl⟩, hcache⟩
    · rw [if_neg hwants]
      have hdeclared : s.MayRun src.service (.declared s.image) := .declared
      obtain ⟨hstage, hholds⟩ := Subject.justified_consult hruns hdeclared cancelled hcache
      exact keeps_afterLookup hs hstage hholds

/-- Every step of a task keeps it justified, whatever the registry answers and whether or not it is
    cancelled, and leaves the cache with nothing but what the registry has given. -/
theorem Justified.resume {subject : Option Subject}
    (hsubject : ∀ s, subject = some s → src.subjects s) {task : CheckTask}
    (h : task.Justified src subject) (token : Token) {w : World σ}
    (hcache : src.Holds w.cache.cache) : Keeps src subject (resume src.service token task w) := by
  cases task with
  | starting start s =>
    obtain rfl : s = subject := h
    cases s with
    | none =>
      refine ⟨fun s' hs' => ?_, hcache⟩
      cases hs'
    | some s => exact keeps_begin (hsubject s rfl) _ hcache
  | resolving s ready answer =>
    obtain ⟨rfl, hruns, hwants, hanswer⟩ := h
    obtain ⟨hstage, hholds⟩ := justified_resolved hruns hwants hanswer _ hcache
    exact keeps_afterLookup (hsubject s rfl) hstage hholds
  | fetching s running flight ready answer =>
    obtain ⟨rfl, hruns, hrunning, hanswer⟩ := h
    obtain ⟨hends, hholds⟩ := Subject.justifies_fetched hruns hrunning hanswer flight _ hcache
    exact ⟨justified_ended hends, hholds⟩
  | ended ending => exact ⟨h, hcache⟩

/-- Tasks that are justified one by one, with a cache that holds nothing but what may be known. -/
structure AllJustified (src : Sources σ) (subjects : List (Option Subject))
    (tasks : List CheckTask) (w : World σ) : Prop where
  justified : List.Forall₂ (fun subject task => task.Justified src subject) subjects tasks
  holds : src.Holds w.cache.cache

theorem AllJustified.run (token : Token) {subjects : List (Option Subject)}
    (hsubjects : ∀ s, some s ∈ subjects → src.subjects s) {tasks : List CheckTask} {w : World σ}
    (h : AllJustified src subjects tasks w) :
    AllJustified src subjects ((schedule src.service token).run tasks w).1
      ((schedule src.service token).run tasks w).2 := by
  refine (schedule src.service token).run_induction (AllJustified src subjects) ?_ ?_ h
  · intro tasks w instant h _
    exact ⟨h.justified, h.holds.within (w.cache.advanceTo_within instant)⟩
  · intro before task after w h _
    have htasks : task ∈ before ++ task :: after := by simp
    obtain ⟨subject, hmem, htask⟩ := exists_of_forall₂_of_mem h.justified htasks
    refine ⟨?_, (htask.resume (fun s hs => hsubjects s (hs ▸ hmem)) token h.holds).2⟩
    refine forall₂_replace h.justified (fun _ _ _ hother => hother) fun subject' hmem' htask' => ?_
    exact (htask'.resume (fun s hs => hsubjects s (hs ▸ hmem')) token h.holds).1

end CheckTask

theorem Subject.check_verdict {service : Service σ} {s : Subject} {token : Token} {w : World σ}
    {v : Verdict} (h : (s.check service token w).1 = .ok (some v)) :
    s.runningDigest ≠ "" ∧ ∃ running tags, s.MayRun service running ∧
      Sources.Lists ⟨service, (· = s), w.cache.cache⟩ tags ∧ s.judge running tags = .ok v := by
  have hstart : CheckTask.AllJustified ⟨service, (· = s), w.cache.cache⟩ [some s]
      [.starting w.cache.now (some s)] w :=
    ⟨.cons rfl .nil, fun _ _ hentry => .cached hentry⟩
  have hrun := (hstart.run token (by simp)).justified
  obtain ⟨task, rest, htask, hrest, htasks⟩ := List.forall₂_cons_left_iff.mp hrun
  obtain rfl : rest = [] := List.forall₂_nil_left_iff.mp hrest
  simp only [check, CheckTask.runAll, htasks] at h
  cases task with
  | ended ending => exact htask s rfl v h
  | starting | resolving | fetching => simp [CheckTask.ending?] at h

end ImageFreshness
