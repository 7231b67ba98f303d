import ImageFreshness.Check.Schedule
import ImageFreshness.Proofs.CacheSteps
import Mathlib.Data.List.Pairwise

/-!
# The steps of a check

What a check can do when it goes on, said once for all that is proved about checks: `Fetched` lists
what the end of a fetch can lead to, `LookedUp` what looking the tags up can lead to, and `Step`
what a step of a task can be (`CheckTask.resume_step`).  Notices are left open, since nothing that a
check does depends on them.

The first thing proved in this way is that a check which waits for a fetch waits for one that is
under way, and that no two checks wait for the same one (`AllInFlight.step`).
-/

namespace ImageFreshness

variable [PatternEngine] {σ : Type}

namespace Subject

/-- Where the image lives whose tags are looked up. -/
def location (s : Subject) : ImageLocation := .ofUrl s.lookupUrl

/-- What the end of a fetch can lead to. -/
inductive Fetched (s : Subject) (running : RunningTag) (flight : Nat) (cancelled : Bool)
    (answer : Except RegistryError (List ImageTag)) (c : TagCache) :
    CheckEnding → TagCache → Prop where
  | unknown : c.flights.lookup flight = none →
      s.Fetched running flight cancelled answer c (cancelledAt s.lookupUrl) c
  | stopped (notices : List Notice) : cancelled = true →
      s.Fetched running flight cancelled answer c (cancelledAt s.lookupUrl)
        ((c.land flight).note notices)
  | refused {error : RegistryError} : cancelled = false → answer = .error error →
      s.Fetched running flight cancelled answer c (.error (.fetch s.lookupUrl (.fetch error)))
        (c.land flight)
  | given {key : String} {tags : List ImageTag} : c.flights.lookup flight = some key →
      cancelled = false → answer = .ok tags →
      s.Fetched running flight cancelled answer c (s.conclude running tags)
        ((c.land flight).update key tags)

theorem fetched_cases (s : Subject) (running : RunningTag) (flight : Nat) (cancelled : Bool)
    (answer : Except RegistryError (List ImageTag)) (c : TagCache) :
    s.Fetched running flight cancelled answer c (s.fetched running flight cancelled answer c).1
      (s.fetched running flight cancelled answer c).2 := by
  rcases c.finish_cases flight cancelled answer with
    ⟨hnone, hfinish⟩ | ⟨key, -, hstop, hfinish⟩ | ⟨key, error, -, hgo, hanswer, hfinish⟩ |
      ⟨key, tags, hkey, hgo, hanswer, hfinish⟩
  · simp only [fetched, hfinish]
    exact .unknown hnone
  · simp only [fetched, hfinish]
    exact .stopped _ hstop
  · simp only [fetched, hfinish]
    exact .refused hgo hanswer
  · simp only [fetched, hfinish]
    exact .given hkey hgo hanswer

/-- What looking the tags up can lead to. -/
inductive LookedUp (service : Service σ) (s : Subject) (running : RunningTag) (cancelled : Bool)
    (w : World σ) : CheckTask → World σ → Prop where
  | hit {tags : List ImageTag} (notices : List Notice) :
      w.cache.cache.fresh? w.cache.now s.cacheKey = some tags →
      s.LookedUp service running cancelled w (.ended (s.conclude running tags))
        ⟨w.cache.note notices, w.registry⟩
  | stopped (notices : List Notice) : cancelled = true →
      s.LookedUp service running cancelled w (.ended (cancelledAt s.lookupUrl))
        ⟨w.cache.note notices, w.registry⟩
  | waits {reply : Reply (List ImageTag)} {registry : σ} (notices : List Notice) :
      w.cache.cache.fresh? w.cache.now s.cacheKey = none → cancelled = false →
      service.tags s.location w.registry = (reply, registry) →
      s.LookedUp service running cancelled w
        (.fetching s running w.cache.nextFlight (w.cache.now + reply.delay) reply.answer)
        ⟨(w.cache.depart s.cacheKey).note notices, registry⟩
  /-- The tags are there at once. -/
  | fetched {reply : Reply (List ImageTag)} {registry : σ} {ending : CheckEnding} {c : TagCache}
      (notices : List Notice) :
      w.cache.cache.fresh? w.cache.now s.cacheKey = none → cancelled = false →
      service.tags s.location w.registry = (reply, registry) →
      s.Fetched running w.cache.nextFlight false reply.answer
        ((w.cache.depart s.cacheKey).note notices) ending c →
      s.LookedUp service running cancelled w (.ended ending) ⟨c, registry⟩

theorem lookedUp_consult (service : Service σ) (s : Subject) (running : RunningTag)
    (cancelled : Bool) (c : TagCache) (notices : List Notice) (registry : σ) :
    let looked := s.consult running cancelled (c.note notices)
    let next := CheckTask.afterLookup service s looked.1 ⟨looked.2, registry⟩
    s.LookedUp service running cancelled ⟨c, registry⟩ next.1 next.2 := by
  intro looked next
  rcases ((c.note notices).note s.lookupNotices).lookup_cases s.cacheKey cancelled with
    ⟨tags, hfresh, hlookup⟩ | ⟨-, hstop, hlookup⟩ | ⟨hfresh, hgo, hlookup⟩
  · simp only [next, looked, consult, hlookup, CheckTask.afterLookup]
    rw [CacheSession.note_note, CacheSession.note_note]
    exact .hit (w := ⟨c, registry⟩) _ hfresh
  · simp only [next, looked, consult, hlookup, CheckTask.afterLookup]
    rw [CacheSession.note_note, CacheSession.note_note]
    exact .stopped (w := ⟨c, registry⟩) _ hstop
  · obtain ⟨departing, hlooked⟩ : ∃ departing, looked =
        (.fetching running c.nextFlight, (c.depart s.cacheKey).note departing) := by
      refine ⟨notices ++ s.lookupNotices ++ [.cacheMiss s.cacheKey] ++ [s.fetchNotice], ?_⟩
      simp only [looked, consult, hlookup]
      simp only [CacheSession.depart_note, CacheSession.note_note, CacheSession.note_nextFlight]
    simp only [next, hlooked]
    generalize hasked : service.tags s.location registry = asked
    obtain ⟨reply, registry'⟩ := asked
    have hasked' : service.tags (.ofUrl s.lookupUrl) registry = (reply, registry') := hasked
    simp only [CheckTask.afterLookup, hasked']
    rw [CacheSession.note_note]
    split
    · exact .fetched (w := ⟨c, registry⟩) _ hfresh hgo hasked (s.fetched_cases ..)
    · exact .waits (w := ⟨c, registry⟩) _ hfresh hgo hasked

end Subject

namespace CheckTask

open Subject (cancelledAt)

/-- What a task can do when it goes on. -/
inductive Step (service : Service σ) (token : Token) (w : World σ) :
    CheckTask → CheckTask → World σ → Prop where
  | absent {start : Nat} : Step service token w (.starting start none) (.ended (.ok none)) w
  | idle {start : Nat} {s : Subject} (notices : List Notice) : s.runningDigest = "" →
      Step service token w (.starting start (some s)) (.ended (.ok none))
        ⟨w.cache.note notices, w.registry⟩
  | stopped {start : Nat} {s : Subject} (notices : List Notice) : s.runningDigest ≠ "" →
      s.wantsResolution = true → token.stopsStart w.cache.now = true →
      Step service token w (.starting start (some s)) (.ended (cancelledAt s.image.url))
        ⟨w.cache.note notices, w.registry⟩
  | asked {start : Nat} {s : Subject} {reply : Reply String} {registry : σ}
      (notices : List Notice) : s.runningDigest ≠ "" → s.wantsResolution = true →
      token.stopsStart w.cache.now = false →
      service.resolve s.image.url s.image.digest w.registry = (reply, registry) →
      Step service token w (.starting start (some s))
        (.resolving s (w.cache.now + reply.delay) reply.answer)
        ⟨w.cache.note notices, registry⟩
  /-- The tag of the digest is there at once. -/
  | resolvedAtOnce {start : Nat} {s : Subject} {reply : Reply String} {registry : σ}
      {next : CheckTask} {w' : World σ} : s.runningDigest ≠ "" → s.wantsResolution = true →
      token.stopsStart w.cache.now = false →
      service.resolve s.image.url s.image.digest w.registry = (reply, registry) →
      s.LookedUp service (.afterResolution s.image reply.answer) false ⟨w.cache, registry⟩ next w' →
      Step service token w (.starting start (some s)) next w'
  | declared {start : Nat} {s : Subject} {next : CheckTask} {w' : World σ} :
      s.runningDigest ≠ "" → s.wantsResolution = false →
      s.LookedUp service (.declared s.image) (token.stopsStart w.cache.now) w next w' →
      Step service token w (.starting start (some s)) next w'
  | resolvingStopped {s : Subject} {ready : Nat} {answer : Except RegistryError String}
      (notices : List Notice) : token.stopsWait w.cache.now = true →
      Step service token w (.resolving s ready answer) (.ended (cancelledAt s.image.url))
        ⟨w.cache.note notices, w.registry⟩
  | resolved {s : Subject} {ready : Nat} {answer : Except RegistryError String}
      {next : CheckTask} {w' : World σ} : token.stopsWait w.cache.now = false →
      s.LookedUp service (.afterResolution s.image answer) false w next w' →
      Step service token w (.resolving s ready answer) next w'
  | fetched {s : Subject} {running : RunningTag} {flight ready : Nat}
      {answer : Except RegistryError (List ImageTag)} {ending : CheckEnding} {c : TagCache} :
      s.Fetched running flight (token.stopsWait w.cache.now) answer w.cache ending c →
      Step service token w (.fetching s running flight ready answer) (.ended ending)
        ⟨c, w.registry⟩
  | ended {ending : CheckEnding} : Step service token w (.ended ending) (.ended ending) w

theorem step_begin (service : Service σ) (token : Token) (start : Nat) (s : Subject)
    (w : World σ) :
    let begun := s.begin (token.stopsStart w.cache.now) w.cache
    let next := afterStart service s begun.1 ⟨begun.2, w.registry⟩
    Step service token w (.starting start (some s)) next.1 next.2 := by
  by_cases hruns : s.runningDigest = ""
  · simp only [Subject.begin, if_pos hruns, afterStart, afterLookup]
    exact .idle _ hruns
  · by_cases hwants : s.wantsResolution = true
    · by_cases hstop : token.stopsStart w.cache.now = true
      · simp only [Subject.begin, if_neg hruns, if_pos hwants, if_pos hstop, afterStart,
          afterLookup]
        exact .stopped _ hruns hwants hstop
      · have hgo : token.stopsStart w.cache.now = false := Bool.eq_false_iff.mpr hstop
        have hasked : service.resolve s.image.url s.image.digest w.registry =
            ((service.resolve s.image.url s.image.digest w.registry).1,
              (service.resolve s.image.url s.image.digest w.registry).2) := rfl
        simp only [Subject.begin, if_neg hruns, if_pos hwants, if_neg hstop, afterStart]
        split
        · have hlooked := s.lookedUp_consult service
            (.afterResolution s.image
              (service.resolve s.image.url s.image.digest w.registry).1.answer) false w.cache
            ((service.resolve s.image.url s.image.digest w.registry).1.notices ++
              s.resolutionNotices (service.resolve s.image.url s.image.digest w.registry).1.answer)
            (service.resolve s.image.url s.image.digest w.registry).2
          simp only [Subject.resolved, Bool.false_eq_true, if_false, CacheSession.note_note]
          exact .resolvedAtOnce hruns hwants hgo hasked hlooked
        · exact .asked _ hruns hwants hgo hasked
    · have hlooked := s.lookedUp_consult service (.declared s.image)
        (token.stopsStart w.cache.now) w.cache [] w.registry
      simp only [Subject.begin, if_neg hruns, if_neg hwants, afterStart]
      exact .declared hruns (Bool.eq_false_iff.mpr hwants) hlooked

theorem resume_step (service : Service σ) (token : Token) (task : CheckTask) (w : World σ) :
    Step service token w task (resume service token task w).1
      (resume service token task w).2 := by
  cases task with
  | starting start subject =>
    cases subject with
    | none => exact .absent
    | some s => exact step_begin service token start s w
  | resolving s ready answer =>
    by_cases hstop : token.stopsWait w.cache.now = true
    · simp only [resume, Subject.resolved, if_pos hstop, afterLookup]
      exact .resolvingStopped _ hstop
    · have hlooked := s.lookedUp_consult service (.afterResolution s.image answer) false w.cache
        (s.resolutionNotices answer) w.registry
      simp only [resume, Subject.resolved, if_neg hstop]
      exact .resolved (Bool.eq_false_iff.mpr hstop) hlooked
  | fetching s running flight ready answer => exact .fetched (s.fetched_cases ..)
  | ended ending => exact .ended

/-! ### Fetches under way -/

def flight? : CheckTask → Option Nat
  | .fetching _ _ flight _ _ => some flight
  | _ => none

/-- A task that waits for a fetch waits for one that is under way. -/
def InFlight (c : TagCache) : CheckTask → Prop
  | .fetching s _ flight _ _ => c.Awaits flight s.cacheKey
  | _ => True

theorem InFlight.lt {c : TagCache} {task : CheckTask} (h : task.InFlight c) {flight : Nat}
    (hflight : task.flight? = some flight) : flight < c.nextFlight := by
  cases task with
  | fetching s running own ready answer =>
    obtain rfl : own = flight := Option.some.inj hflight
    exact h.started
  | starting | resolving | ended => cases hflight

theorem InFlight.of_awaits {c c' : TagCache} {task : CheckTask} (h : task.InFlight c)
    (hawaits : ∀ flight key, task.flight? = some flight → c.Awaits flight key →
      c'.Awaits flight key) : task.InFlight c' := by
  cases task with
  | fetching s running flight ready answer => exact hawaits flight s.cacheKey rfl h
  | starting | resolving | ended => trivial

/-- What a step makes of the fetches under way.  `own` is the one that the task has waited for. -/
structure Departs (own : Option Nat) (c : TagCache) (next : CheckTask) (c' : TagCache) :
    Prop where
  inFlight : next.InFlight c'
  /-- The fetches that other tasks wait for are left under way. -/
  keeps : ∀ flight key, own ≠ some flight → c.Awaits flight key → c'.Awaits flight key
  /-- The task waits for no fetch that was under way before. -/
  unused : ∀ flight, next.flight? = some flight → c.nextFlight ≤ flight

theorem departs_ended {own : Option Nat} {c c' : TagCache} {ending : CheckEnding}
    (hkeeps : ∀ flight key, own ≠ some flight → c.Awaits flight key → c'.Awaits flight key) :
    Departs own c (.ended ending) c' := by
  refine ⟨trivial, hkeeps, ?_⟩
  intro flight hflight
  cases hflight

end CheckTask

section Flights

variable {service : Service σ} {token : Token} {s : Subject} {running : RunningTag}
  {cancelled : Bool} {w w' : World σ} {task next : CheckTask}

/-! ### Time -/

theorem Subject.Fetched.now_eq {flight : Nat} {answer : Except RegistryError (List ImageTag)}
    {c c' : TagCache} {ending : CheckEnding}
    (h : s.Fetched running flight cancelled answer c ending c') : c'.now = c.now := by
  cases h with
  | unknown | stopped | refused | given => rfl

theorem Subject.LookedUp.now_eq (h : s.LookedUp service running cancelled w next w') :
    w'.cache.now = w.cache.now := by
  cases h with
  | hit | stopped | waits => rfl
  | fetched notices hfresh hgo hasked hfetched => exact hfetched.now_eq

theorem CheckTask.Step.now_eq (h : Step service token w task next w') :
    w'.cache.now = w.cache.now := by
  cases h with
  | absent | idle | stopped | asked | resolvingStopped | ended => rfl
  | resolvedAtOnce hruns hwants hgo hasked hlooked => exact hlooked.now_eq
  | declared hruns hwants hlooked => exact hlooked.now_eq
  | resolved hgo hlooked => exact hlooked.now_eq
  | fetched hfetched => exact hfetched.now_eq

/-! ### What is stored -/

/-- Nothing is stored, or one value is. -/
def StoresAtMost (c c' : TagCache) : Prop :=
  c'.cache = c.cache ∨ ∃ key tags, c'.cache = c.cache.write c.now key tags

theorem Subject.Fetched.stores {flight : Nat} {answer : Except RegistryError (List ImageTag)}
    {c c' : TagCache} {ending : CheckEnding}
    (h : s.Fetched running flight cancelled answer c ending c') : StoresAtMost c c' := by
  cases h with
  | unknown | stopped | refused => exact Or.inl rfl
  | given hkey hgo hanswer => exact Or.inr ⟨_, _, rfl⟩

theorem Subject.LookedUp.stores (h : s.LookedUp service running cancelled w next w') :
    StoresAtMost w.cache w'.cache := by
  cases h with
  | hit | stopped | waits => exact Or.inl rfl
  | fetched notices hfresh hgo hasked hfetched => exact hfetched.stores

theorem CheckTask.Step.stores (h : Step service token w task next w') :
    StoresAtMost w.cache w'.cache := by
  cases h with
  | absent | idle | stopped | asked | resolvingStopped | ended => exact Or.inl rfl
  | resolvedAtOnce hruns hwants hgo hasked hlooked => exact hlooked.stores
  | declared hruns hwants hlooked => exact hlooked.stores
  | resolved hgo hlooked => exact hlooked.stores
  | fetched hfetched => exact hfetched.stores

/-! ### Fetches that others wait for -/

open CheckTask (Departs departs_ended)

theorem Subject.Fetched.awaits {flight : Nat} {answer : Except RegistryError (List ImageTag)}
    {c c' : TagCache} {ending : CheckEnding}
    (h : s.Fetched running flight cancelled answer c ending c') {other : Nat} {key : String}
    (hne : other ≠ flight) (hother : c.Awaits other key) : c'.Awaits other key := by
  cases h with
  | unknown hnone => exact hother
  | stopped notices hstop => exact (hother.land hne).note notices
  | refused hgo hanswer => exact hother.land hne
  | given hkey hgo hanswer => exact (hother.land hne).congr rfl rfl

theorem Subject.LookedUp.departs (h : s.LookedUp service running cancelled w next w') :
    Departs none w.cache next w'.cache := by
  cases h with
  | hit notices hfresh => exact departs_ended fun _ _ _ hother => hother.note notices
  | stopped notices hstop => exact departs_ended fun _ _ _ hother => hother.note notices
  | waits notices hfresh hgo hasked =>
    refine ⟨(w.cache.depart_awaits s.cacheKey).note notices, ?_, ?_⟩
    · intro flight key _ hother
      exact (hother.depart s.cacheKey).note notices
    · intro flight hflight
      exact Nat.le_of_eq (Option.some.inj hflight)
  | fetched notices hfresh hgo hasked hfetched =>
    refine departs_ended ?_
    intro flight key _ hother
    exact hfetched.awaits (Nat.ne_of_lt hother.started) ((hother.depart s.cacheKey).note notices)

theorem CheckTask.Step.departs (h : Step service token w task next w') :
    Departs task.flight? w.cache next w'.cache := by
  cases h with
  | absent | ended => exact departs_ended fun _ _ _ hother => hother
  | idle notices | stopped notices | resolvingStopped notices =>
    exact departs_ended fun _ _ _ hother => hother.note notices
  | asked notices hruns hwants hgo hasked =>
    refine ⟨trivial, fun _ _ _ hother => hother.note notices, ?_⟩
    intro flight hflight
    cases hflight
  | resolvedAtOnce hruns hwants hgo hasked hlooked => exact hlooked.departs
  | declared hruns hwants hlooked => exact hlooked.departs
  | resolved hgo hlooked => exact hlooked.departs
  | fetched hfetched =>
    refine departs_ended fun flight key hne hother => hfetched.awaits ?_ hother
    rintro rfl
    exact hne rfl

end Flights

namespace CheckTask

/-- Tasks that wait for fetches wait for such as are under way, and no two for the same one. -/
structure AllInFlight (tasks : List CheckTask) (w : World σ) : Prop where
  inFlight : ∀ task ∈ tasks, task.InFlight w.cache
  apart : tasks.Pairwise fun a b => ∀ flight, a.flight? = some flight → b.flight? ≠ some flight

theorem AllInFlight.of_starting {tasks : List CheckTask} {w : World σ}
    (h : ∀ task ∈ tasks, ∃ start subject, task = .starting start subject) :
    AllInFlight tasks w := by
  refine ⟨?_, List.pairwise_of_forall_mem_list ?_⟩
  · intro task hmem
    obtain ⟨start, subject, rfl⟩ := h task hmem
    trivial
  · intro task hmem other _ flight hflight
    obtain ⟨start, subject, rfl⟩ := h task hmem
    cases hflight

theorem AllInFlight.step {service : Service σ} {token : Token} {before after : List CheckTask}
    {task next : CheckTask} {w w' : World σ} (h : AllInFlight (before ++ task :: after) w)
    (hstep : Step service token w task next w') :
    AllInFlight (before ++ next :: after) w' := by
  have hdeparts := hstep.departs
  obtain ⟨hbefore, hafter, hcross⟩ := List.pairwise_append.mp h.apart
  obtain ⟨htask, hrest⟩ := List.pairwise_cons.mp hafter
  have hmem : ∀ other, other ∈ before ∨ other ∈ after → other ∈ before ++ task :: after := by
    intro other hother
    rcases hother with hother | hother <;> simp [hother]
  -- the other tasks wait for other fetches than this one
  have hothers : ∀ other, other ∈ before ∨ other ∈ after → ∀ flight,
      other.flight? = some flight → task.flight? ≠ some flight := by
    intro other hother flight hflight htaken
    rcases hother with hother | hother
    · exact hcross other hother task List.mem_cons_self flight hflight htaken
    · exact htask other hother flight htaken hflight
  -- and for others than the one that it has come to wait for
  have hstarted : ∀ other, other ∈ before ∨ other ∈ after → ∀ flight,
      other.flight? = some flight → next.flight? ≠ some flight := by
    intro other hother flight hflight htaken
    have hlt := (h.inFlight other (hmem other hother)).lt hflight
    exact absurd hlt (Nat.not_lt.mpr (hdeparts.unused flight htaken))
  have hkept : ∀ other, other ∈ before ∨ other ∈ after → other.InFlight w'.cache := by
    intro other hother
    refine (h.inFlight other (hmem other hother)).of_awaits fun flight key hflight => ?_
    exact hdeparts.keeps flight key (hothers other hother flight hflight)
  refine ⟨?_, List.pairwise_append.mpr ⟨hbefore, List.pairwise_cons.mpr ⟨?_, hrest⟩, ?_⟩⟩
  · intro other hother
    rcases List.mem_append.mp hother with hother | hother
    · exact hkept other (Or.inl hother)
    · rcases List.mem_cons.mp hother with rfl | hother
      · exact hdeparts.inFlight
      · exact hkept other (Or.inr hother)
  · intro other hother flight htaken hflight
    exact hstarted other (Or.inr hother) flight hflight htaken
  · intro other hother other' hother' flight hflight
    rcases List.mem_cons.mp hother' with rfl | hother'
    · exact hstarted other (Or.inl hother) flight hflight
    · exact hcross other hother other' (List.mem_cons_of_mem _ hother') flight hflight

theorem AllInFlight.advanceTo {tasks : List CheckTask} {w : World σ} (h : AllInFlight tasks w)
    (instant : Nat) : AllInFlight tasks { w with cache := w.cache.advanceTo instant } := by
  refine ⟨?_, h.apart⟩
  intro task hmem
  refine (h.inFlight task hmem).of_awaits fun flight key _ hawaits => ?_
  exact hawaits.congr (w.cache.advanceTo_flights instant) (w.cache.advanceTo_nextFlight instant)

end CheckTask

end ImageFreshness
