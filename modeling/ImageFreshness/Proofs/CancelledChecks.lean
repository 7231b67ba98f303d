import ImageFreshness.Pattern.Compile
import ImageFreshness.Proofs.CacheBackground
import ImageFreshness.Proofs.CacheHistory
import ImageFreshness.Proofs.RegistryRecord
import ImageFreshness.Proofs.ScanIndependence

/-!
# Checks that are cancelled

A check whose token is cancelled before it starts asks no registry for anything and leaves the
cache as it is; still it ends with a verdict if it needs nothing but tags that are fresh in the
cache.  One whose token is cancelled while it waits ends with that, and has stored nothing
(`Subject.check_cancelled`).

A check that is alone goes on at instants that can be told in advance: `Subject.known` is the one
at which its running tag is known, and `Token.Interrupts` says that a token is cancelled in one of
its waits.  Other checks may change the world whenever it waits; `CheckTask.resumeIn` are its steps
in any worlds that they may leave to it.
-/

namespace ImageFreshness

variable {σ : Type}

namespace Token

variable {token : Token} {since ready now : Nat}

/-- The token is cancelled in a wait that begins at one instant and would end at a later one. -/
def Interrupts (token : Token) (since ready : Nat) : Prop :=
  since < ready ∧ ∃ instant, token = .cancelledAt instant ∧ since ≤ instant ∧ instant ≤ ready

/-- What starts before an interrupted wait is not cancelled from the beginning. -/
theorem Interrupts.stopsStart (h : token.Interrupts since ready) (hle : now ≤ since) :
    token.stopsStart now = false := by
  obtain ⟨-, instant, rfl, hsince, -⟩ := h
  exact decide_eq_false (Nat.not_lt.mpr (Nat.le_trans hle hsince))

/-- A wait before an interrupted one ends as if there were no token. -/
theorem Interrupts.undisturbed (h : token.Interrupts since ready)
    (hbefore : ¬ token.Interrupts now since) (hlater : now < since) :
    token.waitEnd since = since ∧ token.stopsWait since = false := by
  obtain ⟨-, instant, rfl, hsince, -⟩ := h
  have hafter : ¬ instant ≤ since := by
    intro hle
    exact hbefore ⟨hlater, instant, rfl, Nat.le_trans (Nat.le_of_lt hlater) hsince, hle⟩
  exact ⟨Nat.min_eq_right hsince, decide_eq_false hafter⟩

end Token

/-! ### Collectors that are on time -/

namespace CacheSession

variable {V : Type} {s s' : CacheSession V}

/-- No sweep of the collector is overdue. -/
def OnTime (s : CacheSession V) : Prop :=
  ∀ collector, s.collector = some collector →
    0 < collector.interval ∧ s.now < collector.nextTick

theorem OnTime.congr (h : s.OnTime) (hcollector : s'.collector = s.collector)
    (hnow : s'.now = s.now) : s'.OnTime := by
  intro collector hsome
  rw [hnow]
  exact h collector (hcollector ▸ hsome)

/-- There is nothing to be done until now. -/
theorem OnTime.advanceTo_now (h : s.OnTime) : s.advanceTo s.now = s := by
  have hticks : s.ticksUntil s.now = 0 := by
    unfold ticksUntil
    cases hcollector : s.collector with
    | none => rfl
    | some collector => exact if_neg (Nat.not_le.mpr (h collector hcollector).2)
  rw [advanceTo_of_ticksUntil hticks, Nat.max_self]

theorem ticks_collector (n : Nat) (s : CacheSession V) :
    (ticks n s).collector = s.collector.map fun collector =>
      { collector with nextTick := collector.nextTick + n * collector.interval } := by
  induction n generalizing s with
  | zero => cases hcollector : s.collector <;> simp [ticks, hcollector]
  | succ n ih =>
    rw [ticks, ih]
    cases hcollector : s.collector with
    | none => simp [tick, hcollector]
    | some collector =>
      simp only [tick, hcollector, note_collector, Option.map_some, Option.some.injEq,
        Collector.mk.injEq, true_and]
      rw [Nat.succ_mul]
      omega

theorem OnTime.advanceTo (h : s.OnTime) (instant : Nat) : (s.advanceTo instant).OnTime := by
  intro later hlater
  change (ticks (s.ticksUntil instant) s).collector = some later at hlater
  rw [ticks_collector] at hlater
  obtain ⟨collector, hcollector, rfl⟩ := Option.map_eq_some_iff.mp hlater
  obtain ⟨hinterval, hnext⟩ := h collector hcollector
  refine ⟨hinterval, Nat.max_lt.mpr ⟨Nat.lt_add_right _ hnext, ?_⟩⟩
  simp only [ticksUntil, hcollector]
  split
  · have hpassed := Nat.lt_div_mul_add (a := instant - collector.nextTick) hinterval
    rw [Nat.succ_mul]
    omega
  · omega

theorem startCollector_onTime (s : CacheSession V) (interval : Nat) :
    (s.startCollector interval).OnTime := by
  intro collector hcollector
  unfold startCollector at hcollector ⊢
  split at hcollector
  · cases hcollector
  · rename_i hinterval
    cases hcollector
    rw [if_neg hinterval]
    exact ⟨Nat.pos_of_ne_zero hinterval, Nat.lt_add_of_pos_right (Nat.pos_of_ne_zero hinterval)⟩

theorem OnTime.apply (h : s.OnTime) (event : CacheEvent V) : (s.apply event).2.OnTime := by
  cases event with
  | advance ms => exact h.advanceTo (s.now + ms)
  | lookup | finish | update | delete | shutdown | sweep =>
    exact h.congr (s.apply_collector rfl) (s.apply_now _)
  | startCollector interval => exact s.startCollector_onTime interval
  | stopCollector =>
    intro collector hcollector
    cases (s.stopCollector_collector ▸ hcollector : none = some collector)

end CacheSession

theorem Reached.onTime {V : Type} {ttl : Nat} {history : List (CacheStep V)} {s : CacheSession V}
    (h : Reached ttl history s) : s.OnTime := by
  induction h with
  | start =>
    intro collector hcollector
    cases hcollector
  | step event _ ih => exact ih.apply event
  | batch started keys _ _ ih => exact ih.congr rfl rfl
  | wait instant _ ih => exact ih.advanceTo instant
  | note notices _ ih => exact ih.congr rfl rfl

/-! ### One step -/

section AnyEngine

variable [PatternEngine]

/-- The world in which some more notices have been given. -/
def World.note (w : World σ) (notices : List Notice) : World σ :=
  { w with cache := w.cache.note notices }

namespace Subject

variable {s : Subject} {c : TagCache}

theorem consult_of_fresh {tags : List ImageTag}
    (h : c.cache.fresh? c.now s.cacheKey = some tags) (running : RunningTag) (cancelled : Bool) :
    ∃ notices, s.consult running cancelled c =
      (.ended (s.conclude running tags), c.note notices) := by
  rcases (c.note s.lookupNotices).lookup_cases s.cacheKey cancelled with
    ⟨value, hvalue, hlookup⟩ | ⟨hnone, -, -⟩ | ⟨hnone, -, -⟩
  · obtain rfl : tags = value := Option.some.inj (h.symm.trans hvalue)
    refine ⟨s.lookupNotices ++ [.cacheHit s.cacheKey], ?_⟩
    simp only [consult, hlookup, CacheSession.note_note]
  · exact absurd (h.symm.trans hnone) (Option.some_ne_none tags)
  · exact absurd (h.symm.trans hnone) (Option.some_ne_none tags)

theorem consult_of_stopped (h : c.cache.fresh? c.now s.cacheKey = none) (running : RunningTag) :
    ∃ notices, s.consult running true c = (.ended (cancelledAt s.lookupUrl), c.note notices) := by
  rcases (c.note s.lookupNotices).lookup_cases s.cacheKey true with
    ⟨value, hvalue, -⟩ | ⟨-, -, hlookup⟩ | ⟨-, hgo, -⟩
  · exact absurd (hvalue.symm.trans h) (Option.some_ne_none value)
  · refine ⟨s.lookupNotices ++ [.cacheMiss s.cacheKey, .fetchCancelled s.cacheKey], ?_⟩
    simp only [consult, hlookup, CacheSession.note_note]
  · cases hgo

theorem consult_of_missing (h : c.cache.fresh? c.now s.cacheKey = none) (running : RunningTag) :
    ∃ notices, s.consult running false c =
      (.fetching running c.nextFlight, (c.depart s.cacheKey).note notices) := by
  rcases (c.note s.lookupNotices).lookup_cases s.cacheKey false with
    ⟨value, hvalue, -⟩ | ⟨-, hstop, -⟩ | ⟨-, -, hlookup⟩
  · exact absurd (hvalue.symm.trans h) (Option.some_ne_none value)
  · cases hstop
  · refine ⟨s.lookupNotices ++ [.cacheMiss s.cacheKey] ++ [s.fetchNotice], ?_⟩
    simp only [consult, hlookup, CacheSession.depart_note, CacheSession.note_note,
      CacheSession.note_nextFlight]

/-- How a check ends whose token is cancelled before it starts. -/
def endIfStopped (s : Subject) (c : TagCache) : CheckEnding :=
  if s.runningDigest = "" then .ok none
  else if s.wantsResolution then cancelledAt s.image.url
  else
    match c.cache.fresh? c.now s.cacheKey with
    | some tags => s.conclude (.declared s.image) tags
    | none => cancelledAt s.lookupUrl

end Subject

namespace CheckTask

open Subject (cancelledAt)

variable {service : Service σ} {token : Token}

theorem resume_of_stopsStart (service : Service σ) {w : World σ}
    (h : token.stopsStart w.cache.now = true) (start : Nat) (s : Subject) :
    ∃ notices, resume service token (.starting start (some s)) w =
      (.ended (s.endIfStopped w.cache), w.note notices) := by
  by_cases hruns : s.runningDigest = ""
  · refine ⟨[.notRunning s.pod.metadata.name s.container.name], ?_⟩
    simp only [resume, Subject.begin, Subject.endIfStopped, if_pos hruns, afterStart, afterLookup]
    rfl
  · by_cases hwants : s.wantsResolution = true
    · refine ⟨[.resolvingCancelled s.image.url s.image.digest], ?_⟩
      simp only [resume, Subject.begin, Subject.endIfStopped, if_neg hruns, if_pos hwants, h,
        if_true, afterStart, afterLookup]
      rfl
    · cases hfresh : w.cache.cache.fresh? w.cache.now s.cacheKey with
      | some tags =>
        obtain ⟨notices, hconsult⟩ := Subject.consult_of_fresh hfresh (.declared s.image) true
        refine ⟨notices, ?_⟩
        simp only [resume, Subject.begin, Subject.endIfStopped, if_neg hruns, if_neg hwants, h,
          hconsult, hfresh, afterStart, afterLookup]
        rfl
      | none =>
        obtain ⟨notices, hconsult⟩ := Subject.consult_of_stopped hfresh (.declared s.image)
        refine ⟨notices, ?_⟩
        simp only [resume, Subject.begin, Subject.endIfStopped, if_neg hruns, if_neg hwants, h,
          hconsult, hfresh, afterStart, afterLookup]
        rfl

/-- The image that a task deals with while it waits. -/
def waitUrl? : CheckTask → Option String
  | .resolving s _ _ => some s.image.url
  | .fetching s _ _ _ _ => some s.lookupUrl
  | .starting _ _ | .ended _ => none

theorem ending?_of_waits {task : CheckTask} {url : String} (h : task.waitUrl? = some url) :
    task.ending? = none := by
  cases task with
  | starting | ended => cases h
  | resolving | fetching => rfl

/-- A cancelled token counts more than an answer. -/
theorem Step.of_stopsWait {task next : CheckTask} {w w' : World σ}
    (hstep : Step service token w task next w') (h : token.stopsWait w.cache.now = true)
    {url : String} (hwaits : task.waitUrl? = some url) :
    next = .ended (cancelledAt url) ∧ w'.registry = w.registry ∧
      w'.cache.cache = w.cache.cache := by
  cases hstep with
  | absent | idle | stopped | asked | resolvedAtOnce | declared | ended => cases hwaits
  | resolvingStopped notices hstop =>
    cases hwaits
    exact ⟨rfl, rfl, rfl⟩
  | resolved hgo hlooked =>
    rw [h] at hgo
    cases hgo
  | fetched hfetched =>
    cases hwaits
    cases hfetched with
    | unknown | stopped => exact ⟨rfl, rfl, rfl⟩
    | refused hgo hanswer | given hkey hgo hanswer =>
      rw [h] at hgo
      cases hgo

end CheckTask

section Storing

variable {service : Service σ} {token : Token} {w w' : World σ} {task next : CheckTask}

theorem Subject.LookedUp.cache_of_open {s : Subject} {running : RunningTag} {cancelled : Bool}
    (h : s.LookedUp service running cancelled w next w') (hopen : next.ending? = none) :
    w'.cache.cache = w.cache.cache := by
  cases h with
  | hit | stopped | waits => rfl
  | fetched => cases hopen

/-- A step stores nothing unless the check ends with it. -/
theorem CheckTask.Step.cache_of_open (hstep : Step service token w task next w')
    (hopen : next.ending? = none) : w'.cache.cache = w.cache.cache := by
  cases hstep with
  | absent | idle | stopped | resolvingStopped | fetched | ended => cases hopen
  | asked => rfl
  | resolvedAtOnce hruns hwants hgo hasked hlooked => exact hlooked.cache_of_open hopen
  | declared hruns hwants hlooked => exact hlooked.cache_of_open hopen
  | resolved hgo hlooked => exact hlooked.cache_of_open hopen

end Storing

/-! ### Steps among those of other checks -/

namespace CheckTask

open Subject (cancelledAt)

variable {service : Service σ} {token : Token}

/-- The steps of a task in worlds that others leave to it, one after another: what becomes of the
    task, and the worlds that it leaves to others. -/
def resumeIn (service : Service σ) (token : Token) :
    CheckTask → List (World σ) → CheckTask × List (World σ)
  | task, [] => (task, [])
  | task, w :: later =>
    let (next, w') := resume service token task w
    let (last, left) := resumeIn service token next later
    (last, w' :: left)

theorem resumeIn_ended (ending : CheckEnding) (worlds : List (World σ)) :
    (resumeIn service token (.ended ending) worlds).1 = .ended ending := by
  induction worlds with
  | nil => rfl
  | cons w later ih => exact ih

/-- The steps of a check that has not ended have stored nothing.  The induction is on the worlds; a
    check that has not ended at last had not ended after its first step. -/
theorem resumeIn_cache {task : CheckTask} {worlds : List (World σ)}
    (hopen : (resumeIn service token task worlds).1.ending? = none) :
    List.Forall₂ (fun w w' => w'.cache.cache = w.cache.cache) worlds
      (resumeIn service token task worlds).2 := by
  induction worlds generalizing task with
  | nil => exact .nil
  | cons w later ih =>
    refine .cons ?_ (ih hopen)
    apply (resume_step service token task w).cache_of_open
    change (resumeIn service token (resume service token task w).1 later).1.ending? = none at hopen
    cases hnext : (resume service token task w).1 with
    | ended ending =>
      rw [hnext, resumeIn_ended] at hopen
      cases hopen
    | starting | resolving | fetching => rfl

/-! ### The steps of a check that is alone -/

/-- The end of one task that goes on at up to `fuel` instants, and the world after that. -/
def runAlone (service : Service σ) (token : Token) (fuel : Nat) (task : CheckTask) (w : World σ) :
    CheckEnding × World σ :=
  let (tasks, w) := (schedule service token).runAtMost fuel [task] w
  ((tasks.filterMap ending?).headD (.ok none), w)

theorem runAlone_ended (fuel : Nat) (ending : CheckEnding) (w : World σ) :
    runAlone service token fuel (.ended ending) w = (ending, w) := by
  cases fuel with
  | zero => rfl
  | succ fuel => rfl

/-- A task that is alone goes on when it is due. -/
theorem runAlone_succ {task : CheckTask} {instant : Nat} (hdue : task.due? token = some instant)
    (fuel : Nat) (w : World σ) :
    runAlone service token (fuel + 1) task w =
      let next := resume service token task { w with cache := w.cache.advanceTo instant }
      runAlone service token fuel next.1 next.2 := by
  have hrun := (schedule_ends service token).runAtMost_singleton hdue fuel w
  simp only [runAlone, hrun]
  rfl

/-- A wait that is interrupted brings the check to its end. -/
theorem runAlone_of_interrupts {task : CheckTask} {url : String} {ready : Nat}
    (hwaits : task.waitUrl? = some url) (hdue : task.due? token = some (token.waitEnd ready))
    {w : World σ} (h : token.Interrupts w.cache.now ready) (fuel : Nat) :
    let done := runAlone service token (fuel + 1) task w
    done.1 = cancelledAt url ∧ done.2.registry = w.registry ∧
      done.2.cache.cache.Within w.cache.cache := by
  obtain ⟨-, instant, rfl, hsince, hready⟩ := h
  have hinstant : (Token.cancelledAt instant).waitEnd ready = instant := Nat.min_eq_left hready
  rw [hinstant] at hdue
  have hstop : (Token.cancelledAt instant).stopsWait (w.cache.advanceTo instant).now = true :=
    decide_eq_true (Nat.le_max_right w.cache.now instant)
  obtain ⟨hended, hregistry, hcache⟩ := (resume_step service (.cancelledAt instant) task
    { w with cache := w.cache.advanceTo instant }).of_stopsWait hstop hwaits
  simp only [runAlone_succ hdue, hended, runAlone_ended, hregistry, hcache]
  exact ⟨trivial, trivial, w.cache.advanceTo_within instant⟩

end CheckTask

namespace Subject

variable {service : Service σ} {token : Token} {s : Subject} {w : World σ}

/-- The instant at which the running tag is known if the check starts now, is alone and goes on
    undisturbed, and the state of the registries by then. -/
def known (s : Subject) (service : Service σ) (w : World σ) : Nat × σ :=
  if s.wantsResolution then
    let (reply, registry) := service.resolve s.image.url s.image.digest w.registry
    (w.cache.now + reply.delay, registry)
  else (w.cache.now, w.registry)

theorem known_of_wants (h : s.wantsResolution = true) :
    s.known service w =
      (w.cache.now + (service.resolve s.image.url s.image.digest w.registry).1.delay,
        (service.resolve s.image.url s.image.digest w.registry).2) :=
  if_pos h

theorem known_of_declared (h : ¬ s.wantsResolution = true) :
    s.known service w = (w.cache.now, w.registry) :=
  if_neg h

theorem le_known (s : Subject) (service : Service σ) (w : World σ) :
    w.cache.now ≤ (s.known service w).1 := by
  by_cases hwants : s.wantsResolution = true
  · rw [known_of_wants hwants]
    exact Nat.le_add_right _ _
  · exact Nat.le_of_eq (congrArg Prod.fst (known_of_declared hwants)).symm

theorem check_of_onTime (h : w.cache.OnTime) :
    s.check service token w =
      let begun := CheckTask.resume service token (.starting w.cache.now (some s)) w
      CheckTask.runAlone service token 2 begun.1 begun.2 := by
  have hrun : s.check service token w =
      CheckTask.runAlone service token 3 (.starting w.cache.now (some s)) w := rfl
  rw [hrun, CheckTask.runAlone_succ rfl, h.advanceTo_now]

theorem check_of_stopsStart (s : Subject) (service : Service σ) (htime : w.cache.OnTime)
    (h : token.stopsStart w.cache.now = true) :
    ∃ notices, s.check service token w = (s.endIfStopped w.cache, w.note notices) := by
  obtain ⟨notices, hbegun⟩ := CheckTask.resume_of_stopsStart service h w.cache.now s
  refine ⟨notices, ?_⟩
  rw [check_of_onTime htime, hbegun]
  exact CheckTask.runAlone_ended 2 _ _

/-- A check that does not need a registry for its running tag looks its tags up at once. -/
theorem check_of_declared (service : Service σ) (token : Token) (htime : w.cache.OnTime)
    (hruns : s.runningDigest ≠ "") (hwants : ¬ s.wantsResolution = true) :
    s.check service token w =
      let looked := s.consult (.declared s.image) (token.stopsStart w.cache.now) w.cache
      let next := CheckTask.afterLookup service s looked.1 ⟨looked.2, w.registry⟩
      CheckTask.runAlone service token 2 next.1 next.2 := by
  rw [check_of_onTime htime]
  simp only [CheckTask.resume, begin, if_neg hruns, if_neg hwants, CheckTask.afterStart]

/-- What is fresh is found whether or not the token is cancelled. -/
theorem check_of_fresh (service : Service σ) (token : Token) (htime : w.cache.OnTime)
    (hruns : s.runningDigest ≠ "") (hwants : ¬ s.wantsResolution = true) {tags : List ImageTag}
    (hfresh : w.cache.cache.fresh? w.cache.now s.cacheKey = some tags) :
    (s.check service token w).1 = s.conclude (.declared s.image) tags := by
  obtain ⟨notices, hconsult⟩ :=
    consult_of_fresh hfresh (.declared s.image) (token.stopsStart w.cache.now)
  rw [check_of_declared service token htime hruns hwants]
  simp only [hconsult, CheckTask.afterLookup, CheckTask.runAlone_ended]

/-- A check that does not know its running tag waits for it. -/
theorem check_resolves (htime : w.cache.OnTime) (hruns : s.runningDigest ≠ "")
    (hgo : token.stopsStart w.cache.now = false) (hlater : w.cache.now < (s.known service w).1) :
    ∃ answer notices, s.check service token w =
      CheckTask.runAlone service token 2 (.resolving s (s.known service w).1 answer)
        ⟨w.cache.note notices, (s.known service w).2⟩ := by
  by_cases hwants : s.wantsResolution = true
  · rw [known_of_wants hwants] at hlater ⊢
    have hdelay : (service.resolve s.image.url s.image.digest w.registry).1.delay ≠ 0 := by
      intro hzero
      rw [hzero] at hlater
      exact Nat.lt_irrefl _ hlater
    refine ⟨(service.resolve s.image.url s.image.digest w.registry).1.answer,
      (service.resolve s.image.url s.image.digest w.registry).1.notices, ?_⟩
    rw [check_of_onTime htime]
    simp only [CheckTask.resume, begin, if_neg hruns, if_pos hwants, hgo, Bool.false_eq_true,
      if_false, CheckTask.afterStart, if_neg hdelay]
  · rw [known_of_declared hwants] at hlater
    exact absurd hlater (Nat.lt_irrefl _)

/-- A check whose digest is resolved at once looks its tags up at once. -/
theorem check_resolvesAtOnce (htime : w.cache.OnTime) (hruns : s.runningDigest ≠ "")
    (hgo : token.stopsStart w.cache.now = false) (hwants : s.wantsResolution = true)
    (hzero : (service.resolve s.image.url s.image.digest w.registry).1.delay = 0) :
    ∃ answer notices, s.check service token w =
      let looked := s.consult (.afterResolution s.image answer) false (w.cache.note notices)
      let next := CheckTask.afterLookup service s looked.1 ⟨looked.2, (s.known service w).2⟩
      CheckTask.runAlone service token 2 next.1 next.2 := by
  refine ⟨(service.resolve s.image.url s.image.digest w.registry).1.answer,
    (service.resolve s.image.url s.image.digest w.registry).1.notices ++
      s.resolutionNotices (service.resolve s.image.url s.image.digest w.registry).1.answer, ?_⟩
  rw [known_of_wants hwants, check_of_onTime htime]
  simp only [CheckTask.resume, begin, if_neg hruns, if_pos hwants, hgo, Bool.false_eq_true,
    if_false, CheckTask.afterStart, if_pos hzero, resolved, CacheSession.note_note]

/-- A check whose wait for its running tag is undisturbed looks its tags up after it.  The collector
    may have come before, but has taken nothing that is still fresh. -/
theorem resolving_looksUp (s : Subject) (service : Service σ) {w : World σ} {ready : Nat}
    (hlater : w.cache.now < ready) (hend : token.waitEnd ready = ready)
    (hstop : token.stopsWait ready = false) (answer : Except RegistryError String) :
    ∃ c : TagCache, c.now = ready ∧ c.cache.Within w.cache.cache ∧
      c.cache.SameFresh ready w.cache.cache ∧
      let looked := s.consult (.afterResolution s.image answer) false c
      let next := CheckTask.afterLookup service s looked.1 ⟨looked.2, w.registry⟩
      CheckTask.runAlone service token 2 (.resolving s ready answer) w =
        CheckTask.runAlone service token 1 next.1 next.2 := by
  have hdue : (CheckTask.resolving s ready answer).due? token = some ready := congrArg some hend
  have hnow : (w.cache.advanceTo ready).now = ready := Nat.max_eq_right (Nat.le_of_lt hlater)
  have hfresh := (w.cache.advanceTo_ages ready).cache
  rw [hnow] at hfresh
  refine ⟨(w.cache.advanceTo ready).note (s.resolutionNotices answer), hnow,
    w.cache.advanceTo_within ready, hfresh, ?_⟩
  rw [CheckTask.runAlone_succ hdue]
  simp only [CheckTask.resume, resolved, hnow, hstop, Bool.false_eq_true, if_false]

/-- A check that is not cancelled until its running tag is known looks its tags up then.  The cases
    are those of the wait: there is one, it takes no time, or none is needed. -/
theorem check_looksUp (htime : w.cache.OnTime) (hruns : s.runningDigest ≠ "")
    (hgo : token.stopsStart w.cache.now = false)
    (hresolves : w.cache.now < (s.known service w).1 →
      token.waitEnd (s.known service w).1 = (s.known service w).1 ∧
        token.stopsWait (s.known service w).1 = false) :
    ∃ fuel running c, c.now = (s.known service w).1 ∧ c.cache.Within w.cache.cache ∧
      c.cache.SameFresh (s.known service w).1 w.cache.cache ∧
      let looked := s.consult running false c
      let next := CheckTask.afterLookup service s looked.1 ⟨looked.2, (s.known service w).2⟩
      s.check service token w = CheckTask.runAlone service token (fuel + 1) next.1 next.2 := by
  by_cases hlater : w.cache.now < (s.known service w).1
  · obtain ⟨hend, hstop⟩ := hresolves hlater
    obtain ⟨answer, notices, hcheck⟩ := check_resolves htime hruns hgo hlater
    obtain ⟨c, hnow, hwithin, hfresh, hlooked⟩ :=
      s.resolving_looksUp service (w := ⟨w.cache.note notices, _⟩) hlater hend hstop answer
    exact ⟨0, .afterResolution s.image answer, c, hnow, hwithin, hfresh, hcheck.trans hlooked⟩
  · have hknown := Nat.le_antisymm (s.le_known service w) (Nat.not_lt.mp hlater)
    rw [← hknown]
    by_cases hwants : s.wantsResolution = true
    · have hzero : (service.resolve s.image.url s.image.digest w.registry).1.delay = 0 := by
        rw [known_of_wants hwants] at hknown
        exact Nat.left_eq_add.mp hknown
      obtain ⟨answer, notices, hcheck⟩ := check_resolvesAtOnce htime hruns hgo hwants hzero
      exact ⟨1, .afterResolution s.image answer, w.cache.note notices, rfl, .refl w.cache.cache,
        .refl _ w.cache.cache, hcheck⟩
    · refine ⟨1, .declared s.image, w.cache, rfl, .refl w.cache.cache, .refl _ w.cache.cache, ?_⟩
      rw [check_of_declared service token htime hruns hwants, hgo, known_of_declared hwants]

/-- Tags that are not fresh have to be waited for. -/
theorem afterLookup_of_missing {c : TagCache}
    (hmissing : c.cache.fresh? c.now s.cacheKey = none) {registry : σ}
    (hdelay : 0 < (service.tags s.location registry).1.delay) (running : RunningTag) :
    let looked := s.consult running false c
    let reply := service.tags s.location registry
    ∃ flight c', c'.now = c.now ∧ c'.cache = c.cache ∧
      CheckTask.afterLookup service s looked.1 ⟨looked.2, registry⟩ =
        (.fetching s running flight (c.now + reply.1.delay) reply.1.answer, ⟨c', reply.2⟩) := by
  intro looked reply
  obtain ⟨notices, hconsult⟩ := consult_of_missing hmissing running
  refine ⟨c.nextFlight, (c.depart s.cacheKey).note (notices ++ reply.1.notices), rfl, rfl, ?_⟩
  have hlater : ¬ (service.tags (.ofUrl s.lookupUrl) registry).1.delay = 0 := Nat.ne_of_gt hdelay
  simp only [looked, hconsult, CheckTask.afterLookup, if_neg hlater, CacheSession.note_note]
  rfl

def checkRecord (s : Subject) (service : Service σ) (token : Token) (w : World σ) :
    List RegistryExchange :=
  (s.check service.recorded token w.recording).2.record

/-- A check that waits for the tag of its pinned digest when its token is cancelled. -/
theorem check_of_interrupted_resolution (htime : w.cache.OnTime) (hruns : s.runningDigest ≠ "")
    (h : token.Interrupts w.cache.now (s.known service w).1) :
    (s.check service token w).1 = cancelledAt s.image.url ∧
      (s.check service token w).2.registry = (s.known service w).2 ∧
      (s.check service token w).2.cache.cache.Within w.cache.cache := by
  obtain ⟨answer, notices, hcheck⟩ :=
    check_resolves htime hruns (h.stopsStart (Nat.le_refl w.cache.now)) h.1
  have hwaits : (CheckTask.resolving s (s.known service w).1 answer).waitUrl? =
      some s.image.url := rfl
  rw [hcheck]
  exact CheckTask.runAlone_of_interrupts (w := ⟨w.cache.note notices, (s.known service w).2⟩) hwaits
    rfl h 1

/-- A check that waits for the tags of its image when its token is cancelled. -/
theorem check_of_interrupted_fetch (htime : w.cache.OnTime) (hruns : s.runningDigest ≠ "")
    (hbefore : ¬ token.Interrupts w.cache.now (s.known service w).1)
    (hmissing : w.cache.cache.fresh? (s.known service w).1 s.cacheKey = none)
    (h : token.Interrupts (s.known service w).1
      ((s.known service w).1 + (service.tags s.location (s.known service w).2).1.delay)) :
    (s.check service token w).1 = cancelledAt s.lookupUrl ∧
      (s.check service token w).2.registry = (service.tags s.location (s.known service w).2).2 ∧
      (s.check service token w).2.cache.cache.Within w.cache.cache := by
  obtain ⟨fuel, running, c, hnow, hwithin, hfresh, hcheck⟩ := check_looksUp htime hruns
    (h.stopsStart (s.le_known service w)) (h.undisturbed hbefore)
  have hmissing' : c.cache.fresh? c.now s.cacheKey = none := by
    rw [hnow, hfresh.fresh? s.cacheKey]
    exact hmissing
  obtain ⟨flight, c', hnow', hcache, hlooked⟩ :=
    afterLookup_of_missing hmissing' (Nat.lt_add_right_iff_pos.mp h.1) running
  simp only [hlooked, hnow] at hcheck
  have hwaits (ready : Nat) (answer : Except RegistryError (List ImageTag)) :
      (CheckTask.fetching s running flight ready answer).waitUrl? = some s.lookupUrl := rfl
  rw [← hnow, ← hnow'] at h
  rw [← hnow, ← hnow'] at hcheck
  obtain ⟨hended, hregistry, hstored⟩ :=
    CheckTask.runAlone_of_interrupts (w := ⟨c', _⟩) (hwaits _ _) rfl h fuel
  rw [hcheck]
  exact ⟨hended, hregistry, hstored.trans (hcache ▸ hwithin)⟩

theorem endIfStopped_eq (htime : w.cache.OnTime) :
    s.endIfStopped w.cache =
      if s.runningDigest = "" then .ok none
      else if s.wantsResolution then cancelledAt s.image.url
      else if w.cache.cache.fresh? w.cache.now s.cacheKey = none then cancelledAt s.lookupUrl
      else (s.check service .live w).1 := by
  by_cases hruns : s.runningDigest = ""
  · simp only [endIfStopped, if_pos hruns]
  · by_cases hwants : s.wantsResolution = true
    · simp only [endIfStopped, if_neg hruns, if_pos hwants]
    · cases hfresh : w.cache.cache.fresh? w.cache.now s.cacheKey with
      | none => simp only [endIfStopped, if_neg hruns, if_neg hwants, hfresh, if_true]
      | some tags =>
        have hlive := check_of_fresh service .live htime hruns hwants hfresh
        simp only [endIfStopped, if_neg hruns, if_neg hwants, hfresh, hlive,
          if_neg (Option.some_ne_none tags)]

/-- **A check that is cancelled touches nothing.**

* If its token is cancelled before it starts, it asks nothing and leaves nothing but notices.  It
  ends cancelled, unless there is nothing running or all it needs are tags that are fresh in the
  cache; then it ends as it would if the token were not cancelled.
* If its token is cancelled while it waits for the tag of the pinned digest, or later while it waits
  for the tags of its image, it ends cancelled, has asked for nothing more, and the cache holds
  nothing that it did not hold before.
* The same is true among other checks, whatever they and anything else have made of the world
  whenever it goes on: it ends cancelled, and none of its steps has stored anything. -/
theorem check_cancelled (s : Subject) (service : Service σ) (token : Token) (w : World σ)
    (htime : w.cache.OnTime) :
    let done := s.check service token w
    let known := s.known service w
    let reply := service.tags s.location known.2
    (∀ url, ∃ error, cancelledAt url = .error error ∧ error.isCancelled = true) ∧
    (token.stopsStart w.cache.now = true →
      s.checkRecord service token w = [] ∧ (∃ notices, done.2 = w.note notices) ∧
      done.1 =
        if s.runningDigest = "" then .ok none
        else if s.wantsResolution then cancelledAt s.image.url
        else if w.cache.cache.fresh? w.cache.now s.cacheKey = none then cancelledAt s.lookupUrl
        else (s.check service .live w).1) ∧
    (s.runningDigest ≠ "" → token.Interrupts w.cache.now known.1 →
      done.1 = cancelledAt s.image.url ∧ done.2.registry = known.2 ∧
        done.2.cache.cache.Within w.cache.cache) ∧
    (s.runningDigest ≠ "" → ¬ token.Interrupts w.cache.now known.1 →
      w.cache.cache.fresh? known.1 s.cacheKey = none →
      token.Interrupts known.1 (known.1 + reply.1.delay) →
      done.1 = cancelledAt s.lookupUrl ∧ done.2.registry = reply.2 ∧
        done.2.cache.cache.Within w.cache.cache) ∧
    ∀ (start : Nat) (worlds : List (World σ)) (v : World σ) (url : String),
      let waiting := CheckTask.resumeIn service token (.starting start (some s)) worlds
      waiting.1.waitUrl? = some url → token.stopsWait v.cache.now = true →
      let next := CheckTask.resume service token waiting.1 v
      next.1 = .ended (cancelledAt url) ∧ next.2.registry = v.registry ∧
        next.2.cache.cache = v.cache.cache ∧
        List.Forall₂ (fun before after => after.cache.cache = before.cache.cache) worlds
          waiting.2 := by
  intro done known reply
  refine ⟨fun url => ⟨.fetch url .cancelled, rfl, rfl⟩, ?_, ?_, ?_, ?_⟩
  · intro hstop
    obtain ⟨notices, hdone⟩ := check_of_stopsStart s service htime hstop
    obtain ⟨_, hrecorded⟩ := check_of_stopsStart s service.recorded (w := w.recording) htime hstop
    refine ⟨?_, ⟨notices, congrArg Prod.snd hdone⟩, ?_⟩
    · rw [checkRecord, hrecorded]
      rfl
    · exact (congrArg Prod.fst hdone).trans (endIfStopped_eq htime)
  · intro hruns hinterrupts
    exact check_of_interrupted_resolution htime hruns hinterrupts
  · intro hruns hbefore hmissing hinterrupts
    exact check_of_interrupted_fetch htime hruns hbefore hmissing hinterrupts
  · intro start worlds v url waiting hwaits hstop next
    have hstep := CheckTask.resume_step service token waiting.1 v
    obtain ⟨hended, hregistry, hcache⟩ := hstep.of_stopsWait hstop hwaits
    have hstored := CheckTask.resumeIn_cache (CheckTask.ending?_of_waits hwaits)
    exact ⟨hended, hregistry, hcache, hstored⟩

end Subject

end AnyEngine

namespace Subject

/-- A registry that counts what it is asked.  It needs 10 milliseconds for the tag of a digest and
    20 for the tags of an image. -/
def slowRegistry : Service Nat where
  tags _ asked := (⟨20, .ok [.ofDigest "1.0.0" "sha256:a"], []⟩, asked + 1)
  resolve _ _ asked := (⟨10, .ok "1.0.0", []⟩, asked + 1)

/-- A container that is pinned to a digest, with a mirror. -/
def pinnedWeb : Subject where
  pod := ⟨⟨"web", "default", []⟩, ⟨[], []⟩, ⟨[⟨"web", "docker-pullable://nginx@sha256:a"⟩], []⟩⟩
  container := ⟨"web", "nginx@sha256:a"⟩
  policy := { Policy.empty with resolveDigest := true, overrideUrl := some "mirror.local/nginx" }

def taggedWeb : Subject where
  pod := pinnedWeb.pod
  container := ⟨"web", "nginx:1.0.0"⟩
  policy := Policy.empty

/-- The tags of the tagged image are in the cache, and the collector comes at 7, 14 and so on. -/
def collectedWorld : World Nat :=
  ⟨((CacheSession.start 60).run [.startCollector 7,
    .update taggedWeb.cacheKey [.ofDigest "1.1.0" "sha256:b"], .advance 5]).2, 0⟩

/-- What others have made of it when the token is cancelled at 9. -/
def meanwhileWorld : World Nat :=
  ⟨(collectedWorld.cache.run [.advance 4, .update pinnedWeb.cacheKey []]).2, 7⟩

/-- The token is cancelled before the check, while the digest is being resolved, and while the tags
    are being fetched. -/
theorem check_cancelled_pinnedWeb :
    let check (token : Token) := pinnedWeb.check slowRegistry token collectedWorld
    collectedWorld.cache.OnTime ∧
      pinnedWeb.checkRecord slowRegistry .cancelled collectedWorld = [] ∧
      (check .cancelled).1 = cancelledAt "nginx" ∧
      (taggedWeb.check slowRegistry .cancelled collectedWorld).1 =
        .ok (some ⟨"1.0.0", "1.1.0", false, "nginx"⟩) ∧
      (check (.cancelledAt 9)).1 = cancelledAt "nginx" ∧ (check (.cancelledAt 9)).2.registry = 1 ∧
      (check (.cancelledAt 20)).1 = cancelledAt "mirror.local/nginx" ∧
      (check (.cancelledAt 20)).2.registry = 2 ∧
      (check (.cancelledAt 20)).2.cache.cache.Within collectedWorld.cache.cache ∧
      let waiting := CheckTask.resumeIn slowRegistry (.cancelledAt 9)
        (.starting 5 (some pinnedWeb)) [collectedWorld]
      let next := CheckTask.resume slowRegistry (.cancelledAt 9) waiting.1 meanwhileWorld
      next.1 = .ended (cancelledAt "nginx") ∧
        next.2.cache.cache = meanwhileWorld.cache.cache := by
  dsimp only
  have htime : collectedWorld.cache.OnTime := (CacheSession.reached_run .start _).onTime
  have hruns : pinnedWeb.runningDigest ≠ "" := by decide
  have hknown : pinnedWeb.known slowRegistry collectedWorld = (15, 1) := by decide +kernel
  obtain ⟨-, hbefore, -⟩ := check_cancelled pinnedWeb slowRegistry .cancelled collectedWorld htime
  obtain ⟨hrecord, -, hended⟩ := hbefore rfl
  obtain ⟨-, htagged, -⟩ := check_cancelled taggedWeb slowRegistry .cancelled collectedWorld htime
  obtain ⟨-, -, hfresh⟩ := htagged rfl
  obtain ⟨-, -, hresolving, -, hamong⟩ :=
    check_cancelled pinnedWeb slowRegistry (.cancelledAt 9) collectedWorld htime
  obtain ⟨-, -, -, hfetching, -⟩ :=
    check_cancelled pinnedWeb slowRegistry (.cancelledAt 20) collectedWorld htime
  simp only [hknown] at hresolving hfetching
  obtain ⟨hearly, hasked, -⟩ := hresolving hruns
    ⟨by decide, 9, rfl, by decide, by decide⟩
  have hlate : ¬ (Token.cancelledAt 20).Interrupts collectedWorld.cache.now 15 := by
    rintro ⟨-, instant, heq, -, hle⟩
    cases heq
    exact absurd hle (by decide)
  obtain ⟨hlater, hasked', hwithin⟩ := hfetching hruns hlate (by decide +kernel)
    ⟨by decide, 20, rfl, by decide, by decide⟩
  obtain ⟨hdisturbed, -, hstored, -⟩ :=
    hamong 5 [collectedWorld] meanwhileWorld "nginx" (by decide +kernel) (by decide)
  have hcancelled : (pinnedWeb.check slowRegistry .cancelled collectedWorld).1 =
      cancelledAt "nginx" := hended.trans (by decide +kernel)
  have hverdict : (taggedWeb.check slowRegistry .cancelled collectedWorld).1 =
      .ok (some ⟨"1.0.0", "1.1.0", false, "nginx"⟩) := hfresh.trans (by decide +kernel)
  have hresolved : cancelledAt pinnedWeb.image.url = cancelledAt "nginx" := by decide +kernel
  have hmirrored : cancelledAt pinnedWeb.lookupUrl = cancelledAt "mirror.local/nginx" := by
    decide +kernel
  have htwice : (slowRegistry.tags pinnedWeb.location 1).2 = 2 := rfl
  exact ⟨htime, hrecord, hcancelled, hverdict, hearly.trans hresolved, hasked,
    hlater.trans hmirrored, hasked'.trans htwice, hwithin, hdisturbed,
    hstored⟩

end Subject

end ImageFreshness
