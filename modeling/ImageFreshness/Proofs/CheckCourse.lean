import ImageFreshness.Proofs.CheckSteps

/-!
# The course of one check among others

Registries are taken to answer the same question always in the same way, after any time
(`Service.Gives`).  `Subject.settle` is the end of a check by these answers: no cache, no time and
no other check occurs in it.

A check that shares its cache with others comes to this end because of two facts, which every step
of every check keeps:

* `AgreesWith`: what the cache holds under the key of a subject is what the registry answers for
  that subject, whoever has stored it;
* `OnCourse`: a check that waits has asked for the right thing.

`CheckTask.Step.onCourse` is the step lemma.
-/

namespace ImageFreshness

/-- What registries answer, whenever they are asked. -/
structure Answers where
  tags : ImageLocation → Except RegistryError (List ImageTag)
  resolve : String → String → Except RegistryError String

/-- The service gives these answers, whatever state it is in.  How long it takes, and what it does
    to its state, is left open. -/
structure Service.Gives {σ : Type} (service : Service σ) (answers : Answers) : Prop where
  tags : ∀ location state, (service.tags location state).1.answer = answers.tags location
  resolve : ∀ url digest state,
    (service.resolve url digest state).1.answer = answers.resolve url digest

section Gives

variable {σ : Type} {service : Service σ} {answers : Answers}

theorem Service.Gives.tags_eq (hgives : service.Gives answers) {location : ImageLocation}
    {reply : Reply (List ImageTag)} {state state' : σ}
    (hasked : service.tags location state = (reply, state')) :
    reply.answer = answers.tags location := by
  rw [← hgives.tags location state, hasked]

theorem Service.Gives.resolve_eq (hgives : service.Gives answers) {url digest : String}
    {reply : Reply String} {state state' : σ}
    (hasked : service.resolve url digest state = (reply, state')) :
    reply.answer = answers.resolve url digest := by
  rw [← hgives.resolve url digest state, hasked]

end Gives

variable [PatternEngine]

namespace Subject

/-- The tag that the container counts as running, by the answers of the registries. -/
def runningTag (s : Subject) (answers : Answers) : RunningTag :=
  if s.wantsResolution then
    .afterResolution s.image (answers.resolve s.image.url s.image.digest)
  else .declared s.image

/-- The end of a check by the answers of the registries. -/
def settle (s : Subject) (answers : Answers) : CheckEnding :=
  if s.runningDigest = "" then .ok none
  else
    match answers.tags s.location with
    | .ok tags => s.conclude (s.runningTag answers) tags
    | .error error => .error (.fetch s.lookupUrl (.fetch error))

theorem settle_of_tags {s : Subject} {answers : Answers} {tags : List ImageTag}
    (hruns : s.runningDigest ≠ "") (h : answers.tags s.location = .ok tags) :
    s.settle answers = s.conclude (s.runningTag answers) tags := by
  simp [settle, hruns, h]

theorem settle_of_error {s : Subject} {answers : Answers} {error : RegistryError}
    (hruns : s.runningDigest ≠ "") (h : answers.tags s.location = .error error) :
    s.settle answers = .error (.fetch s.lookupUrl (.fetch error)) := by
  simp [settle, hruns, h]

end Subject

/-- The end of the check of a subject, or of the place of one that is not to be checked. -/
def Answers.endingOf (answers : Answers) : Option Subject → CheckEnding
  | some s => s.settle answers
  | none => .ok none

/-! ### Caches that agree with the registries -/

/-- What the cache holds under the key of one of some subjects is what the registry answers for
    it. -/
def Answers.AgreesWith (answers : Answers) (subjects : Subject → Prop)
    (c : Cache (List ImageTag)) : Prop :=
  ∀ s, subjects s → ∀ entry, c.find? s.cacheKey = some entry →
    answers.tags s.location = .ok entry.value

/-- Subjects with one key look up one image. -/
def KeysApart (subjects : Subject → Prop) : Prop :=
  ∀ s s', subjects s → subjects s' → s.cacheKey = s'.cacheKey → s.lookupUrl = s'.lookupUrl

section Agrees

variable {answers : Answers} {subjects : Subject → Prop} {c c' : Cache (List ImageTag)}

theorem Answers.AgreesWith.of_entries_nil (h : c.entries = []) :
    answers.AgreesWith subjects c := by
  intro s _ entry hentry
  simp [Cache.find?, h] at hentry

theorem Answers.AgreesWith.within (h : answers.AgreesWith subjects c') (hwithin : c.Within c') :
    answers.AgreesWith subjects c :=
  fun s hs entry hentry => h s hs entry (hwithin.entry s.cacheKey entry hentry)

/-- The value of a fetch may be stored: subjects that find it later look up the image it was
    fetched for. -/
theorem Answers.AgreesWith.write (h : answers.AgreesWith subjects c) (hkeys : KeysApart subjects)
    {s : Subject} (hs : subjects s) {tags : List ImageTag}
    (htags : answers.tags s.location = .ok tags) (now : Nat) :
    answers.AgreesWith subjects (c.write now s.cacheKey tags) := by
  intro s' hs' entry hentry
  rw [Cache.find?_write] at hentry
  by_cases hkey : s'.cacheKey = s.cacheKey
  · rw [if_pos hkey, Option.some.injEq] at hentry
    have hurl : s'.lookupUrl = s.lookupUrl := hkeys s' s hs' hs hkey
    rw [← hentry, Subject.location, hurl]
    exact htags
  · rw [if_neg hkey] at hentry
    exact h s' hs' entry hentry

end Agrees

namespace CheckTask

/-- A task is on its way to the end that the answers of the registries call for. -/
def OnCourse (answers : Answers) (subject : Option Subject) : CheckTask → Prop
  | .starting _ s => s = subject
  | .resolving s _ answer =>
    subject = some s ∧ s.runningDigest ≠ "" ∧ s.wantsResolution = true ∧
      answer = answers.resolve s.image.url s.image.digest
  | .fetching s running _ _ answer =>
    subject = some s ∧ s.runningDigest ≠ "" ∧ running = s.runningTag answers ∧
      answer = answers.tags s.location
  | .ended ending => ending = answers.endingOf subject

end CheckTask

/-! ### The steps of a check -/

section Steps

variable {σ : Type} {service : Service σ} {answers : Answers} {subjects : Subject → Prop}
  {s : Subject} {w w' : World σ} {task next : CheckTask}

/-- A fetch that ends brings the check to its end. -/
theorem Subject.Fetched.settles (hkeys : KeysApart subjects) (hs : subjects s)
    (hruns : s.runningDigest ≠ "") {flight : Nat} {c c' : TagCache} {ending : CheckEnding}
    (h : s.Fetched (s.runningTag answers) flight false (answers.tags s.location) c ending c')
    (hagrees : answers.AgreesWith subjects c.cache) (hawaits : c.Awaits flight s.cacheKey) :
    ending = s.settle answers ∧ answers.AgreesWith subjects c'.cache := by
  cases h with
  | unknown hnone =>
    rw [hawaits.lookup] at hnone
    cases hnone
  | stopped notices hstop => cases hstop
  | refused hgo hanswer => exact ⟨(Subject.settle_of_error hruns hanswer).symm, hagrees⟩
  | given hkey hgo hanswer =>
    obtain rfl := Option.some.inj (hawaits.lookup.symm.trans hkey)
    exact ⟨(Subject.settle_of_tags hruns hanswer).symm, hagrees.write hkeys hs hanswer c.now⟩

/-- A check that looks its tags up ends, or comes to wait for them. -/
theorem Subject.LookedUp.onCourse (hgives : service.Gives answers) (hkeys : KeysApart subjects)
    (hs : subjects s) (hruns : s.runningDigest ≠ "")
    (h : s.LookedUp service (s.runningTag answers) false w next w')
    (hagrees : answers.AgreesWith subjects w.cache.cache) :
    next.OnCourse answers (some s) ∧ answers.AgreesWith subjects w'.cache.cache := by
  cases h with
  | hit notices hfresh =>
    obtain ⟨entry, hentry, -, rfl⟩ := (Cache.fresh?_eq_some _).mp hfresh
    have htags : answers.tags s.location = .ok entry.value := hagrees s hs entry hentry
    exact ⟨(Subject.settle_of_tags hruns htags).symm, hagrees⟩
  | stopped notices hstop => cases hstop
  | waits notices hfresh hgo hasked =>
    exact ⟨⟨rfl, hruns, rfl, hgives.tags_eq hasked⟩, hagrees⟩
  | fetched notices hfresh hgo hasked hfetched =>
    rw [hgives.tags_eq hasked] at hfetched
    exact hfetched.settles hkeys hs hruns hagrees ((w.cache.depart_awaits s.cacheKey).note notices)

/-- One step of a task on its way brings it further on its way. -/
theorem CheckTask.Step.onCourse (hgives : service.Gives answers) (hkeys : KeysApart subjects)
    (hstep : Step service .live w task next w') {subject : Option Subject}
    (hsubject : ∀ s, subject = some s → subjects s)
    (hagrees : answers.AgreesWith subjects w.cache.cache) (hflight : task.InFlight w.cache)
    (hcourse : task.OnCourse answers subject) :
    next.OnCourse answers subject ∧ answers.AgreesWith subjects w'.cache.cache := by
  have hresolution (s : Subject) (hwants : s.wantsResolution = true) :
      s.runningTag answers =
        .afterResolution s.image (answers.resolve s.image.url s.image.digest) := by
    rw [Subject.runningTag, if_pos hwants]
  cases hstep with
  | absent =>
    obtain rfl : none = subject := hcourse
    exact ⟨rfl, hagrees⟩
  | @idle _ s notices hruns =>
    obtain rfl : some s = subject := hcourse
    have hsettle : s.settle answers = .ok none := by simp [Subject.settle, hruns]
    exact ⟨hsettle.symm, hagrees⟩
  | stopped notices hruns hwants hstop => cases hstop
  | @asked _ s _ _ notices hruns hwants hgo hasked =>
    obtain rfl : some s = subject := hcourse
    exact ⟨⟨rfl, hruns, hwants, hgives.resolve_eq hasked⟩, hagrees⟩
  | @resolvedAtOnce _ s _ _ _ _ hruns hwants hgo hasked hlooked =>
    obtain rfl : some s = subject := hcourse
    rw [hgives.resolve_eq hasked, ← hresolution s hwants] at hlooked
    exact hlooked.onCourse hgives hkeys (hsubject s rfl) hruns hagrees
  | @declared _ s _ _ hruns hwants hlooked =>
    obtain rfl : some s = subject := hcourse
    have hrunning : s.runningTag answers = .declared s.image := by
      rw [Subject.runningTag, hwants, if_neg Bool.false_ne_true]
    rw [← hrunning] at hlooked
    exact hlooked.onCourse hgives hkeys (hsubject s rfl) hruns hagrees
  | resolvingStopped notices hstop => cases hstop
  | @resolved s _ _ _ _ hgo hlooked =>
    obtain ⟨rfl, hruns, hwants, rfl⟩ := hcourse
    rw [← hresolution s hwants] at hlooked
    exact hlooked.onCourse hgives hkeys (hsubject s rfl) hruns hagrees
  | @fetched s _ _ _ _ _ _ hfetched =>
    obtain ⟨rfl, hruns, rfl, rfl⟩ := hcourse
    exact hfetched.settles hkeys (hsubject s rfl) hruns hagrees hflight
  | ended => exact ⟨hcourse, hagrees⟩

end Steps

end ImageFreshness
