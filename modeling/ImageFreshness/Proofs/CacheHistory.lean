import ImageFreshness.Cache.Get
import ImageFreshness.Proofs.CacheSteps
import ImageFreshness.Proofs.ScheduleRuns

/-!
# The history of a cache

Where the values in a cache in use come from.  A history lists what has happened to the cache,
oldest step first.  `LastWrite` reads off a history which value was written last under a key, and
when, provided that nothing has removed it since; it looks at events and answers only, and not at
any cache.

`Reached` are the sessions that can come about, with their histories: events happen in any order,
any number of lookups may wait for their fetches at the same time, and sweeps may be cut into
batches between which other events happen.  The main statement is that a cache never holds
anything but last writes, and that a lookup is answered with one that has not expired or with the
value of its own fetch.  Caches that are used by `GetTask`s side by side are among these
(`GetTask.reached_runAll`).
-/

namespace ImageFreshness

/-- An event that has happened to a cache in use, with its instant and the answer to it. -/
structure CacheStep (V : Type) where
  instant : Nat
  event : CacheEvent V
  reply : CacheReply V

namespace CacheStep

variable {V : Type}

/-- The step is a lookup of a key that has started the fetch with this number. -/
def Opens (step : CacheStep V) (flight : Nat) (key : String) : Prop :=
  (∃ cancelled, step.event = .lookup key cancelled) ∧ step.reply = .lookup (.fetching flight)

/-- The step stores a value under a key: as an update, or as the end of a fetch that an earlier
    lookup of this key has started. -/
def Writes (earlier : List (CacheStep V)) (step : CacheStep V) (key : String) (value : V) : Prop :=
  step.event = .update key value ∨
    ∃ flight cancelled answer, step.event = .finish flight cancelled answer ∧
      step.reply = .finish (.ok value) ∧ ∃ opening ∈ earlier, opening.Opens flight key

/-- The step removes what is under a key, be it fresh or not. -/
def Drops (step : CacheStep V) (key : String) : Prop :=
  step.event = .delete key ∨ step.event = .shutdown

end CacheStep

/-- The last value written under a key in a history, and the instant of that.  It has not been
    dropped since. -/
inductive LastWrite {V : Type} : List (CacheStep V) → String → V → Nat → Prop where
  | write {earlier : List (CacheStep V)} {step : CacheStep V} {key : String} {value : V} :
    step.Writes earlier key value → LastWrite (earlier ++ [step]) key value step.instant
  | keep {earlier : List (CacheStep V)} {step : CacheStep V} {key : String} {value : V}
      {instant : Nat} :
    LastWrite earlier key value instant → ¬ step.Drops key →
      (∀ other, ¬ step.Writes earlier key other) → LastWrite (earlier ++ [step]) key value instant

/-- The sessions that come about from one with an empty cache, each with what has happened. -/
inductive Reached {V : Type} (ttl : Nat) : List (CacheStep V) → CacheSession V → Prop where
  | start : Reached ttl [] (.start ttl)
  | step {history : List (CacheStep V)} {s : CacheSession V} (event : CacheEvent V) :
    Reached ttl history s →
      Reached ttl (history ++ [⟨s.now, event, (s.apply event).1⟩]) (s.apply event).2
  /-- A batch of a sweep that has started some time ago. -/
  | batch {history : List (CacheStep V)} {s : CacheSession V} (started : Nat)
      (keys : List String) :
    Reached ttl history s → started ≤ s.now →
      Reached ttl history { s with cache := (Cache.sweepBatch started (s.cache, 0) keys).1 }
  /-- Time that goes on by itself, with what the collector does meanwhile. -/
  | wait {history : List (CacheStep V)} {s : CacheSession V} (instant : Nat) :
    Reached ttl history s → Reached ttl history (s.advanceTo instant)
  | note {history : List (CacheStep V)} {s : CacheSession V} (notices : List Notice) :
    Reached ttl history s → Reached ttl history (s.note notices)

namespace CacheSession

variable {V : Type}

def steps (s : CacheSession V) : List (CacheEvent V) → List (CacheStep V)
  | [] => []
  | event :: rest => ⟨s.now, event, (s.apply event).1⟩ :: (s.apply event).2.steps rest

/-- Every run of events is covered. -/
theorem reached_run {ttl : Nat} {history : List (CacheStep V)} {s : CacheSession V}
    (h : Reached ttl history s) (events : List (CacheEvent V)) :
    Reached ttl (history ++ s.steps events) (s.run events).2 := by
  induction events generalizing history s with
  | nil => simpa [steps, run] using h
  | cons event rest ih =>
    have hrest := ih (h.step event)
    simpa [steps, run] using hrest

end CacheSession

/-! ### Steps and what they do -/

variable {V : Type}

namespace CacheStep

theorem Opens.key_eq {step : CacheStep V} {flight flight' : Nat} {key key' : String}
    (h : step.Opens flight key) (h' : step.Opens flight' key') : key = key' := by
  obtain ⟨⟨cancelled, hevent⟩, -⟩ := h
  obtain ⟨⟨cancelled', hevent'⟩, -⟩ := h'
  rw [hevent] at hevent'
  cases hevent'
  rfl

theorem opens_fetching {instant : Nat} {key : String} {cancelled : Bool} {flight : Nat}
    {flight' : Nat} {key' : String} :
    (⟨instant, .lookup key cancelled, .lookup (.fetching flight)⟩ : CacheStep V).Opens flight'
      key' ↔ flight' = flight ∧ key' = key := by
  constructor
  · rintro ⟨⟨cancelled', hevent⟩, hreply⟩
    cases hevent
    cases hreply
    exact ⟨rfl, rfl⟩
  · rintro ⟨rfl, rfl⟩
    exact ⟨⟨cancelled, rfl⟩, rfl⟩

theorem writes_update {earlier : List (CacheStep V)} {instant : Nat} {key key' : String}
    {value value' : V} {reply : CacheReply V} :
    CacheStep.Writes earlier ⟨instant, .update key value, reply⟩ key' value' ↔
      key' = key ∧ value' = value := by
  constructor
  · rintro (hevent | ⟨_, _, _, hevent, -⟩)
    · cases hevent
      exact ⟨rfl, rfl⟩
    · cases hevent
  · rintro ⟨rfl, rfl⟩
    exact Or.inl rfl

theorem writes_finish {earlier : List (CacheStep V)} {instant flight : Nat} {cancelled : Bool}
    {answer : Except RegistryError V} {value value' : V} {key : String} :
    CacheStep.Writes earlier
        ⟨instant, .finish flight cancelled answer, .finish (.ok value)⟩ key value' ↔
      value' = value ∧ ∃ opening ∈ earlier, opening.Opens flight key := by
  constructor
  · rintro (hevent | ⟨_, _, _, hevent, hreply, hopened⟩)
    · cases hevent
    · cases hevent
      cases hreply
      exact ⟨rfl, hopened⟩
  · rintro ⟨rfl, hopened⟩
    exact Or.inr ⟨flight, cancelled, answer, rfl, rfl, hopened⟩

theorem Writes.value_eq {earlier : List (CacheStep V)} {step : CacheStep V} {key : String}
    {value value' : V} (h : step.Writes earlier key value) (h' : step.Writes earlier key value') :
    value = value' := by
  obtain ⟨instant, event, reply⟩ := step
  rcases h with hevent | ⟨flight, cancelled, answer, hevent, hreply, -⟩
  · cases hevent
    exact (writes_update.mp h').2.symm
  · cases hevent
    cases hreply
    exact (writes_finish.mp h').1.symm

end CacheStep

/-- The last step of a history is the last write, or leaves it alone. -/
theorem lastWrite_snoc {earlier : List (CacheStep V)} {step : CacheStep V} {key : String}
    {value : V} {instant : Nat} :
    LastWrite (earlier ++ [step]) key value instant ↔
      (step.Writes earlier key value ∧ instant = step.instant) ∨
      (LastWrite earlier key value instant ∧ ¬ step.Drops key ∧
        ∀ other, ¬ step.Writes earlier key other) := by
  constructor
  · intro h
    generalize hhistory : earlier ++ [step] = history at h
    cases h with
    | write hwrites =>
      obtain ⟨rfl, hstep⟩ := List.append_inj' hhistory rfl
      cases hstep
      exact Or.inl ⟨hwrites, rfl⟩
    | keep hlast hdrops hwrites =>
      obtain ⟨rfl, hstep⟩ := List.append_inj' hhistory rfl
      cases hstep
      exact Or.inr ⟨hlast, hdrops, hwrites⟩
  · rintro (⟨hwrites, rfl⟩ | ⟨hlast, hdrops, hwrites⟩)
    · exact .write hwrites
    · exact .keep hlast hdrops hwrites

/-- There is at most one last write. -/
theorem LastWrite.unique {history : List (CacheStep V)} {key : String} {value value' : V}
    {instant instant' : Nat} (h : LastWrite history key value instant)
    (h' : LastWrite history key value' instant') : value = value' ∧ instant = instant' := by
  induction h with
  | write hwrites =>
    rcases lastWrite_snoc.mp h' with ⟨hwrites', rfl⟩ | ⟨-, -, hnone⟩
    · exact ⟨hwrites.value_eq hwrites', rfl⟩
    · exact absurd hwrites (hnone _)
  | keep hlast hdrops hnone ih =>
    rcases lastWrite_snoc.mp h' with ⟨hwrites', -⟩ | ⟨hlast', -, -⟩
    · exact absurd hwrites' (hnone _)
    · exact ih hlast'

/-! ### Numbers of fetches -/

/-- What a history says about the fetches of a session. -/
structure Numbered (history : List (CacheStep V)) (s : CacheSession V) : Prop where
  /-- A fetch that is under way has been started by a lookup. -/
  opened : ∀ flight key, s.flights.lookup flight = some key →
    ∃ opening ∈ history, opening.Opens flight key
  /-- No number is given to two fetches. -/
  once : history.Pairwise fun a b => ∀ flight key key', a.Opens flight key → ¬ b.Opens flight key'
  /-- Numbers are given in order. -/
  used : ∀ step ∈ history, ∀ flight key, step.Opens flight key → flight < s.nextFlight

namespace Numbered

variable {history : List (CacheStep V)} {s s' : CacheSession V}

/-- The lookup that has started a fetch is the only one. -/
theorem opening_unique (h : Numbered history s) {earlier later : List (CacheStep V)}
    {opening : CacheStep V} {flight : Nat} {key : String}
    (hhistory : history = earlier ++ opening :: later) (hopens : opening.Opens flight key) :
    ∀ other ∈ earlier ++ later, ∀ key', ¬ other.Opens flight key' := by
  have honce := h.once
  rw [hhistory] at honce
  obtain ⟨-, hlater, hcross⟩ := List.pairwise_append.mp honce
  intro other hother key' hopens'
  rcases List.mem_append.mp hother with hmem | hmem
  · exact hcross other hmem opening List.mem_cons_self flight key' key hopens' hopens
  · exact (List.pairwise_cons.mp hlater).1 other hmem flight key key' hopens hopens'

/-- A fetch is for one key. -/
theorem key_eq (h : Numbered history s) {flight : Nat} {key key' : String}
    (hkey : ∃ opening ∈ history, opening.Opens flight key)
    (hkey' : ∃ opening ∈ history, opening.Opens flight key') : key = key' := by
  obtain ⟨opening, hmem, hopens⟩ := hkey
  obtain ⟨opening', hmem', hopens'⟩ := hkey'
  obtain ⟨earlier, later, hhistory⟩ := List.append_of_mem hmem
  have hunique := h.opening_unique hhistory hopens
  rw [hhistory] at hmem'
  rcases List.mem_append.mp hmem' with hearlier | hlater
  · exact absurd hopens' (hunique opening' (List.mem_append_left _ hearlier) key')
  · rcases List.mem_cons.mp hlater with rfl | hlater
    · exact hopens.key_eq hopens'
    · exact absurd hopens' (hunique opening' (List.mem_append_right _ hlater) key')

theorem fades (h : Numbered history s) (hfades : s.Fades s') : Numbered history s' where
  opened := fun flight key hflight => h.opened flight key (hfades.flights flight key hflight)
  once := h.once
  used := fun step hstep flight key hopens =>
    hfades.nextFlight ▸ h.used step hstep flight key hopens

theorem update (h : Numbered history s) (key : String) (value : V) :
    Numbered history (s.update key value) :=
  ⟨h.opened, h.once, h.used⟩

/-- A step that starts no fetch. -/
theorem quiet (h : Numbered history s) {step : CacheStep V}
    (hopens : ∀ flight key, ¬ step.Opens flight key) : Numbered (history ++ [step]) s := by
  refine ⟨?_, ?_, ?_⟩
  · intro flight key hflight
    obtain ⟨opening, hmem, hopening⟩ := h.opened flight key hflight
    exact ⟨opening, List.mem_append_left _ hmem, hopening⟩
  · refine List.pairwise_append.mpr ⟨h.once, List.pairwise_singleton _ _, ?_⟩
    intro a _ b hb flight key key' _ hb'
    rw [List.mem_singleton.mp hb] at hb'
    exact hopens flight key' hb'
  · intro other hother flight key hother'
    rcases List.mem_append.mp hother with hmem | hmem
    · exact h.used other hmem flight key hother'
    · rw [List.mem_singleton.mp hmem] at hother'
      exact absurd hother' (hopens flight key)

/-- A lookup that starts a fetch gives it a number of its own. -/
theorem opening (h : Numbered history s) (key : String) (cancelled : Bool) (instant : Nat) :
    Numbered (history ++ [⟨instant, .lookup key cancelled, .lookup (.fetching s.nextFlight)⟩])
      (s.depart key) := by
  refine ⟨?_, ?_, ?_⟩
  · intro flight key' hflight
    by_cases hnew : flight = s.nextFlight
    · subst hnew
      have hkey : key = key' := by
        simpa using (s.depart_awaits key).lookup.symm.trans hflight
      exact ⟨_, List.mem_append_right _ List.mem_cons_self,
        CacheStep.opens_fetching.mpr ⟨rfl, hkey.symm⟩⟩
    · have hold : s.flights.lookup flight = some key' := by
        simpa [CacheSession.depart, List.lookup_cons, beq_false_of_ne hnew] using hflight
      obtain ⟨opening, hmem, hopening⟩ := h.opened flight key' hold
      exact ⟨opening, List.mem_append_left _ hmem, hopening⟩
  · refine List.pairwise_append.mpr ⟨h.once, List.pairwise_singleton _ _, ?_⟩
    -- numbers given so far lie below the new one
    intro a ha b hb flight key' key'' ha' hb'
    rw [List.mem_singleton.mp hb] at hb'
    have hlt := h.used a ha flight key' ha'
    exact absurd (CacheStep.opens_fetching.mp hb').1 (Nat.ne_of_lt hlt)
  · intro other hother flight key' hother'
    rcases List.mem_append.mp hother with hmem | hmem
    · exact Nat.lt_succ_of_lt (h.used other hmem flight key' hother')
    · rw [List.mem_singleton.mp hmem] at hother'
      rw [(CacheStep.opens_fetching.mp hother').1]
      exact Nat.lt_succ_self _

end Numbered

/-! ### Values and where they come from -/

/-- What a history says about the values in a session. -/
structure Recorded (ttl : Nat) (history : List (CacheStep V)) (s : CacheSession V) : Prop where
  ttl : s.cache.ttl = ttl
  entry : ∀ key entry, s.cache.find? key = some entry →
    LastWrite history key entry.value entry.written
  past : ∀ key entry, s.cache.find? key = some entry → entry.written ≤ s.now

namespace Recorded

variable {ttl : Nat} {history : List (CacheStep V)} {s s' : CacheSession V}

theorem fades (h : Recorded ttl history s) (hfades : s.Fades s') : Recorded ttl history s' where
  ttl := hfades.cache.ttl.trans h.ttl
  entry := fun key entry hentry => h.entry key entry (hfades.cache.entry key entry hentry)
  past := fun key entry hentry =>
    Nat.le_trans (h.past key entry (hfades.cache.entry key entry hentry)) hfades.now

theorem depart (h : Recorded ttl history s) (key : String) :
    Recorded ttl history (s.depart key) :=
  ⟨h.ttl, h.entry, h.past⟩

/-- A step that stores nothing, and has left no entry under a key that it drops. -/
theorem quiet (h : Recorded ttl history s) {step : CacheStep V}
    (hwrites : ∀ key value, ¬ step.Writes history key value)
    (hdrops : ∀ key, step.Drops key → s.cache.find? key = none) :
    Recorded ttl (history ++ [step]) s := by
  refine ⟨h.ttl, ?_, h.past⟩
  intro key entry hentry
  refine .keep (h.entry key entry hentry) ?_ (hwrites key)
  intro hdrop
  rw [hdrops key hdrop] at hentry
  cases hentry

/-- A step that stores a value under one key. -/
theorem write (h : Recorded ttl history s) {step : CacheStep V} {key : String} {value : V}
    (hinstant : step.instant = s.now) (hwrites : step.Writes history key value)
    (honly : ∀ key' value', step.Writes history key' value' → key' = key)
    (hdrops : ∀ key', ¬ step.Drops key') :
    Recorded ttl (history ++ [step]) (s.update key value) := by
  have hfind (key' : String) : (s.update key value).cache.find? key' =
      if key' = key then some ⟨value, s.now⟩ else s.cache.find? key' :=
    s.cache.find?_write s.now key key' value
  refine ⟨h.ttl, ?_, ?_⟩
  · intro key' entry hentry
    rw [hfind] at hentry
    by_cases hkey : key' = key
    · rw [if_pos hkey] at hentry
      cases hentry
      rw [hkey]
      exact hinstant ▸ LastWrite.write hwrites
    · rw [if_neg hkey] at hentry
      refine .keep (h.entry key' entry hentry) (hdrops key') ?_
      intro other hother
      exact hkey (honly key' other hother)
  · intro key' entry hentry
    rw [hfind] at hentry
    by_cases hkey : key' = key
    · rw [if_pos hkey] at hentry
      cases hentry
      exact Nat.le_refl s.now
    · rw [if_neg hkey] at hentry
      exact h.past key' entry hentry

end Recorded

/-! ### One step -/

/-- The invariant of a cache in use. -/
structure Traced (ttl : Nat) (history : List (CacheStep V)) (s : CacheSession V) : Prop where
  numbered : Numbered history s
  recorded : Recorded ttl history s

namespace Traced

variable {ttl : Nat} {history : List (CacheStep V)} {s s' : CacheSession V}

theorem start (ttl : Nat) : Traced ttl [] (CacheSession.start ttl : CacheSession V) := by
  refine ⟨⟨?_, List.Pairwise.nil, ?_⟩, ⟨rfl, ?_, ?_⟩⟩
  · intro flight key hflight
    cases hflight
  · intro step hstep
    cases hstep
  · intro key entry hentry
    cases hentry
  · intro key entry hentry
    cases hentry

theorem fades (h : Traced ttl history s) (hfades : s.Fades s') : Traced ttl history s' :=
  ⟨h.numbered.fades hfades, h.recorded.fades hfades⟩

/-- A step that neither starts a fetch nor stores anything. -/
theorem quiet (h : Traced ttl history s) {step : CacheStep V} (hfades : s.Fades s')
    (hopens : ∀ flight key, ¬ step.Opens flight key)
    (hwrites : ∀ key value, ¬ step.Writes history key value)
    (hdrops : ∀ key, step.Drops key → s'.cache.find? key = none) :
    Traced ttl (history ++ [step]) s' :=
  ⟨(h.numbered.fades hfades).quiet hopens, (h.recorded.fades hfades).quiet hwrites hdrops⟩

theorem lookup (h : Traced ttl history s) (key : String) (cancelled : Bool) :
    Traced ttl
      (history ++ [⟨s.now, .lookup key cancelled, .lookup (s.lookup key cancelled).1⟩])
      (s.lookup key cancelled).2 := by
  rcases s.lookup_cases key cancelled with
    ⟨value, -, hlookup⟩ | ⟨-, -, hlookup⟩ | ⟨-, -, hlookup⟩
  · rw [hlookup]
    refine h.quiet (s.note_fades _) ?_ ?_ ?_ <;>
      simp [CacheStep.Opens, CacheStep.Writes, CacheStep.Drops]
  · rw [hlookup]
    refine h.quiet (s.note_fades _) ?_ ?_ ?_ <;>
      simp [CacheStep.Opens, CacheStep.Writes, CacheStep.Drops]
  · rw [hlookup]
    refine ⟨(h.numbered.opening key cancelled s.now).fades ((s.depart key).note_fades _), ?_⟩
    refine ((h.recorded.depart key).fades ((s.depart key).note_fades _)).quiet ?_ ?_ <;>
      simp [CacheStep.Writes, CacheStep.Drops]

theorem update (h : Traced ttl history s) (key : String) (value : V) :
    Traced ttl (history ++ [⟨s.now, .update key value, .done⟩]) (s.update key value) := by
  refine ⟨(h.numbered.update key value).quiet (by simp [CacheStep.Opens]), ?_⟩
  refine h.recorded.write rfl (CacheStep.writes_update.mpr ⟨rfl, rfl⟩) ?_
    (by simp [CacheStep.Drops])
  intro key' value' hwrites
  exact (CacheStep.writes_update.mp hwrites).1

theorem finish (h : Traced ttl history s) (flight : Nat) (cancelled : Bool)
    (answer : Except RegistryError V) :
    Traced ttl
      (history ++
        [⟨s.now, .finish flight cancelled answer, .finish (s.finish flight cancelled answer).1⟩])
      (s.finish flight cancelled answer).2 := by
  have hlanded := h.fades (s.land_fades flight)
  rcases s.finish_cases flight cancelled answer with
    ⟨-, hfinish⟩ | ⟨_, -, -, hfinish⟩ | ⟨_, _, -, -, -, hfinish⟩ |
    ⟨key, value, hkey, -, -, hfinish⟩
  · rw [hfinish]
    refine h.quiet (CacheSession.Fades.refl s) ?_ ?_ ?_ <;>
      simp [CacheStep.Opens, CacheStep.Writes, CacheStep.Drops]
  · rw [hfinish]
    refine h.quiet ((s.land_fades flight).note _) ?_ ?_ ?_ <;>
      simp [CacheStep.Opens, CacheStep.Writes, CacheStep.Drops]
  · rw [hfinish]
    refine h.quiet (s.land_fades flight) ?_ ?_ ?_ <;>
      simp [CacheStep.Opens, CacheStep.Writes, CacheStep.Drops]
  · rw [hfinish]
    have hopened := h.numbered.opened flight key hkey
    refine ⟨(hlanded.numbered.update key value).quiet (by simp [CacheStep.Opens]), ?_⟩
    refine hlanded.recorded.write rfl (CacheStep.writes_finish.mpr ⟨rfl, hopened⟩) ?_
      (by simp [CacheStep.Drops])
    intro key' value' hwrites
    exact h.numbered.key_eq (CacheStep.writes_finish.mp hwrites).2 hopened

theorem apply (h : Traced ttl history s) (event : CacheEvent V) :
    Traced ttl (history ++ [⟨s.now, event, (s.apply event).1⟩]) (s.apply event).2 := by
  cases event with
  | lookup key cancelled => exact h.lookup key cancelled
  | finish flight cancelled answer => exact h.finish flight cancelled answer
  | update key value => exact h.update key value
  | advance ms =>
    refine h.quiet (s.advanceTo_fades (s.now + ms)) ?_ ?_ ?_ <;>
      simp [CacheSession.apply, CacheStep.Opens, CacheStep.Writes, CacheStep.Drops]
  | delete key =>
    refine h.quiet (s.forget_fades (s.cache.erase_within key)) ?_ ?_ ?_
    · simp [CacheStep.Opens]
    · simp [CacheStep.Writes]
    · intro key' hdrop
      have hkey : key' = key := by simpa [CacheStep.Drops, eq_comm] using hdrop
      exact (s.cache.find?_erase key key').trans (if_pos hkey)
  | shutdown =>
    refine h.quiet ((s.forget_fades s.cache.clear_within).note _) ?_ ?_ ?_
    · simp [CacheStep.Opens]
    · simp [CacheStep.Writes]
    · intro key _
      exact s.cache.find?_clear key
  | sweep =>
    refine h.quiet (s.forget_fades (s.cache.sweep_within s.now)) ?_ ?_ ?_ <;>
      simp [CacheStep.Opens, CacheStep.Writes, CacheStep.Drops]
  | startCollector interval =>
    refine h.quiet (s.startCollector_fades interval) ?_ ?_ ?_ <;>
      simp [CacheStep.Opens, CacheStep.Writes, CacheStep.Drops]
  | stopCollector =>
    refine h.quiet s.stopCollector_fades ?_ ?_ ?_ <;>
      simp [CacheStep.Opens, CacheStep.Writes, CacheStep.Drops]

end Traced

theorem Reached.traced {ttl : Nat} {history : List (CacheStep V)} {s : CacheSession V}
    (h : Reached ttl history s) : Traced ttl history s := by
  induction h with
  | start => exact .start ttl
  | step event _ ih => exact ih.apply event
  | batch started keys _ _ ih =>
    exact ih.fades (CacheSession.forget_fades _ (Cache.sweepBatch_within _ started keys))
  | wait instant _ ih => exact ih.fades (CacheSession.advanceTo_fades _ instant)
  | note notices _ ih => exact ih.fades (CacheSession.note_fades _ notices)

/-! ### Provenance -/

theorem Traced.of_hit {ttl : Nat} {history : List (CacheStep V)} {s : CacheSession V}
    (h : Traced ttl history s) {key : String} {cancelled : Bool} {value : V}
    (hreply : (s.apply (.lookup key cancelled)).1 = .lookup (.hit value)) :
    ∃ written, s.cache.find? key = some ⟨value, written⟩ ∧ LastWrite history key value written ∧
      (s.now < written + ttl ∨ Cache.horizon ≤ written + ttl) := by
  rcases s.lookup_cases key cancelled with
    ⟨value', hfresh, hlookup⟩ | ⟨-, -, hlookup⟩ | ⟨-, -, hlookup⟩
  · obtain ⟨⟨value'', written⟩, hentry, hisFresh, hvalue⟩ := s.cache.fresh?_eq_some.mp hfresh
    have hhit : value' = value := by
      simpa [CacheSession.apply, hlookup] using hreply
    have hsame : value'' = value := hvalue.trans hhit
    subst hsame
    refine ⟨written, hentry, h.recorded.entry key _ hentry, ?_⟩
    rw [← h.recorded.ttl]
    exact (s.cache.isFresh_iff s.now _).mp hisFresh
  · simp [CacheSession.apply, hlookup] at hreply
  · simp [CacheSession.apply, hlookup] at hreply

theorem Traced.of_fetched {ttl : Nat} {history : List (CacheStep V)} {s : CacheSession V}
    (h : Traced ttl history s) {flight : Nat} {cancelled : Bool}
    {answer : Except RegistryError V} {value : V}
    (hreply : (s.apply (.finish flight cancelled answer)).1 = .finish (.ok value)) :
    answer = .ok value ∧ cancelled = false ∧
      ∃ key earlier opening later, history = earlier ++ opening :: later ∧
        opening.Opens flight key ∧
        (∀ other ∈ earlier ++ later, ∀ key', ¬ other.Opens flight key') ∧
        (s.apply (.finish flight cancelled answer)).2.cache.find? key = some ⟨value, s.now⟩ := by
  rcases s.finish_cases flight cancelled answer with
    ⟨-, hfinish⟩ | ⟨_, -, -, hfinish⟩ | ⟨_, _, -, -, -, hfinish⟩ |
    ⟨key, value', hkey, hcancelled, hanswer, hfinish⟩
  · simp [CacheSession.apply, hfinish] at hreply
  · simp [CacheSession.apply, hfinish] at hreply
  · simp [CacheSession.apply, hfinish] at hreply
  · have hvalue : value' = value := by
      simpa [CacheSession.apply, hfinish] using hreply
    subst hvalue
    obtain ⟨opening, hmem, hopens⟩ := h.numbered.opened flight key hkey
    obtain ⟨earlier, later, hhistory⟩ := List.append_of_mem hmem
    refine ⟨hanswer, hcancelled, key, earlier, opening, later, hhistory, hopens,
      h.numbered.opening_unique hhistory hopens, ?_⟩
    simp [CacheSession.apply, hfinish, CacheSession.update, CacheSession.land]

/-- In every session that can come about:

* an entry holds the last value written under its key, with the instant of that, which is not in
  the future;
* a lookup that is answered at once is answered with that value, and it has not expired;
* a lookup that is answered by a fetch is answered with what its own fetch has brought, which is
  then in the cache with the instant at which the fetch has ended. -/
theorem Reached.provenance {ttl : Nat} {history : List (CacheStep V)} {s : CacheSession V}
    (h : Reached ttl history s) :
    (∀ key entry, s.cache.find? key = some entry →
      LastWrite history key entry.value entry.written ∧ entry.written ≤ s.now) ∧
    (∀ key cancelled value, (s.apply (.lookup key cancelled)).1 = .lookup (.hit value) →
      ∃ written, s.cache.find? key = some ⟨value, written⟩ ∧
        LastWrite history key value written ∧
        (s.now < written + ttl ∨ Cache.horizon ≤ written + ttl)) ∧
    (∀ flight cancelled answer value,
      (s.apply (.finish flight cancelled answer)).1 = .finish (.ok value) →
      answer = .ok value ∧ cancelled = false ∧
      ∃ key earlier opening later, history = earlier ++ opening :: later ∧
        opening.Opens flight key ∧
        (∀ other ∈ earlier ++ later, ∀ key', ¬ other.Opens flight key') ∧
        (s.apply (.finish flight cancelled answer)).2.cache.find? key = some ⟨value, s.now⟩) := by
  have htraced := h.traced
  refine ⟨?_, fun _ _ _ hreply => htraced.of_hit hreply,
    fun _ _ _ _ hreply => htraced.of_fetched hreply⟩
  intro key entry hentry
  exact ⟨htraced.recorded.entry key entry hentry, htraced.recorded.past key entry hentry⟩

/-- Two lookups that both miss, of which the second is the first to get its value. -/
def overlappingLookups : List (CacheEvent String) :=
  [.lookup "nginx" false, .lookup "nginx" false, .finish 1 false (.ok "1.27"), .advance 5]

theorem provenance_overlappingLookups :
    let s := ((CacheSession.start 60).run overlappingLookups).2
    let history := (CacheSession.start 60).steps overlappingLookups
    (LastWrite history "nginx" "1.27" 0 ∧ 0 ≤ s.now) ∧
    (∃ written, s.cache.find? "nginx" = some ⟨"1.27", written⟩ ∧
      LastWrite history "nginx" "1.27" written ∧
      (s.now < written + 60 ∨ Cache.horizon ≤ written + 60)) ∧
    ∃ key earlier opening later, history = earlier ++ opening :: later ∧
      opening.Opens 0 key ∧ (∀ other ∈ earlier ++ later, ∀ key', ¬ other.Opens 0 key') ∧
      (s.apply (.finish 0 false (.ok "1.26"))).2.cache.find? key = some ⟨"1.26", s.now⟩ := by
  intro s history
  have hreached : Reached 60 history s := CacheSession.reached_run .start overlappingLookups
  obtain ⟨hentry, hhit, hfetch⟩ := hreached.provenance
  refine ⟨hentry "nginx" ⟨"1.27", 0⟩ (by decide), hhit "nginx" false "1.27" (by rfl), ?_⟩
  exact (hfetch 0 false (.ok "1.26") "1.26" (by rfl)).2.2

/-! ### Lookups side by side -/

namespace GetTask

variable {σ A : Type} (source : Source σ A V)

/-- When a lookup goes on, this is one event or, if its value is there at once, two. -/
theorem reached_resume {ttl : Nat} {history : List (CacheStep V)} {w : SourcedCache σ V}
    (h : Reached ttl history w.session) (task : GetTask A V) :
    ∃ later, Reached ttl (history ++ later) (resume source task w).2.session := by
  cases task with
  | starting start key args token =>
    have hlookup := h.step (.lookup key (token.stopsStart w.session.now))
    rcases w.session.lookup_cases key (token.stopsStart w.session.now) with
      ⟨value, -, houtcome⟩ | ⟨-, -, houtcome⟩ | ⟨-, -, houtcome⟩
    · simp only [CacheSession.apply, houtcome] at hlookup
      simp only [resume, houtcome]
      exact ⟨_, hlookup⟩
    · simp only [CacheSession.apply, houtcome] at hlookup
      simp only [resume, houtcome]
      exact ⟨_, hlookup⟩
    · simp only [CacheSession.apply, houtcome] at hlookup
      simp only [resume, houtcome]
      have hasked := hlookup.note (source.fetch args w.source).1.notices
      by_cases hdelay : (source.fetch args w.source).1.delay = 0
      · rw [if_pos hdelay]
        have hfinish := hasked.step
          (.finish w.session.nextFlight false (source.fetch args w.source).1.answer)
        rw [List.append_assoc] at hfinish
        exact ⟨_, hfinish⟩
      · rw [if_neg hdelay]
        exact ⟨_, hasked⟩
  | fetching flight ready answer token =>
    exact ⟨_, h.step (.finish flight (token.stopsWait w.session.now) answer)⟩
  | ended result =>
    refine ⟨[], ?_⟩
    rw [List.append_nil]
    exact h

/-- So everything said above holds of a cache that is used by lookups side by side. -/
theorem reached_runAll {ttl : Nat} {history : List (CacheStep V)} {w : SourcedCache σ V}
    (h : Reached ttl history w.session) (tasks : List (GetTask A V)) :
    ∃ later, Reached ttl (history ++ later) (runAll source tasks w).2.session := by
  refine (schedule source).run_induction
    (fun _ w' => ∃ later, Reached ttl (history ++ later) w'.session) ?_ ?_
    ⟨[], by simpa using h⟩
  · rintro _ w' instant ⟨later, hlater⟩ -
    exact ⟨later, hlater.wait instant⟩
  · rintro _ task _ w' ⟨later, hlater⟩ -
    obtain ⟨more, hmore⟩ := reached_resume source hlater task
    rw [List.append_assoc] at hmore
    exact ⟨later ++ more, hmore⟩

end GetTask

end ImageFreshness
