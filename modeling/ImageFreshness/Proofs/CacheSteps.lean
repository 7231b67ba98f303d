import ImageFreshness.Cache.Session
import ImageFreshness.Proofs.CacheEntries

/-!
# Steps of a cache in use

What a lookup and the end of a fetch can lead to, said once for each (`lookup_cases`,
`finish_cases`), and what they and the passing of time leave as it is.

A fetch that is under way is known by its number.  `Awaits` says that a number stands for a fetch
of a key; no step but the end of that very fetch changes this.
-/

namespace ImageFreshness

namespace CacheSession

variable {V : Type}

/-- The fetch with this number is under way, and is for this key. -/
structure Awaits (s : CacheSession V) (flight : Nat) (key : String) : Prop where
  started : flight < s.nextFlight
  lookup : s.flights.lookup flight = some key

theorem Awaits.congr {s s' : CacheSession V} {flight : Nat} {key : String}
    (h : s.Awaits flight key) (hflights : s'.flights = s.flights)
    (hnext : s'.nextFlight = s.nextFlight) : s'.Awaits flight key :=
  ⟨hnext ▸ h.started, hflights ▸ h.lookup⟩

section Note

variable (s : CacheSession V) (notices : List Notice)

@[simp] theorem note_now : (s.note notices).now = s.now := rfl

@[simp] theorem note_cache : (s.note notices).cache = s.cache := rfl

@[simp] theorem note_nextFlight : (s.note notices).nextFlight = s.nextFlight := rfl

@[simp] theorem note_collector : (s.note notices).collector = s.collector := rfl

theorem note_note (more : List Notice) :
    (s.note notices).note more = s.note (notices ++ more) := by
  simp [note]

end Note

theorem Awaits.note {s : CacheSession V} {flight : Nat} {key : String} (h : s.Awaits flight key)
    (notices : List Notice) : (s.note notices).Awaits flight key :=
  h.congr rfl rfl

/-! ### Lookups -/

/-- The session in which a fetch for a key has started. -/
def depart (s : CacheSession V) (key : String) : CacheSession V :=
  { s with flights := (s.nextFlight, key) :: s.flights, nextFlight := s.nextFlight + 1 }

theorem depart_note (s : CacheSession V) (notices : List Notice) (key : String) :
    (s.note notices).depart key = (s.depart key).note notices := rfl

/-- What a lookup can lead to: the value is fresh, or the lookup is cancelled, or a fetch
    starts. -/
theorem lookup_cases (s : CacheSession V) (key : String) (cancelled : Bool) :
    (∃ value, s.cache.fresh? s.now key = some value ∧
      s.lookup key cancelled = (.hit value, s.note [.cacheHit key])) ∨
    (s.cache.fresh? s.now key = none ∧ cancelled = true ∧
      s.lookup key cancelled = (.cancelled, s.note [.cacheMiss key, .fetchCancelled key])) ∨
    (s.cache.fresh? s.now key = none ∧ cancelled = false ∧
      s.lookup key cancelled =
        (.fetching s.nextFlight, (s.depart key).note [.cacheMiss key])) := by
  cases hfresh : s.cache.fresh? s.now key with
  | some value => exact Or.inl ⟨value, rfl, by simp [lookup, hfresh]⟩
  | none =>
    cases cancelled with
    | true => exact Or.inr (Or.inl ⟨rfl, rfl, by simp [lookup, hfresh]⟩)
    | false => exact Or.inr (Or.inr ⟨rfl, rfl, by simp [lookup, hfresh, depart]⟩)

theorem depart_awaits (s : CacheSession V) (key : String) :
    (s.depart key).Awaits s.nextFlight key :=
  ⟨Nat.lt_succ_self _, List.lookup_cons_self⟩

theorem Awaits.depart {s : CacheSession V} {flight : Nat} {key : String}
    (h : s.Awaits flight key) (other : String) : (s.depart other).Awaits flight key := by
  refine ⟨Nat.lt_succ_of_lt h.started, ?_⟩
  have hne : (flight == s.nextFlight) = false := beq_false_of_ne (Nat.ne_of_lt h.started)
  simp [CacheSession.depart, List.lookup_cons, hne, h.lookup]

/-! ### Ends of fetches -/

/-- The session in which a fetch is under way no more. -/
def land (s : CacheSession V) (flight : Nat) : CacheSession V :=
  { s with flights := s.flights.filter (·.1 ≠ flight) }

/-- What the end of a fetch can lead to.  Only a value of a fetch that is under way, and has not
    been cancelled, is stored. -/
theorem finish_cases (s : CacheSession V) (flight : Nat) (cancelled : Bool)
    (answer : Except RegistryError V) :
    (s.flights.lookup flight = none ∧
      s.finish flight cancelled answer = (.error .cancelled, s)) ∨
    (∃ key, s.flights.lookup flight = some key ∧ cancelled = true ∧
      s.finish flight cancelled answer =
        (.error .cancelled, (s.land flight).note [.fetchCancelled key])) ∨
    (∃ key error, s.flights.lookup flight = some key ∧ cancelled = false ∧
      answer = .error error ∧
      s.finish flight cancelled answer = (.error (.fetch error), s.land flight)) ∨
    (∃ key value, s.flights.lookup flight = some key ∧ cancelled = false ∧
      answer = .ok value ∧
      s.finish flight cancelled answer = (.ok value, (s.land flight).update key value)) := by
  cases hkey : s.flights.lookup flight with
  | none => exact Or.inl ⟨rfl, by simp [finish, hkey]⟩
  | some key =>
    right
    cases cancelled with
    | true => exact Or.inl ⟨key, rfl, rfl, by simp [finish, hkey, land]⟩
    | false =>
      right
      cases answer with
      | error error => exact Or.inl ⟨key, error, rfl, rfl, rfl, by simp [finish, hkey, land]⟩
      | ok value =>
        exact Or.inr ⟨key, value, rfl, rfl, rfl, by simp [finish, hkey, land, update]⟩

theorem lookup_land (s : CacheSession V) (flight other : Nat) :
    (s.land flight).flights.lookup other =
      if other = flight then none else s.flights.lookup other :=
  lookup_filter_ne s.flights flight other

theorem Awaits.land {s : CacheSession V} {flight other : Nat} {key : String}
    (h : s.Awaits flight key) (hne : flight ≠ other) : (s.land other).Awaits flight key :=
  ⟨h.started, by rw [lookup_land, if_neg hne, h.lookup]⟩

/-! ### The passing of time -/

/-- A tick of the collector removes entries and does nothing else to a cache. -/
theorem tick_frame (s : CacheSession V) :
    s.tick.cache.Within s.cache ∧ s.tick.flights = s.flights ∧
      s.tick.nextFlight = s.nextFlight := by
  unfold tick
  cases s.collector with
  | none => exact ⟨Cache.Within.refl _, rfl, rfl⟩
  | some collector => exact ⟨s.cache.sweep_within collector.nextTick, rfl, rfl⟩

theorem ticks_frame (n : Nat) (s : CacheSession V) :
    (ticks n s).cache.Within s.cache ∧ (ticks n s).flights = s.flights ∧
      (ticks n s).nextFlight = s.nextFlight := by
  induction n generalizing s with
  | zero => exact ⟨Cache.Within.refl _, rfl, rfl⟩
  | succ n ih =>
    obtain ⟨hcache, hflights, hnext⟩ := s.tick_frame
    obtain ⟨hcaches, hflightss, hnexts⟩ := ih s.tick
    exact ⟨hcaches.trans hcache, hflightss.trans hflights, hnexts.trans hnext⟩

section Advance

variable (s : CacheSession V) (instant : Nat)

@[simp] theorem advanceTo_now : (s.advanceTo instant).now = max s.now instant := rfl

theorem advanceTo_within : (s.advanceTo instant).cache.Within s.cache :=
  (ticks_frame (s.ticksUntil instant) s).1

@[simp] theorem advanceTo_flights : (s.advanceTo instant).flights = s.flights :=
  (ticks_frame (s.ticksUntil instant) s).2.1

@[simp] theorem advanceTo_nextFlight : (s.advanceTo instant).nextFlight = s.nextFlight :=
  (ticks_frame (s.ticksUntil instant) s).2.2

end Advance

/-! ### Fading -/

/-- All that changes from one session to another is that time goes on, and that entries are gone or
    fetches have ended. -/
structure Fades (s s' : CacheSession V) : Prop where
  cache : s'.cache.Within s.cache
  now : s.now ≤ s'.now
  flights : ∀ flight key, s'.flights.lookup flight = some key → s.flights.lookup flight = some key
  nextFlight : s'.nextFlight = s.nextFlight

section Fading

variable (s : CacheSession V)

theorem Fades.refl : s.Fades s :=
  ⟨Cache.Within.refl s.cache, Nat.le_refl s.now, fun _ _ h => h, rfl⟩

theorem Fades.note {s s' : CacheSession V} (h : s.Fades s') (notices : List Notice) :
    s.Fades (s'.note notices) :=
  ⟨h.cache, h.now, h.flights, h.nextFlight⟩

theorem note_fades (notices : List Notice) : s.Fades (s.note notices) :=
  (Fades.refl s).note notices

theorem forget_fades {c : Cache V} (h : c.Within s.cache) : s.Fades { s with cache := c } :=
  ⟨h, Nat.le_refl s.now, fun _ _ h => h, rfl⟩

theorem land_fades (flight : Nat) : s.Fades (s.land flight) := by
  refine ⟨Cache.Within.refl s.cache, Nat.le_refl s.now, ?_, rfl⟩
  intro other key hother
  rw [lookup_land] at hother
  by_cases hlanded : other = flight
  · rw [if_pos hlanded] at hother
    cases hother
  · rwa [if_neg hlanded] at hother

theorem advanceTo_fades (instant : Nat) : s.Fades (s.advanceTo instant) := by
  refine ⟨s.advanceTo_within instant, Nat.le_max_left s.now instant, ?_,
    s.advanceTo_nextFlight instant⟩
  intro flight key hflight
  rwa [advanceTo_flights] at hflight

theorem startCollector_fades (interval : Nat) : s.Fades (s.startCollector interval) := by
  unfold startCollector
  split
  · exact ⟨Cache.Within.refl s.cache, Nat.le_refl s.now, fun _ _ h => h, rfl⟩
  · exact ⟨Cache.Within.refl s.cache, Nat.le_refl s.now, fun _ _ h => h, rfl⟩

theorem stopCollector_fades : s.Fades s.stopCollector := by
  unfold stopCollector
  split
  · exact ⟨Cache.Within.refl s.cache, Nat.le_refl s.now, fun _ _ h => h, rfl⟩
  · exact Fades.refl s

end Fading

end CacheSession

end ImageFreshness
