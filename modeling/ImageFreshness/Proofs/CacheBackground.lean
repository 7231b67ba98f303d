import ImageFreshness.Proofs.CacheSteps

/-!
# What goes on in the background of a cache

Time goes on, and expired entries are swept away: at once or in batches, by hand or by the
collector.  None of this takes anything from a cache that a lookup could find, because what has
expired stays so (`Cache.isFresh_of_le`).

Two caches are told apart by their fresh entries only (`Cache.SameFresh`).  Sessions that are alike
in this way stay so in the background of either of them (`CacheSession.Alike.ages`), and answer
whatever else happens to both of them at one instant in the same way (`CacheSession.Alike.apply`).
-/

namespace ImageFreshness

namespace Cache

variable {V : Type} {c c' c'' : Cache V} {now later : Nat}

/-! ### Fresh entries -/

/-- The entry under a key, if it is fresh. -/
def unexpired? (c : Cache V) (now : Nat) (key : String) : Option (CacheEntry V) :=
  (c.find? key).filter (c.isFresh now)

theorem fresh?_eq_map (c : Cache V) (now : Nat) (key : String) :
    c.fresh? now key = (c.unexpired? now key).map CacheEntry.value := by
  unfold fresh? unexpired?
  cases c.find? key with
  | none => rfl
  | some entry =>
    by_cases hfresh : c.isFresh now entry = true
    · simp [Option.filter_some, hfresh]
    · simp [Option.filter_some, hfresh]

theorem isFresh_of_le (hle : now ≤ later) {entry : CacheEntry V}
    (h : c.isFresh later entry = true) : c.isFresh now entry = true := by
  rw [isFresh_iff] at h ⊢
  omega

/-- What is fresh later is fresh now. -/
theorem filter_isFresh (hle : now ≤ later) (found : Option (CacheEntry V)) :
    (found.filter (c.isFresh now)).filter (c.isFresh later) = found.filter (c.isFresh later) := by
  cases found with
  | none => rfl
  | some entry =>
    by_cases hlater : c.isFresh later entry = true
    · simp [Option.filter_some, hlater, isFresh_of_le hle hlater]
    · by_cases hnow : c.isFresh now entry = true
      · simp [Option.filter_some, hnow]
      · simp [Option.filter_some, hnow, hlater]

theorem unexpired?_write (c : Cache V) (now written : Nat) (key k : String) (value : V) :
    (c.write written key value).unexpired? now k =
      if k = key then (some ⟨value, written⟩ : Option (CacheEntry V)).filter (c.isFresh now)
      else c.unexpired? now k := by
  unfold unexpired?
  rw [find?_write]
  split
  · rfl
  · rfl

theorem unexpired?_erase (c : Cache V) (now : Nat) (key k : String) :
    (c.erase key).unexpired? now k = if k = key then none else c.unexpired? now k := by
  unfold unexpired?
  rw [find?_erase]
  split
  · rfl
  · rfl

/-! ### Caches with the same fresh entries -/

/-- From an instant on, two caches have the same fresh entries. -/
structure SameFresh (now : Nat) (c c' : Cache V) : Prop where
  ttl : c.ttl = c'.ttl
  entry : ∀ key, c.unexpired? now key = c'.unexpired? now key

namespace SameFresh

theorem refl (now : Nat) (c : Cache V) : c.SameFresh now c := ⟨rfl, fun _ => rfl⟩

theorem symm (h : c.SameFresh now c') : c'.SameFresh now c :=
  ⟨h.ttl.symm, fun key => (h.entry key).symm⟩

theorem trans (h : c.SameFresh now c') (h' : c'.SameFresh now c'') : c.SameFresh now c'' :=
  ⟨h.ttl.trans h'.ttl, fun key => (h.entry key).trans (h'.entry key)⟩

theorem isFresh (h : c.SameFresh now c') (instant : Nat) : c.isFresh instant = c'.isFresh instant :=
  funext (isFresh_congr h.ttl instant)

theorem mono (h : c.SameFresh now c') (hle : now ≤ later) : c.SameFresh later c' := by
  refine ⟨h.ttl, fun key => ?_⟩
  have hentry := h.entry key
  unfold unexpired? at hentry ⊢
  rw [← filter_isFresh hle, hentry, h.isFresh later, filter_isFresh hle]

theorem fresh? (h : c.SameFresh now c') (key : String) : c.fresh? now key = c'.fresh? now key := by
  rw [fresh?_eq_map, fresh?_eq_map, h.entry key]

theorem write (h : c.SameFresh now c') (written : Nat) (key : String) (value : V) :
    (c.write written key value).SameFresh now (c'.write written key value) := by
  refine ⟨h.ttl, fun k => ?_⟩
  rw [unexpired?_write, unexpired?_write, h.isFresh now, h.entry k]

theorem erase (h : c.SameFresh now c') (key : String) :
    (c.erase key).SameFresh now (c'.erase key) := by
  refine ⟨h.ttl, fun k => ?_⟩
  rw [unexpired?_erase, unexpired?_erase, h.entry k]

theorem clear (h : c.SameFresh now c') : c.clear.SameFresh now c'.clear :=
  ⟨h.ttl, fun _ => rfl⟩

/-- A batch of a sweep takes away nothing that is fresh, now or later. -/
theorem sweepBatch (c : Cache V) (hle : now ≤ later) (keys : List String) :
    (Cache.sweepBatch now (c, 0) keys).1.SameFresh later c := by
  have httl := sweepBatch_ttl now (c, 0) keys
  refine ⟨httl, fun key => ?_⟩
  unfold unexpired?
  rw [find?_sweepBatch, funext (isFresh_congr httl later)]
  split
  · exact filter_isFresh hle _
  · rfl

theorem sweep (c : Cache V) (hle : now ≤ later) : (c.sweep now).1.SameFresh later c := by
  rw [sweep_eq_sweepBatch]
  exact sweepBatch c hle _

end SameFresh

end Cache

/-- Whether an event happens in the background: time that goes on, sweeps, and the collector. -/
def CacheEvent.isBackground {V : Type} : CacheEvent V → Bool
  | .advance _ | .sweep | .startCollector _ | .stopCollector => true
  | .lookup .. | .finish .. | .update .. | .delete _ | .shutdown => false

/-- An answer without whether there was something to delete, which may have expired. -/
def CacheReply.seen {V : Type} : CacheReply V → CacheReply V
  | .deleted _ => .done
  | reply => reply

def CacheEvent.duration {V : Type} : CacheEvent V → Nat
  | .advance ms => ms
  | .lookup .. | .finish .. | .update .. | .delete _ | .shutdown | .sweep | .startCollector _
  | .stopCollector => 0

/-- Whether an event is an operation on the entries: neither time that goes on, nor something that
    starts or stops the collector. -/
def CacheEvent.isOperation {V : Type} : CacheEvent V → Bool
  | .lookup .. | .finish .. | .update .. | .delete _ | .shutdown | .sweep => true
  | .advance _ | .startCollector _ | .stopCollector => false

theorem CacheEvent.duration_of_isOperation {V : Type} {event : CacheEvent V}
    (h : event.isOperation = true) : event.duration = 0 := by
  cases event with
  | advance | startCollector | stopCollector => cases h
  | lookup | finish | update | delete | shutdown | sweep => rfl

namespace CacheSession

variable {V : Type} {s s' t t' : CacheSession V}

/-! ### One session -/

@[simp] theorem depart_now (s : CacheSession V) (key : String) : (s.depart key).now = s.now := rfl

@[simp] theorem lookup_now (s : CacheSession V) (key : String) (cancelled : Bool) :
    (s.lookup key cancelled).2.now = s.now := by
  rcases s.lookup_cases key cancelled with ⟨_, -, h⟩ | ⟨-, -, h⟩ | ⟨-, -, h⟩
  · rw [h, note_now]
  · rw [h, note_now]
  · rw [h, note_now, depart_now]

@[simp] theorem finish_now (s : CacheSession V) (flight : Nat) (cancelled : Bool)
    (answer : Except RegistryError V) : (s.finish flight cancelled answer).2.now = s.now := by
  rcases s.finish_cases flight cancelled answer with
    ⟨-, h⟩ | ⟨_, -, -, h⟩ | ⟨_, _, -, -, -, h⟩ | ⟨_, _, -, -, -, h⟩
  · rw [h]
  · rw [h]
    rfl
  · rw [h]
    rfl
  · rw [h]
    rfl

theorem startCollector_eq (s : CacheSession V) (interval : Nat) :
    ∃ collector notices, s.startCollector interval = { s with collector }.note notices := by
  unfold startCollector
  split
  · exact ⟨none, [.collectorDisabled], rfl⟩
  · exact ⟨some ⟨interval, s.now + interval⟩, [.collectorStarted interval], rfl⟩

theorem stopCollector_eq (s : CacheSession V) :
    ∃ collector notices, s.stopCollector = { s with collector }.note notices := by
  unfold stopCollector
  split
  · exact ⟨none, [.collectorStopped], rfl⟩
  · exact ⟨s.collector, [], rfl⟩

theorem apply_now (s : CacheSession V) (event : CacheEvent V) :
    (s.apply event).2.now = s.now + event.duration := by
  cases event with
  | advance ms => exact Nat.max_eq_right (Nat.le_add_right s.now ms)
  | lookup key cancelled => exact s.lookup_now key cancelled
  | finish flight cancelled answer => exact s.finish_now flight cancelled answer
  | update | delete | shutdown | sweep => rfl
  | startCollector interval =>
    obtain ⟨collector, notices, h⟩ := s.startCollector_eq interval
    rw [apply, h]
    rfl
  | stopCollector =>
    obtain ⟨collector, notices, h⟩ := s.stopCollector_eq
    rw [apply, h]
    rfl

/-- No operation takes notice of the collector. -/
theorem apply_withCollector (s : CacheSession V) (collector : Option Collector)
    {event : CacheEvent V} (h : event.isOperation = true) :
    ({ s with collector }.apply event).2 = { (s.apply event).2 with collector } := by
  cases event with
  | lookup key cancelled =>
    simp only [apply, lookup]
    cases s.cache.fresh? s.now key with
    | some value => rfl
    | none =>
      cases cancelled with
      | true => rfl
      | false => rfl
  | finish flight cancelled answer =>
    simp only [apply, finish]
    cases s.flights.lookup flight with
    | none => rfl
    | some key =>
      cases cancelled with
      | true => rfl
      | false =>
        cases answer with
        | error error => rfl
        | ok value => rfl
  | update | delete | shutdown | sweep => rfl
  | advance | startCollector | stopCollector => cases h

theorem apply_collector (s : CacheSession V) {event : CacheEvent V}
    (h : event.isOperation = true) : (s.apply event).2.collector = s.collector := by
  have hsame : (s.apply event).2 = { (s.apply event).2 with collector := s.collector } :=
    s.apply_withCollector s.collector h
  rw [hsame]

theorem stopCollector_collector (s : CacheSession V) : s.stopCollector.collector = none := by
  unfold stopCollector
  cases hcollector : s.collector with
  | none => exact hcollector
  | some collector => rfl

theorem startCollector_cache (s : CacheSession V) (interval : Nat) :
    (s.startCollector interval).cache = s.cache := by
  obtain ⟨collector, notices, h⟩ := s.startCollector_eq interval
  rw [h, note_cache]

theorem stopCollector_cache (s : CacheSession V) : s.stopCollector.cache = s.cache := by
  obtain ⟨collector, notices, h⟩ := s.stopCollector_eq
  rw [h, note_cache]

theorem startCollector_of_pos (s : CacheSession V) {interval : Nat} (hinterval : 0 < interval) :
    s.startCollector interval =
      { s with collector := some ⟨interval, s.now + interval⟩ }.note
        [.collectorStarted interval] :=
  if_neg (Nat.ne_of_gt hinterval)

theorem advanceTo_of_ticksUntil {instant : Nat} (h : s.ticksUntil instant = 0) :
    s.advanceTo instant = { s with now := max s.now instant } := by
  rw [advanceTo, h]
  rfl

theorem advanceTo_of_none (h : s.collector = none) (instant : Nat) :
    s.advanceTo instant = { s with now := max s.now instant } := by
  apply advanceTo_of_ticksUntil
  rw [ticksUntil, h]

theorem apply_collector_of_none (h : s.collector = none) {event : CacheEvent V}
    (hstart : ∀ interval, event ≠ .startCollector interval) :
    (s.apply event).2.collector = none := by
  cases event with
  | advance ms => rw [apply, advanceTo_of_none h, h]
  | startCollector interval => exact absurd rfl (hstart interval)
  | stopCollector => exact s.stopCollector_collector
  | lookup | finish | update | delete | shutdown | sweep => exact (s.apply_collector rfl).trans h

/-- Only the background has changed a session: time has gone on, and what is gone has expired. -/
structure Ages (s t : CacheSession V) : Prop where
  now : s.now ≤ t.now
  cache : t.cache.SameFresh t.now s.cache
  flights : t.flights = s.flights
  nextFlight : t.nextFlight = s.nextFlight

theorem Ages.refl (s : CacheSession V) : s.Ages s :=
  ⟨Nat.le_refl s.now, .refl s.now s.cache, rfl, rfl⟩

theorem Ages.trans {s t u : CacheSession V} (h : s.Ages t) (h' : t.Ages u) : s.Ages u :=
  ⟨Nat.le_trans h.now h'.now, h'.cache.trans (h.cache.mono h'.now), h'.flights.trans h.flights,
    h'.nextFlight.trans h.nextFlight⟩

theorem batch_ages (s : CacheSession V) {started : Nat} (hle : started ≤ s.now)
    (keys : List String) :
    s.Ages { s with cache := (Cache.sweepBatch started (s.cache, 0) keys).1 } :=
  ⟨Nat.le_refl s.now, .sweepBatch s.cache hle keys, rfl, rfl⟩

theorem sweep_ages (s : CacheSession V) : s.Ages s.sweep.2 :=
  ⟨Nat.le_refl s.now, .sweep s.cache (Nat.le_refl s.now), rfl, rfl⟩

theorem startCollector_ages (s : CacheSession V) (interval : Nat) :
    s.Ages (s.startCollector interval) := by
  obtain ⟨collector, notices, h⟩ := s.startCollector_eq interval
  rw [h]
  exact ⟨Nat.le_refl s.now, .refl s.now s.cache, rfl, rfl⟩

theorem stopCollector_ages (s : CacheSession V) : s.Ages s.stopCollector := by
  obtain ⟨collector, notices, h⟩ := s.stopCollector_eq
  rw [h]
  exact ⟨Nat.le_refl s.now, .refl s.now s.cache, rfl, rfl⟩

/-- Ticks that all lie before or at an instant leave what is fresh then.  The induction is on the
    number of ticks; the first one moves the next tick by one interval. -/
theorem ticks_sameFresh (n : Nat) (s : CacheSession V) {instant : Nat}
    (h : ∀ collector, s.collector = some collector → ∀ k < n,
      collector.nextTick + k * collector.interval ≤ instant) :
    (ticks n s).cache.SameFresh instant s.cache := by
  induction n generalizing s with
  | zero => exact .refl instant s.cache
  | succ n ih =>
    cases hcollector : s.collector with
    | none =>
      have htick : s.tick = s := by simp [tick, hcollector]
      have hrest := ih s fun collector hsome => by
        rw [hcollector] at hsome
        cases hsome
      rw [ticks, htick]
      exact hrest
    | some collector =>
      have hfirst := h collector hcollector 0 (Nat.succ_pos n)
      have hrest := ih s.tick fun next hnext k hk => by
        have hk' := h collector hcollector (k + 1) (Nat.succ_lt_succ hk)
        simp only [tick, hcollector, note_collector, Option.some.injEq] at hnext
        subst hnext
        rw [Nat.succ_mul] at hk'
        simp only
        omega
      have htick : s.tick.cache = (s.cache.sweep collector.nextTick).1 := by
        simp [tick, hcollector]
      rw [htick] at hrest
      exact hrest.trans (.sweep s.cache (by omega))

/-- The collector leaves what is fresh when time has gone on. -/
theorem advanceTo_ages (s : CacheSession V) (instant : Nat) : s.Ages (s.advanceTo instant) := by
  refine ⟨Nat.le_max_left s.now instant, ?_, s.advanceTo_flights instant,
    s.advanceTo_nextFlight instant⟩
  refine (ticks_sameFresh (s.ticksUntil instant) s ?_).mono (Nat.le_max_right s.now instant)
  intro collector hcollector k hk
  simp only [ticksUntil, hcollector] at hk
  split at hk
  · have hsteps : k * collector.interval ≤
        (instant - collector.nextTick) / collector.interval * collector.interval :=
      Nat.mul_le_mul_right _ (Nat.le_of_lt_succ hk)
    have hwithin := Nat.div_mul_le_self (instant - collector.nextTick) collector.interval
    omega
  · omega

theorem apply_ages (s : CacheSession V) {event : CacheEvent V} (h : event.isBackground = true) :
    s.Ages (s.apply event).2 := by
  cases event with
  | advance ms => exact s.advanceTo_ages (s.now + ms)
  | sweep => exact s.sweep_ages
  | startCollector interval => exact s.startCollector_ages interval
  | stopCollector => exact s.stopCollector_ages
  | lookup | finish | update | delete | shutdown => cases h

theorem apply_within (s : CacheSession V) {event : CacheEvent V} (h : event.isBackground = true) :
    (s.apply event).2.cache.Within s.cache := by
  cases event with
  | advance ms => exact s.advanceTo_within (s.now + ms)
  | sweep => exact s.cache.sweep_within s.now
  | startCollector interval => exact (s.startCollector_fades interval).cache
  | stopCollector => exact s.stopCollector_fades.cache
  | lookup | finish | update | delete | shutdown => cases h

theorem run_background (s : CacheSession V) {events : List (CacheEvent V)}
    (h : ∀ event ∈ events, event.isBackground = true) :
    s.Ages (s.run events).2 ∧ (s.run events).2.cache.Within s.cache := by
  induction events generalizing s with
  | nil => exact ⟨.refl s, .refl s.cache⟩
  | cons event rest ih =>
    obtain ⟨hevent, hrest⟩ := List.forall_mem_cons.mp h
    obtain ⟨hages, hwithin⟩ := ih (s.apply event).2 hrest
    exact ⟨(s.apply_ages hevent).trans hages, hwithin.trans (s.apply_within hevent)⟩

/-! ### Two sessions -/

/-- Nothing that a lookup could find tells two sessions apart once both have the same time. -/
structure Alike (s s' : CacheSession V) : Prop where
  cache : s.cache.SameFresh (max s.now s'.now) s'.cache
  flights : s.flights = s'.flights
  nextFlight : s.nextFlight = s'.nextFlight

namespace Alike

theorem refl (s : CacheSession V) : s.Alike s := ⟨.refl _ s.cache, rfl, rfl⟩

/-- The background of either session makes no difference. -/
theorem ages (h : s.Alike s') (ht : s.Ages t) (ht' : s'.Ages t') : t.Alike t' := by
  have hnow := ht.now
  have hnow' := ht'.now
  refine ⟨?_, ht.flights.trans (h.flights.trans ht'.flights.symm),
    ht.nextFlight.trans (h.nextFlight.trans ht'.nextFlight.symm)⟩
  have hleft := ht.cache.mono (Nat.le_max_left t.now t'.now)
  have hmiddle : s.cache.SameFresh (max t.now t'.now) s'.cache := h.cache.mono (by omega)
  have hright := ht'.cache.mono (Nat.le_max_right t.now t'.now)
  exact (hleft.trans hmiddle).trans hright.symm

theorem note (h : s.Alike s') (notices notices' : List Notice) :
    (s.note notices).Alike (s'.note notices') :=
  ⟨h.cache, h.flights, h.nextFlight⟩

theorem sameFresh (h : s.Alike s') (hnow : s.now = s'.now) :
    s.cache.SameFresh s.now s'.cache := by
  have hcache := h.cache
  rwa [← hnow, Nat.max_self] at hcache

theorem depart (h : s.Alike s') (key : String) : (s.depart key).Alike (s'.depart key) := by
  refine ⟨h.cache, ?_, ?_⟩
  · simp [CacheSession.depart, h.flights, h.nextFlight]
  · simp [CacheSession.depart, h.nextFlight]

theorem land (h : s.Alike s') (flight : Nat) : (s.land flight).Alike (s'.land flight) :=
  ⟨h.cache, by simp [CacheSession.land, h.flights], h.nextFlight⟩

theorem update (h : s.Alike s') (hnow : s.now = s'.now) (key : String) (value : V) :
    (s.update key value).Alike (s'.update key value) := by
  have hcache := h.cache.write s.now key value
  refine ⟨?_, h.flights, h.nextFlight⟩
  simpa only [CacheSession.update, ← hnow] using hcache

theorem lookup (h : s.Alike s') (hnow : s.now = s'.now) (key : String) (cancelled : Bool) :
    (s.lookup key cancelled).1 = (s'.lookup key cancelled).1 ∧
      (s.lookup key cancelled).2.Alike (s'.lookup key cancelled).2 := by
  have hfresh : s.cache.fresh? s.now key = s'.cache.fresh? s'.now key :=
    hnow ▸ (h.sameFresh hnow).fresh? key
  unfold CacheSession.lookup
  rw [hfresh]
  cases s'.cache.fresh? s'.now key with
  | some value => exact ⟨rfl, h.note _ _⟩
  | none =>
    cases cancelled with
    | true => exact ⟨rfl, h.note _ _⟩
    | false => exact ⟨congrArg Lookup.fetching h.nextFlight, (h.depart key).note _ _⟩

theorem finish (h : s.Alike s') (hnow : s.now = s'.now) (flight : Nat) (cancelled : Bool)
    (answer : Except RegistryError V) :
    (s.finish flight cancelled answer).1 = (s'.finish flight cancelled answer).1 ∧
      (s.finish flight cancelled answer).2.Alike (s'.finish flight cancelled answer).2 := by
  have hkey : s.flights.lookup flight = s'.flights.lookup flight := by rw [h.flights]
  unfold CacheSession.finish
  rw [hkey]
  cases s'.flights.lookup flight with
  | none => exact ⟨rfl, h⟩
  | some key =>
    cases cancelled with
    | true => exact ⟨rfl, (h.land flight).note _ _⟩
    | false =>
      cases answer with
      | error error => exact ⟨rfl, h.land flight⟩
      | ok value => exact ⟨rfl, (h.land flight).update hnow key value⟩

/-- What happens to both sessions at one instant is answered in the same way. -/
theorem apply (h : s.Alike s') (hnow : s.now = s'.now) {event : CacheEvent V}
    (hevent : event.isBackground = false) :
    (s.apply event).1.seen = (s'.apply event).1.seen ∧
      (s.apply event).2.Alike (s'.apply event).2 := by
  cases event with
  | lookup key cancelled =>
    obtain ⟨houtcome, hafter⟩ := h.lookup hnow key cancelled
    exact ⟨congrArg CacheReply.lookup houtcome, hafter⟩
  | finish flight cancelled answer =>
    obtain ⟨hresult, hafter⟩ := h.finish hnow flight cancelled answer
    exact ⟨congrArg CacheReply.finish hresult, hafter⟩
  | update key value => exact ⟨rfl, h.update hnow key value⟩
  | delete key => exact ⟨rfl, ⟨h.cache.erase key, h.flights, h.nextFlight⟩⟩
  | shutdown => exact ⟨rfl, ⟨h.cache.clear, h.flights, h.nextFlight⟩⟩
  | advance | sweep | startCollector | stopCollector => cases hevent

end Alike

end CacheSession

end ImageFreshness
