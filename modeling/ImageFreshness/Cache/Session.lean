import ImageFreshness.Cache.Error
import ImageFreshness.Cache.Sweep
import ImageFreshness.Journal.Notice

/-!
# A cache in use

`CacheSession` is a cache together with the time, the fetches that are under way, and the
collector that sweeps the cache at regular intervals while it runs.

A lookup answers at once if the value is fresh.  Otherwise it starts a fetch, and the value is
stored when that ends; several fetches for one key may be under way, and the last one to end
counts.  A fetch that fails or is cancelled leaves the cache as it is.

Specification: sections 4.3 and 5, `get`, `update`, `delete`, `shutdown` and
`start_garbage_collector`.
-/

namespace ImageFreshness

structure Collector where
  interval : Nat
  nextTick : Nat
  deriving DecidableEq, Repr

structure CacheSession (V : Type) where
  now : Nat
  cache : Cache V
  collector : Option Collector
  /-- The fetches under way: a number for each, and the key it is for. -/
  flights : List (Nat × String)
  nextFlight : Nat
  journal : List Notice

inductive Lookup (V : Type) where
  | hit (value : V)
  | cancelled
  /-- A fetch with this number has started. -/
  | fetching (flight : Nat)
  deriving DecidableEq, Repr

namespace CacheSession

variable {V : Type}

def start (ttl : Nat) : CacheSession V := ⟨0, .empty ttl, none, [], 0, []⟩

def note (s : CacheSession V) (notices : List Notice) : CacheSession V :=
  { s with journal := notices.reverse ++ s.journal }

/-- Looks a key up.  A fresh value is given even if the lookup is cancelled. -/
def lookup (s : CacheSession V) (key : String) (cancelled : Bool) : Lookup V × CacheSession V :=
  match s.cache.fresh? s.now key with
  | some value => (.hit value, s.note [.cacheHit key])
  | none =>
    if cancelled then (.cancelled, s.note [.cacheMiss key, .fetchCancelled key])
    else
      (.fetching s.nextFlight,
        { s with flights := (s.nextFlight, key) :: s.flights, nextFlight := s.nextFlight + 1 }.note
          [.cacheMiss key])

/-- Ends a fetch.  A value is stored unless the fetch is cancelled; a fetch that is not under way
    counts as cancelled. -/
def finish (s : CacheSession V) (flight : Nat) (cancelled : Bool)
    (answer : Except RegistryError V) : Except CacheError V × CacheSession V :=
  match s.flights.lookup flight with
  | none => (.error .cancelled, s)
  | some key =>
    let landed := { s with flights := s.flights.filter (·.1 ≠ flight) }
    if cancelled then (.error .cancelled, landed.note [.fetchCancelled key])
    else
      match answer with
      | .error error => (.error (.fetch error), landed)
      | .ok value => (.ok value, { landed with cache := s.cache.write s.now key value })

def update (s : CacheSession V) (key : String) (value : V) : CacheSession V :=
  { s with cache := s.cache.write s.now key value }

def delete (s : CacheSession V) (key : String) : Bool × CacheSession V :=
  ((s.cache.find? key).isSome, { s with cache := s.cache.erase key })

def shutdown (s : CacheSession V) : CacheSession V :=
  { s with cache := s.cache.clear }.note [.cacheFlushed s.cache.size]

def sweep (s : CacheSession V) : Nat × CacheSession V :=
  let (cache, removed) := s.cache.sweep s.now
  (removed, { s with cache })

/-- Starts the collector.  Its first sweep is one interval away; with no interval it does not
    run. -/
def startCollector (s : CacheSession V) (interval : Nat) : CacheSession V :=
  if interval = 0 then { s with collector := none }.note [.collectorDisabled]
  else
    { s with collector := some ⟨interval, s.now + interval⟩ }.note [.collectorStarted interval]

def stopCollector (s : CacheSession V) : CacheSession V :=
  match s.collector with
  | some _ => { s with collector := none }.note [.collectorStopped]
  | none => s

def tick (s : CacheSession V) : CacheSession V :=
  match s.collector with
  | none => s
  | some collector =>
    let (cache, removed) := s.cache.sweep collector.nextTick
    { s with
      now := collector.nextTick
      cache
      collector := some { collector with nextTick := collector.nextTick + collector.interval }
    }.note (if removed = 0 then [] else [.collected removed])

/-- How many ticks of the collector lie before or at an instant. -/
def ticksUntil (s : CacheSession V) (instant : Nat) : Nat :=
  match s.collector with
  | none => 0
  | some collector =>
    if collector.nextTick ≤ instant then
      (instant - collector.nextTick) / collector.interval + 1
    else 0

def ticks : Nat → CacheSession V → CacheSession V
  | 0, s => s
  | n + 1, s => ticks n s.tick

/-- Lets time go on until an instant, which is not in the past.  The collector sweeps at each of
    its ticks on the way. -/
def advanceTo (s : CacheSession V) (instant : Nat) : CacheSession V :=
  { ticks (s.ticksUntil instant) s with now := max s.now instant }

end CacheSession

inductive CacheEvent (V : Type) where
  | advance (ms : Nat)
  | lookup (key : String) (cancelled : Bool)
  | finish (flight : Nat) (cancelled : Bool) (answer : Except RegistryError V)
  | update (key : String) (value : V)
  | delete (key : String)
  | shutdown
  | sweep
  | startCollector (interval : Nat)
  | stopCollector

inductive CacheReply (V : Type) where
  | done
  | lookup (outcome : Lookup V)
  | finish (result : Except CacheError V)
  | deleted (present : Bool)
  | swept (removed : Nat)

namespace CacheSession

variable {V : Type}

def apply (s : CacheSession V) : CacheEvent V → CacheReply V × CacheSession V
  | .advance ms => (.done, s.advanceTo (s.now + ms))
  | .lookup key cancelled => let (outcome, s) := s.lookup key cancelled; (.lookup outcome, s)
  | .finish flight cancelled answer =>
    let (result, s) := s.finish flight cancelled answer
    (.finish result, s)
  | .update key value => (.done, s.update key value)
  | .delete key => let (present, s) := s.delete key; (.deleted present, s)
  | .shutdown => (.done, s.shutdown)
  | .sweep => let (removed, s) := s.sweep; (.swept removed, s)
  | .startCollector interval => (.done, s.startCollector interval)
  | .stopCollector => (.done, s.stopCollector)

def run (s : CacheSession V) : List (CacheEvent V) → List (CacheReply V) × CacheSession V
  | [] => ([], s)
  | event :: rest =>
    let (reply, s) := s.apply event
    let (replies, s) := s.run rest
    (reply :: replies, s)

end CacheSession

end ImageFreshness
