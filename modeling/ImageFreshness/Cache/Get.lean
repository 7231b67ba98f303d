import ImageFreshness.Cache.Session
import ImageFreshness.Schedule.Basic
import ImageFreshness.Schedule.Waiting

/-!
# Getting values side by side

Several lookups share one cache and one source of values.

Specification: section 4.3, `get` without single-flight deduplication.
-/

namespace ImageFreshness

/-- A source of values.  An answer may depend on a state, which every question may change. -/
structure Source (σ A V : Type) where
  fetch : A → σ → Reply V × σ

structure SourcedCache (σ V : Type) where
  session : CacheSession V
  source : σ

/-- A lookup in its course.  `A` is what the source is asked with. -/
inductive GetTask (A V : Type) where
  | starting (start : Nat) (key : String) (args : A) (token : Token)
  | fetching (flight : Nat) (ready : Nat) (answer : Except RegistryError V) (token : Token)
  | ended (result : Except CacheError V)

namespace GetTask

variable {σ A V : Type}

def due? : GetTask A V → Option Nat
  | .starting start _ _ _ => some start
  | .fetching _ ready _ token => some (token.waitEnd ready)
  | .ended _ => none

def remaining : GetTask A V → Nat
  | .starting .. => 2
  | .fetching .. => 1
  | .ended _ => 0

/-- Lets a lookup go on.  An answer that is there at once is taken at once. -/
def resume (source : Source σ A V) (task : GetTask A V) (w : SourcedCache σ V) :
    GetTask A V × SourcedCache σ V :=
  let now := w.session.now
  match task with
  | .starting _ key args token =>
    match w.session.lookup key (token.stopsStart now) with
    | (.hit value, session) => (.ended (.ok value), { w with session })
    | (.cancelled, session) => (.ended (.error .cancelled), { w with session })
    | (.fetching flight, session) =>
      let (reply, state) := source.fetch args w.source
      let session := session.note reply.notices
      if reply.delay = 0 then
        let (result, session) := session.finish flight false reply.answer
        (.ended result, ⟨session, state⟩)
      else (.fetching flight (now + reply.delay) reply.answer token, ⟨session, state⟩)
  | .fetching flight _ answer token =>
    let (result, session) := w.session.finish flight (token.stopsWait now) answer
    (.ended result, { w with session })
  | .ended result => (.ended result, w)

def result? : GetTask A V → Option (Except CacheError V)
  | .ended result => some result
  | _ => none

def schedule (source : Source σ A V) : Schedule (GetTask A V) (SourcedCache σ V) where
  due? := due?
  resume := resume source
  remaining := remaining
  now w := w.session.now
  advanceTo w instant := { w with session := w.session.advanceTo instant }

def runAll (source : Source σ A V) (tasks : List (GetTask A V)) (w : SourcedCache σ V) :
    List (Except CacheError V) × SourcedCache σ V :=
  let (tasks, w) := (schedule source).run tasks w
  (tasks.filterMap result?, w)

end GetTask

end ImageFreshness
