import ImageFreshness.Check.Progress
import ImageFreshness.Schedule.Basic
import ImageFreshness.Schedule.Waiting

/-!
# Checks side by side

Several checks share one cache and one registry.  Each starts at an instant of its own and goes on
when what it waits for is there.

Specification: sections 5 and 15a.
-/

namespace ImageFreshness

variable [PatternEngine]

/-- What registries are asked for.  An answer may depend on a state, which every question may
    change. -/
structure Service (σ : Type) where
  tags : ImageLocation → σ → Reply (List ImageTag) × σ
  resolve : String → String → σ → Reply String × σ

structure World (σ : Type) where
  cache : TagCache
  registry : σ

inductive CheckTask where
  | starting (start : Nat) (subject : Option Subject)
  | resolving (subject : Subject) (ready : Nat) (answer : Except RegistryError String)
  | fetching (subject : Subject) (running : RunningTag) (flight : Nat) (ready : Nat)
      (answer : Except RegistryError (List ImageTag))
  | ended (ending : CheckEnding)

namespace CheckTask

variable {σ : Type}

def due? (token : Token) : CheckTask → Option Nat
  | .starting start _ => some start
  | .resolving _ ready _ => some (token.waitEnd ready)
  | .fetching _ _ _ ready _ => some (token.waitEnd ready)
  | .ended _ => none

/-- How many more times a task may have to go on. -/
def remaining : CheckTask → Nat
  | .starting .. => 3
  | .resolving .. => 2
  | .fetching .. => 1
  | .ended _ => 0

def ending? : CheckTask → Option CheckEnding
  | .ended ending => some ending
  | _ => none

/-- Asks for tags if they are needed.  An answer that is there at once is taken at once. -/
def afterLookup (service : Service σ) (s : Subject) (stage : LookupStage) (w : World σ) :
    CheckTask × World σ :=
  match stage with
  | .ended ending => (.ended ending, w)
  | .fetching running flight =>
    let (reply, registry) := service.tags (.ofUrl s.lookupUrl) w.registry
    let cache := w.cache.note reply.notices
    if reply.delay = 0 then
      let (ending, cache) := s.fetched running flight false reply.answer cache
      (.ended ending, ⟨cache, registry⟩)
    else
      (.fetching s running flight (w.cache.now + reply.delay) reply.answer, ⟨cache, registry⟩)

def afterStart (service : Service σ) (s : Subject) (stage : StartStage) (w : World σ) :
    CheckTask × World σ :=
  match stage with
  | .lookup stage => afterLookup service s stage w
  | .resolving =>
    let (reply, registry) := service.resolve s.image.url s.image.digest w.registry
    let cache := w.cache.note reply.notices
    if reply.delay = 0 then
      let (stage, cache) := s.resolved false reply.answer cache
      afterLookup service s stage ⟨cache, registry⟩
    else (.resolving s (w.cache.now + reply.delay) reply.answer, ⟨cache, registry⟩)

def resume (service : Service σ) (token : Token) (task : CheckTask) (w : World σ) :
    CheckTask × World σ :=
  let now := w.cache.now
  match task with
  | .starting _ none => (.ended (.ok none), w)
  | .starting _ (some s) =>
    let (stage, cache) := s.begin (token.stopsStart now) w.cache
    afterStart service s stage { w with cache }
  | .resolving s _ answer =>
    let (stage, cache) := s.resolved (token.stopsWait now) answer w.cache
    afterLookup service s stage { w with cache }
  | .fetching s running flight _ answer =>
    let (ending, cache) := s.fetched running flight (token.stopsWait now) answer w.cache
    (.ended ending, { w with cache })
  | .ended ending => (.ended ending, w)

def schedule (service : Service σ) (token : Token) : Schedule CheckTask (World σ) where
  due? := due? token
  resume := resume service token
  remaining := remaining
  now w := w.cache.now
  advanceTo w instant := { w with cache := w.cache.advanceTo instant }

/-- Makes checks until all have ended: their ends, in order, and the world after them. -/
def runAll (service : Service σ) (token : Token) (tasks : List CheckTask) (w : World σ) :
    List CheckEnding × World σ :=
  let (tasks, w) := (schedule service token).run tasks w
  (tasks.filterMap ending?, w)

end CheckTask

def Subject.check {σ : Type} (s : Subject) (service : Service σ) (token : Token) (w : World σ) :
    CheckEnding × World σ :=
  let (endings, w) := CheckTask.runAll service token [.starting w.cache.now (some s)] w
  (endings.headD (.ok none), w)

end ImageFreshness
