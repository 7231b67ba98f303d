/-!
# Tasks side by side

Several tasks share one world.  Each says at which instant it goes on next.  Time goes from one
such instant to the next, and tasks that go on at the same instant do so in order.
-/

namespace ImageFreshness

/-- How tasks of one kind go on in a world that they share. -/
structure Schedule (T W : Type) where
  /-- The instant at which a task goes on, unless it has ended. -/
  due? : T → Option Nat
  resume : T → W → T × W
  /-- How many more times a task may go on. -/
  remaining : T → Nat
  now : W → Nat
  advanceTo : W → Nat → W

namespace Schedule

variable {T W : Type}

def firstDue? (schedule : Schedule T W) (tasks : List T) : Option Nat :=
  (tasks.filterMap schedule.due?).min?

/-- Lets every task go on that is due, in order. -/
def resumeDue (schedule : Schedule T W) : List T → W → List T × W
  | [], w => ([], w)
  | task :: rest, w =>
    let isDue := (schedule.due? task).any (· ≤ schedule.now w)
    let (task, w) := if isDue then schedule.resume task w else (task, w)
    let (rest, w) := resumeDue schedule rest w
    (task :: rest, w)

def runAtMost (schedule : Schedule T W) : Nat → List T → W → List T × W
  | 0, tasks, w => (tasks, w)
  | fuel + 1, tasks, w =>
    match schedule.firstDue? tasks with
    | none => (tasks, w)
    | some instant =>
      let (tasks, w) := schedule.resumeDue tasks (schedule.advanceTo w instant)
      runAtMost schedule fuel tasks w

/-- Lets tasks go on until all have ended.  At each instant one of them at least goes on. -/
def run (schedule : Schedule T W) (tasks : List T) (w : W) : List T × W :=
  schedule.runAtMost (tasks.foldr (fun task n => schedule.remaining task + n) 0) tasks w

end Schedule

end ImageFreshness
