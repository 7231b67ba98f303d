import ImageFreshness.Schedule.Basic

/-!
# Runs of a schedule

A run lets time go from one due instant to the next until all tasks have ended, or until its fuel
is used up.  Three facts about it serve every kind of task:

* what holds at first, and is kept when time goes on and when one task goes on, holds at the end
  (`run_induction`), also if it is kept only by the steps of this run (`run_induction_of_steps`);
* runs in two worlds between which no task can tell are the same (`Simulates.run`);
* the fuel suffices (`due?_of_mem_run`): a task that goes on comes nearer to its end, and at every
  due instant one task at least goes on.
-/

namespace ImageFreshness

namespace Schedule

variable {T W : Type} (schedule : Schedule T W)

/-! ### Steps -/

/-- The tasks of a list that go on because they are due, each with the world as it finds it. -/
def dueSteps : List T → W → List (T × W)
  | [], _ => []
  | task :: rest, w =>
    if (schedule.due? task).any (· ≤ schedule.now w) then
      (task, w) :: dueSteps rest (schedule.resume task w).2
    else dueSteps rest w

def stepsAtMost : Nat → List T → W → List (T × W)
  | 0, _, _ => []
  | fuel + 1, tasks, w =>
    match schedule.firstDue? tasks with
    | none => []
    | some instant =>
      let ready := schedule.advanceTo w instant
      let (later, w') := schedule.resumeDue tasks ready
      schedule.dueSteps tasks ready ++ stepsAtMost fuel later w'

/-- The steps of a run: the tasks that go on in it, each with the world as it finds it. -/
def steps (tasks : List T) (w : W) : List (T × W) :=
  schedule.stepsAtMost (tasks.foldr (fun task n => schedule.remaining task + n) 0) tasks w

/-! ### Induction -/

section Induction

variable (Inv : List T → W → Prop) (Q : T × W → Prop)
  (hadvance : ∀ tasks w instant, Inv tasks w → schedule.firstDue? tasks = some instant →
    Inv tasks (schedule.advanceTo w instant))
  (hresume : ∀ before task after w, Inv (before ++ task :: after) w →
    (schedule.due? task).any (· ≤ schedule.now w) = true → Q (task, w) →
    Inv (before ++ (schedule.resume task w).1 :: after) (schedule.resume task w).2)

include hresume in
/-- What is kept when a task goes on that is due is kept when all of them do.  The induction is on
    the tasks that are still to be looked at; `before` are those that have been. -/
theorem resumeDue_induction (before tasks : List T) (w : W) (h : Inv (before ++ tasks) w)
    (hsteps : ∀ step ∈ schedule.dueSteps tasks w, Q step) :
    Inv (before ++ (schedule.resumeDue tasks w).1) (schedule.resumeDue tasks w).2 := by
  induction tasks generalizing before w with
  | nil => exact h
  | cons task rest ih =>
    simp only [resumeDue]
    by_cases hdue : (schedule.due? task).any (· ≤ schedule.now w) = true
    · rw [dueSteps, if_pos hdue] at hsteps
      obtain ⟨hstep, hlater⟩ := List.forall_mem_cons.mp hsteps
      rw [if_pos hdue]
      have hnext := ih (before ++ [(schedule.resume task w).1]) (schedule.resume task w).2
        (by simpa using hresume before task rest w h hdue hstep) hlater
      simpa using hnext
    · rw [dueSteps, if_neg hdue] at hsteps
      rw [if_neg hdue]
      have hnext := ih (before ++ [task]) w (by simpa using h) hsteps
      simpa using hnext

include hadvance hresume in
theorem runAtMost_induction (fuel : Nat) (tasks : List T) (w : W) (h : Inv tasks w)
    (hsteps : ∀ step ∈ schedule.stepsAtMost fuel tasks w, Q step) :
    Inv (schedule.runAtMost fuel tasks w).1 (schedule.runAtMost fuel tasks w).2 := by
  induction fuel generalizing tasks w with
  | zero => exact h
  | succ fuel ih =>
    unfold runAtMost
    unfold stepsAtMost at hsteps
    cases hdue : schedule.firstDue? tasks with
    | none => exact h
    | some instant =>
      rw [hdue] at hsteps
      obtain ⟨hnow, hlater⟩ := List.forall_mem_append.mp hsteps
      have hthen := hadvance tasks w instant h hdue
      exact ih _ _ (schedule.resumeDue_induction Inv Q hresume [] tasks _ hthen hnow) hlater

include hadvance hresume in
/-- What holds at first, and is kept by steps of which something is known, holds at the end of a run
    with such steps. -/
theorem run_induction_of_steps {tasks : List T} {w : W} (h : Inv tasks w)
    (hsteps : ∀ step ∈ schedule.steps tasks w, Q step) :
    Inv (schedule.run tasks w).1 (schedule.run tasks w).2 :=
  schedule.runAtMost_induction Inv Q hadvance hresume _ tasks w h hsteps

end Induction

/-- What holds at first and is kept, holds at the end of a run. -/
theorem run_induction (Inv : List T → W → Prop)
    (hadvance : ∀ tasks w instant, Inv tasks w → schedule.firstDue? tasks = some instant →
      Inv tasks (schedule.advanceTo w instant))
    (hresume : ∀ before task after w, Inv (before ++ task :: after) w →
      (schedule.due? task).any (· ≤ schedule.now w) = true →
      Inv (before ++ (schedule.resume task w).1 :: after) (schedule.resume task w).2)
    {tasks : List T} {w : W} (h : Inv tasks w) :
    Inv (schedule.run tasks w).1 (schedule.run tasks w).2 :=
  schedule.run_induction_of_steps Inv (fun _ => True) hadvance
    (fun before task after w h hdue _ => hresume before task after w h hdue) h
    (fun _ _ => trivial)

/-! ### Runs in two worlds -/

/-- The tasks of one schedule go on in its worlds as those of another one do in related worlds. -/
structure Simulates {W' : Type} (schedule : Schedule T W) (schedule' : Schedule T W')
    (R : W → W' → Prop) : Prop where
  due? : schedule.due? = schedule'.due?
  remaining : schedule.remaining = schedule'.remaining
  now : ∀ w w', R w w' → schedule.now w = schedule'.now w'
  advance : ∀ w w' instant, R w w' →
    R (schedule.advanceTo w instant) (schedule'.advanceTo w' instant)
  resume : ∀ task w w', R w w' → (schedule.resume task w).1 = (schedule'.resume task w').1 ∧
    R (schedule.resume task w).2 (schedule'.resume task w').2

section Simulation

variable {W' : Type} {schedule} {schedule' : Schedule T W'} {R : W → W' → Prop}

theorem Simulates.resumeDue (hsim : Simulates schedule schedule' R) (tasks : List T) {w : W}
    {w' : W'} (h : R w w') :
    (schedule.resumeDue tasks w).1 = (schedule'.resumeDue tasks w').1 ∧
      R (schedule.resumeDue tasks w).2 (schedule'.resumeDue tasks w').2 := by
  induction tasks generalizing w w' with
  | nil => exact ⟨rfl, h⟩
  | cons task rest ih =>
    simp only [Schedule.resumeDue, hsim.now w w' h, hsim.due?]
    by_cases hdue : (schedule'.due? task).any (· ≤ schedule'.now w') = true
    · obtain ⟨htask, hworlds⟩ := hsim.resume task w w' h
      obtain ⟨hrest, hlast⟩ := ih hworlds
      simp only [if_pos hdue, htask, hrest]
      exact ⟨trivial, hlast⟩
    · obtain ⟨hrest, hlast⟩ := ih h
      simp only [if_neg hdue, hrest]
      exact ⟨trivial, hlast⟩

theorem Simulates.firstDue? (hsim : Simulates schedule schedule' R) :
    schedule.firstDue? = schedule'.firstDue? := by
  funext tasks
  simp only [Schedule.firstDue?, hsim.due?]

theorem Simulates.runAtMost (hsim : Simulates schedule schedule' R) (fuel : Nat) (tasks : List T)
    {w : W} {w' : W'} (h : R w w') :
    (schedule.runAtMost fuel tasks w).1 = (schedule'.runAtMost fuel tasks w').1 ∧
      R (schedule.runAtMost fuel tasks w).2 (schedule'.runAtMost fuel tasks w').2 := by
  induction fuel generalizing tasks w w' with
  | zero => exact ⟨rfl, h⟩
  | succ fuel ih =>
    unfold Schedule.runAtMost
    rw [hsim.firstDue?]
    cases hdue : schedule'.firstDue? tasks with
    | none => exact ⟨rfl, h⟩
    | some instant =>
      obtain ⟨htasks, hworlds⟩ := hsim.resumeDue tasks (hsim.advance w w' instant h)
      simp only [htasks]
      exact ih _ hworlds

/-- Tasks that go on in related worlds in the same way all end in the same way. -/
theorem Simulates.run (hsim : Simulates schedule schedule' R) (tasks : List T) {w : W} {w' : W'}
    (h : R w w') :
    (schedule.run tasks w).1 = (schedule'.run tasks w').1 ∧
      R (schedule.run tasks w).2 (schedule'.run tasks w').2 := by
  have hruns := hsim.runAtMost (tasks.foldr (fun task n => schedule'.remaining task + n) 0) tasks h
  simpa only [Schedule.run, hsim.remaining] using hruns

/-- The steps of the one run are those of the other. -/
theorem Simulates.exists_mem_dueSteps (hsim : Simulates schedule schedule' R) (tasks : List T)
    {w : W} {w' : W'} (h : R w w') :
    ∀ step ∈ schedule.dueSteps tasks w,
      ∃ v, R step.2 v ∧ (step.1, v) ∈ schedule'.dueSteps tasks w' := by
  induction tasks generalizing w w' with
  | nil =>
    intro step hmem
    cases hmem
  | cons task rest ih =>
    simp only [Schedule.dueSteps, hsim.now w w' h, hsim.due?]
    by_cases hdue : (schedule'.due? task).any (· ≤ schedule'.now w') = true
    · simp only [if_pos hdue]
      intro step hmem
      rcases List.mem_cons.mp hmem with rfl | hmem
      · exact ⟨w', h, List.mem_cons_self⟩
      · obtain ⟨v, hv, hstep⟩ := ih (hsim.resume task w w' h).2 step hmem
        exact ⟨v, hv, List.mem_cons_of_mem _ hstep⟩
    · simp only [if_neg hdue]
      exact ih h

theorem Simulates.exists_mem_stepsAtMost (hsim : Simulates schedule schedule' R) (fuel : Nat)
    (tasks : List T) {w : W} {w' : W'} (h : R w w') :
    ∀ step ∈ schedule.stepsAtMost fuel tasks w,
      ∃ v, R step.2 v ∧ (step.1, v) ∈ schedule'.stepsAtMost fuel tasks w' := by
  induction fuel generalizing tasks w w' with
  | zero =>
    intro step hmem
    cases hmem
  | succ fuel ih =>
    unfold Schedule.stepsAtMost
    rw [hsim.firstDue?]
    cases hdue : schedule'.firstDue? tasks with
    | none =>
      intro step hmem
      cases hmem
    | some instant =>
      have hready := hsim.advance w w' instant h
      obtain ⟨htasks, hworlds⟩ := hsim.resumeDue tasks hready
      intro step hmem
      rcases List.mem_append.mp hmem with hmem | hmem
      · obtain ⟨v, hv, hstep⟩ := hsim.exists_mem_dueSteps tasks hready step hmem
        exact ⟨v, hv, List.mem_append_left _ hstep⟩
      · rw [htasks] at hmem
        obtain ⟨v, hv, hstep⟩ := ih _ hworlds step hmem
        exact ⟨v, hv, List.mem_append_right _ hstep⟩

theorem Simulates.exists_mem_steps (hsim : Simulates schedule schedule' R) (tasks : List T)
    {w : W} {w' : W'} (h : R w w') :
    ∀ step ∈ schedule.steps tasks w,
      ∃ v, R step.2 v ∧ (step.1, v) ∈ schedule'.steps tasks w' := by
  have hsteps := hsim.exists_mem_stepsAtMost
    (tasks.foldr (fun task n => schedule'.remaining task + n) 0) tasks h
  simpa only [Schedule.steps, hsim.remaining] using hsteps

end Simulation

/-! ### Ends -/

/-- What a schedule has to keep to for its runs to come to an end. -/
structure Ends : Prop where
  advance_reaches : ∀ w instant, instant ≤ schedule.now (schedule.advanceTo w instant)
  /-- A task that goes on comes nearer to its end. -/
  resume_remaining : ∀ task w, schedule.due? task ≠ none →
    schedule.remaining (schedule.resume task w).1 < schedule.remaining task

def remainingOf (tasks : List T) : Nat :=
  tasks.foldr (fun task n => schedule.remaining task + n) 0

@[simp] theorem remainingOf_cons (task : T) (tasks : List T) :
    schedule.remainingOf (task :: tasks) = schedule.remaining task + schedule.remainingOf tasks :=
  rfl

variable {schedule}

theorem Ends.resumeDue_le (hends : schedule.Ends) (tasks : List T) (w : W) :
    schedule.remainingOf (schedule.resumeDue tasks w).1 ≤ schedule.remainingOf tasks := by
  induction tasks generalizing w with
  | nil => exact Nat.le_refl _
  | cons task rest ih =>
    simp only [resumeDue]
    by_cases hdue : (schedule.due? task).any (· ≤ schedule.now w) = true
    · have hless := hends.resume_remaining task w (by intro hnone; simp [hnone] at hdue)
      have hrest := ih (schedule.resume task w).2
      simp only [if_pos hdue, remainingOf_cons]
      omega
    · have hrest := ih w
      simp only [if_neg hdue, remainingOf_cons]
      omega

/-- One task at least goes on if one is due.  The first of those that are due in the list finds the
    world as it was. -/
theorem Ends.resumeDue_lt (hends : schedule.Ends) {tasks : List T} {w : W} {task : T}
    (hmem : task ∈ tasks) (hdue : (schedule.due? task).any (· ≤ schedule.now w) = true) :
    schedule.remainingOf (schedule.resumeDue tasks w).1 < schedule.remainingOf tasks := by
  induction tasks with
  | nil => simp at hmem
  | cons first rest ih =>
    simp only [resumeDue]
    by_cases hfirst : (schedule.due? first).any (· ≤ schedule.now w) = true
    · have hless := hends.resume_remaining first w (by intro hnone; simp [hnone] at hfirst)
      have hrest := hends.resumeDue_le rest (schedule.resume first w).2
      simp only [if_pos hfirst, remainingOf_cons]
      omega
    · have hne : task ≠ first := by
        rintro rfl
        exact hfirst hdue
      have hrest := ih ((List.mem_cons.mp hmem).resolve_left hne)
      simp only [if_neg hfirst, remainingOf_cons]
      omega

theorem exists_due_of_firstDue? {tasks : List T} {instant : Nat}
    (h : schedule.firstDue? tasks = some instant) :
    ∃ task ∈ tasks, schedule.due? task = some instant := by
  obtain ⟨hmem, -⟩ := List.min?_eq_some_iff.mp h
  exact List.mem_filterMap.mp hmem

theorem due?_of_firstDue?_eq_none {tasks : List T} (h : schedule.firstDue? tasks = none) :
    ∀ task ∈ tasks, schedule.due? task = none := by
  have hnil : tasks.filterMap schedule.due? = [] := List.min?_eq_none_iff.mp h
  exact List.filterMap_eq_nil_iff.mp hnil

/-- Something remains to be done before a due instant that is not left after it. -/
theorem Ends.resumeDue_advanceTo_lt (hends : schedule.Ends) {tasks : List T} {instant : Nat}
    (h : schedule.firstDue? tasks = some instant) (w : W) :
    schedule.remainingOf (schedule.resumeDue tasks (schedule.advanceTo w instant)).1 <
      schedule.remainingOf tasks := by
  obtain ⟨task, hmem, hdue⟩ := exists_due_of_firstDue? h
  have hreach := hends.advance_reaches w instant
  exact hends.resumeDue_lt hmem (by simpa [hdue] using hreach)

theorem Ends.due?_of_mem_runAtMost (hends : schedule.Ends) (fuel : Nat) (tasks : List T) (w : W)
    (hfuel : schedule.remainingOf tasks ≤ fuel) :
    ∀ task ∈ (schedule.runAtMost fuel tasks w).1, schedule.due? task = none := by
  induction fuel generalizing tasks w with
  | zero =>
    cases hdue : schedule.firstDue? tasks with
    | none => exact due?_of_firstDue?_eq_none hdue
    | some instant =>
      have hless := hends.resumeDue_advanceTo_lt hdue w
      omega
  | succ fuel ih =>
    unfold runAtMost
    cases hdue : schedule.firstDue? tasks with
    | none => exact due?_of_firstDue?_eq_none hdue
    | some instant =>
      have hless := hends.resumeDue_advanceTo_lt hdue w
      exact ih _ _ (by omega)

/-- All tasks have ended at the end of a run. -/
theorem Ends.due?_of_mem_run (hends : schedule.Ends) (tasks : List T) (w : W) :
    ∀ task ∈ (schedule.run tasks w).1, schedule.due? task = none :=
  hends.due?_of_mem_runAtMost _ tasks w (Nat.le_refl _)

/-! ### One task -/

/-- A task that is alone goes on at the instant at which it is due. -/
theorem Ends.runAtMost_singleton (hends : schedule.Ends) {task : T} {instant : Nat}
    (hdue : schedule.due? task = some instant) (fuel : Nat) (w : W) :
    schedule.runAtMost (fuel + 1) [task] w =
      schedule.runAtMost fuel [(schedule.resume task (schedule.advanceTo w instant)).1]
        (schedule.resume task (schedule.advanceTo w instant)).2 := by
  have hfirst : schedule.firstDue? [task] = some instant := by simp [firstDue?, hdue]
  have hready : (schedule.due? task).any
      (· ≤ schedule.now (schedule.advanceTo w instant)) = true := by
    rw [hdue]
    exact decide_eq_true (hends.advance_reaches w instant)
  simp only [runAtMost, hfirst, resumeDue, if_pos hready]

end Schedule

end ImageFreshness
