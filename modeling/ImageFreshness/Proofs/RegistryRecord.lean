import ImageFreshness.Proofs.CheckSteps
import ImageFreshness.Proofs.ScheduleRuns
import ImageFreshness.Scan.Basic

/-!
# What registries are asked

`Service.recorded` keeps a record of the questions that registries are asked and of their answers.
A record changes nothing (`scanPods_recorded`), so what is found in the record of a scan with
`service.recorded` has been asked in the scan with `service`.
-/

namespace ImageFreshness

variable {σ : Type}

inductive RegistryExchange where
  | tags (location : ImageLocation) (answer : Except RegistryError (List ImageTag))
  | resolve (url digest : String) (answer : Except RegistryError String)

/-- The service that also keeps a record of what it is asked, first question first. -/
def Service.recorded (service : Service σ) : Service (σ × List RegistryExchange) where
  tags location state :=
    let (reply, registry) := service.tags location state.1
    (reply, registry, state.2 ++ [.tags location reply.answer])
  resolve url digest state :=
    let (reply, registry) := service.resolve url digest state.1
    (reply, registry, state.2 ++ [.resolve url digest reply.answer])

theorem Service.recorded_tags {service : Service σ} {location : ImageLocation}
    {reply : Reply (List ImageTag)} {state state' : σ × List RegistryExchange}
    (h : service.recorded.tags location state = (reply, state')) :
    state'.2 = state.2 ++ [.tags location reply.answer] := by
  simp only [recorded] at h
  cases h
  rfl

theorem Service.recorded_resolve {service : Service σ} {url digest : String} {reply : Reply String}
    {state state' : σ × List RegistryExchange}
    (h : service.recorded.resolve url digest state = (reply, state')) :
    state'.2 = state.2 ++ [.resolve url digest reply.answer] := by
  simp only [recorded] at h
  cases h
  rfl

/-- The exchange is one with this service. -/
def RegistryExchange.IsWith (service : Service σ) : RegistryExchange → Prop
  | .tags location answer => ∃ state, (service.tags location state).1.answer = answer
  | .resolve url digest answer => ∃ state, (service.resolve url digest state).1.answer = answer

namespace World

/-- The world with an empty record. -/
def recording (w : World σ) : World (σ × List RegistryExchange) := ⟨w.cache, w.registry, []⟩

def record (w : World (σ × List RegistryExchange)) : List RegistryExchange := w.registry.2

/-- The world without the record. -/
def forget (w : World (σ × List RegistryExchange)) : World σ := ⟨w.cache, w.registry.1⟩

@[simp] theorem forget_recording (w : World σ) : w.recording.forget = w := rfl

end World

variable [PatternEngine]

/-! ### A record changes nothing -/

namespace CheckTask

variable (service : Service σ) (token : Token)

theorem afterLookup_forget (s : Subject) (stage : LookupStage)
    (w : World (σ × List RegistryExchange)) :
    (afterLookup service.recorded s stage w).1 = (afterLookup service s stage w.forget).1 ∧
      (afterLookup service.recorded s stage w).2.forget =
        (afterLookup service s stage w.forget).2 := by
  cases stage with
  | ended ending => exact ⟨rfl, rfl⟩
  | fetching running flight =>
    by_cases hdelay : (service.tags (.ofUrl s.lookupUrl) w.registry.1).1.delay = 0
    · have hnow : afterLookup service s (.fetching running flight) w.forget = _ := if_pos hdelay
      have hnow' : afterLookup service.recorded s (.fetching running flight) w = _ :=
        if_pos hdelay
      rw [hnow, hnow']
      exact ⟨rfl, rfl⟩
    · have hlater : afterLookup service s (.fetching running flight) w.forget = _ := if_neg hdelay
      have hlater' : afterLookup service.recorded s (.fetching running flight) w = _ :=
        if_neg hdelay
      rw [hlater, hlater']
      exact ⟨rfl, rfl⟩

theorem afterStart_forget (s : Subject) (stage : StartStage)
    (w : World (σ × List RegistryExchange)) :
    (afterStart service.recorded s stage w).1 = (afterStart service s stage w.forget).1 ∧
      (afterStart service.recorded s stage w).2.forget =
        (afterStart service s stage w.forget).2 := by
  cases stage with
  | lookup stage => exact afterLookup_forget service s stage w
  | resolving =>
    by_cases hdelay : (service.resolve s.image.url s.image.digest w.registry.1).1.delay = 0
    · have hnow : afterStart service s .resolving w.forget = _ := if_pos hdelay
      have hnow' : afterStart service.recorded s .resolving w = _ := if_pos hdelay
      rw [hnow, hnow']
      exact afterLookup_forget service s _ _
    · have hlater : afterStart service s .resolving w.forget = _ := if_neg hdelay
      have hlater' : afterStart service.recorded s .resolving w = _ := if_neg hdelay
      rw [hlater, hlater']
      exact ⟨rfl, rfl⟩

theorem resume_forget (task : CheckTask) (w : World (σ × List RegistryExchange)) :
    (resume service.recorded token task w).1 = (resume service token task w.forget).1 ∧
      (resume service.recorded token task w).2.forget =
        (resume service token task w.forget).2 := by
  cases task with
  | starting start subject =>
    cases subject with
    | none => exact ⟨rfl, rfl⟩
    | some s => exact afterStart_forget service s _ _
  | resolving s ready answer => exact afterLookup_forget service s _ _
  | fetching s running flight ready answer => exact ⟨rfl, rfl⟩
  | ended ending => exact ⟨rfl, rfl⟩

theorem schedule_recorded :
    (schedule service.recorded token).Simulates (schedule service token)
      (fun w w' => w.forget = w') := by
  refine ⟨rfl, rfl, ?_, ?_, ?_⟩
  · rintro w _ rfl
    rfl
  · rintro w _ instant rfl
    rfl
  · rintro task w _ rfl
    exact resume_forget service token task w

theorem runAll_recorded (tasks : List CheckTask) (w : World (σ × List RegistryExchange)) :
    (runAll service.recorded token tasks w).1 = (runAll service token tasks w.forget).1 ∧
      (runAll service.recorded token tasks w).2.forget =
        (runAll service token tasks w.forget).2 := by
  obtain ⟨htasks, hworld⟩ := (schedule_recorded service token).run tasks rfl
  exact ⟨congrArg (List.filterMap ending?) htasks, hworld⟩

end CheckTask

theorem scanPods_recorded (service : Service σ) (token : Token) (pods : List Pod) (testAll : Bool)
    (w : World (σ × List RegistryExchange)) :
    (scanPods service.recorded token pods testAll w).1 =
        (scanPods service token pods testAll w.forget).1 ∧
      (scanPods service.recorded token pods testAll w).2.forget =
        (scanPods service token pods testAll w.forget).2 := by
  obtain ⟨hendings, hworld⟩ := CheckTask.runAll_recorded service token
    (scanTasks w.cache.now (ScanItem.ofPods pods testAll)) w
  have hnow : w.forget.cache.now = w.cache.now := rfl
  simp only [scanPods, hnow, hendings, ← hworld]
  exact ⟨trivial, rfl⟩

/-! ### The record grows -/

section Grows

variable {service : Service σ} {token : Token} {s : Subject} {running : RunningTag}
  {cancelled : Bool} {w w' : World (σ × List RegistryExchange)} {task next : CheckTask}

/-- A lookup asks for the tags of the subject or for nothing. -/
theorem Subject.LookedUp.record_cases
    (h : s.LookedUp service.recorded running cancelled w next w') :
    w'.record = w.record ∨ w.cache.cache.fresh? w.cache.now s.cacheKey = none ∧
      ∃ answer, w'.record = w.record ++ [.tags s.location answer] ∧
        RegistryExchange.IsWith service (.tags s.location answer) := by
  cases h with
  | hit | stopped => exact Or.inl rfl
  | waits notices hfresh hgo hasked | fetched notices hfresh hgo hasked hfetched =>
    refine Or.inr ⟨hfresh, _, Service.recorded_tags hasked, w.registry.1, ?_⟩
    exact congrArg (fun asked => asked.1.answer) hasked

/-- The record of a step begins with what was recorded before. -/
theorem CheckTask.Step.record_append (h : Step service.recorded token w task next w') :
    ∃ asked, w'.record = w.record ++ asked ∧ ∀ exchange ∈ asked, exchange.IsWith service := by
  have hlookup {s : Subject} {running : RunningTag} {cancelled : Bool}
      {v : World (σ × List RegistryExchange)} {next : CheckTask}
      (h : s.LookedUp service.recorded running cancelled v next w') :
      ∃ asked, w'.record = v.record ++ asked ∧ ∀ exchange ∈ asked, exchange.IsWith service := by
    rcases h.record_cases with hsame | ⟨-, answer, hrecord, hwith⟩
    · exact ⟨[], by rw [hsame, List.append_nil], fun _ hmem => by cases hmem⟩
    · refine ⟨_, hrecord, fun exchange hmem => ?_⟩
      obtain rfl := List.mem_singleton.mp hmem
      exact hwith
  cases h with
  | absent | idle | stopped | resolvingStopped | fetched | ended =>
    exact ⟨[], (List.append_nil w.record).symm, fun _ hmem => by cases hmem⟩
  | asked notices hruns hwants hgo hasked =>
    refine ⟨_, Service.recorded_resolve hasked, fun exchange hmem => ?_⟩
    obtain rfl := List.mem_singleton.mp hmem
    exact ⟨w.registry.1, congrArg (fun asked => asked.1.answer) hasked⟩
  | @resolvedAtOnce _ s reply _ _ _ hruns hwants hgo hasked hlooked =>
    obtain ⟨asked, hrecord, hwith⟩ := hlookup hlooked
    refine ⟨.resolve s.image.url s.image.digest reply.answer :: asked, ?_,
      List.forall_mem_cons.mpr ⟨?_, hwith⟩⟩
    · rw [hrecord, World.record, Service.recorded_resolve hasked, List.append_assoc]
      rfl
    · exact ⟨w.registry.1, congrArg (fun asked => asked.1.answer) hasked⟩
  | declared hruns hwants hlooked => exact hlookup hlooked
  | resolved hgo hlooked => exact hlookup hlooked

theorem CheckTask.Step.record_grows (h : Step service.recorded token w task next w') :
    w.record ⊆ w'.record := by
  obtain ⟨asked, hrecord, -⟩ := h.record_append
  rw [hrecord]
  exact List.subset_append_left _ _

end Grows

/-! ### The record of a scan -/

/-- What registries are asked in a scan. -/
def scanRecord (service : Service σ) (token : Token) (pods : List Pod) (testAll : Bool)
    (w : World σ) : List RegistryExchange :=
  (scanPods service.recorded token pods testAll w.recording).2.record

theorem isWith_of_mem_scanRecord {service : Service σ} {token : Token} {pods : List Pod}
    {testAll : Bool} {w : World σ} :
    ∀ exchange ∈ scanRecord service token pods testAll w, exchange.IsWith service := by
  let Inv (_ : List CheckTask) (w : World (σ × List RegistryExchange)) : Prop :=
    ∀ exchange ∈ w.record, exchange.IsWith service
  have hstart : Inv (scanTasks w.cache.now (ScanItem.ofPods pods testAll)) w.recording := by
    intro exchange hmem
    cases hmem
  refine (CheckTask.schedule service.recorded token).run_induction Inv ?_ ?_ hstart
  · intro _ _ _ h _
    exact h
  · intro _ task _ w h _ exchange hmem
    obtain ⟨asked, hrecord, hwith⟩ :=
      (CheckTask.resume_step service.recorded token task w).record_append
    change exchange ∈ World.record (CheckTask.resume service.recorded token task w).2 at hmem
    rw [hrecord] at hmem
    rcases List.mem_append.mp hmem with hmem | hmem
    · exact h exchange hmem
    · exact hwith exchange hmem

end ImageFreshness
