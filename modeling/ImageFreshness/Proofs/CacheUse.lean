import ImageFreshness.Cache.Get
import ImageFreshness.Proofs.CacheBackground
import ImageFreshness.Proofs.ScheduleRuns

/-!
# Lookups do not notice the background

Lookups go on, other operations come in between, and all the while entries are swept away: by hand,
by the collector, or by batches of a sweep that has started long before.  `CacheMove.timed` reads
off a run what has happened apart from this background, each move with its instant, and
`CacheUse.sights` what can be seen of it: what the source was asked with, what was answered, how
far each lookup has come, and which entries were fresh.

Every run is compared with one in which time goes on and nothing else happens in the background
(`CacheUse.sights_eq_replay`).  Two runs in which the same has happened thus look the same.
-/

namespace ImageFreshness

variable {σ A V : Type}

/-! ### Moves -/

/-- Something that happens to a cache and to the lookups that share it. -/
inductive CacheMove (V : Type) where
  | goOn (place : Nat)
  | event (event : CacheEvent V)
  /-- A batch of a sweep that has started this many milliseconds ago. -/
  | batch (age : Nat) (keys : List String)

namespace CacheMove

def isBackground : CacheMove V → Bool
  | .goOn _ => false
  | .event e => e.isBackground
  | .batch .. => true

def duration : CacheMove V → Nat
  | .event e => e.duration
  | .goOn _ | .batch .. => 0

/-- The moves that are not in the background, each with its instant. -/
def timed (now : Nat) : List (CacheMove V) → List (Nat × CacheMove V)
  | [] => []
  | move :: rest =>
    let later := timed (now + move.duration) rest
    if move.isBackground then later else (now, move) :: later

end CacheMove

/-- Lookups that share a cache and a source of values. -/
structure CacheUse (σ A V : Type) where
  lookups : List (GetTask A V)
  world : SourcedCache σ V

/-- What a lookup asks the source with when it goes on, if it does ask. -/
def GetTask.asked? (task : GetTask A V) (s : CacheSession V) : Option A :=
  match task with
  | .starting _ key args token =>
    match (s.lookup key (token.stopsStart s.now)).1 with
    | .fetching _ => some args
    | .hit _ | .cancelled => none
  | .fetching .. | .ended _ => none

/-- What can be seen of a move. -/
structure CacheSight (A V : Type) where
  asked : Option A
  reply : CacheReply V
  lookups : List (GetTask A V)
  fresh : String → Option (CacheEntry V)

namespace CacheUse

def now (u : CacheUse σ A V) : Nat := u.world.session.now

/-- The entry under a key that is fresh at an instant, unless something happens until then. -/
def unexpired? (u : CacheUse σ A V) (instant : Nat) (key : String) : Option (CacheEntry V) :=
  u.world.session.cache.unexpired? instant key

def withSession (u : CacheUse σ A V) (session : CacheSession V) : CacheUse σ A V :=
  { u with world := { u.world with session } }

def asked? (u : CacheUse σ A V) : CacheMove V → Option A
  | .goOn place => u.lookups[place]?.bind (·.asked? u.world.session)
  | .event _ | .batch .. => none

/-- Lets the lookup at a place go on, if there is one. -/
def goOn (source : Source σ A V) (u : CacheUse σ A V) (place : Nat) : CacheUse σ A V :=
  match u.lookups[place]? with
  | some task =>
    let (task, world) := task.resume source u.world
    ⟨u.lookups.set place task, world⟩
  | none => u

def apply (source : Source σ A V) (u : CacheUse σ A V) :
    CacheMove V → CacheReply V × CacheUse σ A V
  | .goOn place => (.done, u.goOn source place)
  | .event event =>
    let (reply, session) := u.world.session.apply event
    (reply, u.withSession session)
  | .batch age keys =>
    let session := u.world.session
    let cache := (Cache.sweepBatch (session.now - age) (session.cache, 0) keys).1
    (.done, u.withSession { session with cache })

/-- What is left after some moves. -/
def after (source : Source σ A V) (u : CacheUse σ A V) (moves : List (CacheMove V)) :
    CacheUse σ A V :=
  moves.foldl (fun u move => (u.apply source move).2) u

def sight (source : Source σ A V) (u : CacheUse σ A V) (move : CacheMove V) : CacheSight A V where
  asked := u.asked? move
  reply := (u.apply source move).1.seen
  lookups := (u.apply source move).2.lookups
  fresh := (u.apply source move).2.unexpired? (u.apply source move).2.now

/-- What can be seen of some moves, apart from those in the background. -/
def sights (source : Source σ A V) (u : CacheUse σ A V) :
    List (CacheMove V) → List (CacheSight A V)
  | [] => []
  | move :: rest =>
    let later := (u.apply source move).2.sights source rest
    if move.isBackground then later else u.sight source move :: later

end CacheUse

/-! ### Lookups that go on -/

namespace GetTask

variable (source : Source σ A V)

theorem resume_now (task : GetTask A V) (w : SourcedCache σ V) :
    (task.resume source w).2.session.now = w.session.now := by
  cases task with
  | starting start key args token =>
    rcases w.session.lookup_cases key (token.stopsStart w.session.now) with
      ⟨value, -, houtcome⟩ | ⟨-, -, houtcome⟩ | ⟨-, -, houtcome⟩
    · simp only [resume, houtcome, CacheSession.note_now]
    · simp only [resume, houtcome, CacheSession.note_now]
    · simp only [resume, houtcome]
      split
      · simp only [CacheSession.finish_now, CacheSession.note_now, CacheSession.depart_now]
      · simp only [CacheSession.note_now, CacheSession.depart_now]
  | fetching flight ready answer token => exact w.session.finish_now flight _ answer
  | ended result => rfl

end GetTask

/-- Nothing that a lookup could find tells two caches with their sources apart. -/
structure SourcedCache.Alike (w w' : SourcedCache σ V) : Prop where
  source : w.source = w'.source
  session : w.session.Alike w'.session

namespace GetTask

variable (source : Source σ A V) {w w' : SourcedCache σ V}

theorem asked?_congr (h : w.session.Alike w'.session) (hnow : w.session.now = w'.session.now)
    (task : GetTask A V) : task.asked? w.session = task.asked? w'.session := by
  cases task with
  | starting start key args token =>
    obtain ⟨houtcome, -⟩ := h.lookup hnow key (token.stopsStart w.session.now)
    simp only [asked?]
    rw [houtcome, hnow]
  | fetching flight ready answer token => rfl
  | ended result => rfl

/-- A lookup goes on in the same way with caches that are alike, and they stay alike. -/
theorem resume_alike (h : w.Alike w') (hnow : w.session.now = w'.session.now)
    (task : GetTask A V) :
    (task.resume source w).1 = (task.resume source w').1 ∧
      (task.resume source w).2.Alike (task.resume source w').2 := by
  cases task with
  | starting start key args token =>
    obtain ⟨houtcome, hsession⟩ := h.session.lookup hnow key (token.stopsStart w'.session.now)
    have hnows : (w.session.lookup key (token.stopsStart w'.session.now)).2.now =
        (w'.session.lookup key (token.stopsStart w'.session.now)).2.now := by
      rw [CacheSession.lookup_now, CacheSession.lookup_now, hnow]
    simp only [resume, hnow]
    generalize w.session.lookup key (token.stopsStart w'.session.now) = looked at *
    generalize w'.session.lookup key (token.stopsStart w'.session.now) = looked' at *
    obtain ⟨outcome, session⟩ := looked
    obtain ⟨outcome', session'⟩ := looked'
    cases houtcome
    cases outcome with
    | hit value => exact ⟨rfl, h.source, hsession⟩
    | cancelled => exact ⟨rfl, h.source, hsession⟩
    | fetching flight =>
      have hnoted := hsession.note (source.fetch args w'.source).1.notices
        (source.fetch args w'.source).1.notices
      simp only [h.source]
      by_cases hdelay : (source.fetch args w'.source).1.delay = 0
      · obtain ⟨hresult, hlanded⟩ :=
          hnoted.finish hnows flight false (source.fetch args w'.source).1.answer
        simp only [if_pos hdelay]
        exact ⟨congrArg ended hresult, rfl, hlanded⟩
      · simp only [if_neg hdelay]
        exact ⟨trivial, rfl, hnoted⟩
  | fetching flight ready answer token =>
    obtain ⟨hresult, hsession⟩ :=
      h.session.finish hnow flight (token.stopsWait w'.session.now) answer
    simp only [resume, hnow]
    exact ⟨congrArg ended hresult, h.source, hsession⟩
  | ended result => exact ⟨rfl, h⟩

end GetTask

namespace CacheUse

variable (source : Source σ A V) {u u' : CacheUse σ A V}

/-- The same lookups have come equally far, over caches that are alike. -/
structure Alike (u u' : CacheUse σ A V) : Prop where
  lookups : u.lookups = u'.lookups
  world : u.world.Alike u'.world

theorem Alike.refl (u : CacheUse σ A V) : u.Alike u := ⟨rfl, rfl, .refl u.world.session⟩

/-! ### One move -/

theorem goOn_now (u : CacheUse σ A V) (place : Nat) : (u.goOn source place).now = u.now := by
  unfold goOn
  cases u.lookups[place]? with
  | none => rfl
  | some task => exact task.resume_now source u.world

theorem apply_now (u : CacheUse σ A V) (move : CacheMove V) :
    (u.apply source move).2.now = u.now + move.duration := by
  cases move with
  | goOn place => exact u.goOn_now source place
  | event event => exact u.world.session.apply_now event
  | batch age keys => rfl

/-- The background of a cache takes no lookup any further, and leaves what is fresh. -/
theorem Alike.background (h : u.Alike u') {move : CacheMove V} (hmove : move.isBackground = true) :
    (u.apply source move).2.Alike u' := by
  have hsession := h.world.session
  cases move with
  | goOn place => cases hmove
  | event event =>
    have hages := u.world.session.apply_ages hmove
    exact ⟨h.lookups, h.world.source, hsession.ages hages (.refl u'.world.session)⟩
  | batch age keys =>
    have hages := u.world.session.batch_ages (Nat.sub_le u.world.session.now age) keys
    exact ⟨h.lookups, h.world.source, hsession.ages hages (.refl u'.world.session)⟩

theorem Alike.goOn (h : u.Alike u') (hnow : u.now = u'.now) (place : Nat) :
    (u.goOn source place).Alike (u'.goOn source place) := by
  unfold CacheUse.goOn
  rw [h.lookups]
  cases u'.lookups[place]? with
  | none => exact h
  | some task =>
    obtain ⟨htask, hworld⟩ := task.resume_alike source h.world hnow
    exact ⟨by simp only [htask], hworld⟩

theorem Alike.asked? (h : u.Alike u') (hnow : u.now = u'.now) (move : CacheMove V) :
    u.asked? move = u'.asked? move := by
  cases move with
  | goOn place =>
    simp only [CacheUse.asked?, h.lookups]
    cases u'.lookups[place]? with
    | none => rfl
    | some task => exact task.asked?_congr h.world.session hnow
  | event event => rfl
  | batch age keys => rfl

theorem Alike.unexpired? (h : u.Alike u') {instant : Nat} (hle : u.now ≤ instant)
    (hle' : u'.now ≤ instant) (key : String) :
    u.unexpired? instant key = u'.unexpired? instant key :=
  (h.world.session.cache.mono (Nat.max_le.mpr ⟨hle, hle'⟩)).entry key

/-- A move at one instant looks the same, and is answered in the same way. -/
theorem Alike.move (h : u.Alike u') (hnow : u.now = u'.now) {move : CacheMove V}
    (hmove : move.isBackground = false) :
    u.sight source move = u'.sight source move ∧
      (u.apply source move).2.Alike (u'.apply source move).2 := by
  have hafter : (u.apply source move).1.seen = (u'.apply source move).1.seen ∧
      (u.apply source move).2.Alike (u'.apply source move).2 := by
    cases move with
    | goOn place => exact ⟨rfl, h.goOn source hnow place⟩
    | event event =>
      obtain ⟨hreply, hsession⟩ := h.world.session.apply hnow hmove
      exact ⟨hreply, h.lookups, h.world.source, hsession⟩
    | batch age keys => cases hmove
  obtain ⟨hreply, halike⟩ := hafter
  have hnows : (u.apply source move).2.now = (u'.apply source move).2.now := by
    rw [apply_now, apply_now, hnow]
  have hfresh : (u.apply source move).2.unexpired? (u.apply source move).2.now =
      (u'.apply source move).2.unexpired? (u'.apply source move).2.now := by
    funext key
    rw [← hnows]
    exact halike.unexpired? (Nat.le_refl _) (Nat.le_of_eq hnows.symm) key
  refine ⟨?_, halike⟩
  unfold sight
  rw [h.asked? hnow move, hreply, halike.lookups, hfresh]

/-! ### Runs -/

def waitUntil (u : CacheUse σ A V) (instant : Nat) : CacheUse σ A V :=
  u.withSession { u.world.session with now := max u.now instant }

/-- Lets moves happen at their instants, with no background: what can be seen of them, and what is
    left. -/
def replay (u : CacheUse σ A V) :
    List (Nat × CacheMove V) → List (CacheSight A V) × CacheUse σ A V
  | [] => ([], u)
  | (instant, move) :: rest =>
    let ready := u.waitUntil instant
    let (sights, last) := (ready.apply source move).2.replay rest
    (ready.sight source move :: sights, last)

theorem waitUntil_ages (s : CacheSession V) (instant : Nat) :
    s.Ages { s with now := max s.now instant } :=
  ⟨Nat.le_max_left s.now instant, .refl _ s.cache, rfl, rfl⟩

/-- A run looks like what has happened in it, without its background.  The induction is on the
    moves; the run that is compared with is late, and waits before each of its moves. -/
theorem sights_eq_replay (h : u.Alike u') (hle : u'.now ≤ u.now) (moves : List (CacheMove V)) :
    u.sights source moves = (u'.replay source (CacheMove.timed u.now moves)).1 ∧
      (u.after source moves).Alike (u'.replay source (CacheMove.timed u.now moves)).2 ∧
      (u'.replay source (CacheMove.timed u.now moves)).2.now ≤ (u.after source moves).now := by
  induction moves generalizing u u' with
  | nil => exact ⟨rfl, h, hle⟩
  | cons move rest ih =>
    have hnext := u.apply_now source move
    cases hmove : move.isBackground with
    | true =>
      have hrest := ih (h.background source hmove) (by omega)
      rw [hnext] at hrest
      simpa [sights, after, CacheMove.timed, hmove] using hrest
    | false =>
      have hnow : u.now = (u'.waitUntil u.now).now := (Nat.max_eq_right hle).symm
      have hready : u.Alike (u'.waitUntil u.now) :=
        ⟨h.lookups, h.world.source, h.world.session.ages (.refl u.world.session)
          (waitUntil_ages u'.world.session u.now)⟩
      obtain ⟨hsight, halike⟩ := hready.move source hnow hmove
      have hnext' := (u'.waitUntil u.now).apply_now source move
      have hrest := ih halike (by omega)
      rw [hnext] at hrest
      simpa [sights, after, replay, CacheMove.timed, hmove, hsight] using hrest

/-- Two runs in which the same happens at the same instants, whatever the background of either: what
    can be seen of their moves is the same, and so are the results of their lookups, what has become
    of the source, and the entries that are fresh.  All this holds of every part of two runs up to
    which the same has happened. -/
theorem background_unseen (u : CacheUse σ A V) (moves moves' : List (CacheMove V))
    (hsame : CacheMove.timed u.now moves = CacheMove.timed u.now moves') :
    u.sights source moves = u.sights source moves' ∧
      (u.after source moves).lookups = (u.after source moves').lookups ∧
      (u.after source moves).world.source = (u.after source moves').world.source ∧
      ∀ instant key, (u.after source moves).now ≤ instant →
        (u.after source moves').now ≤ instant →
        (u.after source moves).unexpired? instant key =
          (u.after source moves').unexpired? instant key := by
  obtain ⟨hsights, hafter, hlate⟩ := sights_eq_replay source (.refl u) (Nat.le_refl u.now) moves
  obtain ⟨hsights', hafter', hlate'⟩ :=
    sights_eq_replay source (.refl u) (Nat.le_refl u.now) moves'
  rw [← hsame] at hsights' hafter' hlate'
  refine ⟨hsights.trans hsights'.symm, hafter.lookups.trans hafter'.lookups.symm,
    hafter.world.source.trans hafter'.world.source.symm, ?_⟩
  intro instant key hle hle'
  have hfresh := hafter.unexpired? hle (Nat.le_trans hlate hle) key
  have hfresh' := hafter'.unexpired? hle' (Nat.le_trans hlate' hle') key
  exact hfresh.trans hfresh'.symm

/-- A source that numbers its answers.  Each takes 10 milliseconds. -/
def countingSource : Source Nat String Nat :=
  ⟨fun _ count => (⟨10, .ok (count + 1), []⟩, count + 1)⟩

/-- Two lookups of one key, and a cache that keeps its values for 100 milliseconds. -/
def twoLookups : CacheUse Nat String Nat where
  lookups := [.starting 0 "nginx" "library/nginx" .live, .starting 0 "nginx" "library/nginx" .live]
  world := ⟨.start 100, 0⟩

/-- The second lookup comes when the value of the first has expired. -/
def lateLookup : List (CacheMove Nat) :=
  [.goOn 0, .event (.advance 10), .goOn 0, .event (.advance 110), .goOn 1]

def lateLookupCollected : List (CacheMove Nat) :=
  [.event (.startCollector 40), .goOn 0, .event (.advance 10), .event .sweep, .goOn 0,
    .event (.advance 70), .batch 5 ["nginx"], .event (.advance 40), .goOn 1]

theorem background_unseen_lateLookup :
    CacheMove.timed 0 lateLookup = CacheMove.timed 0 lateLookupCollected ∧
      twoLookups.sights countingSource lateLookup =
        twoLookups.sights countingSource lateLookupCollected ∧
      (twoLookups.after countingSource lateLookup).world.source = 2 ∧
      (twoLookups.after countingSource lateLookupCollected).world.source = 2 ∧
      (twoLookups.after countingSource lateLookup).world.session.cache.size = 1 ∧
      (twoLookups.after countingSource lateLookupCollected).world.session.cache.size = 0 := by
  have hsame : CacheMove.timed 0 lateLookup = CacheMove.timed 0 lateLookupCollected := rfl
  obtain ⟨hsights, -, hsource, -⟩ :=
    background_unseen countingSource twoLookups lateLookup lateLookupCollected hsame
  have hasked : (twoLookups.after countingSource lateLookup).world.source = 2 := by decide +kernel
  exact ⟨hsame, hsights, hasked, hsource ▸ hasked, by decide +kernel, by decide +kernel⟩

end CacheUse

/-! ### Lookups side by side -/

namespace GetTask

variable (source : Source σ A V) {w w' : SourcedCache σ V}

theorem runAll_alike (h : w.Alike w') (hnow : w.session.now = w'.session.now)
    (tasks : List (GetTask A V)) :
    (runAll source tasks w).1 = (runAll source tasks w').1 ∧
      (runAll source tasks w).2.Alike (runAll source tasks w').2 := by
  have hsim : (schedule source).Simulates (schedule source)
      (fun w w' => w.Alike w' ∧ w.session.now = w'.session.now) := by
    refine ⟨rfl, rfl, fun _ _ hboth => hboth.2, ?_, ?_⟩
    · rintro w w' instant ⟨halike, hnow⟩
      exact ⟨⟨halike.source, halike.session.ages (w.session.advanceTo_ages instant)
        (w'.session.advanceTo_ages instant)⟩, congrArg (max · instant) hnow⟩
    · rintro task w w' ⟨halike, hnow⟩
      obtain ⟨htask, hworld⟩ := task.resume_alike source halike hnow
      have hlater := (task.resume_now source w).trans hnow
      exact ⟨htask, hworld, hlater.trans (task.resume_now source w').symm⟩
  obtain ⟨htasks, hworlds, -⟩ := hsim.run tasks ⟨h, hnow⟩
  exact ⟨by simp only [runAll, htasks], hworlds⟩

/-- A collector changes no result of lookups. -/
theorem runAll_startCollector (w : SourcedCache σ V) (interval : Nat)
    (tasks : List (GetTask A V)) :
    (runAll source tasks { w with session := w.session.startCollector interval }).1 =
      (runAll source tasks w).1 := by
  have halike : SourcedCache.Alike { w with session := w.session.startCollector interval } w :=
    ⟨rfl, (CacheSession.Alike.refl w.session).ages (w.session.startCollector_ages interval)
      (.refl w.session)⟩
  exact (runAll_alike source halike (w.session.apply_now (.startCollector interval)) tasks).1

end GetTask

end ImageFreshness
