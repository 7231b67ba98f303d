import ImageFreshness.Proofs.SweepBatches

/-!
# The collector at its ticks

While it runs, the collector sweeps at regular instants, the first of them one interval after its
start.  All other operations go on meanwhile, also between the batches of one of its sweeps: a
`CollectorMove` is what happens next, and a run of moves is `Timely` if the collector is never late.

A sweep under way is a `SweptSession`, and `IsFrom` tells what there is between its batches.
`Collecting` adds to this which ticks there have been, and that nothing is left that had expired at
any of them but the last.  It holds at the start, and every move keeps it (`Collecting.runMove`).
-/

namespace ImageFreshness

variable {V : Type}

/-- Something that happens while the collector runs. -/
inductive CollectorMove (V : Type) where
  /-- At its next tick, the collector starts a sweep. -/
  | tick
  | batch
  | wait (ms : Nat)
  | event (event : CacheEvent V)
  /-- A batch of another sweep, which has started this many milliseconds ago. -/
  | otherBatch (age : Nat) (keys : List String)

def CollectorMove.isCollectors : CollectorMove V → Bool
  | .tick | .batch => true
  | .wait _ | .event _ | .otherBatch .. => false

def CacheSession.collectEvery (s : CacheSession V) (interval : Nat) : SweptSession V :=
  ⟨s.startCollector interval, s.now, [], 0⟩

namespace SweptSession

/-- Waits until the next tick of the collector and starts a sweep. -/
def beginTick (r : SweptSession V) : SweptSession V :=
  match r.session.collector with
  | none => r
  | some collector =>
    CacheSession.beginSweep { r.session with
      now := collector.nextTick
      collector := some { collector with nextTick := collector.nextTick + collector.interval } }

/-- Goes through the next batch.  After the last one the collector tells how many entries it has
    removed. -/
def collectBatch (r : SweptSession V) : SweptSession V :=
  if r.batches.length = 1 ∧ r.nextBatch.removed ≠ 0 then
    { r.nextBatch with session := r.nextBatch.session.note [.collected r.nextBatch.removed] }
  else r.nextBatch

def runMove (r : SweptSession V) : CollectorMove V → SweptSession V
  | .tick => r.beginTick
  | .batch => r.collectBatch
  | .wait ms => { r with session := { r.session with now := r.session.now + ms } }
  | .event event => { r with session := (r.session.apply event).2 }
  | .otherBatch age keys =>
    let cache := (Cache.sweepBatch (r.session.now - age) (r.session.cache, 0) keys).1
    { r with session := { r.session with cache } }

def runMoves (r : SweptSession V) (moves : List (CollectorMove V)) : SweptSession V :=
  moves.foldl runMove r

/-- What may happen next, so that the collector is never late: it does not tick while its sweep is
    under way, and time does not go beyond its next tick. -/
def Permits (r : SweptSession V) : CollectorMove V → Prop
  | .tick => r.batches = []
  | .wait ms => ∀ collector ∈ r.session.collector, r.session.now + ms ≤ collector.nextTick
  | .event event => event.isOperation = true
  | .batch | .otherBatch .. => True

instance (r : SweptSession V) : (move : CollectorMove V) → Decidable (r.Permits move)
  | .tick => inferInstanceAs (Decidable (r.batches = []))
  | .wait ms => inferInstanceAs (Decidable
      (∀ collector ∈ r.session.collector, r.session.now + ms ≤ collector.nextTick))
  | .event event => inferInstanceAs (Decidable (event.isOperation = true))
  | .batch | .otherBatch .. => .isTrue trivial

def Timely (r : SweptSession V) : List (CollectorMove V) → Prop
  | [] => True
  | move :: rest => r.Permits move ∧ (r.runMove move).Timely rest

instance decidableTimely :
    (r : SweptSession V) → (moves : List (CollectorMove V)) → Decidable (r.Timely moves)
  | _, [] => .isTrue trivial
  | r, move :: rest =>
    have := decidableTimely (r.runMove move) rest
    inferInstanceAs (Decidable (r.Permits move ∧ (r.runMove move).Timely rest))

def tickInstant (r : SweptSession V) : CollectorMove V → List Nat
  | .tick => [r.beginTick.started]
  | .batch | .wait _ | .event _ | .otherBatch .. => []

def tickInstants (r : SweptSession V) : List (CollectorMove V) → List Nat
  | [] => []
  | move :: rest => r.tickInstant move ++ (r.runMove move).tickInstants rest

/-- In a run, nothing but the collector changes what is under a key. -/
def LeavesAlone (r : SweptSession V) (key : String) : List (CollectorMove V) → Prop
  | [] => True
  | move :: rest =>
    (move.isCollectors = false →
      (r.runMove move).session.cache.find? key = r.session.cache.find? key) ∧
    (r.runMove move).LeavesAlone key rest

instance decidableLeavesAlone [DecidableEq V] (key : String) :
    (r : SweptSession V) → (moves : List (CollectorMove V)) → Decidable (r.LeavesAlone key moves)
  | _, [] => .isTrue trivial
  | r, move :: rest =>
    have := decidableLeavesAlone key (r.runMove move) rest
    inferInstanceAs (Decidable ((move.isCollectors = false →
        (r.runMove move).session.cache.find? key = r.session.cache.find? key) ∧
      (r.runMove move).LeavesAlone key rest))

/-- The same with another collector, or with none. -/
def withCollector (r : SweptSession V) (collector : Option Collector) : SweptSession V :=
  { r with session := { r.session with collector } }

/-- Whatever happens, unless the collector is started again, it does nothing any more: neither a
    tick nor a batch changes anything, and no entry goes while time goes on. -/
def Rests (r : SweptSession V) : Prop :=
  ∀ moves, (∀ interval, .event (.startCollector interval) ∉ moves) →
    let later := r.runMoves moves
    later.runMove .tick = later ∧ later.runMove .batch = later ∧
      ∀ instant, (later.session.advanceTo instant).cache = later.session.cache

end SweptSession

namespace SweptSession

variable {r : SweptSession V} {s : CacheSession V} {interval k : Nat}

theorem runMoves_append (r : SweptSession V) (earlier later : List (CollectorMove V)) :
    r.runMoves (earlier ++ later) = (r.runMoves earlier).runMoves later :=
  List.foldl_append

theorem timely_append {earlier later : List (CollectorMove V)} :
    r.Timely (earlier ++ later) ↔ r.Timely earlier ∧ (r.runMoves earlier).Timely later := by
  induction earlier generalizing r with
  | nil => exact (and_iff_right trivial).symm
  | cons move rest ih =>
    rw [List.cons_append, Timely, Timely, ih, and_assoc]
    rfl

/-- A batch takes entries away and does nothing else to the cache and its collector. -/
theorem nextBatch_frame (r : SweptSession V) :
    r.session.cache.PrunedTo r.nextBatch.session.cache ∧
      r.nextBatch.session.now = r.session.now ∧
      r.nextBatch.session.collector = r.session.collector ∧ r.nextBatch.started = r.started := by
  cases hbatches : r.batches with
  | nil =>
    rw [nextBatch_of_nil hbatches]
    exact ⟨.refl _, rfl, rfl, rfl⟩
  | cons keys rest =>
    rw [nextBatch_of_cons hbatches]
    exact ⟨Cache.sweepBatch_pruned r.started (r.session.cache, r.removed) keys, rfl, rfl, rfl⟩

theorem collectBatch_eq (r : SweptSession V) :
    ∃ notices, r.collectBatch =
      { r.nextBatch with session := r.nextBatch.session.note notices } := by
  unfold collectBatch
  split
  · exact ⟨_, rfl⟩
  · exact ⟨[], rfl⟩

theorem collectBatch_of_nil (h : r.batches = []) : r.collectBatch = r := by
  rw [collectBatch, nextBatch_of_nil h, if_neg]
  simp [h]

theorem beginTick_of_none (h : r.session.collector = none) : r.beginTick = r := by
  rw [beginTick, h]

/-! ### What is left at a tick -/

/-- The collector was started in a session, and there have been so many ticks since. -/
structure Collecting (s : CacheSession V) (interval k : Nat) (r : SweptSession V) : Prop where
  collector : r.session.collector = some ⟨interval, s.now + (k + 1) * interval⟩
  late : s.now + k * interval ≤ r.session.now
  due : r.session.now ≤ s.now + (k + 1) * interval
  ttl : r.session.cache.ttl = s.cache.ttl
  /-- No entry had expired at a tick before the last one. -/
  earlier : ∀ key entry, r.session.cache.find? key = some entry → ∀ j, 0 < j → j < k →
    s.cache.isFresh (s.now + j * interval) entry = true
  /-- The sweep of the last tick is under way, or over. -/
  swept : k = 0 ∧ r.batches = [] ∨
    0 < k ∧ ∃ t, t.now = s.now + k * interval ∧ t.cache.ttl = s.cache.ttl ∧ r.IsFrom t

theorem collectEvery_collecting (s : CacheSession V) (hinterval : 0 < interval) :
    Collecting s interval 0 (s.collectEvery interval) := by
  rw [CacheSession.collectEvery, s.startCollector_of_pos hinterval]
  refine ⟨?_, ?_, ?_, rfl, ?_, Or.inl ⟨rfl, rfl⟩⟩
  · simp
  · simp
  · simp
  · intro key entry _ j _ hj
    exact absurd hj (Nat.not_lt_zero j)

/-- Once the sweep is over, nothing is left that had expired at the last tick. -/
theorem Collecting.isFresh (h : Collecting s interval k r) (hbatches : r.batches = [])
    {key : String} {entry : CacheEntry V} (hentry : r.session.cache.find? key = some entry)
    {j : Nat} (hj : 0 < j) (hle : j ≤ k) :
    s.cache.isFresh (s.now + j * interval) entry = true := by
  rcases Nat.lt_or_eq_of_le hle with hlt | rfl
  · exact h.earlier key entry hentry j hj hlt
  · rcases h.swept with ⟨hzero, -⟩ | ⟨-, t, hnow, httl, hfrom⟩
    · exact absurd hzero (Nat.ne_of_gt hj)
    · rw [← hnow, ← Cache.isFresh_congr httl]
      by_contra hexpired
      obtain ⟨keys, hmem, -⟩ :=
        hfrom.pending key entry hentry (Bool.eq_false_iff.mpr hexpired)
      rw [hbatches] at hmem
      cases hmem

/-- What the collector has no part in. -/
theorem Collecting.goesOn (h : Collecting s interval k r) (httl : 0 < s.cache.ttl)
    {session : CacheSession V} (hon : r.session.GoesOn session)
    (hcollector : session.collector = r.session.collector)
    (hdue : session.now ≤ s.now + (k + 1) * interval) :
    Collecting s interval k { r with session } := by
  refine ⟨hcollector.trans h.collector, Nat.le_trans h.late hon.now, hdue, hon.ttl.trans h.ttl,
    ?_, ?_⟩
  · intro key entry hentry j hj hlt
    rcases hon.entry key entry hentry with hold | hnew
    · exact h.earlier key entry hold j hj hlt
    · have hinstant : j * interval ≤ k * interval :=
        Nat.mul_le_mul_right interval (Nat.le_of_lt hlt)
      have hlate := h.late
      exact Cache.isFresh_of_written httl (by omega)
  · rcases h.swept with hnone | ⟨hpos, t, hnow, httl', hfrom⟩
    · exact Or.inl hnone
    · exact Or.inr ⟨hpos, t, hnow, httl', hfrom.goesOn (httl'.symm ▸ httl) hon⟩

theorem Collecting.beginTick (h : Collecting s interval k r) (hbatches : r.batches = []) :
    Collecting s interval (k + 1) r.beginTick ∧
      r.beginTick.started = s.now + (k + 1) * interval ∧
      r.beginTick.session.cache = r.session.cache := by
  simp only [SweptSession.beginTick, h.collector]
  refine ⟨⟨?_, Nat.le_refl _, ?_, h.ttl, ?_, ?_⟩, rfl, rfl⟩
  · simp only [CacheSession.beginSweep, Nat.succ_mul, Nat.add_assoc]
  · simp only [CacheSession.beginSweep, Nat.succ_mul]
    omega
  · intro key entry hentry j hj hlt
    exact h.isFresh hbatches hentry hj (Nat.le_of_lt_succ hlt)
  · let ticking : CacheSession V := { r.session with
      now := s.now + (k + 1) * interval
      collector := some ⟨interval, s.now + (k + 1) * interval + interval⟩ }
    exact Or.inr ⟨Nat.succ_pos k, ticking, rfl, h.ttl, beginSweep_isFrom ticking⟩

theorem Collecting.collectBatch (h : Collecting s interval k r) (httl : 0 < s.cache.ttl) :
    Collecting s interval k r.collectBatch := by
  obtain ⟨hpruned, hnow, hcollector, -⟩ := r.nextBatch_frame
  have hnext : Collecting s interval k r.nextBatch := by
    refine ⟨hcollector.trans h.collector, hnow ▸ h.late, hnow ▸ h.due,
      hpruned.ttl.trans h.ttl, ?_, ?_⟩
    · intro key entry hentry
      exact h.earlier key entry (hpruned.within.entry key entry hentry)
    · rcases h.swept with ⟨hzero, hbatches⟩ | ⟨hpos, t, htnow, htttl, hfrom⟩
      · rw [nextBatch_of_nil hbatches]
        exact Or.inl ⟨hzero, hbatches⟩
      · exact Or.inr ⟨hpos, t, htnow, htttl, hfrom.batch⟩
  obtain ⟨notices, heq⟩ := r.collectBatch_eq
  rw [heq]
  exact hnext.goesOn httl (.of_pruned (Nat.le_refl _) (.refl _)) rfl hnext.due

theorem Collecting.wait (h : Collecting s interval k r) (httl : 0 < s.cache.ttl) {ms : Nat}
    (hpermits : r.Permits (.wait ms)) : Collecting s interval k (r.runMove (.wait ms)) :=
  h.goesOn httl (.of_pruned (Nat.le_add_right _ _) (.refl _)) rfl
    (hpermits _ h.collector)

theorem Collecting.event (h : Collecting s interval k r) (httl : 0 < s.cache.ttl)
    {event : CacheEvent V} (hpermits : r.Permits (.event event)) :
    Collecting s interval k (r.runMove (.event event)) := by
  have hdue : (r.session.apply event).2.now ≤ s.now + (k + 1) * interval := by
    rw [CacheSession.apply_now, CacheEvent.duration_of_isOperation hpermits]
    exact h.due
  exact h.goesOn httl (r.session.apply_goesOn event)
    (r.session.apply_collector hpermits) hdue

theorem Collecting.otherBatch (h : Collecting s interval k r) (httl : 0 < s.cache.ttl)
    (age : Nat) (keys : List String) :
    Collecting s interval k (r.runMove (.otherBatch age keys)) := by
  have hpruned := Cache.sweepBatch_pruned (r.session.now - age) (r.session.cache, 0) keys
  exact h.goesOn httl (.of_pruned (Nat.le_refl _) hpruned) rfl h.due

/-- A tick comes exactly one interval after the one before it. -/
theorem Collecting.runMove (h : Collecting s interval k r) (httl : 0 < s.cache.ttl)
    {move : CollectorMove V} (hpermits : r.Permits move) :
    ∃ n, r.tickInstant move = (List.range' (k + 1) n).map (fun j => s.now + j * interval) ∧
      Collecting s interval (k + n) (r.runMove move) := by
  cases move with
  | tick =>
    obtain ⟨hcollecting, hstarted, -⟩ := h.beginTick hpermits
    exact ⟨1, congrArg (fun instant => [instant]) hstarted, hcollecting⟩
  | batch => exact ⟨0, rfl, h.collectBatch httl⟩
  | wait ms => exact ⟨0, rfl, h.wait httl hpermits⟩
  | event event => exact ⟨0, rfl, h.event httl hpermits⟩
  | otherBatch age keys => exact ⟨0, rfl, h.otherBatch httl age keys⟩

theorem Collecting.runMoves (h : Collecting s interval k r) (httl : 0 < s.cache.ttl)
    {moves : List (CollectorMove V)} (htimely : r.Timely moves) :
    ∃ n, r.tickInstants moves = (List.range' (k + 1) n).map (fun j => s.now + j * interval) ∧
      Collecting s interval (k + n) (r.runMoves moves) := by
  induction moves generalizing r k with
  | nil => exact ⟨0, rfl, h⟩
  | cons move rest ih =>
    obtain ⟨hpermits, hrest⟩ := htimely
    obtain ⟨n, hinstant, hnext⟩ := h.runMove httl hpermits
    obtain ⟨m, hinstants, hlast⟩ := ih hnext hrest
    refine ⟨n + m, ?_, ?_⟩
    · rw [tickInstants, hinstant, hinstants, ← List.map_append, Nat.add_right_comm,
        List.range'_append_1]
    · rw [← Nat.add_assoc]
      exact hlast

/-! ### How long an entry stays -/

theorem collectBatch_cache (r : SweptSession V) :
    r.collectBatch.session.cache = r.nextBatch.session.cache := by
  obtain ⟨notices, h⟩ := r.collectBatch_eq
  rw [h, CacheSession.note_cache]

/-- What a batch of the collector takes away had expired at the last tick. -/
theorem Collecting.of_taken (h : Collecting s interval k r) {key : String}
    {entry : CacheEntry V} (hentry : r.session.cache.find? key = some entry)
    (hgone : r.collectBatch.session.cache.find? key ≠ some entry) :
    0 < k ∧ r.batches ≠ [] ∧ r.started = s.now + k * interval ∧
      s.cache.isFresh r.started entry = false := by
  have hbatches : r.batches ≠ [] := by
    intro hnil
    rw [collectBatch_of_nil hnil] at hgone
    exact hgone hentry
  rcases h.swept with ⟨-, hnil⟩ | ⟨hpos, t, hnow, httl, hfrom⟩
  · exact absurd hnil hbatches
  · refine ⟨hpos, hbatches, hfrom.started.trans hnow, ?_⟩
    rw [hfrom.started, ← Cache.isFresh_congr httl]
    apply Bool.eq_false_iff.mpr
    intro hfresh
    rw [collectBatch_cache] at hgone
    exact hgone (hfrom.find?_nextBatch hentry hfresh)

/-- So the last tick is the first one at which it had expired. -/
theorem Collecting.of_taken_ticks (h : Collecting s interval k r) {key : String}
    {entry : CacheEntry V} (hentry : r.session.cache.find? key = some entry)
    (hgone : r.collectBatch.session.cache.find? key ≠ some entry) :
    ∃ earlier last,
      (List.range' 1 k).map (fun j => s.now + j * interval) = earlier ++ [last] ∧
        s.cache.isFresh last entry = false ∧
        ∀ instant ∈ earlier, s.cache.isFresh instant entry = true := by
  obtain ⟨hpos, -, hstarted, hexpired⟩ := h.of_taken hentry hgone
  cases k with
  | zero => exact absurd hpos (Nat.lt_irrefl 0)
  | succ k =>
    refine ⟨(List.range' 1 k).map fun j => s.now + j * interval, s.now + (k + 1) * interval,
      ?_, hstarted ▸ hexpired, ?_⟩
    · rw [List.range'_1_concat, List.map_append, List.map_singleton, Nat.add_comm 1 k]
    · intro instant hmem
      obtain ⟨j, hj, rfl⟩ := List.mem_map.mp hmem
      obtain ⟨hfirst, hlater⟩ := List.mem_range'_1.mp hj
      exact h.earlier key entry hentry j (by omega) (by omega)

/-- A move of the collector leaves what is under a key or, if it had expired, takes it away. -/
theorem Collecting.find?_runMove (h : Collecting s interval k r) {key : String}
    {move : CollectorMove V} (hpermits : r.Permits move)
    (halone : move.isCollectors = false →
      (r.runMove move).session.cache.find? key = r.session.cache.find? key) :
    (r.runMove move).session.cache.find? key = r.session.cache.find? key ∨
      (r.runMove move).session.cache.find? key = none ∧
        ∀ entry, r.session.cache.find? key = some entry →
          r.batches ≠ [] ∧ s.cache.isFresh r.started entry = false := by
  cases move with
  | tick =>
    obtain ⟨-, -, hcache⟩ := h.beginTick hpermits
    exact Or.inl (congrArg (·.find? key) hcache)
  | batch =>
    have hwithin := r.nextBatch_frame.1.within
    rw [← collectBatch_cache] at hwithin
    cases hnext : r.collectBatch.session.cache.find? key with
    | some entry =>
      exact Or.inl (hnext.trans (hwithin.entry key entry hnext).symm)
    | none =>
      refine Or.inr ⟨hnext, ?_⟩
      intro entry hentry
      obtain ⟨-, hbatches, -, hexpired⟩ :=
        h.of_taken hentry (by rw [hnext]; exact Option.some_ne_none entry ∘ Eq.symm)
      exact ⟨hbatches, hexpired⟩
  | wait | event | otherBatch => exact Or.inl (halone rfl)

/-- A sweep is under way because it has just started, or because it has been so before. -/
theorem started_runMove (r : SweptSession V) {move : CollectorMove V}
    (hbatches : (r.runMove move).batches ≠ []) :
    (r.runMove move).started ∈ r.tickInstant move ∨
      r.batches ≠ [] ∧ (r.runMove move).started = r.started := by
  cases move with
  | tick => exact Or.inl (List.mem_singleton.mpr rfl)
  | batch =>
    refine Or.inr ⟨?_, ?_⟩
    · intro hnil
      exact hbatches ((congrArg batches (collectBatch_of_nil hnil)).trans hnil)
    · obtain ⟨notices, heq⟩ := r.collectBatch_eq
      exact (congrArg started heq).trans r.nextBatch_frame.2.2.2
  | wait | event | otherBatch => exact Or.inr ⟨hbatches, rfl⟩

/-- What nothing but the collector changes is left or, once it had expired at a tick, taken away.
    The tick may be the one whose sweep is under way. -/
theorem Collecting.find?_runMoves (h : Collecting s interval k r) (httl : 0 < s.cache.ttl)
    {moves : List (CollectorMove V)} (htimely : r.Timely moves) {key : String}
    (halone : r.LeavesAlone key moves) :
    (r.runMoves moves).session.cache.find? key = r.session.cache.find? key ∨
      (r.runMoves moves).session.cache.find? key = none ∧
        ∀ entry, r.session.cache.find? key = some entry →
          (r.batches ≠ [] ∧ s.cache.isFresh r.started entry = false) ∨
            ∃ instant ∈ r.tickInstants moves, s.cache.isFresh instant entry = false := by
  induction moves generalizing r k with
  | nil => exact Or.inl rfl
  | cons move rest ih =>
    obtain ⟨hpermits, hrest⟩ := htimely
    obtain ⟨hleft, hlater⟩ := halone
    obtain ⟨n, -, hnext⟩ := h.runMove httl hpermits
    have hfirst := h.find?_runMove hpermits hleft
    rcases ih hnext hrest hlater with hkept | ⟨hgone, hexpired⟩
    · rcases hfirst with hsame | ⟨hnone, htaken⟩
      · exact Or.inl (hkept.trans hsame)
      · exact Or.inr ⟨hkept.trans hnone, fun entry hentry => Or.inl (htaken entry hentry)⟩
    · refine Or.inr ⟨hgone, ?_⟩
      intro entry hentry
      rcases hfirst with hsame | ⟨-, htaken⟩
      · rcases hexpired entry (hsame.trans hentry) with
          ⟨hbatches, hnow⟩ | ⟨instant, hmem, hthen⟩
        · rcases r.started_runMove hbatches with hmem | ⟨hbefore, hstarted⟩
          · exact Or.inr ⟨_, List.mem_append_left _ hmem, hnow⟩
          · rw [hstarted] at hnow
            exact Or.inl ⟨hbefore, hnow⟩
        · exact Or.inr ⟨instant, List.mem_append_right _ hmem, hthen⟩
      · exact Or.inl (htaken entry hentry)

/-- An entry that has expired at a tick and has been left alone since is gone by the end of the
    sweep; until then it stays. -/
theorem Collecting.find?_of_leavesAlone (h : Collecting s interval k r) (httl : 0 < s.cache.ttl)
    (hbatches : r.batches = []) {moves : List (CollectorMove V)} (htimely : r.Timely moves)
    (hover : (r.runMoves moves).batches = []) {key : String} {entry : CacheEntry V}
    (hentry : r.session.cache.find? key = some entry) (halone : r.LeavesAlone key moves) :
    ((∀ instant ∈ r.tickInstants moves, s.cache.isFresh instant entry = true) →
      (r.runMoves moves).session.cache.find? key = some entry) ∧
    ((∃ instant ∈ r.tickInstants moves, s.cache.isFresh instant entry = false) →
      (r.runMoves moves).session.cache.find? key = none) := by
  obtain ⟨n, hinstants, hlast⟩ := h.runMoves httl htimely
  have hfate := h.find?_runMoves httl htimely halone
  constructor
  · intro hlasts
    rcases hfate with hkept | ⟨-, hexpired⟩
    · exact hkept.trans hentry
    · rcases hexpired entry hentry with ⟨hpending, -⟩ | ⟨instant, hmem, hnow⟩
      · exact absurd hbatches hpending
      · rw [hlasts instant hmem] at hnow
        cases hnow
  · rintro ⟨instant, hmem, hexpired⟩
    rcases hfate with hkept | ⟨hgone, -⟩
    · rw [hinstants] at hmem
      obtain ⟨j, hj, rfl⟩ := List.mem_map.mp hmem
      obtain ⟨hfirst, hlater⟩ := List.mem_range'_1.mp hj
      rw [hlast.isFresh hover (hkept.trans hentry) (by omega) (by omega)] at hexpired
      cases hexpired
    · exact hgone

/-! ### Without a collector -/

/-- Between two ticks everything goes on as it would if no collector ran. -/
theorem runMoves_withCollector {moves : List (CollectorMove V)} (hticks : .tick ∉ moves)
    (hbatches : r.batches = []) (htimely : r.Timely moves) (collector : Option Collector) :
    (r.withCollector collector).runMoves moves = (r.runMoves moves).withCollector collector := by
  induction moves generalizing r with
  | nil => rfl
  | cons move rest ih =>
    obtain ⟨hpermits, hrest⟩ := htimely
    rw [List.mem_cons, not_or] at hticks
    have hstep : (r.withCollector collector).runMove move =
          (r.runMove move).withCollector collector ∧ (r.runMove move).batches = [] := by
      cases move with
      | tick => exact absurd rfl hticks.1
      | batch =>
        have hbatch : r.runMove .batch = r := collectBatch_of_nil hbatches
        rw [hbatch]
        exact ⟨collectBatch_of_nil hbatches, hbatches⟩
      | event event =>
        have hevent := r.session.apply_withCollector collector hpermits
        exact ⟨congrArg (fun session => { r with session }) hevent, hbatches⟩
      | wait | otherBatch => exact ⟨rfl, hbatches⟩
    have hlater := ih hticks.2 hstep.2 hrest
    rw [runMoves, List.foldl_cons, hstep.1]
    exact hlater

/-- A collector that is not there does nothing, and it does not come back unless it is started. -/
theorem rests_of_none (hcollector : r.session.collector = none) (hbatches : r.batches = []) :
    r.Rests := by
  intro moves hstarts
  have hleft : (r.runMoves moves).session.collector = none ∧ (r.runMoves moves).batches = [] := by
    induction moves generalizing r with
    | nil => exact ⟨hcollector, hbatches⟩
    | cons move rest ih =>
      have hrest (interval : Nat) : .event (.startCollector interval) ∉ rest :=
        fun hmem => hstarts interval (List.mem_cons_of_mem _ hmem)
      cases move with
      | tick =>
        have htick : r.runMove .tick = r := beginTick_of_none hcollector
        exact ih (htick.symm ▸ hcollector) (htick.symm ▸ hbatches) hrest
      | batch =>
        have hbatch : r.runMove .batch = r := collectBatch_of_nil hbatches
        exact ih (hbatch.symm ▸ hcollector) (hbatch.symm ▸ hbatches) hrest
      | wait | otherBatch => exact ih hcollector hbatches hrest
      | event event =>
        refine ih (CacheSession.apply_collector_of_none hcollector ?_) hbatches hrest
        rintro interval rfl
        exact hstarts interval List.mem_cons_self
  refine ⟨beginTick_of_none hleft.1, collectBatch_of_nil hleft.2, ?_⟩
  intro instant
  rw [CacheSession.advanceTo_of_none hleft.1]

end SweptSession

/-! ### Runs of events -/

namespace CacheSession

variable {s : CacheSession V}

theorem ticksUntil_tick {collector : Collector} (hcollector : s.collector = some collector)
    (hinterval : 0 < collector.interval) {instant : Nat} (hle : collector.nextTick ≤ instant) :
    s.ticksUntil instant = s.tick.ticksUntil instant + 1 := by
  simp only [ticksUntil, tick, hcollector, note_collector, if_pos hle]
  by_cases hagain : collector.nextTick + collector.interval ≤ instant
  · have hmore : collector.interval ≤ instant - collector.nextTick := by omega
    rw [if_pos hagain, Nat.div_eq_sub_div hinterval hmore, Nat.sub_sub]
  · have hless : instant - collector.nextTick < collector.interval := by omega
    rw [if_neg hagain, Nat.div_eq_of_lt hless]

/-- Time that goes on until an instant comes to the next tick first, if that is not later. -/
theorem advanceTo_tick {collector : Collector} (hcollector : s.collector = some collector)
    (hinterval : 0 < collector.interval) {instant : Nat} (hnow : s.now ≤ instant)
    (hle : collector.nextTick ≤ instant) : s.advanceTo instant = s.tick.advanceTo instant := by
  have htick : s.tick.now = collector.nextTick := by rw [tick, hcollector]; rfl
  rw [advanceTo, advanceTo, ticksUntil_tick hcollector hinterval hle, ticks, htick,
    Nat.max_eq_right hnow, Nat.max_eq_right hle]

end CacheSession

namespace SweptSession

variable {r : SweptSession V} {s : CacheSession V} {interval : Nat} {collector : Collector}

/-- With nothing between its batches, a sweep of the collector is over at once. -/
theorem runMoves_replicate_batch (hbatches : r.batches ≠ []) :
    let swept := r.batches.foldl (Cache.sweepBatch r.started) (r.session.cache, r.removed)
    r.runMoves (List.replicate r.batches.length .batch) =
      ⟨{ r.session with cache := swept.1 }.note
          (if swept.2 = 0 then [] else [.collected swept.2]), r.started, [], swept.2⟩ := by
  obtain ⟨session, started, batches, removed⟩ := r
  induction batches generalizing session removed with
  | nil => exact absurd rfl hbatches
  | cons keys rest ih =>
    cases rest with
    | nil =>
      change collectBatch ⟨session, started, [keys], removed⟩ = _
      rw [collectBatch, nextBatch_of_cons rfl]
      by_cases hnone : (Cache.sweepBatch started (session.cache, removed) keys).2 = 0
      · simp [hnone, CacheSession.note]
      · simp [hnone]
    | cons others rest =>
      have hfirst : collectBatch ⟨session, started, keys :: others :: rest, removed⟩ =
          nextBatch ⟨session, started, keys :: others :: rest, removed⟩ := if_neg (by simp)
      rw [List.length_cons, List.replicate_succ, runMoves, List.foldl_cons]
      change runMoves (collectBatch _) _ = _
      rw [hfirst]
      exact ih _ _ (List.cons_ne_nil others rest)

theorem timely_replicate_batch (n : Nat) (r : SweptSession V) :
    r.Timely (List.replicate n .batch) := by
  induction n generalizing r with
  | zero => exact trivial
  | succ n ih => exact ⟨trivial, ih (r.runMove .batch)⟩

/-- A collector runs, and no sweep of it is under way. -/
structure Waits (r : SweptSession V) (collector : Collector) : Prop where
  runs : r.session.collector = some collector
  interval : 0 < collector.interval
  batches : r.batches = []

/-- A tick is one of its sweeps, from the first batch to the last. -/
theorem Waits.exists_tick (h : r.Waits collector) :
    ∃ moves, r.Timely moves ∧ (r.runMoves moves).session = r.session.tick ∧
      (r.runMoves moves).Waits
        { collector with nextTick := collector.nextTick + collector.interval } := by
  have hbegun : r.beginTick = CacheSession.beginSweep { r.session with
      now := collector.nextTick
      collector := some
        { collector with nextTick := collector.nextTick + collector.interval } } := by
    rw [beginTick, h.runs]
  have hbatches : r.beginTick.batches ≠ [] := by
    obtain ⟨first, rest, hchunks, -⟩ := exists_chunksFrom_eq (show 0 < Cache.batchSize by decide)
      Cache.batchSize (r.session.cache.expiredKeys collector.nextTick)
    rw [hbegun]
    exact fun hnil => List.cons_ne_nil first rest (hchunks.symm.trans hnil)
  have hover := runMoves_replicate_batch hbatches
  have htick : (r.runMoves (.tick :: List.replicate r.beginTick.batches.length .batch)).session =
      r.session.tick := by
    rw [runMoves, List.foldl_cons]
    refine (congrArg SweptSession.session hover).trans ?_
    rw [hbegun, CacheSession.tick, h.runs]
    rfl
  refine ⟨.tick :: List.replicate r.beginTick.batches.length .batch,
    ⟨h.batches, timely_replicate_batch _ _⟩, htick, ?_, h.interval,
    congrArg SweptSession.batches hover⟩
  rw [htick, CacheSession.tick, h.runs]
  rfl

/-- However long time goes on, it comes from one tick to the next. -/
theorem Waits.exists_advanceTo (h : r.Waits collector) {instant : Nat}
    (hnow : r.session.now ≤ instant) :
    ∃ moves later, r.Timely moves ∧ (r.runMoves moves).session = r.session.advanceTo instant ∧
      (r.runMoves moves).Waits later := by
  generalize hn : r.session.ticksUntil instant = n
  induction n generalizing r collector with
  | zero =>
    have hbefore : ¬ collector.nextTick ≤ instant := by
      intro hle
      rw [CacheSession.ticksUntil_tick h.runs h.interval hle] at hn
      exact Nat.succ_ne_zero _ hn
    refine ⟨[.wait (instant - r.session.now)], collector, ⟨?_, trivial⟩, ?_, h.runs,
      h.interval, h.batches⟩
    · intro next hnext
      cases h.runs.symm.trans hnext
      omega
    · rw [CacheSession.advanceTo_of_ticksUntil hn, Nat.max_eq_right hnow]
      simp only [runMoves, runMove, List.foldl_cons, List.foldl_nil, Nat.add_sub_cancel' hnow]
  | succ n ih =>
    have hle : collector.nextTick ≤ instant := by
      by_contra hbefore
      simp [CacheSession.ticksUntil, h.runs, if_neg hbefore] at hn
    obtain ⟨moves, htimely, htick, hwaits⟩ := h.exists_tick
    have hticks := CacheSession.ticksUntil_tick h.runs h.interval hle
    have htnow : r.session.tick.now = collector.nextTick := by
      rw [CacheSession.tick, h.runs]
      rfl
    obtain ⟨more, later, hmore, hlast, hlater⟩ := ih hwaits (by rw [htick, htnow]; exact hle)
      (by rw [htick]; omega)
    refine ⟨moves ++ more, later, timely_append.mpr ⟨htimely, hmore⟩, ?_, ?_⟩
    · rw [runMoves_append, hlast, htick,
        CacheSession.advanceTo_tick h.runs h.interval hnow hle]
    · rw [runMoves_append]
      exact hlater

/-- Every run of events with a collector is a timely run of moves, if it is neither stopped nor
    started again. -/
theorem Waits.exists_run (h : r.Waits collector) {events : List (CacheEvent V)}
    (hevents : ∀ event ∈ events, event.isOperation = true ∨ ∃ ms, event = .advance ms) :
    ∃ moves, r.Timely moves ∧ (r.runMoves moves).session = (r.session.run events).2 ∧
      (r.runMoves moves).batches = [] := by
  induction events generalizing r collector with
  | nil => exact ⟨[], trivial, rfl, h.batches⟩
  | cons event rest ih =>
    obtain ⟨hevent, hrest⟩ := List.forall_mem_cons.mp hevents
    have hfirst : ∃ moves later, r.Timely moves ∧
        (r.runMoves moves).session = (r.session.apply event).2 ∧
        (r.runMoves moves).Waits later := by
      rcases hevent with hoperation | ⟨ms, rfl⟩
      · exact ⟨[.event event], collector, ⟨hoperation, trivial⟩, rfl,
          (r.session.apply_collector hoperation).trans h.runs, h.interval, h.batches⟩
      · exact h.exists_advanceTo (Nat.le_add_right r.session.now ms)
    obtain ⟨moves, later, htimely, hsession, hwaits⟩ := hfirst
    obtain ⟨more, hmore, hlast, hbatches⟩ := ih hwaits hrest
    refine ⟨moves ++ more, timely_append.mpr ⟨htimely, hmore⟩, ?_, ?_⟩
    · rw [runMoves_append, hlast, hsession]
      rfl
    · rw [runMoves_append]
      exact hbatches

/-- The ticks of a collector come at regular instants from its start on. -/
theorem collectEvery_runMoves (httl : 0 < s.cache.ttl) (hinterval : 0 < interval)
    {moves : List (CollectorMove V)} (htimely : (s.collectEvery interval).Timely moves) :
    (s.collectEvery interval).tickInstants moves =
      (List.range' 1 ((s.collectEvery interval).tickInstants moves).length).map
        (fun j => s.now + j * interval) ∧
    Collecting s interval ((s.collectEvery interval).tickInstants moves).length
      ((s.collectEvery interval).runMoves moves) := by
  obtain ⟨n, hinstants, hcollecting⟩ :=
    (collectEvery_collecting s hinterval).runMoves httl htimely
  rw [Nat.zero_add] at hinstants hcollecting
  have hlength : ((s.collectEvery interval).tickInstants moves).length = n := by
    rw [hinstants, List.length_map, List.length_range']
  rw [hlength]
  exact ⟨hinstants, hcollecting⟩

end SweptSession

/-- **A collector takes away what has expired at its ticks, and nothing else.**

* When it starts nothing goes.  With no interval it does not run, and nothing goes later either.
  What follows holds with an interval, if entries last at all.
* It ticks after every interval, the first time one interval after its start; no run is timely
  that leaves a tick out.
* When the sweep of a tick is over, no entry is left that had expired at the tick.  What a batch of
  the sweep takes away had expired at that tick, and not at any before it.
* So an entry that nothing else writes, deletes or sweeps away goes at the first tick at which it
  has expired, and stays until then.
* Between the sweeps everything goes on as it would without a collector.  Once it is stopped it
  does nothing any more.
* All that events do while it runs is among these runs. -/
theorem CacheSession.collector_ticks (s : CacheSession V) (interval : Nat) :
    let begun := s.collectEvery interval
    let lasts (entry : CacheEntry V) (instant : Nat) : Prop :=
      instant < entry.written + s.cache.ttl ∨ Cache.horizon ≤ entry.written + s.cache.ttl
    begun.session.cache = s.cache ∧
    (interval = 0 → begun.Rests) ∧
    (0 < interval → 0 < s.cache.ttl →
      (∀ moves : List (CollectorMove V), begun.Timely moves →
        let r := begun.runMoves moves
        let ticks := begun.tickInstants moves
        (ticks = (List.range' 1 ticks.length).map (fun k => s.now + k * interval) ∧
          s.now + ticks.length * interval ≤ r.session.now ∧
          r.session.now ≤ s.now + (ticks.length + 1) * interval) ∧
        (∀ key entry, r.session.cache.find? key = some entry →
          (r.runMove .batch).session.cache.find? key ≠ some entry →
          ∃ earlier last, ticks = earlier ++ [last] ∧ ¬ lasts entry last ∧
            ∀ instant ∈ earlier, lasts entry instant) ∧
        (r.batches = [] →
          (∀ last, ticks.getLast? = some last → ∀ key entry,
            r.session.cache.find? key = some entry → lasts entry last) ∧
          (∀ later, r.Timely later → (r.runMoves later).batches = [] → ∀ key entry,
            r.session.cache.find? key = some entry → r.LeavesAlone key later →
            ((∀ instant ∈ r.tickInstants later, lasts entry instant) →
              (r.runMoves later).session.cache.find? key = some entry) ∧
            ((∃ instant ∈ r.tickInstants later, ¬ lasts entry instant) →
              (r.runMoves later).session.cache.find? key = none)) ∧
          (∀ between, .tick ∉ between → r.Timely between →
            (r.withCollector none).runMoves between =
              (r.runMoves between).withCollector none) ∧
          r.session.stopCollector.cache = r.session.cache ∧
          SweptSession.Rests { r with session := r.session.stopCollector })) ∧
      (∀ events : List (CacheEvent V),
        (∀ event ∈ events, event.isOperation = true ∨ ∃ ms, event = .advance ms) →
        ∃ moves, begun.Timely moves ∧ (begun.runMoves moves).batches = [] ∧
          (begun.runMoves moves).session = ((s.startCollector interval).run events).2)) := by
  intro begun lasts
  have hlasts (entry : CacheEntry V) (instant : Nat) :
      s.cache.isFresh instant entry = true ↔ lasts entry instant :=
    s.cache.isFresh_iff instant entry
  have hlasts' (entry : CacheEntry V) (instant : Nat) :
      s.cache.isFresh instant entry = false ↔ ¬ lasts entry instant := by
    rw [← hlasts, Bool.not_eq_true]
  refine ⟨s.startCollector_cache interval, ?_, ?_⟩
  · rintro rfl
    exact SweptSession.rests_of_none rfl rfl
  intro hinterval httl
  constructor
  · intro moves htimely r ticks
    obtain ⟨hticks, hcollecting⟩ :
        ticks = (List.range' 1 ticks.length).map (fun k => s.now + k * interval) ∧
          SweptSession.Collecting s interval ticks.length r :=
      SweptSession.collectEvery_runMoves httl hinterval htimely
    refine ⟨⟨hticks, hcollecting.late, hcollecting.due⟩, ?_, ?_⟩
    · intro key entry hentry hgone
      obtain ⟨earlier, last, hsplit, hexpired, hbefore⟩ :=
        hcollecting.of_taken_ticks hentry hgone
      refine ⟨earlier, last, hticks.trans hsplit, (hlasts' entry last).mp hexpired, ?_⟩
      intro instant hmem
      exact (hlasts entry instant).mp (hbefore instant hmem)
    · intro hbatches
      refine ⟨?_, ?_, ?_, ?_, ?_⟩
      · intro last hlast key entry hentry
        have hmem := List.mem_of_getLast? hlast
        rw [hticks] at hmem
        obtain ⟨j, hj, rfl⟩ := List.mem_map.mp hmem
        obtain ⟨hfirst, hlater⟩ := List.mem_range'_1.mp hj
        exact (hlasts _ _).mp (hcollecting.isFresh hbatches hentry (by omega) (by omega))
      · intro later hlater hover key entry hentry halone
        obtain ⟨hstays, hgoes⟩ :=
          hcollecting.find?_of_leavesAlone httl hbatches hlater hover hentry halone
        constructor
        · intro hall
          exact hstays fun instant hmem => (hlasts entry instant).mpr (hall instant hmem)
        · rintro ⟨instant, hmem, hexpired⟩
          exact hgoes ⟨instant, hmem, (hlasts' entry instant).mpr hexpired⟩
      · intro between hbetween htimely'
        exact SweptSession.runMoves_withCollector hbetween hbatches htimely' none
      · exact r.session.stopCollector_cache
      · exact SweptSession.rests_of_none r.session.stopCollector_collector hbatches
  · intro events hevents
    have hwaits : begun.Waits ⟨interval, s.now + interval⟩ :=
      ⟨congrArg CacheSession.collector (s.startCollector_of_pos hinterval), hinterval, rfl⟩
    obtain ⟨moves, htimely, hsession, hbatches⟩ := hwaits.exists_run hevents
    exact ⟨moves, htimely, hbatches, hsession⟩

namespace CacheSession

/-- At instant 5 there is an entry that expires at 12, the first tick of a collector with an
    interval of 7. -/
def agedSession : CacheSession String :=
  ⟨5, (Cache.empty 10).write 2 "nginx" "1.25", none, [], 0, []⟩

/-- One entry is written before the first tick, and another one while its sweep is under way. -/
def agedMoves : List (CollectorMove String) :=
  [.wait 3, .event (.update "redis" "7.2"), .tick, .event (.update "etcd" "3.5"), .batch, .wait 6,
    .otherBatch 2 ["redis"], .tick, .batch]

theorem collector_ticks_agedSession :
    0 < agedSession.cache.ttl ∧ 0 < 7 ∧
      (agedSession.collectEvery 7).Timely agedMoves ∧
      (agedSession.collectEvery 7).LeavesAlone "nginx" agedMoves ∧
      (agedSession.collectEvery 7).tickInstants agedMoves = [12, 19] ∧
      ((agedSession.collectEvery 7).runMoves agedMoves).session.cache.find? "nginx" = none ∧
      (∀ key entry,
        ((agedSession.collectEvery 7).runMoves agedMoves).session.cache.find? key = some entry →
        19 < entry.written + agedSession.cache.ttl ∨
          Cache.horizon ≤ entry.written + agedSession.cache.ttl) ∧
      ((agedSession.collectEvery 7).runMoves agedMoves).session.cache.entries =
        [("etcd", ⟨"3.5", 12⟩)] := by
  have httl : 0 < agedSession.cache.ttl := by decide
  have htimely : (agedSession.collectEvery 7).Timely agedMoves := by decide +kernel
  have halone : (agedSession.collectEvery 7).LeavesAlone "nginx" agedMoves := by decide +kernel
  have hinstants : (agedSession.collectEvery 7).tickInstants agedMoves = [12, 19] := by
    decide +kernel
  have hover : ((agedSession.collectEvery 7).runMoves agedMoves).batches = [] := by
    decide +kernel
  obtain ⟨-, -, hruns⟩ := collector_ticks agedSession 7
  obtain ⟨hmoves, -⟩ := hruns (by decide) httl
  obtain ⟨-, -, hbegun⟩ := hmoves [] trivial
  obtain ⟨-, hlife, -⟩ := hbegun rfl
  obtain ⟨-, -, hidle⟩ := hmoves agedMoves htimely
  obtain ⟨hlast, -⟩ := hidle hover
  refine ⟨httl, by decide, htimely, halone, hinstants, ?_, ?_, by decide +kernel⟩
  · have hthere : (agedSession.collectEvery 7).session.cache.find? "nginx" = some ⟨"1.25", 2⟩ := by
      decide +kernel
    have hmem : 12 ∈ (agedSession.collectEvery 7).tickInstants agedMoves := by
      rw [hinstants]
      exact List.mem_cons_self
    have hnone : (agedSession.collectEvery 7).runMoves [] = agedSession.collectEvery 7 := rfl
    rw [hnone] at hlife
    exact (hlife agedMoves htimely hover "nginx" _ hthere halone).2 ⟨12, hmem, by decide⟩
  · have hticked : ((agedSession.collectEvery 7).tickInstants agedMoves).getLast? = some 19 := by
      rw [hinstants]
      rfl
    exact hlast 19 hticked

end CacheSession

end ImageFreshness
