import ImageFreshness.Proofs.CacheBackground
import Mathlib.Data.List.Nodup

/-!
# Sweeps in batches

A sweep lists the expired keys at once and then removes them in batches.  If nothing comes between
the batches it removes the expired entries and no others.  If anything does, entries may have been
written again, or be gone, when their batch comes.  Still a batch takes away nothing but entries
that were there when the sweep started and had expired by then, and the sweep counts just those
(`CacheSession.sweep_batches`).

A cache keeps one entry under a key.  So what a batch leaves is told by the entries alone
(`Cache.sweepBatch_entries`), and so is how many it removes.
-/

namespace ImageFreshness

variable {V : Type}

/-- The first piece has no more elements than there is room for, and the others no more than their
    size. -/
theorem exists_chunksFrom_eq {α : Type} {size : Nat} (hsize : 0 < size) (room : Nat)
    (xs : List α) :
    ∃ first rest, chunksFrom size room xs = first :: rest ∧ first.length ≤ room ∧
      ∀ piece ∈ rest, piece.length ≤ size := by
  induction xs generalizing room with
  | nil => exact ⟨[], [], by simp [chunksFrom], Nat.zero_le room, by simp⟩
  | cons x xs ih =>
    cases room with
    | zero =>
      obtain ⟨first, rest, hchunks, hfirst, hrest⟩ := ih (size - 1)
      refine ⟨[], (x :: first) :: rest, ?_, Nat.le_refl 0, List.forall_mem_cons.mpr ⟨?_, hrest⟩⟩
      · simp [chunksFrom, hchunks, chunksFrom.push]
      · rw [List.length_cons]
        omega
    | succ room =>
      obtain ⟨first, rest, hchunks, hfirst, hrest⟩ := ih room
      refine ⟨x :: first, rest, ?_, Nat.succ_le_succ hfirst, hrest⟩
      simp [chunksFrom, hchunks, chunksFrom.push]

namespace Cache

variable {c c' c'' : Cache V} {now : Nat}

theorem length_le_of_mem_sweepBatches (c : Cache V) (now : Nat) {keys : List String}
    (hmem : keys ∈ c.sweepBatches now) : keys.length ≤ 256 := by
  obtain ⟨first, rest, hchunks, hfirst, hrest⟩ :=
    exists_chunksFrom_eq (show 0 < 256 by decide) 256 (c.expiredKeys now)
  change keys ∈ chunksFrom 256 256 (c.expiredKeys now) at hmem
  rw [hchunks] at hmem
  rcases List.mem_cons.mp hmem with rfl | hmem
  · exact hfirst
  · exact hrest keys hmem

/-! ### Caches that are pruned -/

/-- Some entries of the first cache are left in the second, in their order. -/
structure PrunedTo (c c' : Cache V) : Prop where
  ttl : c'.ttl = c.ttl
  entries : c'.entries.Sublist c.entries

theorem PrunedTo.refl (c : Cache V) : c.PrunedTo c := ⟨rfl, .refl c.entries⟩

theorem PrunedTo.trans (h : c.PrunedTo c') (h' : c'.PrunedTo c'') : c.PrunedTo c'' :=
  ⟨h'.ttl.trans h.ttl, h'.entries.trans h.entries⟩

theorem erase_pruned (c : Cache V) (key : String) : c.PrunedTo (c.erase key) :=
  ⟨rfl, List.filter_sublist⟩

theorem removeExpired_pruned (now : Nat) (state : Cache V × Nat) (key : String) :
    state.1.PrunedTo (removeExpired now state key).1 := by
  unfold removeExpired
  split
  · split
    · exact .refl state.1
    · exact state.1.erase_pruned key
  · exact .refl state.1

theorem sweepBatch_pruned (now : Nat) (state : Cache V × Nat) (keys : List String) :
    state.1.PrunedTo (sweepBatch now state keys).1 := by
  induction keys generalizing state with
  | nil => exact .refl state.1
  | cons key keys ih =>
    exact (removeExpired_pruned now state key).trans (ih (removeExpired now state key))

theorem sweep_pruned (c : Cache V) (now : Nat) : c.PrunedTo (c.sweep now).1 := by
  rw [sweep_eq_sweepBatch]
  exact sweepBatch_pruned now (c, 0) (c.expiredKeys now)

/-! ### One entry under a key -/

theorem mem_entries_of_find? {key : String} {entry : CacheEntry V}
    (h : c.find? key = some entry) : (key, entry) ∈ c.entries := by
  obtain ⟨before, after, hentries, -⟩ := List.lookup_eq_some_iff.mp h
  rw [hentries]
  exact List.mem_append_right _ List.mem_cons_self

theorem find?_of_mem {key : String} {entry : CacheEntry V} (hmem : (key, entry) ∈ c.entries) :
    c.find? key = some entry := by
  obtain ⟨before, after, hentries⟩ := List.append_of_mem hmem
  refine List.lookup_eq_some_iff.mpr ⟨before, after, hentries, ?_⟩
  intro pair hpair
  have hkeys := c.keysUnique
  rw [hentries, List.map_append] at hkeys
  have hne : key ≠ pair.1 := by
    rintro rfl
    exact List.disjoint_of_nodup_append hkeys (List.mem_map_of_mem hpair) List.mem_cons_self
  exact bne_iff_ne.mpr hne

theorem PrunedTo.within (h : c.PrunedTo c') : c'.Within c := by
  refine ⟨h.ttl, ?_⟩
  intro key entry hentry
  exact find?_of_mem (h.entries.subset (mem_entries_of_find? hentry))

/-! ### What sweeps leave -/

/-- An entry that has just been written, or is yet to be written, has not expired. -/
theorem isFresh_of_written (httl : 0 < c.ttl) {entry : CacheEntry V} (h : now ≤ entry.written) :
    c.isFresh now entry = true :=
  (c.isFresh_iff now entry).mpr (Or.inl (by omega))

/-- What is left once one key has been gone through. -/
theorem removeExpired_entries (c : Cache V) (now removed : Nat) (key : String) :
    (removeExpired now (c, removed) key).1.entries =
      c.entries.filter fun pair => decide (pair.1 ≠ key) || c.isFresh now pair.2 := by
  have hentry {pair : String × CacheEntry V} (hmem : pair ∈ c.entries) (hkey : pair.1 = key) :
      c.find? key = some pair.2 := hkey ▸ find?_of_mem hmem
  unfold removeExpired
  cases hfind : c.find? key with
  | none =>
    refine (List.filter_eq_self.mpr fun pair hmem => ?_).symm
    have hkey : pair.1 ≠ key := by
      intro hkey
      cases hfind.symm.trans (hentry hmem hkey)
    simp [hkey]
  | some entry =>
    by_cases hfresh : c.isFresh now entry = true
    · simp only [hfresh, if_true]
      refine (List.filter_eq_self.mpr fun pair hmem => ?_).symm
      by_cases hkey : pair.1 = key
      · obtain rfl : entry = pair.2 := Option.some.inj (hfind.symm.trans (hentry hmem hkey))
        simp [hfresh]
      · simp [hkey]
    · simp only [if_neg hfresh, erase]
      refine List.filter_congr fun pair hmem => ?_
      by_cases hkey : pair.1 = key
      · obtain rfl : entry = pair.2 := Option.some.inj (hfind.symm.trans (hentry hmem hkey))
        simp [hkey, hfresh]
      · simp [hkey]

/-- What is left once a batch of keys has been gone through. -/
theorem sweepBatch_entries (c : Cache V) (now removed : Nat) (keys : List String) :
    (sweepBatch now (c, removed) keys).1.entries =
      c.entries.filter fun pair => decide (pair.1 ∉ keys) || c.isFresh now pair.2 := by
  induction keys generalizing c removed with
  | nil => simp [sweepBatch]
  | cons key keys ih =>
    have hfirst := c.removeExpired_entries now removed key
    have hrest := ih (removeExpired now (c, removed) key).1 (removeExpired now (c, removed) key).2
    have hfresh := isFresh_congr (removeExpired_ttl now (c, removed) key) now
    have hbatch : sweepBatch now (c, removed) (key :: keys) =
        sweepBatch now (removeExpired now (c, removed) key) keys := rfl
    rw [hbatch, hrest, hfirst, List.filter_filter]
    refine List.filter_congr fun pair _ => ?_
    rw [hfresh pair.2]
    cases c.isFresh now pair.2 with
    | true => simp
    | false => simp [Bool.and_comm]

/-- What is left once a sweep has gone through all its batches. -/
theorem sweep_entries (c : Cache V) (now : Nat) :
    (c.sweep now).1.entries = c.entries.filter fun pair => c.isFresh now pair.2 := by
  rw [sweep_eq_sweepBatch, sweepBatch_entries]
  refine List.filter_congr fun pair hmem => ?_
  by_cases hfresh : c.isFresh now pair.2 = true
  · simp [hfresh]
  · have hexpired := mem_expiredKeys_of_find? c (find?_of_mem hmem) (Bool.eq_false_iff.mpr hfresh)
    simp [hexpired, hfresh]

/-- One entry goes with its key. -/
theorem exists_erase_eq {key : String} {entry : CacheEntry V}
    (hentry : c.find? key = some entry) :
    ∃ before after, c.entries = before ++ (key, entry) :: after ∧
      (c.erase key).entries = before ++ after := by
  obtain ⟨before, after, hentries⟩ := List.append_of_mem (mem_entries_of_find? hentry)
  refine ⟨before, after, hentries, ?_⟩
  have hkeys := c.keysUnique
  rw [hentries, List.map_append, List.map_cons] at hkeys
  have hbefore : before.filter (·.1 ≠ key) = before := by
    refine List.filter_eq_self.mpr fun pair hpair => decide_eq_true ?_
    rintro rfl
    exact List.disjoint_of_nodup_append hkeys (List.mem_map_of_mem hpair) List.mem_cons_self
  have hafter : after.filter (·.1 ≠ key) = after := by
    refine List.filter_eq_self.mpr fun pair hpair => decide_eq_true ?_
    intro hkey
    have hrest := (List.nodup_append.mp hkeys).2.1
    exact (List.nodup_cons.mp hrest).1 (List.mem_map.mpr ⟨pair, hpair, hkey⟩)
  rw [entries_erase, hentries, List.filter_append, List.filter_cons_of_neg (by simp), hbefore,
    hafter]

/-- The entries that a batch counts are those that it takes away. -/
theorem sweepBatch_count (c : Cache V) (now removed : Nat) (keys : List String) :
    (sweepBatch now (c, removed) keys).2 + (sweepBatch now (c, removed) keys).1.size =
      removed + c.size := by
  induction keys generalizing c removed with
  | nil => rfl
  | cons key keys ih =>
    have hbatch : sweepBatch now (c, removed) (key :: keys) =
        sweepBatch now (removeExpired now (c, removed) key) keys := rfl
    have hrest := ih (removeExpired now (c, removed) key).1 (removeExpired now (c, removed) key).2
    rw [hbatch, hrest]
    unfold removeExpired
    cases hentry : c.find? key with
    | none => rfl
    | some entry =>
      by_cases hfresh : c.isFresh now entry = true
      · simp only [hfresh, if_true]
      · obtain ⟨before, after, hentries, herased⟩ := exists_erase_eq hentry
        simp only [if_neg hfresh, size, hentries, herased, List.length_append, List.length_cons]
        omega

theorem sweep_count (c : Cache V) (now : Nat) :
    (c.sweep now).2 + (c.sweep now).1.size = c.size := by
  rw [sweep_eq_sweepBatch, sweepBatch_count, Nat.zero_add]

/-- A second sweep at the same instant finds nothing to remove. -/
theorem sweep_sweep (c : Cache V) (now : Nat) :
    (c.sweep now).1.sweep now = ((c.sweep now).1, 0) := by
  have hentries : ((c.sweep now).1.sweep now).1.entries = (c.sweep now).1.entries := by
    rw [sweep_entries, sweep_entries, List.filter_filter]
    refine List.filter_congr fun pair _ => ?_
    rw [isFresh_congr (c.sweep_ttl now), Bool.and_self]
  have hcache : ((c.sweep now).1.sweep now).1 = (c.sweep now).1 :=
    Cache.ext ((c.sweep now).1.sweep_ttl now) hentries
  have hcount := (c.sweep now).1.sweep_count now
  rw [hcache] at hcount
  exact Prod.ext hcache (by simp only; omega)

end Cache

/-! ### Caches in use -/

namespace CacheSession

theorem tick_pruned (s : CacheSession V) : s.cache.PrunedTo s.tick.cache := by
  unfold tick
  cases s.collector with
  | none => exact .refl s.cache
  | some collector => exact s.cache.sweep_pruned collector.nextTick

theorem ticks_pruned (n : Nat) (s : CacheSession V) : s.cache.PrunedTo (ticks n s).cache := by
  induction n generalizing s with
  | zero => exact .refl s.cache
  | succ n ih => exact s.tick_pruned.trans (ih s.tick)

/-- An event writes one entry, or none is left but some of those that there were. -/
theorem apply_cache (s : CacheSession V) (event : CacheEvent V) :
    s.cache.PrunedTo (s.apply event).2.cache ∨
      ∃ key value, (s.apply event).2.cache = s.cache.write s.now key value := by
  cases event with
  | advance ms => exact Or.inl (ticks_pruned (s.ticksUntil (s.now + ms)) s)
  | lookup key cancelled =>
    rcases s.lookup_cases key cancelled with ⟨_, -, h⟩ | ⟨-, -, h⟩ | ⟨-, -, h⟩
    all_goals exact Or.inl (by rw [apply, h]; exact .refl s.cache)
  | finish flight cancelled answer =>
    rcases s.finish_cases flight cancelled answer with
      ⟨-, h⟩ | ⟨_, -, -, h⟩ | ⟨_, _, -, -, -, h⟩ | ⟨key, value, -, -, -, h⟩
    · exact Or.inl (by rw [apply, h]; exact .refl s.cache)
    · exact Or.inl (by rw [apply, h]; exact .refl s.cache)
    · exact Or.inl (by rw [apply, h]; exact .refl s.cache)
    · exact Or.inr ⟨key, value, by rw [apply, h]; rfl⟩
  | update key value => exact Or.inr ⟨key, value, rfl⟩
  | delete key => exact Or.inl (s.cache.erase_pruned key)
  | shutdown => exact Or.inl ⟨rfl, List.nil_sublist s.cache.entries⟩
  | sweep => exact Or.inl (s.cache.sweep_pruned s.now)
  | startCollector interval =>
    obtain ⟨collector, notices, h⟩ := s.startCollector_eq interval
    exact Or.inl (by rw [apply, h]; exact .refl s.cache)
  | stopCollector =>
    obtain ⟨collector, notices, h⟩ := s.stopCollector_eq
    exact Or.inl (by rw [apply, h]; exact .refl s.cache)

/-- From one session to another, entries are gone or have been written. -/
structure GoesOn (s s' : CacheSession V) : Prop where
  now : s.now ≤ s'.now
  ttl : s'.cache.ttl = s.cache.ttl
  entry : ∀ key entry, s'.cache.find? key = some entry →
    s.cache.find? key = some entry ∨ s.now ≤ entry.written

theorem GoesOn.of_pruned {s s' : CacheSession V} (hnow : s.now ≤ s'.now)
    (hpruned : s.cache.PrunedTo s'.cache) : s.GoesOn s' := by
  refine ⟨hnow, hpruned.ttl, ?_⟩
  intro key entry hentry
  exact Or.inl (hpruned.within.entry key entry hentry)

theorem apply_goesOn (s : CacheSession V) (event : CacheEvent V) :
    s.GoesOn (s.apply event).2 := by
  have hnow : s.now ≤ (s.apply event).2.now := by
    rw [apply_now]
    exact Nat.le_add_right _ _
  rcases s.apply_cache event with hpruned | ⟨key, value, hwritten⟩
  · exact .of_pruned hnow hpruned
  · have httl : (s.apply event).2.cache.ttl = s.cache.ttl := by rw [hwritten, Cache.ttl_write]
    refine ⟨hnow, httl, ?_⟩
    intro k entry hentry
    rw [hwritten, Cache.find?_write] at hentry
    by_cases hk : k = key
    · rw [if_pos hk] at hentry
      cases hentry
      exact Or.inr (Nat.le_refl s.now)
    · rw [if_neg hk] at hentry
      exact Or.inl hentry

end CacheSession

/-! ### Sweeps under way -/

/-- A cache in use while a sweep is under way. -/
structure SweptSession (V : Type) where
  session : CacheSession V
  started : Nat
  batches : List (List String)
  removed : Nat

/-- What happens while a sweep is under way. -/
inductive SweepMove (V : Type) where
  | batch
  | event (event : CacheEvent V)

/-- Starts a sweep: the expired keys are listed. -/
def CacheSession.beginSweep (s : CacheSession V) : SweptSession V :=
  ⟨s, s.now, s.cache.sweepBatches s.now, 0⟩

namespace SweptSession

def nextBatch (r : SweptSession V) : SweptSession V :=
  match r.batches with
  | [] => r
  | keys :: rest =>
    let (cache, removed) := Cache.sweepBatch r.started (r.session.cache, r.removed) keys
    ⟨{ r.session with cache }, r.started, rest, removed⟩

def move (r : SweptSession V) : SweepMove V → SweptSession V
  | .batch => r.nextBatch
  | .event event => { r with session := (r.session.apply event).2 }

def after (r : SweptSession V) (moves : List (SweepMove V)) : SweptSession V :=
  moves.foldl move r

/-- The entries that the sweep takes away in a move: they are there before it, and nothing is left
    under their keys. -/
def taken (r : SweptSession V) : SweepMove V → List (String × CacheEntry V)
  | .batch =>
    r.session.cache.entries.filter fun pair => (r.nextBatch.session.cache.find? pair.1).isNone
  | .event _ => []

/-- The entries that the sweep takes away in some moves. -/
def takenBy (r : SweptSession V) : List (SweepMove V) → List (String × CacheEntry V)
  | [] => []
  | move :: rest => r.taken move ++ (r.move move).takenBy rest

/-- A sweep that has started in a session, and what has come of both. -/
structure IsFrom (r : SweptSession V) (s : CacheSession V) : Prop where
  started : r.started = s.now
  now : s.now ≤ r.session.now
  ttl : r.session.cache.ttl = s.cache.ttl
  /-- Every entry was there at the start, or has been written since. -/
  entry : ∀ key entry, r.session.cache.find? key = some entry →
    s.cache.find? key = some entry ∨ s.now ≤ entry.written
  /-- What had expired at the start and is still there is yet to be gone through. -/
  pending : ∀ key entry, r.session.cache.find? key = some entry →
    s.cache.isFresh s.now entry = false → ∃ keys ∈ r.batches, key ∈ keys

theorem beginSweep_isFrom (s : CacheSession V) : s.beginSweep.IsFrom s := by
  refine ⟨rfl, Nat.le_refl s.now, rfl, fun _ _ hentry => Or.inl hentry, ?_⟩
  intro key entry hentry hexpired
  have hmem := s.cache.mem_expiredKeys_of_find? hentry hexpired
  rw [← chunksFrom_flatten Cache.batchSize Cache.batchSize (s.cache.expiredKeys s.now)] at hmem
  exact List.mem_flatten.mp hmem

section Steps

variable {r : SweptSession V} {s : CacheSession V}

/-- What happens besides a sweep: what is written after it has started has not expired then. -/
theorem IsFrom.goesOn (h : r.IsFrom s) (httl : 0 < s.cache.ttl) {session : CacheSession V}
    (hon : r.session.GoesOn session) : IsFrom { r with session } s := by
  refine ⟨h.started, Nat.le_trans h.now hon.now, hon.ttl.trans h.ttl, ?_, ?_⟩
  · intro key entry hentry
    rcases hon.entry key entry hentry with hold | hnew
    · exact h.entry key entry hold
    · exact Or.inr (Nat.le_trans h.now hnew)
  · intro key entry hentry hexpired
    rcases hon.entry key entry hentry with hold | hnew
    · exact h.pending key entry hold hexpired
    · rw [Cache.isFresh_of_written httl (Nat.le_trans h.now hnew)] at hexpired
      cases hexpired

theorem IsFrom.event (h : r.IsFrom s) (httl : 0 < s.cache.ttl) (event : CacheEvent V) :
    (r.move (.event event)).IsFrom s :=
  h.goesOn httl (r.session.apply_goesOn event)

theorem nextBatch_of_cons {keys : List String} {rest : List (List String)}
    (h : r.batches = keys :: rest) :
    r.nextBatch =
      ⟨{ r.session with
          cache := (Cache.sweepBatch r.started (r.session.cache, r.removed) keys).1 },
        r.started, rest, (Cache.sweepBatch r.started (r.session.cache, r.removed) keys).2⟩ := by
  rw [nextBatch, h]

theorem nextBatch_of_nil (h : r.batches = []) : r.nextBatch = r := by
  rw [nextBatch, h]

/-- A batch leaves what is under a key, unless that had expired when the sweep started. -/
theorem IsFrom.find?_nextBatch (h : r.IsFrom s) {key : String} {entry : CacheEntry V}
    (hentry : r.session.cache.find? key = some entry)
    (hfresh : s.cache.isFresh s.now entry = true) :
    r.nextBatch.session.cache.find? key = some entry := by
  cases hbatches : r.batches with
  | nil =>
    rw [nextBatch_of_nil hbatches]
    exact hentry
  | cons keys rest =>
    rw [nextBatch_of_cons hbatches]
    simp only [Cache.find?_sweepBatch, hentry, h.started]
    rw [Option.filter_some, Cache.isFresh_congr h.ttl, if_pos hfresh, ite_self]

theorem IsFrom.batch (h : r.IsFrom s) : r.nextBatch.IsFrom s := by
  cases hbatches : r.batches with
  | nil =>
    rw [nextBatch_of_nil hbatches]
    exact h
  | cons keys rest =>
    rw [nextBatch_of_cons hbatches]
    have hpruned := Cache.sweepBatch_pruned r.started (r.session.cache, r.removed) keys
    have hwithin := hpruned.within
    refine ⟨h.started, h.now, hpruned.ttl.trans h.ttl, ?_, ?_⟩
    · intro key entry hentry
      exact h.entry key entry (hwithin.entry key entry hentry)
    · intro key entry hentry hexpired
      obtain ⟨others, hothers, hkey⟩ :=
        h.pending key entry (hwithin.entry key entry hentry) hexpired
      rw [hbatches] at hothers
      rcases List.mem_cons.mp hothers with rfl | hothers
      · -- a batch leaves nothing under its keys that had expired
        simp only [Cache.find?_sweepBatch, if_pos hkey] at hentry
        have hfresh := (Option.filter_eq_some_iff.mp hentry).2
        rw [h.started, Cache.isFresh_congr h.ttl, hexpired] at hfresh
        cases hfresh
      · exact ⟨others, hothers, hkey⟩

theorem IsFrom.move (h : r.IsFrom s) (httl : 0 < s.cache.ttl) (move : SweepMove V) :
    (r.move move).IsFrom s := by
  cases move with
  | batch => exact h.batch
  | event event => exact h.event httl event

theorem IsFrom.after (h : r.IsFrom s) (httl : 0 < s.cache.ttl) (moves : List (SweepMove V)) :
    (r.after moves).IsFrom s := by
  induction moves generalizing r with
  | nil => exact h
  | cons move rest ih => exact ih (h.move httl move)

/-- What a batch takes away was there when the sweep started, and had expired. -/
theorem IsFrom.of_mem_taken (h : r.IsFrom s) (httl : 0 < s.cache.ttl) {move : SweepMove V}
    {key : String} {entry : CacheEntry V} (hmem : (key, entry) ∈ r.taken move) :
    s.cache.find? key = some entry ∧ s.cache.isFresh s.now entry = false := by
  cases move with
  | event event => cases hmem
  | batch =>
    obtain ⟨hentries, hgone⟩ := List.mem_filter.mp hmem
    have hentry := Cache.find?_of_mem hentries
    have hexpired : s.cache.isFresh s.now entry = false := by
      apply Bool.eq_false_iff.mpr
      intro hfresh
      rw [h.find?_nextBatch hentry hfresh] at hgone
      cases hgone
    refine ⟨(h.entry key entry hentry).resolve_right ?_, hexpired⟩
    intro hwritten
    rw [Cache.isFresh_of_written httl hwritten] at hexpired
    cases hexpired

theorem IsFrom.of_mem_takenBy (h : r.IsFrom s) (httl : 0 < s.cache.ttl)
    (moves : List (SweepMove V)) {key : String} {entry : CacheEntry V}
    (hmem : (key, entry) ∈ r.takenBy moves) :
    s.cache.find? key = some entry ∧ s.cache.isFresh s.now entry = false := by
  induction moves generalizing r with
  | nil => cases hmem
  | cons move rest ih =>
    rcases List.mem_append.mp hmem with hnow | hlater
    · exact h.of_mem_taken httl hnow
    · exact ih (h.move httl move) hlater

theorem taken_of_nil (hbatches : r.batches = []) : r.taken .batch = [] := by
  refine List.filter_eq_nil_iff.mpr fun pair hmem => ?_
  rw [nextBatch_of_nil hbatches, Cache.find?_of_mem hmem]
  exact Bool.false_ne_true

/-- A batch takes away what it does not leave. -/
theorem taken_of_cons {keys : List String} {rest : List (List String)}
    (hbatches : r.batches = keys :: rest) :
    r.taken .batch = r.session.cache.entries.filter fun pair =>
      !(decide (pair.1 ∉ keys) || r.session.cache.isFresh r.started pair.2) := by
  refine List.filter_congr fun pair hmem => ?_
  rw [nextBatch_of_cons hbatches]
  simp only [Cache.find?_sweepBatch, Cache.find?_of_mem hmem]
  by_cases hkey : pair.1 ∈ keys
  · cases hfresh : r.session.cache.isFresh r.started pair.2 with
    | true => simp [hkey, Option.filter_some, hfresh]
    | false => simp [hkey, Option.filter_some, hfresh]
  · simp [hkey]

/-- A sweep counts what it takes away. -/
theorem removed_move (r : SweptSession V) (move : SweepMove V) :
    (r.move move).removed = r.removed + (r.taken move).length := by
  cases move with
  | event event => rfl
  | batch =>
    cases hbatches : r.batches with
    | nil =>
      rw [taken_of_nil hbatches]
      exact congrArg removed (nextBatch_of_nil hbatches)
    | cons keys rest =>
      have hmove : (r.move .batch).removed =
          (Cache.sweepBatch r.started (r.session.cache, r.removed) keys).2 :=
        congrArg removed (nextBatch_of_cons hbatches)
      have hcount := r.session.cache.sweepBatch_count r.started r.removed keys
      have hsplit := List.length_eq_length_filter_add (l := r.session.cache.entries)
        fun pair => decide (pair.1 ∉ keys) || r.session.cache.isFresh r.started pair.2
      rw [Cache.size, Cache.size, Cache.sweepBatch_entries] at hcount
      rw [hmove, taken_of_cons hbatches]
      omega

theorem removed_after (r : SweptSession V) (moves : List (SweepMove V)) :
    (r.after moves).removed = r.removed + (r.takenBy moves).length := by
  induction moves generalizing r with
  | nil => rfl
  | cons move rest ih =>
    have hlater := ih (r.move move)
    rw [removed_move] at hlater
    rw [takenBy, List.length_append, ← Nat.add_assoc]
    exact hlater

/-- With nothing in between, batches come one after another. -/
theorem after_replicate_batch (r : SweptSession V) :
    let swept := r.batches.foldl (Cache.sweepBatch r.started) (r.session.cache, r.removed)
    r.after (List.replicate r.batches.length .batch) =
      ⟨{ r.session with cache := swept.1 }, r.started, [], swept.2⟩ := by
  obtain ⟨session, started, batches, removed⟩ := r
  induction batches generalizing session removed with
  | nil => rfl
  | cons keys rest ih => exact ih _ _

end Steps

end SweptSession

/-- **A sweep removes the expired entries, and only those.**

* If nothing comes between its batches, it leaves just the entries that have not expired, unchanged,
  and tells by how many they are fewer.  Another sweep at the same instant finds none to remove.
* It goes through the expired keys in batches of at most 256, one after another.
* Whatever happens between its batches, if entries last at all: what a batch takes away was there,
  with the same value and instant, when the sweep started, and had expired by then.  So no entry
  goes that has been written since.  The sweep counts just what its own batches take away, and when
  it is through nothing is left that had expired when it started. -/
theorem CacheSession.sweep_batches (s : CacheSession V) :
    let swept := s.cache.sweep s.now
    let expired (entry : CacheEntry V) : Prop :=
      entry.written + s.cache.ttl < Cache.horizon ∧ entry.written + s.cache.ttl ≤ s.now
    (∀ key entry, swept.1.find? key = some entry ↔
        s.cache.find? key = some entry ∧ ¬ expired entry) ∧
    swept.2 + swept.1.size = s.cache.size ∧
    swept.1.sweep s.now = (swept.1, 0) ∧
    ((s.cache.sweepBatches s.now).flatten = s.cache.expiredKeys s.now ∧
      ∀ keys ∈ s.cache.sweepBatches s.now, keys.length ≤ 256) ∧
    s.beginSweep.after (List.replicate (s.cache.sweepBatches s.now).length .batch) =
      ⟨{ s with cache := swept.1 }, s.now, [], swept.2⟩ ∧
    (0 < s.cache.ttl → ∀ moves : List (SweepMove V),
      (∀ key entry, (key, entry) ∈ s.beginSweep.takenBy moves →
        s.cache.find? key = some entry ∧ expired entry) ∧
      (∀ earlier later, moves = earlier ++ .batch :: later → ∀ key entry,
        (s.beginSweep.after earlier).session.cache.find? key = some entry →
        s.now ≤ entry.written →
        (s.beginSweep.after (earlier ++ [.batch])).session.cache.find? key = some entry) ∧
      (s.beginSweep.after moves).removed = (s.beginSweep.takenBy moves).length ∧
      ((s.beginSweep.after moves).batches = [] → ∀ key entry,
        (s.beginSweep.after moves).session.cache.find? key = some entry → ¬ expired entry)) := by
  intro swept expired
  have hfresh (entry : CacheEntry V) : s.cache.isFresh s.now entry = true ↔ ¬ expired entry := by
    rw [Cache.isFresh_iff]
    simp only [expired]
    omega
  have hbegun := SweptSession.beginSweep_isFrom s
  refine ⟨?_, s.cache.sweep_count s.now, s.cache.sweep_sweep s.now, ⟨?_, ?_⟩, ?_, ?_⟩
  · intro key entry
    rw [Cache.find?_sweep, Option.filter_eq_some_iff, hfresh]
  · exact chunksFrom_flatten Cache.batchSize Cache.batchSize (s.cache.expiredKeys s.now)
  · intro keys hmem
    exact s.cache.length_le_of_mem_sweepBatches s.now hmem
  · exact SweptSession.after_replicate_batch s.beginSweep
  · intro httl moves
    refine ⟨?_, ?_, ?_, ?_⟩
    · intro key entry hmem
      obtain ⟨hentry, hexpired⟩ := hbegun.of_mem_takenBy httl moves hmem
      refine ⟨hentry, ?_⟩
      by_contra hnot
      rw [(hfresh entry).mpr hnot] at hexpired
      cases hexpired
    · rintro earlier later rfl key entry hentry hwritten
      have hsofar := hbegun.after httl earlier
      rw [SweptSession.after, List.foldl_append]
      exact hsofar.find?_nextBatch hentry (Cache.isFresh_of_written httl hwritten)
    · rw [SweptSession.removed_after]
      exact Nat.zero_add _
    · intro hdone key entry hentry
      rw [← hfresh entry]
      by_contra hexpired
      obtain ⟨keys, hmem, -⟩ := (hbegun.after httl moves).pending key entry hentry
        (Bool.eq_false_iff.mpr hexpired)
      rw [hdone] at hmem
      cases hmem

namespace CacheSession

/-- Of entries that do not last, a batch takes away even one that has been written since. -/
example :
    let s : CacheSession Nat := (CacheSession.start 0).update "a" 1
    (s.beginSweep.after [.event (.update "a" 2), .batch]).removed = 1 := by decide

/-- More entries than one batch has room for.  They expire now. -/
def crowded : CacheSession Nat :=
  { (start 10 : CacheSession Nat) with
    now := 10
    cache := {
      ttl := 10
      entries := (List.range 257).map fun n => (String.ofList (List.replicate n 'k'), ⟨n, 0⟩)
      keysUnique := by
        have hinjective : Function.Injective fun n => String.ofList (List.replicate n 'k') := by
          intro m n h
          have hlength := congrArg (fun text => text.toList.length) h
          simpa using hlength
        rw [List.map_map]
        exact List.nodup_range.map hinjective } }

/-- One entry is written again before the first batch, and one is deleted before the second. -/
def busyMoves : List (SweepMove Nat) :=
  [.event (.update "k" 7), .batch, .event (.delete "kk"), .event (.advance 3), .batch]

theorem sweep_batches_crowded :
    let taken := crowded.beginSweep.takenBy busyMoves
    0 < crowded.cache.ttl ∧
      (crowded.cache.sweepBatches crowded.now).length = 2 ∧
      (crowded.cache.sweep crowded.now).2 + (crowded.cache.sweep crowded.now).1.size = 257 ∧
      (crowded.beginSweep.after [.event (.update "k" 7), .batch]).session.cache.find? "k" =
        some ⟨7, 10⟩ ∧
      (∀ key entry, (key, entry) ∈ taken → crowded.cache.find? key = some entry) ∧
      (crowded.beginSweep.after busyMoves).removed = taken.length ∧
      ∀ key, (crowded.beginSweep.after [.batch, .batch]).session.cache.find? key ≠
        some ⟨256, 0⟩ := by
  intro taken
  have httl : 0 < crowded.cache.ttl := by decide
  have hbatches : (crowded.cache.sweepBatches crowded.now).length = 2 := by decide +kernel
  obtain ⟨-, hcount, -, -, hthrough, hamong⟩ := sweep_batches crowded
  obtain ⟨htaken, hkept, hremoved, -⟩ := hamong httl busyMoves
  obtain ⟨-, -, -, hdone⟩ := hamong httl [.batch, .batch]
  have hwritten : (crowded.beginSweep.after [.event (.update "k" 7)]).session.cache.find? "k" =
      some ⟨7, 10⟩ := Cache.find?_write_self _ _ _ _
  have hsize : crowded.cache.size = 257 := by simp [crowded, Cache.size]
  refine ⟨httl, hbatches, hcount.trans hsize, ?_, ?_, hremoved, ?_⟩
  · have hnow : crowded.now = 10 := rfl
    have hsplit : busyMoves = [.event (.update "k" 7)] ++ .batch ::
      [.event (.delete "kk"), .event (.advance 3), .batch] := rfl
    have hstays := hkept _ _ hsplit "k" _ hwritten (Nat.le_of_eq hnow)
    rwa [List.cons_append, List.nil_append] at hstays
  · intro key entry hmem
    exact (htaken key entry hmem).1
  · intro key hentry
    rw [hbatches] at hthrough
    exact hdone (congrArg SweptSession.batches hthrough) key _ hentry ⟨by decide, by decide⟩

end CacheSession

end ImageFreshness
