import ImageFreshness.Cache.Sweep
import ImageFreshness.Proofs.Lists

/-!
# Entries of a cache

What each operation on a cache does to the entry under a key.  An entry is always seen through
`find?`, so nothing here depends on the order in which a cache keeps its entries.

A sweep goes through the expired keys in batches and looks at every key again before it removes
it.  `find?_sweep` says what comes of that: an entry stays exactly if it is fresh.
-/

namespace ImageFreshness

theorem chunksFrom_flatten {α : Type} (size room : Nat) (xs : List α) :
    (chunksFrom size room xs).flatten = xs := by
  have hpush (x : α) (pieces : List (List α)) :
      (chunksFrom.push x pieces).flatten = x :: pieces.flatten := by
    cases pieces <;> simp [chunksFrom.push]
  induction xs generalizing room with
  | nil => simp [chunksFrom]
  | cons x xs ih =>
    cases room with
    | zero => simp [chunksFrom, hpush, ih]
    | succ room => simp [chunksFrom, hpush, ih]

namespace Cache

variable {V : Type} (c : Cache V)

/-! ### Single operations -/

@[simp] theorem find?_clear (k : String) : c.clear.find? k = none := rfl

theorem find?_erase (key k : String) :
    (c.erase key).find? k = if k = key then none else c.find? k :=
  lookup_filter_ne c.entries key k

theorem find?_write (now : Nat) (key k : String) (value : V) :
    (c.write now key value).find? k = if k = key then some ⟨value, now⟩ else c.find? k := by
  show List.lookup k ((key, _) :: (c.erase key).entries) = _
  rw [List.lookup_cons]
  by_cases hk : k = key
  · simp [hk]
  · rw [beq_false_of_ne hk, if_neg hk]
    exact (c.find?_erase key k).trans (if_neg hk)

@[simp] theorem find?_write_self (now : Nat) (key : String) (value : V) :
    (c.write now key value).find? key = some ⟨value, now⟩ := by
  simp [find?_write]

@[simp] theorem ttl_write (now : Nat) (key : String) (value : V) :
    (c.write now key value).ttl = c.ttl := rfl

/-! ### Freshness -/

/-- An entry is fresh while its time to live has not passed, and for ever if the end of that
    cannot be represented. -/
theorem isFresh_iff (now : Nat) (entry : CacheEntry V) :
    c.isFresh now entry = true ↔
      now < entry.written + c.ttl ∨ horizon ≤ entry.written + c.ttl := by
  unfold isFresh expiry?
  by_cases h : entry.written + c.ttl < horizon
  · simp [h, Nat.not_le.mpr h]
  · simp [h, Nat.not_lt.mp h]

/-- Freshness depends on nothing else of a cache than its time to live. -/
theorem isFresh_congr {c c' : Cache V} (h : c.ttl = c'.ttl) (now : Nat) (entry : CacheEntry V) :
    c.isFresh now entry = c'.isFresh now entry := by
  simp only [isFresh, expiry?, h]

theorem fresh?_eq_some {now : Nat} {key : String} {value : V} :
    c.fresh? now key = some value ↔
      ∃ entry, c.find? key = some entry ∧ c.isFresh now entry = true ∧ entry.value = value := by
  unfold fresh?
  cases h : c.find? key with
  | none => simp
  | some entry => simp

/-! ### Sweeps -/

theorem removeExpired_ttl (now : Nat) (state : Cache V × Nat) (key : String) :
    (removeExpired now state key).1.ttl = state.1.ttl := by
  unfold removeExpired
  split
  · split <;> rfl
  · rfl

theorem find?_removeExpired (now : Nat) (state : Cache V × Nat) (key k : String) :
    (removeExpired now state key).1.find? k =
      if k = key then (state.1.find? k).filter (state.1.isFresh now) else state.1.find? k := by
  unfold removeExpired
  cases hentry : state.1.find? key with
  | none =>
    by_cases hk : k = key
    · subst hk
      simp [hentry]
    · simp [hk]
  | some entry =>
    by_cases hfresh : state.1.isFresh now entry = true
    · by_cases hk : k = key
      · subst hk
        simp [hentry, hfresh, Option.filter_some]
      · simp [hfresh, hk]
    · by_cases hk : k = key
      · subst hk
        simp [find?_erase, hentry, hfresh, Option.filter_some]
      · simp [find?_erase, hfresh, hk]

theorem sweepBatch_ttl (now : Nat) (state : Cache V × Nat) (keys : List String) :
    (sweepBatch now state keys).1.ttl = state.1.ttl := by
  unfold sweepBatch
  induction keys generalizing state with
  | nil => rfl
  | cons key keys ih => rw [List.foldl_cons, ih, removeExpired_ttl]

/-- A batch removes the entries under its keys that had expired at an instant. -/
theorem find?_sweepBatch (now : Nat) (state : Cache V × Nat) (keys : List String) (k : String) :
    (sweepBatch now state keys).1.find? k =
      if k ∈ keys then (state.1.find? k).filter (state.1.isFresh now) else state.1.find? k := by
  unfold sweepBatch
  induction keys generalizing state with
  | nil => simp
  | cons key keys ih =>
    have hfresh : (removeExpired now state key).1.isFresh now = state.1.isFresh now :=
      funext (isFresh_congr (removeExpired_ttl now state key) now)
    rw [List.foldl_cons, ih, hfresh, find?_removeExpired]
    by_cases hk : k = key
    · by_cases hkeys : k ∈ keys
      · simp [hk, Option.filter_filter]
      · simp [hk]
    · simp [hk]

/-- A sweep is one large batch. -/
theorem sweep_eq_sweepBatch (now : Nat) :
    c.sweep now = sweepBatch now (c, 0) (c.expiredKeys now) := by
  unfold sweep sweepBatches
  have h (batches : List (List String)) (state : Cache V × Nat) :
      batches.foldl (sweepBatch now) state = sweepBatch now state batches.flatten := by
    induction batches generalizing state with
    | nil => rfl
    | cons batch batches ih => simp [ih, sweepBatch]
  rw [h, chunksFrom_flatten]

@[simp] theorem sweep_ttl (now : Nat) : (c.sweep now).1.ttl = c.ttl := by
  rw [sweep_eq_sweepBatch, sweepBatch_ttl]

theorem mem_expiredKeys_of_find? {now : Nat} {key : String} {entry : CacheEntry V}
    (hentry : c.find? key = some entry) (hexpired : c.isFresh now entry = false) :
    key ∈ c.expiredKeys now := by
  obtain ⟨before, after, hentries, -⟩ := List.lookup_eq_some_iff.mp hentry
  refine List.mem_map.mpr ⟨(key, entry), List.mem_filter.mpr ⟨?_, by simp [hexpired]⟩, rfl⟩
  simp [hentries]

/-- A sweep keeps exactly the fresh entries. -/
theorem find?_sweep (now : Nat) (k : String) :
    (c.sweep now).1.find? k = (c.find? k).filter (c.isFresh now) := by
  rw [sweep_eq_sweepBatch, find?_sweepBatch]
  cases hentry : c.find? k with
  | none => simp
  | some entry =>
    by_cases hfresh : c.isFresh now entry = true
    · simp [hfresh, Option.filter_some]
    · have hmem := c.mem_expiredKeys_of_find? hentry (by simpa using hfresh)
      simp [hmem]

/-! ### Caches with fewer entries -/

/-- Every entry of the first cache is one of the second, which has the same time to live. -/
structure Within (c c' : Cache V) : Prop where
  ttl : c.ttl = c'.ttl
  entry : ∀ key entry, c.find? key = some entry → c'.find? key = some entry

variable {c} {c' c'' : Cache V}

theorem Within.refl (c : Cache V) : c.Within c := ⟨rfl, fun _ _ h => h⟩

theorem Within.trans (h : c.Within c') (h' : c'.Within c'') : c.Within c'' :=
  ⟨h.ttl.trans h'.ttl, fun key entry hentry => h'.entry key entry (h.entry key entry hentry)⟩

theorem erase_within (c : Cache V) (key : String) : (c.erase key).Within c := by
  refine ⟨rfl, ?_⟩
  intro k entry hentry
  rw [find?_erase] at hentry
  by_cases hk : k = key
  · simp [hk] at hentry
  · simpa [hk] using hentry

theorem clear_within (c : Cache V) : c.clear.Within c := by
  refine ⟨rfl, ?_⟩
  intro k entry hentry
  simp at hentry

theorem sweepBatch_within (c : Cache V) (now : Nat) (keys : List String) :
    (sweepBatch now (c, 0) keys).1.Within c := by
  refine ⟨sweepBatch_ttl now (c, 0) keys, ?_⟩
  intro k entry hentry
  rw [find?_sweepBatch] at hentry
  by_cases hk : k ∈ keys
  · simp only [if_pos hk] at hentry
    exact Option.eq_some_of_filter_eq_some hentry
  · simpa only [if_neg hk] using hentry

theorem sweep_within (c : Cache V) (now : Nat) : (c.sweep now).1.Within c := by
  rw [sweep_eq_sweepBatch]
  exact c.sweepBatch_within now _

end Cache

end ImageFreshness
