import ImageFreshness.Cache.Basic

/-!
# Sweeping a cache

A sweep removes the expired entries.  It first lists their keys and then removes them batch by
batch; other operations may come in between, so every key is looked at again before it goes.

Specification: section 5, the sweep of the garbage collector.
-/

namespace ImageFreshness

/-- Cuts a list into pieces of `size` elements, the first of which has room for `room` more. -/
def chunksFrom {α : Type} (size : Nat) : Nat → List α → List (List α)
  | _, [] => [[]]
  | 0, x :: xs => [] :: push x (chunksFrom size (size - 1) xs)
  | room + 1, x :: xs => push x (chunksFrom size room xs)
where
  push (x : α) : List (List α) → List (List α)
    | [] => [[x]]
    | piece :: rest => (x :: piece) :: rest

namespace Cache

variable {V : Type}

def batchSize : Nat := 256

def expiredKeys (c : Cache V) (now : Nat) : List String :=
  (c.entries.filter fun entry => !c.isFresh now entry.2).map (·.1)

def sweepBatches (c : Cache V) (now : Nat) : List (List String) :=
  chunksFrom batchSize batchSize (c.expiredKeys now)

/-- Removes the entry under a key if it has expired, and counts it. -/
def removeExpired (now : Nat) (state : Cache V × Nat) (key : String) : Cache V × Nat :=
  match state.1.find? key with
  | some entry => if state.1.isFresh now entry then state else (state.1.erase key, state.2 + 1)
  | none => state

/-- Removes the entries of a batch that have expired at the start of the sweep, and counts
    them. -/
def sweepBatch (now : Nat) (state : Cache V × Nat) (keys : List String) : Cache V × Nat :=
  keys.foldl (removeExpired now) state

def sweep (c : Cache V) (now : Nat) : Cache V × Nat :=
  (c.sweepBatches now).foldl (sweepBatch now) (c, 0)

end Cache

end ImageFreshness
