/-!
# A cache with a time to live

`Cache` holds values under keys, each with the instant at which it was written.  A value is fresh
until its time to live has passed.  Times are in milliseconds.

Specification: section 4.3, what `get`, `update`, `delete` and `len` do to the entries.
-/

namespace ImageFreshness

structure CacheEntry (V : Type) where
  value : V
  written : Nat
  deriving DecidableEq, Repr

/-- Values under keys, with a time to live. -/
@[ext]
structure Cache (V : Type) where
  ttl : Nat
  entries : List (String × CacheEntry V)
  /-- No two entries are under one key. -/
  keysUnique : (entries.map Prod.fst).Nodup
  deriving DecidableEq, Repr

namespace Cache

variable {V : Type}

def empty (ttl : Nat) : Cache V := ⟨ttl, [], .nil⟩

def size (c : Cache V) : Nat := c.entries.length

def find? (c : Cache V) (key : String) : Option (CacheEntry V) := c.entries.lookup key

/-- The first instant that cannot be represented. -/
def horizon : Nat := 9223372036854775808000

def expiry? (c : Cache V) (entry : CacheEntry V) : Option Nat :=
  if entry.written + c.ttl < horizon then some (entry.written + c.ttl) else none

/-- Whether an entry has not expired.  One whose expiry cannot be represented never does. -/
def isFresh (c : Cache V) (now : Nat) (entry : CacheEntry V) : Bool :=
  match c.expiry? entry with
  | some expiry => now < expiry
  | none => true

def fresh? (c : Cache V) (now : Nat) (key : String) : Option V :=
  match c.find? key with
  | some entry => if c.isFresh now entry then some entry.value else none
  | none => none

def erase (c : Cache V) (key : String) : Cache V where
  ttl := c.ttl
  entries := c.entries.filter (·.1 ≠ key)
  keysUnique := c.keysUnique.sublist (List.filter_sublist.map Prod.fst)

theorem entries_erase (c : Cache V) (key : String) :
    (c.erase key).entries = c.entries.filter (·.1 ≠ key) := rfl

theorem notMem_keys_erase (c : Cache V) (key : String) :
    key ∉ (c.erase key).entries.map Prod.fst := by
  intro hmem
  obtain ⟨pair, hpair, hkey⟩ := List.mem_map.mp hmem
  simp [entries_erase, hkey] at hpair

/-- The cache with a value under a key, in place of any other. -/
def write (c : Cache V) (now : Nat) (key : String) (value : V) : Cache V where
  ttl := c.ttl
  entries := (key, ⟨value, now⟩) :: (c.erase key).entries
  keysUnique := List.nodup_cons.mpr ⟨c.notMem_keys_erase key, (c.erase key).keysUnique⟩

def clear (c : Cache V) : Cache V := .empty c.ttl

end Cache

end ImageFreshness
