/-!
# A cache whose entries expire

Entries are looked up by a text and may carry a deadline. An entry is not removed when its
deadline passes, but when it is next asked for. Instants are milliseconds on one clock.
-/

namespace ForgeBoard

/-- A value and the last instant at which it counts; without one it counts for ever. -/
structure CacheEntry (α : Type) where
  value : α
  deadline : Option Nat

namespace CacheEntry

variable {α : Type}

def isExpired (now : Nat) (e : CacheEntry α) : Bool :=
  match e.deadline with
  | some deadline => decide (deadline < now)
  | none => false

end CacheEntry

/-- Entries by key; no key occurs twice. -/
structure TtlCache (α : Type) where
  entries : List (String × CacheEntry α)

namespace TtlCache

variable {α : Type}

def empty : TtlCache α := ⟨[]⟩

/-- The number of entries, those past their deadline included. -/
def size (cache : TtlCache α) : Nat :=
  cache.entries.length

def isEmpty (cache : TtlCache α) : Bool :=
  cache.entries.isEmpty

/-- The entry of a key, expired or not. -/
def entry? (cache : TtlCache α) (key : String) : Option (CacheEntry α) :=
  cache.entries.lookup key

/-- The cache without a key. -/
def erase (cache : TtlCache α) (key : String) : TtlCache α :=
  ⟨cache.entries.filter fun e => e.1 != key⟩

/-- The cache with an entry in place of what the key had. -/
def put (cache : TtlCache α) (key : String) (e : CacheEntry α) : TtlCache α :=
  ⟨(key, e) :: (cache.erase key).entries⟩

/-- The value of a key, if it has not expired, and the cache after the look-up. -/
def get (cache : TtlCache α) (now : Nat) (key : String) : Option α × TtlCache α :=
  match cache.entry? key with
  | none => (none, cache)
  | some e => if e.isExpired now then (none, cache.erase key) else (some e.value, cache)

/-- The last instant of the clock: 2^63 - 1 seconds and 999 milliseconds. -/
def lastInstant : Nat := 9223372036854775807 * 1000 + 999

/-- Stores a value that expires `ttl` milliseconds later, or never if the clock cannot tell. -/
def set (cache : TtlCache α) (now : Nat) (key : String) (value : α) (ttl : Nat) : TtlCache α :=
  cache.put key ⟨value, if now + ttl ≤ lastInstant then some (now + ttl) else none⟩

/-- Stores a value that never expires. -/
def setPermanent (cache : TtlCache α) (key : String) (value : α) : TtlCache α :=
  cache.put key ⟨value, none⟩

end TtlCache

end ForgeBoard
