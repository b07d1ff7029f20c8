import SmbBrowser.Event
import SmbBrowser.Settings

/-! A bounded store of zeroed buffers of one size, lent out for the time of a request. -/

namespace SmbBrowser

/-- A scratch buffer. -/
abbrev Buffer := Array UInt8

/-- A buffer of zeros. -/
def Buffer.zeroed (size : Nat) : Buffer := Array.replicate size 0

/-- A store of idle buffers. -/
structure ScratchPool where
  /-- How many idle buffers are kept at most. -/
  capacity : Nat
  /-- The size of every buffer. -/
  bufferSize : Nat
  /-- The places for idle buffers, which need not be taken in order. -/
  slots : List (Option Buffer) := List.replicate capacity none
  /-- How many places are taken, counted apart from them. -/
  free : Nat := 0

namespace ScratchPool

/-- The pool that settings ask for. -/
def ofSettings (settings : Settings) : ScratchPool :=
  { capacity := settings.bufferCacheSize.toNat, bufferSize := settings.maxBufferSize.toNat }

/-- Empties the first place that is taken. -/
def takeFirst : List (Option Buffer) → Option (Buffer × List (Option Buffer))
  | [] => none
  | some buffer :: slots => some (buffer, none :: slots)
  | none :: slots => (takeFirst slots).map fun (buffer, slots) => (buffer, none :: slots)

/-- Fills the first place that is empty. -/
def fillFirst (buffer : Buffer) : List (Option Buffer) → Option (List (Option Buffer))
  | [] => none
  | none :: slots => some (some buffer :: slots)
  | some taken :: slots => (fillFirst buffer slots).map (some taken :: ·)

/-- Takes an idle buffer, or makes one when none is idle. -/
def take (pool : ScratchPool) : Buffer × ScratchPool :=
  let fresh := Buffer.zeroed pool.bufferSize
  if 0 < pool.free then
    match takeFirst pool.slots with
    | some (buffer, slots) => (buffer, { pool with slots, free := pool.free - 1 })
    | none => (fresh, pool)
  else (fresh, pool)

/-- Zeroes a buffer of the right size and keeps it while there is room; the event tells of a wrong size. -/
def giveBack (pool : ScratchPool) (buffer : Buffer) : Option Event × ScratchPool :=
  if buffer.size ≠ pool.bufferSize then (some (.foreignBuffer buffer.size pool.bufferSize), pool)
  else if pool.slots.length ≤ pool.free then (none, pool)
  else
    match fillFirst (.zeroed buffer.size) pool.slots with
    | some slots => (none, { pool with slots, free := pool.free + 1 })
    | none => (none, pool)

end ScratchPool

end SmbBrowser
