import SmbBrowser.ScratchPool
import SmbBrowser.Workbench.Registry

/-! Working with a scratch pool by hand: named buffers that are owned, and named buffers on loan. -/

namespace SmbBrowser

/-- A pool and the buffers that are out of it. -/
structure BufferBench where
  /-- The pool. -/
  pool : ScratchPool
  /-- The buffers that their holder has to give back. -/
  owned : Registry Buffer := {}
  /-- The buffers that go back by themselves. -/
  lent : Registry Buffer := {}
  /-- What happened so far. -/
  log : Array Event := #[]

/-- What can be done with a pool. -/
inductive BufferStep where
  /-- Takes a buffer from the pool. -/
  | take (name : String)
  /-- Makes a buffer without the pool. -/
  | make (name : String) (length : Nat) (byte : UInt8)
  /-- Borrows a buffer from the pool. -/
  | borrow (name : String)
  /-- Ends the loan of a buffer. -/
  | endLoan (name : String)
  /-- Writes a byte to one position, or to all. -/
  | write (name : String) (position : Option Nat) (byte : UInt8)
  /-- Looks at a buffer. -/
  | read (name : String)
  /-- Gives an owned buffer back. -/
  | giveBack (name : String)

/-- What comes of it. -/
inductive BufferAnswer where
  /-- The buffer as it is now. -/
  | shown (buffer : Buffer)
  /-- Whether there was such a buffer. -/
  | had (found : Bool)
  /-- The position lies behind the end of the buffer. -/
  | outOfRange
  /-- There is no such buffer. -/
  | unknownName
  deriving DecidableEq

namespace BufferBench

/-- The buffer under a name, be it owned or on loan. -/
def buffer? (bench : BufferBench) (name : String) : Option Buffer :=
  (bench.owned.get? name).or (bench.lent.get? name)

/-- Puts a changed buffer where it was. -/
def update (bench : BufferBench) (name : String) (buffer : Buffer) : BufferBench :=
  if (bench.owned.get? name).isSome then { bench with owned := bench.owned.put name buffer }
  else { bench with lent := bench.lent.put name buffer }

/-- Lets the pool have a buffer. -/
def accept (bench : BufferBench) (buffer : Buffer) : BufferBench :=
  let (event, pool) := bench.pool.giveBack buffer
  { bench with pool, log := bench.log ++ event.toList }

/-- Ends a loan, if there is one. -/
def endLoan (bench : BufferBench) (name : String) : BufferAnswer × BufferBench :=
  match bench.lent.get? name with
  | none => (.had false, bench)
  | some buffer => (.had true, { bench with lent := bench.lent.erase name }.accept buffer)

/-- Writes a byte to one position, or to all. -/
def write (bench : BufferBench) (name : String) (position : Option Nat) (byte : UInt8) :
    BufferAnswer × BufferBench :=
  match bench.buffer? name, position with
  | none, _ => (.unknownName, bench)
  | some buffer, none =>
    let buffer := buffer.map fun _ => byte
    (.shown buffer, bench.update name buffer)
  | some buffer, some position =>
    if position < buffer.size then
      let buffer := buffer.setIfInBounds position byte
      (.shown buffer, bench.update name buffer)
    else (.outOfRange, bench)

/-- Does one thing. -/
def step (bench : BufferBench) : BufferStep → BufferAnswer × BufferBench
  | .take name =>
    let (buffer, pool) := bench.pool.take
    (.shown buffer, { bench with pool, owned := bench.owned.put name buffer })
  | .make name length byte =>
    let buffer := Array.replicate length byte
    (.shown buffer, { bench with owned := bench.owned.put name buffer })
  | .borrow name =>
    let (buffer, pool) := bench.pool.take
    -- A loan under the same name ends when the new one begins.
    let bench := (endLoan { bench with pool } name).2
    (.shown buffer, { bench with lent := bench.lent.put name buffer })
  | .endLoan name => bench.endLoan name
  | .write name position byte => bench.write name position byte
  | .read name =>
    match bench.buffer? name with
    | none => (.unknownName, bench)
    | some buffer => (.shown buffer, bench)
  | .giveBack name =>
    match bench.owned.get? name with
    | none => (.had false, bench)
    | some buffer => (.had true, { bench with owned := bench.owned.erase name }.accept buffer)

/-- The bench behind some steps, taken one after the other. -/
def run (steps : List BufferStep) (bench : BufferBench) : BufferBench :=
  steps.foldl (fun bench step => (bench.step step).2) bench

end BufferBench

end SmbBrowser
