import SmbBrowser.Event

/-!
Counted handles on what a server holds open: the release that gives back the last reference closes
the resource, once, and a handle made on one connection is worth nothing on the next.
-/

namespace SmbBrowser

/-- The state of the connection that a handle was made on. -/
structure Link where
  /-- Rises with every new connection. -/
  generation : Nat
  /-- The connection can be used. -/
  connected : Bool
  deriving DecidableEq

/-- A handle on a resource. -/
structure Handle (Resource : Type) where
  /-- What is held open. -/
  resource : Resource
  /-- How many references are outstanding. -/
  refs : Nat := 1
  /-- The resource was closed. -/
  closed : Bool := false
  /-- The connection's generation when the handle was made, if it was made on a connection. -/
  generation : Option Nat := none
  /-- The handle remembers where it was made. -/
  traced : Bool := false
  /-- How many places still know the handle, whether or not they hold a reference. -/
  keepers : Nat := 1

namespace Handle

variable {Resource World : Type}

/-- A handle is valid while it is open and held, on the connection that it was made on. -/
def isValid (handle : Handle Resource) (link : Option Link) : Bool :=
  !handle.closed && handle.refs ≠ 0 &&
    match handle.generation with
    | none => true
    | some generation => link.any fun link => link.generation = generation && link.connected

/-- A handle that is not valid tells whether it was closed or its connection was reset. -/
def ensureValid (handle : Handle Resource) (link : Option Link) : Except Fault Unit :=
  if handle.closed then .error .handleClosed
  else if handle.isValid link then .ok ()
  else .error .connectionReset

/-- One more reference, held by one more place; a closed handle never opens again. -/
def acquire (handle : Handle Resource) : Except Fault (Handle Resource) :=
  if handle.closed then .error .handleClosed
  else .ok { handle with refs := handle.refs + 1, keepers := handle.keepers + 1 }

/-- One more place that knows the handle, without a reference of its own. -/
def keep (handle : Handle Resource) : Handle Resource :=
  { handle with keepers := handle.keepers + 1 }

/-- One place fewer that knows the handle. -/
def forget (handle : Handle Resource) : Handle Resource :=
  { handle with keepers := handle.keepers - 1 }

/-- A handle nobody knows any more although references are outstanding. -/
def isLeaked (handle : Handle Resource) : Bool := !handle.closed && handle.refs ≠ 0

/-- Where a handle lives: how it is stored, what is logged, and how its resource is described and closed. -/
structure Home (Resource World : Type) where
  /-- Stores the handle. -/
  put : Handle Resource → World → World
  /-- Writes to the log. -/
  note : Event → World → World
  /-- Names the resource in the log. -/
  describe : Resource → World → String
  /-- Closes the resource. -/
  close : Resource → World → Except Fault Unit × World

/-- Gives one reference back; giving back the last one closes the resource. -/
def release (home : Home Resource World) (handle : Handle Resource) (world : World) :
    Except Fault Unit × World :=
  if handle.refs = 0 then
    -- Nobody holds the handle: the release is reported and changes nothing.
    (.ok (), home.note (.releaseUnderflow (home.describe handle.resource world) handle.closed) world)
  else if handle.refs = 1 then
    let world := home.put { handle with refs := 0, closed := true } world
    home.close handle.resource
      (home.note (.handleClosing (home.describe handle.resource world)) world)
  else (.ok (), home.put { handle with refs := handle.refs - 1 } world)

end Handle

end SmbBrowser
