import SmbBrowser.Handle
import SmbBrowser.Workbench.Registry

/-! Working with handles by hand: named connections, and handles on resources that record their closing. -/

namespace SmbBrowser

/-- What a handle shows of itself. -/
structure HandleView where
  /-- How many references are outstanding. -/
  refs : Nat
  /-- The resource was closed. -/
  closed : Bool
  /-- The handle is open and held, on the connection that it was made on. -/
  valid : Bool
  /-- The connection's generation when the handle was made. -/
  generation : Option Nat
  /-- The handle remembers where it was made. -/
  traced : Bool
  /-- Why the handle cannot be used, if it cannot. -/
  usable : Except Fault Unit
  /-- The resource's name in the log. -/
  description : String

/-- What a handle shows of itself, seen from its connection. -/
def Handle.view {Resource : Type} (handle : Handle Resource) (link : Option Link)
    (description : String) : HandleView :=
  { refs := handle.refs
    closed := handle.closed
    valid := handle.isValid link
    generation := handle.generation
    traced := handle.traced
    usable := handle.ensureValid link
    description }

/-- A resource that records its closing. -/
structure RecordedResource where
  /-- Its name. -/
  name : String
  /-- Why it cannot be closed cleanly, if it cannot. -/
  failure : Option Fault
  /-- The place of the connection it hangs on. -/
  link : Option Nat

/-- Connections and handles, the names for them, and what happened to them. -/
structure HandleBench where
  /-- Every connection ever made, unless it was dropped. -/
  links : Array (Option Link) := #[]
  /-- The names for connections. -/
  linkNames : Registry Nat := {}
  /-- Every handle ever made. -/
  handles : Array (Handle RecordedResource) := #[]
  /-- The names for handles; several may stand for the same handle. -/
  handleNames : Registry Nat := {}
  /-- The resources closed so far, by name. -/
  closes : Array String := #[]
  /-- What happened so far. -/
  log : Array Event := #[]

/-- What can be done with connections and handles. -/
inductive HandleStep where
  /-- Makes a connection. -/
  | connect (name : String) (link : Link)
  /-- Changes what is given of a connection. -/
  | change (name : String) (generation : Option Nat) (connected : Option Bool)
  /-- Drops a connection, whatever still hangs on it. -/
  | disconnect (name : String)
  /-- Makes a handle. -/
  | make (name : String) (link : Option String) (traced : Bool) (failure : Option Fault)
  /-- Acquires a handle under a further name. -/
  | acquire (name further : String)
  /-- Releases a handle. -/
  | release (name : String)
  /-- Looks at a handle. -/
  | view (name : String)
  /-- Forgets a name without a release. -/
  | forget (name : String)

/-- What comes of it. -/
inductive HandleAnswer where
  /-- It is done. -/
  | done
  /-- It failed. -/
  | failed (fault : Fault)
  /-- Whether there was such a name. -/
  | had (found : Bool)
  /-- The handle as it is now. -/
  | shown (view : HandleView)
  /-- There is no such name. -/
  | unknownName

namespace HandleBench

/-- Writes an event to the log. -/
def note (bench : HandleBench) (event : Event) : HandleBench :=
  { bench with log := bench.log.push event }

/-- A recorded resource as it is named in the log. -/
def describe (resource : RecordedResource) : String := "res " ++ resource.name

/-- Stores a handle at its place. -/
def put (bench : HandleBench) (place : Nat) (handle : Handle RecordedResource) : HandleBench :=
  { bench with handles := bench.handles.setIfInBounds place handle }

/-- The place and the handle that a name stands for. -/
def find? (bench : HandleBench) (name : String) : Option (Nat × Handle RecordedResource) := do
  let place ← bench.handleNames.get? name
  return (place, ← bench.handles[place]?)

/-- The connection that a handle was made on, while it is there. -/
def linkOf (bench : HandleBench) (handle : Handle RecordedResource) : Option Link := do
  bench.links[← handle.resource.link]?.join

/-- What a handle shows of itself. -/
def view (bench : HandleBench) (handle : Handle RecordedResource) : HandleAnswer :=
  .shown (handle.view (bench.linkOf handle) (describe handle.resource))

/-- Where a handle lives: closing its resource is recorded, and may fail. -/
def home (place : Nat) : Handle.Home RecordedResource HandleBench where
  put handle bench := bench.put place handle
  note event bench := bench.note event
  describe resource _ := describe resource
  close resource bench :=
    (match resource.failure with
      | none => .ok ()
      | some fault => .error fault,
      { bench with closes := bench.closes.push resource.name })

/-- Drops a connection; its place stays empty. -/
def dropLink (bench : HandleBench) (name : String) : HandleBench :=
  match bench.linkNames.get? name with
  | none => bench
  | some place =>
    { bench with
      links := bench.links.setIfInBounds place none
      linkNames := bench.linkNames.erase name }

/-- Forgets a name; a handle that is held but has no name any more is reported. -/
def forgetName (bench : HandleBench) (name : String) : HandleBench :=
  match bench.find? name with
  | none => bench
  | some (place, handle) =>
    let handle := handle.forget
    let bench := { bench with handleNames := bench.handleNames.erase name }.put place handle
    if handle.keepers = 0 && handle.isLeaked then
      bench.note (.handleLeaked (describe handle.resource) handle.refs handle.traced)
    else bench

/-- Gives a handle a name, which stands for nothing else any more. -/
def bind (bench : HandleBench) (name : String) (place : Nat) : HandleBench :=
  let bench := bench.forgetName name
  { bench with handleNames := bench.handleNames.put name place }

/-- Makes a handle, on a connection if one is named. -/
def make (bench : HandleBench) (name : String) (link : Option String) (traced : Bool)
    (failure : Option Fault) : HandleAnswer × HandleBench :=
  let place := link.map bench.linkNames.get?
  if place = some none then (.unknownName, bench)
  else
    let resource : RecordedResource := { name, failure, link := place.join }
    let made : Handle RecordedResource := { resource, traced }
    let handle := { made with generation := (bench.linkOf made).map (·.generation) }
    let bench := { bench with handles := bench.handles.push handle }
    (bench.view handle, bench.bind name (bench.handles.size - 1))

/-- Acquires a handle under a further name. -/
def acquire (bench : HandleBench) (name further : String) : HandleAnswer × HandleBench :=
  match bench.find? name with
  | none => (.unknownName, bench)
  | some (place, handle) =>
    match handle.acquire with
    | .error fault => (.failed fault, bench)
    | .ok handle => (bench.view handle, (bench.put place handle).bind further place)

/-- Does one thing. -/
def step (bench : HandleBench) : HandleStep → HandleAnswer × HandleBench
  | .connect name link =>
    let bench := bench.dropLink name
    (.done,
      { bench with
        links := bench.links.push (some link)
        linkNames := bench.linkNames.put name bench.links.size })
  | .change name generation connected =>
    match bench.linkNames.get? name with
    | none => (.unknownName, bench)
    | some place =>
      let changed (link : Link) : Link :=
        ⟨generation.getD link.generation, connected.getD link.connected⟩
      (.done, { bench with links := bench.links.modify place (·.map changed) })
  | .disconnect name => (.had (bench.linkNames.get? name).isSome, bench.dropLink name)
  | .make name link traced failure => bench.make name link traced failure
  | .acquire name further => bench.acquire name further
  | .release name =>
    match bench.find? name with
    | none => (.unknownName, bench)
    | some (place, handle) =>
      match handle.release (home place) bench with
      | (.ok (), bench) => (.done, bench)
      | (.error fault, bench) => (.failed fault, bench)
  | .view name =>
    match bench.find? name with
    | none => (.unknownName, bench)
    | some (_, handle) => (bench.view handle, bench)
  | .forget name => (.had (bench.find? name).isSome, bench.forgetName name)

/-- The outstanding references of the handle under each name. -/
def refCounts (bench : HandleBench) : List (String × Nat) :=
  bench.handleNames.names.filterMap fun name =>
    (bench.find? name).map fun (_, handle) => (name, handle.refs)

end HandleBench

end SmbBrowser
